import Clawhip.Lib.Machine
import Clawhip.Lib.OrdMap
import Clawhip.Lib.Text

/-!
# The Discord watch

`src/discord_watch.rs`: messages of watched channels and of owners are counted, mentions are kept until they
are answered, and a message that has a reason becomes an intent to nudge, which is appended to the intents
file before the state is saved.
-/

namespace Clawhip.DiscordWatch

structure DiscordWatchChannel where
  id : String
  name : String

structure DiscordWatchConfig where
  enabled : Bool := true
  watched_channels : List DiscordWatchChannel := []
  banned_channel_ids : List String := []
  banned_channel_names : List String := []
  gaebal_gajae_user_id : String
  owner_user_ids : List String := []
  nudge_target_channel_id : Option String := none
  pending_mentions_threshold : ℕ := 5
  direct_mention_persist_ms : ℤ := 600000
  channel_message_threshold : ℕ := 100
  global_cooldown_ms : ℤ
  channel_cooldown_ms : ℤ
  doctrine_template : String := ""

structure DiscordMessageCreateEvent where
  message_id : String
  channel_id : String
  channel_name : Option String := none
  author_id : String
  content : String := ""
  mentions : List String := []
  direct_message : Bool := false
  author_is_owner : Bool := false
  timestamp_ms : Option ℤ := none

structure NudgeIntent where
  id : String
  created_at_ms : ℤ
  reasons : List String
  source_channel_id : String
  source_channel_name : String
  nudge_target_channel_id : Option String
  content : String
  local_only : Bool
  metadata : OrdMap String String

structure ChannelState where
  channel_name : Option String := none
  new_messages_since_gaebal : ℕ := 0
  last_gaebal_activity_at_ms : Option ℤ := none
  last_nudge_at_ms : Option ℤ := none
  recent_message_ids : List String := []

structure PendingMention where
  message_id : String
  channel_id : String
  author_id : String
  first_seen_at_ms : ℤ
  direct : Bool

structure DiscordWatchState where
  channels : OrdMap String ChannelState := []
  pending_mentions : OrdMap String PendingMention := []
  global_last_nudge_at_ms : Option ℤ := none

/-! ## Channels and owners -/

section

variable (config : DiscordWatchConfig)

def watchedChannelName (channel_id : String) : Option String :=
  (config.watched_channels.find? fun channel => channel.id == channel_id).map DiscordWatchChannel.name

/-- `trim_start_matches('#')`. -/
def trimHashes (name : String) : String := String.ofList (name.toList.dropWhile (· == '#'))

def isBannedChannelName (name : String) : Bool :=
  let normalized := trimHashes (Text.trim name)
  config.banned_channel_names.any fun banned =>
    Text.toAsciiLowercase (trimHashes (Text.trim banned)) == Text.toAsciiLowercase normalized

def isBanned (message : DiscordMessageCreateEvent) : Bool :=
  config.banned_channel_ids.any (· == message.channel_id) ||
    (message.channel_name.toList ++ (watchedChannelName config message.channel_id).toList).any
      (isBannedChannelName config)

def isOwner (message : DiscordMessageCreateEvent) : Bool :=
  message.author_is_owner || config.owner_user_ids.any (· == message.author_id)

def mentionsGaebal (message : DiscordMessageCreateEvent) : Bool :=
  message.mentions.any (· == config.gaebal_gajae_user_id) ||
    Text.contains message.content ("<@" ++ config.gaebal_gajae_user_id ++ ">")

def containsKeywordSignal (content : String) : Bool :=
  let normalized := Text.toAsciiLowercase content
  ["?", "question", "error", "failed", "failure", "setup", "install", "help"].any
    (Text.contains normalized)

/-- The message is of a watched channel, or direct and of an owner or a mention. -/
def isHeeded (message : DiscordMessageCreateEvent) : Bool :=
  (watchedChannelName config message.channel_id).isSome ||
    (message.direct_message && isOwner config message) ||
    (message.direct_message && mentionsGaebal config message)

def channelNameOf (message : DiscordMessageCreateEvent) : String :=
  (watchedChannelName config message.channel_id).getD (message.channel_name.getD "direct-message")

/-! ## Cooldowns and counts -/

def inCooldown (state : DiscordWatchState) (channel_id : String) (now_ms : ℤ) : Bool :=
  state.global_last_nudge_at_ms.any (fun last => decide (now_ms - last < config.global_cooldown_ms)) ||
    ((state.channels.get channel_id).bind ChannelState.last_nudge_at_ms).any fun last =>
      decide (now_ms - last < config.channel_cooldown_ms)

def MAX_RECENT_MESSAGE_IDS : ℕ := 256

/-- `record_recent_message_id`: the channel, and whether the message is new to it. -/
def recordRecentMessageId (channel : ChannelState) (message_id : String) : ChannelState × Bool :=
  if channel.recent_message_ids.any (· == message_id) then (channel, false)
  else
    let recent := channel.recent_message_ids ++ [message_id]
    ({ channel with recent_message_ids := recent.drop (recent.length - MAX_RECENT_MESSAGE_IDS) }, true)

/-- `state.channels.entry(id).or_default()`, and what is done to the entry. -/
def DiscordWatchState.update (state : DiscordWatchState) (channel_id : String)
    (f : ChannelState → ChannelState) : DiscordWatchState :=
  { state with
    channels := state.channels.insert channel_id (f ((state.channels.get channel_id).getD {})) }

def resetChannelForGaebalActivity (state : DiscordWatchState) (channel_id : String) (now_ms : ℤ) :
    DiscordWatchState :=
  { state.update channel_id fun channel =>
      { channel with new_messages_since_gaebal := 0, last_gaebal_activity_at_ms := some now_ms } with
    pending_mentions := state.pending_mentions.filter fun entry => entry.2.channel_id != channel_id }

def countMessage (message : DiscordMessageCreateEvent) (count_for_t3 : Bool) (channel : ChannelState) :
    ChannelState :=
  let (channel, new_message) := recordRecentMessageId
    { channel with channel_name := some (channelNameOf config message) } message.message_id
  if count_for_t3 && new_message then
    { channel with new_messages_since_gaebal := channel.new_messages_since_gaebal + 1 }
  else channel

/-- The state with the message counted, if its channel is watched. -/
def counted (state : DiscordWatchState) (message : DiscordMessageCreateEvent) (now_ms : ℤ) :
    DiscordWatchState :=
  if (watchedChannelName config message.channel_id).isSome then
    state.update message.channel_id
      (countMessage config message !(inCooldown config state message.channel_id now_ms))
  else state

def pendingMention (message : DiscordMessageCreateEvent) (now_ms : ℤ) : PendingMention where
  message_id := message.message_id
  channel_id := message.channel_id
  author_id := message.author_id
  first_seen_at_ms := message.timestamp_ms.getD now_ms
  direct := message.direct_message

def withMention (state : DiscordWatchState) (message : DiscordMessageCreateEvent) (now_ms : ℤ) :
    DiscordWatchState :=
  if mentionsGaebal config message && (state.pending_mentions.get message.message_id).isNone then
    { state with
      pending_mentions :=
        state.pending_mentions.insert message.message_id (pendingMention message now_ms) }
  else state

/-! ## Reasons -/

def t1PendingMentions (state : DiscordWatchState) : Bool :=
  decide (config.pending_mentions_threshold ≤ (state.pending_mentions.values.filter fun pending =>
    (watchedChannelName config pending.channel_id).isSome).length)

def t2UnansweredDirectMention (state : DiscordWatchState) (now_ms : ℤ) : Bool :=
  state.pending_mentions.values.any fun pending =>
    pending.direct && decide (config.direct_mention_persist_ms ≤ now_ms - pending.first_seen_at_ms)

def t3ChannelBacklog (state : DiscordWatchState) (channel_id : String) : Bool :=
  (state.channels.get channel_id).any fun channel =>
    decide (config.channel_message_threshold ≤ channel.new_messages_since_gaebal)

/-- The reasons for a nudge, in the order of the set that collects them. -/
def reasonsFor (state : DiscordWatchState) (message : DiscordMessageCreateEvent) (now_ms : ℤ) :
    List String :=
  let watched := (watchedChannelName config message.channel_id).isSome
  let owner_direct := message.direct_message && isOwner config message
  [("direct-gaebal-mention", message.direct_message && mentionsGaebal config message),
    ("keyword-signal", watched && containsKeywordSignal message.content),
    ("owner-direct-message", owner_direct),
    ("owner-watched-message", !owner_direct && isOwner config message && watched),
    ("t1-pending-mentions", t1PendingMentions config state),
    ("t2-unanswered-direct-mention", t2UnansweredDirectMention config state now_ms),
    ("t3-channel-backlog", t3ChannelBacklog config state message.channel_id)].filterMap
      fun (reason, holds) => if holds then some reason else none

/-! ## Intents -/

def renderNudgeContent (channel_id channel_name : String) : String :=
  Text.replace (Text.replace config.doctrine_template "{channel_id}" channel_id) "{channel_name}"
    channel_name

def intentId (channel_id message_id : String) (reasons : List String) : String :=
  "discord-watch-" ++ channel_id ++ "-" ++ message_id ++ "-" ++ "+".intercalate reasons

/-- The state after a nudge. -/
def nudged (state : DiscordWatchState) (message : DiscordMessageCreateEvent) (now_ms : ℤ)
    (reasons : List String) : DiscordWatchState :=
  ({ state with global_last_nudge_at_ms := some now_ms } : DiscordWatchState).update message.channel_id
    fun channel =>
      { channel with
        channel_name := some (channelNameOf config message)
        last_nudge_at_ms := some now_ms
        new_messages_since_gaebal :=
          if reasons.any (· == "t3-channel-backlog") then 0 else channel.new_messages_since_gaebal }

def nudgeIntent (message : DiscordMessageCreateEvent) (now_ms : ℤ) (reasons : List String) :
    NudgeIntent where
  id := intentId message.channel_id message.message_id reasons
  created_at_ms := now_ms
  reasons := reasons
  source_channel_id := message.channel_id
  source_channel_name := channelNameOf config message
  nudge_target_channel_id := config.nudge_target_channel_id
  content := renderNudgeContent config message.channel_id (channelNameOf config message)
  local_only := true
  metadata := [("contract", "discord-watch.nudge-intent.v1"), ("delivery", "local-only")]

/-- The state when the reasons are looked for: the message is counted, and its mention kept. -/
def noted (state : DiscordWatchState) (message : DiscordMessageCreateEvent) (now_ms : ℤ) :
    DiscordWatchState :=
  withMention config (counted config state message now_ms) message now_ms

def processMessage (state : DiscordWatchState) (message : DiscordMessageCreateEvent) (now_ms : ℤ) :
    DiscordWatchState × Option NudgeIntent :=
  if message.author_id = config.gaebal_gajae_user_id then
    (resetChannelForGaebalActivity state message.channel_id now_ms, none)
  else if isBanned config message then (state, none)
  else if !(isHeeded config message) then (state, none)
  else
    let state := noted config state message now_ms
    let reasons := reasonsFor config state message now_ms
    if reasons.isEmpty || inCooldown config state message.channel_id now_ms then (state, none)
    else (nudged config state message now_ms reasons, some (nudgeIntent config message now_ms reasons))

end

/-! ## The files -/

/-- A line of the intents file, with the message that it is for. -/
structure Line where
  message : DiscordMessageCreateEvent
  intent : NudgeIntent

/-- The state file, and the lines of the intents file, the last one first. -/
structure Files where
  state : DiscordWatchState := {}
  lines : List Line := []

/-- How far a call gets: the state is loaded, the line is written, its append comes out well, and the state
file is replaced. -/
structure Fate where
  loads : Bool := true
  writes : Bool := true
  appends : Bool := true
  saves : Bool := true

/-- A call of `handle_local_intent_event` with a message. -/
structure Delivery where
  message : DiscordMessageCreateEvent
  now_ms : ℤ
  fate : Fate := {}

def intentAlreadyPersisted (lines : List Line) (intent_id : String) : Bool :=
  lines.any fun line => line.intent.id == intent_id

/-- `append_intent`: the lines, and whether it came out well. -/
def appendIntent (lines : List Line) (message : DiscordMessageCreateEvent) (intent : NudgeIntent)
    (fate : Fate) : List Line × Bool :=
  if intentAlreadyPersisted lines intent.id then (lines, fate.appends)
  else if fate.writes then (⟨message, intent⟩ :: lines, fate.appends)
  else (lines, false)

def handleLocalIntentEvent (config : DiscordWatchConfig) (files : Files) (delivery : Delivery) : Files :=
  if config.enabled = false then files
  else if delivery.fate.loads = false then files
  else
    let (state, intent) := processMessage config files.state delivery.message delivery.now_ms
    let (lines, appended) := match intent with
      | some intent => appendIntent files.lines delivery.message intent delivery.fate
      | none => (files.lines, true)
    { state := if appended && delivery.fate.saves then state else files.state
      lines := lines }

/-- The calls as a machine over the files. -/
def watching (config : DiscordWatchConfig) : Machine Files Delivery Unit where
  step files delivery := (handleLocalIntentEvent config files delivery, ())

/-- The files after some calls. -/
def filesAfter (config : DiscordWatchConfig) (deliveries : List Delivery) : Files := (watching config).run {} deliveries

end Clawhip.DiscordWatch
