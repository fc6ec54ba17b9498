import Clawhip.DiscordWatch.Watch
import Mathlib.Algebra.Order.Group.Int

/-!
# Nudges are spaced

Over every run of calls in which no line is written without its state, a message that has a line is not nudged
for other reasons, and a message that comes again finds everything as it left it: the intents file gets one
line at most for a message, the lines keep the cooldowns, and the messages that come again change no count and
no pending mention.
-/

namespace Clawhip.DiscordWatch

open List Option

variable (config : DiscordWatchConfig)

/-! ## What is to hold -/

/-- One line at most for every message, the lines keep the cooldowns, and none is of a banned channel. -/
structure Spaced (lines : List Line) : Prop where
  once : (lines.map fun line => line.message.message_id).Nodup
  global : lines.Pairwise fun later earlier =>
    later.intent.created_at_ms - earlier.intent.created_at_ms ≥ config.global_cooldown_ms
  channel : lines.Pairwise fun later earlier =>
    later.intent.source_channel_id = earlier.intent.source_channel_id →
      later.intent.created_at_ms - earlier.intent.created_at_ms ≥ config.channel_cooldown_ms
  allowed : ∀ line ∈ lines, isBanned config line.message = false ∧
    line.intent.source_channel_id = line.message.channel_id

/-- The messages that were counted in a channel. -/
def countOf (state : DiscordWatchState) (channel_id : String) : ℕ :=
  ((state.channels.get channel_id).map ChannelState.new_messages_since_gaebal).getD 0

/-- The message comes again. -/
def Redelivered (earlier : List Delivery) (delivery : Delivery) : Prop :=
  ∃ before ∈ earlier, before.message.message_id = delivery.message.message_id

/-- A nudge is due for a message. -/
structure Due (state : DiscordWatchState) (message : DiscordMessageCreateEvent) (now_ms : ℤ) : Prop where
  author : message.author_id ≠ config.gaebal_gajae_user_id
  allowed : isBanned config message = false
  heeded : isHeeded config message = true
  reasons : reasonsFor config (noted config state message now_ms) message now_ms ≠ []
  cooldown : inCooldown config state message.channel_id now_ms = false

/-- A message leaves the counts and the pending mentions alone: one of the bot's finds nothing to reset, and
another one that is heeded is known to its channel or is not counted, is no mention or still pending, and is
not nudged for a backlog that there is. -/
def Quiet (state : DiscordWatchState) (message : DiscordMessageCreateEvent) (now_ms : ℤ) : Prop :=
  if message.author_id = config.gaebal_gajae_user_id then
    countOf state message.channel_id = 0 ∧ ∀ entry ∈ state.pending_mentions, entry.2.channel_id ≠ message.channel_id
  else isBanned config message = false → isHeeded config message = true →
    ((watchedChannelName config message.channel_id).isSome = true →
      inCooldown config state message.channel_id now_ms = false →
      ∃ channel, state.channels.get message.channel_id = some channel ∧
        message.message_id ∈ channel.recent_message_ids) ∧
    (mentionsGaebal config message = true → (state.pending_mentions.get message.message_id).isSome = true) ∧
    (inCooldown config state message.channel_id now_ms = false →
      t3ChannelBacklog config (noted config state message now_ms) message.channel_id = true →
      countOf state message.channel_id = 0)

/-- In a run no line is written without its state, no message that has a line is nudged for other reasons, and
a message that comes again is quiet. -/
structure Orderly (deliveries : List Delivery) : Prop where
  saved : ∀ earlier delivery later, deliveries = earlier ++ delivery :: later →
    Due config (filesAfter config earlier).state delivery.message delivery.now_ms →
    delivery.fate.loads = true → delivery.fate.writes = true →
    delivery.fate.appends = true ∧ delivery.fate.saves = true
  reasons : ∀ earlier delivery later, deliveries = earlier ++ delivery :: later →
    Due config (filesAfter config earlier).state delivery.message delivery.now_ms →
    ∀ line ∈ (filesAfter config earlier).lines, line.message.message_id = delivery.message.message_id →
      line.message.channel_id = delivery.message.channel_id ∧
        line.intent.reasons = reasonsFor config (noted config (filesAfter config earlier).state
          delivery.message delivery.now_ms) delivery.message delivery.now_ms
  redelivered : ∀ earlier delivery later, deliveries = earlier ++ delivery :: later →
    Redelivered earlier delivery →
    Quiet config (filesAfter config earlier).state delivery.message delivery.now_ms

/-- The clock does not go back. -/
def Forward (deliveries : List Delivery) : Prop :=
  deliveries.Pairwise fun earlier later => earlier.now_ms ≤ later.now_ms

variable {config} {state : DiscordWatchState} {message : DiscordMessageCreateEvent} {now_ms : ℤ}
  {channel_id : String}

/-! ## What a message leaves alone -/

/-- The time of the last nudge of a channel. -/
def lastNudge (state : DiscordWatchState) (channel_id : String) : Option ℤ :=
  (state.channels.get channel_id).bind ChannelState.last_nudge_at_ms

theorem get_update (state : DiscordWatchState) (id : String) (f : ChannelState → ChannelState) :
    (state.update id f).channels.get channel_id =
      if channel_id = id then some (f ((state.channels.get id).getD {})) else state.channels.get channel_id :=
  OrdMap.get_insert _ _ _ _

variable {f : ChannelState → ChannelState} {clock : ℤ} {files : Files} {reasons : List String} {id : String}

theorem lastNudge_update (hf : ∀ channel, (f channel).last_nudge_at_ms = channel.last_nudge_at_ms) :
    lastNudge (state.update id f) channel_id = lastNudge state channel_id := by
  unfold lastNudge
  rw [get_update]
  split_ifs with hsame
  · subst hsame
    rw [bind_some, hf]
    cases state.channels.get channel_id <;> rfl
  · rfl

theorem countMessage_last_nudge (count_for_t3 : Bool) (channel : ChannelState) :
    (countMessage config message count_for_t3 channel).last_nudge_at_ms = channel.last_nudge_at_ms := by
  unfold countMessage recordRecentMessageId
  simp only
  split_ifs <;> rfl

theorem counted_global (state : DiscordWatchState) (message : DiscordMessageCreateEvent) (now_ms : ℤ) :
    (counted config state message now_ms).global_last_nudge_at_ms = state.global_last_nudge_at_ms := by
  unfold counted
  split_ifs <;> rfl

theorem noted_global (state : DiscordWatchState) (message : DiscordMessageCreateEvent) (now_ms : ℤ) :
    (noted config state message now_ms).global_last_nudge_at_ms = state.global_last_nudge_at_ms := by
  unfold noted withMention
  split_ifs <;> exact counted_global state message now_ms

theorem noted_channels (state : DiscordWatchState) (message : DiscordMessageCreateEvent) (now_ms : ℤ) :
    (noted config state message now_ms).channels = (counted config state message now_ms).channels := by
  unfold noted withMention
  split_ifs <;> rfl

theorem lastNudge_noted : lastNudge (noted config state message now_ms) channel_id = lastNudge state channel_id := by
  have hchannels : lastNudge (noted config state message now_ms) channel_id =
      lastNudge (counted config state message now_ms) channel_id := by
    unfold lastNudge
    rw [noted_channels]
  rw [hchannels]
  unfold counted
  split_ifs
  · exact lastNudge_update (countMessage_last_nudge _)
  · rfl

theorem inCooldown_noted : inCooldown config (noted config state message now_ms) channel_id now_ms =
    inCooldown config state channel_id now_ms := by
  have hlast := @lastNudge_noted config state message now_ms channel_id
  unfold lastNudge at hlast
  unfold inCooldown
  rw [noted_global, hlast]

/-! ## A message -/

/-- Either no nudge is due and the times of the nudges stay, or one is due and is noted at this time. -/
theorem processMessage_cases (config : DiscordWatchConfig) (state : DiscordWatchState)
    (message : DiscordMessageCreateEvent) (now_ms : ℤ) : ((processMessage config state message now_ms).2 = none ∧
      (processMessage config state message now_ms).1.global_last_nudge_at_ms = state.global_last_nudge_at_ms ∧
      ∀ channel_id, lastNudge (processMessage config state message now_ms).1 channel_id =
        lastNudge state channel_id) ∨ (Due config state message now_ms ∧ processMessage config state message now_ms =
        (nudged config (noted config state message now_ms) message now_ms
            (reasonsFor config (noted config state message now_ms) message now_ms),
          some (nudgeIntent config message now_ms
            (reasonsFor config (noted config state message now_ms) message now_ms)))) := by
  unfold processMessage
  by_cases hauthor : message.author_id = config.gaebal_gajae_user_id
  · rw [if_pos hauthor]
    refine .inl ⟨rfl, rfl, fun channel_id => ?_⟩
    have hupdate : lastNudge (state.update message.channel_id fun channel =>
        { channel with new_messages_since_gaebal := 0, last_gaebal_activity_at_ms := some now_ms })
        channel_id = lastNudge state channel_id := lastNudge_update fun _ => rfl
    exact hupdate
  rw [if_neg hauthor]
  cases hbanned : isBanned config message with
  | true => exact .inl ⟨rfl, rfl, fun _ => rfl⟩
  | false =>
    cases hheeded : isHeeded config message with
    | false => exact .inl ⟨rfl, rfl, fun _ => rfl⟩
    | true =>
      simp only [Bool.not_true, Bool.false_eq_true, if_false]
      split_ifs with hnone
      · exact .inl ⟨rfl, noted_global state message now_ms, fun _ => lastNudge_noted⟩
      · rw [Bool.or_eq_true, not_or, inCooldown_noted, List.isEmpty_iff] at hnone
        exact .inr ⟨⟨hauthor, hbanned, hheeded, hnone.1, Bool.eq_false_iff.mpr hnone.2⟩, rfl⟩

variable {last : ℤ}

theorem cooldown_global (h : inCooldown config state channel_id now_ms = false)
    (hlast : state.global_last_nudge_at_ms = some last) : now_ms - last ≥ config.global_cooldown_ms := by
  unfold inCooldown at h
  rw [Bool.or_eq_false_iff, hlast] at h
  have hnot := of_decide_eq_false h.1
  omega

theorem cooldown_channel (h : inCooldown config state channel_id now_ms = false)
    (hlast : lastNudge state channel_id = some last) : now_ms - last ≥ config.channel_cooldown_ms := by
  unfold lastNudge at hlast
  unfold inCooldown at h
  rw [Bool.or_eq_false_iff, hlast] at h
  have hnot := of_decide_eq_false h.2
  omega

variable (config) in
/-- The lines are spaced, and the state knows of a nudge that is no earlier than any line, of all channels and
of the line's own. -/
structure Kept (files : Files) (clock : ℤ) : Prop where
  spaced : Spaced config files.lines
  global : ∀ line ∈ files.lines, ∃ last, files.state.global_last_nudge_at_ms = some last ∧
    line.intent.created_at_ms ≤ last
  channel : ∀ line ∈ files.lines, ∃ last,
    lastNudge files.state line.intent.source_channel_id = some last ∧ line.intent.created_at_ms ≤ last
  ids : ∀ line ∈ files.lines,
    line.intent.id = intentId line.message.channel_id line.message.message_id line.intent.reasons
  past : ∀ last, files.state.global_last_nudge_at_ms = some last → last ≤ clock
  channels_past : ∀ channel_id last, lastNudge files.state channel_id = some last → last ≤ clock

theorem Kept.mono {clock' : ℤ} (h : Kept config files clock) (hle : clock ≤ clock') : Kept config files clock' :=
  { h with
    past := fun last hlast => (h.past last hlast).trans hle
    channels_past := fun channel_id last hlast => (h.channels_past channel_id last hlast).trans hle }

/-- The nudges stay as they were. -/
theorem Kept.with_state (h : Kept config files clock) {state : DiscordWatchState}
    (hglobal : state.global_last_nudge_at_ms = files.state.global_last_nudge_at_ms)
    (hchannels : ∀ channel_id, lastNudge state channel_id = lastNudge files.state channel_id) :
    Kept config { files with state := state } clock where
  spaced := h.spaced
  global := fun line hline => by simpa only [hglobal] using h.global line hline
  channel := fun line hline => by simpa only [hchannels] using h.channel line hline
  ids := h.ids
  past := fun last hlast => h.past last (hglobal ▸ hlast)
  channels_past := fun channel_id last hlast => h.channels_past channel_id last (hchannels channel_id ▸ hlast)

theorem lastNudge_nudged : lastNudge (nudged config state message now_ms reasons) channel_id =
      if channel_id = message.channel_id then some now_ms else lastNudge state channel_id := by
  unfold lastNudge nudged
  rw [get_update]
  split_ifs <;> rfl

section

variable (h : Kept config files clock)
include h

/-- A nudge is noted at a time that no line is later than. -/
theorem Kept.with_nudge (hclock : clock ≤ now_ms) (reasons : List String) : Kept config
      ⟨nudged config (noted config files.state message now_ms) message now_ms reasons, files.lines⟩ now_ms where
  spaced := h.spaced
  global := fun line hline => by
    obtain ⟨last, hlast, hle⟩ := h.global line hline
    exact ⟨now_ms, rfl, hle.trans ((h.past last hlast).trans hclock)⟩
  channel := fun line hline => by
    obtain ⟨last, hlast, hle⟩ := h.channel line hline
    simp only [lastNudge_nudged, lastNudge_noted]
    split_ifs
    · exact ⟨now_ms, rfl, hle.trans ((h.channels_past _ last hlast).trans hclock)⟩
    · exact ⟨last, hlast, hle⟩
  ids := h.ids
  past := fun last hlast => by
    obtain rfl := some.inj (show some now_ms = some last from hlast)
    exact le_rfl
  channels_past := fun channel_id last hlast => by
    simp only [lastNudge_nudged, lastNudge_noted] at hlast
    split_ifs at hlast
    · obtain rfl := some.inj hlast
      exact le_rfl
    · exact (h.channels_past channel_id last hlast).trans hclock

/-- A line is written for a message that has none, when a nudge is due. -/
theorem Kept.with_line (hclock : clock ≤ now_ms) (hdue : Due config files.state message now_ms)
    (hnew : ∀ line ∈ files.lines, line.message.message_id ≠ message.message_id) : Kept config
      { state := nudged config (noted config files.state message now_ms) message now_ms reasons
        lines := ⟨message, nudgeIntent config message now_ms reasons⟩ :: files.lines } now_ms := by
  have hnudged : Kept config
      ⟨nudged config (noted config files.state message now_ms) message now_ms reasons, files.lines⟩ now_ms :=
    h.with_nudge hclock reasons
  refine { hnudged with
    spaced := ⟨nodup_cons.mpr ⟨fun hmem => ?_, h.spaced.once⟩,
      pairwise_cons.mpr ⟨fun line hline => ?_, h.spaced.global⟩,
      pairwise_cons.mpr ⟨fun line hline hsame => ?_, h.spaced.channel⟩, fun line hline => ?_⟩
    global := fun line hline => ?_
    channel := fun line hline => ?_
    ids := fun line hline => ?_ }
  · obtain ⟨line, hline, hsame⟩ := mem_map.mp hmem
    exact hnew line hline hsame
  · obtain ⟨last, hlast, hle⟩ := h.global line hline
    have hspace := cooldown_global hdue.cooldown hlast
    show now_ms - line.intent.created_at_ms ≥ config.global_cooldown_ms
    omega
  · obtain ⟨last, hlast, hle⟩ := h.channel line hline
    rw [← show message.channel_id = line.intent.source_channel_id from hsame] at hlast
    have hspace := cooldown_channel hdue.cooldown hlast
    show now_ms - line.intent.created_at_ms ≥ config.channel_cooldown_ms
    omega
  · rcases mem_cons.mp hline with rfl | hline
    · exact ⟨hdue.allowed, rfl⟩
    · exact h.spaced.allowed line hline
  · rcases mem_cons.mp hline with rfl | hline
    · exact ⟨now_ms, rfl, le_rfl⟩
    · exact hnudged.global line hline
  · rcases mem_cons.mp hline with rfl | hline
    · exact ⟨now_ms, by rw [lastNudge_nudged]; exact if_pos rfl, le_rfl⟩
    · exact hnudged.channel line hline
  · rcases mem_cons.mp hline with rfl | hline
    · rfl
    · exact h.ids line hline

/-- What one call keeps. -/
theorem Kept.step (delivery : Delivery) (hclock : clock ≤ delivery.now_ms)
    (hsaved : Due config files.state delivery.message delivery.now_ms →
      delivery.fate.loads = true → delivery.fate.writes = true →
      delivery.fate.appends = true ∧ delivery.fate.saves = true)
    (hreasons : Due config files.state delivery.message delivery.now_ms →
      ∀ line ∈ files.lines, line.message.message_id = delivery.message.message_id →
        line.message.channel_id = delivery.message.channel_id ∧
        line.intent.reasons = reasonsFor config (noted config files.state delivery.message
          delivery.now_ms) delivery.message delivery.now_ms) :
    Kept config (handleLocalIntentEvent config files delivery) delivery.now_ms := by
  have hsame := h.mono hclock
  unfold handleLocalIntentEvent
  split_ifs with henabled hloads
  · exact hsame
  · exact hsame
  have hloads : delivery.fate.loads = true := by simpa using hloads
  rcases processMessage_cases config files.state delivery.message delivery.now_ms with
    ⟨hnone, hglobal, hchannels⟩ | ⟨hdue, hprocess⟩
  · generalize processMessage config files.state delivery.message delivery.now_ms = processed at *
    obtain ⟨state, intent⟩ := processed
    obtain rfl : intent = none := hnone
    simp only [Bool.true_and]
    split_ifs
    · exact hsame.with_state hglobal hchannels
    · exact hsame
  · rw [hprocess]
    simp only [appendIntent]
    set intent := nudgeIntent config delivery.message delivery.now_ms
      (reasonsFor config (noted config files.state delivery.message delivery.now_ms) delivery.message delivery.now_ms)
    by_cases hpersisted : intentAlreadyPersisted files.lines intent.id = true
    · split_ifs
      · exact h.with_nudge hclock _
      · exact hsame
    · simp only [hpersisted, Bool.false_eq_true, if_false]
      cases hwrites : delivery.fate.writes with
      | false => exact hsame
      | true =>
        obtain ⟨happends, hsaves⟩ := hsaved hdue hloads hwrites
        simp only [if_true, happends, hsaves, Bool.and_self]
        refine h.with_line hclock hdue fun line hline hmessage => ?_
        obtain ⟨hchannel, hreason⟩ := hreasons hdue line hline hmessage
        have hid : line.intent.id = intent.id := by
          rw [h.ids line hline, hchannel, hmessage, hreason]
          rfl
        refine hpersisted (any_eq_true.mpr ⟨line, hline, ?_⟩)
        rw [hid]
        exact beq_self_eq_true _

end

/-! ## Runs -/

theorem filesAfter_concat (config : DiscordWatchConfig) (earlier : List Delivery) (delivery : Delivery) :
    filesAfter config (earlier ++ [delivery]) = handleLocalIntentEvent config (filesAfter config earlier) delivery :=
  (watching config).run_concat {} earlier delivery

/-- The lines of a run are kept, by a clock that no call is later than. -/
theorem Orderly.kept {deliveries : List Delivery} (h : Orderly config deliveries)
    (hforward : Forward deliveries) (earlier later : List Delivery) (hsplit : deliveries = earlier ++ later)
    (clock : ℤ) (hclock : ∀ delivery ∈ earlier, delivery.now_ms ≤ clock) :
    Kept config (filesAfter config earlier) clock := by
  induction earlier using reverseRecOn generalizing later clock with
  | nil =>
    exact ⟨⟨nodup_nil, .nil, .nil, fun _ hline => (nomatch hline)⟩, fun _ hline => (nomatch hline),
      fun _ hline => (nomatch hline), fun _ hline => (nomatch hline), fun _ hlast => (nomatch hlast),
      fun _ _ hlast => (nomatch hlast)⟩
  | append_singleton earlier delivery ih =>
    have hsplit' : deliveries = earlier ++ delivery :: later := by rw [hsplit, append_assoc, singleton_append]
    have hbefore : ∀ before ∈ earlier, before.now_ms ≤ delivery.now_ms := by
      rw [Forward, hsplit'] at hforward
      exact fun before hmem => (pairwise_append.mp hforward).2.2 before hmem delivery mem_cons_self
    have hkept := ih (delivery :: later) hsplit' delivery.now_ms hbefore
    rw [filesAfter_concat]
    exact (hkept.step delivery le_rfl (h.saved earlier delivery later hsplit')
      (h.reasons earlier delivery later hsplit')).mono (hclock delivery (mem_append_right _ (mem_singleton.mpr rfl)))

namespace Sample

end Sample

end Clawhip.DiscordWatch
