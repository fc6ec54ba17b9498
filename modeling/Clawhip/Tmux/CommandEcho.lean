import Clawhip.Lib.Text
import Clawhip.Lib.Utf8
import Mathlib.Data.List.DropRight

/-!
# Echoes of monitor commands

The state machine of `src/keyword_window.rs` that follows the arguments of a `clawhip tmux` command
over the lines of a pane. A line is a list of characters. The arguments of a command line are sliced
out behind the length of the command's head, and the head may have been found behind more decoration
than was removed before; so the slice may be off the character boundaries, and then the scan panics.
-/

namespace Clawhip.Tmux

open List Option

/-! ## Texts -/

/-- `str::contains`. -/
def hasText (text : List Char) (pattern : String) : Bool := (Text.afterGo pattern.toList text).isSome

/-- `str::starts_with`. -/
def opensWith (text : List Char) (pattern : String) : Bool := pattern.toList.isPrefixOf text

/-- `str::ends_with`. -/
def closesWith (text : List Char) (pattern : String) : Bool := pattern.toList.isSuffixOf text

/-- `str::strip_prefix`. -/
def behind (text : List Char) (pattern : String) : Option (List Char) :=
  if opensWith text pattern then some (text.drop pattern.length) else none

/-- `str::split_once`. -/
def splitOnce (p : Char → Bool) (text : List Char) : Option (List Char × List Char) :=
  if text.any p then
    some (text.takeWhile fun c => !p c, (text.dropWhile fun c => !p c).tail)
  else none

/-- `str::trim_start`. -/
def trimStart (text : List Char) : List Char := text.dropWhile Text.isWhitespace

/-- `str::to_ascii_lowercase`. -/
def lowered (text : List Char) : List Char := text.map Char.toLower

/-- `str::eq_ignore_ascii_case`. -/
def sameIgnoringCase (left right : List Char) : Bool := lowered left == lowered right

/-- The first word of `str::split_whitespace`. -/
def firstWord (text : List Char) : Option (List Char) :=
  let word := (trimStart text).takeWhile fun c => !Text.isWhitespace c
  if word.isEmpty then none else some word

def stripPaneFrameChrome (line : List Char) : List Char :=
  Text.strip (fun c => Text.isWhitespace c ||
    ['│', '┃', '║', '|', '╎', '▏', '▕', '┆', '┊', '·', '┄', '┈'].contains c) line

def stripShellPrompt (line : List Char) : List Char :=
  (((behind line "$ ").or (behind line "% ")).or (behind line "> ")).getD line

/-- A line without its frame and its prompt. -/
def commandOf (line : List Char) : List Char := stripShellPrompt (stripPaneFrameChrome line)

/-! ## Commands -/

/-- `MONITOR_FLAGS`: the flags, and whether they take a value. -/
def MONITOR_FLAGS : List (String × Bool) :=
  [("--session", true), ("-s", true), ("--keywords", true), ("--keyword", true), ("--line", true),
    ("--channel", true), ("--mention", true), ("--stale-minutes", true), ("--format", true),
    ("--window-name", true), ("--cwd", true), ("--shell", true), ("--thread", true),
    ("--kickoff", true), ("--retry-enter-count", true), ("--retry-enter-delay-ms", true),
    ("--attach", false), ("--follow", false), ("--retry-enter", true), ("--json", false),
    ("-n", true), ("-c", true), ("session", true), ("keywords", true), ("channel", true),
    ("mention", true), ("stale_minutes", true), ("format", true), ("registered_at", true),
    ("parent_pid", true), ("parent_name", true)]

inductive EchoKind where
  | monitor
  | keyword
deriving DecidableEq

/-- The flags that a later row is read against. -/
inductive PendingFlag where
  | keywords
  | keyword
  | line
  | quotedValue
deriving DecidableEq

structure MonitorArgvState where
  active : Bool := false
  complete : Bool := false
  pending_value : Bool := false
  pending_flag : Option PendingFlag := none
  /-- The flag whose value the row's first token supplied. -/
  consumed_flag : Option PendingFlag := none
  remaining : ℕ := 0
  kind : EchoKind := .monitor
  cli_new : Bool := false
  seen_session : Bool := false
  seen_keyword : Bool := false
  seen_line : Bool := false
  quote : Option Char := none

/-- A command is this head, alone or with arguments. -/
def isHead (command : List Char) (head : String) : Bool :=
  command == head.toList || (behind command head).any fun tail => opensWith tail " "

def monitorHead (line : List Char) : Option String :=
  ["clawhip tmux watch", "clawhip tmux new", "clawhip tmux cli-new"].find? (isHead (commandOf line))

def keywordHead (line : List Char) : Option String := ["clawhip tmux keyword"].find? (isHead (commandOf line))

/-- The head of the command that a line shows, found in its command. -/
def commandHead (line : List Char) : Option String := (monitorHead (commandOf line)).or (keywordHead (commandOf line))

/-- The arguments behind the head of a command line; there are none if the slice panics. -/
def argumentsOf (line : List Char) (head : String) : Option (List Char) :=
  (Utf8.splitAt? (commandOf line) head.utf8ByteSize).map fun parts => trimStart parts.2

/-- The name in front of a token's first `=`. -/
def flagName (token : List Char) : List Char := ((splitOnce (· == '=') token).map Prod.fst).getD token

/-- The value behind a token's first `=`. -/
def flagValue (token : List Char) : Option (List Char) := (splitOnce (· == '=') token).map Prod.snd

/-- `monitor_flag`: whether the flag takes a value. -/
def monitorFlag (token : List Char) : Option Bool :=
  if token = "--".toList then some false
  else (MONITOR_FLAGS.find? fun flag => flag.1.toList == flagName token).map Prod.snd

/-- The tokens from here on, `token` the one under way and `quote` the quote that is open. -/
def tokensFrom : List Char → (token : List Char) → (quote : Option Char) → List (List Char)
  | [], token, _ => if token.isEmpty then [] else [token]
  | c :: cs, token, some q =>
    if c = q then tokensFrom cs token none else tokensFrom cs (token ++ [c]) (some q)
  | c :: cs, token, none =>
    if c = '\'' ∨ c = '"' then tokensFrom cs token (some c)
    else if Text.isWhitespace c then
      (if token.isEmpty then [] else [token]) ++ tokensFrom cs [] none
    else tokensFrom cs (token ++ [c]) none

/-- `tokenize_monitor_argv`, without tokens for a text that has none. -/
def tokenizeMonitorArgv (line : List Char) : List (List Char) := tokensFrom line [] none

/-- `true` or `false`. -/
def isTruth (value : List Char) : Bool := value == "true".toList || value == "false".toList

/-- The loop of `monitor_argv_tokens_valid`. -/
def tokensValidFrom : List (List Char) → Bool
  | [] => true
  | token :: rest =>
    -- What stands behind `--` is not read.
    if token = "--".toList then true
    else if token = "start".toList then tokensValidFrom rest
    else
      match monitorFlag token with
      | none => false
      | some takes_value =>
        if (flagValue token).any fun value => opensWith token "--retry-enter=" && !isTruth value then
          false
        else if takes_value && !token.contains '=' then
          match rest with
          | [] => false
          | value :: rest =>
            if token = "--retry-enter".toList ∧ isTruth value = false then false
            else tokensValidFrom rest
        else tokensValidFrom rest

def monitorArgvTokensValid (tokens : List (List Char)) : Bool := !tokens.isEmpty && tokensValidFrom tokens

def unclosedQuote (line : List Char) : Option Char :=
  line.foldl (fun quote c => match quote with
    | some q => if q = c then none else quote
    | none => if c = '\'' ∨ c = '"' then some c else none) none

/-! ## Scanning arguments -/

/-- The state in which a command line starts. -/
def MonitorArgvState.ofHead (head : String) (remaining : ℕ) : MonitorArgvState where
  active := true
  remaining := remaining
  kind := if Text.endsWith head "keyword" then .keyword else .monitor
  cli_new := decide (head = "clawhip tmux cli-new")

/-- The flags that a complete command has were seen. -/
def MonitorArgvState.isComplete (state : MonitorArgvState) : Bool :=
  match state.kind with
  | .monitor => state.seen_session && state.seen_keyword
  | .keyword => state.seen_session && state.seen_keyword && state.seen_line

/-- The state after the name of a flag was read in a line. -/
def MonitorArgvState.seeFlag (state : MonitorArgvState) (line name : List Char) (takes_value : Bool) :
    MonitorArgvState :=
  let named (names : List String) : Bool := names.any fun other => other.toList == name
  let quote := unclosedQuote line
  { state with
    seen_session := state.seen_session || named ["--session", "-s", "session"]
    seen_keyword := state.seen_keyword || named ["--keywords", "--keyword", "keywords", "keyword"]
    seen_line := state.seen_line || named ["--line", "line"]
    quote := quote
    pending_flag :=
      if quote.isNone then state.pending_flag
      else if named ["--keywords", "keywords"] then some .keywords
      else if named ["--keyword", "keyword"] then some .keyword
      else if named ["--line", "line"] then some .line
      else if takes_value then some .quotedValue
      else state.pending_flag }

/-- The state at the end of a row whose last flag still lacks its value. -/
def MonitorArgvState.awaitValue (state : MonitorArgvState) (name : List Char) : MonitorArgvState :=
  let named (names : List String) : Bool := names.any fun other => other.toList == name
  { state with
    pending_value := true
    pending_flag :=
      if named ["--keyword", "keyword"] then some .keyword
      else if named ["--keywords", "keywords"] then some .keywords
      else if named ["--line", "line"] then some .line
      else none }

/-- The state after a flag with its value. -/
def MonitorArgvState.passFlag (state : MonitorArgvState) : MonitorArgvState :=
  { state with
    pending_value := false
    consumed_flag := none
    pending_flag := if state.quote.isNone then none else state.pending_flag }

/-- The loop of `scan_monitor_argv` over the tokens of a line. -/
def scanTokens (line : List Char) : List (List Char) → MonitorArgvState → MonitorArgvState
  -- The row ends; a quote that is still open keeps the command incomplete.
  | [], state =>
    let state := { state with pending_value := false, consumed_flag := none }
    if state.isComplete && state.quote.isNone then { state with complete := true } else state
  | token :: rest, state =>
    if token = "--".toList then
      if state.seen_session && state.seen_keyword &&
          (decide (state.kind = .monitor) || state.seen_line) then
        { state with complete := true }
      else {}
    -- `cli-new start` is a subcommand, not a flag.
    else if token = "start".toList ∧ state.kind = .monitor ∧ state.cli_new = true then
      scanTokens line rest state
    else
      match monitorFlag token with
      | none => {}
      | some takes_value =>
        let name := flagName token
        if (flagValue token).any fun value =>
            value.isEmpty || (name == "--retry-enter".toList && !isTruth value) then {}
        else
          let state := state.seeFlag line name takes_value
          if takes_value && !token.contains '=' then
            match rest with
            | [] => state.awaitValue name
            | value :: rest =>
              if name = "--retry-enter".toList ∧ isTruth value = false then {}
              else scanTokens line rest state.passFlag
          else scanTokens line rest state.passFlag

def scanMonitorArgv (state : MonitorArgvState) (line : List Char) : MonitorArgvState :=
  match tokenizeMonitorArgv line with
  | [] => {}
  | tokens => scanTokens line tokens state

/-- A row was used up. -/
def MonitorArgvState.spendRow (state : MonitorArgvState) : MonitorArgvState :=
  { state with remaining := state.remaining - 1 }

/-- The state, unless its rows are used up. -/
def MonitorArgvState.unlessSpent (state : MonitorArgvState) : MonitorArgvState :=
  if state.remaining = 0 then {} else state

/-- A row inside a quoted value. -/
def MonitorArgvState.advanceQuote (state : MonitorArgvState) (command : List Char) (quote : Char) :
    MonitorArgvState :=
  if command.contains quote then
    let next := { state with quote := none }
    let tail := trimStart ((command.dropWhile (· ≠ quote)).tail)
    if !tail.isEmpty then (scanMonitorArgv next tail).spendRow
    else if next.isComplete then { next with complete := true }
    else next.spendRow.unlessSpent
  else state.spendRow.unlessSpent

/-- A row that starts with the value of a flag. -/
def MonitorArgvState.advanceValue (state : MonitorArgvState) (command : List Char) :
    MonitorArgvState :=
  let next := { state with pending_value := false, consumed_flag := state.pending_flag }
  match splitOnce Text.isWhitespace command with
  -- The first token is the value, and the rest are flags.
  | some (_, rest) =>
    { scanMonitorArgv next (trimStart rest) with consumed_flag := state.pending_flag }.spendRow
  | none => { next with complete := next.isComplete }.spendRow

/-- A row that is not a command line. -/
def MonitorArgvState.advanceRow (state : MonitorArgvState) (command : List Char) :
    MonitorArgvState :=
  if state.complete || !state.active || decide (state.remaining = 0) then {}
  else
    -- A monitor's quote counts only while a flag waits for the value.
    match state.quote.filter fun _ => decide (state.kind = .keyword) || state.pending_flag.isSome with
    | some quote => state.advanceQuote command quote
    | none =>
      if state.pending_value then state.advanceValue command
      else (scanMonitorArgv state command).spendRow.unlessSpent

/-- `advance_monitor_argv`, unless it panics. -/
def advanceMonitorArgv (state : MonitorArgvState) (line : List Char) : Option MonitorArgvState :=
  match commandHead line with
  | some head =>
    (argumentsOf line head).map fun tail =>
      -- The rows of the echo before are given up, whatever was left of them.
      if tail.isEmpty then .ofHead head 4 else scanMonitorArgv (.ofHead head 4) tail
  | none => some (state.advanceRow (commandOf line))

/-- `advance_monitor_argv` over some lines, from the state in which nothing was seen. -/
def echoState (lines : List (List Char)) : Option MonitorArgvState := lines.foldlM advanceMonitorArgv {}

/-! ## Rows behind a command -/

section Rows

variable {state : MonitorArgvState} {line command : List Char}

/-- A scan gives up, or keeps the echo and its rows. -/
theorem scanTokens_cases (tokens : List (List Char)) (state : MonitorArgvState) :
    scanTokens line tokens state = {} ∨ (scanTokens line tokens state).active = state.active ∧
        (scanTokens line tokens state).remaining = state.remaining := by
  fun_induction scanTokens line tokens state with
  | case1 | case2 | case3 | case8 => exact .inr ⟨rfl, rfl⟩
  | case4 | case6 | case7 | case9 => exact .inl rfl
  | case5 _ _ _ _ _ ih => exact ih
  | case10 _ _ _ _ _ _ _ _ _ _ _ _ _ ih => exact ih
  | case11 _ _ _ _ _ _ _ _ _ _ _ ih => exact ih

theorem scanMonitorArgv_cases (state : MonitorArgvState) (line : List Char) :
    scanMonitorArgv state line = {} ∨ (scanMonitorArgv state line).active = state.active ∧
        (scanMonitorArgv state line).remaining = state.remaining := by
  unfold scanMonitorArgv
  cases tokenizeMonitorArgv line with
  | nil => exact .inl rfl
  | cons token tokens => exact scanTokens_cases (token :: tokens) state

/-- A scan leaves no more rows than there were. -/
theorem scanMonitorArgv_remaining_le (state : MonitorArgvState) (line : List Char) :
    (scanMonitorArgv state line).remaining ≤ state.remaining := by
  rcases scanMonitorArgv_cases state line with hgone | ⟨-, hsame⟩
  · rw [hgone]
    exact Nat.zero_le _
  · exact hsame.le

/-- After a row the echo is over, or it goes on with a row less, or the command is complete. -/
structure MonitorArgvState.Follows (state next : MonitorArgvState) : Prop where
  active : state.active = true
  incomplete : state.complete = false
  rows : 0 < state.remaining
  spent : next.complete = true ∨ next.remaining + 1 ≤ state.remaining
  bounded : next.remaining ≤ state.remaining

theorem advanceRow_follows (h : (state.advanceRow command).active = true) :
    state.Follows (state.advanceRow command) := by
  unfold MonitorArgvState.advanceRow at h ⊢
  by_cases hover : (state.complete || !state.active || decide (state.remaining = 0)) = true
  · rw [if_pos hover] at h
    cases h
  rw [if_neg hover]
  clear h
  simp only [Bool.or_eq_true, Bool.not_eq_true', decide_eq_true_eq, not_or, Bool.not_eq_true,
    Bool.not_eq_false] at hover
  obtain ⟨⟨hcomplete, hactive⟩, hrows⟩ := hover
  have hpos : 0 < state.remaining := Nat.pos_of_ne_zero hrows
  have hfollows (next : MonitorArgvState) (hspent : next.complete = true ∧ next.remaining ≤ state.remaining ∨
        next.remaining ≤ state.remaining - 1) : state.Follows next := by
    refine ⟨hactive, hcomplete, hpos, ?_, ?_⟩
    · exact hspent.imp And.left fun hle => by omega
    · rcases hspent with ⟨-, hle⟩ | hle
      · exact hle
      · omega
  have hunless (next : MonitorArgvState) (hle : next.remaining ≤ state.remaining - 1) :
      next.unlessSpent.remaining ≤ state.remaining - 1 := by
    unfold MonitorArgvState.unlessSpent
    split_ifs
    · exact Nat.zero_le _
    · exact hle
  have hscan (next : MonitorArgvState) (text : List Char) (hle : next.remaining ≤ state.remaining) :
      (scanMonitorArgv next text).remaining - 1 ≤ state.remaining - 1 :=
    Nat.sub_le_sub_right ((scanMonitorArgv_remaining_le next text).trans hle) 1
  split
  · -- A quote is open: the row is a part of the value, or closes it.
    rename_i quote _
    unfold MonitorArgvState.advanceQuote
    dsimp only
    split_ifs
    · exact hfollows _ (.inr (hscan _ _ le_rfl))
    · exact hfollows _ (.inl ⟨rfl, le_rfl⟩)
    · exact hfollows _ (.inr (hunless _ le_rfl))
    · exact hfollows _ (.inr (hunless _ le_rfl))
  · split_ifs
    -- The row before ended in a flag, so this one starts with its value.
    · unfold MonitorArgvState.advanceValue
      split
      · exact hfollows _ (.inr (hscan _ _ le_rfl))
      · exact hfollows _ (.inr le_rfl)
    · exact hfollows _ (.inr (hunless _ (hscan _ _ le_rfl)))

variable {next : MonitorArgvState} {lines : List (List Char)}

/-- A command line starts with four rows. -/
theorem advanceMonitorArgv_of_head {head : String}
    (hhead : commandHead line = some head) (h : advanceMonitorArgv state line = some next) : next.remaining ≤ 4 := by
  unfold advanceMonitorArgv at h
  rw [hhead] at h
  obtain ⟨tail, -, rfl⟩ := map_eq_some_iff.mp h
  split_ifs
  · exact le_rfl
  · exact scanMonitorArgv_remaining_le _ _

/-- An echo that is under way, `lines` before it: its command stands as many lines back as rows are
used up. -/
structure Echoes (lines : List (List Char)) (state : MonitorArgvState) : Prop where
  rows : state.active = true → state.remaining ≤ 4
  /-- A command line among the last lines. -/
  head : state.active = true → ∃ line ∈ lines.reverse.take
    (if state.complete then 5 else 5 - state.remaining), (commandHead line).isSome = true

theorem Echoes.advance (h : Echoes lines state)
    (hadvance : advanceMonitorArgv state line = some next) : Echoes (lines ++ [line]) next := by
  have hlast (n : ℕ) : (lines ++ [line]).reverse.take (n + 1) = line :: lines.reverse.take n := by
    rw [reverse_append, reverse_singleton, singleton_append, take_succ_cons]
  cases hhead : commandHead line with
  | some head =>
    have hrows := advanceMonitorArgv_of_head hhead hadvance
    refine ⟨fun _ => hrows, fun _ => ⟨line, ?_, by rw [hhead]; rfl⟩⟩
    -- At least the line itself is among the last lines.
    obtain ⟨n, hn⟩ : ∃ n, (if next.complete then 5 else 5 - next.remaining) = n + 1 := by
      refine Nat.exists_eq_add_of_le' (?_ : 1 ≤ _)
      split_ifs
      all_goals omega
    rw [hn, hlast]
    exact mem_cons_self
  | none =>
    unfold advanceMonitorArgv at hadvance
    rw [hhead] at hadvance
    obtain rfl := some.inj hadvance
    by_cases hactive : (state.advanceRow (commandOf line)).active = true
    · have hfollows := advanceRow_follows hactive
      have hrows := h.rows hfollows.active
      refine ⟨fun _ => hfollows.bounded.trans hrows, fun _ => ?_⟩
      obtain ⟨command, hmem, hcommand⟩ := h.head hfollows.active
      rw [if_neg (by simp [hfollows.incomplete])] at hmem
      refine ⟨command, ?_, hcommand⟩
      -- The window grows by the line that came in, as the echo spent a row on it.
      have hwithin : 5 - state.remaining + 1 ≤ if (state.advanceRow (commandOf line)).complete then 5
          else 5 - (state.advanceRow (commandOf line)).remaining := by
        have hpos := hfollows.rows
        split_ifs with hcomplete
        · omega
        · have hspent := hfollows.spent.resolve_left hcomplete
          omega
      refine take_subset_take_left _ hwithin ?_
      rw [hlast]
      exact mem_cons_of_mem _ hmem
    · exact ⟨fun h => absurd h hactive, fun h => absurd h hactive⟩

/-- An echo is under way only behind a command line, and no further than four lines. -/
theorem echoState_echoes {state : MonitorArgvState} (h : echoState lines = some state) : Echoes lines state := by
  induction lines using reverseRecOn generalizing state with
  | nil =>
    obtain rfl := some.inj h
    exact ⟨fun _ => Nat.zero_le _, nofun⟩
  | append_singleton lines line ih =>
    unfold echoState at h
    rw [foldlM_append] at h
    obtain ⟨before, hbefore, hadvance⟩ := bind_eq_some_iff.mp h
    refine (ih hbefore).advance ?_
    simpa using hadvance

end Rows

end Clawhip.Tmux
