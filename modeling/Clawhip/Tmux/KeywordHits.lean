import Clawhip.Tmux.CommandEcho
import Clawhip.Tmux.Keywords

/-!
# Hits of keywords

`collect_keyword_hits_from_lines` of `src/keyword_window.rs`: which lines of a pane are hits of a
keyword. Occurrences that are about the keyword, and not about something that happens, are passed over;
but no line that looks like the output of a program ever is. `confined_iff` says when that holds: the
scan must not panic at any line. Positions are counted in characters here. Lower case of ASCII letters
keeps the positions, so they slice the line as well.
-/

namespace Clawhip.Tmux

open List Option

/-! ## Lines -/

def LAUNCHER_NOISE_PATTERNS : List String :=
  ["clawhip emit agent.started", "clawhip emit agent.finished", "clawhip emit agent.failed",
    "function else>", "registered_at=", "parent_pid=", "parent_name=",
    "--error \"exit $exit_code\""]

def lineIsStructuredRuntime (line : List Char) : Bool :=
  let trimmed := commandOf line
  opensWith trimmed "\x7b" || opensWith trimmed "[" ||
    (firstWord trimmed).any fun token => token.contains '=' && !opensWith token "-"

/-- A flag of these names has a value that satisfies `p`, before the end of the flags. -/
def flagValueIs (names : List String) (p : List Char → Bool) : List (List Char) → Bool
  | [] => false
  | token :: rest =>
    if token = "--".toList then false
    else
      (names.any fun name => name.toList == flagName token) &&
          ((flagValue token).or rest.head?).any p ||
        flagValueIs names p rest

/-- One part of a value is this text. -/
def listsText (text value : List Char) : Bool := (value.splitOn ',').any (sameIgnoringCase · text)

/-- `is_monitor_argv_line`, unless it panics. -/
def isMonitorArgvLine (line : List Char) (keywords : List (List Char)) : Option Bool :=
  match commandHead line with
  | none => some false
  | some head => (argumentsOf line head).map fun tail =>
      -- A keyword command names one keyword, a monitor a list of them.
      let names := if Text.endsWith head "keyword" then ["--keyword"] else ["--keywords", "keywords"]
      !(tokenizeMonitorArgv tail).isEmpty && (scanMonitorArgv (.ofHead head 0) tail).complete &&
        flagValueIs names (fun value => keywords.any fun keyword => listsText keyword value)
          (tokenizeMonitorArgv tail)

/-- `should_ignore_launcher_line`, unless it panics. -/
def shouldIgnoreLauncherLine (line : List Char) (keywords : List (List Char)) : Option Bool :=
  let trimmed := stripPaneFrameChrome line
  -- The output of a program is no launcher, even if it prints a launcher's text.
  if lineIsStructuredRuntime line then some false
  else if LAUNCHER_NOISE_PATTERNS.any (hasText trimmed) then some true
  else isMonitorArgvLine trimmed keywords

/-- The loop of `contains_bounded`: `before` is the character in front, and `skip` characters of the
last occurrence are still to be passed over. -/
def boundedFrom (needle : List Char) : List Char → (before : Option Char) → (skip : ℕ) → Bool
  | [], _, _ => false
  | c :: cs, _, skip + 1 => boundedFrom needle cs (some c) skip
  | c :: cs, before, 0 =>
    let isWord (c : Char) : Bool := c.isAlphanum || c == '_'
    if needle.isPrefixOf (c :: cs) then
      -- The occurrence counts only if it is a word of its own.
      if !before.any isWord && !((c :: cs).drop needle.length).head?.any isWord then true
      else boundedFrom needle cs (some c) (needle.length - 1)
    else boundedFrom needle cs (some c) 0

/-- `contains_bounded`, of a text that is not empty. -/
def containsBounded (haystack : List Char) (needle : String) : Bool := boundedFrom needle.toList haystack none 0

def isNegatedDefaultFailureMatch (lower_keyword lower_line : List Char) : Bool :=
  if ["error", "errors"].any fun name => name.toList == lower_keyword then
    ["0 error", "0 errors", "zero error", "zero errors", "no error", "no errors", "without error",
      "without errors"].any (containsBounded lower_line)
  else if ["fail", "fails", "failed", "failure", "failures"].any fun name =>
      name.toList == lower_keyword then
    ["0 fail", "0 fails", "0 failure", "0 failures", "zero fail", "zero fails", "zero failure",
      "zero failures", "no fail", "no fails", "no failure", "no failures", "without fail",
      "without fails", "without failure", "without failures"].any (containsBounded lower_line)
  else false

def isInstructionOrSearchReviewMarkerProse (lower_keyword line : List Char) : Bool :=
  if (["blocker", "request_changes", "approve"].any fun name => name.toList == lower_keyword) then
    let normalized := lowered (Text.strip Text.isWhitespace line)
    normalized != lower_keyword &&
      ["end with", "search ", "query ", "keywords", "using ralph until"].any (hasText normalized)
  else false

/-! ## Occurrences -/

/-- The loop of `keyword_occurrences`: `pos` is the position, and `skip` characters of the last
occurrence are still to be passed over. -/
def occurrencesFrom (keyword : List Char) : List Char → (pos skip : ℕ) → List (ℕ × ℕ)
  | [], _, _ => []
  | _ :: cs, pos, skip + 1 => occurrencesFrom keyword cs (pos + 1) skip
  | c :: cs, pos, 0 =>
    if keyword.isPrefixOf (c :: cs) then
      (pos, pos + keyword.length) :: occurrencesFrom keyword cs (pos + 1) (keyword.length - 1)
    else occurrencesFrom keyword cs (pos + 1) 0

def keywordOccurrences (lower_line lower_keyword : List Char) : List (ℕ × ℕ) :=
  if lower_keyword.isEmpty then [] else occurrencesFrom lower_keyword lower_line 0 0

/-- An occurrence in a line: what stands before it, the occurrence, and what follows. -/
structure Occurrence where
  before : List Char
  text : List Char
  after : List Char

/-- The occurrence between two positions. -/
def Occurrence.at (line : List Char) (span : ℕ × ℕ) : Occurrence :=
  ⟨line.take span.1, (line.drop span.1).take (span.2 - span.1), line.drop span.2⟩

def KEYWORD_NARRATION_CUES : List String := ["such as", "newly emitted", "evidence prose"]

/-- What follows the last occurrence of a text. -/
def afterLast (pattern : List Char) : List Char → Option (List Char)
  | [] => none
  | c :: cs =>
    (afterLast pattern cs).or
      (if pattern.isPrefixOf (c :: cs) then some ((c :: cs).drop pattern.length) else none)

def hasNarrationLabel (before : List Char) : Bool :=
  KEYWORD_NARRATION_CUES.any fun cue =>
    (afterLast cue.toList (lowered before)).any fun suffix =>
      suffix.contains ':' && suffix.all fun ch =>
        Text.isWhitespace ch || [':', ';', ',', '.', '-', '/'].contains ch

def isProseAboutKeyword (before : List Char) : Bool :=
  hasNarrationLabel before ||
    ["see the example ", "see the example `", "example: "].any (closesWith (lowered before))

def previousLineIsNarrationContext (previous_line : Option (List Char)) : Bool :=
  previous_line.any fun previous =>
    let lower_previous := (lowered (stripPaneFrameChrome previous)).rdropWhile fun ch =>
      Text.isWhitespace ch || ['.', ',', ';', ':'].contains ch
    KEYWORD_NARRATION_CUES.any (closesWith lower_previous)

def isLiveWatchSummary (rest lower_line : List Char) : Bool :=
  match ((behind rest "—").map trimStart).bind (splitOnce (· == ' ')) with
  | none => false
  | some (count, tail) =>
    let valid_phrase := (behind (lowered (trimStart tail)) "live watch").any fun rest =>
      rest.isEmpty || opensWith rest " " ||
        (opensWith rest "es" && (rest.drop 2).head?.all fun ch =>
          Text.isWhitespace ch || ['.', ',', ';'].contains ch) ||
        opensWith rest ";"
    count.all Char.isDigit && valid_phrase && containsBounded lower_line "live watch"

def monitorLineContainsKeywordValue (line occurrence : List Char) : Bool :=
  flagValueIs ["--keywords", "--keyword", "keywords", "keyword"] (listsText occurrence)
    (tokenizeMonitorArgv (commandOf line))

def keywordEchoMentions (line : List Char) (previous : Option (List Char))
    (occurrence : List Char) : Bool :=
  let has_value (line : List Char) : Bool :=
    flagValueIs ["--keyword", "keyword"] (listsText occurrence) (tokenizeMonitorArgv (commandOf line))
  has_value line || previous.any has_value ||
    previous.any fun previous =>
      closesWith ((stripPaneFrameChrome previous).rdropWhile Text.isWhitespace) "--keyword" &&
        (firstWord (commandOf line)).any fun token => sameIgnoringCase token occurrence

def monitorContinuationIsValid (line occurrence : List Char) (state : MonitorArgvState) : Bool :=
  let row_flag := state.pending_flag.or state.consumed_flag
  match tokenizeMonitorArgv (commandOf line) with
  | [] => false
  | token :: rest =>
    sameIgnoringCase token occurrence &&
      (rest.isEmpty || monitorArgvTokensValid rest ||
        (state.pending_value && (decide (rest.length = 1) || monitorArgvTokensValid rest.dropLast) &&
          (rest.getLast?.bind monitorFlag).getD false)) &&
      match state.kind with
      | .monitor => state.seen_session && state.seen_keyword && decide (row_flag = some .keywords)
      | .keyword => state.seen_session && state.seen_keyword &&
          decide (row_flag = some .keyword ∨ row_flag = some .line)

/-! ## Mentions -/

/-- A line that reports about the monitor. -/
def isReportProse (line : List Char) : Bool :=
  let structural_prose := lowered (stripPaneFrameChrome line)
  (hasText structural_prose "at pane" && hasText structural_prose "fresh-output cursor") ||
    ["- command prose:", "- diagnostic explanation prose:", "2. a genuinely newly emitted"].any
      (opensWith (trimStart structural_prose))

section

variable (line lower_line : List Char) (occurrence : Occurrence) (previous_line : Option (List Char))
  (state : MonitorArgvState)

/-- The quoted payload of a command that is echoed. A monitor's echo gets here for its keywords only, so
the test for another quoted value is never met. -/
def isQuotedEcho : Bool :=
  let dechromed := commandOf line
  let size (text : List Char) : ℕ := (Utf8.bytes text).length
  let frame_offset := ((Text.afterGo dechromed line).map fun rest =>
    size line - size dechromed - size rest).getD 0
  let relative_occurrence := size occurrence.before - frame_offset
  let starts_dash_payload :=
    opensWith dechromed "-" && decide (relative_occurrence = 1 ∨ relative_occurrence = 2)
  let runtime_shaped := opensWith occurrence.after ": " &&
    ["runtime", "failure", "warning", "timeout"].any (hasText lower_line)
  let closes_quote := dechromed.contains '"' || dechromed.contains '\''
  let verified_quoted_echo := state.complete ||
    (state.quote.isSome && (unclosedQuote dechromed).isNone && state.seen_session &&
      state.seen_keyword && state.seen_line)
  closes_quote && (!opensWith dechromed "-" || starts_dash_payload) &&
    (verified_quoted_echo || !runtime_shaped)

/-- The occurrence belongs to the arguments of the command whose echo is under way. -/
def isArgvEcho : Bool :=
  let keyword_echo_matches := decide (state.kind ≠ .keyword) ||
    keywordEchoMentions line previous_line occurrence.text
  let tokens := tokenizeMonitorArgv (commandOf line)
  let row_flag := state.consumed_flag.or state.pending_flag
  state.active &&
    ((decide (state.kind = .keyword) && state.seen_session && state.seen_keyword &&
        state.seen_line && monitorLineContainsKeywordValue line occurrence.text) ||
      ((state.quote.isSome || state.complete) && keyword_echo_matches &&
        (decide (state.kind = .keyword) || decide (row_flag = some .keywords)) &&
        isQuotedEcho line lower_line occurrence state) || (monitorArgvTokensValid tokens &&
        ((decide (state.kind = .keyword) && keyword_echo_matches && !state.pending_value &&
            tokens.head?.any fun token => token == "--line".toList || opensWith token "--line=") ||
          (decide (state.kind = .monitor) && monitorLineContainsKeywordValue line occurrence.text))))

/-- The occurrence is quoted in a text about the keyword. -/
def isQuotedMention : Bool :=
  match occurrence.before.getLast?, occurrence.after.head? with
  | some opening, some closing =>
    ['\x60', '\'', '"'].contains opening && decide (opening = closing) &&
      !occurrence.before.dropLast.getLast?.any (fun c => ['=', '\x7b', ',', ':'].contains c) &&
      (isProseAboutKeyword occurrence.before || previousLineIsNarrationContext previous_line)
  | _, _ => false

/-- The occurrence starts its line and continues the line before. -/
def isContinuation : Bool :=
  previous_line.isSome &&
    (occurrence.before.all fun ch => Text.isWhitespace ch || ['│', '┃', '║', ' '].contains ch) &&
    (previousLineIsNarrationContext previous_line ||
      (state.active && state.pending_value && monitorContinuationIsValid line occurrence.text state))

/-- The occurrence is mentioned in a text. -/
def isMention : Bool :=
  let rest := occurrence.after.dropWhile (· == ' ')
  isQuotedMention occurrence previous_line || hasNarrationLabel occurrence.before ||
    (opensWith rest "—" && isLiveWatchSummary rest lower_line) ||
    (state.complete && (occurrence.before.all Text.isWhitespace) &&
      monitorContinuationIsValid line occurrence.text state) ||
    isContinuation line occurrence previous_line state

/-- `is_keyword_self_match_occurrence`, unless it panics. -/
def isKeywordSelfMatchOccurrence : Option Bool :=
  -- The output of a program is never about the keyword.
  if lineIsStructuredRuntime line then some false
  else if isReportProse line then some true
  else if isArgvEcho line lower_line occurrence previous_line state then some true
  else do
    let is_command ←
      -- Only here are the arguments sliced out again; so only here it can panic.
      if ((monitorHead line).or (keywordHead line)).isSome then isMonitorArgvLine line [occurrence.text]
      else some false
    return is_command || isMention line lower_line occurrence previous_line state

end

/-! ## Collecting hits -/

/-- The loop of `collect_keyword_hits_from_lines` under way. -/
structure HitScan where
  seen : List (String × String) := []
  hits : List KeywordHit := []
  previous_line : Option String := none
  monitor_argv : MonitorArgvState := {}

/-- `insert` into the seen pairs, with the hit that is pushed for a new one. -/
def HitScan.push (scan : HitScan) (hit : KeywordHit) : HitScan :=
  if hit.pair ∈ scan.seen then scan
  else { scan with seen := hit.pair :: scan.seen, hits := scan.hits ++ [hit] }

section

variable (provenance : Option KeywordMatchProvenance) (cursor : Option ℕ) (line : String)

def lineHit (keyword : String) : KeywordHit :=
  ⟨keyword, line, provenance.map fun provenance => match cursor with
    | some cursor => { provenance with cursor := some cursor }
    | none => provenance⟩

/-- One keyword in a line; the state of the scan is the one after the line's arguments. -/
def scanKeyword (scan : HitScan) (keyword : String) : Option HitScan :=
  let lower_keyword := lowered keyword.toList
  let lower_line := lowered line.toList
  if (Text.afterGo lower_keyword lower_line).isSome && decide (cursor ≠ some 0) then
    -- A line with `0 errors` in it tells of no error, unless a program printed it.
    if !lineIsStructuredRuntime line.toList &&
        (isNegatedDefaultFailureMatch lower_keyword lower_line ||
          isInstructionOrSearchReviewMarkerProse lower_keyword line.toList) then
      some scan
    else do
      let self_match ← (keywordOccurrences lower_line lower_keyword).allM fun span =>
        isKeywordSelfMatchOccurrence line.toList lower_line (.at line.toList span)
          (scan.previous_line.map String.toList) scan.monitor_argv
      return if self_match then scan else scan.push (lineHit provenance cursor line keyword)
  else some scan

def scanLine (keywords : List String) (scan : HitScan) : Option HitScan := do
  let monitor_argv ← advanceMonitorArgv scan.monitor_argv line.toList
  let ignored ← shouldIgnoreLauncherLine line.toList (keywords.map String.toList)
  let scan ← (if ignored then [] else keywords).foldlM (scanKeyword provenance cursor line)
    { scan with monitor_argv := monitor_argv }
  return { scan with previous_line := some line }

end

/-- A keyword that is not blank. -/
def isNonblank (keyword : String) : Bool := !(Text.trim keyword).isEmpty

/-- `collect_keyword_hits_from_lines`, unless it panics. -/
def collectKeywordHitsFromLines (lines : List (Option ℕ × String)) (keywords : List String)
    (provenance : Option KeywordMatchProvenance) : Option (List KeywordHit) :=
  let keywords := keywords.filter isNonblank
  if keywords.isEmpty then some []
  else (lines.foldlM (fun scan line => scanLine provenance line.1 line.2 keywords scan)
    ({} : HitScan)).map HitScan.hits

/-! ## Lines at which the scan panics -/

section Panics

variable {line : List Char}

/-- The arguments of the command that a line shows cannot be sliced out. -/
def panicsAt (line : List Char) : Bool := (commandHead line).any fun head => (argumentsOf line head).isNone

theorem advanceMonitorArgv_isSome (state : MonitorArgvState) (line : List Char) :
    (advanceMonitorArgv state line).isSome = !panicsAt line := by
  unfold advanceMonitorArgv panicsAt
  cases commandHead line with
  | none => rfl
  | some head =>
    rw [isSome_map, any_some]
    cases argumentsOf line head
    all_goals rfl

variable (keywords : List (List Char))

theorem isMonitorArgvLine_isSome (h : panicsAt line = false) : (isMonitorArgvLine line keywords).isSome = true := by
  unfold panicsAt at h
  unfold isMonitorArgvLine
  cases hhead : commandHead line with
  | none => rfl
  | some head =>
    rw [hhead, any_some] at h
    rw [isSome_map]
    simpa [isSome_iff_ne_none] using h

/-- The frame that is removed first hides nothing of the command. -/
theorem panicsAt_stripPaneFrameChrome (line : List Char) : panicsAt (stripPaneFrameChrome line) = panicsAt line := by
  have hcommand : commandOf (stripPaneFrameChrome line) = commandOf line := by
    unfold commandOf stripPaneFrameChrome
    rw [Text.strip_strip]
  unfold panicsAt commandHead argumentsOf
  rw [hcommand]

theorem shouldIgnoreLauncherLine_isSome (h : panicsAt line = false) :
    (shouldIgnoreLauncherLine line keywords).isSome = true := by
  unfold shouldIgnoreLauncherLine
  dsimp only
  split_ifs
  · rfl
  · rfl
  · exact isMonitorArgvLine_isSome keywords (by rw [panicsAt_stripPaneFrameChrome, h])

theorem isKeywordSelfMatchOccurrence_isSome (lower_line : List Char) (occurrence : Occurrence)
    (previous_line : Option (List Char)) (state : MonitorArgvState) (h : panicsAt line = false) :
    (isKeywordSelfMatchOccurrence line lower_line occurrence previous_line state).isSome = true := by
  unfold isKeywordSelfMatchOccurrence
  split_ifs
  · rfl
  · rfl
  · rfl
  · obtain ⟨is_command, hsome⟩ := isSome_iff_exists.mp (isMonitorArgvLine_isSome [occurrence.text] h)
    rw [hsome]
    rfl
  · rfl

/-- A test that is made for each element of a list, and never panics. -/
theorem allM_isSome {α : Type} {p : α → Option Bool} (h : ∀ a, (p a).isSome = true) (l : List α) :
    (l.allM p).isSome = true := by
  induction l with
  | nil => rfl
  | cons a l ih =>
    obtain ⟨passes, hpasses⟩ := isSome_iff_exists.mp (h a)
    show (p a >>= _).isSome = true
    rw [hpasses]
    cases passes
    · rfl
    · exact ih

/-- A fold whose steps never stop. -/
theorem foldlM_isSome {α β : Type} {step : β → α → Option β} {l : List α}
    (h : ∀ a ∈ l, ∀ b, (step b a).isSome = true) (b : β) : (l.foldlM step b).isSome = true := by
  induction l generalizing b with
  | nil => rfl
  | cons a l ih =>
    obtain ⟨next, hnext⟩ := isSome_iff_exists.mp (h a mem_cons_self b)
    rw [foldlM_cons, hnext]
    exact ih (fun a ha => h a (mem_cons_of_mem _ ha)) next

end Panics

section Scans

variable {provenance : Option KeywordMatchProvenance} {cursor : Option ℕ} {line : String}
  {keywords : List String} {scan scan' : HitScan}

theorem scanKeyword_isSome (provenance : Option KeywordMatchProvenance) (cursor : Option ℕ)
    (h : panicsAt line.toList = false) (scan : HitScan) (keyword : String) :
    (scanKeyword provenance cursor line scan keyword).isSome = true := by
  unfold scanKeyword
  dsimp only
  split_ifs
  · rfl
  · obtain ⟨self_match, hself⟩ := isSome_iff_exists.mp
      (allM_isSome (fun span => isKeywordSelfMatchOccurrence_isSome (lowered line.toList)
        (.at line.toList span) (scan.previous_line.map String.toList) scan.monitor_argv h)
        (keywordOccurrences (lowered line.toList) (lowered keyword.toList)))
    rw [hself]
    rfl
  · rfl

/-- A line stops the scan if and only if its arguments cannot be sliced out. -/
theorem scanLine_isSome (provenance : Option KeywordMatchProvenance) (cursor : Option ℕ)
    (line : String) (keywords : List String) (scan : HitScan) :
    (scanLine provenance cursor line keywords scan).isSome = !panicsAt line.toList := by
  have hadvance := advanceMonitorArgv_isSome scan.monitor_argv line.toList
  unfold scanLine
  cases hpanics : panicsAt line.toList with
  | true =>
    rw [hpanics, Bool.not_true, isSome_eq_false_iff, isNone_iff_eq_none] at hadvance
    rw [hadvance]
    rfl
  | false =>
    rw [hpanics] at hadvance
    obtain ⟨state, hstate⟩ := isSome_iff_exists.mp hadvance
    obtain ⟨ignored, hignored⟩ := isSome_iff_exists.mp
      (shouldIgnoreLauncherLine_isSome (keywords.map String.toList) hpanics)
    obtain ⟨after, hafter⟩ := isSome_iff_exists.mp (foldlM_isSome (l := if ignored then [] else keywords)
        (fun keyword _ scan => scanKeyword_isSome provenance cursor hpanics scan keyword)
        { scan with monitor_argv := state })
    rw [hstate, bind_eq_bind, bind_some, hignored, bind_eq_bind, bind_some, hafter]
    rfl

/-! ## What is reported -/

/-- The pairs that were seen are those of the hits. -/
def HitScan.Recorded (scan : HitScan) : Prop := ∀ pair ∈ scan.seen, ∃ hit ∈ scan.hits, hit.pair = pair

/-- A scan goes on: it keeps its hits, and what was seen stays recorded. -/
structure HitScan.Grows (scan scan' : HitScan) : Prop where
  hits : scan.hits ⊆ scan'.hits
  recorded : scan.Recorded → scan'.Recorded

theorem HitScan.Grows.refl (scan : HitScan) : scan.Grows scan := ⟨fun _ h => h, id⟩

theorem HitScan.Grows.trans {scan scan' scan'' : HitScan} (h : scan.Grows scan')
    (h' : scan'.Grows scan'') : scan.Grows scan'' :=
  ⟨fun _ hmem => h'.hits (h.hits hmem), h'.recorded ∘ h.recorded⟩

/-- A hit with this keyword and this line is among the hits. -/
def HitScan.Reports (scan : HitScan) (keyword line : String) : Prop := ∃ hit ∈ scan.hits, hit.pair = (keyword, line)

variable {keyword : String}

theorem HitScan.Reports.grows (h : scan.Reports keyword line)
    (hgrows : scan.Grows scan') : scan'.Reports keyword line := by
  obtain ⟨hit, hmem, hpair⟩ := h
  exact ⟨hit, hgrows.hits hmem, hpair⟩

theorem HitScan.push_grows (scan : HitScan) (hit : KeywordHit) : scan.Grows (scan.push hit) := by
  unfold push
  split_ifs
  · exact .refl scan
  · refine ⟨subset_append_left _ _, fun hrecorded pair hpair => ?_⟩
    -- The new pair is that of the new hit; the others were recorded before.
    rcases mem_cons.mp hpair with rfl | hpair
    · exact ⟨hit, mem_append_right _ (mem_singleton_self hit), rfl⟩
    · obtain ⟨other, hother, hsame⟩ := hrecorded pair hpair
      exact ⟨other, mem_append_left _ hother, hsame⟩

/-- A hit that is pushed is reported, now or before. -/
theorem HitScan.push_reports (hrecorded : scan.Recorded) (hit : KeywordHit) :
    ∃ other ∈ (scan.push hit).hits, other.pair = hit.pair := by
  unfold push
  split_ifs with hseen
  · exact hrecorded hit.pair hseen
  · exact ⟨hit, mem_append_right _ (mem_singleton_self hit), rfl⟩

/-- A line that must be reported for a keyword: it is fresh, it looks like the output of a program,
and it contains the keyword. -/
structure MustReport (entry : Option ℕ × String) (keyword : String) : Prop where
  fresh : entry.1 ≠ some 0
  structured : lineIsStructuredRuntime entry.2.toList = true
  nonblank : isNonblank keyword = true
  contains : (Text.afterGo (lowered keyword.toList) (lowered entry.2.toList)).isSome = true

theorem lowered_ne_nil (h : isNonblank keyword = true) : lowered keyword.toList ≠ [] := by
  unfold isNonblank at h
  intro hnil
  have hempty : keyword.toList = [] := map_eq_nil_iff.mp hnil
  have htrim : Text.trim keyword = "" := by
    unfold Text.trim
    rw [hempty]
    rfl
  rw [htrim] at h
  cases h

/-- A text that is contained occurs. -/
theorem occurrencesFrom_ne_nil {keyword text : List Char} (hkeyword : keyword ≠ [])
    (h : (Text.afterGo keyword text).isSome = true) (pos : ℕ) : occurrencesFrom keyword text pos 0 ≠ [] := by
  induction text generalizing pos with
  | nil =>
    unfold Text.afterGo at h
    rw [if_neg (by simpa using hkeyword)] at h
    cases h
  | cons c cs ih =>
    unfold Text.afterGo at h
    unfold occurrencesFrom
    split_ifs at h ⊢
    · exact cons_ne_nil _ _
    · exact ih h (pos + 1)

theorem scanKeyword_grows (h : scanKeyword provenance cursor line scan keyword = some scan') : scan.Grows scan' := by
  unfold scanKeyword at h
  dsimp only at h
  split_ifs at h
  · exact some.inj h ▸ .refl scan
  · obtain ⟨self_match, -, h⟩ := bind_eq_some_iff.mp h
    obtain rfl := some.inj h
    split_ifs
    · exact .refl scan
    · exact scan.push_grows _
  · exact some.inj h ▸ .refl scan

/-- No occurrence in a line that looks like the output of a program is passed over. -/
theorem scanKeyword_reports (hmust : MustReport (cursor, line) keyword)
    (hrecorded : scan.Recorded) (h : scanKeyword provenance cursor line scan keyword = some scan') :
    scan'.Reports keyword line := by
  have hstructured : lineIsStructuredRuntime line.toList = true := hmust.structured
  have hcontains : ((Text.afterGo (lowered keyword.toList) (lowered line.toList)).isSome &&
      decide (cursor ≠ some 0)) = true :=
    Bool.and_eq_true_iff.mpr ⟨hmust.contains, decide_eq_true hmust.fresh⟩
  unfold scanKeyword at h
  rw [if_pos hcontains, if_neg (by simp [hstructured])] at h
  obtain ⟨self_match, hself, h⟩ := bind_eq_some_iff.mp h
  -- Without an occurrence every one of them would be a mention, and the line passed over.
  have hoccurs : keywordOccurrences (lowered line.toList) (lowered keyword.toList) ≠ [] := by
    have hkeyword := lowered_ne_nil hmust.nonblank
    unfold keywordOccurrences
    rw [if_neg (by simpa using hkeyword)]
    exact occurrencesFrom_ne_nil hkeyword hmust.contains 0
  obtain ⟨span, spans, hspans⟩ := exists_cons_of_ne_nil hoccurs
  have hnot : self_match = false := by
    rw [hspans] at hself
    unfold isKeywordSelfMatchOccurrence at hself
    simp only [hstructured, if_true] at hself
    exact (some.inj hself).symm
  subst hnot
  obtain rfl := some.inj h
  exact scan.push_reports hrecorded (lineHit provenance cursor line keyword)

theorem scanKeywords_spec (h : keywords.foldlM (scanKeyword provenance cursor line) scan =
    some scan') : scan.Grows scan' ∧ (scan.Recorded → ∀ keyword ∈ keywords,
      MustReport (cursor, line) keyword → scan'.Reports keyword line) := by
  induction keywords generalizing scan with
  | nil =>
    obtain rfl := some.inj h
    exact ⟨.refl scan, fun _ _ hmem => absurd hmem not_mem_nil⟩
  | cons keyword keywords ih =>
    rw [foldlM_cons] at h
    obtain ⟨next, hnext, h⟩ := bind_eq_some_iff.mp h
    have hgrows := scanKeyword_grows hnext
    obtain ⟨hgrows', hreports⟩ := ih h
    refine ⟨hgrows.trans hgrows', fun hrecorded other hother hmust => ?_⟩
    -- The hit of a keyword outlives the scan for the keywords behind it.
    rcases mem_cons.mp hother with rfl | hother
    · exact (scanKeyword_reports hmust hrecorded hnext).grows hgrows'
    · exact hreports (hgrows.recorded hrecorded) other hother hmust

theorem scanLine_spec (h : scanLine provenance cursor line keywords scan = some scan') :
    scan.Grows scan' ∧ (scan.Recorded → ∀ keyword ∈ keywords,
      MustReport (cursor, line) keyword → scan'.Reports keyword line) := by
  obtain ⟨state, -, h⟩ := bind_eq_some_iff.mp h
  obtain ⟨ignored, hignored, h⟩ := bind_eq_some_iff.mp h
  obtain ⟨next, hnext, h⟩ := bind_eq_some_iff.mp h
  obtain rfl := some.inj h
  obtain ⟨⟨hhits, hrecorded⟩, hreports⟩ := scanKeywords_spec hnext
  refine ⟨⟨hhits, hrecorded⟩, fun hscan keyword hkeyword hmust => ?_⟩
  refine hreports hscan keyword ?_ hmust
  -- A line that must be reported is not ignored as a launcher's.
  have hstructured : lineIsStructuredRuntime line.toList = true := hmust.structured
  unfold shouldIgnoreLauncherLine at hignored
  rw [if_pos hstructured] at hignored
  obtain rfl := some.inj hignored
  exact hkeyword

/-- The lines of a pane, one after the other. -/
theorem scanLines_spec {lines : List (Option ℕ × String)}
    (h : lines.foldlM (fun scan line => scanLine provenance line.1 line.2 keywords scan) scan =
      some scan') : scan.Grows scan' ∧ (scan.Recorded → ∀ entry ∈ lines, ∀ keyword ∈ keywords,
        MustReport entry keyword → scan'.Reports keyword entry.2) := by
  induction lines generalizing scan with
  | nil =>
    obtain rfl := some.inj h
    exact ⟨.refl scan, fun _ _ hmem => absurd hmem not_mem_nil⟩
  | cons entry lines ih =>
    rw [foldlM_cons] at h
    obtain ⟨next, hnext, h⟩ := bind_eq_some_iff.mp h
    obtain ⟨hgrows, hreports⟩ := scanLine_spec hnext
    obtain ⟨hgrows', hreports'⟩ := ih h
    refine ⟨hgrows.trans hgrows', fun hrecorded other hother keyword hkeyword hmust => ?_⟩
    rcases mem_cons.mp hother with rfl | hother
    · exact (hreports hrecorded keyword hkeyword hmust).grows hgrows'
    · exact hreports' (hgrows.recorded hrecorded) other hother keyword hkeyword hmust

/-- The scan of some lines comes to its end if and only if it panics at none of them. -/
theorem scanLines_isSome (provenance : Option KeywordMatchProvenance) (keywords : List String)
    (lines : List (Option ℕ × String)) (scan : HitScan) :
    (lines.foldlM (fun scan line => scanLine provenance line.1 line.2 keywords scan) scan).isSome =
      true ↔ ∀ entry ∈ lines, panicsAt entry.2.toList = false := by
  induction lines generalizing scan with
  | nil => exact iff_of_true rfl fun _ hmem => absurd hmem not_mem_nil
  | cons entry lines ih =>
    rw [foldlM_cons, forall_mem_cons]
    have hline := scanLine_isSome provenance entry.1 entry.2 keywords scan
    cases hnext : scanLine provenance entry.1 entry.2 keywords scan with
    | none =>
      rw [hnext] at hline
      refine iff_of_false Bool.false_ne_true fun h => ?_
      rw [h.1] at hline
      cases hline
    | some next =>
      rw [hnext] at hline
      have hquiet : panicsAt entry.2.toList = false := by simpa using hline.symm
      exact (ih next).trans (and_iff_right hquiet).symm

/-- The suppression of echoes is confined: an echo is under way only at a command line and at the four
lines behind it, and no line that must be reported goes unreported. -/
structure Confined (lines : List (Option ℕ × String)) (keywords : List String)
    (provenance : Option KeywordMatchProvenance) : Prop where
  echo : ∀ before entry after, lines = before ++ entry :: after → ∀ state,
    echoState ((before ++ [entry]).map fun entry => entry.2.toList) = some state → state.active = true →
    ∃ command ∈ entry :: before.reverse.take 4, (commandHead command.2.toList).isSome = true
  reported : ∀ entry ∈ lines, ∀ keyword ∈ keywords, MustReport entry keyword →
    ∃ hits, collectKeywordHitsFromLines lines keywords provenance = some hits ∧
      ∃ hit ∈ hits, hit.keyword = keyword ∧ hit.line = entry.2

/-- An echo is under way only at a command line and at the four lines behind it. -/
theorem echoState_near {before : List (Option ℕ × String)} {entry : Option ℕ × String} {state : MonitorArgvState}
    (h : echoState ((before ++ [entry]).map fun entry => entry.2.toList) = some state) (hactive : state.active = true) :
    ∃ command ∈ entry :: before.reverse.take 4, (commandHead command.2.toList).isSome = true := by
  obtain ⟨line, hline, hhead⟩ := (echoState_echoes h).head hactive
  have hlast : ((before ++ [entry]).map fun entry => entry.2.toList).reverse.take 5 =
      (entry :: before.reverse.take 4).map fun entry => entry.2.toList := by
    rw [← map_reverse, reverse_append, reverse_singleton, singleton_append, ← map_take, take_succ_cons]
  -- Five lines at most: this one and the four before it.
  have hwithin : (if state.complete then 5 else 5 - state.remaining) ≤ 5 := by
    split_ifs
    all_goals omega
  have hmem := take_subset_take_left _ hwithin hline
  rw [hlast] at hmem
  obtain ⟨command, hcommand, rfl⟩ := mem_map.mp hmem
  exact ⟨command, hcommand, hhead⟩

/-- The suppression of echoes is confined if and only if the scan panics at no line, or no line has to
be reported. -/
theorem confined_iff (lines : List (Option ℕ × String)) (keywords : List String)
    (provenance : Option KeywordMatchProvenance) :
    Confined lines keywords provenance ↔ ((∃ entry ∈ lines, ∃ keyword ∈ keywords, MustReport entry keyword) →
        ∀ entry ∈ lines, panicsAt entry.2.toList = false) := by
  constructor
  · rintro hconfined ⟨entry, hentry, keyword, hkeyword, hmust⟩
    obtain ⟨hits, hhits, -⟩ := hconfined.reported entry hentry keyword hkeyword hmust
    -- A keyword that must be reported keeps the scan from being skipped.
    have hne : (keywords.filter isNonblank).isEmpty = false := by
      rw [isEmpty_eq_false_iff]
      exact ne_nil_of_mem (mem_filter.mpr ⟨hkeyword, hmust.nonblank⟩)
    unfold collectKeywordHitsFromLines at hhits
    dsimp only at hhits
    rw [hne, if_neg Bool.false_ne_true] at hhits
    obtain ⟨scan, hscan, -⟩ := map_eq_some_iff.mp hhits
    exact (scanLines_isSome _ _ lines {}).mp (isSome_iff_exists.mpr ⟨scan, hscan⟩)
  · intro hquiet
    refine ⟨fun before entry after _ state => echoState_near, ?_⟩
    intro entry hentry keyword hkeyword hmust
    obtain ⟨scan, hscan⟩ := isSome_iff_exists.mp
      ((scanLines_isSome provenance (keywords.filter isNonblank) lines {}).mpr
        (hquiet ⟨entry, hentry, keyword, hkeyword, hmust⟩))
    have hmem : keyword ∈ keywords.filter isNonblank :=
      mem_filter.mpr ⟨hkeyword, hmust.nonblank⟩
    have hne : (keywords.filter isNonblank).isEmpty = false := by
      rw [isEmpty_eq_false_iff]
      exact ne_nil_of_mem hmem
    refine ⟨scan.hits, ?_, ?_⟩
    · unfold collectKeywordHitsFromLines
      dsimp only
      rw [hne, if_neg Bool.false_ne_true, hscan]
      rfl
    · have hrecorded : HitScan.Recorded {} := fun _ hmem => absurd hmem not_mem_nil
      obtain ⟨hit, hhit, hpair⟩ := (scanLines_spec hscan).2 hrecorded entry hentry keyword hmem hmust
      exact ⟨hit, hhit, congrArg Prod.fst hpair, congrArg Prod.snd hpair⟩

end Scans

namespace Sample

/-- A command line behind a prompt and a frame, and a line of a program that failed. -/
def framedCommand : List (Option ℕ × String) :=
  [(some 1, "$  │││││││ clawhip tmux watch"), (some 2, "[error] build failed")]

/-- The frame of the command is wider than what was removed of it, and the scan panics. -/
theorem framed_command_hides_failure : ¬ Confined framedCommand ["error"] none := by
  intro h
  have hmust : MustReport (some 2, "[error] build failed") "error" :=
    ⟨by decide, by decide +kernel, by decide +kernel, by decide +kernel⟩
  obtain ⟨hits, hhits, -⟩ := h.reported (some 2, "[error] build failed")
    (mem_cons_of_mem _ (mem_singleton_self _)) "error" (mem_singleton_self _) hmust
  have hnone : collectKeywordHitsFromLines framedCommand ["error"] none = none := by
    have hstop : (collectKeywordHitsFromLines framedCommand ["error"] none).isNone = true := by
      decide +kernel
    exact isNone_iff_eq_none.mp hstop
  rw [hnone] at hhits
  cases hhits

end Sample

end Clawhip.Tmux
