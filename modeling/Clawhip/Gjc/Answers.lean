import Clawhip.Gjc.Reservations

/-!
# Answered commands

What becomes of a command whose peer accepted it. Where every accepting reply tells the outcome, the
receipt of a command that was answered is terminal, so that it answers later calls and makes room when
the registry is full. A reply without an outcome leaves its receipt acked, which is neither.
-/

namespace Clawhip.Gjc

open List Option Machine Process

/-! ## Planes that a call touches -/

/-- The call has a receipt that is not terminal. -/
def Stage.reserved : Stage → Bool
  | dispatching | exchanging | acking _ _ | finishing _ _ _ => true
  | _ => false

/-- A receipt is the one of a command itself, not of another one with its key. -/
structure Command.Wrote (command : Command) (receipt : CommandReceipt) : Prop where
  command_id : receipt.command_id = command.command_id
  owns : command.Owns receipt

variable {receipt later : CommandReceipt} {command : Command}

theorem Command.Wrote.leadsTo (h : command.Wrote receipt) (hleads : receipt.LeadsTo later) : command.Wrote later :=
  ⟨hleads.command_id.trans h.command_id, h.owns.leadsTo hleads⟩

/-- A call loads the journal, or leaves the plane alone, or writes a receipt under its key. -/
inductive PlaneState.Touched (format : ReceiptFormat) (disk : JournalDisk) (plane : PlaneState)
    (command : Command) (plane' : PlaneState) : Prop
  | loads (h : plane.Loads plane') (orderly : plane'.Orderly)
  | writes {receipt : CommandReceipt} {candidate : Receipts} {ok : Bool}
      (h : plane.Wrote format disk plane' command.key receipt candidate ok)
      (loaded : plane.journal.loaded = true)
      (own : plane.registry.get command.key = none ∧ receipt = command.receipt ∨
        ∃ previous, plane.registry.get command.key = some previous ∧
          previous.LeadsTo receipt ∧ command.Wrote previous)

namespace PlaneState

variable {format : ReceiptFormat} {disk : JournalDisk} {plane plane' : PlaneState}
  {command : Command} {meets : Meets}
  {stage stage' : Stage} {handed : Option Command}

theorem Loads.refl (plane : PlaneState) : plane.Loads plane := ⟨rfl, .inl ⟨rfl, rfl⟩⟩

/-- A resumed call touches its plane. -/
theorem Touched.of_resumed (h : Resumed format plane command meets stage plane' stage' handed)
    (horderly : plane.Orderly) (hbegun : stage.begun = true → plane.journal.loaded = true)
    (hheld : stage.reserved = true → ∃ receipt, plane.registry.get command.key = some receipt ∧ command.Wrote receipt) :
    plane.Touched format meets.disk command plane' := by
  cases h with
  | enters hstage hloaded =>
    obtain ⟨horderly', hloads⟩ := horderly.enters
    exact .loads hloads horderly'
  | replays hstage hexisting | fails hstage | checks hnone | resolves => exact .loads (.refl plane) horderly
  | reserves hnone hwrote | refuses hnone hwrote => exact .writes hwrote (hbegun rfl) (.inl ⟨hnone, rfl⟩)
  | sends | accepts hmeets hreply | keeps hkept | rests => exact .loads (.refl plane) horderly
  | updates hprevious hleads hwrote hstage =>
    have hwas : stage.begun = true ∧ stage.reserved = true := by
      rcases hstage with ⟨_, _, rfl, -⟩ | ⟨_, _, _, rfl, -⟩
      all_goals exact ⟨rfl, rfl⟩
    obtain ⟨previous, hprevious', hown⟩ := hheld hwas.2
    cases hprevious.symm.trans hprevious'
    exact .writes hwrote (hbegun hwas.1) (.inr ⟨_, hprevious, hleads, hown⟩)
  | reverts hprevious hleads hwrote hstage =>
    have hwas : stage.begun = true ∧ stage.reserved = true := by
      rcases hstage with ⟨_, _, rfl⟩ | ⟨_, _, _, rfl⟩
      all_goals exact ⟨rfl, rfl⟩
    obtain ⟨previous, hprevious', hown⟩ := hheld hwas.2
    cases hprevious.symm.trans hprevious'
    exact .writes hwrote (hbegun hwas.1) (.inr ⟨_, hprevious, hleads, hown⟩)

section

variable (h : plane.Touched format disk command plane')
include h

theorem Touched.orderly (horderly : plane.Orderly) : plane'.Orderly := by
  cases h with
  | loads _ horderly' => exact horderly'
  | writes hwrote hloaded _ => exact hwrote.orderly horderly hloaded

theorem Touched.loaded (hloaded : plane.journal.loaded = true) : plane'.journal.loaded = true := by
  cases h with
  | loads hloads _ =>
    rcases hloads.registry with ⟨-, hsame⟩ | ⟨-, hnow, -⟩
    · exact hsame.trans hloaded
    · exact hnow
  | writes hwrote _ _ => exact hwrote.journal ▸ hloaded

/-- What a plane holds it holds after it was touched, where there is room. -/
theorem Touched.tracks (hroom : plane.registry.length < MAX_COMMAND_RECEIPTS) {key : String} {receipt : CommandReceipt}
    (htracks : Tracks plane key receipt) : Tracks plane' key receipt := by
  cases h with
  | loads hloads _ =>
    refine ⟨hloads.file ▸ htracks.1, fun hnow => ?_⟩
    rcases hloads.registry with ⟨hregistry, hsame⟩ | ⟨-, -, hget⟩
    · exact hregistry ▸ htracks.2 (hsame.symm.trans hnow)
    · obtain ⟨held, hheld, hleads⟩ := htracks.1
      exact ⟨held, (hget key).trans hheld, hleads⟩
  | writes hwrote hloaded hown =>
    rename_i written candidate ok
    have hleads : ∀ previous, plane.registry.get command.key = some previous → previous.LeadsTo written := by
      intro previous hprevious
      rcases hown with ⟨hnone, -⟩ | ⟨previous', hprevious', hleads, -⟩
      · cases hnone.symm.trans hprevious
      · cases hprevious.symm.trans hprevious'
        exact hleads
    obtain ⟨held, hheld, hheld'⟩ := htracks.2 hloaded
    have hgoes := hwrote.goesOn (fun _ => hroom) hloaded hleads
    have hcandidate := (hwrote.candidate_holds (fun _ => hroom) hleads hheld).from hheld'
    refine ⟨?_, fun _ => (hgoes.holds key held hheld).from hheld'⟩
    cases ok with
    | true => exact (hwrote.done rfl).2 ▸ hcandidate
    | false =>
      rcases (hwrote.undone rfl).2.2 with hfile | ⟨-, hfile⟩
      · exact hfile ▸ htracks.1
      · exact hfile ▸ hcandidate

end

end PlaneState

/-! ## Calls -/

/-- The call has not returned. -/
def Stage.alive : Stage → Bool
  | returned _ => false
  | _ => true

/-- The status of the receipt of a call that has one, where every accepting reply tells an outcome. -/
def Stage.Awaits (status : CommandStatus) : Stage → Prop
  | dispatching | exchanging => status = .accepted
  | acking _ outcome => status = .accepted ∧ outcome.isSome = true
  | finishing terminal _ _ => status = .acked ∧ terminal.isTerminal = true
  | _ => True

/-- The receipt of a command in a registry is as its call awaits it. -/
def Stage.Held (stage : Stage) (command : Command) (registry : Receipts) : Prop :=
  ∃ receipt, registry.get command.key = some receipt ∧ command.Wrote receipt ∧ stage.Awaits receipt.status

section

variable {format : ReceiptFormat} {disk : JournalDisk} {plane plane' : PlaneState}
  {command : Command} {meets : Meets}
  {stage stage' : Stage} {handed : Option Command}

/-- What a resumed call makes of its receipt. -/
structure Resumed.Settles (format : ReceiptFormat) (disk : JournalDisk) (plane : PlaneState)
    (command : Command) (stage : Stage) (plane' : PlaneState) (stage' : Stage) : Prop where
  touched : plane.Touched format disk command plane'
  begun : stage'.begun = true → plane'.journal.loaded = true
  alive : stage'.alive = true → stage.alive = true
  held : stage'.reserved = true → stage'.Held command plane'.registry
  answers : stage.exchanged = true → ∀ receipt, stage'.receipt? = some receipt →
    plane'.registry.get command.key = some receipt ∧
      plane'.file.get command.key = some receipt ∧ command.Wrote receipt ∧ receipt.status.isTerminal = true

/-- A resumed call settles its receipt, if its peer tells the outcome. -/
theorem Resumed.settles (h : Resumed format plane command meets stage plane' stage' handed)
    (horderly : plane.Orderly) (hbegun : stage.begun = true → plane.journal.loaded = true)
    (hheld : stage.reserved = true → stage.Held command plane.registry)
    (houtcome : stage = .exchanging → ∀ reply turn_id outcome, meets.reply = .ok reply →
      PlaneState.readReply format command reply = .ok (turn_id, outcome) → outcome.isSome = true) :
    Settles format meets.disk plane command stage plane' stage' := by
  have htouched := PlaneState.Touched.of_resumed h horderly hbegun fun hreserved => by
    obtain ⟨receipt, hreceipt, hwrote, -⟩ := hheld hreserved
    exact ⟨receipt, hreceipt, hwrote⟩
  cases h with
  | enters hstage hloaded =>
    refine ⟨htouched, fun hbegun' => ?_, fun _ => rfl, fun hreserved => ?_, by nofun⟩
    · rcases hstage with hchecking | ⟨error, rfl⟩
      · exact PlaneState.loaded_of_ensureLoaded (hloaded hchecking)
      · cases hbegun'
    · rcases hstage with rfl | ⟨error, rfl⟩
      all_goals cases hreserved
  | replays hstage hexisting =>
    have hwas : stage.begun = true ∧ stage.exchanged = false := by
      rcases hstage with rfl | rfl
      all_goals exact ⟨rfl, rfl⟩
    refine ⟨htouched, fun _ => hbegun hwas.1, by nofun, by nofun, fun hexchanged => ?_⟩
    exact absurd (hwas.2.symm.trans hexchanged) Bool.false_ne_true
  | fails hstage | refuses hnone hwrote | reverts hprevious hleads hwrote hstage =>
    exact ⟨htouched, by nofun, by nofun, by nofun, fun _ _ hreceipt => by cases hreceipt⟩
  | checks hnone | resolves => exact ⟨htouched, fun _ => hbegun rfl, fun _ => rfl, by nofun, by nofun⟩
  | reserves hnone hwrote =>
    refine ⟨htouched, fun _ => htouched.loaded (hbegun rfl), fun _ => rfl, fun _ => ?_,
          fun _ _ hreceipt => by cases hreceipt⟩
    exact ⟨command.receipt, (hwrote.done rfl).1 ▸ hwrote.own, ⟨rfl, rfl, rfl⟩, rfl⟩
  | sends => exact ⟨htouched, fun _ => hbegun rfl, fun _ => rfl, fun _ => hheld rfl, by nofun⟩
  | accepts hmeets hreply =>
    refine ⟨htouched, fun _ => hbegun rfl, fun _ => rfl, fun _ => ?_, by nofun⟩
    obtain ⟨receipt, hreceipt, hwrote, hstatus⟩ := hheld rfl
    exact ⟨receipt, hreceipt, hwrote, hstatus, houtcome rfl _ _ _ hmeets hreply⟩
  | updates hprevious hleads hwrote hstage =>
    rename_i candidate previous receipt
    obtain ⟨hregistry, hfile⟩ := hwrote.done rfl
    have hown : plane'.registry.get command.key = some receipt := hregistry ▸ hwrote.own
    have hown' : plane'.file.get command.key = some receipt := hfile ▸ hwrote.own
    rcases hstage with ⟨turn_id, outcome, rfl, hacked, hstage'⟩ | ⟨terminal, outcome, acked, rfl, hterminal, rfl⟩
    · obtain ⟨previous', hprevious', hwrote', -, hsome⟩ := hheld rfl
      cases hprevious.symm.trans hprevious'
      rcases hstage' with ⟨rfl, rfl⟩ | ⟨error, rfl⟩ | ⟨final, terminal, -, hterminal, rfl⟩
      · cases hsome
      · exact ⟨htouched, by nofun, by nofun, by nofun, fun _ _ hreceipt => by cases hreceipt⟩
      · refine ⟨htouched, fun _ => htouched.loaded (hbegun rfl), fun _ => rfl, fun _ => ?_,
          fun _ _ hreceipt => by cases hreceipt⟩
        exact ⟨receipt, hown, hwrote'.leadsTo hleads, hacked, hterminal⟩
    · obtain ⟨previous', hprevious', hwrote', -, hends⟩ := hheld rfl
      cases hprevious.symm.trans hprevious'
      refine ⟨htouched, fun _ => htouched.loaded (hbegun rfl), by nofun, by nofun, ?_⟩
      rintro - receipt' ⟨⟩
      exact ⟨hown, hown', hwrote'.leadsTo hleads, hterminal ▸ hends⟩
  | keeps hkept =>
    obtain ⟨receipt, hreceipt, -, hacked, hterminal⟩ := hheld rfl
    have hstuck := hkept receipt hreceipt
    rw [hacked] at hstuck
    -- An acked receipt takes every terminal status.
    have hgoes : ∀ terminal : CommandStatus, terminal.isTerminal = true →
        CommandStatus.acked.canTransitionTo terminal = true := by
      intro terminal
      cases terminal
      all_goals decide
    exact absurd (hstuck.symm.trans (hgoes _ hterminal)) Bool.false_ne_true
  | rests => exact ⟨htouched, hbegun, by nofun, by nofun, by nofun⟩

/-- A command's receipt in receipts is terminal, if it is there. -/
def Receipts.Settles (receipts : Receipts) (command : Command) : Prop :=
  ∀ receipt, receipts.get command.key = some receipt → receipt.command_id = command.command_id →
    receipt.status.isTerminal = true ∧ command.Owns receipt

/-- A terminal receipt stays terminal. -/
theorem CommandReceipt.LeadsTo.terminal (h : receipt.LeadsTo later)
    (hterminal : receipt.status.isTerminal = true) : later.status.isTerminal = true := by
  have hstuck : ∀ status status' : CommandStatus, status.isTerminal = true →
      status.canTransitionTo status' = false := by
    intro status status'
    cases status
    all_goals
      cases status'
      all_goals decide
  rcases h.status with hsame | hgoes
  · exact hsame ▸ hterminal
  · exact absurd ((hstuck _ _ hterminal).symm.trans hgoes) Bool.false_ne_true

/-- What a call writes leaves the receipts of other commands settled. -/
theorem PlaneState.Touched.settles (h : plane.Touched format disk command plane') {answered : Command}
    (hother : answered.command_id ≠ command.command_id) (hregistry : Receipts.Settles plane.registry answered)
    (hfile : Receipts.Settles plane.file answered) :
    Receipts.Settles plane'.registry answered ∧ Receipts.Settles plane'.file answered := by
  cases h with
  | loads hloads _ =>
    refine ⟨fun receipt hreceipt => ?_, hloads.file ▸ hfile⟩
    rcases hloads.registry with ⟨hsame, -⟩ | ⟨-, -, hget⟩
    · exact hregistry receipt (hsame ▸ hreceipt)
    · exact hfile receipt ((hget _).symm.trans hreceipt)
  | writes hwrote hloaded hown =>
    rename_i written candidate ok
    have hcandidate : Receipts.Settles candidate answered := by
      intro receipt hreceipt hid
      by_cases hkey : answered.key = command.key
      · rw [hkey, hwrote.own] at hreceipt
        cases hreceipt
        rcases hown with ⟨-, rfl⟩ | ⟨previous, hprevious, hleads, -⟩
        · exact absurd hid.symm hother
        · obtain ⟨hterminal, howns⟩ := hregistry previous (hkey ▸ hprevious) (hleads.command_id.symm.trans hid)
          exact ⟨hleads.terminal hterminal, howns.leadsTo hleads⟩
      · rcases hwrote.others answered.key hkey with hsame | ⟨-, -, hnone⟩
        · exact hregistry receipt (hsame ▸ hreceipt) hid
        · cases hnone.symm.trans hreceipt
    cases ok with
    | true =>
      obtain ⟨hsame, hsame'⟩ := hwrote.done rfl
      exact ⟨hsame ▸ hcandidate, hsame' ▸ hcandidate⟩
    | false =>
      obtain ⟨hsame, -, hsame' | ⟨-, hsame'⟩⟩ := hwrote.undone rfl
      · exact ⟨fun receipt hreceipt => hregistry receipt (hsame _ ▸ hreceipt), hsame' ▸ hfile⟩
      · exact ⟨fun receipt hreceipt => hregistry receipt (hsame _ ▸ hreceipt), hsame' ▸ hcandidate⟩

/-- What a call writes leaves the receipts that other calls await. -/
theorem PlaneState.Touched.held (h : plane.Touched format disk command plane') {other : Command}
    {awaiting : Stage} (hloaded : plane.journal.loaded = true)
    (hother : other.command_id ≠ command.command_id) (hreserved : awaiting.reserved = true)
    (hheld : awaiting.Held other plane.registry) : awaiting.Held other plane'.registry := by
  obtain ⟨receipt, hreceipt, hwrote', hawaits⟩ := hheld
  suffices hsame : plane'.registry.get other.key = plane.registry.get other.key from
    ⟨receipt, hsame.trans hreceipt, hwrote', hawaits⟩
  cases h with
  | loads hloads _ =>
    rcases hloads.registry with ⟨hsame, -⟩ | ⟨hnot, -⟩
    · rw [hsame]
    · exact absurd (hloaded.symm.trans hnot) (by decide)
  | @writes written candidate ok hwrote _ hown =>
    have hkey : other.key ≠ command.key := by
      intro hkey
      rw [hkey] at hreceipt
      rcases hown with ⟨hnone, -⟩ | ⟨previous, hprevious, -, hwrote''⟩
      · cases hnone.symm.trans hreceipt
      · cases hprevious.symm.trans hreceipt
        exact hother (hwrote'.command_id.symm.trans hwrote''.command_id)
    have hcandidate : OrdMap.get candidate other.key = plane.registry.get other.key := by
      refine (hwrote.others other.key hkey).resolve_right fun ⟨_, ⟨_, evicted, hevicted, hends⟩, _⟩ => ?_
      -- What may be evicted is terminal, what is awaited is not.
      cases hreceipt.symm.trans hevicted
      have hnot : receipt.status.isTerminal = false := by
        cases awaiting with
        | dispatching | exchanging => exact hawaits ▸ rfl
        | acking turn_id outcome | finishing terminal outcome acked => exact hawaits.1 ▸ rfl
        | _ => cases hreserved
      exact absurd (hnot.symm.trans hends) Bool.false_ne_true
    cases ok with
    | true => rw [(hwrote.done rfl).1, hcandidate]
    | false => exact (hwrote.undone rfl).1 other.key

/-! ## Processes -/

namespace Process

/-- What is known of a process that used some ids and answered some commands. -/
structure Settled (process : Process) (used : List String)
    (answered : List (Command × CommandReceipt)) : Prop where
  orderly : process.plane.Orderly
  begun : ∀ call ∈ process.calls, call.2.begun = true → process.plane.journal.loaded = true
  ids : ∀ call ∈ process.calls, call.1.command_id ∈ used
  answered_ids : ∀ answer ∈ answered, answer.1.command_id ∈ used
  unique : ∀ (i j : ℕ) (first second : Command × Stage), process.calls[i]? = some first →
    process.calls[j]? = some second → first.1.command_id = second.1.command_id → i = j
  alive : ∀ call ∈ process.calls, call.2.alive = true →
    ∀ answer ∈ answered, answer.1.command_id ≠ call.1.command_id
  held : ∀ call ∈ process.calls, call.2.reserved = true → call.2.Held call.1 process.plane.registry
  settled : ∀ answer ∈ answered, answer.2.status.isTerminal = true ∧
    answer.1.Wrote answer.2 ∧ Receipts.Settles process.plane.registry answer.1 ∧
      Receipts.Settles process.plane.file answer.1

/-- An accepting reply to a call tells its outcome. -/
def TellsOutcome (format : ReceiptFormat) (process : Process) : ProcessInput → Prop
  | .resume index meets => ∀ command, process.calls[index]? = some (command, .exchanging) →
      ∀ reply turn_id outcome, meets.reply = .ok reply →
        PlaneState.readReply format command reply = .ok (turn_id, outcome) → outcome.isSome = true
  | _ => True

/-- The id that an input uses. -/
def id? : ProcessInput → Option String
  | .call command => some command.command_id
  | _ => none

/-- The commands that were answered, in order. -/
def answers (progress : List Progress) : List (Command × CommandReceipt) := progress.filterMap Progress.answered

variable {process : Process} {answered : List (Command × CommandReceipt)} {used : List String}
  {receipt : CommandReceipt} {inputs : List ProcessInput}

/-- The receipt that a resumed call is answered with. -/
theorem step_resume_answered {index : ℕ} {meets : Meets} {stage : Stage}
    (hcall : process.calls[index]? = some (command, stage)) :
    (step format process (.resume index meets)).2.answered = if stage.exchanged then
        (process.plane.resume format command meets stage).2.1.receipt?.map fun receipt => (command, receipt)
      else none := by
  dsimp only [step]
  rw [hcall]

section

variable (h : process.Settled used answered)
include h

/-- A resumed call keeps a process settled, and its answer is kept. -/
theorem Settled.resume (index : ℕ) (meets : Meets) (htells : TellsOutcome format process (.resume index meets)) :
    (step format process (.resume index meets)).1.Settled used
        (answered ++ (step format process (.resume index meets)).2.answered.toList) ∧
      ∀ answer ∈ (step format process (.resume index meets)).2.answered,
        Tracks (step format process (.resume index meets)).1.plane answer.1.key answer.2 := by
  cases hcall : process.calls[index]? with
  | none =>
    dsimp only [step]
    rw [hcall]
    refine ⟨?_, fun answer hanswer => absurd hanswer (not_mem_none answer)⟩
    dsimp only [toList_none]
    rwa [append_nil]
  | some call =>
    obtain ⟨command, stage⟩ := call
    have hmem : (command, stage) ∈ process.calls := mem_of_getElem? hcall
    have hresumed := PlaneState.resume_resumed format h.orderly.registry_nodup command meets stage
    have hsettles := hresumed.settles h.orderly (h.begun _ hmem) (h.held _ hmem) (by
      rintro rfl reply turn_id outcome hreply hread
      exact htells command hcall reply turn_id outcome hreply hread)
    set resumed := process.plane.resume format command meets stage with hdef
    have hplane : (step format process (.resume index meets)).1 =
        ⟨resumed.1, process.calls.set index (command, resumed.2.1)⟩ := by
      dsimp only [step]
      rw [hcall]
    have hnew : ∀ answer ∈ (step format process (.resume index meets)).2.answered,
        answer.1 = command ∧ stage.exchanged = true ∧ resumed.2.1.receipt? = some answer.2 := by
      intro answer hanswer
      rw [step_resume_answered hcall] at hanswer
      split_ifs at hanswer with hexchanged
      · rw [mem_def, map_eq_some_iff] at hanswer
        obtain ⟨receipt, hreceipt, rfl⟩ := hanswer
        exact ⟨rfl, hexchanged, hreceipt⟩
      · cases hanswer
    rw [hplane]
    set now := (step format process (.resume index meets)).2.answered with hnow
    have hother {j : ℕ} {call : Command × Stage} (hne : index ≠ j)
        (hold : process.calls[j]? = some call) : call.1.command_id ≠ command.command_id :=
      fun hid => hne (h.unique index j _ _ hcall hold hid.symm)
    refine ⟨⟨hsettles.touched.orderly h.orderly, ?_, ?_, ?_, ?_, ?_, ?_, ?_⟩, ?_⟩
    · intro call hcall' hbegun
      rcases mem_set_cases hcall' with rfl | ⟨j, -, hold⟩
      · exact hsettles.begun hbegun
      · exact hsettles.touched.loaded (h.begun _ (mem_of_getElem? hold) hbegun)
    · intro call hcall'
      rcases mem_set_cases hcall' with rfl | ⟨j, -, hold⟩
      · exact h.ids (command, stage) hmem
      · exact h.ids _ (mem_of_getElem? hold)
    · intro answer hanswer
      rcases mem_append.mp hanswer with hold | hanswer
      · exact h.answered_ids answer hold
      · rw [(hnew answer (mem_toList.mp hanswer)).1]
        exact h.ids _ hmem
    · intro i j first second hi hj hid
      rcases getElem?_set_cases hi with ⟨rfl, rfl⟩ | ⟨hne, hold⟩
      · rcases getElem?_set_cases hj with ⟨rfl, -⟩ | ⟨hne', hold'⟩
        · rfl
        · exact absurd hid.symm (hother hne' hold')
      · rcases getElem?_set_cases hj with ⟨rfl, rfl⟩ | ⟨hne', hold'⟩
        · exact absurd hid (hother hne hold)
        · exact h.unique i j first second hold hold' hid
    · intro call hcall' halive answer hanswer
      rcases mem_append.mp hanswer with hanswer | hanswer
      · rcases mem_set_cases hcall' with rfl | ⟨j, -, hold⟩
        · exact h.alive _ hmem (hsettles.alive halive) answer hanswer
        · exact h.alive _ (mem_of_getElem? hold) halive answer hanswer
      · obtain ⟨hcommand, -, hreceipt⟩ := hnew answer (mem_toList.mp hanswer)
        rcases mem_set_cases hcall' with rfl | ⟨j, hne, hold⟩
        · -- A call that is answered has returned.
          cases hstage : resumed.2.1 with
          | returned result =>
            rw [hstage] at halive
            cases halive
          | _ =>
            rw [hstage] at hreceipt
            cases hreceipt
        · rw [hcommand]
          exact (hother hne hold).symm
    · intro call hcall' hreserved
      rcases mem_set_cases hcall' with rfl | ⟨j, hne, hold⟩
      · exact hsettles.held hreserved
      · have hold' := mem_of_getElem? hold
        have hbegun : call.2.begun = true := by
          revert hreserved
          cases call.2
          all_goals simp [Stage.reserved, Stage.begun]
        exact hsettles.touched.held (h.begun _ hold' hbegun) (hother hne hold) hreserved (h.held _ hold' hreserved)
    · intro answer hanswer
      rcases mem_append.mp hanswer with hanswer | hanswer
      · obtain ⟨hterminal, hwrote, hregistry, hfile⟩ := h.settled answer hanswer
        cases halive : stage.alive with
        | true =>
          obtain ⟨hregistry', hfile'⟩ := hsettles.touched.settles (h.alive _ hmem halive answer hanswer) hregistry hfile
          exact ⟨hterminal, hwrote, hregistry', hfile'⟩
        | false =>
          -- A call that has returned does nothing.
          have hsame : resumed.1 = process.plane := by
            cases stage with
            | returned result => rfl
            | _ => cases halive
          rw [hsame]
          exact ⟨hterminal, hwrote, hregistry, hfile⟩
      · obtain ⟨hcommand, hexchanged, hreceipt⟩ := hnew answer (mem_toList.mp hanswer)
        obtain ⟨hregistry, hfile, hwrote, hterminal⟩ := hsettles.answers hexchanged _ hreceipt
        rw [hcommand]
        refine ⟨hterminal, hwrote, fun receipt hget _ => ?_, fun receipt hget _ => ?_⟩
        · cases hregistry.symm.trans hget
          exact ⟨hterminal, hwrote.owns⟩
        · cases hfile.symm.trans hget
          exact ⟨hterminal, hwrote.owns⟩
    · intro answer hanswer
      obtain ⟨hcommand, hexchanged, hreceipt⟩ := hnew answer hanswer
      obtain ⟨hregistry, hfile, -, -⟩ := hsettles.answers hexchanged _ hreceipt
      rw [hcommand]
      exact ⟨.of_get hfile, fun _ => .of_get hregistry⟩

variable (input : ProcessInput)

/-- A step keeps a process settled, where a new call draws an id that was not used. -/
theorem Settled.step (htells : TellsOutcome format process input) (hfresh : ∀ id, id? input = some id → id ∉ used) :
    (step format process input).1.Settled (used ++ (id? input).toList)
      (answered ++ (step format process input).2.answered.toList) := by
  cases input with
  | call command =>
    have hnew : command.command_id ∉ used := hfresh _ rfl
    have hcases {call : Command × Stage} (hcall : call ∈ process.calls ++ [(command, .entering)]) :
        call ∈ process.calls ∨ call = (command, .entering) := by
      simpa using hcall
    have hindex {j : ℕ} {call : Command × Stage}
        (hcall : (process.calls ++ [(command, Stage.entering)])[j]? = some call) :
        process.calls[j]? = some call ∨ j = process.calls.length ∧ call = (command, .entering) := by
      rw [getElem?_append] at hcall
      split_ifs at hcall with hlt
      · exact .inl hcall
      · refine .inr ⟨?_, mem_singleton.mp (mem_of_getElem? hcall)⟩
        have hlt' := (List.getElem?_eq_some_iff.mp hcall).1
        rw [length_singleton] at hlt'
        omega
    have hold {call : Command × Stage} (hcall : call ∈ process.calls) :
        call.1.command_id ≠ command.command_id := fun hid => hnew (hid ▸ h.ids call hcall)
    show Settled ⟨process.plane, process.calls ++ [(command, .entering)]⟩
      (used ++ [command.command_id]) (answered ++ [])
    rw [append_nil]
    refine ⟨h.orderly, ?_, ?_, ?_, ?_, ?_, ?_, h.settled⟩
    · intro call hcall hbegun
      rcases hcases hcall with hcall | rfl
      · exact h.begun call hcall hbegun
      · cases hbegun
    · intro call hcall
      rcases hcases hcall with hcall | rfl
      · exact mem_append_left _ (h.ids call hcall)
      · exact mem_append_right _ (mem_singleton.mpr rfl)
    · exact fun answer hanswer => mem_append_left _ (h.answered_ids answer hanswer)
    · intro i j first second hi hj hid
      rcases hindex hi with hi | ⟨rfl, rfl⟩
      · rcases hindex hj with hj | ⟨rfl, rfl⟩
        · exact h.unique i j first second hi hj hid
        · exact absurd hid (hold (mem_of_getElem? hi))
      · rcases hindex hj with hj | ⟨rfl, -⟩
        · exact absurd hid.symm (hold (mem_of_getElem? hj))
        · rfl
    · intro call hcall halive answer hanswer
      rcases hcases hcall with hcall | rfl
      · exact h.alive call hcall halive answer hanswer
      · exact fun hid => hnew (hid ▸ h.answered_ids answer hanswer)
    · intro call hcall hreserved
      rcases hcases hcall with hcall | rfl
      · exact h.held call hcall hreserved
      · cases hreserved
  | resume index meets =>
    show Settled _ (used ++ []) _
    rw [append_nil]
    exact (h.resume index meets htells).1
  | restart complaint locked =>
    obtain ⟨horderly, hfile, hget⟩ := start_orderly format h.orderly.file_nodup complaint locked
    have hcalls : (start format process.plane.file complaint locked).calls = [] := rfl
    have hnone {call : Command × Stage}
        (hcall : call ∈ (start format process.plane.file complaint locked).calls) : False := by
      rw [hcalls] at hcall
      exact not_mem_nil hcall
    show Settled (start format process.plane.file complaint locked) (used ++ []) (answered ++ [])
    rw [append_nil, append_nil]
    refine ⟨horderly, fun _ hcall => (hnone hcall).elim, fun _ hcall => (hnone hcall).elim,
      h.answered_ids, fun _ _ _ _ hcall => (hnone (mem_of_getElem? hcall)).elim,
      fun _ hcall => (hnone hcall).elim, fun _ hcall => (hnone hcall).elim, fun answer hanswer => ?_⟩
    obtain ⟨hterminal, hwrote, -, hsettled⟩ := h.settled answer hanswer
    refine ⟨hterminal, hwrote, fun receipt hreceipt => ?_, hfile.symm ▸ hsettled⟩
    by_cases hloaded : (start format process.plane.file complaint locked).plane.journal.loaded = true
    · exact hsettled receipt ((hget hloaded _).symm.trans hreceipt)
    · rw [horderly.unloaded (Bool.eq_false_iff.mpr hloaded)] at hreceipt
      cases hreceipt

/-- What a plane holds it holds after a step, where there is room. -/
theorem Settled.step_tracks (hroom : process.plane.registry.length < MAX_COMMAND_RECEIPTS) {key : String}
    (htracks : Tracks process.plane key receipt) : Tracks (Process.step format process input).1.plane key receipt := by
  cases input with
  | call command => exact htracks
  | resume index meets =>
    dsimp only [Process.step]
    cases hcall : process.calls[index]? with
    | none => exact htracks
    | some call =>
      obtain ⟨command, stage⟩ := call
      have hmem : (command, stage) ∈ process.calls := mem_of_getElem? hcall
      have hresumed := PlaneState.resume_resumed format h.orderly.registry_nodup command meets stage
      refine (PlaneState.Touched.of_resumed hresumed h.orderly (h.begun _ hmem)
        fun hreserved => ?_).tracks hroom htracks
      obtain ⟨receipt, hreceipt, hwrote, -⟩ := h.held _ hmem hreserved
      exact ⟨receipt, hreceipt, hwrote⟩
  | restart complaint locked =>
    obtain ⟨-, hfile, hget⟩ := start_orderly format h.orderly.file_nodup complaint locked
    obtain ⟨held, hheld, hleads⟩ := htracks.1
    exact ⟨⟨held, hfile.symm ▸ hheld, hleads⟩, fun hnow => ⟨held, (hget hnow key).trans hheld, hleads⟩⟩

/-- The receipt that answers a command is held. -/
theorem Settled.step_answered {input : ProcessInput}
    (htells : TellsOutcome format process input) {answer : Command × CommandReceipt}
    (hanswer : (Process.step format process input).2.answered = some answer) :
    Tracks (Process.step format process input).1.plane answer.1.key answer.2 ∧ answer.1.Wrote answer.2 := by
  cases input with
  | call command | restart complaint locked => cases hanswer
  | resume index meets =>
    obtain ⟨hsettled, htracks⟩ := h.resume index meets htells
    refine ⟨htracks answer hanswer, (hsettled.settled answer ?_).2.1⟩
    rw [hanswer]
    exact mem_append_right _ mem_cons_self

end

/-! ## Runs -/

/-- The ids that inputs use. -/
def drawnIds (inputs : List ProcessInput) : List String := inputs.filterMap id?

/-- Commands that were answered: their receipts answer later calls with the same key, session and kind;
they are kept as long as there is room, and make room when there is none. -/
structure AnswersSettle (format : ReceiptFormat) (process : Process) (inputs : List ProcessInput) :
    Prop where
  replayed : ∀ pre post answer, inputs = pre ++ post → answer ∈ answers ((machine format).outputs process pre) →
    ∀ receipt, ((machine format).run process pre).plane.registry.get answer.1.key = some receipt →
      receipt.command_id = answer.1.command_id → ∀ later : Command, later.key = answer.1.key →
        later.envelope.session = answer.1.envelope.session → later.kind = answer.1.kind →
          later.replayed ((machine format).run process pre).plane.registry = some (.ok receipt)
  kept : ∀ pre input mid post answer, inputs = pre ++ input :: mid ++ post →
    (Process.step format ((machine format).run process pre) input).2.answered = some answer →
    (machine format).Along (fun process _ => process.plane.registry.length < MAX_COMMAND_RECEIPTS)
      ((machine format).run process (pre ++ [input])) mid →
    ((machine format).run process (pre ++ input :: mid)).plane.journal.loaded = true →
    ∃ receipt, ((machine format).run process (pre ++ input :: mid)).plane.registry.get
      answer.1.key = some receipt ∧ receipt.command_id = answer.1.command_id
  evictable : ∀ pre post evicts, inputs = pre ++ post →
    PlaneState.evictable ((machine format).run process pre).plane.registry evicts = none →
    ∀ answer ∈ answers ((machine format).outputs process pre),
      ∀ receipt, ((machine format).run process pre).plane.registry.get answer.1.key = some receipt →
        receipt.command_id ≠ answer.1.command_id

/-- A process is settled after every run. -/
theorem run_settled (h : process.Settled [] []) (hids : (drawnIds inputs).Nodup)
    (htells : (machine format).Along (TellsOutcome format) process inputs) :
    ((machine format).run process inputs).Settled (drawnIds inputs)
      (answers ((machine format).outputs process inputs)) := by
  induction inputs using reverseRecOn with
  | nil => exact h
  | append_singleton inputs input ih =>
    rw [drawnIds, filterMap_append] at hids
    obtain ⟨hbefore, -, hdisjoint⟩ := nodup_append.mp hids
    obtain ⟨htells, hnow⟩ := (along_concat _ _ _ _ _).mp htells
    have hsettled := (ih hbefore htells).step input hnow fun id hid hused => by
      refine hdisjoint id hused id ?_ rfl
      rw [filterMap_cons, hid]
      exact mem_cons_self
    rw [run_concat, outputs_concat, drawnIds, answers, filterMap_append, filterMap_append]
    have hfilter {α β : Type} (f : α → Option β) (a : α) : [a].filterMap f = (f a).toList := by
      cases hf : f a
      all_goals simp [hf]
    rw [hfilter, hfilter]
    exact hsettled

/-- What a plane holds it holds along a run, where there is room. -/
theorem Settled.run_tracks (h : process.Settled used answered) (hids : (used ++ drawnIds inputs).Nodup)
    (htells : (machine format).Along (TellsOutcome format) process inputs) (hroom : (machine format).Along
      (fun process _ => process.plane.registry.length < MAX_COMMAND_RECEIPTS) process inputs) {key : String}
    (htracks : Tracks process.plane key receipt) : Tracks ((machine format).run process inputs).plane key receipt := by
  induction inputs generalizing process used answered with
  | nil => exact htracks
  | cons input inputs ih =>
    have hsplit : used ++ drawnIds (input :: inputs) = used ++ (id? input).toList ++ drawnIds inputs := by
      unfold drawnIds
      cases hid : id? input
      all_goals simp [hid]
    rw [hsplit] at hids
    have hfresh : ∀ id, id? input = some id → id ∉ used := by
      intro id hid hused
      rw [hid] at hids
      exact (nodup_append.mp (nodup_append.mp hids).1).2.2 id hused id (by simp) rfl
    rw [run_cons]
    exact ih (h.step input htells.1 hfresh) hids htells.2 hroom.2 (h.step_tracks input hroom.1 htracks)

end Process

/-- Where every accepting reply tells its outcome, the commands that were answered settle. -/
theorem answers_settle (format : ReceiptFormat) {file : Receipts} (hnodup : file.keys.Nodup)
    (complaint : Option String) (locked : Bool) {inputs : List ProcessInput} (hids : (drawnIds inputs).Nodup)
    (htells : (Process.machine format).Along (TellsOutcome format)
      (Process.start format file complaint locked) inputs) :
    AnswersSettle format (Process.start format file complaint locked) inputs := by
  set process := Process.start format file complaint locked with hprocess
  have hstart : process.Settled [] [] := by
    have hnone {call : Command × Stage} (hcall : call ∈ process.calls) : False := by
      rw [show process.calls = [] from rfl] at hcall
      exact not_mem_nil hcall
    exact ⟨(start_orderly format hnodup complaint locked).1,
      fun _ hcall => (hnone hcall).elim, fun _ hcall => (hnone hcall).elim,
      fun _ hanswer => absurd hanswer not_mem_nil, fun _ _ _ _ hcall => (hnone (mem_of_getElem? hcall)).elim,
      fun _ hcall => (hnone hcall).elim, fun _ hcall => (hnone hcall).elim,
      fun _ hanswer => absurd hanswer not_mem_nil⟩
  have hrun {pre post : List ProcessInput} (hinputs : inputs = pre ++ post) :
      ((Process.machine format).run process pre).Settled (drawnIds pre)
        (Process.answers ((Process.machine format).outputs process pre)) := by
    subst hinputs
    rw [drawnIds, filterMap_append] at hids
    exact run_settled hstart (nodup_append.mp hids).1
      ((along_append _ _ _ _ _).mp htells).1
  refine ⟨?_, ?_, ?_⟩
  · intro pre post answer hinputs hanswer receipt hreceipt hid later hkey hsession hkind
    obtain ⟨-, -, hsettles, -⟩ := (hrun hinputs).settled answer hanswer
    obtain ⟨hterminal, howns⟩ := hsettles receipt hreceipt hid
    unfold Command.replayed Command.answerOf
    rw [hkey, hreceipt, map_some, if_neg, if_pos hterminal]
    rw [not_or, not_not, not_not, hsession, hkind]
    exact howns
  · intro pre input mid post answer hinputs hanswer hroom hloaded
    rw [append_assoc, cons_append] at hinputs
    subst hinputs
    obtain ⟨-, hnow, hlater⟩ := (along_append _ _ _ _ _).mp htells
    have hbefore : ((Process.machine format).run process pre).Settled _ _ := hrun rfl
    obtain ⟨htracks, hwrote⟩ := hbefore.step_answered hnow hanswer
    have htracks : Tracks ((Process.machine format).run process (pre ++ [input])).plane
        answer.1.key answer.2 := by
      rw [run_concat]
      exact htracks
    have hafter : ((Process.machine format).run process (pre ++ [input])).Settled _ _ :=
      hrun (append_cons pre input (mid ++ post))
    have hfresh : (drawnIds (pre ++ [input]) ++ drawnIds mid).Nodup := by
      rw [append_cons, ← append_assoc] at hids
      unfold drawnIds at hids ⊢
      rw [filterMap_append, filterMap_append] at hids
      exact (nodup_append.mp hids).1
    rw [append_cons, run_append] at hloaded ⊢
    rw [← run_concat] at hlater
    have hlater' := ((along_append _ _ _ _ _).mp hlater).1
    obtain ⟨held, hheld, hleads⟩ := (hafter.run_tracks hfresh hlater' hroom htracks).2 hloaded
    exact ⟨held, hheld, hleads.command_id.trans hwrote.command_id⟩
  · intro pre post evicts hinputs hnone answer hanswer receipt hreceipt hid
    obtain ⟨-, -, hsettles, -⟩ := (hrun hinputs).settled answer hanswer
    obtain ⟨hterminal, -⟩ := hsettles receipt hreceipt hid
    unfold PlaneState.evictable at hnone
    split at hnone
    · cases hnone
    · have hall := find?_eq_none.mp hnone _ (OrdMap.mem_of_get hreceipt)
      exact hall hterminal

/-- Replies that all have an outcome tell it. -/
theorem Process.tellsOutcome_of_outcomes {format : ReceiptFormat} {process : Process} {inputs : List ProcessInput}
    (h : ∀ index meets reply, ProcessInput.resume index meets ∈ inputs → meets.reply = .ok reply →
      (reply.get "outcome").isSome = true) : (machine format).Along (TellsOutcome format) process inputs := by
  induction inputs generalizing process with
  | nil => trivial
  | cons input inputs ih =>
    refine ⟨?_, ih fun index meets reply hmem => h index meets reply (mem_cons_of_mem _ hmem)⟩
    cases input with
    | call command => trivial
    | restart complaint locked => trivial
    | resume index meets =>
      intro command _ reply turn_id outcome hreply hread
      have houtcome := h index meets reply mem_cons_self hreply
      unfold PlaneState.readReply at hread
      split_ifs at hread
      split at hread
      · cases hread
      · split_ifs at hread
        cases hread
        rw [isSome_map]
        exact houtcome

end

namespace Sample

/-- The peer accepts and tells that the prompt succeeded. -/
def succeeded : Json := .ofFields [("accepted", .bool true), ("session_id", .string "s"),
  ("outcome", .ofFields [("status", .string "succeeded")])]

/-- A command whose peer tells its outcome settles. -/
theorem told_outcome_settles : AnswersSettle receiptFormat (Process.start receiptFormat [] none false)
    (.call (prompt "gjc-cmd-1") :: exchange 0 succeeded ++ [.restart none false]) := by
  have hempty : (OrdMap.keys ([] : Receipts)).Nodup := nodup_nil
  refine answers_settle receiptFormat hempty none false (by decide)
    (tellsOutcome_of_outcomes fun index meets reply hmem hreply => ?_)
  simp only [exchange, mem_append, mem_cons, mem_replicate, not_mem_nil,
    or_false, ProcessInput.resume.injEq, reduceCtorEq, false_or] at hmem
  obtain ⟨-, -, rfl⟩ := hmem
  cases hreply
  rfl

/-- A command that is answered without an outcome is in flight for ever. -/
theorem answered_command_in_flight : ¬ AnswersSettle receiptFormat (Process.start receiptFormat [] none false)
    (.call (prompt "gjc-cmd-1") :: exchange 0 accepted) := by
  intro h
  set inputs : List ProcessInput := .call (prompt "gjc-cmd-1") :: exchange 0 accepted
    with hinputs
  set process := Process.start receiptFormat [] none false with hprocess
  have hanswers : (Process.answers ((Process.machine receiptFormat).outputs process inputs)).map
      Prod.fst = [prompt "gjc-cmd-1"] := by decide +kernel
  have hstatus : (((Process.machine receiptFormat).run process inputs).plane.registry.get
      "key-0001").map (fun receipt => (receipt.command_id, receipt.status)) =
        some ("gjc-cmd-1", .acked) := by decide +kernel
  obtain ⟨receipt, hreceipt, hpair⟩ := map_eq_some_iff.mp hstatus
  obtain ⟨hid, hacked⟩ := Prod.mk.inj hpair
  have hmem : prompt "gjc-cmd-1" ∈ (Process.answers
      ((Process.machine receiptFormat).outputs process inputs)).map Prod.fst := by
    rw [hanswers]
    exact mem_cons_self
  obtain ⟨answer, hanswer, hcommand⟩ := List.mem_map.mp hmem
  have hreplayed := h.replayed inputs [] answer (append_nil inputs).symm hanswer receipt
    (hcommand ▸ hreceipt) (hcommand ▸ hid) answer.1 rfl rfl rfl
  rw [hcommand] at hreplayed
  unfold Command.replayed at hreplayed
  rw [show (prompt "gjc-cmd-1").key = "key-0001" from rfl, hreceipt] at hreplayed
  unfold Command.answerOf at hreplayed
  rw [map_some] at hreplayed
  split_ifs at hreplayed with hother hterminal
  · cases hreplayed
  · rw [hacked] at hterminal
    cases hterminal
  · cases hreplayed

end Sample

end Clawhip.Gjc
