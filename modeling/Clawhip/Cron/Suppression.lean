import Clawhip.Cron.Scheduler

/-!
# Suppressed ticks

A tick is suppressed for a receipt that two validators may accept. `suppresses_healthy_iff` says when
the receipt of a suppressed tick is healthy: when it has no field that its validator does not read, or
reads as zero or false because it has another type.
-/

namespace Clawhip.Cron

open List Option

/-! ## Receipts -/

/-- The counts that a receipt may carry. -/
def countKeys : List String :=
  ["open_issues", "open_prs", "active_sessions_needing_action", "sessions_needing_action",
    "action_needed_sessions", "session_stale_events"]

/-- The flags that a receipt may carry. -/
def flagKeys : List String := ["approval_hold", "release_hold", "action_required"]

/-- A count that shows no backlog. -/
def Zero (receipt : Json) (key : String) : Prop :=
  ∀ count, receipt.get key = some count → count = .number (.posInt 0) ∨ count = .array []

/-- A flag that is not set. -/
def Unset (receipt : Json) (key : String) : Prop := ∀ flag, receipt.get key = some flag → flag = .bool false

/-- A receipt of a healthy and explicit zero backlog. -/
structure Healthy (receipt : Json) : Prop where
  api : githubApiFailed receipt = true → boolField receipt "fallback_evidence" = true
  counts : ∀ key ∈ countKeys, Zero receipt key
  flags : ∀ key ∈ flagKeys, Unset receipt key

/-- A count of another type than a number, which reads as zero. -/
def CountMistyped (receipt : Json) (key : String) : Prop :=
  ∃ count, receipt.get key = some count ∧ count.asU64 = none ∧ count ≠ .array []

/-- A flag of another type than a boolean, which reads as false. -/
def FlagMistyped (receipt : Json) (key : String) : Prop := ∃ flag, receipt.get key = some flag ∧ flag.asBool = none

/-- The fields that `is_full_zero_backlog_receipt` overlooks: it does not read `action_needed_sessions`
and `action_required`. -/
structure FullSound (receipt : Json) : Prop where
  counts : ∀ key ∈ ["active_sessions_needing_action", "sessions_needing_action",
    "session_stale_events"], ¬ CountMistyped receipt key
  flags : ∀ key ∈ ["approval_hold", "release_hold"], ¬ FlagMistyped receipt key
  sessions : Zero receipt "action_needed_sessions"
  required : Unset receipt "action_required"

/-- The fields that `is_lightweight_zero_backlog_checkpoint` overlooks: it does not read the state of the
API, nor the counts of the sessions. -/
structure LightweightSound (receipt : Json) : Prop where
  api : fallbackHasAuthority receipt = true
  count : ¬ CountMistyped receipt "action_needed_sessions"
  flags : ∀ key ∈ flagKeys, ¬ FlagMistyped receipt key
  sessions : ∀ key ∈ ["active_sessions_needing_action", "sessions_needing_action",
    "session_stale_events"], Zero receipt key

/-! ## Fields -/

theorem asU64_zero {count : Json} (h : count.asU64 = some 0) : count = .number (.posInt 0) := by
  cases count with
  | number n =>
    cases n with
    | posInt n =>
      cases h
      rfl
    | _ => cases h
  | _ => cases h

variable {key : String}

/-- A count that has to be zero is zero. -/
theorem zero_of_eq {receipt : Json} (h : numericField receipt key = some 0) : Zero receipt key := by
  intro count hcount
  unfold numericField at h
  rw [hcount] at h
  exact .inl (asU64_zero h)

/-- A count that reads as zero is zero, unless it has another type. -/
theorem zero_iff_of_default {receipt : Json}
    (h : (numericField receipt key).getD 0 = 0) : Zero receipt key ↔ ¬ CountMistyped receipt key := by
  unfold numericField at h
  constructor
  · rintro hzero ⟨count, hcount, hnone, hne⟩
    rcases hzero count hcount with rfl | rfl
    · cases hnone
    · exact hne rfl
  · intro hsound count hcount
    rw [hcount] at h
    have h : (count.asU64).getD 0 = 0 := h
    cases hnumber : count.asU64 with
    | none =>
      by_contra hne
      exact hsound ⟨count, hcount, hnumber, fun heq => hne (.inr heq)⟩
    | some n =>
      rw [hnumber] at h
      have h : n = 0 := h
      exact .inl (asU64_zero (h ▸ hnumber))

/-- A flag that reads as false is not set, unless it has another type. -/
theorem unset_iff_of_false {receipt : Json} (h : boolField receipt key = false) :
    Unset receipt key ↔ ¬ FlagMistyped receipt key := by
  unfold boolField at h
  constructor
  · rintro hunset ⟨flag, hflag, hnone⟩
    rw [hunset flag hflag] at hnone
    cases hnone
  · intro hsound flag hflag
    rw [hflag] at h
    have h : (flag.asBool).getD false = false := h
    cases flag with
    | bool b =>
      have h : b = false := h
      rw [h]
    | _ => exact absurd ⟨_, hflag, rfl⟩ hsound

/-! ## Validators -/

/-- When a receipt that the full validator accepts is healthy. -/
theorem healthy_iff_of_full {receipt : Json} (h : isFullZeroBacklogReceipt receipt = true) :
    Healthy receipt ↔ FullSound receipt := by
  simp only [isFullZeroBacklogReceipt, Bool.and_eq_true, Bool.not_eq_true', beq_iff_eq] at h
  obtain ⟨⟨⟨⟨⟨⟨⟨⟨⟨⟨-, -⟩, hissues⟩, hprs⟩, -⟩, hactive⟩, hsessions⟩, hstale⟩, happroval⟩, hrelease⟩, hauthority⟩ := h
  constructor
  · intro hhealthy
    refine ⟨fun key hkey => ?_, fun key hkey => ?_, hhealthy.counts _ (by decide), hhealthy.flags _ (by decide)⟩
    · simp only [mem_cons, not_mem_nil, or_false] at hkey
      rcases hkey with rfl | rfl | rfl
      · exact (zero_iff_of_default hactive).mp (hhealthy.counts _ (by decide))
      · exact (zero_iff_of_default hsessions).mp (hhealthy.counts _ (by decide))
      · exact (zero_iff_of_default hstale).mp (hhealthy.counts _ (by decide))
    · simp only [mem_cons, not_mem_nil, or_false] at hkey
      rcases hkey with rfl | rfl
      · exact (unset_iff_of_false happroval).mp (hhealthy.flags _ (by decide))
      · exact (unset_iff_of_false hrelease).mp (hhealthy.flags _ (by decide))
  · intro hsound
    refine ⟨fun hfailed => ?_, fun key hkey => ?_, fun key hkey => ?_⟩
    · simpa [fallbackHasAuthority, hfailed] using hauthority
    · simp only [countKeys, mem_cons, not_mem_nil, or_false] at hkey
      rcases hkey with rfl | rfl | rfl | rfl | rfl | rfl
      · exact zero_of_eq hissues
      · exact zero_of_eq hprs
      · exact (zero_iff_of_default hactive).mpr (hsound.counts _ (by decide))
      · exact (zero_iff_of_default hsessions).mpr (hsound.counts _ (by decide))
      · exact hsound.sessions
      · exact (zero_iff_of_default hstale).mpr (hsound.counts _ (by decide))
    · simp only [flagKeys, mem_cons, not_mem_nil, or_false] at hkey
      rcases hkey with rfl | rfl | rfl
      · exact (unset_iff_of_false happroval).mpr (hsound.flags _ (by decide))
      · exact (unset_iff_of_false hrelease).mpr (hsound.flags _ (by decide))
      · exact hsound.required

/-- When a checkpoint that the lightweight validator accepts is healthy. -/
theorem healthy_iff_of_lightweight {receipt : Json} (h : isLightweightZeroBacklogCheckpoint receipt = true) :
    Healthy receipt ↔ LightweightSound receipt := by
  simp only [isLightweightZeroBacklogCheckpoint, Bool.and_eq_true, Bool.not_eq_true', beq_iff_eq] at h
  obtain ⟨⟨⟨⟨⟨⟨⟨⟨⟨-, -⟩, hissues⟩, hprs⟩, hneeded⟩, happroval⟩, hrelease⟩, hrequired⟩, -⟩, -⟩ := h
  have hflag : ∀ key ∈ flagKeys, (Unset receipt key ↔ ¬ FlagMistyped receipt key) := by
    intro key hkey
    simp only [flagKeys, mem_cons, not_mem_nil, or_false] at hkey
    rcases hkey with rfl | rfl | rfl
    · exact unset_iff_of_false happroval
    · exact unset_iff_of_false hrelease
    · exact unset_iff_of_false hrequired
  constructor
  · intro hhealthy
    refine ⟨?_, (zero_iff_of_default hneeded).mp (hhealthy.counts _ (by decide)),
      fun key hkey => (hflag key hkey).mp (hhealthy.flags key hkey), fun key hkey => ?_⟩
    · unfold fallbackHasAuthority
      cases hfailed : githubApiFailed receipt with
      | true => exact hhealthy.api hfailed
      | false => rfl
    · refine hhealthy.counts key ?_
      simp only [mem_cons, not_mem_nil, or_false] at hkey
      rcases hkey with rfl | rfl | rfl <;> decide
  · intro hsound
    refine ⟨fun hfailed => ?_, fun key hkey => ?_, fun key hkey => (hflag key hkey).mpr (hsound.flags key hkey)⟩
    · simpa [fallbackHasAuthority, hfailed] using hsound.api
    · simp only [countKeys, mem_cons, not_mem_nil, or_false] at hkey
      rcases hkey with rfl | rfl | rfl | rfl | rfl | rfl
      · exact zero_of_eq hissues
      · exact zero_of_eq hprs
      · exact hsound.sessions _ (by decide)
      · exact hsound.sessions _ (by decide)
      · exact (zero_iff_of_default hneeded).mpr hsound.count
      · exact hsound.sessions _ (by decide)

/-! ## Ticks -/

def CronJob.receipt (job : CronJob) (env : Receipts) : Option Json := job.state_file.bind env.receipt

/-- A tick that is suppressed has a healthy receipt. -/
def SuppressesHealthy (state : CronSchedulerState) (job : CronJob) (env : Receipts)
    (scheduled_for : ℤ) : Prop :=
  state.suppresses job (job.state_file.bind env.evaluateStateFile) scheduled_for = true →
    ∃ receipt, job.receipt env = some receipt ∧ Healthy receipt

/-- A tick that is suppressed has a receipt that one of the validators accepts. -/
theorem receipt_of_suppresses {state : CronSchedulerState} {job : CronJob} {env : Receipts} {scheduled_for : ℤ}
    (h : state.suppresses job (job.state_file.bind env.evaluateStateFile) scheduled_for = true) :
    ∃ receipt, job.receipt env = some receipt ∧ isValidatedZeroBacklogReceipt receipt = true := by
  obtain ⟨eval, heval, hsuppress⟩ := (any_eq_true _ _).mp h
  obtain ⟨path, hpath, hevaluate⟩ := bind_eq_some_iff.mp heval
  obtain ⟨receipt, hreceipt, rfl⟩ := map_eq_some_iff.mp hevaluate
  refine ⟨receipt, bind_eq_some_iff.mpr ⟨path, hpath, hreceipt⟩, ?_⟩
  unfold shouldSuppress at hsuppress
  split_ifs at hsuppress with hno
  simp only [not_or, Bool.not_eq_false] at hno
  exact hno.2

/-- The receipt of a suppressed tick is healthy exactly if its validator overlooks nothing in it. -/
theorem suppresses_healthy_iff (state : CronSchedulerState) (job : CronJob) (env : Receipts)
    (scheduled_for : ℤ) : SuppressesHealthy state job env scheduled_for ↔
      (state.suppresses job (job.state_file.bind env.evaluateStateFile) scheduled_for = true →
        ∀ receipt, job.receipt env = some receipt →
          (isFullZeroBacklogReceipt receipt = true → FullSound receipt) ∧
            (isLightweightZeroBacklogCheckpoint receipt = true → LightweightSound receipt)) := by
  unfold SuppressesHealthy
  refine imp_congr_right fun hsuppresses => ?_
  obtain ⟨receipt, hreceipt, hvalid⟩ := receipt_of_suppresses hsuppresses
  unfold isValidatedZeroBacklogReceipt at hvalid
  constructor
  · rintro ⟨receipt', hreceipt', hhealthy⟩ receipt'' hreceipt''
    cases hreceipt'.symm.trans hreceipt''
    exact ⟨fun hfull => (healthy_iff_of_full hfull).mp hhealthy,
      fun hlight => (healthy_iff_of_lightweight hlight).mp hhealthy⟩
  · intro hsound
    obtain ⟨hfull, hlight⟩ := hsound receipt hreceipt
    refine ⟨receipt, hreceipt, ?_⟩
    rcases Bool.or_eq_true_iff.mp hvalid with h | h
    · exact (healthy_iff_of_full h).mpr (hfull h)
    · exact (healthy_iff_of_lightweight h).mpr (hlight h)

namespace Sample

/-- A checkpoint of a zero backlog that was observed while the API was limited. -/
def limitedCheckpoint : Json := .ofFields
  [("family", .string ZERO_BACKLOG_FOLLOWUP_CHECKPOINT_FAMILY), ("status", .string "validated"),
    ("open_issues", .ofNat 0), ("open_prs", .ofNat 0), ("github_api_status", .string "rate_limited"),
    ("stop_decision", .string "suppress-followup"), ("stop_decision_deterministic", .bool true)]

def followup : CronJob where
  id := "followup"
  schedule := "*/10 * * * *"
  state_file := some "repo.json"
  message := "check open PRs"

/-- A state file with a receipt. -/
def holding (receipt : Json) : Receipts where
  files _ := some "receipt"
  parse _ := some receipt

/-- The state after an event of the job was emitted. -/
def afterEvent (receipt : Json) : CronSchedulerState :=
  CronSchedulerState.emitted {} followup (some (evaluateReceipt receipt)) 0

variable (receipt : Json)

theorem receipt_holding : (holding receipt).receipt "repo.json" = some receipt := by
  have htrimmed : ¬ Text.trim "receipt" = "" := by decide +kernel
  simp [Receipts.receipt, holding, htrimmed]

theorem evaluate_holding :
    followup.state_file.bind (holding receipt).evaluateStateFile = some (evaluateReceipt receipt) :=
  congrArg (Option.map evaluateReceipt) (receipt_holding receipt)

/-- A checkpoint with a failed API suppresses the next tick. -/
theorem limited_checkpoint_suppresses :
    ¬ SuppressesHealthy (afterEvent limitedCheckpoint) followup (holding limitedCheckpoint) 600 := by
  have hvalid : isValidatedZeroBacklogReceipt limitedCheckpoint = true := by decide +kernel
  intro h
  obtain ⟨receipt, hreceipt, hhealthy⟩ := h (by
    rw [evaluate_holding]
    have hzero : (evaluateReceipt limitedCheckpoint).zero_backlog = true := hvalid
    simp [CronSchedulerState.suppresses, shouldSuppress, afterEvent, CronSchedulerState.emitted, hzero,
      followup, OrdMap.get_insert_self, asI64])
  have hsame : followup.receipt (holding limitedCheckpoint) = some limitedCheckpoint :=
    receipt_holding limitedCheckpoint
  cases hsame.symm.trans hreceipt
  have hevidence := hhealthy.api (by decide +kernel)
  revert hevidence
  decide +kernel

end Sample

end Clawhip.Cron
