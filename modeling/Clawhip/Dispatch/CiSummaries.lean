import Clawhip.Dispatch.CiBatch
import Mathlib.Data.Finset.Dedup

/-!
# What a CI summary says

The event of a batch that leaves, set against the events that joined the batch. It lists every job with its
last report and is a failure if and only if a job failed; it can say that the run has passed although jobs
are missing, or although a job came to an end that is no success.
-/

namespace Clawhip.Dispatch

open List Option OrdMap BatchedCiJob

/-! ## The reports of a batch -/

/-- The reports of some events on their jobs. -/
def reportsOf (events : List IncomingEvent) : List BatchedCiJob := events.map fun event => reportedJob event.payload

def lastReport (events : List IncomingEvent) (workflow : String) : Option BatchedCiJob :=
  (reportsOf events).reverse.find? fun job => job.workflow == workflow

def LastReported (events : List IncomingEvent) (job : BatchedCiJob) : Prop := lastReport events job.workflow = some job

/-- The workflows whose jobs are reported on. -/
def observedJobs (events : List IncomingEvent) : Finset String :=
  ((reportsOf events).map BatchedCiJob.workflow).toFinset

/-- The most jobs that an event says the run has. -/
def expectedJobs (events : List IncomingEvent) : ℕ :=
  events.foldl (fun expected event => max expected (ciRunJobCount event.payload)) 0

/-- A job that came to a good end. -/
def BatchedCiJob.Passed (job : BatchedCiJob) : Prop :=
  job.status = "completed" ∧ (job.conclusion = some "success" ∨ job.conclusion = some "neutral" ∨
      job.conclusion = some "skipped")

/-- All jobs of a run are there and passed. -/
def AllPassed (events : List IncomingEvent) : Prop :=
  expectedJobs events ≤ (observedJobs events).card ∧ ∀ job, LastReported events job → job.Passed

/-- An event tells the truth about the events that joined its batch. -/
structure Truthful (events : List IncomingEvent) (event : IncomingEvent) : Prop where
  jobs : ∃ jobs : List BatchedCiJob, event.payload.get "jobs" = some (.array (jobs.map BatchedCiJob.toJson)) ∧
      (jobs.map BatchedCiJob.workflow).Nodup ∧ ∀ job, job ∈ jobs ↔ LastReported events job
  failed : event.kind = "github.ci-failed" ↔ ∃ job, LastReported events job ∧ isFailure job = true
  passed : event.kind = "github.ci-passed" → AllPassed events

/-- A job failed, or has not come to its end, or was cancelled where none passed or was skipped, or all
passed. -/
def Summable (events : List IncomingEvent) : Prop :=
  (∃ job, LastReported events job ∧ isFailure job = true) ∨
    (∃ job, LastReported events job ∧ isTerminalJob job = false) ∨
    ((∃ job, LastReported events job ∧ job.conclusion = some "cancelled") ∧
      ∀ job, LastReported events job → ¬ job.Passed) ∨
    AllPassed events

/-- The batch holds what the events reported. -/
structure Gathers (events : List IncomingEvent) (batch : PendingCiBatch) : Prop where
  nodup : batch.jobs.keys.Nodup
  get : ∀ workflow, batch.jobs.get workflow = lastReport events workflow
  expected : batch.expected_jobs = expectedJobs events

variable {events : List IncomingEvent} {batch : PendingCiBatch} {job : BatchedCiJob} (event : IncomingEvent)

theorem lastReport_concat (workflow : String) : lastReport (events ++ [event]) workflow =
      if (reportedJob event.payload).workflow = workflow then some (reportedJob event.payload)
      else lastReport events workflow := by
  unfold lastReport reportsOf
  rw [map_append, map_singleton, reverse_append, reverse_singleton, singleton_append, find?_cons]
  by_cases hsame : (reportedJob event.payload).workflow = workflow
  · rw [if_pos hsame, beq_iff_eq.mpr hsame]
  · rw [if_neg hsame, beq_eq_false_iff_ne.mpr hsame]

theorem lastReport_workflow {workflow : String} (h : lastReport events workflow = some job) : job.workflow = workflow :=
  beq_iff_eq.mp (find?_some (p := fun job : BatchedCiJob => job.workflow == workflow) h)

theorem expectedJobs_concat :
    expectedJobs (events ++ [event]) = max (expectedJobs events) (ciRunJobCount event.payload) := by
  unfold expectedJobs
  rw [foldl_append, foldl_cons, foldl_nil]

/-- The batch that an event opens. -/
theorem gathers_fresh (window : ℕ) (event : IncomingEvent) (now : ℕ) :
    Gathers [event] (absorbCiEvent (freshCiBatch window event now) event) := by
  have hevents : [event] = [] ++ [event] := rfl
  have hnil : (keys ([] : OrdMap String BatchedCiJob)).Nodup := nodup_nil
  refine ⟨nodup_insert hnil _ _, fun workflow => ?_, ?_⟩
  · show get (insert [] _ _) workflow = _
    rw [hevents, lastReport_concat, get_insert]
    simp only [eq_comm]
    rfl
  · show max (ciRunJobCount event.payload) (ciRunJobCount event.payload) = _
    rw [hevents, expectedJobs_concat, Nat.max_self]
    exact (Nat.zero_max _).symm

/-- An event that joins a batch. -/
theorem Gathers.absorb (h : Gathers events batch) (event : IncomingEvent) :
    Gathers (events ++ [event]) (absorbCiEvent batch event) := by
  refine ⟨nodup_insert h.nodup _ _, fun workflow => ?_, ?_⟩
  · show OrdMap.get (insert batch.jobs _ _) workflow = _
    rw [lastReport_concat, get_insert, h.get]
    simp only [eq_comm]
  · show max batch.expected_jobs (ciRunJobCount event.payload) = _
    rw [expectedJobs_concat, h.expected]

/-! ## The event of a batch -/

/-- The jobs of a batch in the order in which its event lists them. -/
def PendingCiBatch.sortedJobs (batch : PendingCiBatch) : List BatchedCiJob :=
  batch.jobs.values.mergeSort fun left right => decide (left.workflow ≤ right.workflow)

namespace Gathers

section

variable (h : Gathers events batch)
include h

theorem mem_values : job ∈ batch.jobs.values ↔ LastReported events job := by
  unfold values
  rw [List.mem_map]
  constructor
  · rintro ⟨⟨workflow, job'⟩, hmem, rfl⟩
    have hget := get_of_mem h.nodup hmem
    rw [h.get] at hget
    show lastReport events job'.workflow = some job'
    rw [lastReport_workflow hget]
    exact hget
  · intro hlast
    have hget : batch.jobs.get job.workflow = some job := (h.get _).trans hlast
    exact ⟨(job.workflow, job), mem_of_get hget, rfl⟩

theorem mem_sortedJobs : job ∈ batch.sortedJobs ↔ LastReported events job := mem_mergeSort.trans h.mem_values

/-- A job is filed under its workflow. -/
theorem map_workflow_values : batch.jobs.values.map workflow = batch.jobs.keys := by
  unfold values OrdMap.keys
  rw [List.map_map]
  refine map_congr_left fun p hp => ?_
  have hget := get_of_mem h.nodup hp
  rw [h.get] at hget
  exact lastReport_workflow hget

theorem nodup_sortedJobs : (batch.sortedJobs.map workflow).Nodup := by
  have hperm := (mergeSort_perm batch.jobs.values
    fun left right => decide (left.workflow ≤ right.workflow)).map workflow
  rw [h.map_workflow_values] at hperm
  exact hperm.nodup_iff.mpr h.nodup

theorem countP_pos (p : BatchedCiJob → Bool) :
    0 < batch.sortedJobs.countP p ↔ ∃ job, LastReported events job ∧ p job = true := by
  rw [countP_pos_iff]
  simp only [h.mem_sortedJobs]

theorem all_terminal : batch.sortedJobs.all isTerminalJob = true ↔
      ∀ job, LastReported events job → isTerminalJob job = true := by
  rw [List.all_eq_true]
  simp only [h.mem_sortedJobs]

end

end Gathers

/-! ## Truth, batch by batch -/

variable (batch : PendingCiBatch)

theorem flushedCiEvent_kind :
    (flushedCiEvent batch).kind = if 0 < batch.sortedJobs.countP isFailure then "github.ci-failed"
      else if batch.sortedJobs.all isTerminalJob then
        if 0 < batch.sortedJobs.countP (fun job => job.conclusion == some "cancelled") ∧
            batch.sortedJobs.countP (fun job =>
              job.conclusion == some "success" || job.conclusion == some "neutral") = 0 ∧
            batch.sortedJobs.countP (fun job => job.conclusion == some "skipped") = 0
        then "github.ci-cancelled" else "github.ci-passed" else "github.ci-started" := rfl

/-- The last of some fields is that of its name. -/
theorem get_ofFields_concat (fields : List (String × Json)) (key : String) (value : Json) :
    (Json.ofFields (fields ++ [(key, value)])).get key = some value := by
  show get (foldl _ [] (fields ++ [(key, value)])) key = some value
  rw [foldl_append, foldl_cons, foldl_nil]
  exact get_insert_self _ key value

theorem flushedCiEvent_jobs :
    (flushedCiEvent batch).payload.get "jobs" = some (.array (batch.sortedJobs.map toJson)) := by
  generalize batch.jobs.values.mergeSort _ = jobs
  exact get_ofFields_concat [_, _, _, _, _, _, _, _, _, _, _] "jobs" _

namespace Gathers

/-- A batch is a failure if and only if a job failed. -/
theorem kind_failed_iff (h : Gathers events batch) : (flushedCiEvent batch).kind = "github.ci-failed" ↔
      ∃ job, LastReported events job ∧ isFailure job = true := by
  rw [flushedCiEvent_kind, ← h.countP_pos isFailure]
  split_ifs with hfailed <;> simp [hfailed]

/-- A batch has passed unless something is known against it. -/
theorem kind_passed_iff (h : Gathers events batch) : (flushedCiEvent batch).kind = "github.ci-passed" ↔
      (∀ job, LastReported events job → isFailure job = false) ∧
      (∀ job, LastReported events job → isTerminalJob job = true) ∧
      ((∃ job, LastReported events job ∧ job.conclusion = some "cancelled") →
        ∃ job, LastReported events job ∧ job.Passed) := by
  have hfailed := h.countP_pos isFailure
  have hterminal := h.all_terminal
  have hcancelled := h.countP_pos fun job => job.conclusion == some "cancelled"
  have hpassed := h.countP_pos fun job => job.conclusion == some "success" || job.conclusion == some "neutral"
  have hskipped := h.countP_pos fun job => job.conclusion == some "skipped"
  simp only [beq_iff_eq, Bool.or_eq_true] at hcancelled hpassed hskipped
  rw [flushedCiEvent_kind]
  by_cases hfails : ∃ job, LastReported events job ∧ isFailure job = true
  · rw [if_pos (hfailed.mpr hfails)]
    obtain ⟨job, hjob, hfails⟩ := hfails
    exact ⟨fun hkind => absurd hkind (by decide), fun hgood =>
      absurd (hgood.1 job hjob) (by rw [hfails]; exact Bool.noConfusion)⟩
  rw [if_neg fun hpos => hfails (hfailed.mp hpos)]
  have hnone : ∀ job, LastReported events job → isFailure job = false := fun job hjob =>
    Bool.eq_false_iff.mpr fun hfail => hfails ⟨job, hjob, hfail⟩
  by_cases hends : ∀ job, LastReported events job → isTerminalJob job = true
  · rw [if_pos (hterminal.mpr hends)]
    -- Of jobs that have ended, those passed that have one of the three conclusions.
    have hgood : (∃ job, LastReported events job ∧ job.Passed) ↔ 0 < batch.sortedJobs.countP (fun job =>
          job.conclusion == some "success" || job.conclusion == some "neutral") ∨
        0 < batch.sortedJobs.countP (fun job => job.conclusion == some "skipped") := by
      rw [hpassed, hskipped]
      constructor
      · rintro ⟨job, hjob, -, hsuccess | hneutral | hskipped⟩
        · exact .inl ⟨job, hjob, .inl hsuccess⟩
        · exact .inl ⟨job, hjob, .inr hneutral⟩
        · exact .inr ⟨job, hjob, hskipped⟩
      · have hcompleted (job : BatchedCiJob) (hjob : LastReported events job) :
            job.status = "completed" := beq_iff_eq.mp (hends job hjob)
        rintro (⟨job, hjob, hsuccess | hneutral⟩ | ⟨job, hjob, hskipped⟩)
        · exact ⟨job, hjob, hcompleted job hjob, .inl hsuccess⟩
        · exact ⟨job, hjob, hcompleted job hjob, .inr (.inl hneutral)⟩
        · exact ⟨job, hjob, hcompleted job hjob, .inr (.inr hskipped)⟩
    rw [hgood, ← hcancelled]
    split_ifs with hcounts
    · refine ⟨fun hkind => absurd hkind (by decide), fun hkind => ?_⟩
      have hsome := hkind.2.2 hcounts.1
      omega
    · refine ⟨fun _ => ⟨hnone, hends, fun hpos => ?_⟩, fun _ => rfl⟩
      omega
  · rw [if_neg fun hall => hends (hterminal.mp hall)]
    exact ⟨fun hkind => absurd hkind (by decide), fun hgood => absurd hgood.2.1 hends⟩

/-- The event of a batch is truthful if and only if a job failed, or has not come to its end, or was
cancelled where none passed, or all passed. -/
theorem truthful_iff (h : Gathers events batch) : Truthful events (flushedCiEvent batch) ↔ Summable events := by
  constructor
  · intro htruthful
    by_cases hfails : ∃ job, LastReported events job ∧ isFailure job = true
    · exact .inl hfails
    by_cases hruns : ∃ job, LastReported events job ∧ isTerminalJob job = false
    · exact .inr (.inl hruns)
    by_cases hcancelled : (∃ job, LastReported events job ∧ job.conclusion = some "cancelled") ∧
        ∀ job, LastReported events job → ¬ job.Passed
    · exact .inr (.inr (.inl hcancelled))
    refine .inr (.inr (.inr (htruthful.passed (h.kind_passed_iff.mpr ⟨?_, ?_, ?_⟩))))
    · exact fun job hjob => Bool.eq_false_iff.mpr fun hfail => hfails ⟨job, hjob, hfail⟩
    · exact fun job hjob => Bool.eq_true_of_not_eq_false fun hrun => hruns ⟨job, hjob, hrun⟩
    · intro hsome
      by_contra hnone
      exact hcancelled ⟨hsome, fun job hjob hpassed => hnone ⟨job, hjob, hpassed⟩⟩
  · intro hsummable
    refine ⟨⟨batch.sortedJobs, flushedCiEvent_jobs batch, h.nodup_sortedJobs,
      fun job => h.mem_sortedJobs⟩, h.kind_failed_iff, fun hkind => ?_⟩
    obtain ⟨hnone, hends, hgood⟩ := h.kind_passed_iff.mp hkind
    rcases hsummable with ⟨job, hjob, hfail⟩ | ⟨job, hjob, hrun⟩ | ⟨hcancelled, hbad⟩ | hall
    · exact absurd (hnone job hjob) (by rw [hfail]; exact Bool.noConfusion)
    · exact absurd (hends job hjob) (by rw [hrun]; exact Bool.noConfusion)
    · obtain ⟨job, hjob, hpassed⟩ := hgood hcancelled
      exact absurd hpassed (hbad job hjob)
    · exact hall

end Gathers

/-! ## Runs -/

namespace GitHubCiBatcher

open Batcher

/-- The events of a key that a call observes. -/
def observedOf (key : String) : Input IncomingEvent → List IncomingEvent
  | .observe event _ => if ciBatchKey event.payload = key then [event] else []
  | .flushDue _ => []

/-- The events that wait in the batch of a key after some calls: they are forgotten when the batch
leaves. -/
def waitingFrom (codec : BatchKeyCodec) (key : String) :
    GitHubCiBatcher → List IncomingEvent → List (Input IncomingEvent) → List IncomingEvent
  | _, events, [] => events
  | s, events, i :: is =>
    let next := ((Batcher.machine ciBatching codec).step s i).1
    waitingFrom codec key next
      (if (next.pending.get key).isNone then [] else events ++ observedOf key i) is

/-- The events in the batch of a key are these. -/
def Waits (s : GitHubCiBatcher) (key : String) (events : List IncomingEvent) : Prop :=
  (s.pending.get key = none ∧ events = []) ∨ ∃ batch, s.pending.get key = some batch ∧ Gathers events batch

variable {codec : BatchKeyCodec} {s : GitHubCiBatcher} {key : String} {event : IncomingEvent}

theorem Waits.joined (h : Waits s (ciBatchKey event.payload) events) (now : ℕ) :
    Gathers (events ++ [event]) (joined ciBatching s event now) := by
  unfold Batcher.joined
  rcases h with ⟨hnone, rfl⟩ | ⟨batch, hbatch, hgathers⟩
  · rw [show s.pending.get (ciBatching.key event) = none from hnone]
    exact gathers_fresh s.window_ms event now
  · rw [show s.pending.get (ciBatching.key event) = some batch from hbatch]
    exact hgathers.absorb event

/-- What a call does to the events of a key: they wait, or leave with those that it observes. -/
theorem Waits.step (h : Waits s key events) (i : Input IncomingEvent) :
    Waits ((Batcher.machine ciBatching codec).step s i).1 key
        (if (((Batcher.machine ciBatching codec).step s i).1.pending.get key).isNone then []
        else events ++ observedOf key i) ∧ ∀ batch, (key, batch) ∈ ((Batcher.machine ciBatching codec).step s i).2 →
        Gathers (events ++ observedOf key i) batch := by
  cases i with
  | observe event now =>
    rw [step_observe]
    have hpassed {batch : PendingCiBatch} (hbatch : (key, batch) ∈ (Batcher.observe ciBatching codec s event now).2) :
        ciBatchKey event.payload = key ∧ batch = Batcher.joined ciBatching s event now := by
      unfold Batcher.observe at hbatch
      simp only at hbatch
      split_ifs at hbatch
      · obtain ⟨hsame, rfl⟩ := Prod.mk.inj (mem_singleton.mp hbatch)
        exact ⟨hsame.symm, rfl⟩
      · cases hbatch
    by_cases hkey : ciBatchKey event.payload = key
    · subst hkey
      have hjoined := h.joined now
      have hobserved : observedOf (ciBatchKey event.payload) (.observe event now) = [event] := if_pos rfl
      have hget := @observe_get _ _ ciBatching codec s event now (ciBatchKey event.payload)
      rw [if_pos (show ciBatchKey event.payload = ciBatching.key event from rfl)] at hget
      rw [hobserved]
      refine ⟨?_, fun batch hbatch => ?_⟩
      · cases hcomplete : ciBatching.complete (Batcher.joined ciBatching s event now) with
        | true =>
          rw [hcomplete, if_pos rfl] at hget
          exact .inl ⟨hget, by rw [hget]; rfl⟩
        | false =>
          rw [hcomplete, if_neg Bool.false_ne_true] at hget
          refine .inr ⟨_, hget, ?_⟩
          rw [hget]
          exact hjoined
      · rw [(hpassed hbatch).2]
        exact hjoined
    · have hobserved : observedOf key (.observe event now) = [] := if_neg hkey
      have hget := @observe_get _ _ ciBatching codec s event now key
      rw [if_neg fun hsame => hkey hsame.symm] at hget
      rw [hobserved, append_nil, hget]
      refine ⟨?_, fun batch hbatch => ?_⟩
      · rcases h with ⟨hnone, rfl⟩ | ⟨batch, hbatch, hgathers⟩
        · exact .inl ⟨hget.trans hnone, by rw [hnone]; rfl⟩
        · refine .inr ⟨batch, hget.trans hbatch, ?_⟩
          rw [hbatch]
          exact hgathers
      · exact absurd (hpassed hbatch).1 hkey
  | flushDue now =>
    rw [step_flushDue, show observedOf key (.flushDue now) = [] from rfl, append_nil]
    have hwaits {batch : PendingCiBatch} (hbefore : s.pending.get key = some batch) : Gathers events batch := by
      rcases h with ⟨hnone, -⟩ | ⟨batch', hbatch', hgathers⟩
      · cases hnone.symm.trans hbefore
      · obtain rfl := some.inj (hbatch'.symm.trans hbefore)
        exact hgathers
    refine ⟨?_, fun batch hbatch => hwaits (get_of_mem_flushDue hbatch)⟩
    cases hget : (Batcher.flushDue ciBatching codec s now).1.pending.get key with
    | none => exact .inl ⟨hget, rfl⟩
    | some batch => exact .inr ⟨batch, hget, hwaits (flushDue_get_some hget)⟩

variable (codec) in
theorem Waits.run (h : Waits s key events) (is : List (Input IncomingEvent)) :
    Waits ((Batcher.machine ciBatching codec).run s is) key (waitingFrom codec key s events is) := by
  induction is generalizing s events with
  | nil => exact h
  | cons i is ih => exact ih (h.step i).1

/-- The event of every batch that leaves, early or when its window has passed, is truthful about the events
that waited in the batch if and only if a job failed, or has not come to its end, or was cancelled where none
passed, or all jobs of the run are there and passed. -/
theorem ci_summaries_truthful_iff (codec : BatchKeyCodec) (window_ms start_ms : ℕ)
    (is : List (Input IncomingEvent)) (i : Input IncomingEvent) (key : String) (batch : PendingCiBatch)
    (h : (key, batch) ∈ ((Batcher.machine ciBatching codec).step
      ((Batcher.machine ciBatching codec).run (new window_ms start_ms) is) i).2) :
    Truthful (waitingFrom codec key (new window_ms start_ms) [] is ++ observedOf key i) (flushedCiEvent batch) ↔
      Summable (waitingFrom codec key (new window_ms start_ms) [] is ++ observedOf key i) := by
  have hwaits : Waits (new window_ms start_ms) key [] := .inl ⟨rfl, rfl⟩
  exact (((hwaits.run codec is).step i).2 batch h).truthful_iff

/-! ## A build that comes to its end -/

namespace Sample

/-- The last report on the build of one run. -/
def endedBuild (conclusion : String) : IncomingEvent where
  kind := "github.ci-passed"
  channel := none
  mention := none
  format := none
  template := none
  payload := .ofFields [("repo", .string "clawhip"), ("number", .ofNat 58), ("sha", .string "4f2c"),
    ("url", .string "https://github.com/o/clawhip/actions/runs/9/job/1"),
    ("workflow", .string "build"), ("status", .string "completed"),
    ("conclusion", .string conclusion), ("run_all_terminal", .bool true)]

/-- The batch of the run when it comes to its end a second after it was started. -/
def endedBatch (conclusion : String) : PendingCiBatch :=
  joined ciBatching ((Batcher.machine ciBatching compactJson).run (new 30000 0)
    [.observe (buildReport "in_progress" false) 0]) (endedBuild conclusion) 1000

/-- A batch that is complete leaves at once. -/
theorem joined_leaves {batcher : GitHubCiBatcher} {now : ℕ}
    (hcomplete : ciBatching.complete (joined ciBatching batcher event now) = true) :
    (ciBatchKey event.payload, joined ciBatching batcher event now) ∈
      ((Batcher.machine ciBatching compactJson).step batcher (.observe event now)).2 := by
  rw [step_observe]
  unfold Batcher.observe
  rw [if_pos hcomplete]
  exact mem_singleton.mpr rfl

/-- The batch leaves at once. -/
theorem endedBatch_leaves (conclusion : String) (hcomplete : isComplete (endedBatch conclusion) = true) :
    (ciBatchKey (endedBuild conclusion).payload, endedBatch conclusion) ∈
      ((Batcher.machine ciBatching compactJson).step ((Batcher.machine ciBatching compactJson).run
        (new 30000 0) [.observe (buildReport "in_progress" false) 0]) (.observe (endedBuild conclusion) 1000)).2 :=
    joined_leaves hcomplete

variable {event event' : IncomingEvent} {job : BatchedCiJob}

/-- Of two reports on one workflow the second is the last one. -/
theorem eq_of_lastReported_pair (hsame : (reportedJob event.payload).workflow = (reportedJob event'.payload).workflow)
    (h : LastReported [event, event'] job) : job = reportedJob event'.payload := by
  have hpair : [event, event'] = [] ++ [event] ++ [event'] := rfl
  rw [LastReported, hpair, lastReport_concat, lastReport_concat, hsame] at h
  split_ifs at h with hlast
  · exact (some.inj h).symm
  · cases h

/-- The last report on the build is the second one. -/
theorem eq_of_lastReported (h : LastReported [buildReport "in_progress" false, endedBuild "success"] job) :
    job = reportedJob (endedBuild "success").payload :=
  eq_of_lastReported_pair (by decide +kernel) h

/-- What waits after two events of one batch. -/
theorem waitingFrom_pair {key : String} {now now' : ℕ}
    {batcher : Batcher PendingCiBatch} (hkey : ciBatchKey event.payload = key)
    (hkey' : ciBatchKey event'.payload = key) (hpending : (((Batcher.machine ciBatching compactJson).step batcher
      (.observe event now)).1.pending.get key).isNone = false) :
    waitingFrom compactJson key batcher [] [.observe event now] ++ observedOf key (.observe event' now') =
      [event, event'] := by
  rw [waitingFrom, waitingFrom, hpending, if_neg Bool.false_ne_true, observedOf, observedOf, hkey, hkey',
    if_pos rfl, if_pos rfl]
  rfl

theorem events_endedBatch {conclusion : String}
    (hkey : ciBatchKey (buildReport "in_progress" false).payload = ciBatchKey (endedBuild conclusion).payload)
    (hpending : (((Batcher.machine ciBatching compactJson).step (new 30000 0)
      (.observe (buildReport "in_progress" false) 0)).1.pending.get
        (ciBatchKey (endedBuild conclusion).payload)).isNone = false) :
    waitingFrom compactJson (ciBatchKey (endedBuild conclusion).payload) (new 30000 0) []
        [.observe (buildReport "in_progress" false) 0] ++
      observedOf (ciBatchKey (endedBuild conclusion).payload) (.observe (endedBuild conclusion) 1000) =
    [buildReport "in_progress" false, endedBuild conclusion] :=
  waitingFrom_pair hkey rfl hpending

/-- A run whose build is a success is rightly said to have passed. -/
theorem passed_build_is_truthful :
    Truthful (waitingFrom compactJson (ciBatchKey (endedBuild "success").payload) (new 30000 0) []
        [.observe (buildReport "in_progress" false) 0] ++
      observedOf (ciBatchKey (endedBuild "success").payload) (.observe (endedBuild "success") 1000))
      (flushedCiEvent (endedBatch "success")) := by
  refine (ci_summaries_truthful_iff compactJson 30000 0 _ _ _ _
    (endedBatch_leaves "success" (by decide +kernel))).mpr (.inr (.inr (.inr ⟨?_, fun job hjob => ?_⟩)))
  · decide +kernel
  · have hevents := @events_endedBatch "success" (by decide +kernel) (by decide +kernel)
    have hlast : job = reportedJob (endedBuild "success").payload :=
      eq_of_lastReported ((congrArg (fun events => LastReported events job) hevents).mp hjob)
    subst hlast
    exact ⟨by decide +kernel, .inl (by decide +kernel)⟩

/-- A run whose build is stale is said to have passed. -/
theorem stale_build_is_announced_as_passed :
    ¬ ∀ (is : List (Input IncomingEvent)) (i : Input IncomingEvent) (key : String)
        (batch : PendingCiBatch), (key, batch) ∈ ((Batcher.machine ciBatching compactJson).step
          ((Batcher.machine ciBatching compactJson).run (new 30000 0) is) i).2 →
        Truthful (waitingFrom compactJson key (new 30000 0) [] is ++ observedOf key i)
          (flushedCiEvent batch) := by
  intro hall
  have htruthful := hall _ _ _ _ (endedBatch_leaves "stale" (by decide +kernel))
  have hkind : (flushedCiEvent (endedBatch "stale")).kind = "github.ci-passed" := by decide +kernel
  have htold : Truthful [buildReport "in_progress" false, endedBuild "stale"]
      (flushedCiEvent (endedBatch "stale")) :=
    (congrArg (fun events => Truthful events (flushedCiEvent (endedBatch "stale")))
      (events_endedBatch (by decide +kernel) (by decide +kernel))).mp htruthful
  have hpassed := (htold.passed hkind).2
  have hlast : lastReport [buildReport "in_progress" false, endedBuild "stale"]
      (reportedJob (endedBuild "stale").payload).workflow =
      some (reportedJob (endedBuild "stale").payload) := by decide +kernel
  exact absurd (hpassed (reportedJob (endedBuild "stale").payload) hlast).2 (by decide +kernel)

end Sample

end GitHubCiBatcher

end Clawhip.Dispatch
