import Clawhip.Dispatch.Batch
import Clawhip.Events.Event
import Clawhip.Lib.Text

/-!
# The CI batcher

`GitHubCiBatcher` of `src/dispatch.rs`: the CI events of one workflow run join a batch, which leaves
as one event, in the observe that completes it or when its window has passed. The version of a batch
counts its events and starts over with the next batch of the run, while the wheel entries of a batch
that completed stay in the wheel. An event that arrives after the completion opens a batch that such
an entry can name and flush before its own window has passed; `windows_hold_iff` says that nothing
else goes wrong.
-/

namespace Clawhip.Dispatch

structure BatchedCiJob where
  workflow : String
  status : String
  conclusion : Option String
  url : String
deriving DecidableEq

/-- The CI events of one run that wait. -/
structure PendingCiBatch where
  repo : String
  number : Option ℕ
  branch : Option String
  sha : String
  url : String
  channel : Option String
  mention : Option String
  format : Option MessageFormat
  jobs : OrdMap String BatchedCiJob
  expected_jobs : ℕ
  run_all_terminal : Bool
  saw_in_progress : Bool
  deliver_at_ms : ℕ
  version : ℕ

def isTerminalJob (job : BatchedCiJob) : Bool := job.status == "completed"

def isFailure (job : BatchedCiJob) : Bool :=
  job.conclusion == some "failure" || job.conclusion == some "timed_out" ||
    job.conclusion == some "startup_failure" || job.conclusion == some "action_required"

def extractRunId (url : String) : Option String :=
  ((Text.split url "/actions/runs/")[1]?.bind fun tail => (Text.split tail "/").head?).filter
    fun part => !part.isEmpty

def ciBatchKey (payload : Json) : String :=
  let repo := ((payload.get "repo").bind Json.asStr).getD "unknown"
  let number := (((payload.get "number").bind Json.asU64).map toString).getD "none"
  let sha := ((payload.get "sha").bind Json.asStr).getD "unknown"
  let url := ((payload.get "url").bind Json.asStr).getD ""
  let run_id := (extractRunId url).getD url
  repo ++ ":" ++ number ++ ":" ++ sha ++ ":" ++ run_id

def ciRunJobCount (payload : Json) : ℕ := ((payload.get "run_job_count").bind Json.asU64).getD 1

/-- The batch that an event opens, before it is absorbed. -/
def freshCiBatch (window_ms : ℕ) (event : IncomingEvent) (now_ms : ℕ) : PendingCiBatch where
  repo := (event.payload.index "repo").asStr.getD "unknown"
  number := (event.payload.get "number").bind Json.asU64
  branch := (event.payload.get "branch").bind Json.asStr
  sha := (event.payload.index "sha").asStr.getD ""
  url := (event.payload.index "url").asStr.getD ""
  channel := event.channel
  mention := event.mention
  format := event.format
  jobs := []
  expected_jobs := ciRunJobCount event.payload
  run_all_terminal := ((event.payload.get "run_all_terminal").bind Json.asBool).getD false
  saw_in_progress := false
  deliver_at_ms := now_ms + window_ms
  version := 0

/-- The job that an event reports. -/
def reportedJob (payload : Json) : BatchedCiJob where
  workflow := ((payload.get "workflow").bind Json.asStr).getD "unknown"
  status := (payload.index "status").asStr.getD "unknown"
  conclusion := (payload.get "conclusion").bind Json.asStr
  url := (payload.index "url").asStr.getD ""

/-- A batch with one more event: what the event says replaces what the batch says, and its job replaces
the job of the same workflow. -/
def absorbCiEvent (batch : PendingCiBatch) (event : IncomingEvent) : PendingCiBatch where
  repo := (event.payload.index "repo").asStr.getD batch.repo
  number := ((event.payload.get "number").bind Json.asU64).or batch.number
  branch := ((event.payload.get "branch").bind Json.asStr).or batch.branch
  sha := (event.payload.index "sha").asStr.getD batch.sha
  url := (event.payload.index "url").asStr.getD batch.url
  channel := event.channel.or batch.channel
  mention := event.mention.or batch.mention
  format := event.format.or batch.format
  jobs := batch.jobs.insert (reportedJob event.payload).workflow (reportedJob event.payload)
  expected_jobs := max batch.expected_jobs (ciRunJobCount event.payload)
  run_all_terminal :=
    ((event.payload.get "run_all_terminal").bind Json.asBool).getD batch.run_all_terminal
  saw_in_progress :=
    if (event.payload.index "status").asStr.getD "unknown" ≠ "completed" then true
    else batch.saw_in_progress
  deliver_at_ms := batch.deliver_at_ms
  version := batch.version + 1

/-- The batch is complete: a job was in progress, the run is over, and every expected job has come to
its end. -/
def isComplete (batch : PendingCiBatch) : Bool :=
  batch.saw_in_progress && batch.run_all_terminal && decide (batch.expected_jobs ≤ batch.jobs.length) &&
    batch.jobs.values.all isTerminalJob

def ciBatching : Batching IncomingEvent PendingCiBatch where
  key event := ciBatchKey event.payload
  fresh := freshCiBatch
  absorb := absorbCiEvent
  complete := isComplete
  deliver_at_ms := PendingCiBatch.deliver_at_ms
  version := PendingCiBatch.version
  deliver_at_fresh _ _ _ := rfl
  deliver_at_absorb _ _ := rfl

/-- A job in the payload of a flushed batch. -/
def BatchedCiJob.toJson (job : BatchedCiJob) : Json :=
  .ofFields [("workflow", .string job.workflow), ("status", .string job.status),
    ("conclusion", .ofOption job.conclusion), ("url", .string job.url)]

/-- The event of a batch that leaves, as `flush_batch` builds it. -/
def flushedCiEvent (batch : PendingCiBatch) : IncomingEvent :=
  let jobs := batch.jobs.values.mergeSort fun left right => decide (left.workflow ≤ right.workflow)
  let total_count := max batch.expected_jobs jobs.length
  let passed_count := jobs.countP fun job =>
    job.conclusion == some "success" || job.conclusion == some "neutral"
  let skipped_count := jobs.countP fun job => job.conclusion == some "skipped"
  let failed_count := jobs.countP isFailure
  let cancelled_count := jobs.countP fun job => job.conclusion == some "cancelled"
  let kind :=
    if 0 < failed_count then "github.ci-failed"
    else if jobs.all isTerminalJob then
      if 0 < cancelled_count ∧ passed_count = 0 ∧ skipped_count = 0 then "github.ci-cancelled"
      else "github.ci-passed"
    else "github.ci-started"
  { kind := kind
    channel := batch.channel
    mention := batch.mention
    format := batch.format
    template := none
    payload := .ofFields [("repo", .string batch.repo),
      ("number", (batch.number.map Json.ofNat).getD .null), ("branch", .ofOption batch.branch),
      ("sha", .string batch.sha), ("url", .string batch.url), ("batched", .bool true),
      ("total_count", .ofNat total_count), ("passed_count", .ofNat passed_count),
      ("skipped_count", .ofNat skipped_count), ("failed_count", .ofNat failed_count),
      ("cancelled_count", .ofNat cancelled_count), ("jobs", .array (jobs.map BatchedCiJob.toJson))] }

/-- A CI batcher, and its pending batches by run. -/
abbrev GitHubCiBatcher := Batcher PendingCiBatch

namespace GitHubCiBatcher

open Batcher

def observe (codec : BatchKeyCodec) (s : GitHubCiBatcher) (event : IncomingEvent) (now_ms : ℕ) :
    GitHubCiBatcher × List IncomingEvent :=
  let (s, batches) := Batcher.observe ciBatching codec s event now_ms
  (s, batches.map fun p => flushedCiEvent p.2)

def flushDue (codec : BatchKeyCodec) (s : GitHubCiBatcher) (now_ms : ℕ) :
    GitHubCiBatcher × List IncomingEvent :=
  let (s, batches) := Batcher.flushDue ciBatching codec s now_ms
  (s, batches.map fun p => flushedCiEvent p.2)

/-- The batcher as a machine that answers with the events of the batches that leave. -/
def machine (codec : BatchKeyCodec) :
    Machine GitHubCiBatcher (Input IncomingEvent) (List IncomingEvent) where
  step
    | s, .observe event now_ms => s.observe codec event now_ms
    | s, .flushDue now_ms => s.flushDue codec now_ms

/-- By a clock that never goes back, every call of a run takes away exactly the batches that it
completes or, if it is a flush, that opened a window or more ago, if and only if no flush of the run
finds a due wheel entry that names a batch which opened less than a window ago. -/
theorem windows_hold_iff (codec : BatchKeyCodec) (hc : codec.RoundTrips) (window t : ℕ)
    (is : List (Input IncomingEvent)) (hclock : ClockFrom t is) :
    RunsOnTime ciBatching codec window t is ↔ NeverStale ciBatching codec window t is :=
  runsOnTime_iff hc (along_forward_of_clockFrom _ _ le_rfl hclock)

/-! ## A window that an earlier batch cuts short -/

def buildReport (status : String) (run_all_terminal : Bool) : IncomingEvent where
  kind := "github.ci-started"
  channel := none
  mention := none
  format := none
  template := none
  payload := .ofFields [("repo", .string "clawhip"), ("number", .ofNat 58), ("sha", .string "4f2c"),
    ("url", .string "https://github.com/o/clawhip/actions/runs/9/job/1"),
    ("workflow", .string "build"), ("status", .string status), ("run_all_terminal", .bool run_all_terminal)]

/-- A build that starts and is flushed when its window has passed. -/
theorem single_build_runs_on_time : RunsOnTime ciBatching compactJson 30000 0
      [.observe (buildReport "in_progress" false) 0, .flushDue 30000] := by
  refine (windows_hold_iff compactJson compactJson_roundTrips 30000 0 _ (by decide)).mpr ?_
  rintro pre now post his ⟨key, b, hb, hlate, -⟩
  obtain ⟨rfl, rfl⟩ : pre = [.observe (buildReport "in_progress" false) 0] ∧ now = 30000 := by
    rcases pre with _ | ⟨i, _ | ⟨j, pre⟩⟩ <;> simp_all
  rw [Machine.run_cons, Machine.run_nil, step_observe, observe_get] at hb
  split_ifs at hb with hk hcomp
  · rw [← Option.some.inj hb] at hlate
    exact absurd hlate (by decide)
  · simp [new] at hb

/-- A build that starts, ends a second later, and is started once more after 20 seconds. -/
def restartedBuild : List (Input IncomingEvent) :=
  [.observe (buildReport "in_progress" false) 0, .observe (buildReport "completed" true) 1000,
    .observe (buildReport "in_progress" false) 20000]

/-- The second batch of a restarted build leaves 20 seconds early: the wheel entry of the first event
names the first version of its batch. -/
theorem restarted_build_is_cut_short :
    ¬ LeavesOnTime ciBatching compactJson 30000 0 restartedBuild (.flushDue 30000) := by
  have hclock : ClockFrom 0 restartedBuild := by decide
  rw [flushDue_leavesOnTime_iff compactJson_roundTrips (along_forward_of_clockFrom _ _ le_rfl hclock), not_not]
  set key := ciBatchKey (buildReport "in_progress" false).payload
  have hpend : (((Batcher.machine ciBatching compactJson).run (new 30000 0)
      restartedBuild).pending.get key).map (fun b => (b.version, b.deliver_at_ms)) =
      some (1, 50000) := by decide
  obtain ⟨b, hb, hvd⟩ := Option.map_eq_some_iff.mp hpend
  obtain ⟨hversion, hdeliver⟩ := Prod.mk.inj hvd
  refine ⟨key, b, hb, by rw [show ciBatching.deliver_at_ms b = 50000 from hdeliver]; decide,
    ⟨30000, compactJson.to_vec ⟨key, 1⟩⟩, ?_, le_rfl, ?_⟩
  · -- The entry of the first event is the oldest of the three in the wheel.
    have hfirst : ∀ b' : PendingCiBatch, b'.deliver_at_ms = 30000 → b'.version = 1 →
        entry ciBatching compactJson key b' = ⟨30000, compactJson.to_vec ⟨key, 1⟩⟩ := by
      intro b' hdel hver
      rw [entry, show ciBatching.deliver_at_ms b' = 30000 from hdel, show ciBatching.version b' = 1 from hver]
    simp only [restartedBuild, Machine.run_cons, Machine.run_nil, step_observe, observe_wheel,
      Core.TimerWheel.stored_schedule, Multiset.mem_cons]
    exact Or.inr (Or.inr (Or.inl (hfirst _ rfl rfl).symm))
  · rw [compactJson_roundTrips, show ciBatching.version b = 1 from hversion]

end GitHubCiBatcher

end Clawhip.Dispatch
