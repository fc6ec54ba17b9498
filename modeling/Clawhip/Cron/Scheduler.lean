import Clawhip.Cron.Receipts
import Clawhip.Cron.Schedule
import Clawhip.Lib.Machine
import Clawhip.Lib.Sweep

/-!
# The cron scheduler

`CronScheduler` of `src/cron.rs`: a tick goes through the minutes since the last processed one and
through the enabled jobs of each, and writes the minute down when it is through with all of them.
-/

namespace Clawhip.Cron

structure ScheduledCronJob where
  config : CronJob
  schedule : CronSchedule

/-- `CronSchedulerState`, as it is read back from the file that it is written to. -/
structure CronSchedulerState where
  last_processed_minute : Option ℤ := none
  job_fingerprints : OrdMap String String := []
  zero_backlog_suppressions : OrdMap String ZeroBacklogSuppression := []

/-- `CronScheduler`, with a state path. -/
structure CronScheduler extends CronSchedulerState where
  jobs : List ScheduledCronJob

/-- The enabled jobs of a configuration, with their schedules. -/
def enabledJobs (jobs : List CronJob) : Except String (List ScheduledCronJob) :=
  (jobs.filter CronJob.enabled).mapM fun job => do
    let schedule ← CronSchedule.parse job.schedule
    return { config := job, schedule }

/-- `load_scheduler_state`; `file` is the state in the file, if there is a file and it is valid. -/
def loadSchedulerState (file : Option CronSchedulerState) : CronSchedulerState := file.getD {}

/-! ## Ticks -/

/-- What a tick finds: the clock in seconds, `OffsetDateTime::from_unix_timestamp`, and what every
reading of a state file, every event's identifier, every answer of the emitter and the write of the
state come to; `torn` is what the file is read as after a write that failed. -/
structure Tick where
  now : ℤ
  fromUnixTimestamp : ℤ → Except String LocalTime
  receipts : ℕ → Receipts
  uuids : ℕ → String
  answers : ℕ → Except String Unit
  written : Except String Unit
  torn : Option CronSchedulerState := none

def Tick.minute (tick : Tick) : ℤ := tick.now / 60

/-- A job's minute that a tick was through with: the event was emitted, or suppressed. -/
structure Handled where
  place : ℕ
  minute : ℤ
  event : Option IncomingEvent

/-- How far a tick has come: the state in memory, and the minutes that it was through with. -/
structure Progress where
  state : CronSchedulerState
  executed : List String := []
  handled : List Handled := []
  readings : ℕ := 0
  emits : ℕ := 0

def timezoneIsSupported (timezone : String) : Bool := ["UTC", "Etc/UTC"].contains (Text.trim timezone)

def jobLocalTime (job : CronJob) (scheduled_for : LocalTime) : Except String LocalTime :=
  if timezoneIsSupported job.timezone then .ok scheduled_for
  else .error s!"cron job '{job.id}' uses unsupported timezone '{job.timezone}'"

def ScheduledCronJob.matches (job : ScheduledCronJob) (scheduled_for : LocalTime) :
    Except String Bool := do
  let local_time ← jobLocalTime job.config scheduled_for
  return job.schedule.matches local_time

def buildJobEvent (uuid : String) (job : CronJob) (state : Option StateEvaluation) : IncomingEvent where
  kind := "custom"
  channel := job.channel
  mention := job.mention
  format := job.format
  template := none
  payload := .ofFields <|
    [("event_id", .string uuid), ("message", .string job.message), ("cron_job_id", .string job.id),
      ("cron_schedule", .string job.schedule), ("cron_timezone", .string job.timezone)] ++
    match state with
    | none => []
    | some state =>
      [("repo_state_fingerprint", .string state.fingerprint),
        ("repo_state_zero_backlog", .bool state.zero_backlog),
        ("repo_state_observation_source", .string state.observation_source),
        ("repo_state_observation_confidence", .string state.observation_confidence),
        ("repo_state_github_api_fallback", .bool state.github_api_fallback)]

/-- `u64 as i64`. -/
def asI64 (n : ℕ) : ℤ := if n % 2 ^ 64 < 2 ^ 63 then n % 2 ^ 64 else n % 2 ^ 64 - 2 ^ 64

/-- The fingerprint and the suppression of a job after its event was emitted. -/
def CronSchedulerState.emitted (state : CronSchedulerState) (job : CronJob)
    (evaluation : Option StateEvaluation) (scheduled_for : ℤ) : CronSchedulerState :=
  match evaluation with
  | none =>
    { state with zero_backlog_suppressions := state.zero_backlog_suppressions.erase job.id }
  | some eval =>
    { state with
      job_fingerprints := state.job_fingerprints.insert job.id eval.fingerprint
      zero_backlog_suppressions :=
        if eval.zero_backlog && decide (0 < job.zero_backlog_suppression_ttl_secs) then
          state.zero_backlog_suppressions.insert job.id
            { key := eval.suppression_key
              expires_at := scheduled_for + asI64 job.zero_backlog_suppression_ttl_secs }
        else state.zero_backlog_suppressions.erase job.id }

/-- Whether a scheduled minute of a job is suppressed. -/
def CronSchedulerState.suppresses (state : CronSchedulerState) (job : CronJob)
    (evaluation : Option StateEvaluation) (scheduled_for : ℤ) : Bool :=
  evaluation.any fun eval =>
    shouldSuppress job eval (state.job_fingerprints.get job.id)
      (state.zero_backlog_suppressions.get job.id) scheduled_for

/-- One job of one minute of `emit_due`. -/
def emitJob (tick : Tick) (minute : ℤ) (scheduled_for : LocalTime) (entry : ScheduledCronJob × ℕ)
    (progress : Progress) : Except String Unit × Progress :=
  let job := entry.1.config
  match entry.1.matches scheduled_for with
  | .error e => (.error e, progress)
  | .ok false => (.ok (), progress)
  | .ok true =>
    let evaluation := job.state_file.bind (tick.receipts progress.readings).evaluateStateFile
    let progress := { progress with readings := progress.readings + 1 }
    if progress.state.suppresses job evaluation (minute * 60) then
      (.ok (), { progress with
        handled := progress.handled ++ [{ place := entry.2, minute, event := none }] })
    else
      let event := buildJobEvent (tick.uuids progress.emits) job evaluation
      match tick.answers progress.emits with
      | .error e => (.error e, progress)
      | .ok _ =>
        (.ok (), { progress with
          state := progress.state.emitted job evaluation (minute * 60)
          executed := progress.executed ++ [job.id]
          handled := progress.handled ++ [{ place := entry.2, minute, event := some event }]
          emits := progress.emits + 1 })

/-- One minute of `emit_due`. -/
def emitMinute (tick : Tick) (jobs : List ScheduledCronJob) (minute : ℤ) (progress : Progress) :
    Except String Unit × Progress :=
  match tick.fromUnixTimestamp (minute * 60) with
  | .error e => (.error e, progress)
  | .ok scheduled_for => sweep (emitJob tick minute scheduled_for) jobs.zipIdx progress

/-- The minutes from one to another. -/
def minutesFrom (start current : ℤ) : List ℤ := (List.range (current + 1 - start).toNat).map fun i => start + (i : ℕ)

/-- The minutes that a tick goes through. -/
def CronSchedulerState.minutes (state : CronSchedulerState) (tick : Tick) : List ℤ :=
  minutesFrom ((state.last_processed_minute.map (· + 1)).getD tick.minute) tick.minute

/-- A scheduler, and the state in its file. -/
structure CronSource where
  scheduler : CronScheduler
  file : Option CronSchedulerState := none

def CronSource.start (jobs : List ScheduledCronJob) (file : Option CronSchedulerState) : CronSource where
  scheduler := { loadSchedulerState file with jobs }
  file := file

/-- The end of `emit_due`: the minute is written down. -/
def CronSource.processed (source : CronSource) (tick : Tick) (progress : Progress) :
    Except String (List String) × CronSource × List Handled :=
  let state := { progress.state with last_processed_minute := some tick.minute }
  let scheduler := { source.scheduler with toCronSchedulerState := state }
  match tick.written with
  | .error e => (.error e, { scheduler, file := tick.torn }, progress.handled)
  | .ok _ => (.ok progress.executed, { scheduler, file := some state }, progress.handled)

/-- `emit_due`: the answer, and the minutes that the tick was through with. -/
def CronSource.emitDue (source : CronSource) (tick : Tick) :
    Except String (List String) × CronSource × List Handled :=
  let state := source.scheduler.toCronSchedulerState
  if source.scheduler.jobs.isEmpty then source.processed tick { state }
  else
    match sweep (emitMinute tick source.scheduler.jobs) (state.minutes tick) { state } with
    | (.error e, progress) =>
      (.error e, { source with scheduler.toCronSchedulerState := progress.state }, progress.handled)
    | (.ok _, progress) => source.processed tick progress

/-- What a tick goes through. -/
def CronSource.swept (source : CronSource) (tick : Tick) : Except String Unit × Progress :=
  sweep (emitMinute tick source.scheduler.jobs) (source.scheduler.minutes tick)
    { state := source.scheduler.toCronSchedulerState }

variable (source : CronSource)

theorem processed_handled (tick : Tick) (progress : Progress) :
    (source.processed tick progress).2.2 = progress.handled := by
  unfold CronSource.processed
  cases tick.written <;> rfl

variable {source : CronSource}

theorem emitDue_of_isEmpty (h : source.scheduler.jobs.isEmpty = true) (tick : Tick) :
    source.emitDue tick = source.processed tick { state := source.scheduler.toCronSchedulerState } := by
  simp only [CronSource.emitDue, h, if_true]

variable {progress : Progress} {tick : Tick}

theorem emitDue_of_error {e : String}
    (h : source.scheduler.jobs.isEmpty = false) (hswept : source.swept tick = (.error e, progress)) :
    source.emitDue tick = (.error e, { source with scheduler.toCronSchedulerState := progress.state },
        progress.handled) := by
  unfold CronSource.swept at hswept
  simp only [CronSource.emitDue, h, Bool.false_eq_true, if_false, hswept]

theorem emitDue_of_ok (h : source.scheduler.jobs.isEmpty = false) (hswept : source.swept tick = (.ok (), progress)) :
    source.emitDue tick = source.processed tick progress := by
  unfold CronSource.swept at hswept
  simp only [CronSource.emitDue, h, Bool.false_eq_true, if_false, hswept]

/-- A tick is through with the minutes that its sweep is through with. -/
theorem emitDue_handled (h : source.scheduler.jobs.isEmpty = false) (tick : Tick) :
    (source.emitDue tick).2.2 = (source.swept tick).2.handled := by
  cases hswept : source.swept tick with
  | mk answer progress =>
    cases answer with
    | error e => rw [emitDue_of_error h hswept]
    | ok _ => rw [emitDue_of_ok h hswept, processed_handled]

/-! ## Runs -/

/-- What happens to a scheduler: a tick, or a restart. -/
inductive Action where
  | tick (tick : Tick)
  | restart

def CronSource.step (source : CronSource) : Action → CronSource × List Handled
  | .restart => (.start source.scheduler.jobs source.file, [])
  | .tick tick => (source.emitDue tick).2

/-- The scheduler as a machine; it answers with the minutes that it was through with. -/
def cronMachine : Machine CronSource Action (List Handled) where
  step := CronSource.step

@[simp] theorem cronMachine_step (action : Action) : cronMachine.step source action = source.step action := rfl

end Clawhip.Cron
