import Clawhip.Cron.Scheduler
import Mathlib.Data.List.Nodup

/-!
# Fired minutes

A scheduler fires a job at most once for a minute, and in a run without disturbances it goes through
every due minute in order: `firesOnce_of_steady`. It writes a minute down only after the last of its
events, so the first part needs ticks that do not break off between two events and clocks that do not
step back.
-/

namespace Clawhip.Cron

open List CronSource

/-! ## Runs of the scheduler -/

/-- The job and the minute of an event. -/
def Handled.pair (handled : Handled) : ℕ × ℤ := (handled.place, handled.minute)

/-- The minutes that were emitted or suppressed. -/
def pairs (handled : List Handled) : List (ℕ × ℤ) := handled.map Handled.pair

/-- The minutes that were emitted. -/
def fired (handled : List Handled) : List (ℕ × ℤ) := pairs (handled.filter (·.event.isSome))

def dueAt (calendar : ℤ → Except String LocalTime) (jobs : List ScheduledCronJob) (minute : ℤ) :
    List (ℕ × ℤ) :=
  match calendar (minute * 60) with
  | .error _ => []
  | .ok scheduled_for =>
    (jobs.zipIdx.filter (·.1.schedule.matches scheduled_for)).map fun entry => (entry.2, minute)

def Action.toTick : Action → Option Tick
  | tick t => some t
  | restart => none

/-- What a run was through with. -/
def handledIn (source : CronSource) (actions : List Action) : List Handled :=
  (cronMachine.outputs source actions).flatten

/-- The first minute of a run that starts after a processed minute. -/
def firstMinute (last : Option ℤ) (tick : Tick) : ℤ := (last.map (· + 1)).getD tick.minute

/-- The minutes from the first to the last of some ticks, after a processed minute. -/
def spanMinutes (last : Option ℤ) : List Tick → List ℤ
  | [] => []
  | first :: rest => minutesFrom (firstMinute last first) (rest.getLastD first).minute

/-- A tick whose emits and whose save succeed. -/
structure Undisturbed (calendar : ℤ → Except String LocalTime) (tick : Tick) : Prop where
  calendar : tick.fromUnixTimestamp = calendar
  answers : ∀ n, tick.answers n = .ok ()
  written : tick.written = .ok ()

/-- Every minute of a job is emitted at most once; and if the clock does not go back and every emit and
save succeeds, then every due minute is handled once, in order. -/
structure FiresOnce (calendar : ℤ → Except String LocalTime) (jobs : List ScheduledCronJob)
    (file : Option CronSchedulerState) (actions : List Action) : Prop where
  once : (fired (handledIn (.start jobs file) actions)).Nodup
  through :
    let ticks := actions.filterMap Action.toTick
    let last := (loadSchedulerState file).last_processed_minute
    (∀ job ∈ jobs, timezoneIsSupported job.config.timezone = true) →
    (∀ minute ∈ spanMinutes last ticks, ∃ scheduled_for, calendar (minute * 60) = .ok scheduled_for) →
    (∀ tick ∈ ticks, Undisturbed calendar tick) → (last.toList ++ ticks.map Tick.minute).Pairwise (· ≤ ·) →
    pairs (handledIn (.start jobs file) actions) = (spanMinutes last ticks).flatMap (dueAt calendar jobs)

/-- A tick that goes through with all of its minutes. -/
structure Clear (source : CronSource) (tick : Tick) : Prop where
  timezones : ∀ job ∈ source.scheduler.jobs, timezoneIsSupported job.config.timezone = true
  calendar : ∀ minute ∈ source.scheduler.minutes tick,
    ∃ scheduled_for, tick.fromUnixTimestamp (minute * 60) = .ok scheduled_for
  answers : ∀ n, tick.answers n = .ok ()

/-- The clock of a tick has not stepped back, and the tick goes through or fails at its first event; a
restart finds the minute in the file that the scheduler has in memory. -/
def Steady (source : CronSource) : Action → Prop
  | .tick tick =>
    (∀ last, source.scheduler.last_processed_minute = some last → last ≤ tick.minute) ∧
      (Clear source tick ∨ ∃ e, tick.answers 0 = .error e)
  | .restart =>
    (loadSchedulerState source.file).last_processed_minute = source.scheduler.last_processed_minute

/-! ## Minutes -/

variable {minute : ℤ} {tick : Tick} {e : String} {entry : ScheduledCronJob × ℕ} {progress : Progress}
  {scheduled_for : LocalTime} {jobs : List ScheduledCronJob} {source : CronSource} {past : List (ℕ × ℤ)}
  {actions : List Action}

theorem mem_minutesFrom {start stop : ℤ} : minute ∈ minutesFrom start stop ↔ start ≤ minute ∧ minute ≤ stop := by
  unfold minutesFrom
  simp only [mem_map, mem_range]
  constructor
  · rintro ⟨i, hi, rfl⟩
    omega
  · rintro ⟨hstart, hstop⟩
    exact ⟨(minute - start).toNat, by omega, by omega⟩

theorem nodup_minutesFrom (start stop : ℤ) : (minutesFrom start stop).Nodup :=
  nodup_range.map fun i j (h : start + (i : ℤ) = start + (j : ℤ)) => by omega

theorem minutesFrom_append {start middle stop : ℤ} (hstart : start ≤ middle + 1) (hstop : middle ≤ stop) :
    minutesFrom start middle ++ minutesFrom (middle + 1) stop = minutesFrom start stop := by
  unfold minutesFrom
  have hlength : (stop + 1 - start).toNat = (middle + 1 - start).toNat + (stop + 1 - (middle + 1)).toNat := by omega
  rw [hlength, range_add, map_append, map_map]
  congr 1
  refine map_congr_left fun i _ => ?_
  simp only [Function.comp_apply]
  omega

/-- The minutes of some ticks are those of the first, and the later ones. -/
theorem spanMinutes_cons {last : Option ℤ} {ticks : List Tick}
    (h : (last.toList ++ (tick :: ticks).map Tick.minute).Pairwise (· ≤ ·)) : spanMinutes last (tick :: ticks) =
      minutesFrom (firstMinute last tick) tick.minute ++ spanMinutes (some tick.minute) ticks := by
  rw [map_cons, pairwise_append, pairwise_cons] at h
  obtain ⟨-, ⟨hlater, -⟩, hlast⟩ := h
  cases ticks with
  | nil => exact (append_nil _).symm
  | cons first rest =>
    have hstart : firstMinute last tick ≤ tick.minute + 1 := by
      cases last with
      | none =>
        show tick.minute ≤ tick.minute + 1
        omega
      | some last =>
        have hle : last ≤ tick.minute := hlast last mem_cons_self _ mem_cons_self
        show last + 1 ≤ tick.minute + 1
        omega
    have hmem : rest.getLastD first ∈ first :: rest := by
      rw [← getLast_eq_getLastD (cons_ne_nil _ _)]
      exact getLast_mem _
    have hstop : tick.minute ≤ (rest.getLastD first).minute := hlater _ (mem_map_of_mem hmem)
    show minutesFrom (firstMinute last tick) ((first :: rest).getLastD tick).minute = _
    rw [getLastD_cons]
    exact (minutesFrom_append hstart hstop).symm

/-! ## Jobs -/

/-- What one job of one minute comes to. -/
inductive JobOutcome (tick : Tick) (minute : ℤ) (scheduled_for : LocalTime)
    (entry : ScheduledCronJob × ℕ) (progress : Progress) : Except String Unit → Progress → Prop
  | failed {e : String} {progress' : Progress} (handled : progress'.handled = progress.handled)
    (emits : progress'.emits = progress.emits)
    (last : progress'.state.last_processed_minute = progress.state.last_processed_minute)
    (cause : timezoneIsSupported entry.1.config.timezone = false ∨ tick.answers progress.emits = .error e) :
    JobOutcome tick minute scheduled_for entry progress (.error e) progress'
  | idle (due : entry.1.schedule.matches scheduled_for = false) :
    JobOutcome tick minute scheduled_for entry progress (.ok ()) progress
  | suppressed {progress' : Progress} (due : entry.1.schedule.matches scheduled_for = true)
    (handled : progress'.handled = progress.handled ++ [{ place := entry.2, minute, event := none }])
    (emits : progress'.emits = progress.emits)
    (last : progress'.state.last_processed_minute = progress.state.last_processed_minute) :
    JobOutcome tick minute scheduled_for entry progress (.ok ()) progress'
  | emitted {event : IncomingEvent} {progress' : Progress}
    (due : entry.1.schedule.matches scheduled_for = true)
    (handled : progress'.handled = progress.handled ++ [{ place := entry.2, minute, event := some event }])
    (answer : tick.answers progress.emits = .ok ())
    (last : progress'.state.last_processed_minute = progress.state.last_processed_minute) :
    JobOutcome tick minute scheduled_for entry progress (.ok ()) progress'

theorem emitted_last (state : CronSchedulerState) (job : CronJob) (evaluation : Option StateEvaluation)
    (scheduled_for : ℤ) :
    (state.emitted job evaluation scheduled_for).last_processed_minute = state.last_processed_minute := by
  cases evaluation <;> rfl

theorem emitJob_outcome (tick : Tick) (minute : ℤ) (scheduled_for : LocalTime)
    (entry : ScheduledCronJob × ℕ) (progress : Progress) :
    ∃ answer progress', emitJob tick minute scheduled_for entry progress = (answer, progress') ∧
      JobOutcome tick minute scheduled_for entry progress answer progress' := by
  refine ⟨_, _, (Prod.eta _).symm, ?_⟩
  unfold emitJob ScheduledCronJob.matches jobLocalTime
  cases htimezone : timezoneIsSupported entry.1.config.timezone with
  | false => exact .failed rfl rfl rfl (.inl htimezone)
  | true =>
    cases hdue : entry.1.schedule.matches scheduled_for with
    | false =>
      simp only [if_true, bind, Except.bind, pure, Except.pure, hdue]
      exact .idle hdue
    | true =>
      simp only [if_true, bind, Except.bind, pure, Except.pure, hdue]
      split_ifs with hsuppresses
      · exact .suppressed hdue rfl rfl rfl
      · cases hanswer : tick.answers progress.emits with
        | error e => exact .failed rfl rfl rfl (.inr hanswer)
        | ok _ => exact .emitted hdue rfl hanswer (emitted_last _ _ _ _)

/-- Every job of a minute, whether it is due or not. -/
def slots (jobs : List ScheduledCronJob) (minute : ℤ) : List (ℕ × ℤ) := jobs.zipIdx.map fun entry => (entry.2, minute)

@[simp] theorem pairs_nil : pairs [] = [] := rfl

@[simp] theorem pairs_append (handled handled' : List Handled) :
    pairs (handled ++ handled') = pairs handled ++ pairs handled' := map_append

@[simp] theorem pairs_singleton (handled : Handled) : pairs [handled] = [(handled.place, handled.minute)] := rfl

/-- One job handles nothing but its own minute. -/
theorem emitJob_sublist (tick : Tick) (minute : ℤ) (scheduled_for : LocalTime)
    (entry : ScheduledCronJob × ℕ) (progress : Progress) :
    ∃ new, pairs (emitJob tick minute scheduled_for entry progress).2.handled =
        pairs progress.handled ++ new ∧ List.Sublist new [(entry.2, minute)] := by
  obtain ⟨answer, progress', hjob, houtcome⟩ := emitJob_outcome tick minute scheduled_for entry progress
  rw [hjob]
  cases houtcome with
  | idle due => exact ⟨[], (append_nil _).symm, nil_sublist _⟩
  | failed handled emits last cause => exact ⟨[], by rw [handled, append_nil], nil_sublist _⟩
  | suppressed due handled emits last | emitted due handled answer last =>
    refine ⟨[(entry.2, minute)], ?_, Sublist.refl _⟩
    rw [handled, pairs_append, pairs_singleton]

theorem emitJob_last (tick : Tick) (minute : ℤ) (scheduled_for : LocalTime)
    (entry : ScheduledCronJob × ℕ) (progress : Progress) :
    (emitJob tick minute scheduled_for entry progress).2.state.last_processed_minute =
      progress.state.last_processed_minute := by
  obtain ⟨answer, progress', hjob, houtcome⟩ := emitJob_outcome tick minute scheduled_for entry progress
  rw [hjob]
  cases houtcome with
  | idle due => rfl
  | failed handled emits last cause => exact last
  | suppressed due handled emits last | emitted due handled answer last => exact last

/-- Before the first event went out nothing is fired, if that event does not go out. -/
theorem emitJob_quiet (hanswer : tick.answers 0 = .error e)
    (hquiet : progress.emits = 0 ∧ fired progress.handled = []) :
    (emitJob tick minute scheduled_for entry progress).2.emits = 0 ∧
      fired (emitJob tick minute scheduled_for entry progress).2.handled = [] := by
  obtain ⟨answer, progress', hjob, houtcome⟩ := emitJob_outcome tick minute scheduled_for entry progress
  rw [hjob]
  obtain ⟨hemits, hfired⟩ := hquiet
  cases houtcome with
  | idle due => exact ⟨hemits, hfired⟩
  | failed handled emits last cause => exact ⟨emits.trans hemits, by rw [handled, hfired]⟩
  | suppressed due handled emits last =>
    refine ⟨emits.trans hemits, ?_⟩
    rw [handled]
    simpa [fired] using hfired
  | emitted due handled answer last =>
    rw [hemits, hanswer] at answer
    cases answer

/-- A job that is due is handled, if its event goes out. -/
theorem emitJob_clear (hanswers : ∀ n, tick.answers n = .ok ())
    (htimezone : timezoneIsSupported entry.1.config.timezone = true) (progress : Progress) :
    ∃ progress', emitJob tick minute scheduled_for entry progress = (.ok (), progress') ∧
      pairs progress'.handled = pairs progress.handled ++
        if entry.1.schedule.matches scheduled_for then [(entry.2, minute)] else [] := by
  obtain ⟨answer, progress', hjob, houtcome⟩ := emitJob_outcome tick minute scheduled_for entry progress
  rw [hjob]
  cases houtcome with
  | idle due => exact ⟨_, rfl, by simp [due]⟩
  | failed handled emits last cause =>
    rcases cause with hunsupported | hfailed
    · exact absurd (hunsupported.symm.trans htimezone) Bool.false_ne_true
    · cases (hanswers _).symm.trans hfailed
  | suppressed due handled emits last | emitted due handled answer last =>
    refine ⟨_, rfl, ?_⟩
    rw [handled, pairs_append, pairs_singleton, due, if_pos rfl]

/-! ## Sweeps -/

theorem emitMinute_sublist (tick : Tick) (jobs : List ScheduledCronJob) (minute : ℤ) (progress : Progress) :
    ∃ new, pairs (emitMinute tick jobs minute progress).2.handled = pairs progress.handled ++ new ∧
      List.Sublist new (slots jobs minute) := by
  unfold emitMinute
  cases tick.fromUnixTimestamp (minute * 60) with
  | error e => exact ⟨[], (append_nil _).symm, nil_sublist _⟩
  | ok scheduled_for =>
    have hslots : slots jobs minute = jobs.zipIdx.flatMap fun entry => [(entry.2, minute)] := map_eq_flatMap
    rw [hslots]
    exact Sweep.trace_sublist (fun progress => pairs progress.handled) _
      (fun entry _ progress => emitJob_sublist tick minute scheduled_for entry progress) progress

theorem emitMinute_last (tick : Tick) (jobs : List ScheduledCronJob) (minute : ℤ) (progress : Progress) :
    (emitMinute tick jobs minute progress).2.state.last_processed_minute = progress.state.last_processed_minute := by
  unfold emitMinute
  cases tick.fromUnixTimestamp (minute * 60) with
  | error e => rfl
  | ok scheduled_for =>
    exact Sweep.invariant (fun p => p.state.last_processed_minute = progress.state.last_processed_minute)
      (fun entry _ p hp => (emitJob_last tick minute scheduled_for entry p).trans hp) rfl

theorem emitMinute_quiet (hanswer : tick.answers 0 = .error e) (jobs : List ScheduledCronJob) (minute : ℤ)
    (hquiet : progress.emits = 0 ∧ fired progress.handled = []) : (emitMinute tick jobs minute progress).2.emits = 0 ∧
      fired (emitMinute tick jobs minute progress).2.handled = [] := by
  unfold emitMinute
  cases tick.fromUnixTimestamp (minute * 60) with
  | error e => exact hquiet
  | ok scheduled_for =>
    exact Sweep.invariant (fun p : Progress => p.emits = 0 ∧ fired p.handled = [])
      (fun entry _ p hp => emitJob_quiet hanswer hp) hquiet

theorem emitMinute_clear (hanswers : ∀ n, tick.answers n = .ok ())
    (htimezones : ∀ job ∈ jobs, timezoneIsSupported job.config.timezone = true)
    (htime : tick.fromUnixTimestamp (minute * 60) = .ok scheduled_for) (progress : Progress) :
    ∃ progress', emitMinute tick jobs minute progress = (.ok (), progress') ∧ pairs progress'.handled =
        pairs progress.handled ++ dueAt tick.fromUnixTimestamp jobs minute := by
  let part (entry : ScheduledCronJob × ℕ) : List (ℕ × ℤ) :=
    if entry.1.schedule.matches scheduled_for then [(entry.2, minute)] else []
  have hfilter (entries : List (ScheduledCronJob × ℕ)) :
      (entries.filter (·.1.schedule.matches scheduled_for)).map (fun entry => (entry.2, minute)) =
        entries.flatMap part := by
    induction entries with
    | nil => rfl
    | cons entry entries ih =>
      rw [flatMap_cons, ← ih, filter_cons]
      simp only [part]
      split_ifs <;> rfl
  have hdue : dueAt tick.fromUnixTimestamp jobs minute = jobs.zipIdx.flatMap part := by
    unfold dueAt
    rw [htime]
    exact hfilter _
  have hstep : ∀ entry ∈ jobs.zipIdx, ∀ p : Progress, True →
      ∃ p', emitJob tick minute scheduled_for entry p = (.ok (), p') ∧ True ∧
        pairs p'.handled = pairs p.handled ++ part entry := by
    intro entry hentry p _
    have hjob : entry.1 ∈ jobs := fst_mem_of_mem_zipIdx hentry
    obtain ⟨p', hemit, hpairs⟩ := emitJob_clear hanswers (htimezones _ hjob) p
    exact ⟨p', hemit, trivial, hpairs⟩
  obtain ⟨progress', hsweep, -, htrace⟩ :=
    Sweep.trace_eq (fun _ => True) (fun p : Progress => pairs p.handled) part hstep progress trivial
  refine ⟨progress', ?_, by rw [hdue, htrace]⟩
  unfold emitMinute
  rw [htime]
  exact hsweep

/-! ## Ticks -/

/-- What a tick goes through is a part of the minutes since the last processed one. -/
theorem swept_sublist (source : CronSource) (tick : Tick) : List.Sublist (pairs (source.swept tick).2.handled)
      ((source.scheduler.minutes tick).flatMap (slots source.scheduler.jobs)) := by
  obtain ⟨new, htrace, hsub⟩ := Sweep.trace_sublist (fun p : Progress => pairs p.handled) (slots source.scheduler.jobs)
    (fun minute _ p => emitMinute_sublist tick source.scheduler.jobs minute p)
    { state := source.scheduler.toCronSchedulerState }
  unfold swept
  rw [htrace]
  exact hsub

theorem swept_last (source : CronSource) (tick : Tick) :
    (source.swept tick).2.state.last_processed_minute = source.scheduler.last_processed_minute :=
  Sweep.invariant (fun p : Progress => p.state.last_processed_minute = source.scheduler.last_processed_minute)
    (fun minute _ p hp => (emitMinute_last tick source.scheduler.jobs minute p).trans hp) rfl

theorem swept_quiet (hanswer : tick.answers 0 = .error e) : fired (source.swept tick).2.handled = [] :=
  (Sweep.invariant (fun p : Progress => p.emits = 0 ∧ fired p.handled = [])
    (fun minute _ _ hp => emitMinute_quiet hanswer source.scheduler.jobs minute hp) ⟨rfl, rfl⟩).2

theorem swept_clear (h : Clear source tick) :
    ∃ progress, source.swept tick = (.ok (), progress) ∧ pairs progress.handled =
      (source.scheduler.minutes tick).flatMap (dueAt tick.fromUnixTimestamp source.scheduler.jobs) := by
  have hstep : ∀ minute ∈ source.scheduler.minutes tick, ∀ p : Progress, True →
      ∃ p', emitMinute tick source.scheduler.jobs minute p = (.ok (), p') ∧ True ∧ pairs p'.handled =
          pairs p.handled ++ dueAt tick.fromUnixTimestamp source.scheduler.jobs minute := by
    intro minute hminute p _
    obtain ⟨scheduled_for, htime⟩ := h.calendar minute hminute
    obtain ⟨p', hemit, hpairs⟩ := emitMinute_clear h.answers h.timezones htime p
    exact ⟨p', hemit, trivial, hpairs⟩
  obtain ⟨progress, hsweep, -, htrace⟩ := Sweep.trace_eq (fun _ => True) (fun p : Progress => pairs p.handled) _ hstep
    { state := source.scheduler.toCronSchedulerState } trivial
  exact ⟨progress, hsweep, htrace⟩

theorem nodup_slots (jobs : List ScheduledCronJob) (minutes : List ℤ) (h : minutes.Nodup) :
    (minutes.flatMap (slots jobs)).Nodup := by
  rw [nodup_flatMap]
  constructor
  · intro minute _
    have hplaces : (jobs.zipIdx.map Prod.snd).Nodup := by
      rw [zipIdx_map_snd]
      exact nodup_range' _
    have hslots : slots jobs minute = (jobs.zipIdx.map Prod.snd).map fun place => (place, minute) := by
      rw [map_map]
      rfl
    rw [hslots]
    exact hplaces.map fun _ _ heq => (Prod.mk.inj heq).1
  · refine Pairwise.imp (fun {minute minute'} hne => ?_) h
    intro pair hpair hpair'
    obtain ⟨entry, -, rfl⟩ := mem_map.mp hpair
    obtain ⟨entry', -, heq⟩ := mem_map.mp hpair'
    exact hne (Prod.mk.inj heq).2.symm

theorem fired_sublist (handled : List Handled) : List.Sublist (fired handled) (pairs handled) := filter_sublist.map _

theorem mem_slots {pair : ℕ × ℤ} (h : pair ∈ slots jobs minute) : pair.2 = minute := by
  obtain ⟨entry, -, rfl⟩ := mem_map.mp h
  rfl

@[simp] theorem processed_jobs (source : CronSource) (tick : Tick) (progress : Progress) :
    (source.processed tick progress).2.1.scheduler.jobs = source.scheduler.jobs := by
  unfold processed
  cases tick.written <;> rfl

@[simp] theorem processed_last (source : CronSource) (tick : Tick) (progress : Progress) :
    (source.processed tick progress).2.1.scheduler.last_processed_minute = some tick.minute := by
  unfold processed
  cases tick.written <;> rfl

/-- What a tick does to the jobs, the minute and the fired minutes. -/
structure Ticked (source : CronSource) (tick : Tick) (source' : CronSource) (handled : List Handled) :
    Prop where
  jobs : source'.scheduler.jobs = source.scheduler.jobs
  nodup : (fired handled).Nodup
  minutes : ∀ pair ∈ fired handled, pair.2 ∈ source.scheduler.minutes tick
  last : source'.scheduler.last_processed_minute = some tick.minute ∨
    source'.scheduler.last_processed_minute = source.scheduler.last_processed_minute

theorem emitDue_ticked (source : CronSource) (tick : Tick) :
    Ticked source tick (source.emitDue tick).2.1 (source.emitDue tick).2.2 := by
  cases hempty : source.scheduler.jobs.isEmpty with
  | true =>
    rw [emitDue_of_isEmpty hempty]
    refine ⟨processed_jobs _ _ _, ?_, ?_, .inl (processed_last _ _ _)⟩
    · rw [processed_handled]
      exact nodup_nil
    · rw [processed_handled]
      exact fun pair hpair => nomatch hpair
  | false =>
    have hsub : List.Sublist (fired (source.emitDue tick).2.2)
        ((source.scheduler.minutes tick).flatMap (slots source.scheduler.jobs)) := by
      rw [emitDue_handled hempty]
      exact (fired_sublist _).trans (swept_sublist source tick)
    have hnodup : ((source.scheduler.minutes tick).flatMap (slots source.scheduler.jobs)).Nodup :=
      nodup_slots _ _ (nodup_minutesFrom _ _)
    have hlast := swept_last source tick
    refine ⟨?_, hnodup.sublist hsub, fun pair hpair => ?_, ?_⟩
    · cases hswept : source.swept tick with
      | mk answer progress =>
        cases answer with
        | error e => rw [emitDue_of_error hempty hswept]
        | ok _ => rw [emitDue_of_ok hempty hswept, processed_jobs]
    · obtain ⟨minute, hminute, hslot⟩ := mem_flatMap.mp (hsub.subset hpair)
      rwa [mem_slots hslot]
    · cases hswept : source.swept tick with
      | mk answer progress =>
        rw [hswept] at hlast
        cases answer with
        | error e =>
          rw [emitDue_of_error hempty hswept]
          exact .inr hlast
        | ok _ =>
          rw [emitDue_of_ok hempty hswept]
          exact .inl (processed_last _ _ _)

/-- A clear tick is processed. -/
theorem emitDue_of_clear (h : Clear source tick) :
    ∃ progress, source.emitDue tick = source.processed tick progress ∧ pairs progress.handled =
      (source.scheduler.minutes tick).flatMap (dueAt tick.fromUnixTimestamp source.scheduler.jobs) := by
  cases hempty : source.scheduler.jobs.isEmpty with
  | true =>
    refine ⟨_, emitDue_of_isEmpty hempty tick, ?_⟩
    have hnone (minute : ℤ) : dueAt tick.fromUnixTimestamp [] minute = [] := by
      unfold dueAt
      cases tick.fromUnixTimestamp (minute * 60) <;> rfl
    rw [isEmpty_iff.mp hempty]
    exact (flatMap_eq_nil_iff.mpr fun minute _ => hnone minute).symm
  | false =>
    obtain ⟨progress, hswept, hpairs⟩ := swept_clear h
    exact ⟨progress, emitDue_of_ok hempty hswept, hpairs⟩

/-- A tick fires nothing that it does not write down, unless it breaks off between two events. -/
theorem fired_or_processed (h : Clear source tick ∨ ∃ e, tick.answers 0 = .error e) :
    fired (source.emitDue tick).2.2 = [] ∨
      (source.emitDue tick).2.1.scheduler.last_processed_minute = some tick.minute := by
  rcases h with hclear | ⟨e, hanswer⟩
  · obtain ⟨progress, hprocessed, -⟩ := emitDue_of_clear hclear
    rw [hprocessed]
    exact .inr (processed_last _ _ _)
  · cases hempty : source.scheduler.jobs.isEmpty with
    | true =>
      rw [emitDue_of_isEmpty hempty]
      exact .inr (processed_last _ _ _)
    | false =>
      rw [emitDue_handled hempty]
      exact .inl (swept_quiet hanswer)

/-! ## Runs -/

/-- Everything fired so far lies at or before the minute that is written down. -/
def WrittenDown (source : CronSource) (past : List (ℕ × ℤ)) : Prop :=
  ∀ pair ∈ past, ∃ last, source.scheduler.last_processed_minute = some last ∧ pair.2 ≤ last

/-- A steady tick keeps this, and fires nothing again. -/
theorem tick_once (hsteady : Steady source (.tick tick)) (hpast : past.Nodup)
    (hdown : WrittenDown source past) : (past ++ fired (source.emitDue tick).2.2).Nodup ∧
      WrittenDown (source.emitDue tick).2.1 (past ++ fired (source.emitDue tick).2.2) := by
  obtain ⟨hforward, hthrough⟩ := hsteady
  have hticked := emitDue_ticked source tick
  have hafter : ∀ pair ∈ fired (source.emitDue tick).2.2,
      firstMinute source.scheduler.last_processed_minute tick ≤ pair.2 ∧ pair.2 ≤ tick.minute :=
    fun pair hpair => mem_minutesFrom.mp (hticked.minutes pair hpair)
  constructor
  · rw [nodup_append]
    refine ⟨hpast, hticked.nodup, ?_⟩
    rintro pair hold pair' hnew rfl
    obtain ⟨last, hlast, hle⟩ := hdown pair hold
    have hlater := (hafter pair hnew).1
    rw [hlast] at hlater
    have hlater : last + 1 ≤ pair.2 := hlater
    omega
  · intro pair hpair
    rcases mem_append.mp hpair with hold | hnew
    · obtain ⟨last, hlast, hle⟩ := hdown pair hold
      rcases hticked.last with hnow | hsame
      · exact ⟨tick.minute, hnow, Int.le_trans hle (hforward last hlast)⟩
      · exact ⟨last, hsame.trans hlast, hle⟩
    · rcases fired_or_processed hthrough with hnone | hnow
      · rw [hnone] at hnew
        cases hnew
      · exact ⟨tick.minute, hnow, (hafter pair hnew).2⟩

/-- A steady run fires nothing that was fired before, and nothing twice. -/
theorem fired_once (hsteady : cronMachine.Along Steady source actions) (hpast : past.Nodup)
    (hdown : WrittenDown source past) : (past ++ fired (handledIn source actions)).Nodup := by
  induction actions generalizing source past with
  | nil => simpa [handledIn, fired] using hpast
  | cons action actions ih =>
    obtain ⟨hstep, hrest⟩ := hsteady
    have hsplit : fired (handledIn source (action :: actions)) =
        fired (source.step action).2 ++ fired (handledIn (source.step action).1 actions) := by
      simp [handledIn, fired]
    rw [hsplit, ← append_assoc]
    cases action with
    | tick tick =>
      obtain ⟨hnodup, hdown'⟩ := tick_once hstep hpast hdown
      exact ih hrest hnodup hdown'
    | restart =>
      -- The restarted scheduler has the minute that the old one had.
      refine ih hrest (by simpa [step, fired] using hpast) ?_
      intro pair hpair
      have hold : pair ∈ past := by simpa [step, fired] using hpair
      obtain ⟨last, hlast, hle⟩ := hdown pair hold
      exact ⟨last, Eq.trans hstep hlast, hle⟩

/-- A clear tick that is saved leaves its minute in the file and in memory. -/
theorem saved_of_undisturbed (h : tick.written = .ok ()) :
    (loadSchedulerState (source.processed tick progress).2.1.file).last_processed_minute = some tick.minute := by
  unfold processed
  rw [h]
  rfl

/-- In a run without disturbances every due minute is handled, in order. -/
theorem pairs_of_undisturbed {calendar : ℤ → Except String LocalTime} (source : CronSource)
    (hsaved : (loadSchedulerState source.file).last_processed_minute = source.scheduler.last_processed_minute)
    (htimezones : ∀ job ∈ source.scheduler.jobs, timezoneIsSupported job.config.timezone = true)
    (hcalendar : ∀ minute ∈ spanMinutes source.scheduler.last_processed_minute
      (actions.filterMap Action.toTick), ∃ scheduled_for, calendar (minute * 60) = .ok scheduled_for)
    (hticks : ∀ tick ∈ actions.filterMap Action.toTick, Undisturbed calendar tick)
    (hclock : (source.scheduler.last_processed_minute.toList ++
      (actions.filterMap Action.toTick).map Tick.minute).Pairwise (· ≤ ·)) : pairs (handledIn source actions) =
      (spanMinutes source.scheduler.last_processed_minute (actions.filterMap Action.toTick)).flatMap
        (dueAt calendar source.scheduler.jobs) := by
  induction actions generalizing source with
  | nil => rfl
  | cons action actions ih =>
    have hsplit : pairs (handledIn source (action :: actions)) =
        pairs (source.step action).2 ++ pairs (handledIn (source.step action).1 actions) := by
      simp [handledIn]
    cases action with
    | restart =>
      -- The restarted scheduler has the jobs and the minute that the old one had.
      rw [hsplit]
      have hlast : (source.step .restart).1.scheduler.last_processed_minute =
          source.scheduler.last_processed_minute := hsaved
      have hrest := ih (source.step .restart).1 (by rw [hlast]; exact hsaved) htimezones
        (by rw [hlast]; exact hcalendar) hticks (by rw [hlast]; exact hclock)
      rw [hlast] at hrest
      exact hrest
    | tick tick =>
      have hspan : spanMinutes source.scheduler.last_processed_minute
          ((Action.tick tick :: actions).filterMap Action.toTick) = source.scheduler.minutes tick ++
            spanMinutes (some tick.minute) (actions.filterMap Action.toTick) :=
        spanMinutes_cons hclock
      have hundisturbed : Undisturbed calendar tick := hticks tick mem_cons_self
      rw [hspan] at hcalendar ⊢
      have hclear : Clear source tick := by
        refine ⟨htimezones, fun minute hminute => ?_, hundisturbed.answers⟩
        rw [hundisturbed.calendar]
        exact hcalendar minute (mem_append_left _ hminute)
      obtain ⟨progress, hprocessed, hpairs⟩ := emitDue_of_clear hclear
      have hstep : source.step (.tick tick) = (source.processed tick progress).2 := congrArg Prod.snd hprocessed
      have hlast : (source.step (.tick tick)).1.scheduler.last_processed_minute = some tick.minute := by
        rw [hstep, processed_last]
      have hjobs : (source.step (.tick tick)).1.scheduler.jobs = source.scheduler.jobs := by rw [hstep, processed_jobs]
      have hclock' : ((some tick.minute).toList ++
          (actions.filterMap Action.toTick).map Tick.minute).Pairwise (· ≤ ·) :=
        (pairwise_append.mp hclock).2.1
      have hrest := ih (source.step (.tick tick)).1
        (by rw [hlast, hstep]; exact saved_of_undisturbed hundisturbed.written)
        (by rw [hjobs]; exact htimezones)
        (by rw [hlast]; exact fun minute hminute => hcalendar minute (mem_append_right _ hminute))
        (fun t ht => hticks t (mem_cons_of_mem _ ht)) (by rw [hlast]; exact hclock')
      rw [hlast, hjobs] at hrest
      rw [hsplit, hrest, flatMap_append, hstep, processed_handled, hpairs, hundisturbed.calendar]

/-- In a steady run every minute of a job is emitted at most once, and without disturbances every due
minute is handled once, in order. -/
theorem firesOnce_of_steady (calendar : ℤ → Except String LocalTime) (jobs : List ScheduledCronJob)
    (file : Option CronSchedulerState) (actions : List Action)
    (hsteady : cronMachine.Along Steady (.start jobs file) actions) : FiresOnce calendar jobs file actions where
  once := by
    have hdown : WrittenDown (.start jobs file) [] := fun pair hpair => nomatch hpair
    exact fired_once hsteady nodup_nil hdown
  through := by
    intro ticks last htimezones hcalendar hticks hclock
    exact pairs_of_undisturbed (.start jobs file) rfl htimezones hcalendar hticks hclock

namespace Sample

def everyMinute : CronSchedule where
  minute := { any := true, allowed := [] }
  hour := { any := true, allowed := [] }
  day_of_month := { any := true, allowed := [] }
  month := { any := true, allowed := [] }
  day_of_week := { any := true, allowed := [] }

/-- Two jobs that are due every minute. -/
def reminders : List ScheduledCronJob :=
  [{ config := { id := "first", schedule := "* * * * *", message := "first" }, schedule := everyMinute },
    { config := { id := "second", schedule := "* * * * *", message := "second" }, schedule := everyMinute }]

/-- A calendar that is good enough for jobs that are due every minute. -/
def midnight (_ : ℤ) : Except String LocalTime := .ok { minute := 0, hour := 0, day := 1, month := 1, weekday := 4 }

/-- A tick at a second, with what the emitter answers. -/
def tickAt (now : ℤ) (answers : ℕ → Except String Unit) : Tick where
  now := now
  fromUnixTimestamp := midnight
  receipts _ := { files := fun _ => none, parse := fun _ => none }
  uuids _ := "event"
  answers := answers
  written := .ok ()

/-- The emitter takes the first event and fails at the second. -/
def breaksOff (n : ℕ) : Except String Unit := if n = 0 then .ok () else .error "channel closed"

def takesAll (_ : ℕ) : Except String Unit := .ok ()

/-- The first job of a minute fires again after the second one failed. -/
theorem broken_tick_fires_twice : ¬ FiresOnce midnight reminders none
      [.tick (tickAt 600 breaksOff), .tick (tickAt 605 takesAll)] := by
  intro h
  have hfired : fired (handledIn (.start reminders none)
      [.tick (tickAt 600 breaksOff), .tick (tickAt 605 takesAll)]) = [(0, 10), (0, 10), (1, 10)] := by
    decide +kernel
  have honce := h.once
  rw [hfired] at honce
  revert honce
  decide

/-- Two ticks with a restart between them. -/
theorem restart_fires_once : FiresOnce midnight reminders none
      [.tick (tickAt 600 takesAll), .restart, .tick (tickAt 665 takesAll)] := by
  have hclear (source : CronSource) (hjobs : source.scheduler.jobs = reminders) (now : ℤ) :
      Clear source (tickAt now takesAll) := by
    refine ⟨?_, fun minute _ => ⟨_, rfl⟩, fun _ => rfl⟩
    rw [hjobs]
    decide +kernel
  have hjobs (source : CronSource) (tick : Tick) :
      (cronMachine.step source (.tick tick)).1.scheduler.jobs = source.scheduler.jobs :=
    (emitDue_ticked source tick).jobs
  refine firesOnce_of_steady midnight reminders none _
    ⟨⟨fun last hlast => (nomatch hlast), .inl (hclear _ rfl _)⟩, ?_, ⟨?_, .inl (hclear _ ?_ _)⟩, trivial⟩
  · show (loadSchedulerState _).last_processed_minute = _
    decide +kernel
  · decide +kernel
  · exact hjobs _ _

end Sample

end Clawhip.Cron
