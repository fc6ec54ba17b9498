import Clawhip.Platform.Status

/-!
# Transitions of the watched components

What the monitor tells of a component, set against what the summaries listed: the state that it keeps is
that of the last summary, so that a component which one summary omits is new to the monitor in the next.
-/

namespace Clawhip.OrdMap

/-- Of a list made entry by entry, what only one key makes. -/
theorem flatMap_of_key {κ ν β : Type*} [DecidableEq κ] {m : OrdMap κ ν} (h : m.keys.Nodup) {k : κ}
    {f : κ × ν → List β} (hf : ∀ p ∈ m, p.1 ≠ k → f p = []) :
    m.flatMap f = ((m.get k).map fun v => f (k, v)).getD [] := by
  induction m with
  | nil => rfl
  | cons p m ih =>
    obtain ⟨a, v⟩ := p
    obtain ⟨ha, hm⟩ := List.nodup_cons.mp h
    have hrest := ih hm fun p hp => hf p (List.mem_cons_of_mem _ hp)
    rw [List.flatMap_cons, hrest, get_cons]
    by_cases hk : k = a
    · subst hk
      rw [if_pos rfl, get_eq_none_iff.mpr ha]
      exact List.append_nil _
    · rw [if_neg hk, hf (a, v) List.mem_cons_self fun h => hk h.symm, List.nil_append]

end Clawhip.OrdMap

namespace Clawhip.Platform

open List Option OrdMap Machine

variable (monitor : GitHubStatusMonitorConfig) (name : String)

/-! ## What the summaries say -/

/-- The watched components that a poll finds. A monitor that is off looks for none. -/
def listed : Fetched → Option (OrdMap String String)
  | .error _ => none
  | .ok summary =>
    if monitor.enabled = false then none
    else some (watchedComponentStatuses summary.components (watchedComponentSet monitor))

/-- The status that a poll lists for a component. -/
def listedStatus (fetched : Fetched) : Option String := (listed monitor fetched).bind fun statuses => statuses.get name

def lastSummary (earlier : List Fetched) : Option (OrdMap String String) := earlier.reverse.findSome? (listed monitor)

/-- The status of a component in the last summary that listed it. -/
def lastListed (earlier : List Fetched) : Option String := earlier.reverse.findSome? (listedStatus monitor name)

/-- The transition that a poll has to tell of a component, from one status to another: there is none before
the first summary. -/
def due (earlier : List Fetched) (fetched : Fetched) : List (String × String) :=
  match lastSummary monitor earlier, listedStatus monitor name fetched with
  | some _, some new_status =>
    let old_status := (lastListed monitor name earlier).getD "unknown"
    if shouldEmitComponentTransition old_status new_status then [(old_status, new_status)] else []
  | _, _ => []

/-- The transition of a component that an event tells. -/
def transitionOf (event : IncomingEvent) : Option (String × String) :=
  if event.kind = "github.actions-status" ∧ event.payload.get "component" = some (.string name) then
    match event.payload.get "old_status", event.payload.get "new_status" with
    | some (.string old_status), some (.string new_status) => some (old_status, new_status)
    | _, _ => none
  else none

def transitionsOf (events : List IncomingEvent) : List (String × String) := events.filterMap (transitionOf name)

/-- The component is listed as operational, for the first time after some polls. -/
def NextOperational (between : List Fetched) (recovered : Fetched) : Prop :=
  (∀ fetched ∈ between, listedStatus monitor name fetched ≠ some "operational") ∧
    listedStatus monitor name recovered = some "operational"

/-- A transition to a status that is degraded is among these. -/
def Degrades (transitions : List (String × String)) : Prop :=
  ∃ transition ∈ transitions, isActionableComponentStatus transition.2 = true

/-- The transitions that a run tells are those that are due, a degradation is followed by a recovery, and a
summary that is repeated tells nothing. -/
structure Chained (fetches : List Fetched) : Prop where
  transitions : ∀ name earlier fetched later, fetches = earlier ++ fetched :: later →
    transitionsOf name (emittedAfter monitor earlier fetched) = due monitor name earlier fetched
  recoveries : ∀ name earlier degraded between recovered later,
    fetches = earlier ++ degraded :: (between ++ recovered :: later) →
    Degrades (transitionsOf name (emittedAfter monitor earlier degraded)) →
    NextOperational monitor name between recovered → ∃ old_status, (old_status, "operational") ∈
      transitionsOf name (emittedAfter monitor (earlier ++ degraded :: between) recovered)
  repeated : ∀ earlier summary between later,
    fetches = earlier ++ .ok summary :: (between ++ .ok summary :: later) →
    (∀ fetched ∈ between, ∃ error, fetched = .error error) →
    emittedAfter monitor (earlier ++ .ok summary :: between) (.ok summary) = []

/-- Where a component is listed again that the last summary omitted, nothing is due but what is due of a
component that was never listed. -/
def OmissionUnseen (earlier : List Fetched) (fetched : Fetched) : Prop :=
  ∀ old_status new_status, lastListed monitor name earlier = some old_status →
    (lastSummary monitor earlier).bind (fun statuses => statuses.get name) = none →
    listedStatus monitor name fetched = some new_status →
    (isActionableComponentStatus new_status = true → old_status = "unknown") ∧
      (isActionableComponentStatus old_status = true → new_status ≠ "operational")

/-- No omission is seen, and a component of which a degradation was due is degraded until it is
operational. -/
structure Steady (fetches : List Fetched) : Prop where
  omissions : ∀ name earlier fetched later, fetches = earlier ++ fetched :: later →
    OmissionUnseen monitor name earlier fetched
  degraded : ∀ name earlier degraded between recovered later,
    fetches = earlier ++ degraded :: (between ++ recovered :: later) →
    Degrades (due monitor name earlier degraded) → NextOperational monitor name between recovered →
    ∃ last, lastListed monitor name (earlier ++ degraded :: between) = some last ∧
      isActionableComponentStatus last = true

variable {monitor name}

/-! ## The summaries, one after the other -/

@[simp] theorem listed_error (error : String) : listed monitor (.error error) = none := rfl

theorem lastSummary_concat (earlier : List Fetched) (fetched : Fetched) :
    lastSummary monitor (earlier ++ [fetched]) = (listed monitor fetched).or (lastSummary monitor earlier) := by
  unfold lastSummary
  rw [reverse_append, reverse_singleton, singleton_append, findSome?_cons]
  cases listed monitor fetched <;> rfl

theorem lastListed_concat (earlier : List Fetched) (fetched : Fetched) :
    lastListed monitor name (earlier ++ [fetched]) =
      (listedStatus monitor name fetched).or (lastListed monitor name earlier) := by
  unfold lastListed
  rw [reverse_append, reverse_singleton, singleton_append, findSome?_cons]
  cases listedStatus monitor name fetched <;> rfl

variable {earlier : List Fetched} {old_status : String}

/-- A component that the last summary listed was listed last by it. -/
theorem lastListed_of_lastSummary
    (h : (lastSummary monitor earlier).bind (fun statuses => statuses.get name) = some old_status) :
    lastListed monitor name earlier = some old_status := by
  induction earlier using reverseRecOn with
  | nil => cases h
  | append_singleton earlier fetched ih =>
    rw [lastSummary_concat] at h
    rw [lastListed_concat, listedStatus]
    cases hlisted : listed monitor fetched with
    | none =>
      rw [hlisted, none_or] at h
      rw [bind_none, none_or]
      exact ih h
    | some statuses =>
      rw [hlisted, some_or] at h
      rw [h, some_or]

/-- A component that was listed is listed in a summary that came. -/
theorem lastSummary_of_lastListed (h : lastListed monitor name earlier = some old_status) :
    ∃ statuses, lastSummary monitor earlier = some statuses := by
  induction earlier using reverseRecOn with
  | nil => cases h
  | append_singleton earlier fetched ih =>
    rw [lastSummary_concat]
    rw [lastListed_concat, listedStatus] at h
    cases hlisted : listed monitor fetched with
    | none =>
      rw [hlisted, bind_none, none_or] at h
      exact ih h
    | some statuses => exact ⟨statuses, rfl⟩

/-! ## The state of the monitor -/

theorem polled_concat (earlier : List Fetched) (fetched : Fetched) :
    polled monitor (earlier ++ [fetched]) = (pollOnce monitor (polled monitor earlier) fetched).1 :=
  (polling monitor).run_concat {} earlier fetched

theorem pollOnce_disabled (hdisabled : monitor.enabled = false) (state : MonitorState)
    (fetched : Fetched) : pollOnce monitor state fetched = (state, []) :=
  if_pos hdisabled

theorem pollOnce_error (state : MonitorState) (error : String) :
    pollOnce monitor state (.error error) = (state, []) := by
  unfold pollOnce
  split_ifs <;> rfl

/-- What the monitor keeps of a summary. -/
def SummaryResponse.kept (monitor : GitHubStatusMonitorConfig) (summary : SummaryResponse) :
    MonitorState where
  baseline_established := true
  components := watchedComponentStatuses summary.components (watchedComponentSet monitor)
  incidents := watchedIncidents summary.incidents (watchedComponentSet monitor)

/-- The state is replaced as a whole. -/
theorem pollOnce_ok (henabled : monitor.enabled = true) (state : MonitorState) (summary : SummaryResponse) :
    pollOnce monitor state (.ok summary) = (summary.kept monitor, if state.baseline_established then
        collectEvents monitor summary.pageUrl state (summary.kept monitor).components
          (summary.kept monitor).incidents else []) := by
  unfold pollOnce
  rw [if_neg (by rw [henabled]; exact Bool.noConfusion)]
  cases state.baseline_established <;> rfl

variable (monitor) in
/-- The components that the monitor remembers are those of the last summary. -/
theorem polled_spec (earlier : List Fetched) :
    (polled monitor earlier).baseline_established = (lastSummary monitor earlier).isSome ∧
      (polled monitor earlier).components = (lastSummary monitor earlier).getD [] := by
  induction earlier using List.reverseRecOn with
  | nil => exact ⟨rfl, rfl⟩
  | append_singleton earlier fetched ih =>
    rw [polled_concat, lastSummary_concat]
    cases fetched with
    | error error =>
      rw [pollOnce_error, listed_error, none_or]
      exact ih
    | ok summary =>
      cases henabled : monitor.enabled with
      | false =>
        have hnone : listed monitor (.ok summary) = none := if_pos henabled
        rw [pollOnce_disabled henabled, hnone, none_or]
        exact ih
      | true =>
        have hsome : listed monitor (.ok summary) = some (summary.kept monitor).components :=
          if_neg (by rw [henabled]; exact Bool.noConfusion)
        rw [pollOnce_ok henabled, hsome, some_or]
        exact ⟨rfl, rfl⟩

/-! ## Keys -/

theorem nodup_watchedComponentStatuses (components : List ComponentEntry) (watched : List String) :
    (watchedComponentStatuses components watched).keys.Nodup := by
  refine foldlRecOn components _ (motive := fun out => (OrdMap.keys out).Nodup) nodup_nil fun out hout component _ => ?_
  simp only
  split_ifs
  · exact hout
  · exact nodup_insert hout _ _

theorem nodup_watchedIncidents (incidents : List IncidentEntry) (watched : List String) :
    (watchedIncidents incidents watched).keys.Nodup := by
  refine foldlRecOn incidents _ (motive := fun out => (OrdMap.keys out).Nodup) nodup_nil fun out hout incident _ => ?_
  simp only
  split_ifs
  · exact hout
  · exact nodup_insert hout _ _

/-! ## Transitions in events -/

variable (page_url : String) (previous : OrdMap String String) (new_status : String)

theorem transitionOf_statusEvent (name' old_status new_status : String) :
    transitionOf name (statusEvent monitor page_url name' old_status new_status) =
      if name' = name then some (old_status, new_status) else none := by
  have hget (key : String) : (statusEvent monitor page_url name' old_status new_status).payload.get key =
      _ := @IncomingEvent.withFields_get "github.actions-status" key monitor.channel _
    (by simp [OrdMap.keys])
  unfold transitionOf
  rw [hget, hget, hget]
  simp [statusEvent, decorated, IncomingEvent.githubActionsStatus, IncomingEvent.withFields,
    get_cons, IncomingEvent.str]

theorem transitionOf_incidentEvent (id change : String) (incident : IncidentSnapshot) (old_status : Option String) :
    transitionOf name (incidentEvent monitor page_url id incident change old_status) = none :=
  if_neg fun h => (show "github.actions-incident" ≠ "github.actions-status" by decide) h.1

variable (monitor name) in
theorem transitionsOf_incidents (previous : MonitorState) (current : OrdMap String IncidentSnapshot) :
    transitionsOf name (current.flatMap (incidentEvents monitor page_url previous.incidents) ++
      previous.incidents.flatMap (resolvedEvents monitor page_url current)) = [] := by
  refine filterMap_eq_nil_iff.mpr fun event hevent => ?_
  rcases mem_append.mp hevent with hevent | hevent
  · obtain ⟨⟨id, incident⟩, -, hevent⟩ := mem_flatMap.mp hevent
    simp only [incidentEvents] at hevent
    cases hprevious : previous.incidents.get id with
    | none =>
      rw [hprevious] at hevent
      rw [mem_singleton.mp hevent, transitionOf_incidentEvent]
    | some old =>
      simp only [hprevious] at hevent
      split_ifs at hevent
      · rw [mem_singleton.mp hevent, transitionOf_incidentEvent]
      · cases hevent
  · obtain ⟨⟨id, incident⟩, -, hevent⟩ := mem_flatMap.mp hevent
    simp only [resolvedEvents] at hevent
    split_ifs at hevent
    · cases hevent
    · rw [mem_singleton.mp hevent, transitionOf_incidentEvent]

theorem shouldEmit_self (status : String) : shouldEmitComponentTransition status status = false := if_pos rfl

/-- Of a component that is new to the monitor only a degradation is told. -/
theorem shouldEmit_unknown :
    shouldEmitComponentTransition "unknown" new_status = isActionableComponentStatus new_status := by
  unfold shouldEmitComponentTransition
  split_ifs with hunknown
  · rw [← hunknown]
    decide
  · have hold : isActionableComponentStatus "unknown" = false := by decide
    rw [hold, Bool.false_and, Bool.or_false]

/-- What is told of a component that a summary lists. -/
theorem transitionsOf_componentEvents :
    transitionsOf name (componentEvents monitor page_url previous (name, new_status)) =
      if shouldEmitComponentTransition ((previous.get name).getD "unknown") new_status then
        [((previous.get name).getD "unknown", new_status)] else [] := by
  have htells (old_status : String) :
      transitionsOf name [statusEvent monitor page_url name old_status new_status] = [(old_status, new_status)] := by
    unfold transitionsOf
    rw [filterMap_cons, transitionOf_statusEvent, if_pos rfl, filterMap_nil]
  unfold componentEvents
  cases hprevious : previous.get name with
  | none =>
    simp only [hprevious, getD_none, shouldEmit_unknown]
    split_ifs
    · exact htells "unknown"
    · rfl
  | some old_status =>
    simp only [hprevious, getD_some]
    by_cases hsame : old_status = new_status
    · rw [if_pos hsame, hsame, shouldEmit_self]
      rfl
    · rw [if_neg hsame]
      split_ifs
      · exact htells old_status
      · rfl

/-- Nothing is told of another component. -/
theorem transitionsOf_other (component : String × String) (hname : component.1 ≠ name) :
    transitionsOf name (componentEvents monitor page_url previous component) = [] := by
  obtain ⟨name', new_status⟩ := component
  have hquiet (old_status : String) :
      transitionsOf name [statusEvent monitor page_url name' old_status new_status] = [] := by
    unfold transitionsOf
    rw [filterMap_cons, transitionOf_statusEvent, if_neg hname, filterMap_nil]
  unfold componentEvents
  simp only
  split
  · split_ifs
    · rfl
    · exact hquiet _
    · rfl
  · split_ifs
    · exact hquiet _
    · rfl

/-- What a poll tells of a component: what is listed of it, against what the last summary listed. -/
theorem transitionsOf_emittedAfter (earlier : List Fetched) (fetched : Fetched) :
    transitionsOf name (emittedAfter monitor earlier fetched) =
      match lastSummary monitor earlier, listedStatus monitor name fetched with
      | some statuses, some new_status =>
        let old_status := (statuses.get name).getD "unknown"
        if shouldEmitComponentTransition old_status new_status then [(old_status, new_status)] else []
      | _, _ => [] := by
  obtain ⟨hbaseline, hcomponents⟩ := polled_spec monitor earlier
  unfold emittedAfter
  cases fetched with
  | error error =>
    rw [pollOnce_error]
    cases lastSummary monitor earlier <;> rfl
  | ok summary =>
    cases henabled : monitor.enabled with
    | false =>
      have hnone : listedStatus monitor name (.ok summary) = none := by
        rw [listedStatus, show listed monitor (.ok summary) = none from if_pos henabled]
        rfl
      rw [pollOnce_disabled henabled, hnone]
      cases lastSummary monitor earlier <;> rfl
    | true =>
      have hlisted : listedStatus monitor name (.ok summary) = (summary.kept monitor).components.get name := by
        have hsome : listed monitor (.ok summary) = some (summary.kept monitor).components :=
          if_neg (by rw [henabled]; exact Bool.noConfusion)
        rw [listedStatus, hsome]
        rfl
      rw [pollOnce_ok henabled, hlisted, hbaseline]
      cases hlast : lastSummary monitor earlier with
      | none => rfl
      | some statuses =>
        rw [hlast, getD_some] at hcomponents
        simp only [isSome_some, if_true]
        unfold collectEvents transitionsOf
        rw [filterMap_append]
        have hincidents := transitionsOf_incidents monitor name summary.pageUrl
          (polled monitor earlier) (summary.kept monitor).incidents
        unfold transitionsOf at hincidents
        rw [hincidents, append_nil, filterMap_flatMap, hcomponents]
        have hkey := flatMap_of_key (m := (summary.kept monitor).components) (k := name)
          (nodup_watchedComponentStatuses summary.components (watchedComponentSet monitor))
          (f := fun component => transitionsOf name (componentEvents monitor summary.pageUrl statuses component))
          fun component _ hname => transitionsOf_other summary.pageUrl statuses component hname
        unfold transitionsOf at hkey
        rw [hkey]
        cases (summary.kept monitor).components.get name with
        | none => rfl
        | some new_status => exact transitionsOf_componentEvents summary.pageUrl statuses new_status

/-- What is told of a component that was forgotten is what is due in these cases only. -/
theorem forgotten_eq_due_iff (old_status new_status : String) :
    ((if isActionableComponentStatus new_status then [("unknown", new_status)] else []) =
      if shouldEmitComponentTransition old_status new_status then [(old_status, new_status)] else []) ↔
    (isActionableComponentStatus new_status = true → old_status = "unknown") ∧
      (isActionableComponentStatus old_status = true → new_status ≠ "operational") := by
  have hunknown : isActionableComponentStatus "unknown" = false := by decide
  have hoperational : isActionableComponentStatus "operational" = false := by decide
  constructor
  · intro heq
    unfold shouldEmitComponentTransition at heq
    refine ⟨fun hactionable => ?_, fun hactionable hnew => ?_⟩
    · -- The degradation is told as that of a component that was never listed.
      rw [if_pos hactionable, hactionable, Bool.true_or] at heq
      by_cases hsame : old_status = new_status
      · rw [if_pos hsame] at heq
        cases heq
      · rw [if_neg hsame] at heq
        exact (Prod.mk.inj (cons.inj heq).1).1.symm
    · subst hnew
      have hne : old_status ≠ "operational" := by
        rintro rfl
        rw [hoperational] at hactionable
        cases hactionable
      rw [hoperational, if_neg hne, hactionable] at heq
      cases heq
  · rintro ⟨hdegraded, hrecovered⟩
    unfold shouldEmitComponentTransition
    cases hnew : isActionableComponentStatus new_status with
    | true =>
      obtain rfl := hdegraded hnew
      have hne : "unknown" ≠ new_status := by
        rintro rfl
        rw [hunknown] at hnew
        cases hnew
      rw [if_neg hne]
      rfl
    | false =>
      by_cases hsame : old_status = new_status
      · rw [if_pos hsame]
        rfl
      · rw [if_neg hsame]
        cases hold : isActionableComponentStatus old_status with
        | false => rfl
        | true =>
          have hne : new_status ≠ "operational" := hrecovered hold
          simp [hne]

/-- A poll tells what is due if and only if it does not show an omission. -/
theorem transitions_eq_due_iff (earlier : List Fetched) (fetched : Fetched) :
    transitionsOf name (emittedAfter monitor earlier fetched) = due monitor name earlier fetched ↔
      OmissionUnseen monitor name earlier fetched := by
  rw [transitionsOf_emittedAfter]
  unfold due OmissionUnseen
  cases hsummary : lastSummary monitor earlier with
  | none =>
    simp only [true_iff]
    intro old_status new_status hlast
    obtain ⟨statuses, hsome⟩ := lastSummary_of_lastListed hlast
    rw [hsummary] at hsome
    cases hsome
  | some statuses =>
    cases hlisted : listedStatus monitor name fetched with
    | none =>
      simp only [true_iff]
      exact fun _ _ _ _ hnone => nomatch hnone
    | some new_status =>
      simp only [bind_some]
      cases hget : statuses.get name with
      | some old_status =>
        have hlast : lastListed monitor name earlier = some old_status :=
          lastListed_of_lastSummary (by rw [hsummary]; exact hget)
        rw [hlast]
        simp
      | none =>
        simp only [getD_none, shouldEmit_unknown]
        cases hlast : lastListed monitor name earlier with
        | none => simp [shouldEmit_unknown]
        | some old_status =>
          rw [forgotten_eq_due_iff]
          constructor
          · intro h old new hold _ hnew
            obtain rfl := some.inj hold
            obtain rfl := some.inj hnew
            exact h
          · exact fun h => h old_status new_status rfl trivial rfl

/-! ## Summaries that are repeated -/

theorem listed_of_errors {between : List Fetched} (h : ∀ fetched ∈ between, ∃ error, fetched = .error error)
    (state : MonitorState) : (polling monitor).run state between = state := by
  induction between with
  | nil => rfl
  | cons fetched between ih =>
    obtain ⟨error, rfl⟩ := h fetched mem_cons_self
    have hstep : ((polling monitor).step state (.error error)).1 = state := by
      show (pollOnce monitor state (.error error)).1 = state
      rw [pollOnce_error]
    rw [run_cons, hstep]
    exact ih fun fetched hfetched => h fetched (mem_cons_of_mem _ hfetched)

/-- Against itself a summary tells nothing. -/
theorem collectEvents_kept (summary : SummaryResponse) (page_url : String) :
    collectEvents monitor page_url (summary.kept monitor) (summary.kept monitor).components
      (summary.kept monitor).incidents = [] := by
  have hcomponents := nodup_watchedComponentStatuses summary.components (watchedComponentSet monitor)
  have hincidents := nodup_watchedIncidents summary.incidents (watchedComponentSet monitor)
  refine append_eq_nil_iff.mpr ⟨flatMap_eq_nil_iff.mpr fun component hmem => ?_,
    append_eq_nil_iff.mpr ⟨flatMap_eq_nil_iff.mpr fun incident hmem => ?_,
      flatMap_eq_nil_iff.mpr fun incident hmem => ?_⟩⟩
  · have hget : (summary.kept monitor).components.get component.1 = some component.2 := get_of_mem hcomponents hmem
    simp [componentEvents, hget]
  · have hget : (summary.kept monitor).incidents.get incident.1 = some incident.2 := get_of_mem hincidents hmem
    simp [incidentEvents, hget]
  · have hget : (summary.kept monitor).incidents.get incident.1 = some incident.2 := get_of_mem hincidents hmem
    simp [resolvedEvents, hget]

/-- A summary that is repeated tells nothing, whatever it lists. -/
theorem repeated_quiet (earlier between : List Fetched) (summary : SummaryResponse)
    (h : ∀ fetched ∈ between, ∃ error, fetched = .error error) :
    emittedAfter monitor (earlier ++ .ok summary :: between) (.ok summary) = [] := by
  unfold emittedAfter
  cases henabled : monitor.enabled with
  | false => rw [pollOnce_disabled henabled]
  | true =>
    have hstate : polled monitor (earlier ++ .ok summary :: between) = summary.kept monitor := by
      have hstep : ((polling monitor).step ((polling monitor).run {} earlier) (.ok summary)).1 =
          summary.kept monitor := by
        show (pollOnce monitor _ (.ok summary)).1 = summary.kept monitor
        rw [pollOnce_ok henabled]
      unfold polled
      rw [run_append, run_cons, hstep, listed_of_errors h]
    rw [hstate, pollOnce_ok henabled]
    exact collectEvents_kept summary summary.pageUrl

/-! ## Runs -/

/-- Where the transitions are those that are due, a component that comes back as operational recovers if
and only if it was degraded when it was listed last. -/
theorem recovers_iff {recovered : Fetched}
    (hdue : transitionsOf name (emittedAfter monitor earlier recovered) = due monitor name earlier recovered)
    (hsummary : (lastSummary monitor earlier).isSome = true)
    (hlisted : listedStatus monitor name recovered = some "operational") :
    (∃ old_status, (old_status, "operational") ∈ transitionsOf name (emittedAfter monitor earlier recovered)) ↔
      ∃ last, lastListed monitor name earlier = some last ∧ isActionableComponentStatus last = true := by
  obtain ⟨statuses, hstatuses⟩ := isSome_iff_exists.mp hsummary
  have hoperational : isActionableComponentStatus "operational" = false := by decide
  have hunknown : isActionableComponentStatus "unknown" = false := by decide
  rw [hdue]
  unfold due
  rw [hstatuses, hlisted]
  simp only
  have hshould (old_status : String) : shouldEmitComponentTransition old_status "operational" = true ↔
      isActionableComponentStatus old_status = true := by
    unfold shouldEmitComponentTransition
    by_cases hsame : old_status = "operational"
    · rw [if_pos hsame, hsame, hoperational]
    · rw [if_neg hsame, hoperational]
      simp
  constructor
  · rintro ⟨old_status, hmem⟩
    split_ifs at hmem with hemit
    · rw [hshould] at hemit
      cases hlast : lastListed monitor name earlier with
      | none =>
        rw [hlast, getD_none, hunknown] at hemit
        cases hemit
      | some last =>
        rw [hlast, getD_some] at hemit
        exact ⟨last, rfl, hemit⟩
    · cases hmem
  · rintro ⟨last, hlast, hactionable⟩
    rw [hlast, getD_some, if_pos ((hshould last).mpr hactionable)]
    exact ⟨last, mem_singleton.mpr rfl⟩

/-- A transition is due only after a summary. -/
theorem isSome_lastSummary_of_due {fetched : Fetched} {transition : String × String}
    (h : transition ∈ due monitor name earlier fetched) : (lastSummary monitor earlier).isSome = true := by
  unfold due at h
  cases hsummary : lastSummary monitor earlier with
  | none =>
    rw [hsummary] at h
    cases h
  | some statuses => rfl

/-- There is a summary after every poll that comes after one. -/
theorem isSome_lastSummary_append (h : (lastSummary monitor earlier).isSome = true) (later : List Fetched) :
    (lastSummary monitor (earlier ++ later)).isSome = true := by
  induction later using reverseRecOn with
  | nil => rwa [append_nil]
  | append_singleton later fetched ih => rw [← append_assoc, lastSummary_concat, isSome_or, ih, Bool.or_true]

/-- The transitions of a run are those that are due and every degradation is followed by a recovery, if and
only if no omission of a component is seen and every component of which a degradation was due is degraded
until it is operational. -/
theorem transitions_chained_iff (monitor : GitHubStatusMonitorConfig) (fetches : List Fetched) :
    Chained monitor fetches ↔ Steady monitor fetches := by
  constructor
  · intro h
    have homissions : ∀ name earlier fetched later, fetches = earlier ++ fetched :: later →
        OmissionUnseen monitor name earlier fetched := fun name earlier fetched later hfetches =>
      (transitions_eq_due_iff earlier fetched).mp (h.transitions name earlier fetched later hfetches)
    refine ⟨homissions, fun name earlier degraded between recovered later hfetches hdegrades hnext => ?_⟩
    have hsplit : fetches = (earlier ++ degraded :: between) ++ recovered :: later := by
      rw [hfetches, append_assoc, cons_append]
    have hdegraded := h.transitions name earlier degraded _ hfetches
    have hrecovers := h.recoveries name earlier degraded between recovered later hfetches
      (hdegraded.symm ▸ hdegrades) hnext
    obtain ⟨transition, hmem, -⟩ := hdegrades
    exact (recovers_iff (h.transitions name _ recovered later hsplit)
      (isSome_lastSummary_append (isSome_lastSummary_of_due hmem) _) hnext.2).mp hrecovers
  · intro h
    have htransitions : ∀ name earlier fetched later, fetches = earlier ++ fetched :: later →
        transitionsOf name (emittedAfter monitor earlier fetched) = due monitor name earlier fetched :=
      fun name earlier fetched later hfetches =>
        (transitions_eq_due_iff earlier fetched).mpr (h.omissions name earlier fetched later hfetches)
    refine ⟨htransitions, ?_, fun earlier summary between later _ herrors =>
      repeated_quiet earlier between summary herrors⟩
    intro name earlier degraded between recovered later hfetches hdegrades hnext
    have hsplit : fetches = (earlier ++ degraded :: between) ++ recovered :: later := by
      rw [hfetches, append_assoc, cons_append]
    rw [htransitions name earlier degraded _ hfetches] at hdegrades
    have hdegraded := h.degraded name earlier degraded between recovered later hfetches hdegrades hnext
    obtain ⟨transition, hmem, -⟩ := hdegrades
    exact (recovers_iff (htransitions name _ recovered later hsplit)
      (isSome_lastSummary_append (isSome_lastSummary_of_due hmem) _) hnext.2).mpr hdegraded

/-! ## A component that one summary omits -/

namespace Sample

/-- A summary that lists the one component with these statuses. -/
def summaryOf (statuses : List String) : Fetched :=
  .ok { components := statuses.map fun status => { name := "Actions", status } }

/-- An outage, a summary that does not list the component, and its end. -/
def forgottenOutage : List Fetched := [summaryOf ["operational"], summaryOf ["major_outage"], summaryOf []]

/-- The end of the outage is not told. -/
theorem omitted_recovery_is_not_told :
    ¬ Chained { enabled := true } (forgottenOutage ++ [summaryOf ["operational"]]) := by
  intro h
  have htold := h.transitions "Actions" forgottenOutage (summaryOf ["operational"]) [] rfl
  exact absurd htold (by decide +kernel)

end Sample

end Clawhip.Platform
