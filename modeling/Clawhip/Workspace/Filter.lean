import Clawhip.Workspace.Diff

/-!
# The event filter of a workspace monitor

A monitor with a list of events sends what one without a list sends, restricted to that list, except where
the end of a session is left out and its start is not: the snapshot of a session that is gone then stays, and
the session that comes back is taken for the old one.
-/

namespace Clawhip.Workspace

open List Option

variable (matched : WorkspaceMatch)

/-- The same file, watched without a list of events. -/
def WorkspaceMatch.unfiltered (matched : WorkspaceMatch) : WorkspaceMatch :=
  { matched with monitor := { matched.monitor with events := [] } }

variable (previous current : Option Json)

/-- The diffs do not look at the list of events. -/
theorem diffOf_unfiltered : diffOf matched.unfiltered previous current = diffOf matched previous current := rfl

theorem sentBy_unfiltered :
    allowed matched.monitor (sentBy matched.unfiltered previous current) = sentBy matched previous current := by
  have hall : sentBy matched.unfiltered previous current = (diffOf matched previous current).getD [] := by
    rw [sentBy, diffOf_unfiltered]
    exact filter_eq_self.mpr fun _ _ => rfl
  rw [hall]
  rfl

theorem allowed_append (events events' : List IncomingEvent) : allowed matched.monitor (events ++ events') =
      allowed matched.monitor events ++ allowed matched.monitor events' :=
  filter_append ..

/-- What the monitor without a list sends, restricted to the list. -/
def projected (snapshot : Option Json) (history : List StateFile) : List IncomingEvent :=
  allowed matched.monitor (emitted matched.unfiltered snapshot history)

variable {file : StateFile}

theorem projected_read {snapshot : Option Json} {json : Json}
    (h : file.readJson = some json) (history : List StateFile) : projected matched snapshot (file :: history) =
      sentBy matched snapshot (some json) ++ projected matched (some json) history := by
  rw [projected, emitted_read _ h, allowed_append, sentBy_unfiltered]
  rfl

/-! ## Where the two agree -/

/-- Where both forget the file alike, the filter is a projection. -/
theorem emitted_eq_projected (hgone : ∀ previous, sentBy matched (some previous) none = [] →
      sentBy matched.unfiltered (some previous) none = []) (snapshot : Option Json) (history : List StateFile) :
    emitted matched snapshot history = projected matched snapshot history := by
  induction history generalizing snapshot with
  | nil => rfl
  | cons file history ih =>
    cases hread : file.readJson with
    | some json => rw [emitted_read matched hread, projected_read matched hread, ih]
    | none =>
      have hsame : (processPath matched.unfiltered snapshot file).1 = (processPath matched snapshot file).1 := by
        rw [processPath_gone _ hread, processPath_gone _ hread]
        cases snapshot with
        | none => rw [sentBy_none_none, sentBy_none_none]
        | some previous =>
          by_cases hempty : sentBy matched (some previous) none = []
          · rw [hempty, hgone previous hempty]
          · have hfull : sentBy matched.unfiltered (some previous) none ≠ [] := fun hnone => by
              rw [← sentBy_unfiltered, hnone] at hempty
              exact hempty rfl
            rw [if_neg (by rwa [List.isEmpty_iff]), if_neg (by rwa [List.isEmpty_iff])]
      rw [projected, emitted_cons, emitted_cons, allowed_append, hsame, ih]
      congr 1
      rw [processPath_gone _ hread, processPath_gone _ hread, sentBy_unfiltered]

/-- A monitor that allows no event of the file sends nothing, and nothing is projected. -/
theorem emitted_of_disallowed (hnone : ∀ previous current, sentBy matched previous current = [])
    (snapshot : Option Json) (history : List StateFile) :
    emitted matched snapshot history = [] ∧ projected matched snapshot history = [] := by
  constructor
  · induction history generalizing snapshot with
    | nil => rfl
    | cons file history ih =>
      rw [emitted_cons, ih, append_nil]
      cases hread : file.readJson with
      | some json => rw [processPath_read _ hread, hnone]
      | none => rw [processPath_gone _ hread, hnone]
  · induction history generalizing snapshot with
    | nil => rfl
    | cons file history ih =>
      rw [projected, emitted_cons, allowed_append]
      refine append_eq_nil_iff.mpr ⟨?_, ih _⟩
      cases hread : file.readJson with
      | some json => rw [processPath_read _ hread, sentBy_unfiltered, hnone]
      | none => rw [processPath_gone _ hread, sentBy_unfiltered, hnone]

/-! ## Where they differ -/

/-- The file is read again after it was gone. -/
def Reappears : Option Json → List StateFile → Prop
  | _, [] => False
  | snapshot, file :: history =>
    match file.readJson with
    | some json => Reappears (some json) history
    | none =>
      (snapshot.isSome = true ∧ ∃ later ∈ history, later.readJson.isSome = true) ∨ Reappears none history

theorem Reappears.returns {history : List StateFile} (h : Reappears none history) :
    ∃ later ∈ history, later.readJson.isSome = true := by
  induction history with
  | nil => exact h.elim
  | cons file history ih =>
    cases hread : file.readJson with
    | some json => exact ⟨file, mem_cons_self, by rw [hread]; rfl⟩
    | none =>
      simp only [Reappears, hread] at h
      rcases h with ⟨hsome, -⟩ | h
      · cases hsome
      · obtain ⟨later, hmem, hlater⟩ := ih h
        exact ⟨later, mem_cons_of_mem _ hmem, hlater⟩

/-- A monitor that sends the starts of sessions, and not their ends. -/
structure StartsOnly (matched : WorkspaceMatch) : Prop where
  file : matched.state_file = "session.json"
  started : monitorAllowsEvent matched.monitor "workspace.session.started" = true
  ended : monitorAllowsEvent matched.monitor "workspace.session.ended" = false

namespace StartsOnly

variable {matched} (h : StartsOnly matched)

section

variable (h : StartsOnly matched)
include h

variable (snapshot : Option Json)

theorem sentBy_gone : sentBy matched snapshot none = [] := by
  cases snapshot with
  | none => exact sentBy_none_none matched
  | some previous =>
    rw [sentBy_ended h.file, allowed_singleton _ rfl]
    exact if_neg (ne_true_of_eq_false h.ended)

theorem sentBy_start (json : Json) : sentBy matched none (some json) = [sessionStarted matched json] := by
  rw [sentBy_started h.file, allowed_singleton _ rfl]
  exact if_pos h.started

theorem sentBy_change (previous json : Json) : sentBy matched (some previous) (some json) = [] ∨
      sentBy matched (some previous) (some json) = [sessionRotated matched previous json] := by
  rcases sentBy_changed h.file previous json with hsame | hchanged
  · exact .inl hsame
  · rw [hchanged, allowed_singleton _ rfl]
    exact .inr (if_pos h.started)

theorem unfiltered_file : matched.unfiltered.state_file = "session.json" :=
  h.file

/-- The filtered monitor keeps the snapshot of a file that is gone. -/
theorem emitted_gone (hread : file.readJson = none) (snapshot : Option Json) (history : List StateFile) :
    emitted matched snapshot (file :: history) = emitted matched snapshot history :=
  emitted_quiet matched hread (h.sentBy_gone snapshot) history

/-- The unfiltered monitor forgets it. -/
theorem projected_gone (hread : file.readJson = none) (snapshot : Option Json) (history : List StateFile) :
    projected matched snapshot (file :: history) = projected matched none history := by
  have hforgets : (processPath matched.unfiltered snapshot file).1 = none := by
    rw [processPath_gone _ hread]
    cases snapshot with
    | none => rw [sentBy_none_none]; rfl
    | some previous =>
      have hended : sentBy matched.unfiltered (some previous) none = [sessionEnded matched.unfiltered previous] :=
        (sentBy_ended h.unfiltered_file previous).trans (filter_eq_self.mpr fun _ _ => rfl)
      rw [hended]
      rfl
  rw [projected, emitted_cons, hforgets, allowed_append, processPath_gone _ hread, sentBy_unfiltered, h.sentBy_gone]
  rfl

variable (history : List StateFile)

/-- The filtered monitor never sends more, also when it has kept a snapshot that the other has forgotten. -/
theorem length_le : (emitted matched snapshot history).length ≤ (projected matched snapshot history).length ∧
      (emitted matched snapshot history).length ≤ (projected matched none history).length := by
  induction history generalizing snapshot with
  | nil => exact ⟨le_rfl, le_rfl⟩
  | cons file history ih =>
    cases hread : file.readJson with
    | none =>
      rw [h.emitted_gone hread, h.projected_gone hread, h.projected_gone hread]
      exact ⟨(ih snapshot).2, (ih snapshot).2⟩
    | some json =>
      rw [emitted_read _ hread, projected_read _ hread, projected_read _ hread, h.sentBy_start]
      simp only [length_append, length_singleton]
      have hrest := (ih (some json)).1
      refine ⟨by omega, ?_⟩
      cases snapshot with
      | none =>
        rw [h.sentBy_start, length_singleton]
        omega
      | some previous =>
        rcases h.sentBy_change previous json with hsame | hchanged
        · rw [hsame, length_nil]
          omega
        · rw [hchanged, length_singleton]
          omega

/-- Once one has kept what the other has forgotten, they differ as soon as the file is read again. -/
theorem differ_iff (previous : Json) (history : List StateFile) :
    emitted matched (some previous) history = projected matched none history ↔
      ¬ ∃ later ∈ history, later.readJson.isSome = true := by
  induction history with
  | nil => exact ⟨fun _ ⟨_, hmem, _⟩ => absurd hmem not_mem_nil, fun _ => rfl⟩
  | cons file history ih =>
    cases hread : file.readJson with
    | none =>
      rw [h.emitted_gone hread, h.projected_gone hread, ih]
      simp only [mem_cons, exists_eq_or_imp, hread, isSome_none, Bool.false_eq_true, false_or]
    | some json =>
      refine ⟨fun heq => ?_, fun hnever => absurd ⟨file, mem_cons_self, by rw [hread]; rfl⟩ hnever⟩
      rw [emitted_read _ hread, projected_read _ hread, h.sentBy_start] at heq
      rcases h.sentBy_change previous json with hsame | hchanged
      · -- The start is missed.
        have hlength := congrArg length heq
        rw [hsame] at hlength
        simp only [nil_append, length_append, length_singleton] at hlength
        have hle := (h.length_le (some json) history).1
        omega
      · -- The start is taken for a rotation.
        rw [hchanged] at heq
        exact absurd (cons.inj heq).1.symm (sessionStarted_ne_rotated previous json json)

theorem projects_iff :
    emitted matched snapshot history = projected matched snapshot history ↔ ¬ Reappears snapshot history := by
  induction history generalizing snapshot with
  | nil => exact ⟨fun _ hfalse => hfalse, fun _ => rfl⟩
  | cons file history ih =>
    cases hread : file.readJson with
    | some json =>
      rw [emitted_read _ hread, projected_read _ hread, append_cancel_left_eq, ih]
      simp only [Reappears, hread]
    | none =>
      rw [h.emitted_gone hread, h.projected_gone hread]
      cases snapshot with
      | none =>
        rw [ih]
        simp only [Reappears, hread, isSome_none, Bool.false_eq_true, false_and, false_or]
      | some previous =>
        rw [h.differ_iff]
        simp only [Reappears, hread, isSome_some, true_and]
        exact not_congr ⟨.inl, fun hreturns => hreturns.elim id Reappears.returns⟩

end

end StartsOnly

/-- The event filter of a monitor is a projection of what the file reports, if and only if the file is not
that of the session, or the end of a session is allowed, or its start is not, or the file does not come back
after it was gone. -/
theorem filter_is_projection_iff (snapshot : Option Json) (history : List StateFile) :
    emitted matched snapshot history = allowed matched.monitor (emitted matched.unfiltered snapshot history) ↔
      matched.state_file ≠ "session.json" ∨
        monitorAllowsEvent matched.monitor "workspace.session.ended" = true ∨
        monitorAllowsEvent matched.monitor "workspace.session.started" = false ∨
        ¬ Reappears snapshot history := by
  change emitted matched snapshot history = projected matched snapshot history ↔ _
  by_cases hfile : matched.state_file = "session.json"
  · cases hended : monitorAllowsEvent matched.monitor "workspace.session.ended" with
    | true =>
      refine ⟨fun _ => .inr (.inl rfl), fun _ => emitted_eq_projected matched (fun previous hnone => ?_) _ _⟩
      have hsent : sentBy matched (some previous) none = [sessionEnded matched previous] := by
        rw [sentBy_ended hfile, allowed_singleton _ rfl]
        exact if_pos hended
      rw [hsent] at hnone
      cases hnone
    | false =>
      cases hstarted : monitorAllowsEvent matched.monitor "workspace.session.started" with
      | true =>
        have hstarts : StartsOnly matched := ⟨hfile, hstarted, hended⟩
        rw [hstarts.projects_iff]
        simp [hfile]
      | false =>
        refine ⟨fun _ => .inr (.inr (.inl rfl)), fun _ => ?_⟩
        have hnone : ∀ previous current, sentBy matched previous current = [] := by
          rintro (_ | previous) (_ | json)
          · exact sentBy_none_none matched
          · rw [sentBy_started hfile, allowed_singleton _ rfl]
            exact if_neg (ne_true_of_eq_false hstarted)
          · rw [sentBy_ended hfile, allowed_singleton _ rfl]
            exact if_neg (ne_true_of_eq_false hended)
          · rcases sentBy_changed hfile previous json with hsame | hchanged
            · exact hsame
            · rw [hchanged, allowed_singleton _ rfl]
              exact if_neg (ne_true_of_eq_false hstarted)
        obtain ⟨hemitted, hprojected⟩ := emitted_of_disallowed matched hnone snapshot history
        rw [hemitted, hprojected]
  · refine ⟨fun _ => .inl hfile, fun _ => emitted_eq_projected matched (fun previous _ => ?_) _ _⟩
    rw [sentBy, diffOf_unfiltered, diffOf_gone _ hfile]
    rfl

namespace Sample

/-- A session file, watched for starts of sessions. -/
def startsWatched : WorkspaceMatch where
  monitor := { path := "/srv/app", events := ["workspace.session.started"] }
  workspace_root := "/srv/app"
  workspace_name := "app"
  state_family := "omx"
  watch_dir := "/srv/app/.omx/state"
  state_file := "session.json"

def sessionFile (session_id : String) : StateFile := .holds (.object [("session_id", .string session_id)])

/-- A session that is deleted and recreated is started twice, and reported once. -/
theorem second_start_is_filtered_out :
    ∃ (matched : WorkspaceMatch) (history : List StateFile), emitted matched none history ≠
      allowed matched.monitor (emitted matched.unfiltered none history) := by
  refine ⟨startsWatched, [sessionFile "s1", .missing, sessionFile "s1"], fun heq => ?_⟩
  have hlength := congrArg List.length heq
  revert hlength
  decide +kernel

end Sample

end Clawhip.Workspace
