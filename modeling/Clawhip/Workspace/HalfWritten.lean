import Clawhip.Workspace.Diff

/-!
# Half-written state files

A call of `process_path` that finds the same contents again sends nothing. One that finds a file that cannot
be read is taken for its end: of the session file it sends the end of the session, and its start when the
file can be read again.
-/

namespace Clawhip.Workspace

open List

variable (matched : WorkspaceMatch)

/-- A call of `process_path`: the file has new contents or is gone, or a call is made in between, while the
file is being written or when it is as it was. -/
inductive Visit where
  | settled (contents : Option Json)
  | halfWritten
  | again

/-- The file of some contents. -/
def StateFile.of : Option Json → StateFile
  | some json => .holds json
  | none => .missing

/-- What the calls find, after one that found `last`. -/
def visited (last : StateFile) : List Visit → List StateFile
  | [] => []
  | .settled contents :: visits => .of contents :: visited (.of contents) visits
  | .halfWritten :: visits => .unreadable :: visited .unreadable visits
  | .again :: visits => last :: visited last visits

/-- The history without the calls in between. -/
def settledOnly (visits : List Visit) : List StateFile :=
  visits.filterMap fun
    | .settled contents => some (.of contents)
    | _ => none

variable (contents : Option Json)

@[simp] theorem readJson_of : (StateFile.of contents).readJson = contents := by
  cases contents <;> rfl

theorem readJson_unreadable : StateFile.unreadable.readJson = none := rfl

variable (visits : List Visit)

@[simp] theorem settledOnly_settled :
    settledOnly (.settled contents :: visits) = .of contents :: settledOnly visits := rfl

@[simp] theorem settledOnly_halfWritten : settledOnly (.halfWritten :: visits) = settledOnly visits := rfl

@[simp] theorem settledOnly_again : settledOnly (.again :: visits) = settledOnly visits := rfl

/-! ## Files of which the end is not sent -/

/-- Where the end of the file is not sent, no call in between is seen. -/
theorem unseen_of_quiet (hquiet : ∀ snapshot, sentBy matched snapshot none = [])
    {snapshot : Option Json} {last : StateFile}
    (hlast : ∀ json, last.readJson = some json → snapshot = some json) (visits : List Visit) :
    emitted matched snapshot (visited last visits) = emitted matched snapshot (settledOnly visits) := by
  induction visits generalizing snapshot last with
  | nil => rfl
  | cons visit visits ih =>
    cases visit with
    | settled contents =>
      simp only [visited, settledOnly_settled]
      cases contents with
      | none =>
        rw [emitted_quiet matched (readJson_of none) (hquiet _), emitted_quiet matched (readJson_of none) (hquiet _)]
        exact ih fun json hread => nomatch hread
      | some json =>
        rw [emitted_read matched (readJson_of (some json)), emitted_read matched (readJson_of (some json))]
        exact congrArg _ (ih fun json' hread => hread)
    | halfWritten =>
      simp only [visited, settledOnly_halfWritten]
      rw [emitted_quiet matched readJson_unreadable (hquiet _)]
      exact ih fun json hread => nomatch hread
    | again =>
      simp only [visited, settledOnly_again]
      cases hread : last.readJson with
      | none =>
        rw [emitted_quiet matched hread (hquiet _)]
        exact ih hlast
      | some json =>
        obtain rfl := hlast json hread
        rw [emitted_read matched hread, sentBy_self]
        exact ih hlast

/-! ## The session file -/

/-- The contents that come next are none: the file is deleted. -/
def DeletedNext : List Visit → Prop
  | [] => False
  | .settled contents :: _ => contents = none
  | _ :: visits => DeletedNext visits

/-- Every half-written file is found before there was one, or right before it is deleted; `present` says
whether there is one. -/
def WrittenUnseen : (present : Bool) → List Visit → Prop
  | _, [] => True
  | _, .settled contents :: visits => WrittenUnseen contents.isSome visits
  | present, .halfWritten :: visits =>
    (present = true → DeletedNext visits) ∧ WrittenUnseen present visits
  | present, .again :: visits => WrittenUnseen present visits

/-- A session file of which the end is sent. -/
structure EndsSent (matched : WorkspaceMatch) : Prop where
  file : matched.state_file = "session.json"
  ended : monitorAllowsEvent matched.monitor "workspace.session.ended" = true

namespace EndsSent

variable {matched}

section

variable (h : EndsSent matched)
include h

theorem sentBy_end (json : Json) : sentBy matched (some json) none = [sessionEnded matched json] := by
  rw [sentBy_ended h.file, allowed_singleton _ rfl]
  exact if_pos h.ended

/-- The file is forgotten when it is not read. -/
theorem emitted_gone {file : StateFile} (hread : file.readJson = none)
    (snapshot : Option Json) (history : List StateFile) : emitted matched snapshot (file :: history) =
      sentBy matched snapshot none ++ emitted matched none history := by
  rw [emitted_cons, processPath_gone _ hread]
  cases snapshot with
  | none =>
    rw [sentBy_none_none]
    rfl
  | some json =>
    rw [h.sentBy_end]
    rfl

/-- A file that is read again sends at least as much as one that was there. -/
theorem length_change_le (previous json : Json) :
    (sentBy matched (some previous) (some json)).length ≤ (sentBy matched none (some json)).length := by
  have hkind : (sessionStarted matched json).canonicalKind = "workspace.session.started" := rfl
  have hkind' : (sessionRotated matched previous json).canonicalKind = "workspace.session.started" := rfl
  rw [sentBy_started h.file, allowed_singleton _ hkind]
  rcases sentBy_changed h.file previous json with hsame | hchanged
  · rw [hsame]
    exact Nat.zero_le _
  · rw [hchanged, allowed_singleton _ hkind']
    cases monitorAllowsEvent matched.monitor "workspace.session.started" with
    | true => exact Nat.le_refl 1
    | false => exact Nat.le_refl 0

variable (last : StateFile)

/-- With the calls in between no less is sent; with one that was taken for the end, one event less at
most. -/
theorem length_le (visits : List Visit) : (emitted matched last.readJson (settledOnly visits)).length ≤
        (emitted matched last.readJson (visited last visits)).length ∧
      (last.readJson = none → ∀ previous, (emitted matched (some previous) (settledOnly visits)).length ≤
          (emitted matched none (visited last visits)).length + 1) := by
  induction visits generalizing last with
  | nil => exact ⟨le_rfl, fun _ _ => Nat.zero_le _⟩
  | cons visit visits ih =>
    cases visit with
    | settled contents =>
      simp only [visited, settledOnly_settled]
      have hrest := (ih (.of contents)).1
      rw [readJson_of] at hrest
      cases contents with
      | none =>
        simp only [h.emitted_gone (readJson_of none), length_append]
        refine ⟨by omega, fun hnone previous => ?_⟩
        rw [h.sentBy_end, sentBy_none_none, length_singleton, length_nil]
        omega
      | some json =>
        simp only [emitted_read matched (readJson_of (some json)), length_append]
        refine ⟨by omega, fun hnone previous => ?_⟩
        have hchange := h.length_change_le previous json
        omega
    | halfWritten =>
      simp only [visited, settledOnly_halfWritten, h.emitted_gone readJson_unreadable, length_append]
      have hrest := ih .unreadable
      refine ⟨?_, fun hnone previous => ?_⟩
      · cases hread : last.readJson with
        | none =>
          have hsame := hrest.1
          rw [readJson_unreadable] at hsame
          omega
        | some json =>
          have hmore := hrest.2 rfl json
          rw [h.sentBy_end, length_singleton]
          omega
      · have hmore := hrest.2 rfl previous
        omega
    | again =>
      simp only [visited, settledOnly_again]
      have hrest := ih last
      cases hread : last.readJson with
      | none =>
        rw [hread] at hrest
        simp only [h.emitted_gone hread, sentBy_none_none, nil_append]
        exact ⟨hrest.1, fun _ previous => hrest.2 rfl previous⟩
      | some json =>
        rw [hread] at hrest
        rw [emitted_read matched hread, sentBy_self]
        exact ⟨hrest.1, fun hnone => nomatch hnone⟩

/-- The calls in between are unseen if and only if every half-written file is found before there was one or
right before it is deleted. -/
theorem unseen_iff (visits : List Visit) : (emitted matched last.readJson (visited last visits) =
        emitted matched last.readJson (settledOnly visits) ↔ WrittenUnseen last.readJson.isSome visits) ∧
    (last.readJson = none → ∀ previous, (sessionEnded matched previous :: emitted matched none (visited last visits) =
          emitted matched (some previous) (settledOnly visits) ↔ DeletedNext visits ∧ WrittenUnseen true visits)) := by
  induction visits generalizing last with
  | nil =>
    exact ⟨⟨fun _ => trivial, fun _ => rfl⟩, fun _ _ => ⟨fun heq => (nomatch heq), fun hdeleted => hdeleted.1.elim⟩⟩
  | cons visit visits ih =>
    cases visit with
    | settled contents =>
      simp only [visited, settledOnly_settled, WrittenUnseen, DeletedNext]
      have hrest := (ih (.of contents)).1
      rw [readJson_of] at hrest
      cases contents with
      | none =>
        simp only [h.emitted_gone (readJson_of none), append_cancel_left_eq]
        refine ⟨hrest, fun hnone previous => ?_⟩
        rw [h.sentBy_end, sentBy_none_none, nil_append, singleton_append, cons.injEq, hrest]
        simp
      | some json =>
        simp only [emitted_read matched (readJson_of (some json)), append_cancel_left_eq]
        refine ⟨hrest, fun hnone previous => ⟨fun heq => ?_, fun hdeleted => nomatch hdeleted.1⟩⟩
        -- The end that was sent too much cannot be made up for.
        have hlength := congrArg length heq
        have hle := (h.length_le (.holds json) visits).1
        have hchange := h.length_change_le previous json
        simp only [length_cons, length_append] at hlength
        rw [show (StateFile.holds json).readJson = some json from rfl] at hle
        have hof : StateFile.of (some json) = .holds json := rfl
        rw [hof] at hlength
        omega
    | halfWritten =>
      simp only [visited, settledOnly_halfWritten, WrittenUnseen, DeletedNext, h.emitted_gone readJson_unreadable]
      have hrest := ih .unreadable
      refine ⟨?_, fun hnone previous => ?_⟩
      · cases hread : last.readJson with
        | none =>
          rw [sentBy_none_none, nil_append]
          have hsame := hrest.1
          rw [readJson_unreadable] at hsame
          rw [hsame]
          simp
        | some json =>
          rw [h.sentBy_end, singleton_append, hrest.2 rfl json]
          simp
      · rw [sentBy_none_none, nil_append, hrest.2 rfl previous]
        simp
    | again =>
      simp only [visited, settledOnly_again, WrittenUnseen, DeletedNext]
      have hrest := ih last
      cases hread : last.readJson with
      | none =>
        rw [hread] at hrest
        simp only [h.emitted_gone hread, sentBy_none_none, nil_append]
        exact ⟨hrest.1, fun _ previous => hrest.2 rfl previous⟩
      | some json =>
        rw [hread] at hrest
        rw [emitted_read matched hread, sentBy_self]
        exact ⟨hrest.1, fun hnone => nomatch hnone⟩

end

end EndsSent

/-- The calls of `process_path` that are made while a state file is being written, or when it is as it was,
are unseen if and only if the file is not that of the session, or the end of a session is not allowed, or
every half-written file is found before there was one or right before it is deleted. -/
theorem half_written_unseen_iff (start : StateFile) (visits : List Visit) :
    emitted matched start.readJson (visited start visits) =
        emitted matched start.readJson (settledOnly visits) ↔ matched.state_file ≠ "session.json" ∨
        monitorAllowsEvent matched.monitor "workspace.session.ended" = false ∨
        WrittenUnseen start.readJson.isSome visits := by
  by_cases hfile : matched.state_file = "session.json"
  · cases hended : monitorAllowsEvent matched.monitor "workspace.session.ended" with
    | true =>
      have hsent : EndsSent matched := ⟨hfile, hended⟩
      rw [(hsent.unseen_iff start visits).1]
      simp [hfile]
    | false =>
      refine ⟨fun _ => .inr (.inl rfl), fun _ => unseen_of_quiet matched (fun snapshot => ?_)
        (fun json hread => hread) visits⟩
      cases snapshot with
      | none => exact sentBy_none_none matched
      | some json =>
        rw [sentBy_ended hfile, allowed_singleton _ rfl]
        exact if_neg (ne_true_of_eq_false hended)
  · refine ⟨fun _ => .inl hfile, fun _ => unseen_of_quiet matched (fun snapshot => ?_)
      (fun json hread => hread) visits⟩
    rw [sentBy, diffOf_gone _ hfile]
    rfl

namespace Sample

/-- A session file, watched for everything. -/
def sessionWatched : WorkspaceMatch where
  monitor := { path := "/srv/app" }
  workspace_root := "/srv/app"
  workspace_name := "app"
  state_family := "omx"
  watch_dir := "/srv/app/.omx/state"
  state_file := "session.json"

/-- A session that goes on is ended and started again when its file is found half-written. -/
theorem half_written_session_ends :
    ∃ (matched : WorkspaceMatch) (visits : List Visit), emitted matched none (visited .missing visits) ≠
      emitted matched none (settledOnly visits) := by
  refine ⟨sessionWatched, [.settled (some (.object [("session_id", .string "s1")])), .halfWritten,
      .settled (some (.object [("session_id", .string "s1")]))], fun heq => ?_⟩
  have hlength := congrArg List.length heq
  revert hlength
  decide +kernel

end Sample

end Clawhip.Workspace
