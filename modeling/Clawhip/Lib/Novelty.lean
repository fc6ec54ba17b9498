import Clawhip.Lib.Machine
import Mathlib.Data.List.Nodup
import Mathlib.Data.List.TakeWhile

/-!
# Novelty by absence

A poller is shown a window of the items that exist, and announces those that the window before did not
show; the first poll only sets a baseline. A poll that fails leaves the window as it was, but it is a
poll; and a poll may be forgotten after it was announced. The announcements are honest if every item is
announced at most once, and only if it came into being after the first poll that succeeded.
`honest_iff` says for which windows they are.
-/

namespace Clawhip

open List Option

/-- A poll: the items that came into being so far, the window that it was shown, if it was shown one,
and whether the poller keeps it. -/
structure Poll (ι : Type*) where
  existing : List ι
  window : Option (List ι)
  kept : Bool

namespace Poll

variable {ι : Type*}

/-- The poller remembers the last window that it keeps, and answers with what it announces. -/
def poller [DecidableEq ι] : Machine (Option (List ι)) (Poll ι) (List ι) where
  step previous poll :=
    (if poll.kept then some (poll.window.getD (previous.getD [])) else previous,
      match previous, poll.window with
      | some previous, some window => window.filter fun item => decide (item ∉ previous)
      | _, _ => [])

def stored (poll : Poll ι) : Option (List ι) := if poll.kept then poll.window else none

/-- The last window that was kept. -/
def lastShown (polls : List (Poll ι)) : List ι := (polls.reverse.findSome? stored).getD []

/-- A poll succeeded. -/
def based (polls : List (Poll ι)) : Bool := polls.any fun poll => poll.stored.isSome

/-- The items that existed at the first poll that succeeded. -/
def atBaseline (polls : List (Poll ι)) : List ι := ((polls.find? fun poll => poll.stored.isSome).map existing).getD []

/-- What was shown after the first poll that succeeded. -/
def shownSince (polls : List (Poll ι)) : List ι :=
  (polls.dropWhile fun poll => !poll.stored.isSome).tail.flatMap fun poll => poll.window.getD []

/-- What a poll announces after others. -/
def announcedAt [DecidableEq ι] (before : List (Poll ι)) (poll : Poll ι) : List ι :=
  (poller.step (poller.run none before) poll).2

/-- Everything that is announced. -/
def announced [DecidableEq ι] (polls : List (Poll ι)) : List ι := (poller.outputs none polls).flatten

/-- A window shows items that exist, each once. -/
structure Valid (poll : Poll ι) : Prop where
  exists_of_mem : ∀ window ∈ poll.window, window ⊆ poll.existing
  nodup : ∀ window ∈ poll.window, window.Nodup

/-- An item came into being after the first poll that succeeded. -/
def IsLater (polls : List (Poll ι)) (item : ι) : Prop := based polls = true ∧ item ∉ atBaseline polls

/-- Nothing is announced twice, and nothing that is not later than the first poll that succeeded. -/
structure Honest [DecidableEq ι] (polls : List (Poll ι)) : Prop where
  once : (announced polls).Nodup
  fresh : ∀ before poll after, polls = before ++ poll :: after →
    ∀ item ∈ announcedAt before poll, IsLater before item

/-- A poll after others shows nothing that comes back: an item that the last window did not show is
later than the first poll that succeeded, and was not shown since then. -/
def Advances (before : List (Poll ι)) (poll : Poll ι) : Prop :=
  before.any kept = true → ∀ window ∈ poll.window, ∀ item ∈ window, item ∉ lastShown before →
    IsLater before item ∧ item ∉ shownSince before

/-- Something holds of every poll after the ones before it. -/
def EachAfter (P : List (Poll ι) → Poll ι → Prop) (polls : List (Poll ι)) : Prop :=
  ∀ before poll after, polls = before ++ poll :: after → P before poll

/-- Every poll of some advances. -/
def Steady (polls : List (Poll ι)) : Prop := EachAfter Advances polls

/-! ## One more poll -/

variable {polls : List (Poll ι)} {poll : Poll ι} {item : ι}

theorem eachAfter_nil (P : List (Poll ι) → Poll ι → Prop) : EachAfter P [] := by
  intro before poll after heq
  simp at heq

theorem eachAfter_concat {P : List (Poll ι) → Poll ι → Prop} :
    EachAfter P (polls ++ [poll]) ↔ EachAfter P polls ∧ P polls poll := by
  constructor
  · refine fun h => ⟨fun before other after heq => ?_, h polls poll [] rfl⟩
    exact h before other (after ++ [poll]) (by rw [heq]; simp)
  · rintro ⟨heach, hlast⟩ before other after heq
    rcases eq_nil_or_concat after with rfl | ⟨front, last, rfl⟩
    · obtain ⟨rfl, hsame⟩ := append_inj' heq rfl
      obtain rfl : poll = other := singleton_inj.mp hsame
      exact hlast
    · have hsplit : polls ++ [poll] = (before ++ other :: front) ++ [last] := by
        rw [heq]
        simp
      obtain ⟨rfl, -⟩ := append_inj' hsplit rfl
      exact heach before other front rfl

theorem lastShown_concat (polls : List (Poll ι)) (poll : Poll ι) :
    lastShown (polls ++ [poll]) = poll.stored.getD (lastShown polls) := by
  unfold lastShown
  rw [reverse_append, reverse_singleton, singleton_append, findSome?_cons]
  cases poll.stored
  all_goals rfl

theorem based_eq_false (h : based polls = false) : ∀ poll ∈ polls, poll.stored = none := by
  intro poll hpoll
  exact not_isSome_iff_eq_none.mp (any_eq_false.mp h poll hpoll)

/-- The baseline is set once. -/
theorem atBaseline_concat_of_based (poll : Poll ι) (h : based polls = true) :
    atBaseline (polls ++ [poll]) = atBaseline polls := by
  unfold atBaseline
  rw [find?_append]
  obtain ⟨first, hfirst, hsome⟩ := any_eq_true.mp h
  obtain ⟨found, hfound⟩ := isSome_iff_exists.mp
    (find?_isSome (p := fun poll => poll.stored.isSome) |>.mpr ⟨first, hfirst, hsome⟩)
  rw [hfound]
  rfl

theorem atBaseline_concat_of_not_based (h : based polls = false) (hpoll : poll.stored.isSome = true) :
    atBaseline (polls ++ [poll]) = poll.existing := by
  unfold atBaseline
  have hnone : polls.find? (fun poll => poll.stored.isSome) = none := by
    rw [find?_eq_none]
    intro other hother
    rw [based_eq_false h other hother]
    exact Bool.false_ne_true
  rw [find?_append, hnone, none_or, find?_cons, hpoll]
  rfl

/-- What existed at the baseline stays what existed at the baseline. -/
theorem mem_atBaseline_concat (poll : Poll ι) (h : item ∈ atBaseline polls) : item ∈ atBaseline (polls ++ [poll]) := by
  cases hbased : based polls with
  | true => rwa [atBaseline_concat_of_based poll hbased]
  | false =>
    have hnone : polls.find? (fun poll => poll.stored.isSome) = none := by
      rw [find?_eq_none]
      intro other hother
      rw [based_eq_false hbased other hother]
      exact Bool.false_ne_true
    unfold atBaseline at h
    rw [hnone] at h
    exact absurd h not_mem_nil

theorem shownSince_concat (polls : List (Poll ι)) (poll : Poll ι) :
    shownSince (polls ++ [poll]) = shownSince polls ++ if based polls then poll.window.getD [] else [] := by
  unfold shownSince
  rw [dropWhile_append]
  cases hbased : based polls with
  | true =>
    obtain ⟨first, hfirst, hsome⟩ := any_eq_true.mp hbased
    have hne : (polls.dropWhile fun poll => !poll.stored.isSome) ≠ [] := by
      intro hnil
      have hnone := dropWhile_eq_nil_iff.mp hnil first hfirst
      rw [hsome] at hnone
      cases hnone
    rw [if_neg (by simpa using hne), if_pos rfl, tail_append_of_ne_nil hne, flatMap_append, flatMap_singleton]
  | false =>
    have hnil : (polls.dropWhile fun poll => !poll.stored.isSome) = [] := by
      rw [dropWhile_eq_nil_iff]
      intro other hother
      rw [based_eq_false hbased other hother]
      rfl
    rw [hnil, if_pos isEmpty_nil, if_neg Bool.false_ne_true, tail_nil, flatMap_nil, append_nil, dropWhile_cons]
    split_ifs
    all_goals rfl

/-- The last window that was kept is one of the baseline, or was shown since then. -/
theorem atBaseline_or_shownSince (hvalid : ∀ poll ∈ polls, poll.Valid)
    (h : item ∈ lastShown polls) : item ∈ atBaseline polls ∨ item ∈ shownSince polls := by
  induction polls using reverseRecOn with
  | nil => exact absurd h not_mem_nil
  | append_singleton polls poll ih =>
    rw [lastShown_concat] at h
    rw [shownSince_concat]
    cases hstored : poll.stored with
    | none =>
      rw [hstored] at h
      exact (ih (fun poll hpoll => hvalid poll (mem_append_left _ hpoll)) h).imp
        (mem_atBaseline_concat poll) (mem_append_left _)
    | some window =>
      rw [hstored] at h
      have hwindow : poll.window = some window := by
        unfold stored at hstored
        split_ifs at hstored
        exact hstored
      cases hbased : based polls with
      | true =>
        rw [if_pos rfl, hwindow]
        exact .inr (mem_append_right _ h)
      | false =>
        rw [atBaseline_concat_of_not_based hbased (by rw [hstored]; rfl)]
        exact .inl ((hvalid poll (by simp)).exists_of_mem window hwindow h)

/-! ## Announcements -/

variable [DecidableEq ι]

/-- The poller remembers the last window, once it kept a poll. -/
theorem run_poller (polls : List (Poll ι)) :
    poller.run none polls = if polls.any kept then some (lastShown polls) else none := by
  induction polls using reverseRecOn with
  | nil => rfl
  | append_singleton polls poll ih =>
    have hlast : lastShown polls = [] ∨ polls.any kept = true := by
      by_cases hany : polls.any kept = true
      · exact .inr hany
      · refine .inl ?_
        have hnone : polls.reverse.findSome? stored = none := by
          rw [findSome?_eq_none_iff]
          intro other hother
          exact if_neg fun hkept => hany (any_eq_true.mpr ⟨other, mem_reverse.mp hother, hkept⟩)
        unfold lastShown
        rw [hnone]
        rfl
    rw [Machine.run_concat, ih, lastShown_concat, any_append, any_cons, any_nil, Bool.or_false]
    unfold poller stored
    dsimp only
    cases hkept : poll.kept with
    | false => rw [if_neg Bool.false_ne_true, if_neg Bool.false_ne_true, Bool.or_false]; rfl
    | true =>
      rw [if_pos rfl, if_pos rfl, Bool.or_true, if_pos rfl]
      by_cases hany : polls.any kept = true
      · rw [if_pos hany]
        rfl
      · rw [if_neg hany, hlast.resolve_right hany]
        rfl

/-- What a poll announces: what its window shows and the last one did not. -/
theorem mem_announcedAt : item ∈ announcedAt polls poll ↔
    polls.any kept = true ∧ ∃ window ∈ poll.window, item ∈ window ∧ item ∉ lastShown polls := by
  unfold announcedAt
  rw [run_poller]
  unfold poller
  dsimp only
  by_cases hany : polls.any kept = true
  · rw [if_pos hany]
    cases poll.window with
    | none => simp
    | some window => simp [hany]
  · rw [if_neg hany]
    exact iff_of_false not_mem_nil fun h => hany h.1

theorem nodup_announcedAt (polls : List (Poll ι)) (h : poll.Valid) : (announcedAt polls poll).Nodup := by
  unfold announcedAt poller
  dsimp only
  split
  · rename_i window _ hwindow
    exact (h.nodup window hwindow).filter _
  · exact nodup_nil

theorem announced_concat (polls : List (Poll ι)) (poll : Poll ι) :
    announced (polls ++ [poll]) = announced polls ++ announcedAt polls poll := by
  unfold announced announcedAt
  rw [Machine.outputs_concat, flatten_append, flatten_singleton]

/-- The poller of inputs that are polls in some view. -/
def viewed {κ : Type*} (view : κ → Poll ι) : Machine (Option (List ι)) κ (List ι) where
  step previous input := poller.step previous (view input)

section

variable {κ : Type*} (view : κ → Poll ι) (previous : Option (List ι)) (inputs : List κ)

theorem run_viewed : (viewed view).run previous inputs = poller.run previous (inputs.map view) := by
  induction inputs generalizing previous with
  | nil => rfl
  | cons input inputs ih => exact ih _

theorem outputs_viewed : (viewed view).outputs previous inputs = poller.outputs previous (inputs.map view) := by
  induction inputs generalizing previous with
  | nil => rfl
  | cons input inputs ih => exact congrArg _ (ih _)

end

/-- What advances announces what is later and was not shown. -/
theorem advances_iff : Advances polls poll ↔
    ∀ item ∈ announcedAt polls poll, IsLater polls item ∧ item ∉ shownSince polls := by
  constructor
  · intro hadvances item hitem
    obtain ⟨hany, window, hwindow, hmem, hlast⟩ := mem_announcedAt.mp hitem
    exact hadvances hany window hwindow item hmem hlast
  · intro h hany window hwindow item hmem hlast
    exact h item (mem_announcedAt.mpr ⟨hany, window, hwindow, hmem, hlast⟩)

/-- What was shown since the baseline existed at it, or was announced. -/
theorem atBaseline_or_announced (hvalid : ∀ poll ∈ polls, poll.Valid) (h : item ∈ shownSince polls) :
    item ∈ atBaseline polls ∨ item ∈ announced polls := by
  induction polls using reverseRecOn with
  | nil => exact absurd h not_mem_nil
  | append_singleton polls poll ih =>
    have hvalid' : ∀ poll ∈ polls, poll.Valid := fun poll hpoll => hvalid poll (mem_append_left _ hpoll)
    have hbefore (hshown : item ∈ shownSince polls) : item ∈ atBaseline (polls ++ [poll]) ∨
        item ∈ announced (polls ++ [poll]) := by
      rw [announced_concat]
      exact (ih hvalid' hshown).imp (mem_atBaseline_concat poll) (mem_append_left _)
    rw [shownSince_concat] at h
    rcases mem_append.mp h with hshown | hshown
    · exact hbefore hshown
    split_ifs at hshown with hbased
    · by_cases hlast : item ∈ lastShown polls
      · rcases atBaseline_or_shownSince hvalid' hlast with hat | hsince
        · exact .inl (mem_atBaseline_concat poll hat)
        · exact hbefore hsince
      · obtain ⟨first, hfirst, hsome⟩ := any_eq_true.mp hbased
        have hkept : first.kept = true := by
          by_contra hnot
          unfold stored at hsome
          rw [if_neg hnot] at hsome
          cases hsome
        cases hwindow : poll.window with
        | none =>
          rw [hwindow] at hshown
          exact absurd hshown not_mem_nil
        | some window =>
          rw [hwindow] at hshown
          rw [announced_concat]
          exact .inr (mem_append_right _ (mem_announcedAt.mpr
            ⟨any_eq_true.mpr ⟨first, hfirst, hkept⟩, window, hwindow, hshown, hlast⟩))
    · exact absurd hshown not_mem_nil

/-- What is announced later than the first poll that succeeded was shown since then. -/
theorem shownSince_of_announced
    (hfresh : EachAfter (fun before poll => ∀ item ∈ announcedAt before poll, IsLater before item) polls)
    (h : item ∈ announced polls) : item ∈ shownSince polls := by
  induction polls using reverseRecOn with
  | nil => exact absurd h not_mem_nil
  | append_singleton polls poll ih =>
    obtain ⟨hbefore, hlast⟩ := eachAfter_concat.mp hfresh
    rw [announced_concat] at h
    rw [shownSince_concat]
    rcases mem_append.mp h with h | h
    · exact mem_append_left _ (ih hbefore h)
    · obtain ⟨hbased, -⟩ := hlast item h
      obtain ⟨-, window, hwindow, hmem, -⟩ := mem_announcedAt.mp h
      rw [if_pos hbased, mem_def.mp hwindow]
      exact mem_append_right _ hmem

/-! ## Honest announcements -/

/-- One more poll keeps announcements honest if and only if it advances. -/
theorem honest_concat (hvalid : ∀ other ∈ polls ++ [poll], other.Valid) :
    Honest (polls ++ [poll]) ↔ Honest polls ∧ Advances polls poll := by
  have hbefore : ∀ other ∈ polls, other.Valid := fun other hother => hvalid other (mem_append_left _ hother)
  rw [advances_iff]
  constructor
  · rintro ⟨honce, hfresh⟩
    obtain ⟨hfresh, hlast⟩ := eachAfter_concat.mp hfresh
    rw [announced_concat] at honce
    obtain ⟨honce, -, hdisjoint⟩ := nodup_append.mp honce
    refine ⟨⟨honce, hfresh⟩, fun item hitem => ⟨hlast item hitem, fun hshown => ?_⟩⟩
    rcases atBaseline_or_announced hbefore hshown with hat | hannounced
    · exact (hlast item hitem).2 hat
    · exact hdisjoint item hannounced item hitem rfl
  · rintro ⟨⟨honce, hfresh⟩, hnew⟩
    refine ⟨?_, eachAfter_concat.mpr ⟨hfresh, fun item hitem => (hnew item hitem).1⟩⟩
    rw [announced_concat]
    refine nodup_append.mpr ⟨honce, nodup_announcedAt polls (hvalid poll (by simp)), ?_⟩
    rintro item hannounced _ hmem rfl
    exact (hnew item hmem).2 (shownSince_of_announced hfresh hannounced)

/-- Announcements are honest if and only if every poll advances. -/
theorem honest_iff (hvalid : ∀ poll ∈ polls, poll.Valid) : Honest polls ↔ Steady polls := by
  induction polls using reverseRecOn with
  | nil => exact iff_of_true ⟨nodup_nil, eachAfter_nil _⟩ (eachAfter_nil _)
  | append_singleton polls poll ih =>
    unfold Steady
    rw [honest_concat hvalid, eachAfter_concat, ih fun other hother => hvalid other (mem_append_left _ hother)]
    rfl

end Poll

end Clawhip
