import Mathlib.Data.List.Basic

/-!
# Windows

A window opens with the first batch that is offered, collects what is offered while it is open, each key
once, and is released at the first visit at which it has been open for its width. `Follows` says that a
list of visits is such a run, and `Follows.delivered` what every such run does with a key.
-/

namespace Clawhip

open List

/-- What has been collected since a window opened. -/
structure Window (κ : Type*) where
  opened : ℕ
  collected : List κ

namespace Window

variable {κ : Type*}

/-- A visit: its time, what is offered there, each batch with its time, and what is released. -/
structure Visit (κ : Type*) where
  now : ℕ
  offers : List (ℕ × List κ)
  released : List (List κ)
deriving DecidableEq

/-- What is due at a visit is released. -/
def release (width now : ℕ) : Option (Window κ) → Option (Window κ) × List (List κ)
  | none => (none, [])
  | some window =>
    if window.opened + width ≤ now then (none, [window.collected]) else (some window, [])

theorem release_some (width now : ℕ) (window : Window κ) : release width now (some window) =
      if window.opened + width ≤ now then (none, [window.collected]) else (some window, []) := rfl

section Offers

variable [DecidableEq κ]

def collect (collected : List κ) (key : κ) : List κ :=
  if key ∈ collected then collected else collected ++ [key]

/-- A batch is collected; the first one opens a window. -/
def offer (window : Option (Window κ)) (batch : ℕ × List κ) : Option (Window κ) :=
  if batch.2.isEmpty then window
  else
    let window := window.getD { opened := batch.1, collected := [] }
    some { window with collected := batch.2.foldl collect window.collected }

variable {key : κ}

theorem mem_foldl_collect {keys collected : List κ} :
    key ∈ keys.foldl collect collected ↔ key ∈ collected ∨ key ∈ keys := by
  induction keys generalizing collected with
  | nil => simp
  | cons head keys ih =>
    have hhead : key ∈ collect collected head ↔ key ∈ collected ∨ key = head := by
      unfold collect
      split
      · rename_i hmem
        refine ⟨Or.inl, fun h => h.elim id fun heq => heq ▸ hmem⟩
      · simp
    rw [foldl_cons, ih, hhead, mem_cons, or_assoc]

/-- What has been collected stays collected, in the window that is open. -/
theorem foldl_offer_some (window : Window κ) (offers : List (ℕ × List κ)) :
    ∃ later, offers.foldl offer (some window) = some later ∧ later.opened = window.opened ∧
      window.collected ⊆ later.collected := by
  induction offers generalizing window with
  | nil => exact ⟨window, rfl, rfl, fun _ => id⟩
  | cons batch offers ih =>
    by_cases hbatch : batch.2.isEmpty
    · have hnext : offer (some window) batch = some window := if_pos hbatch
      rw [foldl_cons, hnext]
      exact ih window
    · have hnext : offer (some window) batch =
          some { window with collected := batch.2.foldl collect window.collected } := if_neg hbatch
      obtain ⟨later, hlater, hopened, hsubset⟩ := ih { window with collected := batch.2.foldl collect window.collected }
      rw [foldl_cons, hnext]
      refine ⟨later, hlater, hopened, fun key hkey => hsubset ?_⟩
      exact mem_foldl_collect.mpr (.inl hkey)

variable {offers : List (ℕ × List κ)} {window : Option (Window κ)}

/-- What is offered is collected. -/
theorem foldl_offer_mem {batch : ℕ × List κ} (hbatch : batch ∈ offers) (hkey : key ∈ batch.2) :
    ∃ later, offers.foldl offer window = some later ∧ key ∈ later.collected := by
  induction offers generalizing window with
  | nil => cases hbatch
  | cons head offers ih =>
    rw [foldl_cons]
    rcases mem_cons.mp hbatch with rfl | hmem
    · have hne : ¬ batch.2.isEmpty := by
        rw [List.isEmpty_iff]
        exact ne_nil_of_mem hkey
      have hnext := foldl_offer_some { (window.getD { opened := batch.1, collected := [] }) with
        collected := batch.2.foldl collect (window.getD { opened := batch.1, collected := [] }).collected }
        offers
      obtain ⟨later, hlater, -, hsubset⟩ := hnext
      refine ⟨later, ?_, hsubset (mem_foldl_collect.mpr (.inr hkey))⟩
      rw [offer, if_neg hne]
      exact hlater
    · exact ih hmem

/-- What is collected was collected before, or is offered. -/
theorem mem_of_foldl_offer {later : Window κ} (hlater : offers.foldl offer window = some later)
    (hkey : key ∈ later.collected) :
    (∃ earlier, window = some earlier ∧ key ∈ earlier.collected) ∨ ∃ batch ∈ offers, key ∈ batch.2 := by
  induction offers generalizing window with
  | nil => exact .inl ⟨later, hlater, hkey⟩
  | cons head offers ih =>
    rw [foldl_cons] at hlater
    rcases ih hlater with ⟨next, hnext, hmem⟩ | ⟨batch, hbatch, hmem⟩
    · unfold offer at hnext
      split at hnext
      · exact .inl ⟨next, hnext, hmem⟩
      · obtain rfl := Option.some.inj hnext
        rcases mem_foldl_collect.mp hmem with hold | hnew
        · cases window with
          | none => cases hold
          | some earlier => exact .inl ⟨earlier, rfl, hold⟩
        · exact .inr ⟨head, mem_cons_self, hnew⟩
    · exact .inr ⟨batch, mem_cons_of_mem _ hbatch, hmem⟩

end Offers

/-! ## Runs -/

/-- The opening of the window that is open after a visit. -/
def opening (opened : Option ℕ) (visit : Visit κ) : Option ℕ :=
  visit.offers.foldl (fun opened batch => if batch.2.isEmpty then opened else some (opened.getD batch.1))
    (if visit.released.isEmpty then opened else none)

/-- Every key that is offered is released in one bundle, at the first later visit at which its window has
been open for its width, and nothing is released before; a bundle holds only what was offered since the
one before it. -/
structure Delivered (width : ℕ) (visits : List (Visit κ)) : Prop where
  waits : ∀ (i : ℕ) (visit : Visit κ), visits[i]? = some visit → ∀ batch ∈ visit.offers, ∀ key ∈ batch.2,
    ∃ opened, (visits.take (i + 1)).foldl opening none = some opened ∧
      ∀ (j : ℕ) (later : Visit κ), i < j → visits[j]? = some later →
        (∀ (k : ℕ) (between : Visit κ), i < k → k < j → visits[k]? = some between → between.now < opened + width) →
        if opened + width ≤ later.now then ∃ bundle, later.released = [bundle] ∧ key ∈ bundle
        else later.released = []
  only : ∀ (j : ℕ) (visit : Visit κ), visits[j]? = some visit →
    ∀ bundle ∈ visit.released, ∀ key ∈ bundle, ∃ (i : ℕ) (earlier : Visit κ),
      i < j ∧ visits[i]? = some earlier ∧ (∃ batch ∈ earlier.offers, key ∈ batch.2) ∧
        ∀ (k : ℕ) (between : Visit κ), i < k → k < j → visits[k]? = some between → between.released = []

variable [DecidableEq κ] {width : ℕ}

/-- The window after a visit. -/
def visited (width : ℕ) (window : Option (Window κ)) (visit : Visit κ) : Option (Window κ) :=
  visit.offers.foldl offer (release width visit.now window).1

/-- The visits are a run from a window. -/
def Follows (width : ℕ) : Option (Window κ) → List (Visit κ) → Prop
  | _, [] => True
  | window, visit :: visits =>
    visit.released = (release width visit.now window).2 ∧ Follows width (visited width window visit) visits

variable {visits : List (Visit κ)} {window : Option (Window κ)}

theorem Follows.drop (h : Follows width window visits) (n : ℕ) :
    Follows width ((visits.take n).foldl (visited width) window) (visits.drop n) := by
  induction visits generalizing window n with
  | nil => simp [Follows]
  | cons visit visits ih =>
    cases n with
    | zero => exact h
    | succ n => exact ih h.2 n

theorem map_opened_foldl_offer (window : Option (Window κ)) (offers : List (ℕ × List κ)) :
    (offers.foldl offer window).map opened = offers.foldl
      (fun opened batch => if batch.2.isEmpty then opened else some (opened.getD batch.1)) (window.map opened) := by
  induction offers generalizing window with
  | nil => rfl
  | cons batch offers ih =>
    rw [foldl_cons, foldl_cons, ih]
    congr 1
    unfold offer
    split
    · rfl
    · cases window <;> rfl

/-- The opening of a window can be read off the visits. -/
theorem Follows.opening (h : Follows width window visits) (n : ℕ) :
    ((visits.take n).foldl (visited width) window).map opened = (visits.take n).foldl opening (window.map opened) := by
  induction visits generalizing window n with
  | nil => simp
  | cons visit visits ih =>
    cases n with
    | zero => rfl
    | succ n =>
      rw [take_succ_cons, foldl_cons, foldl_cons, ih h.2 n]
      congr 1
      unfold visited opening
      rw [map_opened_foldl_offer, h.1]
      congr 1
      unfold release
      cases window with
      | none => rfl
      | some window =>
        simp only
        split <;> rfl

variable {key : κ}

/-- What is collected is released at the first visit at which the window is due. -/
theorem Follows.released {window : Window κ} (h : Follows width (some window) visits)
    (hkey : key ∈ window.collected) {j : ℕ} {later : Visit κ} (hlater : visits[j]? = some later)
    (hwaits : ∀ k between, k < j → visits[k]? = some between → between.now < window.opened + width) :
    if window.opened + width ≤ later.now then ∃ bundle, later.released = [bundle] ∧ key ∈ bundle
    else later.released = [] := by
  induction visits generalizing window j with
  | nil => cases hlater
  | cons visit visits ih =>
    cases j with
    | zero =>
      obtain rfl : visit = later := Option.some.inj hlater
      rw [h.1, release_some]
      by_cases hdue : window.opened + width ≤ visit.now
      · rw [if_pos hdue, if_pos hdue]
        exact ⟨_, rfl, hkey⟩
      · rw [if_neg hdue, if_neg hdue]
    | succ j =>
      have hvisit : visit.now < window.opened + width := hwaits 0 visit (Nat.succ_pos j) rfl
      have hrelease : (release width visit.now (some window)).1 = some window := by rw [release_some, if_neg (by omega)]
      obtain ⟨next, hnext, hopened, hsubset⟩ := foldl_offer_some window visit.offers
      have hrest := h.2
      rw [visited, hrelease, hnext] at hrest
      rw [← hopened]
      refine ih hrest (hsubset hkey) hlater fun k between hk hbetween => ?_
      rw [hopened]
      exact hwaits (k + 1) between (Nat.succ_lt_succ hk) hbetween

/-- What is released was collected at the start, or offered since the last release. -/
theorem Follows.offered (h : Follows width window visits) {j : ℕ} {visit : Visit κ}
    (hvisit : visits[j]? = some visit) {bundle : List κ} (hbundle : bundle ∈ visit.released)
    (hkey : key ∈ bundle) : (∃ start, window = some start ∧ key ∈ start.collected ∧
        ∀ k between, k < j → visits[k]? = some between → between.released = []) ∨
      ∃ i earlier, i < j ∧ visits[i]? = some earlier ∧ (∃ batch ∈ earlier.offers, key ∈ batch.2) ∧
        ∀ k between, i < k → k < j → visits[k]? = some between → between.released = [] := by
  induction visits generalizing window j with
  | nil => cases hvisit
  | cons head visits ih =>
    cases j with
    | zero =>
      obtain rfl : head = visit := Option.some.inj hvisit
      rw [h.1] at hbundle
      cases window with
      | none => cases hbundle
      | some start =>
        rw [release_some] at hbundle
        split at hbundle
        · obtain rfl := mem_singleton.mp hbundle
          exact .inl ⟨start, rfl, hkey, fun k _ hk => absurd hk (Nat.not_lt_zero k)⟩
        · cases hbundle
    | succ j =>
      rcases ih h.2 hvisit with ⟨next, hnext, hmem, hquiet⟩ | ⟨i, earlier, hi, hearlier, hoffer, hquiet⟩
      · -- The window that is released was open after the first visit.
        rcases mem_of_foldl_offer hnext hmem with ⟨start, hstart, hold⟩ | hoffer
        · have hrelease : window = some start ∧ head.released = [] := by
            rw [h.1]
            cases window with
            | none => cases hstart
            | some window =>
              rw [release_some] at hstart ⊢
              split at hstart
              · cases hstart
              · rename_i hdue
                exact ⟨hstart, by rw [if_neg hdue]⟩
          refine .inl ⟨start, hrelease.1, hold, fun k between hk hbetween => ?_⟩
          cases k with
          | zero => exact Option.some.inj hbetween ▸ hrelease.2
          | succ k => exact hquiet k between (Nat.lt_of_succ_lt_succ hk) hbetween
        · refine .inr ⟨0, head, Nat.succ_pos j, rfl, hoffer, fun k between hk hlt hbetween => ?_⟩
          cases k with
          | zero => exact absurd hk (Nat.lt_irrefl 0)
          | succ k => exact hquiet k between (Nat.lt_of_succ_lt_succ hlt) hbetween
      · refine .inr ⟨i + 1, earlier, Nat.succ_lt_succ hi, hearlier, hoffer, ?_⟩
        intro k between hk hlt hbetween
        cases k with
        | zero => exact absurd hk (Nat.not_lt_zero _)
        | succ k => exact hquiet k between (Nat.lt_of_succ_lt_succ hk) (Nat.lt_of_succ_lt_succ hlt) hbetween

/-- Every run from a closed window delivers what is offered. -/
theorem Follows.delivered (h : Follows width none visits) : Delivered width visits where
  waits i visit hvisit batch hbatch key hkey := by
    have htake : (visits.take (i + 1)).foldl (visited width) none =
        visited width ((visits.take i).foldl (visited width) none) visit := by
      rw [take_add_one, hvisit]
      exact foldl_concat ..
    have hcollected : ∃ window, visited width ((visits.take i).foldl (visited width) none) visit =
        some window ∧ key ∈ window.collected := foldl_offer_mem hbatch hkey
    obtain ⟨window, hwindow, hmem⟩ := hcollected
    have hstate : (visits.take (i + 1)).foldl (visited width) none = some window := htake.trans hwindow
    have hdrop := h.drop (i + 1)
    rw [hstate] at hdrop
    refine ⟨window.opened, ?_, ?_⟩
    · have hopening := h.opening (i + 1)
      rw [hstate] at hopening
      exact hopening.symm
    · intro j later hij hlater hwaits
      obtain ⟨d, rfl⟩ := Nat.exists_eq_add_of_lt hij
      refine hdrop.released hmem (j := d) ?_ ?_
      · rw [getElem?_drop]
        convert hlater using 2
        omega
      · intro k between hk hbetween
        rw [getElem?_drop] at hbetween
        exact hwaits (i + 1 + k) between (by omega) (by omega) hbetween
  only j visit hvisit bundle hbundle key hkey := by
    rcases h.offered hvisit hbundle hkey with ⟨_, hnone, -⟩ | hoffered
    · cases hnone
    · exact hoffered

end Window

end Clawhip
