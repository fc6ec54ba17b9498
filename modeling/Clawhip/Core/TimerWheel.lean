import Clawhip.Lib.DelayQueue
import Clawhip.Lib.SlotRing

/-!
# The timer wheel

`TimerWheel` of `src/core/timer_wheel.rs`: four modular rings of slots over milliseconds. An entry is
scheduled into the ring that its delay fits, at its due time modulo the ring, and a tick drains, ring
by ring, the slots between the old and the new time: due entries leave, and the others are put back
(seconds) or scheduled again (the coarser rings). Milliseconds are unbounded here; the wheel only
divides, compares and subtracts saturatingly, so nothing of it can overflow.
-/

namespace Clawhip.Core

open SlotRing Multiset

/-- An entry of the wheel: its due time and an opaque record. -/
structure DelayedEntry where
  deliver_at_ms : ℕ
  record : List UInt8
deriving DecidableEq

/-- The four rings. -/
inductive Level where
  | seconds
  | minutes
  | hours
  | days
deriving DecidableEq

namespace Level

instance : Fintype Level := ⟨{seconds, minutes, hours, days}, by intro l; cases l <;> decide⟩

/-- The width of one slot in milliseconds. -/
def unit_ms : Level → ℕ
  | seconds => 1000
  | minutes => 60000
  | hours => 3600000
  | days => 86400000

/-- The number of slots. -/
def size : Level → ℕ
  | seconds => 60
  | minutes => 60
  | hours => 24
  | days => 365

theorem size_pos (l : Level) : 0 < l.size := by cases l <;> decide

/-- The slot of the `k`-th second, minute, hour or day. -/
def slot (l : Level) (k : ℕ) : Fin l.size := ⟨k % l.size, Nat.mod_lt _ l.size_pos⟩

def slotOf (l : Level) (e : DelayedEntry) : Fin l.size := l.slot (e.deliver_at_ms / l.unit_ms)

/-- The ring that a delay fits. -/
def forDelta (delta : ℕ) : Level :=
  if delta < 60000 then seconds
  else if delta < 3600000 then minutes
  else if delta < 86400000 then hours
  else days

end Level

/-- The wheel: its four rings, and the time of the last tick. -/
structure TimerWheel where
  seconds : SlotRing DelayedEntry 60
  minutes : SlotRing DelayedEntry 60
  hours : SlotRing DelayedEntry 24
  days : SlotRing DelayedEntry 365
  current_ms : ℕ

namespace TimerWheel

/-- An empty wheel at `current_ms`. -/
def new (current_ms : ℕ) : TimerWheel where
  seconds := .empty _ _
  minutes := .empty _ _
  hours := .empty _ _
  days := .empty _ _
  current_ms := current_ms

def ring (w : TimerWheel) : (l : Level) → SlotRing DelayedEntry l.size
  | .seconds => w.seconds
  | .minutes => w.minutes
  | .hours => w.hours
  | .days => w.days

/-- Replace the ring of a level. -/
def setRing (w : TimerWheel) : (l : Level) → SlotRing DelayedEntry l.size → TimerWheel
  | .seconds, r => { w with seconds := r }
  | .minutes, r => { w with minutes := r }
  | .hours, r => { w with hours := r }
  | .days, r => { w with days := r }

def schedule (w : TimerWheel) (e : DelayedEntry) : TimerWheel :=
  let l := Level.forDelta (e.deliver_at_ms - w.current_ms)
  w.setRing l ((w.ring l).push (l.slotOf e) e)

/-- What a drain does with a taken entry that is not due: the seconds ring takes it back into the
slot it came from, and the other rings schedule it again, against the time of the last tick. -/
def putBack : (l : Level) → Fin l.size → TimerWheel → DelayedEntry → TimerWheel
  | .seconds, slot, w, e => w.setRing .seconds ((w.ring .seconds).push slot e)
  | .minutes, _, w, e => w.schedule e
  | .hours, _, w, e => w.schedule e
  | .days, _, w, e => w.schedule e

/-- One taken entry: it leaves when it is due, and is put back otherwise. -/
def settle (l : Level) (now_ms : ℕ) (slot : Fin l.size) (s : TimerWheel × List DelayedEntry)
    (e : DelayedEntry) : TimerWheel × List DelayedEntry :=
  if e.deliver_at_ms ≤ now_ms then (s.1, s.2 ++ [e]) else (putBack l slot s.1 e, s.2)

/-- One slot of a drain: its entries are taken out and settled one by one. -/
def drainSlot (l : Level) (now_ms : ℕ) (s : TimerWheel × List DelayedEntry) (k : ℕ) :
    TimerWheel × List DelayedEntry :=
  ((s.1.ring l)[l.slot k]).foldl (settle l now_ms (l.slot k))
    (s.1.setRing l ((s.1.ring l).clear (l.slot k)), s.2)

/-- The drain of a ring: every slot from the unit of the last tick to the unit of `now_ms`. The range
is empty when the clock went back to an earlier unit. -/
def drain (l : Level) (now_ms : ℕ) (s : TimerWheel × List DelayedEntry) :
    TimerWheel × List DelayedEntry :=
  let old := s.1.current_ms / l.unit_ms
  let new := now_ms / l.unit_ms
  (List.range' old (new + 1 - old)).foldl (drainSlot l now_ms) s

def drainSeconds := drain .seconds

def drainMinutes := drain .minutes

def drainHours := drain .hours

def drainDays := drain .days

/-- `TimerWheel::tick`: the entries due at `now_ms`, drained ring by ring. -/
def tick (w : TimerWheel) (now_ms : ℕ) : TimerWheel × List DelayedEntry :=
  let s := drainDays now_ms (drainHours now_ms (drainMinutes now_ms (drainSeconds now_ms (w, []))))
  ({ s.1 with current_ms := now_ms }, s.2)

@[irreducible] def stored (w : TimerWheel) : Multiset DelayedEntry := ∑ l : Level, (w.ring l).stored

/-! ## The rings of a wheel -/

@[simp] theorem ring_setRing (w : TimerWheel) (l : Level) (r : SlotRing DelayedEntry l.size) :
    (w.setRing l r).ring l = r := by
  cases l <;> rfl

variable {l l' : Level}

theorem ring_setRing_ne (w : TimerWheel) (r : SlotRing DelayedEntry l.size)
    (h : l' ≠ l) : (w.setRing l r).ring l' = w.ring l' := by
  cases l <;> cases l' <;> first | rfl | exact absurd rfl h

@[simp] theorem setRing_current_ms (w : TimerWheel) (l : Level)
    (r : SlotRing DelayedEntry l.size) : (w.setRing l r).current_ms = w.current_ms := by
  cases l <;> rfl

@[simp] theorem ring_current_ms (w : TimerWheel) (now : ℕ) (l : Level) :
    ({ w with current_ms := now } : TimerWheel).ring l = w.ring l := by
  cases l <;> rfl

variable {e : DelayedEntry} {w : TimerWheel} {s : TimerWheel × List DelayedEntry}

/-- An entry is stored when some ring stores it. -/
theorem mem_stored : e ∈ w.stored ↔ ∃ l, e ∈ (w.ring l).stored := by
  simp [stored, mem_sum]

/-- Replacing a ring exchanges its entries. -/
theorem stored_setRing (w : TimerWheel) (l : Level) (r : SlotRing DelayedEntry l.size) :
    (w.setRing l r).stored + (w.ring l).stored = w.stored + r.stored := by
  unfold stored
  rw [← Finset.add_sum_erase _ _ (Finset.mem_univ l),
    ← Finset.add_sum_erase (Finset.univ) (fun l' => (w.ring l').stored) (Finset.mem_univ l),
    ring_setRing, Finset.sum_congr rfl fun l' hl' => by rw [ring_setRing_ne w r (Finset.ne_of_mem_erase hl')]]
  abel

@[simp] theorem stored_schedule (w : TimerWheel) (e : DelayedEntry) : (w.schedule e).stored = e ::ₘ w.stored := by
  have h := stored_setRing w (Level.forDelta (e.deliver_at_ms - w.current_ms)) ((w.ring _).push (Level.slotOf _ e) e)
  rw [stored_push, add_cons, ← cons_add] at h
  exact add_right_cancel h

@[simp] theorem schedule_current_ms (w : TimerWheel) (e : DelayedEntry) : (w.schedule e).current_ms = w.current_ms := by
  simp [schedule]

/-- Every ring holds its entries in the slots of their due times. -/
def WellPlaced (w : TimerWheel) : Prop := ∀ l : Level, (w.ring l).Placed l.slotOf

/-- Pushing an entry into the slot of its due time keeps a wheel well placed. -/
theorem WellPlaced.push (h : w.WellPlaced) (l : Level) (e : DelayedEntry) :
    (w.setRing l ((w.ring l).push (l.slotOf e) e)).WellPlaced := by
  intro l'
  by_cases hl : l' = l
  · subst hl
    rw [ring_setRing]
    exact (h l').push e
  · rw [ring_setRing_ne _ _ hl]
    exact h l'

theorem WellPlaced.schedule (h : w.WellPlaced) (e : DelayedEntry) : (w.schedule e).WellPlaced := h.push _ e

/-- Pushing an entry into one ring adds it to that ring alone. -/
theorem mem_ring_push {i : Fin l.size} {a : DelayedEntry}
    (h : a ∈ ((w.setRing l ((w.ring l).push i e)).ring l').stored) : a ∈ (w.ring l').stored ∨ a = e := by
  by_cases hl : l' = l
  · subst hl
    rw [ring_setRing, stored_push, mem_cons] at h
    exact h.symm
  · rw [ring_setRing_ne _ _ hl] at h
    exact Or.inl h

/-! ## What a drain does

`Drained now extra s s'` is what every part of a drain does to the wheel and the entries handed over so
far, when `extra` is what has been taken out of the wheel before: no entry is lost or made, whatever
is handed over is due, and whatever a ring holds afterwards it held before or is not due. -/

/-- From `s` and the entries `extra`, taken out before, a part of a drain at `now` reaches `s'`. -/
structure Drained (now : ℕ) (extra : Multiset DelayedEntry)
    (s s' : TimerWheel × List DelayedEntry) : Prop where
  current_ms : s'.1.current_ms = s.1.current_ms
  stored : s'.1.stored + s'.2 = s.1.stored + s.2 + extra
  placed : s.1.WellPlaced → s'.1.WellPlaced
  due : ∀ e ∈ s'.2, e ∈ s.2 ∨ e.deliver_at_ms ≤ now
  kept : ∀ l, ∀ e ∈ (s'.1.ring l).stored, e ∈ (s.1.ring l).stored ∨ now < e.deliver_at_ms

variable (l : Level) (now : ℕ)

theorem Drained.refl (s : TimerWheel × List DelayedEntry) : Drained now 0 s s :=
  ⟨rfl, by simp, id, fun _ h => Or.inl h, fun _ _ h => Or.inl h⟩

theorem Drained.trans {now : ℕ} {x y : Multiset DelayedEntry} {t u : TimerWheel × List DelayedEntry}
    (h₁ : Drained now x s t) (h₂ : Drained now y t u) : Drained now (x + y) s u where
  current_ms := h₂.current_ms.trans h₁.current_ms
  stored := by rw [h₂.stored, h₁.stored, add_assoc]
  placed h := h₂.placed (h₁.placed h)
  due e he := (h₂.due e he).elim (h₁.due e) Or.inr
  kept l e he := (h₂.kept l e he).elim (h₁.kept l e) Or.inr

/-- Putting an entry back stores it, in the slot of its due time, and touches nothing else. -/
theorem putBack_spec (w : TimerWheel) (e : DelayedEntry) :
    ∃ l', putBack l (l.slotOf e) w e = w.setRing l' ((w.ring l').push (l'.slotOf e) e) := by
  cases l
  · exact ⟨.seconds, rfl⟩
  all_goals exact ⟨_, rfl⟩

/-- Settling one entry of the slot: it is handed over when due, and stored again otherwise. -/
theorem settle_drained (s : TimerWheel × List DelayedEntry) (e : DelayedEntry) :
    Drained now {e} s (settle l now (l.slotOf e) s e) := by
  unfold settle
  split_ifs with h
  · refine ⟨rfl, ?_, id, ?_, fun _ _ ha => Or.inl ha⟩
    · rw [← coe_add, ← add_assoc]
      rfl
    · intro a ha
      rcases List.mem_append.mp ha with ha | ha
      · exact Or.inl ha
      · rw [List.mem_singleton.mp ha]
        exact Or.inr h
  · obtain ⟨l', hl'⟩ := putBack_spec l s.1 e
    rw [hl']
    refine ⟨setRing_current_ms _ _ _, ?_, fun hp => hp.push l' e, fun _ ha => Or.inl ha, ?_⟩
    · have hs := stored_setRing s.1 l' ((s.1.ring l').push (l'.slotOf e) e)
      rw [stored_push, add_cons, ← cons_add] at hs
      rw [add_right_cancel hs, ← singleton_add]
      abel
    · intro l'' a ha
      rcases mem_ring_push ha with ha | rfl
      · exact Or.inl ha
      · exact Or.inr (not_le.mp h)

/-- Settling the entries of one slot. -/
theorem settle_foldl_drained (i : Fin l.size) (es : List DelayedEntry) :
    (∀ e ∈ es, l.slotOf e = i) → ∀ s : TimerWheel × List DelayedEntry,
      Drained now es s (es.foldl (settle l now i) s) := by
  induction es with
  | nil => exact fun _ s => Drained.refl now s
  | cons e es ih =>
    intro hes s
    have he : l.slotOf e = i := hes e List.mem_cons_self
    have h₁ := settle_drained l now s e
    rw [he] at h₁
    exact h₁.trans (ih (fun a ha => hes a (List.mem_cons_of_mem _ ha)) _)

/-- A drained slot: nothing is lost, and what is due and stays in the ring belongs to another slot. -/
theorem drainSlot_drained (hp : s.1.WellPlaced) (k : ℕ) : Drained now 0 s (drainSlot l now s k) ∧
      ∀ e ∈ ((drainSlot l now s k).1.ring l).stored, e.deliver_at_ms ≤ now →
        e ∈ (s.1.ring l).stored ∧ l.slotOf e ≠ l.slot k := by
  have hplaced : (s.1.setRing l ((s.1.ring l).clear (l.slot k))).WellPlaced := by
    intro l'
    by_cases hl : l' = l
    · subst hl
      rw [ring_setRing]
      exact (hp l').clear _
    · rw [ring_setRing_ne _ _ hl]
      exact hp l'
  have h := settle_foldl_drained l now (l.slot k) _ (hp l (l.slot k))
    (s.1.setRing l ((s.1.ring l).clear (l.slot k)), s.2)
  refine ⟨⟨?_, ?_, fun _ => h.placed hplaced, h.due, ?_⟩, ?_⟩
  · exact h.current_ms.trans (setRing_current_ms _ _ _)
  · have hs := stored_setRing s.1 l ((s.1.ring l).clear (l.slot k))
    rw [← stored_clear (s.1.ring l) (l.slot k), ← add_assoc] at hs
    have hs' := add_right_cancel hs
    rw [add_zero, ← hs']
    refine h.stored.trans ?_
    abel
  · intro l' e he
    refine (h.kept l' e he).imp_left fun he => ?_
    by_cases hl : l' = l
    · subst hl
      rw [ring_setRing] at he
      exact ((hp l').mem_clear.mp he).1
    · rwa [ring_setRing_ne _ _ hl] at he
  · intro e he hdue
    have hmem := (h.kept l e he).resolve_right (not_lt.mpr hdue)
    rw [ring_setRing] at hmem
    exact (hp l).mem_clear.mp hmem

/-- Draining a list of slots of one ring: what is due and stays in the ring belongs to none of them. -/
theorem drainSlot_foldl_drained (ks : List ℕ) :
    ∀ {s : TimerWheel × List DelayedEntry}, s.1.WellPlaced → Drained now 0 s (ks.foldl (drainSlot l now) s) ∧
        ∀ e ∈ ((ks.foldl (drainSlot l now) s).1.ring l).stored, e.deliver_at_ms ≤ now →
          e ∈ (s.1.ring l).stored ∧ ∀ k ∈ ks, l.slotOf e ≠ l.slot k := by
  induction ks with
  | nil => exact fun {s} _ => ⟨Drained.refl now s, fun e he _ => ⟨he, by simp⟩⟩
  | cons k ks ih =>
    intro s hp
    obtain ⟨h₁, hk⟩ := drainSlot_drained l now hp k
    obtain ⟨h₂, hks⟩ := ih (h₁.placed hp)
    refine ⟨h₁.trans h₂, fun e he hdue => ?_⟩
    obtain ⟨hmem, hne⟩ := hks e he hdue
    obtain ⟨hmem', hne'⟩ := hk e hmem hdue
    refine ⟨hmem', fun j hj => ?_⟩
    rcases List.mem_cons.mp hj with rfl | hj
    · exact hne'
    · exact hne j hj

/-- The drain of a ring loses nothing, and leaves nothing in the ring that came due since the last
tick: the slot of every such entry lies between the old and the new unit. -/
theorem drain_drained (hp : s.1.WellPlaced) : Drained now 0 s (drain l now s) ∧
      ∀ e ∈ ((drain l now s).1.ring l).stored, s.1.current_ms ≤ e.deliver_at_ms → now < e.deliver_at_ms := by
  obtain ⟨h, hslots⟩ := drainSlot_foldl_drained l now (List.range'
    (s.1.current_ms / l.unit_ms) (now / l.unit_ms + 1 - s.1.current_ms / l.unit_ms)) hp
  refine ⟨h, fun e he hcur => not_le.mp fun hdue => ?_⟩
  refine (hslots e he hdue).2 (e.deliver_at_ms / l.unit_ms) ?_ rfl
  have h₁ : s.1.current_ms / l.unit_ms ≤ e.deliver_at_ms / l.unit_ms := Nat.div_le_div_right hcur
  have h₂ : e.deliver_at_ms / l.unit_ms ≤ now / l.unit_ms := Nat.div_le_div_right hdue
  rw [List.mem_range'_1]
  omega

/-! ## A tick -/

/-- No stored entry is overdue: none is due before the last tick. -/
def Pending (w : TimerWheel) : Prop := ∀ e ∈ w.stored, w.current_ms ≤ e.deliver_at_ms

/-- The wheel's invariant. -/
structure Valid (w : TimerWheel) : Prop where
  placed : w.WellPlaced
  pending : w.Pending

theorem valid_new (t : ℕ) : (new t).Valid := by
  have hring : ∀ l, (new t).ring l = empty _ _ := by intro l; cases l <;> rfl
  constructor
  · intro l
    rw [hring]
    exact placed_empty _
  · intro e he
    obtain ⟨l, hl⟩ := mem_stored.mp he
    rw [hring] at hl
    simp at hl

@[simp] theorem stored_new (t : ℕ) : (new t).stored = 0 := by
  unfold stored
  refine Finset.sum_eq_zero fun l _ => ?_
  cases l <;> exact stored_empty

/-- Scheduling an entry that is not overdue keeps the wheel valid. -/
theorem Valid.schedule (h : w.Valid) (he : w.current_ms ≤ e.deliver_at_ms) : (w.schedule e).Valid := by
  refine ⟨h.placed.schedule e, fun a ha => ?_⟩
  rw [stored_schedule, mem_cons] at ha
  rw [schedule_current_ms]
  rcases ha with rfl | ha
  · exact he
  · exact h.pending a ha

/-- A tick of a valid wheel hands over exactly the entries that are due, once each, and keeps the
others. -/
theorem Valid.tick_spec (h : w.Valid) (now : ℕ) :
    (w.tick now).1.Valid ∧ (w.tick now).1.stored = w.stored.filter (fun e => now < e.deliver_at_ms) ∧
      ((w.tick now).2 : Multiset DelayedEntry) = w.stored.filter (fun e => e.deliver_at_ms ≤ now) := by
  obtain ⟨d₁, l₁⟩ := drain_drained .seconds now (s := (w, [])) h.placed
  obtain ⟨d₂, l₂⟩ := drain_drained .minutes now (d₁.placed h.placed)
  obtain ⟨d₃, l₃⟩ := drain_drained .hours now ((d₁.trans d₂).placed h.placed)
  obtain ⟨d₄, l₄⟩ := drain_drained .days now (((d₁.trans d₂).trans d₃).placed h.placed)
  have d := ((d₁.trans d₂).trans d₃).trans d₄
  set s₁ := drain .seconds now (w, []) with hs₁
  set s₂ := drain .minutes now s₁ with hs₂
  set s₃ := drain .hours now s₂ with hs₃
  set s₄ := drain .days now s₃ with hs₄
  have htick : w.tick now = ({ s₄.1 with current_ms := now }, s₄.2) := rfl
  have hstored : ({ s₄.1 with current_ms := now } : TimerWheel).stored = s₄.1.stored := by
    unfold stored
    exact Finset.sum_congr rfl fun l _ => by rw [ring_current_ms]
  have hadd : s₄.1.stored + s₄.2 = w.stored := by
    rw [d.stored]
    simp
  have hpend : ∀ e ∈ s₄.1.stored, w.current_ms ≤ e.deliver_at_ms := fun e he =>
    h.pending e (hadd ▸ mem_add.mpr (Or.inl he))
  -- Every ring is left without due entries by its own drain, and no later drain adds one.
  have hlate : ∀ e ∈ s₄.1.stored, now < e.deliver_at_ms := by
    intro e he
    have hcur := hpend e he
    obtain ⟨l, hl⟩ := mem_stored.mp he
    cases l with
    | seconds =>
      rcases (d₂.trans (d₃.trans d₄)).kept _ e hl with hl | hl
      · exact l₁ e hl hcur
      · exact hl
    | minutes =>
      rcases (d₃.trans d₄).kept _ e hl with hl | hl
      · exact l₂ e hl (by rw [d₁.current_ms]; exact hcur)
      · exact hl
    | hours =>
      rcases d₄.kept _ e hl with hl | hl
      · exact l₃ e hl (by rw [(d₁.trans d₂).current_ms]; exact hcur)
      · exact hl
    | days => exact l₄ e hl (by rw [((d₁.trans d₂).trans d₃).current_ms]; exact hcur)
  have hdue : ∀ e ∈ s₄.2, e.deliver_at_ms ≤ now := fun e he => (d.due e he).resolve_left (by simp)
  have hplaced : ({ s₄.1 with current_ms := now } : TimerWheel).WellPlaced := by
    intro l
    rw [ring_current_ms]
    exact d.placed h.placed l
  rw [htick]
  refine ⟨⟨hplaced, ?_⟩, ?_, ?_⟩
  · intro e he
    rw [hstored] at he
    exact (hlate e he).le
  · rw [hstored, ← hadd, filter_add, filter_eq_self.mpr hlate,
      filter_eq_nil.mpr fun e he => not_lt.mpr (hdue e he), add_zero]
  · rw [← hadd, filter_add, filter_eq_nil.mpr fun e he => not_le.mpr (hlate e he), zero_add, filter_eq_self.mpr hdue]

/-! ## Runs of the wheel

The wheel simulates the delay queue on its stored entries, along every run in which no entry is
overdue when it is scheduled. -/

open DelayQueue (Call)

/-- The wheel as a machine: `schedule` hands nothing over. -/
def machine : Machine TimerWheel (Call DelayedEntry) (List DelayedEntry) where
  step
    | w, .schedule e => (w.schedule e, [])
    | w, .tick now => w.tick now

/-- What the batchers keep by ticking first: an entry is not overdue when it is scheduled. -/
def Timely (w : TimerWheel) : Call DelayedEntry → Prop
  | .schedule e => w.current_ms ≤ e.deliver_at_ms
  | .tick _ => True

/-- The wheel simulates the delay queue. -/
theorem machine_simulates : Machine.Simulates machine
    (DelayQueue.queue DelayedEntry.deliver_at_ms) Valid Timely stored (fun es => (es : Multiset DelayedEntry)) where
  inv w c h hc := by
    cases c with
    | schedule e => exact h.schedule hc
    | tick now => exact (h.tick_spec now).1
  step w c h _ := by
    cases c with
    | schedule e => simp [machine, DelayQueue.queue]
    | tick now =>
      obtain ⟨-, hstored, hdue⟩ := h.tick_spec now
      simp only [machine, DelayQueue.queue, hstored, hdue]

/-- A wheel stays valid along every timely run. -/
theorem valid_run {t : ℕ} {calls : List (Call DelayedEntry)}
    (h : machine.Along Timely (new t) calls) : (machine.run (new t) calls).Valid :=
  Machine.run_invariant machine Valid machine_simulates.inv (valid_new t) h

/-- After any timely calls on a new wheel, the wheel stores exactly the entries that no later tick
reached; the next tick, at any time, hands over exactly those of them that are due by then; and what
was handed over and what is stored is what was scheduled. So every entry leaves at the first tick at
or past its due time. -/
theorem delivers_on_time (t : ℕ) (calls : List (Call DelayedEntry))
    (h : machine.Along Timely (new t) calls) (now : ℕ) :
    (machine.run (new t) calls).stored = DelayQueue.waiting DelayedEntry.deliver_at_ms calls ∧
      (((machine.run (new t) calls).tick now).2 : Multiset DelayedEntry) =
        (DelayQueue.waiting DelayedEntry.deliver_at_ms calls).filter (fun e => e.deliver_at_ms ≤ now) ∧
      ((machine.outputs (new t) calls).flatten : Multiset DelayedEntry) +
        (machine.run (new t) calls).stored = DelayQueue.scheduled calls := by
  have hrun := machine_simulates.run_eq (valid_new t) h
  rw [stored_new, DelayQueue.queue_run] at hrun
  refine ⟨hrun.symm, ?_, ?_⟩
  · rw [((valid_run h).tick_spec now).2.2, ← hrun]
  · have hout := machine_simulates.outputs_eq (valid_new t) h
    have hcons := DelayQueue.queue_conserves DelayedEntry.deliver_at_ms (new t).stored calls
    rw [machine_simulates.run_eq (valid_new t) h, hout, stored_new, zero_add] at hcons
    rw [← hcons]
    congr 1
    induction machine.outputs (new t) calls with
    | nil => rfl
    | cons es out ih => rw [List.flatten_cons, ← Multiset.coe_add, ih, List.map_cons, List.sum_cons]

/-- An entry 90 s away, a coarse tick short of it, a tick back, and the tick that reaches it. -/
theorem delivers_on_time_ninety_seconds :
    (((machine.run (new 0) [.schedule ⟨90000, []⟩, .tick 89999, .tick 30000]).tick 90000).2 :
      Multiset DelayedEntry) = {⟨90000, []⟩} := by
  have h := (delivers_on_time 0 [.schedule ⟨90000, []⟩, .tick 89999, .tick 30000]
    ⟨Nat.zero_le _, trivial, trivial, trivial⟩ 90000).2.1
  rw [h]
  decide

end TimerWheel

end Clawhip.Core
