import Mathlib.Data.List.Basic
import Mathlib.Data.List.Chain
import Mathlib.Algebra.BigOperators.Group.List.Basic
import Mathlib.Algebra.GroupWithZero.Nat

/-!
# Packing in order

Items with sizes are packed into packets, in order: a packet is a run of items that fits within a limit, with a
separator between two items, or a single item that is larger than the limit. `Packs` says that no item is lost
and that no run could have taken in the first item of the packet behind it.
-/

namespace Clawhip

open List

/-- A run of at least one item, or a single item that is too large. -/
inductive Packet (α : Type*) where
  | run (first : α) (rest : List α)
  | lone (item : α)

namespace Packet

variable {α : Type*}

def items : Packet α → List α
  | run first rest => first :: rest
  | lone item => [item]

/-- The first item of a packet. -/
def head : Packet α → α
  | run first _ => first
  | lone item => item

variable (size : α → ℕ) (separator limit : ℕ)

/-- The size of a run with its separators. -/
def width (first : α) (rest : List α) : ℕ := size first + (rest.map fun item => separator + size item).sum

/-- A run is within the limit, and a single item is not. -/
def Sound : Packet α → Prop
  | run first rest => width size separator first rest ≤ limit
  | lone item => limit < size item

/-- A run could not have taken in the first item of the next packet. -/
def Full : Packet α → Packet α → Prop
  | run first rest, next => limit < width size separator first rest + (separator + size next.head)
  | lone _, _ => True

variable {size separator limit}

theorem width_append {first : α} {rest : List α} (item : α) : width size separator first (rest ++ [item]) =
      width size separator first rest + (separator + size item) := by
  unfold width
  rw [map_append, sum_append, map_singleton, sum_singleton, Nat.add_assoc]

/-- Nothing can be taken in that is itself too large. -/
theorem full_lone {packet : Packet α} {item : α} (h : limit < size item) :
    packet.Full size separator limit (lone item) := by
  cases packet with
  | run first rest =>
    have hwidth : limit < width size separator first rest + (separator + size item) := by omega
    exact hwidth
  | lone _ => exact trivial

end Packet

section Packs

variable {α : Type*} {size : α → ℕ} {separator limit : ℕ}

structure Packs (size : α → ℕ) (separator limit : ℕ) (packets : List (Packet α)) (items : List α) : Prop where
  items : packets.flatMap Packet.items = items
  sound : ∀ packet ∈ packets, packet.Sound size separator limit
  full : packets.IsChain (Packet.Full size separator limit)

variable {packets : List (Packet α)} {items : List α} {item : α}

theorem packs_nil : Packs size separator limit [] ([] : List α) := ⟨rfl, fun _ h => absurd h not_mem_nil, IsChain.nil⟩

/-- A packet at the end. -/
theorem Packs.append (h : Packs size separator limit packets items) {packet : Packet α}
    (hsound : packet.Sound size separator limit)
    (hfull : ∀ last ∈ packets.getLast?, last.Full size separator limit packet) :
    Packs size separator limit (packets ++ [packet]) (items ++ packet.items) := by
  refine ⟨?_, fun packet' hpacket' => ?_, ?_⟩
  · rw [flatMap_append, h.items, flatMap_singleton]
  · rcases mem_append.mp hpacket' with hold | hnew
    · exact h.sound packet' hold
    · rw [mem_singleton.mp hnew]
      exact hsound
  · refine isChain_append.mpr ⟨h.full, isChain_singleton packet, fun last hlast next hnext => ?_⟩
    rw [head?_singleton, Option.mem_some_iff] at hnext
    exact hnext ▸ hfull last hlast

/-- A single item that is too large may always follow. -/
theorem Packs.lone (h : Packs size separator limit packets items) (hsize : limit < size item) :
    Packs size separator limit (packets ++ [.lone item]) (items ++ [item]) :=
  h.append hsize fun _ _ => Packet.full_lone hsize

/-- The last run takes in an item that fits. -/
theorem Packs.extend {first : α} {rest : List α} (h : Packs size separator limit (packets ++ [.run first rest]) items)
    (hfits : Packet.width size separator first rest + (separator + size item) ≤ limit) :
    Packs size separator limit (packets ++ [.run first (rest ++ [item])]) (items ++ [item]) := by
  have hbefore := isChain_append.mp h.full
  refine ⟨?_, fun packet hpacket => ?_, ?_⟩
  · rw [← h.items, flatMap_append, flatMap_append, append_assoc, flatMap_singleton, flatMap_singleton]
    rfl
  · rcases mem_append.mp hpacket with hold | hnew
    · exact h.sound packet (mem_append_left _ hold)
    · rw [mem_singleton.mp hnew]
      have hwidth : Packet.width size separator first (rest ++ [item]) = _ := Packet.width_append item
      exact hwidth.trans_le hfits
  · -- what is full before the run only depends on its first item
    refine isChain_append.mpr ⟨hbefore.1, isChain_singleton _, fun last hlast next hnext => ?_⟩
    rw [head?_singleton, Option.mem_some_iff] at hnext
    rw [← hnext]
    have hfull := hbefore.2.2 last hlast (.run first rest) rfl
    cases last with
    | run _ _ => exact hfull
    | lone _ => exact trivial

end Packs

end Clawhip
