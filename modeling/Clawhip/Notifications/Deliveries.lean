import Clawhip.Lib.Machine
import Clawhip.Lib.OrdMap
import Clawhip.Lib.Text
import Clawhip.Notifications.Fetch
import Mathlib.Data.List.Perm.Subperm

/-!
# Delivering notification threads

What `poll_once` of `src/source/github_notifications.rs` makes of the threads that it receives. It remembers the
newest time of each, for the last thousand threads, and delivers what is newer. While so many suffice, it delivers
what a poller delivers that forgets nothing.
-/

namespace Clawhip.Notifications

open List

def MAX_THREADS : ℕ := 1000

/-- What `MonitorState` remembers of the threads. -/
structure Memory where
  threads : OrdMap String ℤ := []
  order : List String := []

/-- The oldest id goes out. -/
def Memory.popFront (memory : Memory) : Memory :=
  match memory.order with
  | [] => memory
  | oldest :: order => { threads := memory.threads.erase oldest, order }

def Memory.remember (memory : Memory) (thread : Thread) : Memory :=
  match memory.threads.get thread.id with
  | some previous => { memory with threads := memory.threads.insert thread.id (max previous thread.updated) }
  | none =>
    let memory := if memory.order.length = MAX_THREADS then memory.popFront else memory
    { threads := memory.threads.insert thread.id thread.updated, order := memory.order ++ [thread.id] }

/-- The filters of a monitor. -/
structure Filters where
  reasons : List String
  repos : List String

def Filters.allowed (filters : Filters) (thread : Thread) : Bool :=
  (filters.reasons.isEmpty || filters.reasons.contains thread.reason) && (filters.repos.isEmpty ||
    filters.repos.any fun repo => Text.toAsciiLowercase repo == Text.toAsciiLowercase thread.repo)

/-- The loop of `poll_once`: what it remembers, and what it delivers of the threads that may be delivered. -/
def deliver (may : Thread → Bool) : List Thread → Memory → Memory × List Thread
  | [], memory => (memory, [])
  | thread :: threads, memory =>
    let newer := (memory.threads.get thread.id).all fun previous => decide (previous < thread.updated)
    let rest := deliver may threads (memory.remember thread)
    (rest.1, if newer && may thread then thread :: rest.2 else rest.2)

/-- `poll_once` over a loop that keeps some memory; the poll that sets the cutoff is cold. -/
def poll {μ : Type} (loop : (Thread → Bool) → List Thread → μ → μ × List Thread) (filters : Filters) :
    Machine (MonitorState × μ) (Request → Response) (List Thread) where
  step state server :=
    match pollOnce state.1 server with
    | none => (state, [])
    | some polled =>
      let may (thread : Thread) := state.1.cutoff.isSome &&
        polled.state.cutoff.all (fun cutoff => decide (cutoff ≤ thread.updated)) && filters.allowed thread
      let after := loop may polled.threads state.2
      ((polled.state, after.1), after.2)

def monitor (filters : Filters) := poll deliver filters

/-- What may be delivered and is newer than everything of the same id before it. -/
def news (may : Thread → Bool) : List Thread → List Thread → List Thread
  | [], _ => []
  | thread :: threads, received =>
    let newer := received.all fun other => other.id != thread.id || decide (other.updated < thread.updated)
    let rest := news may threads (received ++ [thread])
    if newer && may thread then thread :: rest else rest

/-- The poller that forgets nothing. -/
def unforgetting (filters : Filters) :=
  poll (fun may threads received => (received ++ threads, news may threads received)) filters

/-- The ids that are remembered are in the order, each once, and there are not too many. -/
structure Memory.WellFormed (memory : Memory) : Prop where
  nodup : memory.order.Nodup
  mem_order : ∀ id, id ∈ memory.order ↔ memory.threads.get id ≠ none
  room : memory.order.length ≤ MAX_THREADS

variable {memory : Memory} {received : List Thread}

namespace Memory.WellFormed

theorem popFront (h : memory.WellFormed) : memory.popFront.WellFormed := by
  obtain ⟨hnodup, hmem, hroom⟩ := h
  unfold Memory.popFront
  split
  · exact ⟨hnodup, hmem, hroom⟩
  · rename_i oldest order horder
    rw [horder] at hnodup hmem hroom
    refine ⟨hnodup.of_cons, fun id => ?_, (Nat.le_succ _).trans hroom⟩
    rw [OrdMap.get_erase]
    split_ifs with hid
    · exact iff_of_false (hid ▸ (nodup_cons.mp hnodup).1) (fun h => h rfl)
    · rw [← hmem, mem_cons, or_iff_right hid]

/-- A new id is remembered, where there is room. -/
theorem add (h : memory.WellFormed) {thread : Thread} (hget : memory.threads.get thread.id = none)
    (hroom : memory.order.length < MAX_THREADS) : Memory.WellFormed
      ⟨memory.threads.insert thread.id thread.updated, memory.order ++ [thread.id]⟩ where
  nodup := by
    have hid : thread.id ∉ memory.order := fun hmem => (h.mem_order _).mp hmem hget
    exact (perm_append_singleton thread.id memory.order).nodup_iff.mpr (nodup_cons.mpr ⟨hid, h.nodup⟩)
  mem_order id := by
    rw [mem_append, mem_singleton, h.mem_order, OrdMap.get_insert]
    split_ifs with hid <;> simp [hid]
  room := by
    rw [length_append, length_singleton]
    exact hroom

theorem remember (h : memory.WellFormed) (thread : Thread) : (memory.remember thread).WellFormed := by
  unfold Memory.remember
  cases hget : memory.threads.get thread.id with
  | some previous =>
    refine ⟨h.nodup, fun id => ?_, h.room⟩
    rw [h.mem_order, OrdMap.get_insert]
    split_ifs with hid <;> simp [hid, hget]
  | none =>
    split_ifs with hfull
    · refine h.popFront.add ?_ ?_
      all_goals unfold Memory.popFront; split
      · exact hget
      · rw [OrdMap.get_erase, hget, ite_self]
      · rename_i horder
        rw [horder]
        decide
      · rename_i horder
        rw [horder] at hfull
        exact hfull ▸ Nat.lt_succ_self _
    · exact h.add hget (lt_of_le_of_ne h.room hfull)

theorem deliver (h : memory.WellFormed) (may : Thread → Bool) (threads : List Thread) :
    (deliver may threads memory).1.WellFormed := by
  induction threads generalizing memory with
  | nil => exact h
  | cons thread threads ih => exact ih (h.remember thread)

theorem new : ({} : Memory).WellFormed := ⟨nodup_nil, fun _ => by simp, Nat.zero_le _⟩

end Memory.WellFormed

/-- In every run a thousand threads at most are remembered, each with its place in the order. -/
theorem run_memory_wellFormed (filters : Filters) (servers : List (Request → Response)) :
    ((monitor filters).run ({}, {}) servers).2.WellFormed := by
  refine (monitor filters).run_invariant' (fun state => state.2.WellFormed) (fun state server h => ?_)
    Memory.WellFormed.new servers
  unfold monitor poll
  dsimp only
  split
  · exact h
  · exact h.deliver _ _

/-! ## Nothing is forgotten -/

theorem news_spec (may : Thread → Bool) (threads received : List Thread) :
    (news may threads received).Pairwise (fun a b => a.id = b.id → a.updated < b.updated) ∧
      ∀ thread ∈ news may threads received, thread ∈ threads ∧
        ∀ other ∈ received, other.id = thread.id → other.updated < thread.updated := by
  induction threads generalizing received with
  | nil => exact ⟨.nil, fun _ h => absurd h not_mem_nil⟩
  | cons next threads ih =>
    obtain ⟨hpairwise, hnews⟩ := ih (received ++ [next])
    have hrest := fun thread hthread => (hnews thread hthread).imp (mem_cons_of_mem next) fun hnewer other hother =>
      hnewer other (mem_append_left _ hother)
    unfold news
    dsimp only
    split_ifs with hnext
    · refine ⟨.cons (fun thread h => (hnews thread h).2 next (mem_append_right _ mem_cons_self)) hpairwise,
        forall_mem_cons.mpr ⟨⟨mem_cons_self, fun other hother hid => ?_⟩, hrest⟩⟩
      rw [Bool.and_eq_true, all_eq_true] at hnext
      simpa [hid] using hnext.1 other hother
    · exact ⟨hpairwise, hrest⟩

/-- What is delivered from some state on is newer than what was received before, and gets newer. -/
theorem pairwise_unforgetting (filters : Filters) (servers : List (Request → Response))
    (state : MonitorState × List Thread) : let delivered := ((unforgetting filters).outputs state servers).flatten
    delivered.Pairwise (fun a b => a.id = b.id → a.updated < b.updated) ∧
      ∀ thread ∈ delivered, ∀ other ∈ state.2, other.id = thread.id → other.updated < thread.updated := by
  induction servers generalizing state with
  | nil => exact ⟨.nil, fun _ h => absurd h not_mem_nil⟩
  | cons server servers ih =>
    obtain ⟨hpairwise, hnewer⟩ := ih ((unforgetting filters).step state server).1
    simp only [Machine.outputs_cons, flatten_cons, pairwise_append, forall_mem_append]
    cases hpolled : pollOnce state.1 server with
    | none =>
      simp only [unforgetting, poll, hpolled] at hpairwise hnewer ⊢
      exact ⟨⟨.nil, hpairwise, fun _ h => absurd h not_mem_nil⟩, fun _ h => absurd h not_mem_nil, hnewer⟩
    | some polled =>
      simp only [unforgetting, poll, hpolled] at hpairwise hnewer ⊢
      have hnews := news_spec (fun thread => state.1.cutoff.isSome &&
        polled.state.cutoff.all (fun cutoff => decide (cutoff ≤ thread.updated)) && filters.allowed thread)
        polled.threads state.2
      exact ⟨⟨hnews.1, hpairwise, fun a ha b hb => hnewer b hb a (mem_append_right _ (hnews.2 a ha).1)⟩,
        fun a ha => (hnews.2 a ha).2, fun b hb other hother => hnewer b hb other (mem_append_left _ hother)⟩

section Few

/-- What is remembered of the threads that were received. -/
def remembered (received : List Thread) : Memory := received.foldl Memory.remember {}

theorem remembered_concat (received : List Thread) (thread : Thread) :
    remembered (received ++ [thread]) = (remembered received).remember thread := by
  simp [remembered]

variable {ids : List String} (hfew : ids.length ≤ MAX_THREADS)
include hfew

/-- While the ids fit, of each the newest time is remembered, and of no others. -/
theorem remembered_spec (hids : ∀ thread ∈ received, thread.id ∈ ids) : (remembered received).WellFormed ∧
    ∀ id, (∀ bound, (((remembered received).threads.get id).all fun newest => decide (newest < bound)) =
      received.all fun other => other.id != id || decide (other.updated < bound)) ∧
        (id ∈ (remembered received).order → id ∈ ids) := by
  induction received using reverseRecOn with
  | nil => exact ⟨.new, fun id => ⟨fun _ => rfl, fun h => absurd h not_mem_nil⟩⟩
  | append_singleton received thread ih =>
    rw [remembered_concat]
    obtain ⟨hwell, hspec⟩ := ih fun other hother => hids other (mem_append_left _ hother)
    have hthread : thread.id ∈ ids := hids thread (mem_append_right _ (mem_singleton_self _))
    refine ⟨hwell.remember thread, fun id => ?_⟩
    simp only [all_append, all_cons, all_nil, ← (hspec id).1, Bool.and_true]
    unfold Memory.remember
    cases hget : (remembered received).threads.get thread.id with
    | some previous =>
      refine ⟨fun bound => ?_, (hspec id).2⟩
      rw [OrdMap.get_insert]
      by_cases hid : id = thread.id
      · simp [hid, hget]
      · simp [hid, Ne.symm hid]
    | none =>
      have hnew : thread.id ∉ (remembered received).order := fun hmem => (hwell.mem_order _).mp hmem hget
      have hsub : thread.id :: (remembered received).order ⊆ ids := cons_subset.mpr ⟨hthread, fun id => (hspec id).2⟩
      have hfits := ((nodup_cons.mpr ⟨hnew, hwell.nodup⟩).subperm hsub).length_le
      rw [if_neg (Nat.ne_of_lt (hfits.trans hfew)), OrdMap.get_insert, mem_append, mem_singleton]
      refine ⟨fun bound => ?_, fun hid => hid.elim (hspec id).2 fun hid => hid ▸ hthread⟩
      by_cases hid : id = thread.id
      · simp [hid, hget]
      · simp [hid, Ne.symm hid]

/-- What is delivered with the memory of all that was received is the news. -/
theorem deliver_remembered (may : Thread → Bool) {threads : List Thread}
    (hids : ∀ thread ∈ received ++ threads, thread.id ∈ ids) :
    deliver may threads (remembered received) = (remembered (received ++ threads), news may threads received) := by
  induction threads generalizing received with
  | nil => rw [append_nil]; rfl
  | cons thread threads ih =>
    have hnewest := (remembered_spec hfew fun other hother => hids other (mem_append_left _ hother)).2 thread.id
    rw [append_cons] at hids ⊢
    unfold deliver news
    rw [← remembered_concat, ih hids, hnewest.1]

/-- While the threads that are received are of a thousand ids at most, each poll delivers what the poller that
forgets nothing delivers. So nothing is delivered twice, and the threads of an id get newer and newer. -/
theorem delivers_news (filters : Filters) {servers : List (Request → Response)}
    (hids : (unforgetting filters).Along (fun state server => ∀ polled, pollOnce state.1 server = some polled →
      ∀ thread ∈ polled.threads, thread.id ∈ ids) ({}, []) servers) :
    (monitor filters).outputs ({}, {}) servers = (unforgetting filters).outputs ({}, []) servers ∧
      ((monitor filters).outputs ({}, {}) servers).flatten.Pairwise fun a b => a.id = b.id → a.updated < b.updated := by
  have hsim : Machine.Simulates (unforgetting filters) (monitor filters)
      (fun state => ∀ thread ∈ state.2, thread.id ∈ ids) (fun state server => ∀ polled,
        pollOnce state.1 server = some polled → ∀ thread ∈ polled.threads, thread.id ∈ ids)
      (Prod.map id remembered) id := by
    refine ⟨fun state server hbefore hserver => ?_, fun state server hbefore hserver => ?_⟩
    · cases hpolled : pollOnce state.1 server with
      | none => simpa only [unforgetting, poll, hpolled] using hbefore
      | some polled =>
        simp only [unforgetting, poll, hpolled]
        exact fun thread hthread => (mem_append.mp hthread).elim (hbefore thread) (hserver polled hpolled thread)
    · cases hpolled : pollOnce state.1 server with
      | none => simp only [unforgetting, monitor, poll, hpolled, Prod.map, id]
      | some polled =>
        have hdeliver (may : Thread → Bool) := deliver_remembered hfew may fun thread hthread =>
          (mem_append.mp hthread).elim (hbefore thread) (hserver polled hpolled thread)
        simp only [unforgetting, monitor, poll, hpolled, Prod.map, id, hdeliver]
  have heq := (hsim.outputs_eq (fun _ h => absurd h not_mem_nil) hids).trans (map_id _)
  exact ⟨heq, heq ▸ (pairwise_unforgetting filters servers _).1⟩

end Few

namespace Sample

/-- A server with one thread. -/
def serving (updated : ℤ) (_ : Request) : Response := .page (some 0) none none [⟨"1", "mention", "clawhip", updated⟩]

/-- A thread is received twice. -/
theorem updated_thread_is_news : let servers := [serving 0, serving 1]
    (monitor ⟨[], []⟩).outputs ({}, {}) servers = (unforgetting ⟨[], []⟩).outputs ({}, []) servers ∧
      ((monitor ⟨[], []⟩).outputs ({}, {}) servers).flatten.Pairwise fun a b => a.id = b.id → a.updated < b.updated := by
  refine delivers_news (show ["1"].length ≤ MAX_THREADS by decide) _ ⟨fun polled h => ?_, fun polled h => ?_, trivial⟩
  all_goals
    obtain rfl := Option.some.inj h
    decide

end Sample

end Clawhip.Notifications
