import Clawhip.Gjc.LaneStore
import Clawhip.Lib.Machine
import Mathlib.Data.List.ReduceOption

/-!
# The fan-out of an alert

`send_delivery` of `src/dispatch.rs` for an alert with a journal. The journal is in the lane store and says where the
alert is claimed, delivered or failed; a destination is claimed before its sink is asked.
-/

namespace Clawhip.Gjc

open List

/-- An alert at a destination. -/
structure Place where
  event_id : String
  destination : String
deriving DecidableEq

/-- What a lane says of an alert at a destination, if the alert is pending. -/
def LaneRecord.journal (record : LaneRecord) (place : Place) : Option (Option DeliveryState) :=
  (record.pending_alerts.find? fun alert => decide (alert.event_id = place.event_id)).map fun alert =>
    (alert.deliveries.get place.destination).map PendingAlertDelivery.state

def StateFile.journal (state : StateFile) (lane_id : String) (place : Place) : Option (Option DeliveryState) :=
  (state.record lane_id).bind (·.journal place)

/-- `GjcLaneStore::pending_alert_delivery_state`. -/
def StateFile.deliveryState (state : StateFile) (lane_id : String) (place : Place) : Option DeliveryState :=
  (state.journal lane_id place).join

/-- `claim_pending_alert_delivery` and `record_pending_alert_delivery`. -/
def LaneStore.setDelivery (store : LaneStore) (around : Surroundings) (lane_id : String) (place : Place)
    (next_state : DeliveryState) : LaneStore × Except LaneError Bool :=
  store.updatePendingAlertDelivery around lane_id place.event_id place.destination next_state

theorem find?_updateAlert {f : PendingAlert → PendingAlert} (hf : ∀ alert, (f alert).event_id = alert.event_id)
    (event_id id : String) (alerts : List PendingAlert) :
    ((updateAlert f event_id alerts).find? fun alert => decide (alert.event_id = id)) =
      (alerts.find? fun alert => decide (alert.event_id = id)).map fun alert =>
        if id = event_id then f alert else alert := by
  induction alerts with
  | nil => rfl
  | cons alert alerts ih =>
    unfold updateAlert
    split_ifs with h hid hid
    · simp [hf, h, hid]
    · simp [hf, h, Ne.symm hid]
    · subst hid
      simpa [h] using ih
    · by_cases halert : alert.event_id = id
      · simp [halert]
      · simpa [halert, hid] using ih

/-- What is granted is in the file. -/
theorem commit_journal {store : LaneStore} {state : StateFile} (around : Surroundings) {lane_id : String}
    {journal : Place → Option (Option DeliveryState)} (h : state.journal lane_id = journal) :
    let done := store.commit around (.ok (.write state true))
    done.1.state.journal lane_id = journal ∧ ((∃ file, done.1.file = some file ∧ file.journal lane_id = journal) ∨
      done.1.file = store.file ∧ done.2 ≠ .ok true) := by
  unfold LaneStore.commit LaneStore.persist
  dsimp only
  split
  · exact ⟨h, .inl ⟨_, rfl, h⟩⟩
  · exact ⟨h, .inl ⟨_, rfl, h⟩⟩
  · exact ⟨h, .inr ⟨rfl, nofun⟩⟩

/-- An update changes one entry, or nothing. What is granted is in the file, unless it had been settled. -/
theorem setDelivery_cases (store : LaneStore) (around : Surroundings) (lane_id : String) (place : Place)
    (next_state : DeliveryState) : let updated := store.setDelivery around lane_id place next_state
    let journal := Function.update (store.state.journal lane_id) place (some (some next_state))
    updated.1 = store ∧ (updated.2 = .ok true →
        (store.state.deliveryState lane_id place).any fun current => current.settles next_state) ∨
      store.state.journal lane_id place ≠ none ∧ updated.1.state.journal lane_id = journal ∧
        ((∃ file, updated.1.file = some file ∧ file.journal lane_id = journal) ∨
          updated.1.file = store.file ∧ updated.2 ≠ .ok true) := by
  unfold LaneStore.setDelivery LaneStore.updatePendingAlertDelivery deliveryChange StateFile.deliveryState
  split_ifs
  · exact .inl ⟨rfl, nofun⟩
  dsimp only
  cases hrecord : store.state.lanes.get (store.state.canonicalLaneId lane_id) with
  | none => exact .inl ⟨rfl, nofun⟩
  | some record =>
    have hjournal other : store.state.journal lane_id other = record.journal other :=
      (congrArg (Option.bind · _) hrecord).trans (Option.bind_some ..)
    dsimp only
    cases hfind : record.pending_alerts.find? fun alert => decide (alert.event_id = place.event_id) with
    | none => exact .inl ⟨rfl, nofun⟩
    | some alert =>
      rw [hjournal]
      unfold LaneRecord.journal
      rw [hfind]
      dsimp only
      split_ifs with hsettled
      · refine .inl ⟨rfl, fun _ => ?_⟩
        rwa [Option.map_some, Option.join_some, Option.any_map]
      · exact .inl ⟨rfl, nofun⟩
      · unfold LaneRecord.bumped
        by_cases hroom : record.revision < U64_MAX
        · rw [if_pos hroom]
          refine .inr ⟨nofun, commit_journal around (funext fun other => ?_)⟩
          refine (congrArg (Option.bind · _) (OrdMap.get_insert_self ..)).trans ?_
          dsimp only [Option.bind_some, LaneRecord.journal]
          rw [find?_updateAlert (f := fun alert => alert.deliver place.destination next_state around.clock)
            (fun _ => rfl)]
          by_cases hother : other = place
          · subst hother
            rw [hfind, Function.update_self, Option.map_some, Option.map_some, if_pos rfl]
            unfold PendingAlert.deliver
            rw [OrdMap.get_insert_self]
            rfl
          · rw [Function.update_of_ne hother, hjournal, LaneRecord.journal, Option.map_map]
            refine Option.map_congr fun alert _ => ?_
            dsimp only [Function.comp]
            split_ifs with hevent
            · have hdestination : other.destination ≠ place.destination := fun h =>
                hother (by cases other; cases place; simp_all)
              unfold PendingAlert.deliver
              rw [OrdMap.get_insert_ne _ _ hdestination]
            · rfl
        · rw [if_neg hroom]
          exact .inl ⟨rfl, nofun⟩

/-! ## What is owned -/

/-- Where the alert is still pending, it is claimed or delivered. -/
def Owned (place : Place) (journal : Place → Option (Option DeliveryState)) : Prop :=
  journal place ≠ some none ∧ journal place ≠ some (some .failed)

/-- It is owned in the file too. -/
structure LaneStore.Owned (lane_id : String) (place : Place) (store : LaneStore) : Prop where
  state : Gjc.Owned place (store.state.journal lane_id)
  file : ∃ file, store.file = some file ∧ Gjc.Owned place (file.journal lane_id)

section

variable {lane_id : String} {place : Place} {store : LaneStore} (around : Surroundings)

theorem owned_update {journal : Place → Option (Option DeliveryState)} {next_state : DeliveryState}
    (hnext : next_state ≠ .failed) : Owned place (Function.update journal place (some (some next_state))) := by
  unfold Owned
  rw [Function.update_self]
  exact ⟨nofun, fun h => hnext (Option.some.inj (Option.some.inj h))⟩

/-- The update of another delivery, or one that does not fail it. -/
theorem LaneStore.Owned.set (h : store.Owned lane_id place) (other : Place) (next_state : DeliveryState)
    (hnext : other = place → next_state ≠ .failed) :
    (store.setDelivery around lane_id other next_state).1.Owned lane_id place := by
  rcases setDelivery_cases store around lane_id other next_state with ⟨hsame, -⟩ | ⟨-, hafter, hfile⟩
  · rwa [hsame]
  · have howned : Gjc.Owned place (Function.update (store.state.journal lane_id) other (some (some next_state))) := by
      by_cases heq : other = place
      · subst heq
        exact owned_update (hnext rfl)
      · unfold Gjc.Owned
        rw [Function.update_of_ne (Ne.symm heq)]
        exact h.state
    refine ⟨hafter ▸ howned, ?_⟩
    rcases hfile with ⟨file, hfile, hsaved⟩ | ⟨hsame, -⟩
    · exact ⟨file, hfile, hsaved ▸ howned⟩
    · exact hsame ▸ h.file

end

/-! ## Runs -/

section

variable (lane_id : String) (disk : StateFile)

end

end Clawhip.Gjc
