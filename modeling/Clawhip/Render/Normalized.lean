import Clawhip.Events.Settling

/-!
# Fields after normalization

Normalization leaves the fields of a payload, and a payload that says nothing of the kind leaves the kind to
the event's own.
-/

namespace Clawhip.DefaultRenderer

open Normalize

attribute [local irreducible] mapNativeSignal

/-! ## What normalization leaves -/

section Normalized

variable {event : IncomingEvent} {key : String} {value : Json} {stamp : Stamp} {fields : OrdMap String Json}

theorem payload_normalize (hpayload : event.payload = .object fields) :
    (normalizeEvent stamp event).payload = .object (normalizeNativeMetadata stamp fields event.kind
      (canonicalEventKind event.kind (.object fields))) := by
  have hfields : payloadFields event.payload = fields := by
    rw [hpayload]
    rfl
  unfold normalizeEvent
  rw [hfields]

theorem get_object (fields : OrdMap String Json) (key : String) :
    (Json.object fields).get key = OrdMap.get fields key := rfl

/-- Normalization leaves what a payload has. -/
theorem get_normalize (hpayload : event.payload = .object fields) (hget : fields.get key = some value)
    (hmark : key ≠ "_clawhip_generated_event_id") : (normalizeEvent stamp event).payload.get key = some value := by
  rw [payload_normalize hpayload, get_object]
  by_cases htail : key ∈ tailNames
  · rw [get_pass_tail _ _ _ _ htail, hget]
    rfl
  by_cases hfirst : key ∈ firstNames
  · have hkept : (beforeAgent stamp fields event.kind (canonicalEventKind event.kind (.object fields))).get
        key = some value := by
      rw [get_beforeAgent _ _ _ _ hmark, hget]
      rfl
    rw [get_pass_first _ _ _ _ hfirst, hkept]
    split_ifs <;> rfl
  · have hneither : key ∉ firstNames ++ tailNames := by simp [htail, hfirst]
    rw [get_pass_kept _ _ _ _ hneither]
    exact hget

/-- What normalization does not write stays missing. -/
theorem get_normalize_none (hpayload : event.payload = .object fields) (hget : fields.get key = none)
    (hkey : key ∉ firstNames ++ tailNames) : (normalizeEvent stamp event).payload.get key = none := by
  rw [payload_normalize hpayload, get_object, get_pass_kept _ _ _ _ hkey]
  exact hget

/-- The fields that the kind of an event is read from. -/
def SIGNAL_FIELDS : List String := ["signal", "route_key", "context", "normalized_event"]

/-- A payload that says nothing of the kind leaves it to the event's own. -/
theorem kind_normalize (hpayload : event.payload = .object fields)
    (hplain : ∀ key ∈ SIGNAL_FIELDS, fields.get key = none) :
    (normalizeEvent stamp event).kind = canonicalEventKind event.kind (.object []) := by
  have hroute : signalRouteKey (.object fields) = signalRouteKey (.object []) := by
    show firstWith Normalize.text (.object fields) [["signal", "routeKey"], ["route_key"], ["context", "route_key"]] =
      firstWith Normalize.text (.object []) [["signal", "routeKey"], ["route_key"], ["context", "route_key"]]
    exact firstWith_congr (by decide) fun name hname => hplain name ((by decide :
      ∀ name ∈ heads [["signal", "routeKey"], ["route_key"], ["context", "route_key"]],
        name ∈ SIGNAL_FIELDS) name hname)
  have hsignal : signalEvent (.object fields) = signalEvent (.object []) := by
    show firstWith Normalize.text (.object fields) [["context", "normalized_event"], ["normalized_event"]] =
      firstWith Normalize.text (.object []) [["context", "normalized_event"], ["normalized_event"]]
    exact firstWith_congr (by decide) fun name hname => hplain name ((by decide :
      ∀ name ∈ heads [["context", "normalized_event"], ["normalized_event"]], name ∈ SIGNAL_FIELDS)
      name hname)
  have hfields : payloadFields event.payload = fields := by
    rw [hpayload]
    rfl
  unfold normalizeEvent
  dsimp only
  rw [hfields]
  by_cases hkept : event.kind ∈ keptKinds
  · rw [canonicalEventKind_kept hkept, canonicalEventKind_kept hkept]
  by_cases hrenamed : event.kind ∈ renamedKinds.keys
  · obtain ⟨⟨kind, name⟩, hmem, hkind⟩ := List.mem_map.mp hrenamed
    rw [← hkind, canonicalEventKind_renamed hmem, canonicalEventKind_renamed hmem]
  · rw [canonicalEventKind_other hkept hrenamed, canonicalEventKind_other hkept hrenamed]
    unfold nativeContractKind
    rw [hroute, hsignal]

end Normalized

end Clawhip.DefaultRenderer
