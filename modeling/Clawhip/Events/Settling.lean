import Clawhip.Events.Renormalize

/-!
# When normalizing twice is normalizing once

The kind of an event is read before the metadata are written, and `normalized_event`, which the first
pass writes from the status, is one of the fields that it is read from. So an event can change its
kind in the second pass: any event that has finished becomes `session.finished`. `KeepsKind` says when
it does not, `FieldsSettle` when no field is filled in later, and `normalizeEvent_twice_iff` puts the two
together with the identifier.
-/

namespace Clawhip.Normalize

open List Option

/-! ## Native signals -/

/-- The kinds that native signals map to. -/
def nativeKinds : List String :=
  ["session.started", "session.blocked", "session.finished", "session.failed",
    "session.retry-needed", "session.pr-created", "session.test-started", "session.test-finished",
    "session.test-failed", "session.handoff-needed", "session.stopped", "session.prompt-submitted",
    "session.prompt-delivered", "session.prompt-delivery-failed"]

variable {kind : String} {raw : String}

theorem mapNativeSignal_mem (h : mapNativeSignal raw = some kind) : kind ∈ nativeKinds := by
  unfold mapNativeSignal at h
  dsimp only at h
  generalize Text.toAsciiLowercase _ = dashed at h
  split at h
  all_goals
    simp only [reduceCtorEq, some.injEq] at h
    try subst h; decide

/-- A kind that a native signal maps to is a native signal for itself. -/
theorem mapNativeSignal_self (h : mapNativeSignal raw = some kind) : mapNativeSignal kind = some kind := by
  have hall : ∀ k ∈ nativeKinds, mapNativeSignal k = some k := by decide +kernel
  exact hall kind (mapNativeSignal_mem h)

/-- The kinds that no payload changes. -/
def keptKinds : List String :=
  ["github.notification", "github.pr-commented", "github.pr-review-commented", "github.pr-reviewed"]

/-- The kinds that are renamed without regard to the payload, and the new names. -/
def renamedKinds : OrdMap String String :=
  [("issue-opened", "github.issue-opened"), ("git.pr-status-changed", "github.pr-status-changed")]

theorem canonicalEventKind_kept (hkind : kind ∈ keptKinds) (payload : Json) :
    canonicalEventKind kind payload = kind := by
  unfold keptKinds at hkind
  simp only [mem_cons, not_mem_nil, or_false] at hkind
  rcases hkind with rfl | rfl | rfl | rfl <;> rfl

theorem canonicalEventKind_renamed {name : String} (hkind : (kind, name) ∈ renamedKinds) (payload : Json) :
    canonicalEventKind kind payload = name := by
  unfold renamedKinds at hkind
  simp only [mem_cons, not_mem_nil, or_false, Prod.mk.injEq] at hkind
  rcases hkind with ⟨rfl, rfl⟩ | ⟨rfl, rfl⟩ <;> rfl

/-- Every other kind is what the payload's native signal says, or the kind's own. -/
theorem canonicalEventKind_other (hkept : kind ∉ keptKinds) (hrenamed : kind ∉ renamedKinds.keys)
    (payload : Json) : canonicalEventKind kind payload = (nativeContractKind kind payload).getD kind := by
  have hnot : kind ≠ "github.notification" ∧ kind ≠ "github.pr-commented" ∧
      kind ≠ "github.pr-review-commented" ∧ kind ≠ "github.pr-reviewed" := by
    simpa [keptKinds] using hkept
  have hnot' : kind ≠ "issue-opened" ∧ kind ≠ "git.pr-status-changed" := by
    simpa [renamedKinds, OrdMap.keys] using hrenamed
  unfold canonicalEventKind
  split <;> simp_all

/-- What a kind is without regard to the payload, the kept and the renamed ones aside. -/
def ownKind (kind : String) : String := (mapNativeSignal kind).getD kind

/-- A kind that was read from a payload is its own in the second pass. -/
theorem ownKind_ownKind (kind : String) : ownKind (ownKind kind) = ownKind kind := by
  unfold ownKind
  cases h : mapNativeSignal kind with
  | none => rw [getD_none, h, getD_none]
  | some s => rw [getD_some, mapNativeSignal_self h, getD_some]

/-- What a native signal maps to is neither kept nor renamed. -/
theorem native_other (hmem : kind ∈ nativeKinds) : kind ∉ keptKinds ∧ kind ∉ renamedKinds.keys := by
  have hall : ∀ k ∈ nativeKinds, k ∉ keptKinds ∧ k ∉ renamedKinds.keys := by decide
  exact hall kind hmem

/-- A kind that is neither kept nor renamed becomes one that is neither. -/
theorem ownKind_other (hkept : kind ∉ keptKinds) (hrenamed : kind ∉ renamedKinds.keys) :
    ownKind kind ∉ keptKinds ∧ ownKind kind ∉ renamedKinds.keys := by
  unfold ownKind
  cases h : mapNativeSignal kind with
  | none => exact ⟨hkept, hrenamed⟩
  | some s => exact native_other (mapNativeSignal_mem h)

/-- A status that is read from a kind reads as itself. -/
theorem text_eventStatusFromKind {status : String} (h : eventStatusFromKind kind = some status) :
    text (.string status) = some status := by
  unfold eventStatusFromKind at h
  split at h
  all_goals
    simp only [reduceCtorEq, some.injEq] at h
    try subst h; decide

/-! ## The kind in the second pass -/

-- The signals are looked up in a long table, which no proof from here on needs to see.
attribute [local irreducible] mapNativeSignal eventStatusFromKind

variable {m m' : OrdMap String Json} {stamp : Stamp} {c : String}

namespace Passed

variable (h : Passed stamp m c m')

include h

/-- The route key of the second pass is the first one's. -/
theorem signalRouteKey_eq : signalRouteKey (.object m') = signalRouteKey (.object m) := by
  have hsplit (fields : OrdMap String Json) : signalRouteKey (.object fields) =
      (firstString (.object fields) [["signal", "routeKey"]]).or
        (firstString (.object fields) [["route_key"], ["context", "route_key"]]) :=
    firstWith_append (.object fields) [["signal", "routeKey"]] _
  have hsignal : firstString (.object m') [["signal", "routeKey"]] =
      firstString (.object m) [["signal", "routeKey"]] := h.firstWith_kept (by decide) (by decide)
  rw [hsplit, hsplit, hsignal]
  cases hfirst : firstString (.object m) [["signal", "routeKey"]] with
  | some key => rw [some_or, some_or]
  | none =>
    -- Without the signal's route key, what is written is what is read here.
    have hroute : routeKey (.object m) = firstString (.object m) [["route_key"], ["context", "route_key"]] := by
      have hhead : routeKey (.object m) = ((m.get "route_key").bind text).or
          (firstString (.object m) [["signal", "routeKey"], ["context", "route_key"]]) :=
        firstWith_cons m "route_key" _
      have hhead' : firstString (.object m) [["route_key"], ["context", "route_key"]] =
          ((m.get "route_key").bind text).or (firstString (.object m) [["context", "route_key"]]) :=
        firstWith_cons m "route_key" _
      have hrest : firstString (.object m) [["signal", "routeKey"], ["context", "route_key"]] =
          (firstString (.object m) [["signal", "routeKey"]]).or
            (firstString (.object m) [["context", "route_key"]]) :=
        firstWith_append (.object m) [["signal", "routeKey"]] _
      rw [hhead, hhead', hrest, hfirst, none_or]
    have hfield : m'.get "route_key" = (m.get "route_key").or (str (routeKey (.object m))) :=
      h.field (by decide) rfl
    rw [hroute] at hfield
    rw [none_or, none_or]
    exact firstWith_own (fun _ => text_of_firstString) hfield (by decide) fun k hk => h.kept k (by
      revert k
      decide)

/-- The normalized event of the second pass is the first one's, or the status, which the first pass
writes under its name. -/
theorem signalEvent_eq : signalEvent (.object m') = (signalEvent (.object m)).or
    (if m.get "normalized_event" = none then status (.object m) c else none) := by
  have hsplit (fields : OrdMap String Json) : signalEvent (.object fields) =
      (firstString (.object fields) [["context", "normalized_event"]]).or
        ((fields.get "normalized_event").bind text) := by
    have hown : firstString (.object fields) [["normalized_event"]] = (fields.get "normalized_event").bind text := by
      have hcons : firstString (.object fields) [["normalized_event"]] =
          ((fields.get "normalized_event").bind text).or none :=
        firstWith_cons fields "normalized_event" []
      rw [hcons, or_none]
    rw [← hown]
    exact firstWith_append (.object fields) [["context", "normalized_event"]] _
  have hcontext : firstString (.object m') [["context", "normalized_event"]] =
      firstString (.object m) [["context", "normalized_event"]] :=
    h.firstWith_kept (by decide) (by decide)
  have hfield : m'.get "normalized_event" =
      (m.get "normalized_event").or (str (status (.object m) c)) := h.field (by decide) rfl
  rw [hsplit, hsplit, hcontext, hfield, Option.or_assoc]
  congr 1
  cases hm : m.get "normalized_event" with
  | some v => simp
  | none =>
    rw [none_or, if_pos rfl, bind_none, none_or]
    cases hstatus : status (.object m) c with
    | none => rfl
    | some s =>
      have hread : text (.string s) = some s := by
        rcases or_eq_some_iff.mp hstatus with hsaid | ⟨-, hkind⟩
        · exact text_of_firstString hsaid
        · exact text_eventStatusFromKind hkind
      exact hread

variable {stamp' : Stamp}

/-- The mark of the second pass is the first one's unless an identifier is there that cannot be
read: then each pass marks an identifier of its own. -/
theorem mark_iff (huuid : Text.nonblank (some stamp.uuid) = some stamp.uuid) (hfresh : stamp'.uuid ≠ stamp.uuid) :
    m'.get "_clawhip_generated_event_id" = (if eventIdGenerated (.object m') then
        some (.string (eventId (.object m') stamp')) else none) ↔
      (m.get "event_id" = none ∨ (suppliedEventId (.object m)).isSome) := by
  have hread (fields : OrdMap String Json) (k : String) :
      firstString (.object fields) [[k]] = (fields.get k).bind text := by
    have hcons : firstString (.object fields) [[k]] = ((fields.get k).bind text).or none := firstWith_cons fields k []
    rw [hcons, or_none]
  have hsupplied : suppliedEventId (.object m) = (m.get "event_id").bind text := hread m _
  have hsupplied' : suppliedEventId (.object m') = (m'.get "event_id").bind text := hread m' _
  have hprior' : priorGeneratedEventId (.object m') = (m'.get "_clawhip_generated_event_id").bind text := hread m' _
  have hid := h.event_id
  have hmark := h.mark
  unfold eventIdGenerated eventId at hmark ⊢
  unfold eventId at hid
  rw [hsupplied', hprior']
  cases hm : m.get "event_id" with
  | none =>
    -- The identifier is drawn, written and marked, and reads as itself.
    rw [hm, bind_none] at hsupplied
    rw [hsupplied] at hid hmark
    rw [hm, none_or] at hid
    rw [hid, hmark]
    have htext : text (.string stamp.uuid) = some stamp.uuid := huuid
    simp [htext]
  | some v =>
    rw [hm, some_or] at hid
    rw [hm, bind_some] at hsupplied
    rw [hid, bind_some, hsupplied]
    cases hv : text v with
    | none =>
      rw [hsupplied, hv] at hmark
      rw [hmark]
      simpa using hfresh.symm
    | some supplied =>
      have htext : text (.string supplied) = some supplied := text_string hv
      rw [hsupplied, hv] at hmark
      rw [hmark]
      by_cases hprior : some supplied = priorGeneratedEventId (.object m)
      · simp [← hprior, htext]
      · simp [hprior]

/-- The first fields of the second pass fill nothing in. -/
theorem headFields_none : ∀ p ∈ headFields stamp' (.object m') c c, m'.get p.1 = none → p.2 = none := by
  simp only [headFields, forall_mem_cons, not_mem_nil, false_imp_iff, implies_true, and_true]
  refine ⟨fun _ => if_neg (fun hne => hne rfl), ?_, ?_, ?_⟩
  · exact fun hnone => absurd hnone (h.stamped "contract_event" (by decide))
  · intro hnone
    rw [h.inferTool_none hnone]
    rfl
  · intro hnone
    have hid := h.event_id
    rw [hnone] at hid
    exact absurd (or_eq_none_iff.mp hid.symm).2 (by simp)

/-- The fields that a pass always fills in are there in the second. -/
theorem stampFields_none : ∀ p ∈ stampFields stamp' (.object m'), m'.get p.1 = none → p.2 = none := by
  simp only [stampFields, forall_mem_cons, not_mem_nil, false_imp_iff, implies_true, and_true]
  exact ⟨fun hnone => absurd hnone (h.stamped "correlation_id" (by decide)),
    fun hnone => absurd hnone (h.stamped "first_seen_at" (by decide))⟩

end Passed

/-! ## Normalizing twice -/

/-- What an event's kind needs for the second pass to keep the one that the first pass makes of it. -/
structure KeepsKind (kind : String) (payload : Json) : Prop where
  /-- A renamed kind has no native signal in its payload: the new name is not among the renamed ones,
  so the second pass reads the signal. -/
  renamed : ∀ name, (kind, name) ∈ renamedKinds → (signalRouteKey payload).bind mapNativeSignal = none ∧
    ((signalEvent payload).or (if payload.pointer ["normalized_event"] = none then
      status payload name else none)).bind mapNativeSignal = none
  /-- Another kind is read from the route key or from a normalized event, or the status, which the
  first pass writes as the normalized event, is no signal for a different kind. -/
  other : kind ∉ keptKinds → kind ∉ renamedKinds.keys →
    (signalRouteKey payload).bind mapNativeSignal ≠ none ∨ signalEvent payload ≠ none ∨
      payload.pointer ["normalized_event"] ≠ none ∨
        ∀ signal, (status payload (ownKind kind)).bind mapNativeSignal = some signal → signal = ownKind kind

/-- What an event needs for the second pass to change nothing. -/
structure Settles (kind : String) (m : OrdMap String Json) : Prop where
  keepsKind : KeepsKind kind (.object m)
  /-- An identifier that is there can be read. -/
  event_id : m.get "event_id" = none ∨ (suppliedEventId (.object m)).isSome
  fields : FieldsSettle m

/-- A kind that is neither kept nor renamed, from its three sources in turn. -/
theorem nativeContractKind_eq (kind : String) (payload : Json) :
    (nativeContractKind kind payload).getD kind = ((signalRouteKey payload).bind mapNativeSignal).getD
        (((signalEvent payload).bind mapNativeSignal).getD (ownKind kind)) := by
  unfold nativeContractKind ownKind
  cases (signalRouteKey payload).bind mapNativeSignal with
  | some s => rfl
  | none => cases (signalEvent payload).bind mapNativeSignal <;> rfl

namespace Passed

/-- A new name is kept exactly if the second pass finds no native signal. -/
theorem renamed_eq_iff {kind name : String} (h : Passed stamp m name m')
    (hname : (kind, name) ∈ renamedKinds) : canonicalEventKind name (.object m') = name ↔
      (signalRouteKey (.object m)).bind mapNativeSignal = none ∧
      ((signalEvent (.object m)).or (if m.get "normalized_event" = none then
        status (.object m) name else none)).bind mapNativeSignal = none := by
  have hall : ∀ p ∈ renamedKinds, p.2 ∉ keptKinds ∧ p.2 ∉ renamedKinds.keys ∧
      p.2 ∉ nativeKinds ∧ ownKind p.2 = p.2 := by decide +kernel
  obtain ⟨hkept, hrenamed, hnative, hown⟩ := hall _ hname
  -- What a native signal maps to is no new name.
  have hne {signal : Option String} {s : String} (hs : signal.bind mapNativeSignal = some s) : s ≠ name := by
    obtain ⟨raw, -, hraw⟩ := bind_eq_some_iff.mp hs
    exact fun heq => hnative (heq ▸ mapNativeSignal_mem hraw)
  rw [canonicalEventKind_other hkept hrenamed, nativeContractKind_eq, h.signalRouteKey_eq, h.signalEvent_eq, hown]
  cases hroute : (signalRouteKey (.object m)).bind mapNativeSignal with
  | some s => simpa using hne hroute
  | none =>
    rw [getD_none]
    generalize (signalEvent (.object m)).or _ = signal
    cases hevent : signal.bind mapNativeSignal with
    | some s => simpa using hne hevent
    | none => simp

/-- Another kind is kept exactly if it is read from the route key or from a normalized event, or if
the status that becomes the normalized event is no signal for a different kind. -/
theorem other_eq_iff {kind : String} (h : Passed stamp m (canonicalEventKind kind (.object m)) m')
    (hkept : kind ∉ keptKinds) (hrenamed : kind ∉ renamedKinds.keys) :
    canonicalEventKind (canonicalEventKind kind (.object m)) (.object m') = canonicalEventKind kind (.object m) ↔
      (signalRouteKey (.object m)).bind mapNativeSignal ≠ none ∨ signalEvent (.object m) ≠ none ∨
      m.get "normalized_event" ≠ none ∨
        ∀ signal, (status (.object m) (ownKind kind)).bind mapNativeSignal = some signal → signal = ownKind kind := by
  have hc : canonicalEventKind kind (.object m) = ((signalRouteKey (.object m)).bind mapNativeSignal).getD
        (((signalEvent (.object m)).bind mapNativeSignal).getD (ownKind kind)) := by
    rw [canonicalEventKind_other hkept hrenamed, nativeContractKind_eq]
  -- A kind that a signal says is its own kind, and is not among the kept and the renamed ones.
  have hsaid {signal : Option String} {s : String} (hs : signal.bind mapNativeSignal = some s) :
      ownKind s = s ∧ s ∉ keptKinds ∧ s ∉ renamedKinds.keys := by
    obtain ⟨raw, -, hraw⟩ := bind_eq_some_iff.mp hs
    refine ⟨?_, native_other (mapNativeSignal_mem hraw)⟩
    rw [ownKind, mapNativeSignal_self hraw, getD_some]
  have hsecond (hother : canonicalEventKind kind (.object m) ∉ keptKinds ∧
      canonicalEventKind kind (.object m) ∉ renamedKinds.keys) :
      canonicalEventKind (canonicalEventKind kind (.object m)) (.object m') =
        ((signalRouteKey (.object m)).bind mapNativeSignal).getD
          ((((signalEvent (.object m)).or (if m.get "normalized_event" = none then
            status (.object m) (canonicalEventKind kind (.object m)) else none)).bind
              mapNativeSignal).getD (ownKind (canonicalEventKind kind (.object m)))) := by
    rw [canonicalEventKind_other hother.1 hother.2, nativeContractKind_eq, h.signalRouteKey_eq, h.signalEvent_eq]
  cases hroute : (signalRouteKey (.object m)).bind mapNativeSignal with
  | some s =>
    rw [hroute, getD_some] at hc
    rw [hroute, getD_some, hc] at hsecond
    rw [hc, hsecond (hsaid hroute).2]
    simp
  | none =>
    rw [hroute, getD_none] at hc
    rw [hroute, getD_none] at hsecond
    cases hevent : signalEvent (.object m) with
    | some t =>
      rw [hevent, bind_some] at hc
      rw [hevent, some_or, bind_some] at hsecond
      refine iff_of_true ?_ (by simp)
      cases ht : mapNativeSignal t with
      | some s =>
        have hs : (some t).bind mapNativeSignal = some s := ht
        rw [ht, getD_some] at hc hsecond
        rw [hc] at hsecond ⊢
        exact hsecond (hsaid hs).2
      | none =>
        rw [ht, getD_none] at hc hsecond
        rw [hc] at hsecond ⊢
        rw [hsecond (ownKind_other hkept hrenamed), ownKind_ownKind]
    | none =>
      rw [hevent, bind_none, getD_none] at hc
      rw [hevent, none_or, hc, ownKind_ownKind] at hsecond
      rw [hc, hsecond (ownKind_other hkept hrenamed)]
      by_cases hmissing : m.get "normalized_event" = none
      · rw [if_pos hmissing]
        cases hstatus : (status (.object m) (ownKind kind)).bind mapNativeSignal <;>
          simp [hmissing]
      · rw [if_neg hmissing]
        simp [hmissing]

end Passed

/-- The canonical kind stays the same in the second pass exactly if the event keeps its kind. -/
theorem Passed.canonicalEventKind_eq_iff (h : Passed stamp m (canonicalEventKind kind (.object m)) m') :
    canonicalEventKind (canonicalEventKind kind (.object m)) (.object m') =
      canonicalEventKind kind (.object m) ↔ KeepsKind kind (.object m) := by
  have hpointer : (Json.object m).pointer ["normalized_event"] = m.get "normalized_event" := by
    rw [pointer_object]
    cases m.get "normalized_event" <;> rfl
  by_cases hkept : kind ∈ keptKinds
  · have hnot : kind ∉ renamedKinds.keys := by
      have hall : ∀ k ∈ keptKinds, k ∉ renamedKinds.keys := by decide
      exact hall kind hkept
    rw [canonicalEventKind_kept hkept, canonicalEventKind_kept hkept]
    refine iff_of_true rfl ⟨fun name hname => ?_, fun hno => absurd hkept hno⟩
    exact absurd (mem_map_of_mem hname) hnot
  by_cases hrenamed : kind ∈ renamedKinds.keys
  · obtain ⟨p, hp, hk⟩ := mem_map.mp hrenamed
    obtain ⟨name, hname⟩ : ∃ name, (kind, name) ∈ renamedKinds := ⟨p.2, by rw [← hk]; exact hp⟩
    have hcanonical : canonicalEventKind kind (.object m) = name := canonicalEventKind_renamed hname (.object m)
    rw [hcanonical] at h ⊢
    rw [h.renamed_eq_iff hname, ← hpointer]
    constructor
    · intro hnone
      refine ⟨fun name' hname' => ?_, fun _ hnot => absurd hrenamed hnot⟩
      have heq : name' = name := by rw [← hcanonical, canonicalEventKind_renamed hname' (.object m)]
      rw [heq]
      exact hnone
    · exact fun hkeeps => hkeeps.renamed name hname
  · rw [h.other_eq_iff hkept hrenamed, ← hpointer]
    constructor
    · exact fun hother => ⟨fun _ hname => absurd (mem_map_of_mem hname) hrenamed, fun _ _ => hother⟩
    · exact fun hkeeps => hkeeps.other hkept hrenamed

/-- Normalizing an event twice is normalizing it once exactly if the event settles, where the
identifiers that the passes draw are not blank and not the same. -/
theorem normalizeEvent_twice_iff (stamp stamp' : Stamp) (event : IncomingEvent)
    (huuid : Text.nonblank (some stamp.uuid) = some stamp.uuid) (hfresh : stamp'.uuid ≠ stamp.uuid) :
    normalizeEvent stamp' (normalizeEvent stamp event) = normalizeEvent stamp event ↔
      Settles event.kind (payloadFields event.payload) := by
  generalize hm : payloadFields event.payload = m
  generalize hc : canonicalEventKind event.kind (.object m) = c
  generalize hm' : normalizeNativeMetadata stamp m event.kind c = m'
  have hpass : Passed stamp m c m' := by
    rw [← hm']
    exact passed stamp m event.kind c
  have hfirst : normalizeEvent stamp event = { event with kind := c, payload := .object m' } := by
    rw [← hm', ← hc, ← hm]
    rfl
  have hsecond : normalizeEvent stamp' (normalizeEvent stamp event) = normalizeEvent stamp event ↔
      canonicalEventKind c (.object m') = c ∧ normalizeNativeMetadata stamp' m' c c = m' := by
    have hstep : normalizeEvent stamp' { event with kind := c, payload := .object m' } =
        { event with
          kind := canonicalEventKind c (.object m')
          payload := .object (normalizeNativeMetadata stamp' m' c (canonicalEventKind c (.object m'))) } := rfl
    rw [hfirst, hstep, IncomingEvent.mk.injEq]
    constructor
    · rintro ⟨hkind, -, -, -, -, hpayload⟩
      rw [hkind] at hpayload
      exact ⟨hkind, Json.object.inj hpayload⟩
    · rintro ⟨hkind, hpayload⟩
      rw [hkind, hpayload]
      exact ⟨rfl, rfl, rfl, rfl, rfl, rfl⟩
  have hkind : canonicalEventKind c (.object m') = c ↔ KeepsKind event.kind (.object m) := by
    rw [← hc]
    exact Passed.canonicalEventKind_eq_iff (by rw [hc]; exact hpass)
  rw [hsecond, hkind, normalizeNativeMetadata_eq_self_iff, hpass.mark_iff huuid hfresh,
    hpass.tailFields_none_iff]
  constructor
  · rintro ⟨hkeeps, -, hid, -, -, hfields⟩
    exact ⟨hkeeps, hid, hfields⟩
  · rintro ⟨hkeeps, hid, hfields⟩
    exact ⟨hkeeps, hpass.headFields_none, hid, hpass.stampFields_none,
      fun hnone => hpass.agentName_none hnone, hfields⟩

/-- A custom event whose status is one that sessions have too. -/
def auditFinished : IncomingEvent where
  kind := "custom.audit"
  channel := none
  mention := none
  format := none
  template := none
  payload := .object [("repo", .string "owner/repo"), ("session_id", .string "s1"),
    ("source_url", .string "https://github.com/owner/repo/issues/304"), ("status", .string "finished")]

/-- The second pass reads the status of a custom event as the end of a session. -/
theorem audit_becomes_session_finished :
    (normalizeEvent ⟨"first", "12:00"⟩ auditFinished).kind = "custom.audit" ∧
      (normalizeEvent ⟨"second", "12:01"⟩ (normalizeEvent ⟨"first", "12:00"⟩ auditFinished)).kind =
        "session.finished" := by
  decide +kernel

/-- A session's event that says what it is. -/
def sessionStarted : IncomingEvent where
  kind := "session.started"
  channel := none
  mention := none
  format := none
  template := none
  payload := .object [("session_name", .string "issue-65"),
    ("context", .object [("normalized_event", .string "started")])]

/-- What is read of the session's event. -/
theorem sessionStarted_reads : let payload := Json.object (payloadFields sessionStarted.payload)
    signalEvent payload ≠ none ∧ sessionId payload ≠ none ∧
      (repoPath payload).bind fileName = none ∧ issueNumber payload ≠ none := by
  decide +kernel

/-- It is settled after one pass. -/
theorem sessionStarted_settles : Settles sessionStarted.kind (payloadFields sessionStarted.payload) where
  keepsKind := by
    refine ⟨fun name hname => ?_, fun _ _ => ?_⟩
    · simp [renamedKinds, sessionStarted] at hname
    · exact .inr (.inl sessionStarted_reads.1)
  event_id := .inl rfl
  fields := by
    constructor
    · exact fun hmissing => absurd hmissing (by decide)
    · exact fun _ hmissing => absurd hmissing sessionStarted_reads.2.1
    · exact fun _ _ _ => sessionStarted_reads.2.2.1
    · exact fun _ hmissing => absurd hmissing sessionStarted_reads.2.2.2

/-- The rule at the session's event. -/
theorem sessionStarted_twice :
    normalizeEvent ⟨"second", "12:01"⟩ (normalizeEvent ⟨"first", "12:00"⟩ sessionStarted) =
      normalizeEvent ⟨"first", "12:00"⟩ sessionStarted :=
  (normalizeEvent_twice_iff _ _ sessionStarted (by decide) (by decide)).mpr sessionStarted_settles

end Clawhip.Normalize
