import Clawhip.Subscription.Adapter
import Clawhip.Events.Settling
import Clawhip.Routing.Explain

/-!
# What an adapter can steer

The gate forbids the keys that routing reads, at every depth, but for the route key: a payload with a
`route_key` that is a native signal says the kind of the event itself. `adapter_cannot_steer_iff` says of two
outputs of one type that they are routed alike, by routes that filter on the configured fields, exactly if their
route keys are the same native signal, or none where the type is that signal.
-/

namespace Clawhip.Subscription

open List Option OrdMap Router IncomingEvent

open Normalize

-- The signals are looked up in a long table, which no proof here needs to see.
attribute [local irreducible] mapNativeSignal

/-! ## What is to hold -/

/-- The routing fields of a subscription, its name and its transport; a field that is not configured has no
value. -/
def configuredFields (config : SubscriptionConfig) : OrdMap String (Option String) :=
  [("tool", Text.nonblank config.routing.tool), ("project", Text.nonblank config.routing.project),
    ("repo_name", Text.nonblank config.routing.repo_name),
    ("repo_path", Text.nonblank config.routing.repo_path),
    ("worktree_path", Text.nonblank config.routing.worktree_path),
    ("session_id", Text.nonblank config.routing.session_id),
    ("branch", Text.nonblank config.routing.branch), ("subscription_name", some config.name),
    ("subscription_transport", some "websocket")]

/-- The configuration sets a field to a value. -/
def Configured (config : SubscriptionConfig) (key value : String) : Prop :=
  (configuredFields config).get key = some (some value)

/-- Every filter of the routes is on a field that the configuration sets. -/
def FiltersConfigured (config : SubscriptionConfig) (routes : List Router.RouteRule) : Prop :=
  ∀ route ∈ routes, ∀ key ∈ route.filter.keys, ∃ value, Configured config key value

/-- Two dispatched events are routed alike. -/
structure Unsteered (config : SubscriptionConfig) (first second : IncomingEvent) : Prop where
  kind : first.kind = second.kind
  neutral : ∀ event ∈ [first, second],
    event.channel = none ∧ event.mention = none ∧ event.format = none ∧ event.template = none
  fields : ∀ key value, Configured config key value →
    ∀ event ∈ [first, second], event.payload.get key = some (.string value)
  deliveries : ∀ (lib : Router.Libraries) (routing : Router.AppConfig),
    FiltersConfigured config routing.routes →
    Router.resolve lib routing first = Router.resolve lib routing second

/-! ## When it holds -/

def routeSignal (payload : Json) : Option String := (signalRouteKey payload).bind mapNativeSignal

/-- The type is one that no payload changes, or the route keys of two payloads are the same native signal, or
none where the type is that signal itself. -/
def SameSignal (kind : String) (first second : Json) : Prop :=
  kind ∈ keptKinds ∨ kind ∈ renamedKinds.keys ∨
    (routeSignal first).or (mapNativeSignal kind) = (routeSignal second).or (mapNativeSignal kind)

/-! ## Routes that read the same -/

section Routes

variable {routes : List Router.RouteRule} {context context' : OrdMap String String} {kind : String}
  {route : Router.RouteRule}

/-- A route whose filters are on other fields uses no names of sessions. -/
theorem noHeuristics (h : ∀ key ∈ route.filter.keys, key ≠ "session" ∧ key ≠ "session_name") :
    routeUsesSessionNamePrefixHeuristics route = false := by
  unfold routeUsesSessionNamePrefixHeuristics
  cases hfilter : route.filter with
  | nil => rfl
  | cons entry entries =>
    obtain ⟨key, expected⟩ := entry
    have hkey := h key (by rw [hfilter]; exact mem_cons_self)
    simp [hkey.1, hkey.2]

/-- Without names of sessions the matched routes are sorted by their scores. -/
theorem matchingRoutesFor_eq (h : ∀ route ∈ routes, routeUsesSessionNamePrefixHeuristics route = false) :
    matchingRoutesFor routes kind context =
      (routes.zipIdx.filter fun placed => routeMatches placed.1 kind context).mergeSort fun left right => decide
          (routeSpecificityScore right.1 context ≤ routeSpecificityScore left.1 context) := by
  unfold matchingRoutesFor
  simp only [partition_eq_filter_filter]
  set matched := routes.zipIdx.filter fun placed => routeMatches placed.1 kind context
  have hnone : ∀ placed ∈ matched,
      (prefersMetadataFirstRouting kind context && routeUsesSessionNamePrefixHeuristics placed.1) = false := by
    intro placed hplaced
    rw [h placed.1 (fst_mem_of_mem_zipIdx (mem_of_mem_filter hplaced)), Bool.and_false]
  have hheuristic : matched.filter (fun placed => prefersMetadataFirstRouting kind context && routeUsesSessionNamePrefixHeuristics placed.1) = [] :=
    filter_eq_nil_iff.mpr fun placed hplaced => by
      rw [hnone placed hplaced]
      decide
  have hpreferred : matched.filter (not ∘ fun placed => prefersMetadataFirstRouting kind context && routeUsesSessionNamePrefixHeuristics placed.1) = matched :=
    filter_eq_self.mpr fun placed hplaced => by
      rw [Function.comp_apply, hnone placed hplaced]
      rfl
  rw [hheuristic, hpreferred, mergeSort_nil, append_nil, ite_self]

section

variable (h : ∀ key ∈ route.filter.keys, context.get key = context'.get key)
include h

/-- A route matches in contexts that agree on its filters. -/
theorem routeMatches_congr : routeMatches route kind context = routeMatches route kind context' := by
  unfold routeMatches
  congr 1
  refine Bool.eq_iff_iff.mpr ?_
  simp only [List.all_eq_true]
  refine forall₂_congr fun entry hentry => ?_
  rw [h entry.1 (mem_map_of_mem hentry)]

/-- A route has one score in contexts that agree on its filters. -/
theorem routeSpecificityScore_congr : routeSpecificityScore route context = routeSpecificityScore route context' := by
  have hfilters (key : String) : ((route.filter.get key).isSome && hasValue context key) =
      ((route.filter.get key).isSome && hasValue context' key) := by
    cases hget : route.filter.get key with
    | none => rfl
    | some expected =>
      have hkey : key ∈ route.filter.keys := mem_map_of_mem (mem_of_get hget)
      unfold hasValue
      rw [h key hkey]
  unfold routeSpecificityScore
  simp only [hfilters]

end

/-- The same routes match, in the same order, in contexts that agree on the filters. -/
theorem matchingRoutesFor_congr
    (hsame : ∀ route ∈ routes, ∀ key ∈ route.filter.keys, context.get key = context'.get key)
    (hsession : ∀ route ∈ routes, ∀ key ∈ route.filter.keys, key ≠ "session" ∧ key ≠ "session_name") :
    matchingRoutesFor routes kind context = matchingRoutesFor routes kind context' := by
  have hplain : ∀ route ∈ routes, routeUsesSessionNamePrefixHeuristics route = false :=
    fun route hroute => noHeuristics (hsession route hroute)
  have hmatched : (routes.zipIdx.filter fun placed => routeMatches placed.1 kind context) =
      routes.zipIdx.filter fun placed => routeMatches placed.1 kind context' :=
    filter_congr fun placed hplaced => routeMatches_congr (hsame placed.1 (fst_mem_of_mem_zipIdx hplaced))
  have hscore : ∀ placed ∈ routes.zipIdx.filter fun placed => routeMatches placed.1 kind context',
      routeSpecificityScore placed.1 context = routeSpecificityScore placed.1 context' :=
    fun placed hplaced => routeSpecificityScore_congr
      (hsame placed.1 (fst_mem_of_mem_zipIdx (mem_of_mem_filter hplaced)))
  rw [matchingRoutesFor_eq hplain, matchingRoutesFor_eq hplain, hmatched]
  have hsorted := map_mergeSort (f := id) (r := fun left right : PlacedRoute => decide
      (routeSpecificityScore right.1 context ≤ routeSpecificityScore left.1 context))
    (s := fun left right : PlacedRoute => decide
      (routeSpecificityScore right.1 context' ≤ routeSpecificityScore left.1 context'))
    (l := routes.zipIdx.filter fun placed => routeMatches placed.1 kind context')
    fun left hleft right hright => by rw [hscore left hleft, hscore right hright]; rfl
  rwa [List.map_id, List.map_id] at hsorted

end Routes

/-- Two events of one kind that say nothing of their delivery resolve alike by routes whose filters read the
same. -/
theorem resolve_congr (lib : Router.Libraries) (routing : Router.AppConfig) {first second : IncomingEvent}
    (hkind : first.kind = second.kind) (hneutral : ∀ event ∈ [first, second],
      event.channel = none ∧ event.mention = none ∧ event.format = none ∧ event.template = none)
    (htransport : first.payload.get "subscription_transport" = second.payload.get "subscription_transport")
    (hsame : ∀ route ∈ routing.routes, ∀ key ∈ route.filter.keys,
      first.templateContext.get key = second.templateContext.get key)
    (hsession : ∀ route ∈ routing.routes, ∀ key ∈ route.filter.keys, key ≠ "session" ∧ key ≠ "session_name") :
    resolve lib routing first = resolve lib routing second := by
  obtain ⟨hchannel, hmention, hformat, htemplate⟩ := hneutral first mem_cons_self
  obtain ⟨hchannel', hmention', hformat', htemplate'⟩ := hneutral second (mem_cons_of_mem _ mem_cons_self)
  have hcanonical : first.canonicalKind = second.canonicalKind := by
    unfold canonicalKind
    rw [hkind]
  have hroutes : matchedRoutes routing first = matchedRoutes routing second := by
    unfold matchedRoutes
    rw [hcanonical]
    exact matchingRoutesFor_congr hsame hsession
  have hsubscription : isSubscriptionEvent first = isSubscriptionEvent second := by
    unfold isSubscriptionEvent
    rw [htransport]
  have hdelivery : resolveDelivery lib routing first = resolveDelivery lib routing second := by
    funext route index
    unfold resolveDelivery targetFor allowDynamicTokensFor
    rw [hcanonical, hchannel, hchannel', hmention, hmention', hformat, hformat', htemplate, htemplate']
  unfold resolve
  rw [hroutes, hsubscription, hdelivery]

/-! ## Keys that a payload does not have -/

mutual

/-- No object inside a value has a key, arrays aside. -/
def Avoids (k : String) : Json → Prop
  | .object fields => FieldsAvoid k fields
  | _ => True

def FieldsAvoid (k : String) : List (String × Json) → Prop
  | [] => True
  | (key, value) :: fields => (key ≠ k ∧ Avoids k value) ∧ FieldsAvoid k fields

end

variable {k : String}

mutual

/-- A payload that passes the gate has no forbidden key. -/
theorem avoids_of_safe (hk : forbiddenKey k = true) : ∀ v : Json, safePayload v = true → Avoids k v
  | .object fields, h => by exact fieldsAvoid_of_safe hk fields (Bool.and_eq_true_iff.mp h).2
  | .null, _ | .bool _, _ | .number _, _ | .string _, _ | .array _, _ => by trivial

theorem fieldsAvoid_of_safe (hk : forbiddenKey k = true) :
    ∀ fields : List (String × Json), safeFields fields = true → FieldsAvoid k fields
  | [], _ => by trivial
  | (key, value) :: fields, h => by
    obtain ⟨hfield, hrest⟩ := Bool.and_eq_true_iff.mp h
    obtain ⟨hkey, hvalue⟩ := Bool.and_eq_true_iff.mp hfield
    have hne : key ≠ k := by
      rintro rfl
      rw [hk] at hkey
      exact absurd hkey (by decide)
    exact ⟨⟨hne, avoids_of_safe hk value hvalue⟩, fieldsAvoid_of_safe hk fields hrest⟩

end

theorem FieldsAvoid.of_mem {fields : List (String × Json)} (h : FieldsAvoid k fields)
    {entry : String × Json} (hmem : entry ∈ fields) : entry.1 ≠ k ∧ Avoids k entry.2 := by
  induction fields with
  | nil => exact absurd hmem not_mem_nil
  | cons field fields ih =>
    obtain ⟨key, value⟩ := field
    rcases mem_cons.mp hmem with rfl | hmem
    · exact h.1
    · exact ih h.2 hmem

theorem FieldsAvoid.get {fields : OrdMap String Json} (h : FieldsAvoid k fields) : fields.get k = none := by
  cases hget : fields.get k with
  | none => rfl
  | some value => exact absurd rfl (h.of_mem (mem_of_get hget)).1

theorem Avoids.get {v : Json} (h : Avoids k v) : v.get k = none := by
  cases v with
  | object fields => exact FieldsAvoid.get h
  | _ => rfl

/-! ## Leaves under their paths -/

/-- A key without a dot is no path of two steps. -/
theorem dotted_ne (hk : '.' ∉ k.toList) (path key : String) : path ++ "." ++ key ≠ k := by
  rintro rfl
  refine hk ?_
  rw [String.toList_append, String.toList_append]
  exact mem_append_left _ (mem_append_right _ (by decide))

mutual

/-- Leaves of a value without a key leave the key of the context. -/
theorem flattenJson_get (hk : '.' ∉ k.toList) : ∀ (v : Json) (path : String)
    (out : OrdMap String String), Avoids k v → path ≠ k → (flattenJson path out v).get k = out.get k
  | .object fields, path, out, h, hpath => by exact flattenFields_get hk fields path out h hpath
  | .null, path, out, _, hpath | .bool _, path, out, _, hpath | .number _, path, out, _, hpath
  | .string _, path, out, _, hpath | .array _, path, out, _, hpath => by exact get_insert_ne _ _ hpath.symm

theorem flattenFields_get (hk : '.' ∉ k.toList) : ∀ (fields : List (String × Json)) (path : String)
    (out : OrdMap String String), FieldsAvoid k fields → path ≠ k → (flattenFields path out fields).get k = out.get k
  | [], path, out, _, _ => by rfl
  | (key, value) :: fields, path, out, h, hpath => by
    have hnext : (if path.isEmpty then key else path ++ "." ++ key) ≠ k := by
      split_ifs
      · exact h.1.1
      · exact dotted_ne hk path key
    unfold flattenFields
    rw [flattenFields_get hk fields path _ h.2 hpath]
    exact flattenJson_get hk value _ out h.1.2 hnext

end

mutual

/-- Leaves under a path that is not empty leave every key without a dot. -/
theorem flattenJson_get_under (hk : '.' ∉ k.toList) : ∀ (v : Json) (path : String)
    (out : OrdMap String String), path.isEmpty = false → path ≠ k → (flattenJson path out v).get k = out.get k
  | .object fields, path, out, hempty, hpath => by exact flattenFields_get_under hk fields path out hempty hpath
  | .null, path, out, _, hpath | .bool _, path, out, _, hpath | .number _, path, out, _, hpath
  | .string _, path, out, _, hpath | .array _, path, out, _, hpath => by exact get_insert_ne _ _ hpath.symm

theorem flattenFields_get_under (hk : '.' ∉ k.toList) : ∀ (fields : List (String × Json))
    (path : String) (out : OrdMap String String), path.isEmpty = false → path ≠ k →
    (flattenFields path out fields).get k = out.get k
  | [], path, out, _, _ => by rfl
  | (key, value) :: fields, path, out, hempty, hpath => by
    have hnext : (path ++ "." ++ key).isEmpty = false := by simp
    unfold flattenFields
    rw [flattenFields_get_under hk fields path _ hempty hpath, hempty]
    exact flattenJson_get_under hk value _ out hnext (dotted_ne hk path key)

end

/-! ## A field that stays -/

/-- A field has a text and no other value, and no object under the empty key has it. -/
structure Told (k s : String) (m : OrdMap String Json) : Prop where
  get : m.get k = some (.string s)
  only : ∀ value, (k, value) ∈ m → value = .string s
  nested : ∀ value, ("", value) ∈ m → Avoids k value

variable {s : String} {m : OrdMap String Json} {key : String} {event : IncomingEvent}
  {table : OrdMap String (Option String)}

section

variable (h : Told k s m)
include h

/-- What is written under another name that is not empty leaves a field. -/
theorem Told.insert (hne : k ≠ key) (hempty : "" ≠ key) (value : Json) : Told k s (m.insert key value) where
  get := by
    rw [get_insert_ne _ _ hne]
    exact h.get
  only := fun other hmem => by
    rcases mem_insert hmem with heq | hmem
    · exact absurd (congrArg Prod.fst heq) hne
    · exact h.only other hmem
  nested := fun other hmem => by
    rcases mem_insert hmem with heq | hmem
    · exact absurd (congrArg Prod.fst heq) hempty
    · exact h.nested other hmem

theorem Told.erase (hne : k ≠ key) : Told k s (m.erase key) where
  get := by
    rw [get_erase_ne _ hne]
    exact h.get
  only := fun other hmem => h.only other (mem_of_mem_filter hmem)
  nested := fun other hmem => h.nested other (mem_of_mem_filter hmem)

/-- What is only written where it is missing leaves a field. -/
theorem Told.insertMissing (hempty : "" ≠ key) (value : Option Json) : Told k s (m.insertMissing key value) := by
  by_cases hne : k = key
  · subst hne
    rw [insertMissing_of_some h.get]
    exact h
  · unfold OrdMap.insertMissing
    split
    · exact h.insert hne hempty _
    · exact h

theorem Told.fill {table : OrdMap String (Option Json)} (hempty : "" ∉ table.keys) : Told k s (m.fill table) := by
  induction table generalizing m with
  | nil => exact h
  | cons entry table ih =>
    obtain ⟨key, value⟩ := entry
    have hkeys : "" ≠ key ∧ "" ∉ keys table := by simpa [OrdMap.keys] using hempty
    rw [fill_cons]
    exact ih (h.insertMissing hkeys.1 value) hkeys.2

/-- Normalization leaves a field. -/
theorem Told.normalize (hmark : k ≠ "_clawhip_generated_event_id") (stamp : Stamp)
    (raw canonical : String) : Told k s (normalizeNativeMetadata stamp m raw canonical) := by
  have hhead : Told k s (m.fill (headFields stamp (.object m) raw canonical)) :=
    h.fill (by rw [keys_headFields]; decide)
  have hmarked : Told k s (markGenerated stamp (.object m) (m.fill (headFields stamp (.object m) raw canonical))) := by
    unfold markGenerated
    split_ifs
    · exact hhead.insert hmark (by decide) _
    · exact hhead.erase hmark
  have hbefore : Told k s (beforeAgent stamp m raw canonical) := hmarked.fill (by rw [keys_stampFields]; decide)
  rw [normalizeNativeMetadata_eq]
  exact (hbefore.insertMissing (by decide) _).fill (by rw [keys_tailFields]; decide)

/-- The leaves of the fields have the field's text under its name. -/
theorem Told.flatten (hk : '.' ∉ k.toList) (hempty : k ≠ "")
    (out : OrdMap String String) : (flattenFields "" out m).get k = some s := by
  -- Before the field there is nothing to keep, after it there is its text.
  have hrun : ∀ (fields : List (String × Json)) (out : OrdMap String String),
      (∀ value, (k, value) ∈ fields → value = .string s) → (∀ value, ("", value) ∈ fields → Avoids k value) →
      (out.get k = some s ∨ ∃ value, (k, value) ∈ fields) → (flattenFields "" out fields).get k = some s := by
    intro fields
    induction fields with
    | nil =>
      intro out _ _ hthere
      rcases hthere with hout | ⟨value, hmem⟩
      · exact hout
      · exact absurd hmem not_mem_nil
    | cons field fields ih =>
      obtain ⟨key, value⟩ := field
      intro out honly hnested hthere
      have honly' : ∀ value, (k, value) ∈ fields → value = .string s := fun other hmem =>
        honly other (mem_cons_of_mem _ hmem)
      have hnested' : ∀ value, ("", value) ∈ fields → Avoids k value := fun other hmem =>
        hnested other (mem_cons_of_mem _ hmem)
      refine ih _ honly' hnested' ?_
      rw [show (("" : String).isEmpty = true) from rfl, if_pos rfl]
      by_cases hkey : key = k
      · subst hkey
        rw [honly value mem_cons_self]
        exact .inl (get_insert_self _ _ _)
      · have hkept : (flattenJson key out value).get k = out.get k := by
          by_cases hnone : key = ""
          · subst hnone
            exact flattenJson_get hk value _ out (hnested value mem_cons_self) hkey
          · exact flattenJson_get_under hk value _ out (by simpa [String.isEmpty_iff] using hnone) hkey
        rw [hkept]
        refine hthere.imp_right fun ⟨other, hmem⟩ => ⟨other, ?_⟩
        rcases mem_cons.mp hmem with heq | hmem
        · exact absurd (congrArg Prod.fst heq).symm hkey
        · exact hmem
  exact hrun m out h.only h.nested (.inr ⟨_, mem_of_get h.get⟩)

end

/-! ## The context of an event -/

section Aliases

variable {context : OrdMap String String}

section

variable (h : context.get k = some s)
include h

theorem orInsert_get (key value : String) : (orInsert context key value).get k = some s := by
  unfold orInsert
  split_ifs with hsome
  · exact h
  · have hne : k ≠ key := by
      rintro rfl
      rw [h] at hsome
      exact hsome rfl
    rw [get_insert_ne _ _ hne]
    exact h

theorem insertContextAliasPair_get (primary alias_key : String) :
    (insertContextAliasPair context primary alias_key).get k = some s := by
  unfold insertContextAliasPair
  split
  · rename_i hnone
    rw [get_insert_ne _ _ (by rintro rfl; rw [h] at hnone; cases hnone)]
    exact h
  · rename_i hnone _
    rw [get_insert_ne _ _ (by rintro rfl; rw [h] at hnone; cases hnone)]
    exact h
  · exact h

theorem insertKeepingPayload_get {key : String} (hne : k ≠ key)
    (payload_key kind : String) : (insertKeepingPayload context key payload_key kind).get k = some s := by
  have hinserted : (context.insert key kind).get k = some s := by
    rw [get_insert_ne _ _ hne]
    exact h
  unfold insertKeepingPayload
  split
  · exact orInsert_get hinserted _ _
  · exact hinserted

/-- The aliases leave what is there, the kind's names aside. -/
theorem insertContextAliases_get (hnames : k ∉ ["event", "contract_event", "kind"]) (kind : String) :
    (insertContextAliases context kind).get k = some s := by
  obtain ⟨hevent, hcontract, hkind⟩ : k ≠ "event" ∧ k ≠ "contract_event" ∧ k ≠ "kind" := by simpa using hnames
  refine orInsert_get (insertContextAliasPair_get (insertContextAliasPair_get
    (insertContextAliasPair_get ?_ _ _) _ _) _ _) _ _
  rw [get_insert_ne _ _ hkind]
  exact insertKeepingPayload_get (insertKeepingPayload_get h hevent _ _) hcontract _ _

end

end Aliases

/-- The context of an event has a told field. -/
theorem Told.context (h : Told k s m) (hk : '.' ∉ k.toList) (hempty : k ≠ "")
    (hnames : k ∉ ["event", "contract_event", "kind"]) (hpayload : event.payload = .object m) :
    event.templateContext.get k = some s := by
  refine insertContextAliases_get ?_ hnames _
  rw [hpayload]
  exact h.flatten hk hempty _

/-! ## The fields that the worker writes -/

/-- Write texts under their names. -/
def putAll (m : OrdMap String Json) (table : OrdMap String (Option String)) : OrdMap String Json :=
  table.foldl (fun m field => match field.2 with
    | some value => m.insert field.1 (.string value)
    | none => m) m

theorem putAll_cons (m : OrdMap String Json) (field : String × Option String)
    (table : OrdMap String (Option String)) : putAll m (field :: table) = putAll (match field.2 with
        | some value => m.insert field.1 (.string value)
        | none => m) table := rfl

theorem get_putAll_of_notMem (h : k ∉ table.keys) : (putAll m table).get k = m.get k := by
  induction table generalizing m with
  | nil => rfl
  | cons field table ih =>
    obtain ⟨hne, hrest⟩ : k ≠ field.1 ∧ k ∉ keys table := by simpa [OrdMap.keys] using h
    rw [putAll_cons, ih hrest]
    split
    · exact get_insert_ne _ _ hne
    · rfl

theorem Told.putAll (h : Told k s m) (hk : k ∉ table.keys) (hempty : "" ∉ table.keys) : Told k s (putAll m table) := by
  induction table generalizing m with
  | nil => exact h
  | cons field table ih =>
    obtain ⟨hne, hrest⟩ : k ≠ field.1 ∧ k ∉ keys table := by simpa [OrdMap.keys] using hk
    obtain ⟨hne', hrest'⟩ : "" ≠ field.1 ∧ "" ∉ keys table := by simpa [OrdMap.keys] using hempty
    rw [putAll_cons]
    refine ih ?_ hrest hrest'
    split
    · exact h.insert hne hne' _
    · exact h

/-- A field that is not there is told once it is written. -/
theorem told_putAll (hfree : ∀ value, (k, value) ∉ m) (hnested : ∀ value, ("", value) ∈ m → Avoids k value)
    (hnodup : table.keys.Nodup) (hempty : "" ∉ table.keys) (hget : table.get k = some (some s)) :
    Told k s (putAll m table) := by
  induction table generalizing m with
  | nil => cases hget
  | cons field table ih =>
    obtain ⟨key, value⟩ := field
    obtain ⟨hnew, hnext⟩ := nodup_cons.mp hnodup
    obtain ⟨hne, hrest⟩ : "" ≠ key ∧ "" ∉ keys table := by simpa [OrdMap.keys] using hempty
    rw [putAll_cons]
    rw [get_cons] at hget
    split_ifs at hget with hkey
    · -- The field is written here, and by nothing that follows.
      subst hkey
      rw [some.inj hget]
      refine Told.putAll ?_ hnew hrest
      exact {
        get := get_insert_self _ _ _
        only := fun other hmem => by
          rcases mem_insert hmem with heq | hmem
          · exact congrArg Prod.snd heq
          · exact absurd hmem (hfree other)
        nested := fun other hmem => by
          rcases mem_insert hmem with heq | hmem
          · exact absurd (congrArg Prod.fst heq) hne
          · exact hnested other hmem }
    · cases value with
      | none => exact ih hfree hnested hnext hrest hget
      | some text =>
        refine ih (fun other hmem => ?_) (fun other hmem => ?_) hnext hrest hget
        · rcases mem_insert hmem with heq | hmem
          · exact hkey (congrArg Prod.fst heq)
          · exact hfree other hmem
        · rcases mem_insert hmem with heq | hmem
          · exact absurd (congrArg Prod.fst heq) hne
          · exact hnested other hmem

/-- All that `IncomingEvent::subscription` writes. -/
def writtenFields (config : SubscriptionConfig) (draw : SubscriptionDraw) (kind : String) :
    OrdMap String (Option String) :=
  [("tool", Text.nonblank config.routing.tool), ("project", Text.nonblank config.routing.project),
    ("repo_name", Text.nonblank config.routing.repo_name),
    ("repo_path", Text.nonblank config.routing.repo_path),
    ("worktree_path", Text.nonblank config.routing.worktree_path),
    ("session_id", Text.nonblank config.routing.session_id),
    ("branch", Text.nonblank config.routing.branch)] ++ IncomingEvent.subscriptionFields draw kind config.name

variable {config : SubscriptionConfig} {draw : SubscriptionDraw} {kind : String}

def writtenNames : List String :=
  IncomingEvent.ROUTING_FIELDS ++ ["event_id", "correlation_id", "first_seen_at", "contract_event",
    "subscription_name", "subscription_transport", "subscription_received_at"]

theorem keys_writtenFields : (writtenFields config draw kind).keys = writtenNames := rfl

/-- Fields are set one after the other in a payload that is an object. -/
theorem foldl_setField_eq (table : OrdMap String (Option String)) (event : IncomingEvent)
    (hpayload : event.payload = .object m) : table.foldl (fun event field => event.setField field.1 field.2) event =
      { event with payload := .object (putAll m table) } := by
  induction table generalizing event m with
  | nil => rw [foldl_nil, show putAll m [] = m from rfl, ← hpayload]
  | cons field table ih =>
    obtain ⟨key, value⟩ := field
    cases value with
    | none => exact ih event hpayload
    | some value =>
      have hset : event.setField key (some value) =
          { event with payload := .object (m.insert key (.string value)) } := by
        unfold setField
        rw [hpayload]
      rw [foldl_cons, hset, ih _ rfl]
      rfl

/-- The event of a subscription has the adapter's payload with what is written, and nothing else. -/
theorem subscription_eq (m : OrdMap String Json) : subscription draw kind (.object m) config.routing config.name =
      { kind, channel := none, mention := none, format := none, template := none
        payload := .object (putAll m (writtenFields config draw kind)) } := by
  have hfold := foldl_setField_eq (writtenFields config draw kind)
    { kind, channel := none, mention := none, format := none, template := none, payload := .object m } rfl
  rw [writtenFields, foldl_append] at hfold
  exact hfold

/-- A configured field is written with its value. -/
theorem Configured.written (h : Configured config k s) : (writtenFields config draw kind).get k = some (some s) := by
  have hmem : k ∈ (configuredFields config).keys := mem_map_of_mem (mem_of_get h)
  have hsame : (writtenFields config draw kind).get k = (configuredFields config).get k := by
    simp only [configuredFields, OrdMap.keys, map_cons, map_nil, mem_cons, not_mem_nil, or_false] at hmem
    rcases hmem with rfl | rfl | rfl | rfl | rfl | rfl | rfl | rfl | rfl <;> rfl
  exact hsame.trans h

/-- A configured field is forbidden to the adapter, and has no other meaning. -/
theorem Configured.forbidden (h : Configured config k s) :
    forbiddenKey k = true ∧ '.' ∉ k.toList ∧ k ≠ "" ∧ k ∉ ["event", "contract_event", "kind"] ∧
      k ≠ "_clawhip_generated_event_id" ∧ k ≠ "session" ∧ k ≠ "session_name" := by
  have hmem : k ∈ IncomingEvent.ROUTING_FIELDS ++ ["subscription_name", "subscription_transport"] :=
    mem_map_of_mem (f := Prod.fst) (mem_of_get h)
  have hall : ∀ k ∈ IncomingEvent.ROUTING_FIELDS ++ ["subscription_name", "subscription_transport"],
      forbiddenKey k = true ∧ '.' ∉ k.toList ∧ k ≠ "" ∧ k ∉ ["event", "contract_event", "kind"] ∧
        k ≠ "_clawhip_generated_event_id" ∧ k ≠ "session" ∧ k ≠ "session_name" := by
    decide +kernel
  exact hall k hmem

/-! ## What is dispatched -/

/-- A configured field is told in what is dispatched. -/
theorem Configured.told (h : Configured config k s) (hsafe : safeFields m = true) (stamp : Stamp)
    (canonical : String) : Told k s
      (normalizeNativeMetadata stamp (putAll m (writtenFields config draw kind)) kind canonical) := by
  obtain ⟨hforbidden, -, -, -, hmark, -, -⟩ := h.forbidden
  have havoid : FieldsAvoid k m := fieldsAvoid_of_safe hforbidden m hsafe
  have hwritten : Told k s (putAll m (writtenFields config draw kind)) :=
    told_putAll (fun value hmem => (havoid.of_mem hmem).1 rfl) (fun value hmem => (havoid.of_mem hmem).2)
      (by rw [keys_writtenFields]; decide) (by rw [keys_writtenFields]; decide) h.written
  exact hwritten.normalize hmark stamp kind canonical

/-- The route key is the adapter's. -/
theorem signalRouteKey_written : signalRouteKey (.object (putAll m (writtenFields config draw kind))) =
    signalRouteKey (.object m) := by
  refine firstWith_congr (by decide) fun name hname => get_putAll_of_notMem ?_
  have hall : ∀ name ∈ heads [["signal", "routeKey"], ["route_key"], ["context", "route_key"]],
      name ∉ writtenNames := by decide
  rw [keys_writtenFields]
  exact hall name hname

/-- No normalized event is in what is dispatched. -/
theorem signalEvent_written (hsafe : safeFields m = true) :
    signalEvent (.object (putAll m (writtenFields config draw kind))) = none := by
  have havoid : FieldsAvoid "normalized_event" m := fieldsAvoid_of_safe (by decide +kernel) m hsafe
  have hsame : signalEvent (.object (putAll m (writtenFields config draw kind))) = signalEvent (.object m) := by
    refine firstWith_congr (by decide) fun name hname => get_putAll_of_notMem ?_
    have hall : ∀ name ∈ heads [["context", "normalized_event"], ["normalized_event"]], name ∉ writtenNames := by decide
    rw [keys_writtenFields]
    exact hall name hname
  have hcontext : (Json.object m).pointer ["context", "normalized_event"] = none := by
    rw [pointer_object]
    cases hget : m.get "context" with
    | none => rfl
    | some value =>
      have hnone : value.get "normalized_event" = none :=
        (havoid.of_mem (mem_of_get hget)).2.get
      rw [bind_some]
      unfold Json.pointer
      rw [hnone]
      rfl
  have htop : (Json.object m).pointer ["normalized_event"] = none := by
    rw [pointer_object, havoid.get]
    rfl
  rw [hsame]
  unfold signalEvent firstString firstWith
  rw [findSome?_cons, findSome?_cons, hcontext, htop]
  rfl

/-- The kinds of two outputs of one type are the same exactly if their signals are. -/
theorem canonicalEventKind_eq_iff {first second : OrdMap String Json} {draw' : SubscriptionDraw}
    (hfirst : safeFields first = true) (hsecond : safeFields second = true) :
    canonicalEventKind kind (.object (putAll first (writtenFields config draw kind))) =
        canonicalEventKind kind (.object (putAll second (writtenFields config draw' kind))) ↔
      SameSignal kind (.object first) (.object second) := by
  by_cases hkept : kind ∈ keptKinds
  · rw [canonicalEventKind_kept hkept, canonicalEventKind_kept hkept]
    exact ⟨fun _ => .inl hkept, fun _ => rfl⟩
  by_cases hrenamed : kind ∈ renamedKinds.keys
  · obtain ⟨⟨kind, name⟩, hmem, rfl⟩ := mem_map.mp hrenamed
    rw [canonicalEventKind_renamed hmem, canonicalEventKind_renamed hmem]
    exact ⟨fun _ => .inr (.inl hrenamed), fun _ => rfl⟩
  rw [canonicalEventKind_other hkept hrenamed, canonicalEventKind_other hkept hrenamed,
    nativeContractKind_eq, nativeContractKind_eq, signalRouteKey_written, signalRouteKey_written,
    signalEvent_written hfirst, signalEvent_written hsecond]
  have hsame : SameSignal kind (.object first) (.object second) ↔
      (routeSignal (.object first)).or (mapNativeSignal kind) =
        (routeSignal (.object second)).or (mapNativeSignal kind) := by
    unfold SameSignal
    simp only [hkept, hrenamed, false_or]
  have hself : ∀ (payload : Json) (signal : String), routeSignal payload = some signal →
      mapNativeSignal signal = some signal := by
    intro payload signal hsignal
    obtain ⟨raw, -, hraw⟩ := bind_eq_some_iff.mp hsignal
    exact mapNativeSignal_self hraw
  rw [hsame]
  show (routeSignal (.object first)).getD (ownKind kind) = (routeSignal (.object second)).getD (ownKind kind) ↔ _
  unfold ownKind
  -- A kind that is a native signal's name is that signal.
  cases hsignal : routeSignal (.object first) with
  | none =>
    cases hsignal' : routeSignal (.object second) with
    | none => exact ⟨fun _ => rfl, fun _ => rfl⟩
    | some signal' =>
      cases hown : mapNativeSignal kind with
      | none =>
        refine ⟨fun heq => ?_, fun heq => nomatch heq⟩
        rw [getD_none, getD_none, getD_some] at heq
        rw [heq, hself _ _ hsignal'] at hown
        cases hown
      | some own => simp
  | some signal =>
    cases hsignal' : routeSignal (.object second) with
    | none =>
      cases hown : mapNativeSignal kind with
      | none =>
        refine ⟨fun heq => ?_, fun heq => nomatch heq⟩
        rw [getD_none, getD_none, getD_some] at heq
        rw [← heq, hself _ _ hsignal] at hown
        cases hown
      | some own => simp
    | some signal' => simp

/-- What passes the gate is a safe object under a plain event. -/
theorem adapterEvent_eq_ok {deserialize : List UInt8 → Option RestrictedAdapterEvent} {stdout : List UInt8}
    (h : adapterEvent deserialize stdout config = .ok event) :
    ∃ fields : OrdMap String Json, event.payload = .object fields ∧ safeFields fields = true := by
  unfold adapterEvent at h
  split_ifs at h
  split at h
  · cases h
  · rename_i output _
    split_ifs at h with hbad
    obtain rfl := Except.ok.inj h
    simp only [Bool.or_eq_true, Bool.not_eq_true', not_or, Bool.not_eq_false] at hbad
    obtain ⟨⟨⟨-, hobject⟩, -⟩, hsafe⟩ := hbad
    cases hpayload : output.payload with
    | object fields =>
      rw [hpayload] at hsafe
      exact ⟨fields, rfl, (Bool.and_eq_true_iff.mp hsafe).2⟩
    | _ =>
      rw [hpayload] at hobject
      cases hobject

/-- What is dispatched of a safe output, in one piece. -/
theorem dispatched_eq (hpayload : event.payload = .object m) (stamp : Stamp) : dispatched config draw stamp event =
      { kind := canonicalEventKind event.kind (.object (putAll m (writtenFields config draw event.kind)))
        channel := none
        mention := none
        format := none
        template := none
        payload := .object (normalizeNativeMetadata stamp (putAll m (writtenFields config draw event.kind))
          event.kind (canonicalEventKind event.kind
            (.object (putAll m (writtenFields config draw event.kind))))) } := by
  unfold dispatched
  rw [hpayload, subscription_eq]
  rfl

/-- What is dispatched says nothing of its delivery. -/
theorem dispatched_neutral (hpayload : event.payload = .object m) (stamp : Stamp) :
    (dispatched config draw stamp event).channel = none ∧ (dispatched config draw stamp event).mention = none ∧
      (dispatched config draw stamp event).format = none ∧ (dispatched config draw stamp event).template = none := by
  rw [dispatched_eq hpayload]
  exact ⟨rfl, rfl, rfl, rfl⟩

/-- A configured field has its value in what is dispatched, and in its context. -/
theorem Configured.dispatched_get (h : Configured config k s) (hsafe : safeFields m = true)
    (hpayload : event.payload = .object m) (stamp : Stamp) :
    (dispatched config draw stamp event).payload.get k = some (.string s) ∧
      (dispatched config draw stamp event).templateContext.get k = some s := by
  obtain ⟨-, hdot, hempty, hnames, -, -, -⟩ := h.forbidden
  have htold : Told k s (normalizeNativeMetadata stamp (putAll m (writtenFields config draw event.kind))
      event.kind (canonicalEventKind event.kind
        (.object (putAll m (writtenFields config draw event.kind))))) := h.told hsafe stamp _
  have hbuilt : (dispatched config draw stamp event).payload =
      .object (normalizeNativeMetadata stamp (putAll m (writtenFields config draw event.kind)) event.kind
        (canonicalEventKind event.kind (.object (putAll m (writtenFields config draw event.kind))))) :=
    congrArg payload (dispatched_eq hpayload stamp)
  refine ⟨?_, htold.context hdot hempty hnames hbuilt⟩
  rw [hbuilt]
  exact htold.get

/-- Two outputs of one type that pass the gate are routed alike, by routes that filter on the configured fields,
exactly if their route keys signal the same. -/
theorem adapter_cannot_steer_iff (deserialize : List UInt8 → Option RestrictedAdapterEvent)
    (config : SubscriptionConfig) {stdout stdout' : List UInt8} {event event' : IncomingEvent}
    (hevent : adapterEvent deserialize stdout config = .ok event)
    (hevent' : adapterEvent deserialize stdout' config = .ok event')
    (htype : event.kind = event'.kind) (draw draw' : SubscriptionDraw) (stamp stamp' : Stamp) :
    Unsteered config (dispatched config draw stamp event) (dispatched config draw' stamp' event') ↔
      SameSignal event.kind event.payload event'.payload := by
  obtain ⟨fields, hpayload, hsafe⟩ := adapterEvent_eq_ok hevent
  obtain ⟨fields', hpayload', hsafe'⟩ := adapterEvent_eq_ok hevent'
  have hkinds : canonicalEventKind event.kind (.object (putAll fields (writtenFields config draw event.kind))) =
        canonicalEventKind event.kind (.object (putAll fields' (writtenFields config draw' event.kind))) ↔
      SameSignal event.kind (.object fields) (.object fields') := canonicalEventKind_eq_iff hsafe hsafe'
  have hkind : (dispatched config draw stamp event).kind = (dispatched config draw' stamp' event').kind ↔
      SameSignal event.kind event.payload event'.payload := by
    rw [dispatched_eq hpayload, dispatched_eq hpayload', hpayload, hpayload', ← htype]
    exact hkinds
  constructor
  · intro h
    exact hkind.mp h.kind
  · intro hsignal
    have hneutral : ∀ built ∈ [dispatched config draw stamp event, dispatched config draw' stamp' event'],
        built.channel = none ∧ built.mention = none ∧ built.format = none ∧ built.template = none := by
      intro built hbuilt
      rcases mem_cons.mp hbuilt with rfl | hbuilt
      · exact dispatched_neutral hpayload stamp
      · rw [mem_singleton.mp hbuilt]
        exact dispatched_neutral hpayload' stamp'
    have hfields : ∀ key value, Configured config key value →
        ∀ built ∈ [dispatched config draw stamp event, dispatched config draw' stamp' event'],
          built.payload.get key = some (.string value) := by
      intro key value hset built hbuilt
      rcases mem_cons.mp hbuilt with rfl | hbuilt
      · exact (hset.dispatched_get hsafe hpayload stamp).1
      · rw [mem_singleton.mp hbuilt]
        exact (hset.dispatched_get hsafe' hpayload' stamp').1
    have htransport : Configured config "subscription_transport" "websocket" := rfl
    refine ⟨hkind.mpr hsignal, hneutral, hfields, fun lib routing hroutes => ?_⟩
    refine resolve_congr lib routing (hkind.mpr hsignal) hneutral ?_ (fun route hroute key hkey => ?_)
      fun route hroute key hkey => ?_
    · exact (htransport.dispatched_get hsafe hpayload stamp).1.trans
        (htransport.dispatched_get hsafe' hpayload' stamp').1.symm
    · -- Both contexts have the configured value.
      obtain ⟨value, hset⟩ := hroutes route hroute key hkey
      exact (hset.dispatched_get hsafe hpayload stamp).2.trans
        (hset.dispatched_get hsafe' hpayload' stamp').2.symm
    · obtain ⟨value, hset⟩ := hroutes route hroute key hkey
      obtain ⟨-, -, -, -, -, hsession, hname⟩ := hset.forbidden
      exact ⟨hsession, hname⟩

namespace Sample

def deployments : SubscriptionConfig where
  name := "deployments"
  max_stdout_bytes := 4096
  routing := ⟨some "deployer", none, none, none, none, none, none⟩

/-- The deployment is done, and no more is said. -/
def doneOutput : RestrictedAdapterEvent := ⟨"deploy.done", .object [("summary", .string "done")]⟩

/-- The deployment is done, with a route key that is a native signal. -/
def signallingOutput : RestrictedAdapterEvent := ⟨"deploy.done", .object [("route_key", .string "stopped")]⟩

/-- Reads one output for every length. -/
def readOutput (stdout : List UInt8) : Option RestrictedAdapterEvent :=
  some (if stdout.length = 1 then doneOutput else signallingOutput)

def plainEvent (output : RestrictedAdapterEvent) : IncomingEvent :=
  { kind := output.kind, channel := none, mention := none, format := none, template := none
    payload := output.payload }

def fixedDraw : SubscriptionDraw := ⟨"e", "c", "2026-01-01T00:00:00Z", "2026-01-01T00:00:00Z"⟩

def fixedStamp : Stamp := ⟨"u", "2026-01-01T00:00:00Z"⟩

theorem done_passes : adapterEvent readOutput [0] deployments = .ok (plainEvent doneOutput) := by
  have hkind : validEventKind "deploy.done" = true := by decide +kernel
  have hdepth : jsonDepth doneOutput.payload = 1 := rfl
  have hsafe : safePayload doneOutput.payload = true := by decide +kernel
  unfold adapterEvent
  rw [if_neg (by decide)]
  show (if !validEventKind "deploy.done" || !true || decide (8 < jsonDepth doneOutput.payload) ||
    !safePayload doneOutput.payload then _ else _) = _
  rw [hkind, hdepth, hsafe]
  rfl

theorem signalling_passes : adapterEvent readOutput [0, 0] deployments = .ok (plainEvent signallingOutput) := by
  have hkind : validEventKind "deploy.done" = true := by decide +kernel
  have hdepth : jsonDepth signallingOutput.payload = 1 := rfl
  have hsafe : safePayload signallingOutput.payload = true := by decide +kernel
  unfold adapterEvent
  rw [if_neg (by decide)]
  show (if !validEventKind "deploy.done" || !true || decide (8 < jsonDepth signallingOutput.payload) ||
    !safePayload signallingOutput.payload then _ else _) = _
  rw [hkind, hdepth, hsafe]
  rfl

/-- One output twice is routed alike. -/
theorem same_output_is_routed_alike : Unsteered deployments
    (dispatched deployments fixedDraw fixedStamp (plainEvent doneOutput))
    (dispatched deployments fixedDraw fixedStamp (plainEvent doneOutput)) :=
  (adapter_cannot_steer_iff readOutput deployments done_passes done_passes rfl fixedDraw fixedDraw fixedStamp
    fixedStamp).mpr (.inr (.inr rfl))

/-- A route key that the gate lets through turns a deployment into a stopped session. -/
theorem route_key_steers : ¬ ∀ (deserialize : List UInt8 → Option RestrictedAdapterEvent)
    (config : SubscriptionConfig) (stdout stdout' : List UInt8) (event event' : IncomingEvent),
    adapterEvent deserialize stdout config = .ok event →
    adapterEvent deserialize stdout' config = .ok event' → event.kind = event'.kind →
    ∀ (draw draw' : SubscriptionDraw) (stamp stamp' : Stamp),
      Unsteered config (dispatched config draw stamp event) (dispatched config draw' stamp' event') := by
  intro h
  have hsteered := h readOutput deployments [0] [0, 0] _ _ done_passes signalling_passes rfl fixedDraw
    fixedDraw fixedStamp fixedStamp
  have hkind : canonicalEventKind "deploy.done"
      (.object (putAll [("summary", .string "done")] (writtenFields deployments fixedDraw "deploy.done"))) =
      canonicalEventKind "deploy.done" (.object (putAll [("route_key", .string "stopped")]
        (writtenFields deployments fixedDraw "deploy.done"))) := by
    have heq := hsteered.kind
    rw [dispatched_eq (m := [("summary", .string "done")]) rfl,
      dispatched_eq (m := [("route_key", .string "stopped")]) rfl] at heq
    exact heq
  have hne : canonicalEventKind "deploy.done"
      (.object (putAll [("summary", .string "done")] (writtenFields deployments fixedDraw "deploy.done"))) ≠
      canonicalEventKind "deploy.done" (.object (putAll [("route_key", .string "stopped")]
        (writtenFields deployments fixedDraw "deploy.done"))) := by decide +kernel
  exact hne hkind

end Sample

end Clawhip.Subscription
