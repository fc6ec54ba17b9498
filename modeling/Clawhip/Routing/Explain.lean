import Clawhip.Routing.Config
import Clawhip.Lib.Outcome

/-!
# Resolving and explaining

`Router::resolve` and `Router::explain` of `src/router.rs`: the deliveries of an event, and the account
of them that an operator can ask for. Both go over the same matched routes, but `resolve` gives up at
the first route without a target, and `explain` leaves that route out. `explain_agrees_iff` says when
the account is right.
-/

namespace Clawhip.Router

open List

/-! ## Matching -/

/-- The loop of `glob_match` over the parts between the wildcards, of which the last one is `last`. -/
def globParts (starts ends : Bool) (last : ℕ) : ℕ → List (List Char) → List Char → Bool
  | _, [], remainder => ends || remainder.isEmpty
  | index, part :: parts, remainder =>
    if part.isEmpty then globParts starts ends last (index + 1) parts remainder
    else if index == 0 && !starts then
      if part.isPrefixOf remainder then
        globParts starts ends last (index + 1) parts (remainder.drop part.length)
      else false
    else if index == last && !ends then part.isSuffixOf remainder
    else match Text.afterGo part remainder with
      | some rest => globParts starts ends last (index + 1) parts rest
      | none => false

def globMatch (pattern value : String) : Bool :=
  if pattern == value then true
  else if !Text.contains pattern "*" then false
  else
    let parts := (Text.split pattern "*").map String.toList
    globParts (Text.startsWith pattern "*") (Text.endsWith pattern "*") (parts.length - 1) 0 parts
      value.toList

def routeCandidates (kind : String) : List String :=
  match kind with
  | "git.commit" => ["git.commit", "github.commit"]
  | "git.branch-changed" => ["git.branch-changed", "github.branch-changed"]
  | "agent.started" | "agent.blocked" | "agent.finished" | "agent.failed" =>
    [kind, "agent.*", "session.*"]
  | "session.started" | "session.blocked" | "session.finished" | "session.failed"
  | "session.endpoint-failed" | "session.stalled" => [kind, "session.*", "agent.*"]
  | "workflow.question" | "workflow.gate" => [kind, "workflow.*"]
  | "session.retry-needed" | "session.pr-created" | "session.test-started"
  | "session.test-finished" | "session.test-failed" | "session.handoff-needed" =>
    [kind, "session.*"]
  | other => [other]

def routeMatches (route : RouteRule) (canonical_kind : String) (context : OrdMap String String) :
    Bool :=
  (routeCandidates canonical_kind).any (fun candidate => globMatch route.event candidate) &&
    List.all route.filter fun (key, expected) =>
      (context.get key).any fun actual => globMatch expected actual

/-- A key of the context has a value that is not blank. -/
def hasValue (context : OrdMap String String) (key : String) : Bool :=
  (context.get key).any fun value => !(Text.trim value).isEmpty

def prefersMetadataFirstRouting (canonical_kind : String) (context : OrdMap String String) : Bool :=
  (Text.startsWith canonical_kind "session." || Text.startsWith canonical_kind "tmux.") &&
    ["project", "repo_name", "repo_path", "worktree_path", "session_id"].any (hasValue context)

def routeUsesSessionNamePrefixHeuristics (route : RouteRule) : Bool :=
  !List.isEmpty route.filter && List.all route.filter fun (key, expected) =>
    (key == "session" || key == "session_name") && Text.contains expected "*"

def routeSpecificityScore (route : RouteRule) (context : OrdMap String String) : ℕ :=
  let filters (key : String) : Bool := (route.filter.get key).isSome && hasValue context key
  let path_rank :=
    if filters "worktree_path" then 3
    else if filters "repo_path" then 2
    else if filters "repo_name" then 1
    else 0
  path_rank * 100 + List.length route.filter

/-- A route with its position in the configuration. -/
abbrev PlacedRoute := RouteRule × ℕ

/-- `matching_routes_for`; a route is followed by its position, which identifies it. -/
def matchingRoutesFor (routes : List RouteRule) (canonical_kind : String)
    (context : OrdMap String String) : List PlacedRoute :=
  let prefer_metadata := prefersMetadataFirstRouting canonical_kind context
  let matched := routes.zipIdx.filter fun (route, _) => routeMatches route canonical_kind context
  let (heuristic, preferred) := matched.partition fun (route, _) =>
    prefer_metadata && routeUsesSessionNamePrefixHeuristics route
  let sorted (routes : List PlacedRoute) : List PlacedRoute :=
    routes.mergeSort fun left right =>
      decide (routeSpecificityScore right.1 context ≤ routeSpecificityScore left.1 context)
  if prefer_metadata then sorted preferred else sorted preferred ++ sorted heuristic

def isSubscriptionEvent (event : IncomingEvent) : Bool :=
  (event.payload.get "subscription_transport").bind Json.asStr == some "websocket"

/-! ## Deliveries -/

section Deliveries

variable (lib : Libraries) (config : AppConfig) (event : IncomingEvent)

def redactedUrlFingerprint (url : String) : String :=
  let host := do
    let parsed ← lib.parseUrl url
    let host ← parsed.host_str
    let host := if Text.contains host ":" then "[" ++ host ++ "]" else host
    return match parsed.port with
      | some port => host ++ ":" ++ toString port
      | none => host
  host.getD "unknown-host" ++ "/redacted/" ++ Text.hex16 (Text.fnv1a64 url)

def safeTargetId : SinkTarget → String
  | .discordChannel channel_id => "discord:channel:" ++ channel_id
  | .discordThread thread_id => "discord:thread:redacted:" ++ Text.hex16 (Text.fnv1a64 thread_id)
  | .discordWebhook webhook_url => "discord:webhook:" ++ redactedUrlFingerprint lib webhook_url
  | .slackWebhook webhook_url => "slack:webhook:" ++ redactedUrlFingerprint lib webhook_url
  | .httpEndpoint endpoint => "http:endpoint:" ++ redactedUrlFingerprint lib endpoint
  | .localFile path => "localfile:" ++ Text.hex16 (Text.fnv1a64 path)

def allowDynamicTokensFor (route : Option RouteRule) : Bool :=
  match route with
  | some route => route.allow_dynamic_tokens
  | none =>
    match if event.canonicalKind == "custom" then event.channel else none with
    | some channel => config.routes.any fun route =>
        route.allow_dynamic_tokens && route.channel == some channel
    | none => false

def resolveDelivery (route : Option RouteRule) (matched_route_index : Option ℕ) :
    Except String ResolvedDelivery := do
  let sink := (route.map RouteRule.effectiveSink).getD defaultSinkName
  let target ← targetFor config event route sink
  let format := (event.format.or (route.bind RouteRule.format)).getD config.defaults.format
  let trace : RouteTrace := {
    result :=
      if route.isSome then .matched
      else if config.defaults.channel.isSome then .fallback
      else .none
    matched_route_index
    event_pattern := route.map RouteRule.event
    filter_keys := (route.map fun route => route.filter.keys).getD []
    target := safeTargetId lib target }
  return {
    sink
    target
    format
    mention := (route.bind RouteRule.mention).or event.mention
    template := event.template.or (route.bind RouteRule.template)
    allow_dynamic_tokens := allowDynamicTokensFor config event route
    trace }

/-- The routes that an event matches. -/
def matchedRoutes : List PlacedRoute := matchingRoutesFor config.routes event.canonicalKind event.templateContext

def resolve : Except String (List ResolvedDelivery) :=
  let matched_routes := matchedRoutes config event
  if matched_routes.isEmpty then
    if isSubscriptionEvent event then .error "no configured route for subscription event"
    else do
      let delivery ← resolveDelivery lib config event none none
      return [delivery]
  else matched_routes.mapM fun (route, index) =>
    resolveDelivery lib config event (some route) (some index)

/-! ## The account -/

structure FilterResult where
  key : String
  pattern : String
  actual : Option String
  matched : Bool

structure RouteExplanation where
  route_index : ℕ
  event_pattern : String
  matched : Bool
  pattern_matched : Bool
  filter_results : List FilterResult

structure DeliveryExplanation where
  sink : String
  target : String
  channel : Option String
  format : String
  mention : Option String
  template : Option String
  matched_route_index : Option ℕ

structure Provenance where
  event_kind : String
  canonical_kind : String
  route_candidates : List String
  routes : List RouteExplanation
  deliveries : List DeliveryExplanation

def deliveryExplanation (delivery : ResolvedDelivery) (matched_route_index : Option ℕ) :
    DeliveryExplanation where
  sink := delivery.sink
  target := match delivery.target with
    | .discordChannel name => "DiscordChannel(" ++ lib.debug name ++ ")"
    | target => safeTargetId lib target
  channel := match delivery.target with
    | .discordChannel name => some name
    | _ => none
  format := delivery.format.asStr
  mention := delivery.mention
  template := delivery.template
  matched_route_index := matched_route_index

/-- What `explain` says of one route. -/
def routeExplanation (candidates : List String) (context : OrdMap String String) (index : ℕ)
    (route : RouteRule) : RouteExplanation :=
  let pattern_matched := candidates.any fun candidate => globMatch route.event candidate
  let filter_results := List.map (fun (key, expected) => let actual := context.get key
    { key, pattern := expected, actual, matched := actual.any fun a => globMatch expected a })
    route.filter
  { route_index := index
    event_pattern := route.event
    matched := pattern_matched &&
      (filter_results.isEmpty || filter_results.all FilterResult.matched)
    pattern_matched
    filter_results }

/-- The deliveries of `explain`. -/
def explainDeliveries : List DeliveryExplanation :=
  let ordered_matched := matchedRoutes config event
  if ordered_matched.isEmpty then
    if isSubscriptionEvent event then []
    else match resolveDelivery lib config event none none with
      | .ok d => [deliveryExplanation lib d none]
      | .error _ => []
  else ordered_matched.filterMap fun (route, index) =>
    match resolveDelivery lib config event (some route) (some index) with
    | .ok d => some (deliveryExplanation lib d (some index))
    | .error _ => none

def explain : Provenance :=
  let canonical_kind := event.canonicalKind
  let candidates := routeCandidates canonical_kind
  { event_kind := event.kind
    canonical_kind
    route_candidates := candidates
    routes := config.routes.zipIdx.map fun (route, index) =>
      routeExplanation candidates event.templateContext index route
    deliveries := explainDeliveries lib config event }

end Deliveries

/-! ## Agreement -/

section Agreement

variable {lib : Libraries} {config : AppConfig} {event : IncomingEvent}

/-- The account lists the deliveries that are made, and lists none exactly where resolving fails. -/
structure Agrees (lib : Libraries) (config : AppConfig) (event : IncomingEvent) : Prop where
  deliveries : ∀ deliveries, resolve lib config event = .ok deliveries →
    (explain lib config event).deliveries = deliveries.map fun delivery =>
      deliveryExplanation lib delivery delivery.trace.matched_route_index
  failed : (explain lib config event).deliveries = [] ↔ ∃ e, resolve lib config event = .error e

/-- An event has somewhere to go by a route exactly if the route's fields or the fallbacks say so. -/
theorem targetFor_isOk (route : RouteRule) :
    (targetFor config event (some route) route.effectiveSink).isOk = hasTarget config event route := by
  unfold targetFor hasTarget
  dsimp only [Option.bind_some]
  split
  · -- A Discord route: the webhook, a custom event's channel, the thread, then the channels.
    cases hwebhook : route.discordWebhookTarget with
    | some webhook => rfl
    | none =>
      dsimp only
      split
      · rename_i channel hcustom
        have hchannel : event.channel = some channel := by
          split_ifs at hcustom
          exact hcustom
        rw [hchannel]
        simp [Except.isOk, Except.toBool]
      · cases hthread : route.discordThreadTarget with
        | some thread => rfl
        | none =>
          cases route.channel with
          | some channel => rfl
          | none =>
            cases event.channel with
            | some channel => rfl
            | none => cases config.defaults.channel <;> rfl
  · cases route.slackWebhookTarget <;> rfl
  · cases config.http.endpointText <;> rfl
  · cases route.localFileTarget <;> rfl
  · rfl

/-- A delivery remembers the position of its route. -/
theorem index_resolveDelivery {route : Option RouteRule} {index : Option ℕ}
    {delivery : ResolvedDelivery} (h : resolveDelivery lib config event route index = .ok delivery) :
    delivery.trace.matched_route_index = index := by
  obtain ⟨target, -, h⟩ := bind_eq_ok.mp h
  rw [← Except.ok.inj h]

variable {route : RouteRule}

theorem resolveDelivery_of_hasTarget (h : hasTarget config event route = true)
    (index : Option ℕ) : ∃ delivery, resolveDelivery lib config event (some route) index = .ok delivery := by
  rw [← targetFor_isOk] at h
  cases htarget : targetFor config event (some route) route.effectiveSink with
  | error e =>
    rw [htarget] at h
    cases h
  | ok target => exact ⟨_, bind_eq_ok.mpr ⟨target, htarget, rfl⟩⟩

/-- By a route without a target there is none. -/
theorem resolveDelivery_of_not_hasTarget (h : hasTarget config event route = false)
    (index : Option ℕ) : ∃ e, resolveDelivery lib config event (some route) index = .error e := by
  cases hdelivery : resolveDelivery lib config event (some route) index with
  | error e => exact ⟨e, rfl⟩
  | ok delivery =>
    obtain ⟨target, htarget, -⟩ := bind_eq_ok.mp hdelivery
    have hok : (targetFor config event (some route) route.effectiveSink).isOk = true := by
      have hsink : ((some route).map RouteRule.effectiveSink).getD defaultSinkName = route.effectiveSink := rfl
      rw [← hsink, htarget]
      rfl
    rw [targetFor_isOk, h] at hok
    cases hok

section Routes

variable {routes : List PlacedRoute}

/-- Where every route has a target, resolving gives what the account lists. -/
theorem mapM_of_hasTarget (h : ∀ r ∈ routes, hasTarget config event r.1 = true) :
    ∃ deliveries, routes.mapM (fun (route, index) =>
        resolveDelivery lib config event (some route) (some index)) = .ok deliveries ∧
      (routes.filterMap fun (route, index) =>
        match resolveDelivery lib config event (some route) (some index) with
        | .ok d => some (deliveryExplanation lib d (some index))
        | .error _ => none) = deliveries.map fun delivery =>
          deliveryExplanation lib delivery delivery.trace.matched_route_index := by
  induction routes with
  | nil => exact ⟨[], rfl, rfl⟩
  | cons r routes ih =>
    obtain ⟨deliveries, hmapM, hlisted⟩ := ih fun r hr => h r (mem_cons_of_mem _ hr)
    obtain ⟨route, index⟩ := r
    obtain ⟨delivery, hdelivery⟩ := @resolveDelivery_of_hasTarget lib _ _ _ (h _ mem_cons_self) (some index)
    refine ⟨delivery :: deliveries, ?_, ?_⟩
    · rw [mapM_cons]
      exact bind_eq_ok.mpr ⟨_, hdelivery, bind_eq_ok.mpr ⟨_, hmapM, rfl⟩⟩
    · rw [map_cons, index_resolveDelivery hdelivery, ← hlisted, filterMap_cons]
      dsimp only
      rw [hdelivery]

/-- A route without a target makes resolving fail. -/
theorem mapM_of_not_hasTarget {r : PlacedRoute} (hr : r ∈ routes) (h : hasTarget config event r.1 = false) :
    ∃ e, routes.mapM (fun (route, index) => resolveDelivery lib config event (some route) (some index)) = .error e := by
  cases hmapM : routes.mapM (fun (route, index) => resolveDelivery lib config event (some route) (some index)) with
  | error e => exact ⟨e, rfl⟩
  | ok deliveries =>
    obtain ⟨route, index⟩ := r
    obtain ⟨delivery, hdelivery⟩ := ok_of_mem_mapM hmapM hr
    obtain ⟨e, herror⟩ := @resolveDelivery_of_not_hasTarget lib _ _ _ h (some index)
    dsimp only at hdelivery
    rw [herror] at hdelivery
    cases hdelivery

/-- The account lists no delivery exactly if no route has a target. -/
theorem listed_eq_nil_iff : (routes.filterMap fun (route, index) =>
      match resolveDelivery lib config event (some route) (some index) with
      | .ok d => some (deliveryExplanation lib d (some index))
      | .error _ => none) = [] ↔ ∀ r ∈ routes, hasTarget config event r.1 = false := by
  rw [filterMap_eq_nil_iff]
  refine forall₂_congr fun r _ => ?_
  obtain ⟨route, index⟩ := r
  dsimp only
  cases htarget : hasTarget config event route with
  | true =>
    obtain ⟨delivery, hdelivery⟩ := @resolveDelivery_of_hasTarget lib _ _ _ htarget (some index)
    rw [hdelivery]
    simp
  | false =>
    obtain ⟨e, herror⟩ := @resolveDelivery_of_not_hasTarget lib _ _ _ htarget (some index)
    rw [herror]
    simp

end Routes

/-- A matched route with a target beside one without makes the account wrong. -/
theorem not_agrees_of_mixed {r r' : PlacedRoute} (hr : r ∈ matchedRoutes config event)
    (hr' : r' ∈ matchedRoutes config event) (htarget : hasTarget config event r.1 = true)
    (hnone : hasTarget config event r'.1 = false) : ¬ Agrees lib config event := by
  intro hagrees
  have hempty : (matchedRoutes config event).isEmpty = false := by
    cases hroutes : matchedRoutes config event with
    | nil => exact absurd (hroutes ▸ hr) not_mem_nil
    | cons => rfl
  have hfailed : ∃ e, resolve lib config event = .error e := by
    unfold resolve
    dsimp only
    rw [hempty]
    exact mapM_of_not_hasTarget hr' hnone
  have hlisted : (explain lib config event).deliveries = [] := hagrees.failed.mpr hfailed
  have hdeliveries : explainDeliveries lib config event = [] := hlisted
  unfold explainDeliveries at hdeliveries
  dsimp only at hdeliveries
  rw [hempty] at hdeliveries
  have hall := listed_eq_nil_iff.mp hdeliveries r hr
  rw [htarget] at hall
  cases hall

/-- The account agrees with resolving exactly if every matched route has a target or none has. -/
theorem explain_agrees_iff (lib : Libraries) (config : AppConfig) (event : IncomingEvent) :
    Agrees lib config event ↔ (∀ r ∈ matchedRoutes config event, hasTarget config event r.1 = true) ∨
        ∀ r ∈ matchedRoutes config event, hasTarget config event r.1 = false := by
  constructor
  · intro hagrees
    by_cases hall : ∀ r ∈ matchedRoutes config event, hasTarget config event r.1 = true
    · exact .inl hall
    · refine .inr fun r hr => ?_
      by_contra htarget
      refine hall fun r' hr' => ?_
      by_contra hnone
      exact not_agrees_of_mixed hr hr' (by simpa using htarget) (by simpa using hnone) hagrees
  · intro huniform
    have hexplain : (explain lib config event).deliveries = explainDeliveries lib config event := rfl
    cases hempty : (matchedRoutes config event).isEmpty with
    | true =>
      -- Nothing matched: a subscription's event goes nowhere, and any other one to the fallback.
      cases hsubscription : isSubscriptionEvent event with
      | true => constructor <;> simp [hexplain, resolve, explainDeliveries, hempty, hsubscription]
      | false =>
        cases hdelivery : resolveDelivery lib config event none none with
        | error e =>
          have hresolve : resolve lib config event = .error e := by
            unfold resolve
            dsimp only
            rw [hempty, hsubscription, hdelivery]
            rfl
          constructor <;> simp [hexplain, hresolve, explainDeliveries, hempty, hsubscription, hdelivery]
        | ok delivery =>
          have hresolve : resolve lib config event = .ok [delivery] := by
            unfold resolve
            dsimp only
            rw [hempty, hsubscription, hdelivery]
            rfl
          have hindex : delivery.trace.matched_route_index = none := index_resolveDelivery hdelivery
          constructor <;> simp [hexplain, hresolve, explainDeliveries, hempty, hsubscription, hdelivery, hindex]
    | false =>
      obtain ⟨r, hr⟩ := exists_mem_of_ne_nil _ (isEmpty_eq_false_iff.mp hempty)
      have hresolve : resolve lib config event = (matchedRoutes config event).mapM
          fun (route, index) => resolveDelivery lib config event (some route) (some index) := by
        unfold resolve
        dsimp only
        rw [hempty]
        rfl
      have hlisted : (explain lib config event).deliveries =
          (matchedRoutes config event).filterMap fun (route, index) =>
            match resolveDelivery lib config event (some route) (some index) with
            | .ok d => some (deliveryExplanation lib d (some index))
            | .error _ => none := by
        rw [hexplain]
        unfold explainDeliveries
        dsimp only
        rw [hempty]
        rfl
      rcases huniform with hall | hnone
      · obtain ⟨deliveries, hmapM, hmap⟩ := @mapM_of_hasTarget lib _ _ _ hall
        rw [hmapM] at hresolve
        constructor
        · intro deliveries' h
          rw [hresolve] at h
          rw [hlisted, hmap, Except.ok.inj h]
        · rw [hlisted, listed_eq_nil_iff, hresolve]
          have htarget := hall r hr
          refine iff_of_false (fun h => ?_) (by simp)
          rw [h r hr] at htarget
          cases htarget
      · obtain ⟨e, herror⟩ := @mapM_of_not_hasTarget lib _ _ _ _ hr (hnone r hr)
        rw [herror] at hresolve
        constructor
        · intro deliveries h
          rw [hresolve] at h
          cases h
        · rw [hlisted, listed_eq_nil_iff]
          exact iff_of_true hnone ⟨e, hresolve⟩

/-- The routes that an event matches, without their order. -/
theorem mem_matchedRoutes {r : PlacedRoute} : r ∈ matchedRoutes config event ↔ r ∈ config.routes.zipIdx ∧
      routeMatches r.1 event.canonicalKind event.templateContext = true ∧
      ¬ (prefersMetadataFirstRouting event.canonicalKind event.templateContext = true ∧
        routeUsesSessionNamePrefixHeuristics r.1 = true) := by
  unfold matchedRoutes matchingRoutesFor
  cases hprefer : prefersMetadataFirstRouting event.canonicalKind event.templateContext with
  | true =>
    simp only [partition_eq_filter_filter, ↓reduceIte, mem_mergeSort, mem_filter]
    simp [and_assoc]
  | false => simp [mem_mergeSort]

end Agreement

/-! ## Two routes for one event -/

namespace Sample

/-- Commits go to a channel. -/
def toOps : RouteRule where
  event := "git.commit"
  filter := []
  sink := "discord"
  channel := some "ops"
  thread := none
  webhook := none
  slack_webhook := none
  local_path := none
  mention := none
  allow_dynamic_tokens := false
  format := none
  template := none
  gajae := none

/-- Commits go to the event's own channel. -/
def toOwn : RouteRule := { toOps with channel := none }

/-- Both routes, and no default channel. -/
def bothRoutes : AppConfig := ⟨⟨none, .compact⟩, ⟨none, none⟩, [toOps, toOwn]⟩

/-- A commit that names no channel. -/
def commit : IncomingEvent where
  kind := "git.commit"
  channel := none
  mention := none
  format := none
  template := none
  payload := .object [("repo", .string "clawhip")]

/-- The libraries, for texts that need no escapes. -/
def libraries : Libraries := ⟨fun _ => none, fun _ => false, fun s => String.ofList (Json.quote s)⟩

/-- The configuration is accepted, and the account of a commit lists a delivery that is not made. -/
theorem commit_explained_but_not_sent :
    bothRoutes.validate libraries = .ok () ∧ ¬ Agrees libraries bothRoutes commit := by
  have hmatched : ∀ r ∈ [(toOps, 0), (toOwn, 1)], r ∈ matchedRoutes bothRoutes commit := by
    intro r hr
    refine mem_matchedRoutes.mpr ⟨hr, ?_, ?_⟩
    · rcases mem_cons.mp hr with rfl | hr
      · rfl
      · rw [mem_singleton.mp hr]
        rfl
    · exact fun h => absurd h.1 (by decide)
  refine ⟨rfl, not_agrees_of_mixed (hmatched _ mem_cons_self)
    (hmatched _ (mem_cons_of_mem _ mem_cons_self)) ?_ ?_⟩
  · rfl
  · rfl

end Sample

end Clawhip.Router
