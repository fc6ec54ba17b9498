import Clawhip.Events.Constructors
import Clawhip.Lib.Machine

/-!
# The platform status monitor

`src/source/github_status.rs`: every poll compares the watched components and incidents of a summary with
those of the one before, which it then replaces.
-/

namespace Clawhip.Platform

def DEFAULT_PAGE_URL : String := "https://www.githubstatus.com"

/-- `GitHubStatusMonitorConfig`, as far as a poll reads it. -/
structure GitHubStatusMonitorConfig where
  enabled : Bool := false
  components : List String := ["Actions"]
  channel : Option String := none
  mention : Option String := none
  format : Option MessageFormat := none

structure ComponentEntry where
  name : String := ""
  status : String := ""

structure IncidentUpdateEntry where
  id : String
  status : String := ""
  body : String := ""

structure IncidentEntry where
  id : String
  name : String := ""
  status : String := ""
  impact : String := ""
  shortlink : Option String := none
  components : List ComponentEntry := []
  incident_updates : List IncidentUpdateEntry := []

/-- `SummaryResponse`, with the URL of its page. -/
structure SummaryResponse where
  page_url : Option String := none
  components : List ComponentEntry := []
  incidents : List IncidentEntry := []

structure IncidentSnapshot where
  name : String
  status : String
  impact : String
  shortlink : Option String
  last_update_id : Option String
  last_update_status : Option String
  last_update_body : Option String
  affected_components : List String

structure MonitorState where
  baseline_established : Bool := false
  components : OrdMap String String := []
  incidents : OrdMap String IncidentSnapshot := []

/-! ## What is watched -/

def normalizeStatus (value : String) : String := Text.toAsciiLowercase (Text.trim value)

def watchedComponentSet (monitor : GitHubStatusMonitorConfig) : List String :=
  (monitor.components.map Text.trim).filter fun name => !name.isEmpty

def watchedComponentStatuses (components : List ComponentEntry) (watched : List String) :
    OrdMap String String :=
  components.foldl (fun out component => let name := Text.trim component.name
    if name.isEmpty || !watched.contains name then out
    else OrdMap.insert out name (normalizeStatus component.status)) []

/-- The snapshot of an incident that affects some watched components. -/
def IncidentEntry.snapshot (incident : IncidentEntry) (affected : List String) : IncidentSnapshot :=
  let latest := incident.incident_updates.head?
  { name := Text.trim incident.name
    status := normalizeStatus incident.status
    impact := normalizeStatus incident.impact
    shortlink := Text.nonblank incident.shortlink
    last_update_id := latest.map IncidentUpdateEntry.id
    last_update_status := latest.map fun update => normalizeStatus update.status
    last_update_body := Text.nonblank (latest.map IncidentUpdateEntry.body)
    affected_components := affected }

def watchedIncidents (incidents : List IncidentEntry) (watched : List String) :
    OrdMap String IncidentSnapshot :=
  incidents.foldl (fun out incident =>
    let affected := (incident.components.map fun component => Text.trim component.name).filter
      fun name => !name.isEmpty && watched.contains name
    if affected.isEmpty then out
    else OrdMap.insert out incident.id (incident.snapshot affected)) []

/-! ## Events -/

def isActionableComponentStatus (status : String) : Bool :=
  status == "degraded_performance" || status == "partial_outage" || status == "major_outage" ||
    status == "under_maintenance"

def shouldEmitComponentTransition (old_status new_status : String) : Bool :=
  if old_status = new_status then false
  else
    isActionableComponentStatus new_status ||
      (isActionableComponentStatus old_status && new_status == "operational")

section

variable (monitor : GitHubStatusMonitorConfig) (page_url : String)

/-- An event with the mention and the format of the monitor. -/
def decorated (event : IncomingEvent) : IncomingEvent :=
  { event with mention := monitor.mention, format := monitor.format }

/-- The event of a component that went from one status to another. -/
def statusEvent (name old_status new_status : String) : IncomingEvent :=
  decorated monitor
    (.githubActionsStatus monitor.channel name old_status new_status page_url)

def incidentEvent (incident_id : String) (incident : IncidentSnapshot) (change : String)
    (old_status : Option String) : IncomingEvent :=
  decorated monitor
    (.githubActionsIncident monitor.channel incident_id incident.name incident.status incident.impact
      change old_status incident.last_update_id incident.last_update_status incident.last_update_body
      incident.affected_components (incident.shortlink.getD page_url))

/-- What is emitted of a component that a summary lists. -/
def componentEvents (previous : OrdMap String String) (component : String × String) :
    List IncomingEvent :=
  let (name, new_status) := component
  match previous.get name with
  | some old_status =>
    if old_status = new_status then []
    else if shouldEmitComponentTransition old_status new_status then
      [statusEvent monitor page_url name old_status new_status]
    else []
  | none =>
    if isActionableComponentStatus new_status then
      [statusEvent monitor page_url name "unknown" new_status]
    else []

/-- What is emitted of an incident that a summary lists. -/
def incidentEvents (previous : OrdMap String IncidentSnapshot) (incident : String × IncidentSnapshot) :
    List IncomingEvent :=
  let (id, current) := incident
  match previous.get id with
  | none => [incidentEvent monitor page_url id current "opened" none]
  | some old =>
    if old.status ≠ current.status ∨ old.last_update_id ≠ current.last_update_id ∨ old.impact ≠ current.impact then
      [incidentEvent monitor page_url id current "updated" (some old.status)]
    else []

/-- What is emitted of an incident that was there: it is resolved if it is not listed. -/
def resolvedEvents (current : OrdMap String IncidentSnapshot) (incident : String × IncidentSnapshot) :
    List IncomingEvent :=
  let (id, previous) := incident
  if (current.get id).isSome then []
  else [incidentEvent monitor page_url id { previous with status := "resolved" } "resolved"
    (some previous.status)]

def collectEvents (previous : MonitorState) (current_components : OrdMap String String)
    (current_incidents : OrdMap String IncidentSnapshot) : List IncomingEvent :=
  current_components.flatMap (componentEvents monitor page_url previous.components) ++
    (current_incidents.flatMap (incidentEvents monitor page_url previous.incidents) ++
      previous.incidents.flatMap (resolvedEvents monitor page_url current_incidents))

end

/-! ## Polls -/

def SummaryResponse.pageUrl (summary : SummaryResponse) : String :=
  (Text.nonblank summary.page_url).getD DEFAULT_PAGE_URL

/-- What `fetch_summary` came to. -/
abbrev Fetched := Except String SummaryResponse

def pollOnce (monitor : GitHubStatusMonitorConfig) (state : MonitorState)
    (fetched : Fetched) : MonitorState × List IncomingEvent :=
  if monitor.enabled = false then (state, [])
  else
    match fetched with
    | .error _ => (state, [])
    | .ok summary =>
      let watched := watchedComponentSet monitor
      let current_components := watchedComponentStatuses summary.components watched
      let current_incidents := watchedIncidents summary.incidents watched
      let events :=
        if !state.baseline_established then []
        else collectEvents monitor summary.pageUrl state current_components current_incidents
      ({ baseline_established := true, components := current_components
         incidents := current_incidents }, events)

def polling (monitor : GitHubStatusMonitorConfig) :
    Machine MonitorState Fetched (List IncomingEvent) where
  step := pollOnce monitor

/-- The state after some polls. -/
def polled (monitor : GitHubStatusMonitorConfig) (fetches : List Fetched) : MonitorState :=
  (polling monitor).run {} fetches

/-- What the poll emits that comes after some polls. -/
def emittedAfter (monitor : GitHubStatusMonitorConfig) (earlier : List Fetched) (fetched : Fetched) :
    List IncomingEvent :=
  (pollOnce monitor (polled monitor earlier) fetched).2

end Clawhip.Platform
