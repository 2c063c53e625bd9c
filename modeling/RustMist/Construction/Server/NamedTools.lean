import RustMist.Construction.Server.Arguments
import RustMist.Construction.Server.Tools
import RustMist.Construction.Server.Wan

/-! The tools that read one operation each, or one of a few that their selectors choose. -/

namespace RustMist

/-- The refusals that only the tools themselves make. -/
inductive ToolCallError where
  | call (error : MistCallError)
  | invalidSearch
  | ambiguousScope

def ToolCallError.toString : ToolCallError → String
  | .call error => error.toString
  | .invalidSearch =>
      "catalog search requires a 1-128 byte query and a result limit from 1 through 50"
  | .ambiguousScope => "exactly one of org_id or site_id is required"

structure NamedDispatch where
  operationId : String
  pathNames : List String
  capability : MistCapability

/-- A named tool has a record of arguments, and its record determines one operation. -/
structure NamedTool where
  name : String
  fields : List ArgField
  dispatch : ArgRecord → Except ToolCallError NamedDispatch

section Values

namespace ArgRecord

variable (record : ArgRecord)

def text (name : String) : Option String := (record.get name).asString

def mode : Wan.StatsMode := if record.text "mode" = some "count" then .count else .records

def impact : Wan.SleImpact :=
  if record.text "impact" = some "gateways" then .gateways
  else if record.text "impact" = some "applications" then .applications
  else .summary

def source : Wan.AppSource := if record.text "source" = some "site" then .site else .catalog

def object : WanObject :=
  ((record.text "object").bind fun name => IndexMap.get name WanObject.variants).getD .network

def scope : Option Wan.WanScope := Wan.resolveScope (record.text "org_id") (record.text "site_id")

end ArgRecord

/-- Gateway templates and device profiles are privileged. -/
def configCapability : WanObject → MistCapability
  | .gatewayTemplate | .deviceProfile => .privilegedRead
  | _ => .ordinaryRead

def Wan.Resolved.dispatch (resolved : Wan.Resolved) (capability : MistCapability) :
    NamedDispatch :=
  ⟨resolved.operationId, resolved.pathNames, capability⟩

/-- A tool of this kind refuses a record that does not name exactly one scope. -/
def dispatchScoped (record : ArgRecord) (dispatch : Wan.WanScope → NamedDispatch) :
    Except ToolCallError NamedDispatch :=
  match record.scope with
  | none => .error .ambiguousScope
  | some scope => .ok (dispatch scope)

end Values

section NamedTools

def getMistDevice : NamedTool where
  name := "get_mist_device"
  fields := siteDeviceArgs
  dispatch _ := .ok ⟨"getSiteDevice", ["site_id", "device_id"], .privilegedRead⟩

def getMistDeviceStats : NamedTool where
  name := "get_mist_device_stats"
  fields := deviceStatsArgs
  dispatch _ := .ok ⟨"getSiteDeviceStats", ["site_id", "device_id"], .ordinaryRead⟩

def getMistInsight : NamedTool where
  name := "get_mist_insight"
  fields := insightArgs
  dispatch _ := .ok ⟨"getSiteInsightMetrics", ["site_id"], .ordinaryRead⟩

def getMistRrm : NamedTool where
  name := "get_mist_rrm"
  fields := siteArgs
  dispatch _ := .ok ⟨"getSiteCurrentChannelPlanning", ["site_id"], .ordinaryRead⟩

def getMistSelf : NamedTool where
  name := "get_mist_self"
  fields := emptyArgs
  dispatch _ := .ok ⟨"getSelf", [], .privilegedRead⟩

def getMistSite : NamedTool where
  name := "get_mist_site"
  fields := siteArgs
  dispatch _ := .ok ⟨"getSiteInfo", ["site_id"], .ordinaryRead⟩

def getMistSle : NamedTool where
  name := "get_mist_sle"
  fields := sleArgs
  dispatch _ :=
    .ok ⟨"getSiteSleSummaryTrend", ["site_id", "scope", "scope_id", "metric"], .ordinaryRead⟩

def getMistSleImpact : NamedTool where
  name := "get_mist_sle_impact"
  fields := sleImpactArgs
  dispatch record := .ok ((Wan.sleImpact record.impact).dispatch .ordinaryRead)

def getMistWanEdgeStats : NamedTool where
  name := "get_mist_wan_edge_stats"
  fields := wanEdgeStatsArgs
  dispatch record :=
    .ok ((Wan.wanEdgeStats (record.text "device_id").isSome).dispatch .ordinaryRead)

def listMistApplications : NamedTool where
  name := "list_mist_applications"
  fields := applicationListArgs
  dispatch record :=
    if record.source = .site ∧ (record.text "site_id").isNone then .error .ambiguousScope
    else .ok ((Wan.applications record.source record.mode).dispatch .ordinaryRead)

def listMistRogues : NamedTool where
  name := "list_mist_rogues"
  fields := rogueArgs
  dispatch _ := .ok ⟨"listSiteRogueAPs", ["site_id"], .ordinaryRead⟩

def listMistSites : NamedTool where
  name := "list_mist_sites"
  fields := orgPageArgs
  dispatch _ := .ok ⟨"listOrgSites", ["org_id"], .ordinaryRead⟩

def listMistSleMetrics : NamedTool where
  name := "list_mist_sle_metrics"
  fields := sleMetricsArgs
  dispatch _ := .ok ⟨"listSiteSlesMetrics", ["site_id", "scope", "scope_id"], .ordinaryRead⟩

def listMistUpgrades : NamedTool where
  name := "list_mist_upgrades"
  fields := upgradeArgs
  dispatch _ := .ok ⟨"listSiteDeviceUpgrades", ["site_id"], .ordinaryRead⟩

def listMistWanConfig : NamedTool where
  name := "list_mist_wan_config"
  fields := wanConfigListArgs
  dispatch record :=
    dispatchScoped record fun scope =>
      (Wan.listConfig record.object scope).dispatch (configCapability record.object)

def listMistWanEdges : NamedTool where
  name := "list_mist_wan_edges"
  fields := wanEdgeListArgs
  dispatch record := dispatchScoped record fun scope => (Wan.wanEdges scope).dispatch .ordinaryRead

def listMistWlans : NamedTool where
  name := "list_mist_wlans"
  fields := sitePageArgs
  dispatch _ := .ok ⟨"listSiteWlans", ["site_id"], .privilegedRead⟩

def searchMistAlarms : NamedTool where
  name := "search_mist_alarms"
  fields := alarmSearchArgs
  dispatch record :=
    dispatchScoped record fun scope => (Wan.alarms scope record.mode).dispatch .ordinaryRead

def listMistAlarmDefinitions : NamedTool where
  name := "list_mist_alarm_definitions"
  fields := emptyArgs
  dispatch _ := .ok ⟨"listAlarmDefinitions", [], .ordinaryRead⟩

def searchMistAuditLogs : NamedTool where
  name := "search_mist_audit_logs"
  fields := auditSearchArgs
  dispatch _ := .ok ⟨"listOrgAuditLogs", ["org_id"], .privilegedRead⟩

def searchMistBgpPeers : NamedTool where
  name := "search_mist_bgp_peers"
  fields := bgpPeerSearchArgs
  dispatch record :=
    dispatchScoped record fun scope => (Wan.bgpPeers scope record.mode).dispatch .ordinaryRead

def searchMistClients : NamedTool where
  name := "search_mist_clients"
  fields := clientSearchArgs
  dispatch _ := .ok ⟨"searchSiteWirelessClients", ["site_id"], .ordinaryRead⟩

def searchMistEvents : NamedTool where
  name := "search_mist_events"
  fields := eventSearchArgs
  dispatch _ := .ok ⟨"searchSiteSystemEvents", ["site_id"], .ordinaryRead⟩

def searchMistInventory : NamedTool where
  name := "search_mist_inventory"
  fields := inventoryArgs
  dispatch _ := .ok ⟨"searchOrgInventory", ["org_id"], .ordinaryRead⟩

def searchMistPeerPaths : NamedTool where
  name := "search_mist_peer_paths"
  fields := peerPathSearchArgs
  dispatch record := .ok ((Wan.peerPaths record.mode).dispatch .ordinaryRead)

def searchMistServicePathEvents : NamedTool where
  name := "search_mist_service_path_events"
  fields := servicePathEventArgs
  dispatch record := .ok ((Wan.servicePathEvents record.mode).dispatch .ordinaryRead)

def searchMistTunnels : NamedTool where
  name := "search_mist_tunnels"
  fields := tunnelSearchArgs
  dispatch record := .ok ((Wan.tunnels record.mode).dispatch .ordinaryRead)

def troubleshootMist : NamedTool where
  name := "troubleshoot_mist"
  fields := troubleshootArgs
  dispatch _ := .ok ⟨"listSiteTroubleshootCalls", ["site_id"], .ordinaryRead⟩

def namedTools : List NamedTool :=
  [getMistDevice, getMistDeviceStats, getMistInsight, getMistRrm, getMistSelf, getMistSite,
    getMistSle, getMistSleImpact, getMistWanEdgeStats, listMistAlarmDefinitions,
    listMistApplications, listMistRogues, listMistSites, listMistSleMetrics, listMistUpgrades,
    listMistWanConfig, listMistWanEdges, listMistWlans, searchMistAlarms, searchMistAuditLogs,
    searchMistBgpPeers, searchMistClients, searchMistEvents, searchMistInventory,
    searchMistPeerPaths, searchMistServicePathEvents, searchMistTunnels, troubleshootMist]

end NamedTools

section Programs

variable [ServerPlatform] (handler : MistHandler) (caller : Option CallerCtx)

def refuseTool (error : ToolCallError) : MistProgram ToolOutcome :=
  pure (.ok (toolResult (.error error.toString)))

/-- Arguments that do not fit the record of the tool are refused before the tool runs. -/
def invalidArguments (reason : String) : MistProgram ToolOutcome :=
  pure (.error ⟨"failed to deserialize parameters: " ++ reason⟩)

def NamedTool.program (tool : NamedTool) (arguments : Json.Value) : MistProgram ToolOutcome :=
  match readArgs tool.fields arguments.val.members with
  | .error reason => invalidArguments reason
  | .ok record =>
      match tool.dispatch record with
      | .error error => refuseTool error
      | .ok resolved =>
          succeed (dispatchNamed handler tool.name resolved.operationId record.toJson
            resolved.pathNames resolved.capability caller)

/-- This tool builds its path from its argument. -/
def getMistOrg (arguments : Json.Value) : MistProgram ToolOutcome :=
  match readArgs getOrgArgs arguments.val.members with
  | .error reason => invalidArguments reason
  | .ok record =>
      succeed (dispatchCataloguedRead handler {
        tool := "get_mist_org"
        operationId := "getOrg"
        path := (∅ : PathValues).insert "org_id" ((record.text "org_id").getD "")
        query := ∅
        cursor := none
        capability := .ordinaryRead
        redactOutput := true } caller)

/-- This tool sends the identifier of the object under the name of its path parameter. -/
def getMistWanConfig (arguments : Json.Value) : MistProgram ToolOutcome :=
  match readArgs wanConfigGetArgs arguments.val.members with
  | .error reason => invalidArguments reason
  | .ok record =>
      let path := (∅ : PathValues).insert "org_id" ((record.text "org_id").getD "")
      succeed (dispatchCataloguedRead handler {
        tool := "get_mist_wan_config"
        operationId := (Wan.getConfig record.object).operationId
        path := path.insert (Wan.objectIdName record.object) ((record.text "object_id").getD "")
        query := ∅
        cursor := none
        capability := configCapability record.object
        redactOutput := true } caller)

end Programs

end RustMist
