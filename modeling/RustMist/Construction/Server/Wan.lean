import RustMist.Construction.Server.WanWrite

/-! The operations among which the selectors of the WAN edge tools choose. -/

namespace RustMist.Wan

inductive WanScope where
  | org
  | site
deriving DecidableEq, Repr

inductive StatsMode where
  | records
  | count
deriving DecidableEq, Repr

/-- The operation of a call and the names that it carries in its path. -/
structure Resolved where
  operationId : String
  pathNames : List String
deriving DecidableEq, Repr

/-- Exactly one of the two identifiers is given. -/
def resolveScope (orgId siteId : Option String) : Option WanScope :=
  match orgId, siteId with
  | some _, none => some .org
  | none, some _ => some .site
  | _, _ => none

def WanScope.pathName : WanScope → String
  | .org => "org_id"
  | .site => "site_id"

def wanEdges : WanScope → Resolved
  | .org => ⟨"searchOrgDevices", ["org_id"]⟩
  | .site => ⟨"searchSiteDevices", ["site_id"]⟩

def wanEdgeStats (perDevice : Bool) : Resolved :=
  if perDevice then ⟨"getSiteInsightMetricsForGateway", ["site_id", "device_id"]⟩
  else ⟨"getSiteGatewayMetrics", ["site_id"]⟩

def tunnels : StatsMode → Resolved
  | .records => ⟨"searchOrgTunnelsStats", ["org_id"]⟩
  | .count => ⟨"countOrgTunnelsStats", ["org_id"]⟩

def peerPaths : StatsMode → Resolved
  | .records => ⟨"searchOrgPeerPathStats", ["org_id"]⟩
  | .count => ⟨"countOrgPeerPathStats", ["org_id"]⟩

def bgpPeers : WanScope → StatsMode → Resolved
  | .org, .records => ⟨"searchOrgBgpStats", ["org_id"]⟩
  | .org, .count => ⟨"countOrgBgpStats", ["org_id"]⟩
  | .site, .records => ⟨"searchSiteBgpStats", ["site_id"]⟩
  | .site, .count => ⟨"countSiteBgpStats", ["site_id"]⟩

def alarms : WanScope → StatsMode → Resolved
  | .org, .records => ⟨"searchOrgAlarms", ["org_id"]⟩
  | .org, .count => ⟨"countOrgAlarms", ["org_id"]⟩
  | .site, .records => ⟨"searchSiteAlarms", ["site_id"]⟩
  | .site, .count => ⟨"countSiteAlarms", ["site_id"]⟩

def servicePathEvents : StatsMode → Resolved
  | .records => ⟨"searchSiteServicePathEvents", ["site_id"]⟩
  | .count => ⟨"countSiteServicePathEvents", ["site_id"]⟩

inductive SleImpact where
  | gateways
  | applications
  | summary
deriving DecidableEq, Repr

def sleImpact (impact : SleImpact) : Resolved :=
  let operationId :=
    match impact with
    | .gateways => "listSiteSleImpactedGateways"
    | .applications => "listSiteSleImpactedApplications"
    | .summary => "getSiteSleImpactSummary"
  ⟨operationId, ["site_id", "scope", "scope_id", "metric"]⟩

inductive AppSource where
  | site
  | catalog
deriving DecidableEq, Repr

/-- The constant list has no count. -/
def applications : AppSource → StatsMode → Resolved
  | .site, .records => ⟨"listSiteApps", ["site_id"]⟩
  | .site, .count => ⟨"countSiteApps", ["site_id"]⟩
  | .catalog, _ => ⟨"listGatewayApplications", []⟩

def listConfig : WanObject → WanScope → Resolved
  | .network, .org => ⟨"listOrgNetworks", ["org_id"]⟩
  | .service, .org => ⟨"listOrgServices", ["org_id"]⟩
  | .servicePolicy, .org => ⟨"listOrgServicePolicies", ["org_id"]⟩
  | .gatewayTemplate, .org => ⟨"listOrgGatewayTemplates", ["org_id"]⟩
  | .deviceProfile, .org => ⟨"listOrgDeviceProfiles", ["org_id"]⟩
  | .network, .site => ⟨"listSiteNetworksDerived", ["site_id"]⟩
  | .service, .site => ⟨"listSiteServicesDerived", ["site_id"]⟩
  | .servicePolicy, .site => ⟨"listSiteServicePoliciesDerived", ["site_id"]⟩
  | .gatewayTemplate, .site => ⟨"listSiteGatewayTemplatesDerived", ["site_id"]⟩
  | .deviceProfile, .site => ⟨"listSiteDeviceProfilesDerived", ["site_id"]⟩

def getConfig : WanObject → Resolved
  | .network => ⟨"getOrgNetwork", ["org_id", "network_id"]⟩
  | .service => ⟨"getOrgService", ["org_id", "service_id"]⟩
  | .servicePolicy => ⟨"getOrgServicePolicy", ["org_id", "servicepolicy_id"]⟩
  | .gatewayTemplate => ⟨"getOrgGatewayTemplate", ["org_id", "gatewaytemplate_id"]⟩
  | .deviceProfile => ⟨"getOrgDeviceProfile", ["org_id", "deviceprofile_id"]⟩

/-- The path parameter that carries the identifier of an object. -/
def objectIdName : WanObject → String
  | .network => "network_id"
  | .service => "service_id"
  | .servicePolicy => "servicepolicy_id"
  | .gatewayTemplate => "gatewaytemplate_id"
  | .deviceProfile => "deviceprofile_id"

/-- The reads of the tool that shows an object are the reads of its plans. -/
theorem getConfig_writeTarget (object : WanObject) (verb : WriteVerb) :
    (getConfig object).operationId = (writeTarget object verb).readOperationId ∧
      objectIdName object = (writeTarget object verb).idPathName ∧
      (getConfig object).pathNames = ["org_id", (writeTarget object verb).idPathName] := by
  cases object <;> cases verb <;> exact ⟨rfl, rfl, rfl⟩

end RustMist.Wan
