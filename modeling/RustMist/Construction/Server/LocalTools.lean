import RustMist.Construction.Server.NamedTools
import RustMist.Proof.Catalog.Document

/-! The tools that answer from the catalog and the configuration, and the router of all tools. -/

namespace RustMist

section Search

structure SearchOperationsArgs where
  query : String
  capability : Option MistCapability
  target : Option TargetSelector
  limit : Option UInt8

/-- Only reads are searched for. -/
def searchCapabilities : List (String × MistCapability) :=
  [("ordinary_read", .ordinaryRead), ("privileged_read", .privilegedRead)]

def SearchOperationsArgs.fields : List String := ["query", "capability", "target", "limit"]

def SearchOperationsArgs.read (arguments : Json) : Except String SearchOperationsArgs := do
  let members ← readRecord SearchOperationsArgs.fields arguments
  let query ← readField members "query" readString
  let capability ← readOptionalField members "capability" (readVariant searchCapabilities)
  let target ← readOptionalField members "target" (readVariant TargetSelector.variants)
  let limit ← readOptionalField members "limit" readUInt8
  .ok { query, capability, target, limit }

def SearchOperationsArgs.resultLimit (args : SearchOperationsArgs) : Nat :=
  (args.limit.getD 20).toNat

def toAsciiLowercase (text : String) : String := String.ofList (text.toList.map Char.toLower)

/-- The identifier, the summary, the path or a tag contains the query in small letters. -/
def MistOperation.mentions (operation : MistOperation) (query : String) : Bool :=
  containsText query (toAsciiLowercase operation.operationId) ||
    containsText query (toAsciiLowercase operation.summary) ||
    containsText query (toAsciiLowercase operation.path) ||
    operation.openapiTags.any fun tag => containsText query (toAsciiLowercase tag)

def SearchOperationsArgs.selects (args : SearchOperationsArgs) (operation : MistOperation) : Bool :=
  operation.capability ∈ [.ordinaryRead, .privilegedRead] &&
    TargetSelector.msp ∉ operation.targetSelectors &&
    (args.capability.all fun value => operation.capability = value) &&
    (args.target.all fun value => value ∈ operation.targetSelectors) &&
    operation.mentions (toAsciiLowercase args.query)

/-- The first matches in the order of the catalog. -/
def searchMatches (catalog : Catalog) (args : SearchOperationsArgs) : List MistOperation :=
  (catalog.operations.filter args.selects).take args.resultLimit

def SearchOperationsArgs.valid (args : SearchOperationsArgs) : Bool :=
  !args.query.isEmpty && args.query.utf8ByteSize ≤ 128 && 1 ≤ args.resultLimit &&
    args.resultLimit ≤ 50

def MistOperation.summaryJson (operation : MistOperation) : Json :=
  .object [("operation_id", .string operation.operationId), ("summary", .string operation.summary),
    ("method", .string operation.method), ("path", .string operation.path),
    ("capability", writeVariant MistCapability.variants operation.capability),
    ("target_selectors", writeList (writeVariant TargetSelector.variants) operation.targetSelectors),
    ("pagination", writeVariant PaginationMode.variants operation.pagination)]

end Search

section LocalTools

variable [ServerPlatform] (handler : MistHandler) (caller : Option CallerCtx)

/-- A local tool checks the tool scope of its caller before it answers. -/
def answerLocally (tool : String) (answer : Except ToolCallError Json) : MistProgram ToolOutcome :=
  match authorizeCall caller tool none restrictedTools with
  | .error error => refuseTool (.call (.authorization error))
  | .ok () =>
      match answer with
      | .error error => refuseTool error
      | .ok json => pure (.ok (toolResult (.ok json)))

def searchMistOperations (args : SearchOperationsArgs) : MistProgram ToolOutcome :=
  answerLocally caller "search_mist_operations"
    (if args.valid then
      .ok (.array ((searchMatches handler.catalog args).map MistOperation.summaryJson))
    else .error .invalidSearch)

def getMistOperationSchema (operationId : String) : MistProgram ToolOutcome :=
  answerLocally caller "get_mist_operation_schema"
    (match handler.catalog.operation operationId with
    | some operation => .ok operation.toJson
    | none =>
        .error (.call (.unknownOperation ("operation " ++ operationId ++
          " is not in the catalog (pinned Mist OpenAPI snapshot: revision " ++
          String.ofList (handler.catalog.source.revision.toList.take 8) ++ ")"))))

/-- The organizations of the configuration that the caller's device scope admits. -/
def visibleOrgs : List String :=
  handler.allowedOrgs.filter fun id =>
    caller.all fun caller => caller.devices.allows ("org/" ++ id)

def listMistOrgs : MistProgram ToolOutcome :=
  answerLocally caller "list_mist_orgs"
    (.ok (.object [("source", .string "local_configured_allowlist"),
      ("organizations", .array ((visibleOrgs handler caller).map fun id =>
        .object [("id", .string id), ("target", .string ("org/" ++ id))]))]))

end LocalTools

section Router

variable [ServerPlatform] (handler : MistHandler) (caller : Option CallerCtx)

/-- A tool runs once its arguments are read. -/
def withArgs {α : Type} (read : Except String α) (run : α → MistProgram ToolOutcome) :
    MistProgram ToolOutcome :=
  match read with
  | .error reason => invalidArguments reason
  | .ok args => run args

/-- A tool under its name. -/
abbrev ToolRoute := String × (Json.Value → MistProgram ToolOutcome)

def NamedTool.route (tool : NamedTool) : ToolRoute := (tool.name, tool.program handler caller)

/-- The tools that are not named reads. -/
def ownRoutes : List ToolRoute :=
  [("apply_mist_change_set", fun arguments =>
      withArgs (ChangeSetArgs.read arguments.val) fun args =>
        (ToolCall.apply args).program handler caller),
    ("approve_mist_change_set", fun arguments =>
      withArgs (ApproveChangeSetArgs.read arguments.val) fun args =>
        (ToolCall.approve args).program handler caller),
    ("get_mist_change_set", fun arguments =>
      withArgs (ChangeSetArgs.read arguments.val) fun args =>
        (ToolCall.getChangeSet args).program handler caller),
    ("get_mist_operation_schema", fun arguments =>
      withArgs (readRecord ["operation_id"] arguments.val >>= fun members =>
        readField members "operation_id" readString) (getMistOperationSchema handler caller)),
    ("get_mist_org", getMistOrg handler caller),
    ("get_mist_wan_config", getMistWanConfig handler caller),
    ("invoke_mist_privileged_read", fun arguments =>
      withArgs (InvokeReadArgs.read arguments.val) fun args =>
        (ToolCall.invoke "invoke_mist_privileged_read" args .privilegedRead).program handler
          caller),
    ("invoke_mist_read", fun arguments =>
      withArgs (InvokeReadArgs.read arguments.val) fun args =>
        (ToolCall.invoke "invoke_mist_read" args .ordinaryRead).program handler caller),
    ("list_mist_orgs", fun arguments =>
      withArgs (readArgs emptyArgs arguments.val.members) fun _ => listMistOrgs handler caller),
    ("plan_mist_change", fun arguments =>
      withArgs (PlanChangeArgs.read arguments) fun args =>
        (ToolCall.plan args).program handler caller),
    ("search_mist_operations", fun arguments =>
      withArgs (SearchOperationsArgs.read arguments.val) (searchMistOperations handler caller))]

def toolRouter : List ToolRoute :=
  ownRoutes handler caller ++ namedTools.map fun tool => tool.route handler caller

/-- A call is routed by the name of its tool. -/
def callTool (name : String) (arguments : Json.Value) : MistProgram ToolOutcome :=
  match IndexMap.get name (toolRouter handler caller) with
  | some tool => tool arguments
  | none => pure (.error ⟨"tool not found"⟩)

/-- This is the registry against which tokens are validated. -/
def knownTools : List String :=
  ["apply_mist_change_set", "approve_mist_change_set", "get_mist_change_set", "get_mist_device",
    "get_mist_device_stats", "get_mist_insight", "get_mist_operation_schema", "get_mist_org",
    "get_mist_rrm", "get_mist_self", "get_mist_site", "get_mist_sle", "get_mist_sle_impact",
    "get_mist_wan_config", "get_mist_wan_edge_stats", "invoke_mist_privileged_read",
    "invoke_mist_read", "list_mist_alarm_definitions", "list_mist_applications", "list_mist_orgs",
    "list_mist_rogues", "list_mist_sites", "list_mist_sle_metrics", "list_mist_upgrades",
    "list_mist_wan_config", "list_mist_wan_edges", "list_mist_wlans", "plan_mist_change",
    "search_mist_alarms", "search_mist_audit_logs", "search_mist_bgp_peers",
    "search_mist_clients", "search_mist_events", "search_mist_inventory",
    "search_mist_operations", "search_mist_peer_paths", "search_mist_service_path_events",
    "search_mist_tunnels", "troubleshoot_mist"]

/-- The names of all routes. -/
def routeNames : List String :=
  ["apply_mist_change_set", "approve_mist_change_set", "get_mist_change_set",
    "get_mist_operation_schema", "get_mist_org", "get_mist_wan_config",
    "invoke_mist_privileged_read", "invoke_mist_read", "list_mist_orgs", "plan_mist_change",
    "search_mist_operations"] ++ namedTools.map NamedTool.name

theorem keys_toolRouter : IndexMap.keys (toolRouter handler caller) = routeNames := rfl

/-- Every known tool has one route, and every route is a known tool. -/
theorem toolRouter_known : (IndexMap.keys (toolRouter handler caller)).Perm knownTools := by
  rw [keys_toolRouter]
  decide

end Router

end RustMist
