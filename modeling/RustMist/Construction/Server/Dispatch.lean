import RustMist.Construction.Core.CursorText
import RustMist.Construction.Server.Platform

/-! The dispatch of catalogued reads. -/

namespace RustMist

/-- This list names the tools that a wildcard scope does not reach. -/
def restrictedTools : List String :=
  ["apply_mist_change_set", "approve_mist_change_set", "get_mist_change_set", "get_mist_device",
    "get_mist_self", "get_mist_wan_config", "invoke_mist_privileged_read", "list_mist_wan_config",
    "list_mist_wlans", "plan_mist_change", "search_mist_audit_logs"]

abbrev PathValues := SortedMap String String

abbrev QueryValues := SortedMap String Json

structure CatalogRead where
  tool : String
  operationId : String
  path : PathValues
  query : QueryValues
  cursor : Option MistCursor
  capability : MistCapability
  redactOutput : Bool

/-- The site map and the change-set store are reached through effects. -/
structure MistHandler where
  origin : String
  allowedOrgs : List String
  catalog : Catalog
  /-- Whether an evidence recorder is configured. -/
  evidence : Bool
  labMode : Bool
  approvalTtlSecs : UInt64

inductive MistCallError where
  | unknownOperation (message : String)
  | wrongCapability (message : String)
  | authorization (message : String)
  | grant
  | mspTarget
  | invalidTarget
  | organizationNotConfigured (message : String)
  | invalidLimit
  | mist (error : MistError)
  /-- This is no error of the source: the handler panics. -/
  | panicked

def MistCallError.toString : MistCallError → String
  | .unknownOperation message => message
  | .wrongCapability message => message
  | .authorization message => message
  | .grant => "the authenticated caller lacks the exact Mist operation/action/target grant"
  | .mspTarget => "MSP targets are not supported by the v1 authorization model"
  | .invalidTarget => "the catalogued target is missing or malformed"
  | .organizationNotConfigured message => message
  | .invalidLimit => "query limit must be an integer from 1 through 100"
  | .mist error => error.toString
  | .panicked => ""

/-- Only a caller that is known to be human draws on the reserve. -/
def callPriorityFor (caller : Option CallerCtx) : CallPriority :=
  match caller with
  | some caller => if caller.actorType = .human then .reserved else .standard
  | none => .standard

def targetFor (selectors : List TargetSelector) (path : PathValues) :
    Except MistCallError (Option MistTarget) :=
  match selectors with
  | [.none] => .ok none
  | [.org] =>
      match path.get "org_id" with
      | none => .error .invalidTarget
      | some id =>
          match MistTarget.org id with
          | .ok target => .ok (some target)
          | .error _ => .error .invalidTarget
  | [.site] =>
      match path.get "site_id" with
      | none => .error .invalidTarget
      | some id =>
          match MistTarget.site id with
          | .ok target => .ok (some target)
          | .error _ => .error .invalidTarget
  | selectors => if .msp ∈ selectors then .error .mspTarget else .error .invalidTarget

def authorizeGrant (caller : Option CallerCtx) (operationId : String) (action : MistCapability)
    (target : Option MistTarget) : Except MistCallError Unit :=
  match caller with
  | none => if action = .ordinaryRead then .ok () else .error .grant
  | some caller =>
      match caller.grant with
      | none => if action = .ordinaryRead then .ok () else .error .grant
      | some grant =>
          if !grant.allowsOperation operationId || !grant.allowsAction action ||
              target.any (fun target => !grant.allowsTarget target) then
            .error .grant
          else .ok ()

def validatePageLimit (query : QueryValues) : Except MistCallError Unit :=
  match query.get "limit" with
  | none => .ok ()
  | some limit =>
      if limit.asUInt64.any fun limit => 1 ≤ limit && limit ≤ 100 then .ok ()
      else .error .invalidLimit

section Envelope

structure ReadEnvelope where
  operationId : String
  target : Option String
  status : UInt16
  contentType : String
  data : Json
  nextCursor : Option String
  page : Option MistPageInfo
  truncated : Bool
  budgetRemaining : Option BudgetStatus

/-- The content type and the data of a response body. -/
def envelopeData : MistResponseBody → String × Json
  | .json value => ("application/json", value.val)
  | .text value => ("text/plain; charset=utf-8", .string value)
  | .binary value =>
      ("application/octet-stream", .array (value.map fun byte => Json.ofNat byte.toNat))
  | .empty => ("application/octet-stream", .null)

def ofUInt32 (value : UInt32) : Json := Json.ofNat value.toNat

def BudgetStatus.toJson (status : BudgetStatus) : Json :=
  .object [("hourly_limit", ofUInt32 status.hourlyLimit),
    ("human_reserve", ofUInt32 status.humanReserve), ("used", ofUInt32 status.used),
    ("remaining_standard", ofUInt32 status.remainingStandard),
    ("remaining_reserved", ofUInt32 status.remainingReserved)]

def optionalMember (name : String) (value : Option Json) : List (String × Json) :=
  (value.map fun json => (name, json)).toList

def ReadEnvelope.toJson (envelope : ReadEnvelope) : Json :=
  .object ([("operation_id", .string envelope.operationId),
    ("target", Json.ofOption (envelope.target.map Json.string)),
    ("status", Json.ofNat envelope.status.toNat), ("content_type", .string envelope.contentType),
    ("data", envelope.data), ("next_cursor", Json.ofOption (envelope.nextCursor.map Json.string))] ++
    optionalMember "page" (envelope.page.map MistPageInfo.toJson) ++
    [("truncated", .bool envelope.truncated)] ++
    optionalMember "budget_remaining" (envelope.budgetRemaining.map BudgetStatus.toJson))

variable [ServerPlatform]

def ReadEnvelope.fromResponse (response : MistResponse) (target : Option MistTarget)
    (budgetRemaining : Option BudgetStatus) (redactOutput : Bool) : ReadEnvelope where
  operationId := response.operationId
  target := target.map MistTarget.subject
  status := response.status
  contentType := (envelopeData response.body).1
  data :=
    if redactOutput then redactJsonValue (envelopeData response.body).2
    else (envelopeData response.body).2
  nextCursor := response.cursor.map MistCursor.encode
  page := response.page.filter fun page => !page.isEmpty
  truncated := false
  budgetRemaining := budgetRemaining

end Envelope

section Messages

variable [ServerPlatform]

def MistCapability.debugName : MistCapability → String
  | .ordinaryRead => "OrdinaryRead"
  | .privilegedRead => "PrivilegedRead"
  | .create => "Create"
  | .update => "Update"
  | .delete => "Delete"
  | .execute => "Execute"

def dispatcherName : MistCapability → String
  | .ordinaryRead => "invoke_mist_read"
  | .privilegedRead => "invoke_mist_privileged_read"
  | _ => "(no read dispatcher available for this operation)"

/-- The closest operations to an unknown one. -/
def findSimilarOperations (catalog : Catalog) (unknownId : String) :
    Option (List (String × Nat × MistCapability)) :=
  Similarity.findSimilarOperations ServerPlatform.toLowercase some none ServerPlatform.withinRatio
    ServerPlatform.orderedBefore catalog unknownId

def suggestionText (required : MistCapability) (suggestion : String × Nat × MistCapability) :
    String :=
  "\n  - " ++ suggestion.1 ++
    if suggestion.2.2 ≠ required then
      " (use " ++ dispatcherName suggestion.2.2 ++ " to invoke it)"
    else ""

def unknownOperationMessage (catalog : Catalog) (operationId : String)
    (required : MistCapability) (suggestions : List (String × Nat × MistCapability)) : String :=
  "operation " ++ operationId ++ " is not in the catalog (pinned Mist OpenAPI snapshot: revision " ++
    String.ofList (catalog.source.revision.toList.take 8) ++ ")" ++
    if suggestions.isEmpty then ""
    else ". Did you mean:" ++ String.join (suggestions.map (suggestionText required))

def wrongCapabilityMessage (operation : MistOperation) (operationId : String) : String :=
  "operation " ++ operationId ++ " exists but is classified as " ++
    operation.capability.debugName ++ " (method " ++ operation.method ++ "); use " ++
    dispatcherName operation.capability ++ " to invoke it"

/-- The search for suggestions may panic. -/
def unknownOperation (catalog : Catalog) (operationId : String) (required : MistCapability) :
    MistCallError :=
  match findSimilarOperations catalog operationId with
  | none => .panicked
  | some suggestions =>
      .unknownOperation (unknownOperationMessage catalog operationId required suggestions)

/-- A domain error ends a tool call with its text. -/
def MistCallError.result : MistCallError → CallToolResult
  | .panicked => ServerPlatform.panicked
  | error => toolResult (.error error.toString)

theorem MistCallError.result_isError (error : MistCallError) : error.result.isError = some true := by
  cases error with
  | panicked => exact ServerPlatform.panicked_isError
  | _ => exact toolResult_error _

def refuse (error : MistCallError) : MistProgram CallToolResult := pure error.result

end Messages

section CataloguedRead

variable [ServerPlatform]

/-- The reason for which the allowlist refuses a target. -/
def allowlistProblem (handler : MistHandler) (target : MistTarget) : MistProgram (Option String) :=
  match target.kind with
  | .org =>
      if target.id ∈ handler.allowedOrgs then pure none
      else pure (some ("organization " ++ target.id ++ " is not in the configured allowlist"))
  | .site => do
      let sites ← perform .sites
      match sites.get target.id with
      | none =>
          pure (some ("site " ++ target.id ++ " is not known (requires org_id for site queries, " ++
            "or the site's parent org in the allowlist)"))
      | some orgId =>
          if orgId ∈ handler.allowedOrgs then pure none
          else
            pure (some ("site " ++ target.id ++ "'s parent organization " ++ orgId ++
              " is not in the configured allowlist"))

def isSuccess (status : UInt16) : Bool := 200 ≤ status && status < 300

/-- The error of a response whose status is not a success. -/
def statusError (response : MistResponse) : MistError :=
  if response.status = 429 then .rateLimited none
  else if response.status = 410 then .endpointRetired response.operationId
  else .service ("Mist API returned HTTP " ++ toString response.status.toNat)

def attachContext (response : MistResponse) (path : PathValues) (query : QueryValues)
    (target : Option MistTarget) : Except MistError MistResponse :=
  match response.cursor with
  | none => .ok response
  | some cursor =>
      match cursor.withRequestContext path query target with
      | .ok cursor => .ok { response with cursor := some cursor }
      | .error error => .error error

/-- The checks that a response passes before it is handed back. -/
def acceptResponse (handler : MistHandler) (request : MistRequest) (target : Option MistTarget)
    (response : MistResponse) : Except MistError MistResponse :=
  if response.operationId ≠ request.operationId then
    .error (.invalidResponse request.operationId
      "response operation does not match request operation")
  else
    match response.validate handler.catalog handler.origin with
    | .error error => .error error
    | .ok response =>
        if !isSuccess response.status then .error (statusError response)
        else attachContext response request.path request.query target

/-- The request is sent and its response is handed back in an envelope. -/
def sendRead (handler : MistHandler) (read : CatalogRead) (caller : Option CallerCtx)
    (target : Option MistTarget) (request : MistRequest) : MistProgram CallToolResult := do
  perform (.executeAs request (callPriorityFor caller))
  match ← perform .response with
  | .error error => refuse (.mist error)
  | .ok response => do
      let budgetRemaining ← perform .budgetStatus
      match acceptResponse handler request target response with
      | .error error => refuse (.mist error)
      | .ok response =>
          let envelope :=
            ReadEnvelope.fromResponse response target budgetRemaining read.redactOutput
          pure (toolResult (.ok envelope.toJson))

/-- The page limit and the request are checked last before the request is sent. -/
def requestRead (handler : MistHandler) (read : CatalogRead) (caller : Option CallerCtx)
    (target : Option MistTarget) : MistProgram CallToolResult :=
  match validatePageLimit read.query with
  | .error error => refuse error
  | .ok () =>
      let request : MistRequest := {
        operationId := read.operationId
        path := read.path
        query := read.query
        json := none
        cursor := read.cursor }
      match request.validate handler.catalog handler.origin with
      | .error error => refuse (.mist error)
      | .ok request => sendRead handler read caller target request

/-- The checks that need only the arguments, the catalog and the caller. -/
def admitRead (handler : MistHandler) (read : CatalogRead) (caller : Option CallerCtx) :
    Except MistCallError (Option MistTarget) :=
  match handler.catalog.operation read.operationId with
  | none =>
      .error (unknownOperation handler.catalog read.operationId read.capability)
  | some operation =>
      match targetFor operation.targetSelectors read.path with
      | .error error => .error error
      | .ok target =>
          if operation.method ≠ "GET" ∨ operation.capability ≠ read.capability then
            .error (.wrongCapability (wrongCapabilityMessage operation read.operationId))
          else if caller.isNone ∧ operation.capability = .privilegedRead then
            .error (.authorization
              "privileged Mist reads require authenticated caller context")
          else
            match authorizeCall caller read.tool (target.map MistTarget.subject) restrictedTools with
            | .error error => .error (.authorization error)
            | .ok () =>
                match authorizeGrant caller read.operationId operation.capability target with
                | .error error => .error error
                | .ok () => .ok target

def dispatchCataloguedRead (handler : MistHandler) (read : CatalogRead)
    (caller : Option CallerCtx) : MistProgram CallToolResult :=
  match admitRead handler read caller with
  | .error error => refuse error
  | .ok none => requestRead handler read caller none
  | .ok (some target) => do
      match ← allowlistProblem handler target with
      | some reason => refuse (.organizationNotConfigured reason)
      | none => requestRead handler read caller (some target)

end CataloguedRead

section Dispatchers

variable [ServerPlatform]

/-- The members of an argument record become path and query values. -/
def collectMaps (pathNames : List String) (path : PathValues) (query : QueryValues) :
    List (String × Json) → Except MistCallError (PathValues × QueryValues)
  | [] => .ok (path, query)
  | (name, value) :: rest =>
      if value.isNull then collectMaps pathNames path query rest
      else if name ∈ pathNames then
        match value.asString with
        | none => .error .invalidTarget
        | some value => collectMaps pathNames (path.insert name value) query rest
      else collectMaps pathNames path (query.insert name value) rest

def namedMaps (args : Json) (pathNames : List String) :
    Except MistCallError (PathValues × QueryValues) :=
  match args with
  | .object members => collectMaps pathNames ∅ ∅ members
  | _ => .error .invalidTarget

def dispatchNamed (handler : MistHandler) (tool operationId : String) (args : Json)
    (pathNames : List String) (capability : MistCapability) (caller : Option CallerCtx) :
    MistProgram CallToolResult :=
  match namedMaps args pathNames with
  | .error error => refuse error
  | .ok (path, query) =>
      dispatchCataloguedRead handler {
        tool := tool
        operationId := operationId
        path := path
        query := query
        cursor := none
        capability := capability
        redactOutput := true } caller

structure InvokeReadArgs where
  operationId : String
  path : Option PathValues
  query : Option QueryValues
  cursor : Option String

/-- A cursor text is hexadecimal and decodes to a cursor that passes its checks. -/
def decodeCursor (encoded : String) : Option MistCursor :=
  if encoded.isEmpty || encoded.utf8ByteSize > 262144 || encoded.utf8ByteSize % 2 ≠ 0 ||
      !encoded.toList.all (fun byte => (Hex.value byte).isSome) then
    none
  else
    ((Hex.decode encoded).bind readCursor).bind fun wire => (MistCursor.tryFrom wire).toOption

/-- The target that the cursor's own path implies, as far as it implies one. -/
def derivedTarget (catalog : Catalog) (operationId : String) (path : PathValues) :
    Option MistTarget :=
  (catalog.operation operationId).bind fun operation =>
    match targetFor operation.targetSelectors path with
    | .ok target => target
    | .error _ => none

/-- The path, query and cursor that a dispatcher call stands for. -/
def resolveArgs (handler : MistHandler) (args : InvokeReadArgs) :
    Except MistError (PathValues × QueryValues × Option MistCursor) :=
  if args.cursor.isSome && (args.path.isSome || args.query.isSome) then
    .error (.invalidCursor "cursor cannot be combined with path or query")
  else
    match args.cursor with
    | none => .ok (args.path.getD ∅, args.query.getD ∅, none)
    | some encoded =>
        match decodeCursor encoded with
        | none => .error (.invalidCursor "opaque cursor is malformed")
        | some cursor =>
            match cursor.requestContext with
            | none => .error (.invalidCursor "opaque cursor has no request context")
            | some context =>
                if derivedTarget handler.catalog args.operationId context.path ≠ context.target then
                  .error (.invalidCursor "cursor target does not match its request context")
                else .ok (context.path, context.query, some cursor)

def invokeDispatcher (handler : MistHandler) (tool : String) (args : InvokeReadArgs)
    (capability : MistCapability) (caller : Option CallerCtx) : MistProgram CallToolResult :=
  match resolveArgs handler args with
  | .error error => refuse (.mist error)
  | .ok (path, query, cursor) =>
      dispatchCataloguedRead handler {
        tool := tool
        operationId := args.operationId
        path := path
        query := query
        cursor := cursor
        capability := capability
        redactOutput := true } caller

end Dispatchers

end RustMist
