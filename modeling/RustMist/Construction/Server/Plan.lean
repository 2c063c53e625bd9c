import RustMist.Construction.Server.ChangeSet

/-! The tools that plan, show and approve a change set. -/

namespace RustMist

variable [ServerPlatform]

/-- The name under which a caller acts. -/
def principal (caller : Option CallerCtx) : String :=
  match caller with
  | some caller => caller.tokenName
  | none => "stdio"

/-- A failed tool call ends with a text. -/
def failTool (message : String) : MistProgram CallToolResult := pure (toolResult (.error message))

/-- The reasons for which the data of a read result is not available. -/
inductive ReadDataError where
  | notText
  | unparsable (reason : String)
  | missingData

/-- The data field is taken from the text of a read result. -/
def readData (result : CallToolResult) : Except ReadDataError Json :=
  match result.first with
  | .other => .error .notText
  | .text text =>
      match serdeFromStr text with
      | .error reason => .error (.unparsable reason)
      | .ok value =>
          match value.get "data" with
          | none => .error .missingData
          | some data => .ok data

/-- The read that gives the state of an object. -/
def objectRead (tool : String) (target : WriteTarget) (objectId orgId : String) : CatalogRead where
  tool := tool
  operationId := target.readOperationId
  path := ((∅ : PathValues).insert target.idPathName objectId).insert "org_id" orgId
  query := ∅
  cursor := none
  capability := if target.privileged then .privilegedRead else .ordinaryRead
  redactOutput := false

structure PlanChangeArgs where
  object : WanObject
  verb : WriteVerb
  orgId : String
  objectId : Option String
  patch : Json.Value

def planReadError : ReadDataError → String
  | .notText => "read result was not text"
  | .unparsable reason => "failed to parse read response: " ++ reason
  | .missingData => "read response missing data field"

def planResponse (staged : StagedPlan) (before : Json) : Json :=
  if before.isNull then
    .object [("change_set_id", .string staged.changeSetId),
      ("plan_digest", .string staged.planDigest), ("preview_digest", .string staged.previewDigest),
      ("before", .null), ("before_state", .string "absent (create)"),
      ("after", redactJsonValue staged.after)]
  else
    .object [("change_set_id", .string staged.changeSetId),
      ("plan_digest", .string staged.planDigest), ("preview_digest", .string staged.previewDigest),
      ("before", redactJsonValue staged.before), ("after", redactJsonValue staged.after)]

/-- In lab mode the approval is waived as soon as the change set exists. -/
def waivePlan (handler : MistHandler) (args : PlanChangeArgs) (owner : String)
    (staged : StagedPlan) (before : Json) : MistProgram CallToolResult :=
  if handler.labMode then do
    match ← perform (.waiveApproval staged.changeSetId (objectKey args.object args.objectId) owner
      staged.planDigest) with
    | .error error => failTool ("lab mode waive failed: " ++ coordinatorErrorText error)
    | .ok () => pure (toolResult (.ok (planResponse staged before)))
  else pure (toolResult (.ok (planResponse staged before)))

/-- The patch is merged onto the object and the result is staged. -/
def stageChange (handler : MistHandler) (args : PlanChangeArgs) (owner : String) (before : Json) :
    MistProgram CallToolResult := do
  let after := mergePatch before args.patch.val
  match ← stagePlan owner args.object args.objectId args.orgId before after with
  | .error error => failTool (coordinatorErrorText error)
  | .ok staged =>
      if handler.evidence then do
        perform (.proposal staged.changeSetId staged.changeSetId
          (objectKey args.object args.objectId) owner staged.planDigest)
        waivePlan handler args owner staged before
      else waivePlan handler args owner staged before

/-- The current state of the object is read for an update. -/
def planUpdate (handler : MistHandler) (args : PlanChangeArgs) (caller : Option CallerCtx)
    (owner objectId : String) : MistProgram CallToolResult := do
  let target := writeTarget args.object args.verb
  let result ← dispatchCataloguedRead handler
    (objectRead "plan_mist_change" target objectId args.orgId) caller
  if result.isError = some true then pure result
  else
    match readData result with
    | .error error => failTool (planReadError error)
    | .ok before => stageChange handler args owner before

def planMistChange (handler : MistHandler) (args : PlanChangeArgs) (caller : Option CallerCtx) :
    MistProgram CallToolResult :=
  let owner := principal caller
  if rejectConfigAuthority args.patch.val = .error .mistConfigured then
    failTool "patch sets mist_configured, which controls who may configure the device"
  else if rejectRedactionPlaceholder args.patch.val = .error .redactionPlaceholder then
    failTool ("patch contains the redaction placeholder; omit secret fields to keep " ++
      "their current value (merge-patch preserves omitted keys), or supply the real value")
  else if args.orgId ∉ handler.allowedOrgs then
    failTool ("organization " ++ args.orgId ++ " is not in the server's allowed organizations")
  else
    match args.verb with
    | .create => stageChange handler args owner .null
    | .update =>
        match args.objectId with
        | none => failTool "update requires object_id"
        | some objectId => planUpdate handler args caller owner objectId

structure ChangeSetArgs where
  changeSetId : String
  object : WanObject
  objectId : Option String

def getResponse (record : ChangeSetRecord) (before after : Json) : Json :=
  let waiver := (record.approval.bind ApprovalRecord.waived).map ApprovalWaiver.reason
  .object [("change_set_id", .string record.id), ("state", .string record.state.asStr),
    ("owner", .string record.owner), ("approver", Json.ofOption (record.approver.map Json.string)),
    ("approval_waiver", Json.ofOption (waiver.map Json.string)),
    ("plan_digest", .string record.digest), ("before", before), ("after", after)]

def getMistChangeSet (args : ChangeSetArgs) : MistProgram CallToolResult := do
  match ← perform (.changeSet args.changeSetId (objectKey args.object args.objectId)) with
  | .error error => failTool (coordinatorErrorText error)
  | .ok record =>
      match record.preview with
      | none => pure (toolResult (.ok (getResponse record .null .null)))
      | some preview =>
          match serdeFromStr preview.artifact with
          | .error reason => failTool ("failed to parse preview: " ++ reason)
          | .ok parsed =>
              pure (toolResult (.ok (getResponse record
                (redactJsonValue (Json.ofOption (parsed.get "before")))
                (redactJsonValue (Json.ofOption (parsed.get "after"))))))

structure ApproveChangeSetArgs extends ChangeSetArgs where
  planDigest : String

def approveMistChangeSet (handler : MistHandler) (args : ApproveChangeSetArgs)
    (caller : Option CallerCtx) : MistProgram CallToolResult := do
  match ← perform (.approveChangeSet args.changeSetId (objectKey args.object args.objectId)
    (principal caller) args.planDigest (actorType caller)) with
  | .error error => failTool (coordinatorErrorText error)
  | .ok output =>
      pure (toolResult (.ok (.object [("change_set_id", .string output.changeSetId),
        ("state", .string "approved"),
        ("expires_in_seconds", .number (.posInt handler.approvalTtlSecs))])))

end RustMist
