import RustMist.Construction.Server.Plan

/-! The tool that applies an approved change set. -/

namespace RustMist

variable [ServerPlatform]

/-- A tool call ends with a result or with a protocol error. -/
abbrev ToolOutcome := Except ErrorData CallToolResult

def failApply (message : String) : MistProgram ToolOutcome :=
  pure (.ok (toolResult (.error message)))

def applyRequestId (caller : Option CallerCtx) : String :=
  match caller with
  | some caller => caller.requestId
  | none => "stdio"

/-- The preview gives the body and the organization of the write. -/
def readPreview (record : ChangeSetRecord) : Except String (Json × String) :=
  match record.preview with
  | none => .error "change set has no preview"
  | some preview =>
      match serdeFromStr preview.artifact with
      | .error reason => .error ("failed to parse preview: " ++ reason)
      | .ok parsed =>
          match (parsed.get "org_id").bind Json.asString with
          | none =>
              .error "change set was planned before org-scope fix and must be re-planned"
          | some orgId => .ok (Json.ofOption (parsed.get "after"), orgId)

/-- The record, the preview and the arguments determine the write. -/
structure ApplyWork where
  args : ChangeSetArgs
  caller : Option CallerCtx
  record : ChangeSetRecord
  after : Json
  orgId : String
  isCreate : Bool
  /-- The identifier is empty for a create. -/
  objectId : String

namespace ApplyWork

def verb (work : ApplyWork) : WriteVerb := if work.isCreate then .create else .update

def target (work : ApplyWork) : WriteTarget := writeTarget work.args.object work.verb

def writePath (work : ApplyWork) : PathValues :=
  let path := (∅ : PathValues).insert "org_id" work.orgId
  if work.isCreate then path else path.insert work.target.idPathName work.objectId

def writeRequest (work : ApplyWork) : MistRequest where
  operationId := work.target.writeOperationId
  path := work.writePath
  query := ∅
  json := some work.after
  cursor := none

end ApplyWork

def prepareWork (args : ChangeSetArgs) (caller : Option CallerCtx) (record : ChangeSetRecord) :
    Except String ApplyWork :=
  match readPreview record with
  | .error reason => .error reason
  | .ok (after, orgId) =>
      -- The verb is not stored; the staged fingerprint stands for it.
      if record.expectedCandidateFingerprint = "create" then
        .ok ⟨args, caller, record, after, orgId, true, ""⟩
      else
        match args.objectId with
        | none => .error "update requires object_id"
        | some objectId => .ok ⟨args, caller, record, after, orgId, false, objectId⟩

def applyResponse (args : ChangeSetArgs) (record : ChangeSetRecord) (finalObjectId : String)
    (driftChecked verified : Bool) : Json :=
  .object [("change_set_id", .string args.changeSetId), ("state", .string record.state.asStr),
    ("object_id", .string finalObjectId), ("drift_checked", .bool driftChecked),
    ("verified", .bool verified)]

/-- The final state is persisted before the tool answers. -/
def settleApply (work : ApplyWork) (claimed : ChangeSetRecord) (finalObjectId : String)
    (driftChecked verified : Bool) : MistProgram ToolOutcome := do
  let record := { claimed with state := if verified then .applied else .failed }
  match ← perform (.updateChangeSet record) with
  | .error error => failApply ("failed to persist final state: " ++ coordinatorErrorText error)
  | .ok () =>
      pure (.ok (toolResult (.ok
        (applyResponse work.args record finalObjectId driftChecked verified))))

/-- A receipt is written where a recorder is configured; its failure is only logged. -/
def recordReceipt (handler : MistHandler) (work : ApplyWork) (claimed : ChangeSetRecord)
    (success : Bool) (reason : String) : MistProgram Unit :=
  if handler.evidence then do
    let _ ← perform (.resultReceipt (applyRequestId work.caller) claimed.id claimed.device
      (principal work.caller) success reason)
    pure ()
  else pure ()

/-- The re-read object is compared with the staged body. -/
def isVerified (result : CallToolResult) (after : Json) : Bool :=
  if result.isError = some true then false
  else
    match readData result with
    | .error _ => false
    | .ok data => data.same after

def verifyApply (handler : MistHandler) (work : ApplyWork) (claimed : ChangeSetRecord)
    (finalObjectId : String) (driftChecked : Bool) : MistProgram ToolOutcome := do
  let result ← dispatchCataloguedRead handler
    (objectRead "apply_mist_change_set" work.target finalObjectId work.orgId) work.caller
  let verified := isVerified result work.after
  recordReceipt handler work claimed verified (if verified then "" else "write not verified")
  settleApply work claimed finalObjectId driftChecked verified

/-- The record is marked as failed; whether that is persisted is not looked at. -/
def abandonApply (claimed : ChangeSetRecord) (message : String) : MistProgram ToolOutcome := do
  let _ ← perform (.updateChangeSet { claimed with state := .failed })
  failApply message

/-- The identifier of a created object is taken from the response. -/
def createdId (body : MistResponseBody) : Except String String :=
  match body with
  | .json value =>
      match value.val.get "id" with
      | some (.string id) => .ok id
      | _ => .error "create response missing id field"
  | _ => .error "create response was not JSON"

def finalObjectId (work : ApplyWork) (response : MistResponse) : Except String String :=
  if work.isCreate then createdId response.body else .ok work.objectId

/-- What follows the client's answer to the write. -/
def concludeWrite (handler : MistHandler) (work : ApplyWork) (claimed : ChangeSetRecord)
    (driftChecked : Bool) : Except MistError MistResponse → MistProgram ToolOutcome
  -- The outcome of the write is unknown here, so that no receipt is written.
  | .error error => abandonApply claimed ("write failed: " ++ error.toString)
  | .ok response =>
      match finalObjectId work response with
      | .error reason => do
          recordReceipt handler work claimed false reason
          abandonApply claimed reason
      | .ok finalObjectId => verifyApply handler work claimed finalObjectId driftChecked

/-- The write is sent once the change set is claimed. -/
def sendWrite (handler : MistHandler) (work : ApplyWork) (claimed : ChangeSetRecord)
    (driftChecked : Bool) : MistProgram ToolOutcome := do
  perform (.executeAs work.writeRequest (callPriorityFor work.caller))
  let answer ← perform .response
  concludeWrite handler work claimed driftChecked answer

def claimAndWrite (handler : MistHandler) (work : ApplyWork) (driftChecked : Bool) :
    MistProgram ToolOutcome := do
  match ← perform (.claimChangeSetForApply work.record.id work.record.device .none) with
  | .error error => failApply (coordinatorErrorText error)
  | .ok claimed => sendWrite handler work claimed driftChecked

/-- The organization is checked and the intent is persisted before the change set is claimed. -/
def issueApply (handler : MistHandler) (work : ApplyWork) (driftChecked : Bool) :
    MistProgram ToolOutcome :=
  if work.orgId ∉ handler.allowedOrgs then
    failApply ("organization " ++ work.orgId ++ " is not in the server's allowed organizations")
  else if handler.evidence then do
    match ← perform (.applyIntent (applyRequestId work.caller) work.record.id work.record.device
      (principal work.caller)) with
    | .error reason =>
        failApply ("apply refused: the apply-intent evidence record could not be persisted (" ++
          reason ++ "); the change set is still approved and can be retried")
    | .ok () => claimAndWrite handler work driftChecked
  else claimAndWrite handler work driftChecked

/-- A drifted change set is claimed to settle it as failed. -/
def settleDrift (work : ApplyWork) : MistProgram ToolOutcome := do
  match ← perform (.claimChangeSetForApply work.record.id work.record.device .expected) with
  | .error _ =>
      failApply "object has been modified since planning; fingerprint mismatch"
  | .ok claimed =>
      abandonApply claimed "object has been modified since planning; fingerprint mismatch"

def driftReadError : ReadDataError → String
  | .notText => "drift check result was not text"
  | .unparsable reason => "failed to parse drift check response: " ++ reason
  | .missingData => "drift check response missing data field"

/-- The object of an update is read again and compared with the staged fingerprint. -/
def checkDrift (handler : MistHandler) (work : ApplyWork) : MistProgram ToolOutcome := do
  let result ← dispatchCataloguedRead handler
    (objectRead "apply_mist_change_set" work.target work.objectId work.orgId) work.caller
  if result.isError = some true then pure (.ok result)
  else
    match readData result with
    | .error error => failApply (driftReadError error)
    | .ok current =>
        if stateFingerprint current ≠ work.record.expectedCandidateFingerprint then
          settleDrift work
        else issueApply handler work true

def applyWork (handler : MistHandler) (work : ApplyWork) : MistProgram ToolOutcome :=
  if work.isCreate then issueApply handler work false else checkDrift handler work

/-- The fetched record must be approved and not expired. -/
def applyRecord (handler : MistHandler) (args : ChangeSetArgs) (caller : Option CallerCtx)
    (record : ChangeSetRecord) : MistProgram ToolOutcome :=
  if record.state ≠ .approved then
    failApply ("change set is " ++ record.state.asStr ++ ", not approved")
  else do
    match ← perform .systemTime with
    | .error reason => pure (.error ⟨"time error: " ++ reason⟩)
    | .ok now =>
        if now > record.expiresAtUnix then
          failApply ("approval expired at unix timestamp " ++
            toString record.expiresAtUnix.toNat)
        else
          match prepareWork args caller record with
          | .error reason => failApply reason
          | .ok work => applyWork handler work

def applyMistChangeSet (handler : MistHandler) (args : ChangeSetArgs)
    (caller : Option CallerCtx) : MistProgram ToolOutcome := do
  let device := objectKey args.object args.objectId
  match ← perform (.deviceGuard device) with
  | .error error => failApply (coordinatorErrorText error)
  | .ok () => do
      match ← perform (.changeSet args.changeSetId device) with
      | .error error => failApply (coordinatorErrorText error)
      | .ok record => applyRecord handler args caller record

end RustMist
