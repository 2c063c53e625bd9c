import RustMist.Construction.Core.Grant
import RustMist.Construction.Core.Request
import RustMist.Construction.Server.Similarity
import RustMist.Library.Program

/-! The parts of the shared server packages that the handlers call, and their effects. -/

namespace RustMist

inductive ActorType where
  | human
  | agent
  | unknown
deriving DecidableEq, Repr

inductive ScopeSet where
  | wildcard
  | allowlist (names : List String)

/-- An authenticated caller; the stdio transport has none. -/
structure CallerCtx where
  tokenName : String
  requestId : String
  actorType : ActorType
  devices : ScopeSet
  tools : ScopeSet
  grant : Option MistGrant

inductive Content where
  | text (text : String)
  | other

/-- A tool result has at least one content. -/
structure CallToolResult where
  isError : Option Bool
  first : Content
  rest : List Content

structure ErrorData where
  message : String

inductive ResultFormat where
  | prettyJson

inductive OutputRedaction where
  | apply

structure ResultLimits where
  maxTextBytes : Nat
  maxJsonBytes : Nat

structure CoordinatorError where
  field : String
  message : String

inductive ChangeSetState where
  | planned
  | approved
  | applying
  | applied
  | failed
deriving DecidableEq, Repr

structure ApprovalWaiver where
  reason : String

structure ApprovalRecord where
  waived : Option ApprovalWaiver

structure PreviewRecord where
  artifact : String
  digest : String

structure ChangeSetRecord where
  id : String
  owner : String
  device : String
  expectedCandidateFingerprint : String
  actions : List Json
  digest : String
  state : ChangeSetState
  approver : Option String
  approval : Option ApprovalRecord
  expiresAtUnix : UInt64
  preview : Option PreviewRecord
  applyWithoutHandle : Bool

/-- Whether an apply that dies leaves an outcome that only the service knows. -/
inductive ApplyHandle where
  | expected
  | none
deriving DecidableEq

structure ApproveOutput where
  changeSetId : String

/-- The operations of a handler on what lies outside it. -/
inductive Op where
  | deviceGuard (device : String)
  | changeSet (id device : String)
  | insertChangeSet (record : ChangeSetRecord)
  | waiveApproval (id device owner digest : String)
  | approveChangeSet (id device approver digest : String) (actorType : ActorType)
  | claimChangeSetForApply (id device : String) (handle : ApplyHandle)
  | updateChangeSet (record : ChangeSetRecord)
  /-- The request is handed to the client. -/
  | executeAs (request : MistRequest) (priority : CallPriority)
  /-- The client's answer to the last request is awaited. -/
  | response
  | budgetStatus
  | sites
  | systemTime
  | random
  | proposal (requestId id device owner digest : String)
  | applyIntent (requestId id device principal : String)
  | resultReceipt (requestId id device principal : String) (success : Bool) (reason : String)

@[reducible] def Op.Answer : Op → Type
  | .deviceGuard _ => Except CoordinatorError Unit
  | .changeSet _ _ => Except CoordinatorError ChangeSetRecord
  | .insertChangeSet _ => Except CoordinatorError Unit
  | .waiveApproval _ _ _ _ => Except CoordinatorError Unit
  | .approveChangeSet _ _ _ _ _ => Except CoordinatorError ApproveOutput
  | .claimChangeSetForApply _ _ _ => Except CoordinatorError ChangeSetRecord
  | .updateChangeSet _ => Except CoordinatorError Unit
  | .executeAs _ _ => Unit
  | .response => Except MistError MistResponse
  | .budgetStatus => Option BudgetStatus
  | .sites => SortedMap String String
  | .systemTime => Except String UInt64
  | .random => Except String Bytes32
  | .proposal _ _ _ _ _ => Unit
  | .applyIntent _ _ _ _ => Except String Unit
  | .resultReceipt _ _ _ _ _ _ => Except String Unit

/-- This is the signature of the effects of the server. -/
abbrev mist : Effects.Signature := ⟨Op, Op.Answer⟩

abbrev MistProgram := Effects.Program mist

abbrev MistEvent := Effects.Event mist

abbrev MistHistory := Effects.History mist

/-- This program performs one operation and returns its answer. -/
abbrev perform (op : Op) : MistProgram op.Answer := Effects.Program.ask (S := mist) op

/-- This class collects what the handlers call of the shared packages. -/
class ServerPlatform extends Platform where
  allows : ScopeSet → String → Bool
  /-- The last argument lists the restricted tools. -/
  allowsTool : ScopeSet → String → List String → Bool
  asStr : ChangeSetState → String
  /-- The scopes of a caller are checked for a tool and a target. -/
  authorizeCall : Option CallerCtx → String → Option String → List String → Except String Unit
  toolResult : Except String Json → ResultFormat → ResultLimits → OutputRedaction → CallToolResult
  redactJsonValue : Json → Json
  coordinatorErrorText : CoordinatorError → String
  changeSetDigest : String → String → String → List Json → Except String String
  previewDigest : String → String
  /-- The lower case of a text, as the standard library gives it. -/
  toLowercase : String → String
  /-- Whether a distance is close enough for two identifiers of this length. -/
  withinRatio : Nat → Nat → Bool
  /-- The order of two candidates by their scores, which are floating point numbers, and by their
  identifiers. -/
  orderedBefore : Option Similarity.ScoreParts × String → Option Similarity.ScoreParts × String → Bool
  /-- This stands for the result of a handler that panics, which is no success. -/
  panicked : CallToolResult
  panicked_isError : panicked.isError = some true
  /-- A wildcard reaches only the tools that are not restricted. -/
  allowsTool_wildcard : ∀ tool restricted,
    allowsTool .wildcard tool restricted = true → tool ∉ restricted
  allowsTool_allowlist : ∀ names tool restricted,
    allowsTool (.allowlist names) tool restricted = true → tool ∈ names
  authorizeCall_ok : ∀ caller tool target restricted,
    authorizeCall (some caller) tool target restricted = .ok () →
      allowsTool caller.tools tool restricted = true ∧
        ∀ subject, target = some subject → allows caller.devices subject = true
  toolResult_error : ∀ message format limits redaction,
    (toolResult (.error message) format limits redaction).isError = some true
  /-- A result is handed back unchanged or as an error. -/
  toolResult_ok : ∀ json format limits redaction, json.wellFormed = true →
    (toolResult (.ok json) format limits redaction).isError = some true ∨
      ∃ text, (toolResult (.ok json) format limits redaction).first = .text text ∧
        toPlatform.serdeFromStr text = .ok json
  redactJsonValue_wellFormed : ∀ json, json.wellFormed = true →
    (redactJsonValue json).wellFormed = true

export ServerPlatform (authorizeCall redactJsonValue coordinatorErrorText changeSetDigest
  previewDigest)

section Results

variable [ServerPlatform]

def ScopeSet.allows (scope : ScopeSet) (name : String) : Bool := ServerPlatform.allows scope name

def ScopeSet.allowsTool (scope : ScopeSet) (tool : String) (restricted : List String) : Bool :=
  ServerPlatform.allowsTool scope tool restricted

def ChangeSetState.asStr (state : ChangeSetState) : String := ServerPlatform.asStr state

def resultLimits : ResultLimits := ⟨512 * 1024, 512 * 1024⟩

/-- Every tool answers in this format, within these limits and redacted. -/
def toolResult (result : Except String Json) : CallToolResult :=
  ServerPlatform.toolResult result .prettyJson resultLimits .apply

theorem toolResult_error (message : String) : (toolResult (.error message)).isError = some true :=
  ServerPlatform.toolResult_error message _ _ _

theorem toolResult_ok (json : Json) (formed : json.wellFormed = true) :
    (toolResult (.ok json)).isError = some true ∨
      ∃ text, (toolResult (.ok json)).first = .text text ∧ serdeFromStr text = .ok json :=
  ServerPlatform.toolResult_ok json _ _ _ formed

end Results

end RustMist
