import RustMist.Proof.Calls.Authority
import RustMist.Proof.Calls.Preflight
import RustMist.Proof.Surface.Routes

/-! What the tools can send on behalf of a caller. -/

namespace RustMist

open Effects Effects.Program

variable [ServerPlatform]

section Requests

/-- A request reads data that needs no privilege. -/
def ReadsOrdinary (handler : MistHandler) (request : MistRequest) : Prop :=
  ∃ operation, handler.catalog.operation request.operationId = some operation ∧
    operation.method = "GET" ∧ operation.capability = .ordinaryRead ∧ request.json = none

/-- A request reads privileged data, and its caller's token names the restricted tool and grants
the operation, the action and the target. -/
structure ReadsPrivileged (handler : MistHandler) (context : CallerCtx) (tool : String)
    (request : MistRequest) (operation : MistOperation) (target : Option MistTarget)
    (names : List String) (grant : MistGrant) : Prop where
  catalogued : handler.catalog.operation request.operationId = some operation
  method : operation.method = "GET"
  bodiless : request.json = none
  restricted : tool ∈ restrictedTools
  scope : context.tools = .allowlist names
  named : tool ∈ names
  granted : context.grant = some grant
  operationGranted : grant.allowsOperation request.operationId = true
  actionGranted : grant.allowsAction .privilegedRead = true
  derived : DerivedTarget request.path operation.targetSelectors target
  targetGranted : ∀ subject, target = some subject → grant.allowsTarget subject = true
  targetInScope : ∀ subject, target = some subject → context.devices.allows subject.subject = true

/-- These are the operations that write. -/
def writeOperations : List String :=
  ["createOrgNetwork", "updateOrgNetwork", "createOrgService", "updateOrgService",
    "createOrgServicePolicy", "updateOrgServicePolicy", "createOrgGatewayTemplate",
    "updateOrgGatewayTemplate", "createOrgDeviceProfile", "updateOrgDeviceProfile"]

omit [ServerPlatform] in
theorem writeTarget_listed (object : WanObject) (verb : WriteVerb) :
    (writeTarget object verb).writeOperationId ∈ writeOperations := by
  cases object <;> cases verb <;> decide

/-- The three kinds of requests that a tool sends after some events. -/
inductive SentBy (handler : MistHandler) (caller : Option CallerCtx) (tool : String)
    (before : MistHistory) (request : MistRequest) : Prop where
  | ordinary (reads : ReadsOrdinary handler request)
  | privileged (context : CallerCtx) (known : caller = some context) (operation : MistOperation)
      (target : Option MistTarget) (names : List String) (grant : MistGrant)
      (reads : ReadsPrivileged handler context tool request operation target names grant)
  /-- The record of the write is approved, unexpired, undrifted and claimed in these events. -/
  | write (applies : tool = "apply_mist_change_set")
      (listed : request.operationId ∈ writeOperations) (args : ChangeSetArgs) (work : ApplyWork)
      (claimed : ChangeSetRecord) (driftChecked : Bool) (now : UInt64) (reads : MistHistory)
      (reached : WriteReached handler args caller before work claimed driftChecked now reads)
      (same : request = work.writeRequest)

end Requests

section Reads

variable {handler : MistHandler} {caller : Option CallerCtx}

/-- A scope that admits a restricted tool names it. -/
theorem named_of_allowsTool {scope : ScopeSet} {tool : String}
    (allowed : scope.allowsTool tool restrictedTools = true) (restricted : tool ∈ restrictedTools) :
    ∃ names, scope = .allowlist names ∧ tool ∈ names := by
  cases scope with
  | wildcard => exact absurd restricted (ServerPlatform.allowsTool_wildcard tool _ allowed)
  | allowlist names => exact ⟨names, rfl, ServerPlatform.allowsTool_allowlist names tool _ allowed⟩

/-- An admitted read of a fitting capability is ordinary or privileged. -/
theorem sentBy_of_readAllowed {read : CatalogRead} {past : MistHistory} {request : MistRequest}
    (fits : ReadFits read.tool read.capability)
    (allowed : ReadAllowed handler read caller past request) :
    SentBy handler caller read.tool past request := by
  obtain ⟨operation, target, admitted⟩ := allowed
  obtain rfl := admitted.same
  rcases fits with ordinary | ⟨privileged, restricted⟩
  · exact .ordinary ⟨operation, admitted.catalogued, admitted.method,
      admitted.capability.trans ordinary, rfl⟩
  · have capability := admitted.capability.trans privileged
    have granted := admitted.grant
    rw [GrantAdmits, capability] at granted
    split at granted
    · cases granted
    · rename_i grant held
      obtain ⟨context, rfl, held⟩ := Option.bind_eq_some_iff.mp held
      obtain ⟨allowed, devices⟩ := admitted.scope context rfl
      obtain ⟨names, scope, named⟩ := named_of_allowsTool allowed restricted
      exact .privileged context rfl operation target names grant {
        catalogued := admitted.catalogued
        method := admitted.method
        bodiless := rfl
        restricted := restricted
        scope := scope
        named := named
        granted := held
        operationGranted := granted.1
        actionGranted := granted.2.1
        derived := admitted.derived
        targetGranted := granted.2.2
        targetInScope := devices }

omit [ServerPlatform] in
theorem readFits_objectRead {tool : String} {read : CatalogRead}
    (restricted : tool ∈ restrictedTools) (object : IsObjectRead tool read) :
    ReadFits read.tool read.capability := by
  obtain ⟨target, objectId, orgId, rfl⟩ := object
  cases privileged : target.privileged with
  | true => exact .inr ⟨by simp [objectRead, privileged], restricted⟩
  | false => exact .inl (by simp [objectRead, privileged])

omit [ServerPlatform] in
theorem ToolCall.Fits.read {call : ToolCall} {read : CatalogRead} (fits : call.Fits)
    (reads : call.Reads read) : ReadFits read.tool read.capability := by
  cases call with
  | invoke | named =>
      obtain ⟨tool, capability⟩ := reads
      rw [tool, capability]
      exact fits
  | plan => exact readFits_objectRead (by decide) reads
  | apply => exact readFits_objectRead (by decide) reads
  | _ => exact reads.elim

/-- Whatever a call sends without a body is an ordinary or a privileged read. -/
theorem ToolCall.Fits.sends {call : ToolCall} (fits : call.Fits) :
    (call.program handler caller).Ensures
      (OnSend fun past request => ¬IsWrite request → SentBy handler caller call.tool past request)
      (fun _ _ => True) [] := by
  refine call.reads_ensures (fun read past request reads allowed _ => ?_)
    (fun args _ record work past _ reading => absurd nofun reading)
  rw [← reads.tool]
  exact sentBy_of_readAllowed (fits.read reads) allowed

/-- Only an apply writes, and it writes once its gates are passed. -/
theorem ToolCall.sentBy_of_isWrite {call : ToolCall} {before after : MistHistory}
    {request : MistRequest} {priority : CallPriority} {rest : MistProgram ToolOutcome}
    (run : Run (call.program handler caller)
      (before ++ ⟨.executeAs request priority, ()⟩ :: after) rest) (write : IsWrite request) :
    SentBy handler caller call.tool before request := by
  obtain ⟨_, ⟨args, _, _, rfl, _⟩, _⟩ :=
    ToolCall.sendsWrite_of_mem run (List.mem_append_right _ List.mem_cons_self) write
  obtain ⟨work, claimed, driftChecked, now, reads, reached, rfl, _⟩ :=
    applyMistChangeSet_write write run
  exact .write rfl (writeTarget_listed _ _) args work claimed driftChecked now reads reached rfl

/-- Every request of a tool is sent by right after the events so far. -/
theorem callTool_sentBy (name : String) (arguments : Json.Value) :
    (callTool handler caller name arguments).Ensures
      (OnSend fun past request => SentBy handler caller name past request) (fun _ _ => True) [] := by
  rcases callTool_serves name arguments with ⟨outcome, same⟩ | ⟨call, rfl, fits, same⟩
  · rw [same]
    trivial
  · rw [same]
    refine ensures_of_runs (fun history op next run => ?_) fun _ _ _ => trivial
    rintro request priority rfl
    have sent := run.trans (.step _ next () (.start _))
    by_cases write : IsWrite request
    · exact call.sentBy_of_isWrite sent write
    · exact fits.sends.event sent request priority rfl write

end Reads

/-- Whatever tool is called with whatever arguments, what it sends is an ordinary read, a
privileged read whose caller's token names the tool and grants the read, or the write of an apply
that has passed its gates. -/
theorem surface_contained (handler : MistHandler) (caller : Option CallerCtx) (name : String)
    (arguments : Json.Value) {before after : MistHistory} {request : MistRequest}
    {priority : CallPriority} {rest : MistProgram ToolOutcome}
    (run : Run (callTool handler caller name arguments)
      (before ++ ⟨.executeAs request priority, ()⟩ :: after) rest) :
    SentBy handler caller name before request :=
  (callTool_sentBy name arguments).event run request priority rfl

section Transport

/-- The tool scope admits every tool that a body calls when the body is let through. -/
theorem allowsTool_of_check {preflight : MistScopePreflight} {caller : CallerScopes}
    {body : ByteArray} (passed : preflight.check body caller = .ok ())
    {value message params : Json} {tool : String} (found : bodyValue body = some value)
    (present : message ∈ messagesOf value) (call : CallsTool message tool params) :
    caller.tools.allowsTool tool preflight.restrictedTools = true := by
  by_contra refused
  have denied : preflight.denies value caller = true := by
    rw [denies_eq_any, List.any_eq_true]
    refine ⟨message, present, ?_⟩
    rw [requestExceedsScope_of_call call, Bool.eq_false_iff.mpr refused, Bool.not_false,
      Bool.true_or]
  rw [check_eq, found, Option.elim_some, MistScopePreflight.verdict, if_pos denied] at passed
  cases passed

/-- A body that the transport lets through reaches more than ordinary reads only through a
restricted tool that the caller's token names. -/
theorem transport_contained (handler : MistHandler) (context : CallerCtx) (body : ByteArray)
    (passed : (⟨restrictedTools⟩ : MistScopePreflight).check body
      ⟨context.devices, context.tools⟩ = .ok ())
    {value message params : Json} {tool : String} (found : bodyValue body = some value)
    (present : message ∈ messagesOf value) (call : CallsTool message tool params)
    (arguments : Json.Value) {history : MistHistory} {rest : MistProgram ToolOutcome}
    (run : Run (callTool handler (some context) tool arguments) history rest)
    {request : MistRequest} {priority : CallPriority}
    (sent : (⟨.executeAs request priority, ()⟩ : MistEvent) ∈ history)
    (extraordinary : ¬ReadsOrdinary handler request) :
    tool ∈ restrictedTools ∧ ∃ names, context.tools = .allowlist names ∧ tool ∈ names := by
  have allowed := allowsTool_of_check passed found present call
  have restricted : tool ∈ restrictedTools := by
    obtain ⟨before, after, rfl⟩ := List.append_of_mem sent
    cases (callTool_sentBy tool arguments).event run request priority rfl with
    | ordinary reads => exact absurd reads extraordinary
    | privileged context' _ operation target names grant reads => exact reads.restricted
    | write applies =>
        rw [applies]
        decide
  exact ⟨restricted, named_of_allowsTool allowed restricted⟩

end Transport

end RustMist

namespace RustMist.Network

open Effects Effects.Program

/-- These arguments name the change set of a create. -/
def applyArguments : Json.Value :=
  ⟨.object [("change_set_id", .string "change"), ("object", .string "network")], by decide⟩

theorem callTool_apply (caller : Option CallerCtx) :
    callTool handler caller "apply_mist_change_set" applyArguments =
      (ToolCall.apply (args none)).program handler caller := rfl

theorem creation_called : Run (callTool handler (some reader) "apply_mist_change_set" applyArguments)
    (creationSent (some reader) network)
    (perform .response >>= concludeWrite handler (creation (some reader) network)
      (creationClaim network) false) := by
  rw [callTool_apply]
  exact creation_sends (some reader) rfl

theorem surface_contained_creation :
    SentBy handler (some reader) "apply_mist_change_set" (creationEvents (some reader) network)
      (creation (some reader) network).writeRequest :=
  @surface_contained _ handler (some reader) "apply_mist_change_set" applyArguments _ [] _ _ _
    creation_called

/-- The message that calls the apply. -/
def applyMessage : Json :=
  .object [("jsonrpc", .string "2.0"), ("id", Json.ofNat 1), ("method", .string "tools/call"),
    ("params", .object [("name", .string "apply_mist_change_set"),
      ("arguments", applyArguments.val)])]

def applyBody : ByteArray := (serdeToString applyMessage).toUTF8

theorem applyBody_value : bodyValue applyBody = some applyMessage := bodyValue_message (by decide)

theorem applyBody_passes : (⟨restrictedTools⟩ : MistScopePreflight).check applyBody
    ⟨reader.devices, reader.tools⟩ = .ok () := by
  rw [check_eq, applyBody_value]
  decide

theorem creation_extraordinary :
    ¬ReadsOrdinary handler (creation (some reader) network).writeRequest := by
  rintro ⟨_, _, _, _, bodiless⟩
  cases bodiless

theorem transport_contained_creation :
    "apply_mist_change_set" ∈ restrictedTools ∧
      ∃ names, reader.tools = .allowlist names ∧ "apply_mist_change_set" ∈ names :=
  have present : applyMessage ∈ messagesOf applyMessage := List.mem_cons_self
  transport_contained handler reader applyBody applyBody_passes applyBody_value present
    ⟨rfl, rfl, rfl⟩ applyArguments creation_called (creation_sent_mem (some reader) network)
    creation_extraordinary

end RustMist.Network
