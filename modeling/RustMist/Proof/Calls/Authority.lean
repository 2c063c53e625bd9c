import RustMist.Proof.Calls.Requests
import RustMist.Proof.Plan.Staging

/-! What an authenticated caller was checked for when a change call sends a request. -/

namespace RustMist

open Effects Effects.Program

variable [ServerPlatform]

/-- The scopes and the grant of a caller admit the operation, the action and the target of a
request. -/
def CheckedFor (handler : MistHandler) (context : CallerCtx) (tool : String)
    (request : MistRequest) : Prop :=
  ∃ operation target, handler.catalog.operation request.operationId = some operation ∧
    DerivedTarget request.path operation.targetSelectors target ∧
    ScopeAdmits (some context) tool target ∧
    GrantAdmits (some context) request.operationId operation.capability target

theorem checkedFor_of_readAllowed {handler : MistHandler} {context : CallerCtx}
    {read : CatalogRead} {past : MistHistory} {request : MistRequest}
    (allowed : ReadAllowed handler read (some context) past request) :
    CheckedFor handler context read.tool request := by
  obtain ⟨operation, target, admitted⟩ := allowed
  rw [admitted.same]
  exact ⟨operation, target, admitted.catalogued, admitted.derived, admitted.scope, admitted.grant⟩

/-- Whatever is sent without a body was checked. -/
theorem checkedFor_of_not_isWrite {handler : MistHandler} {context : CallerCtx} {call : ToolCall}
    {history : MistHistory} {rest : MistProgram ToolOutcome} {request : MistRequest}
    {priority : CallPriority} (run : Run (call.program handler (some context)) history rest)
    (sent : (⟨.executeAs request priority, ()⟩ : MistEvent) ∈ history)
    (reading : ¬IsWrite request) : CheckedFor handler context call.tool request := by
  have checked : (call.program handler (some context)).Ensures
      (OnSend fun _ request => ¬IsWrite request → CheckedFor handler context call.tool request)
      (fun _ _ => True) [] :=
    call.program_ensures
      (fun read past request same allowed _ => same ▸ checkedFor_of_readAllowed allowed)
      (fun args _ record work past _ reading => absurd nofun reading)
  obtain ⟨before, after, rfl⟩ := List.append_of_mem sent
  exact checked.event run request priority rfl reading

/-- The caller holds the authority for the write that an apply sends. -/
structure WriteAuthorized (handler : MistHandler) (context : CallerCtx) (work : ApplyWork)
    (operation : MistOperation) (target : Option MistTarget) : Prop where
  catalogued : handler.catalog.operation work.target.writeOperationId = some operation
  /-- The target is read from the staged organization and the named object. -/
  derived : DerivedTarget work.writePath operation.targetSelectors target
  tool : context.tools.allowsTool "apply_mist_change_set" restrictedTools = true
  devices : ∀ subject, target = some subject → context.devices.allows subject.subject = true
  /-- Without a grant a caller may only read. -/
  ungranted : context.grant = none → operation.capability = .ordinaryRead
  granted : ∀ grant, context.grant = some grant →
    grant.allowsOperation work.target.writeOperationId = true ∧
      grant.allowsAction operation.capability = true ∧
      ∀ subject, target = some subject → grant.allowsTarget subject = true

omit [ServerPlatform] in
theorem grantAdmits_iff {operationId : String} {action : MistCapability}
    {target : Option MistTarget} : GrantAdmits (some context) operationId action target ↔
      (context.grant = none → action = .ordinaryRead) ∧
        ∀ grant, context.grant = some grant → grant.allowsOperation operationId = true ∧
          grant.allowsAction action = true ∧
          ∀ subject, target = some subject → grant.allowsTarget subject = true := by
  unfold GrantAdmits
  rw [Option.bind_some]
  cases context.grant <;> simp

/-- A caller is checked for a write exactly when it holds the authority. -/
theorem checkedFor_write_iff {work : ApplyWork} :
    CheckedFor handler context "apply_mist_change_set" work.writeRequest ↔
      ∃ operation target, WriteAuthorized handler context work operation target := by
  constructor
  · rintro ⟨operation, target, catalogued, derived, scope, grant⟩
    obtain ⟨tool, devices⟩ := scope context rfl
    obtain ⟨ungranted, granted⟩ := grantAdmits_iff.mp grant
    exact ⟨operation, target, catalogued, derived, tool, devices, ungranted, granted⟩
  · rintro ⟨operation, target, holds⟩
    refine ⟨operation, target, holds.catalogued, holds.derived, fun other same => ?_,
      grantAdmits_iff.mpr ⟨holds.ungranted, holds.granted⟩⟩
    rw [← Option.some.inj same]
    exact ⟨holds.tool, holds.devices⟩

/-- A plan or an apply of an authenticated caller sends only what the caller was checked for,
exactly when the caller happens to hold the authority for the write that an apply sends. -/
theorem changeCall_checked_iff (handler : MistHandler) (context : CallerCtx) (call : ToolCall)
    (history : MistHistory) (rest : MistProgram ToolOutcome)
    (run : Run (call.program handler (some context)) history rest) :
    (∀ request priority, (⟨.executeAs request priority, ()⟩ : MistEvent) ∈ history →
      CheckedFor handler context call.tool request) ↔
    ∀ work, call.SendsWrite (some context) history work →
      ∃ operation target, WriteAuthorized handler context work operation target := by
  constructor
  · rintro checked work ⟨args, record, priority, rfl, _, _, sent⟩
    exact checkedFor_write_iff.mp (checked _ priority sent)
  · intro admitted request priority sent
    by_cases write : IsWrite request
    · obtain ⟨work, sends, rfl⟩ := ToolCall.sendsWrite_of_mem run sent write
      obtain ⟨args, _, _, rfl, _⟩ := id sends
      exact checkedFor_write_iff.mpr (admitted work sends)
    · exact checkedFor_of_not_isWrite run sent write

end RustMist

namespace RustMist.Network

open Effects Effects.Program

/-- This caller may read the network and holds no authority to create one. -/
def reader : CallerCtx where
  tokenName := "reader"
  requestId := "request"
  actorType := .human
  devices := .allowlist [target.subject]
  tools := .allowlist ["apply_mist_change_set"]
  grant := some ⟨["getOrgNetwork"], [.ordinaryRead], [target]⟩

theorem reader_unchecked :
    ¬CheckedFor handler reader "apply_mist_change_set" (creation (some reader) network).writeRequest := by
  rintro ⟨operation, subject, catalogued, _, _, granted⟩
  have named : (creation (some reader) network).writeRequest.operationId =
    createOrgNetwork.operationId := rfl
  rw [named, handler_operation (by simp [networkOperations])] at catalogued
  obtain rfl := Option.some.inj catalogued
  exact absurd granted.2.1 (by decide)

/-- An apply of this caller sends the write of a create. -/
theorem creation_sent_unchecked :
    Catalog.fromJson (serdeToString (paddedDocument networkOperations).toJson) =
        .ok handler.catalog ∧
      Run ((ToolCall.apply (args none)).program handler (some reader))
        (creationSent (some reader) network)
        (perform .response >>= concludeWrite handler (creation (some reader) network)
          (creationClaim network) false) ∧
      ¬∀ request priority,
        (⟨.executeAs request priority, ()⟩ : MistEvent) ∈ creationSent (some reader) network →
          CheckedFor handler reader (ToolCall.apply (args none)).tool request := by
  refine ⟨catalog_accepted, creation_sends (some reader) rfl, fun checked => ?_⟩
  exact reader_unchecked (checked _ _ (creation_sent_mem (some reader) network))

theorem changeCall_checked_iff_creation :
    (∀ request priority,
      (⟨.executeAs request priority, ()⟩ : MistEvent) ∈ creationSent (some reader) network →
        CheckedFor handler reader (ToolCall.apply (args none)).tool request) ↔
    ∀ work, (ToolCall.apply (args none)).SendsWrite (some reader)
      (creationSent (some reader) network) work →
        ∃ operation target, WriteAuthorized handler reader work operation target :=
  changeCall_checked_iff handler reader (.apply (args none)) (creationSent (some reader) network) _
    (creation_sends (some reader) rfl)

end RustMist.Network
