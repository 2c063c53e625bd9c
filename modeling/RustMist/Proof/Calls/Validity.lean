import RustMist.Construction.SiteDiscovery
import RustMist.Proof.Calls.Requests
import RustMist.Proof.Plan.Staging

/-! Which of the requests that are sent the catalog has validated. -/

namespace RustMist

open Effects Effects.Program

section Discovery

variable [Platform]

/-- The request is accepted for the catalog and the origin. -/
def Validated (catalog : Catalog) (origin : String) (request : MistRequest) : Prop :=
  request.validate catalog origin = .ok request

variable {catalog : Catalog} {origin : String}

theorem discoverOrgPages_ensures (orgId : String) (sites : SiteMap) (page left : Nat)
    (past : MistHistory) :
    (discoverOrgPages catalog origin orgId sites page left).Ensures
      (OnSend fun _ request => Validated catalog origin request) (fun _ _ => True) past := by
  induction left generalizing sites page past with
  | zero => trivial
  | succ left ih =>
      unfold discoverOrgPages
      split
      · trivial
      · rename_i request valid
        obtain rfl := validate_returns valid
        refine ensures_ask_iff.mpr ⟨OnSend.sent valid, fun _ => ?_⟩
        refine ensures_ask_iff.mpr ⟨nofun, fun answer => ?_⟩
        cases answer with
        | error error => trivial
        | ok response =>
            dsimp only
            split
            · trivial
            · split
              · trivial
              · split
                · trivial
                · exact ih _ _ _

theorem discoverFrom_ensures (discovered : SiteDiscovery) (orgs : List String)
    (past : MistHistory) :
    (discoverFrom catalog origin discovered orgs).Ensures
      (OnSend fun _ request => Validated catalog origin request) (fun _ _ => True) past := by
  induction orgs generalizing discovered past with
  | nil => trivial
  | cons orgId rest ih =>
      unfold discoverFrom discoverOrgSites
      refine (discoverOrgPages_ensures orgId _ _ _ _).bind fun history result _ => ?_
      obtain ⟨sites, outcome⟩ := result
      dsimp only
      split <;> exact ih _ _

end Discovery

variable [ServerPlatform]

/-- The staged body and the path of a write meet the catalog. -/
structure WriteValid (handler : MistHandler) (work : ApplyWork) (operation : MistOperation)
    (schema : Json) : Prop where
  /-- The depth, the member counts and the string lengths are within their bounds. -/
  bounds : validateRequestBounds work.writeRequest = .ok ()
  catalogued : handler.catalog.operation work.target.writeOperationId = some operation
  /-- The organization and the identifier are declared and meet their schemas. -/
  parameters : validateParameters work.writeRequest operation handler.catalog = .ok ()
  declared : operation.requestSchemas.get "application/json" = some schema
  /-- The schema is taken as the catalog declares it. -/
  body : schemaMatches handler.catalog schema work.after .request = some (.ok ())

theorem validateSchema_ok_iff {request : MistRequest} {catalog : Catalog} {schema value : Json} :
    validateSchema request catalog schema value = .ok () ↔
      schemaMatches catalog schema value .request = some (.ok ()) := by
  unfold validateSchema
  split <;> simp_all

/-- A write is accepted exactly when its staged body and its path meet the catalog. -/
theorem validated_write_iff {handler : MistHandler} {work : ApplyWork} :
    Validated handler.catalog handler.origin work.writeRequest ↔
      ∃ operation schema, WriteValid handler work operation schema := by
  rw [Validated, validate_eq_ok_iff]
  constructor
  · rintro ⟨-, operation, valid⟩
    have body := valid.body
    unfold validateJsonBody at body
    simp only [ApplyWork.writeRequest] at body
    split at body
    · cases body
    · rename_i schema declared
      exact ⟨operation, schema, valid.bounds, valid.catalogued, valid.parameters, declared,
        validateSchema_ok_iff.mp body⟩
  · rintro ⟨operation, schema, valid⟩
    have body : validateJsonBody work.writeRequest operation handler.catalog = .ok () := by
      unfold validateJsonBody
      simp only [ApplyWork.writeRequest, valid.declared]
      exact validateSchema_ok_iff.mpr valid.body
    exact ⟨rfl, operation, valid.bounds, valid.catalogued, valid.parameters, body, rfl⟩

/-- Every request without a body was validated. -/
theorem validated_of_not_isWrite {handler : MistHandler} {caller : Option CallerCtx}
    {call : ToolCall} {history : MistHistory} {rest : MistProgram ToolOutcome}
    {request : MistRequest} {priority : CallPriority}
    (run : Run (call.program handler caller) history rest)
    (sent : (⟨.executeAs request priority, ()⟩ : MistEvent) ∈ history)
    (reading : ¬IsWrite request) : Validated handler.catalog handler.origin request := by
  have validated : (call.program handler caller).Ensures
      (OnSend fun _ request => ¬IsWrite request →
        Validated handler.catalog handler.origin request) (fun _ _ => True) [] :=
    call.program_ensures
      (by
        rintro read past request _ ⟨operation, target, admitted⟩ _
        exact admitted.valid)
      (fun args _ record work past _ reading => absurd nofun reading)
  obtain ⟨before, after, rfl⟩ := List.append_of_mem sent
  exact validated.event run request priority rfl reading

/-- Every request of every call and of every discovery pass was validated, but for the write of an
apply, which is valid only as far as the staged body and the path are. -/
theorem sentRequests_validated_iff (handler : MistHandler) :
    (∀ (call : ToolCall) (caller : Option CallerCtx) history rest,
      Run (call.program handler caller) history rest →
        ((∀ request priority, (⟨.executeAs request priority, ()⟩ : MistEvent) ∈ history →
          Validated handler.catalog handler.origin request) ↔
        ∀ work, call.SendsWrite caller history work →
          ∃ operation schema, WriteValid handler work operation schema)) ∧
    ∀ history rest,
      Run (discoverSites handler.catalog handler.origin handler.allowedOrgs) history rest →
        ∀ request priority, (⟨.executeAs request priority, ()⟩ : MistEvent) ∈ history →
          Validated handler.catalog handler.origin request := by
  constructor
  · intro call caller history rest run
    constructor
    · rintro validated work ⟨args, record, priority, rfl, _, _, sent⟩
      exact validated_write_iff.mp (validated _ priority sent)
    · intro valid request priority sent
      by_cases write : IsWrite request
      · obtain ⟨work, sends, rfl⟩ := ToolCall.sendsWrite_of_mem run sent write
        exact validated_write_iff.mpr (valid work sends)
      · exact validated_of_not_isWrite run sent write
  · intro history rest run request priority sent
    obtain ⟨before, after, rfl⟩ := List.append_of_mem sent
    exact (discoverFrom_ensures ⟨∅, []⟩ handler.allowedOrgs []).event run request priority rfl

end RustMist

namespace RustMist.Network

open Effects Effects.Program

/-- This body lacks the name that a network requires. -/
def nameless : Json := .object []

theorem nameless_invalid : ¬∃ operation schema,
    WriteValid handler (creation none nameless) operation schema := by
  rintro ⟨operation, schema, valid⟩
  have named : (creation none nameless).target.writeOperationId =
    createOrgNetwork.operationId := rfl
  have catalogued := valid.catalogued
  rw [named, handler_operation (by simp [networkOperations])] at catalogued
  obtain rfl := Option.some.inj catalogued
  have declared : networkRequests.get "application/json" = some schema := valid.declared
  have known : networkRequests.get "application/json" = some networkSchema := by
    simp [networkRequests, SortedMap.ofList]
  obtain rfl := Option.some.inj (known.symm.trans declared)
  have refused : schemaMatches handler.catalog networkSchema nameless .request ≠ some (.ok ()) := by
    decide +kernel
  exact refused valid.body

/-- An apply sends a body that the schema of its operation refuses. -/
theorem creation_sent_invalid :
    Catalog.fromJson (serdeToString (paddedDocument networkOperations).toJson) =
        .ok handler.catalog ∧
      Run ((ToolCall.apply (args none)).program handler none) (creationSent none nameless)
        (perform .response >>= concludeWrite handler (creation none nameless)
          (creationClaim nameless) false) ∧
      ¬∀ request priority,
        (⟨.executeAs request priority, ()⟩ : MistEvent) ∈ creationSent none nameless →
          Validated handler.catalog handler.origin request := by
  refine ⟨catalog_accepted, creation_sends none rfl, fun validated => ?_⟩
  exact nameless_invalid (validated_write_iff.mp
    (validated _ _ (creation_sent_mem none nameless)))

end RustMist.Network
