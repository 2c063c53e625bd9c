import RustMist.Construction.Server.Dispatch
import RustMist.Proof.Catalog.Loading

/-! What a catalogued read has passed when its request is sent. -/

namespace RustMist

open Effects

section Targets

/-- A selector list and the path values determine one canonical target or none. -/
inductive DerivedTarget (path : PathValues) : List TargetSelector → Option MistTarget → Prop where
  | none : DerivedTarget path [.none] none
  | org (target : MistTarget) (kind : target.kind = .org)
      (supplied : path.get "org_id" = some target.id) : DerivedTarget path [.org] (some target)
  | site (target : MistTarget) (kind : target.kind = .site)
      (supplied : path.get "site_id" = some target.id) : DerivedTarget path [.site] (some target)

theorem targetFor_derived {selectors : List TargetSelector} {path : PathValues}
    {target : Option MistTarget} (found : targetFor selectors path = .ok target) :
    DerivedTarget path selectors target := by
  unfold targetFor at found
  split at found
  · obtain rfl := Except.ok.inj found
    exact .none
  · split at found
    · cases found
    · rename_i supplied
      split at found
      · rename_i accepted
        obtain rfl := Except.ok.inj found
        obtain ⟨kind, same⟩ := MistTarget.org_ok_iff.mp accepted
        exact .org _ kind (same ▸ supplied)
      · cases found
  · split at found
    · cases found
    · rename_i supplied
      split at found
      · rename_i accepted
        obtain rfl := Except.ok.inj found
        obtain ⟨kind, same⟩ := MistTarget.site_ok_iff.mp accepted
        exact .site _ kind (same ▸ supplied)
      · cases found
  · split at found <;> cases found

/-- A derived target gives the result of the selection back. -/
theorem DerivedTarget.targetFor_eq {selectors : List TargetSelector} {path : PathValues}
    {target : Option MistTarget} (derived : DerivedTarget path selectors target) :
    targetFor selectors path = .ok target := by
  cases derived with
  | none => rfl
  | org target kind supplied =>
      have accepted : MistTarget.org target.id = .ok target := MistTarget.org_ok_iff.mpr ⟨kind, rfl⟩
      simp only [targetFor, supplied, accepted]
  | site target kind supplied =>
      have accepted : MistTarget.site target.id = .ok target :=
        MistTarget.site_ok_iff.mpr ⟨kind, rfl⟩
      simp only [targetFor, supplied, accepted]

end Targets

section Authority

/-- A grant lists the operation, the action and the target; without one only ordinary reads pass. -/
def GrantAdmits (caller : Option CallerCtx) (operationId : String) (action : MistCapability)
    (target : Option MistTarget) : Prop :=
  match caller.bind CallerCtx.grant with
  | none => action = .ordinaryRead
  | some grant =>
      grant.allowsOperation operationId = true ∧ grant.allowsAction action = true ∧
        ∀ subject, target = some subject → grant.allowsTarget subject = true

theorem authorizeGrant_ok_iff {caller : Option CallerCtx} {operationId : String}
    {action : MistCapability} {target : Option MistTarget} :
    authorizeGrant caller operationId action target = .ok () ↔
      GrantAdmits caller operationId action target := by
  unfold authorizeGrant GrantAdmits
  cases caller with
  | none =>
      simp only [Option.bind_none]
      split <;> simp_all
  | some caller =>
      simp only [Option.bind_some]
      cases caller.grant with
      | none =>
          simp only
          split <;> simp_all
      | some grant =>
          cases target with
          | none => simp
          | some subject => simp; tauto

/-- The tool scope of a caller admits the tool and its device scope admits the target. -/
def ScopeAdmits [ServerPlatform] (caller : Option CallerCtx) (tool : String) (target : Option MistTarget) : Prop :=
  ∀ context, caller = some context → context.tools.allowsTool tool restrictedTools = true ∧
    ∀ subject, target = some subject → context.devices.allows subject.subject = true

/-- An organization is allowlisted itself; a site is known and its organization is allowlisted. -/
def Allowlisted (handler : MistHandler) (past : MistHistory) (target : MistTarget) : Prop :=
  match target.kind with
  | .org => target.id ∈ handler.allowedOrgs
  | .site => ∃ (sites : SortedMap String String) (orgId : String),
      ⟨.sites, sites⟩ ∈ past ∧ sites.get target.id = some orgId ∧ orgId ∈ handler.allowedOrgs

theorem Allowlisted.mono {handler : MistHandler} {past later : MistHistory} {target : MistTarget}
    (allowed : Allowlisted handler past target) (included : past ⊆ later) :
    Allowlisted handler later target := by
  unfold Allowlisted at allowed ⊢
  split
  · rename_i kind
    simpa only [kind] using allowed
  · rename_i kind
    simp only [kind] at allowed
    obtain ⟨sites, orgId, present, found, listed⟩ := allowed
    exact ⟨sites, orgId, included present, found, listed⟩

theorem validatePageLimit_ok {query : QueryValues} (valid : validatePageLimit query = .ok ())
    {limit : Json} (supplied : query.get "limit" = some limit) :
    ∃ number : UInt64, limit = .number (.posInt number) ∧ 1 ≤ number ∧ number ≤ 100 := by
  simp only [validatePageLimit, supplied] at valid
  split at valid
  · rename_i accepted
    obtain ⟨number, read, bounds⟩ := (Option.any_eq_true _ _).mp accepted
    rw [Bool.and_eq_true, decide_eq_true_iff, decide_eq_true_iff] at bounds
    exact ⟨number, Json.asUInt64_eq_some_iff.mp read, bounds.1, bounds.2⟩
  · cases valid

end Authority

section Validation

variable [Platform]

/-- These are the checks of a request for one operation. -/
structure ValidRequest (request : MistRequest) (catalog : Catalog) (origin : String)
    (operation : MistOperation) : Prop where
  bounds : validateRequestBounds request = .ok ()
  catalogued : catalog.operation request.operationId = some operation
  parameters : validateParameters request operation catalog = .ok ()
  body : validateJsonBody request operation catalog = .ok ()
  cursor : validateCursor request.cursor operation origin = .ok ()

/-- A request that passes the checks is returned unchanged. -/
theorem validate_eq_ok_iff {request accepted : MistRequest} {catalog : Catalog} {origin : String} :
    request.validate catalog origin = .ok accepted ↔
      accepted = request ∧ ∃ operation, ValidRequest request catalog origin operation := by
  unfold MistRequest.validate
  rw [bind_eq_ok_iff]
  constructor
  · rintro ⟨_, bounds, rest⟩
    split at rest
    · cases rest
    · rename_i operation catalogued
      simp only [bind_eq_ok_iff] at rest
      obtain ⟨_, parameters, _, body, _, cursor, same⟩ := rest
      exact ⟨(Except.ok.inj same).symm, operation, bounds, catalogued, parameters, body, cursor⟩
  · rintro ⟨rfl, operation, valid⟩
    refine ⟨(), valid.bounds, ?_⟩
    rw [valid.catalogued]
    dsimp only
    rw [bind_of_ok valid.parameters, bind_of_ok valid.body, bind_of_ok valid.cursor]

theorem validate_returns {request accepted : MistRequest} {catalog : Catalog} {origin : String}
    (valid : request.validate catalog origin = .ok accepted) : accepted = request :=
  (validate_eq_ok_iff.mp valid).1

theorem ValidRequest.validate {request : MistRequest} {catalog : Catalog} {origin : String}
    {operation : MistOperation} (valid : ValidRequest request catalog origin operation) :
    request.validate catalog origin = .ok request :=
  validate_eq_ok_iff.mpr ⟨rfl, operation, valid⟩

end Validation

section Admission

/-- This is the request that a catalogued read stands for. -/
def CatalogRead.request (read : CatalogRead) : MistRequest where
  operationId := read.operationId
  path := read.path
  query := read.query
  json := none
  cursor := read.cursor

/-- This guard restrains the requests that are sent and nothing else. -/
def OnSend (allowed : MistHistory → MistRequest → Prop) (past : MistHistory) (op : Op) : Prop :=
  ∀ request priority, op = .executeAs request priority → allowed past request

theorem OnSend.sent {allowed : MistHistory → MistRequest → Prop} {past : MistHistory}
    {request : MistRequest} {priority : CallPriority} (holds : allowed past request) :
    OnSend allowed past (.executeAs request priority) := by
  intro request' priority' same
  obtain ⟨rfl, -⟩ := Op.executeAs.inj same
  exact holds

variable [ServerPlatform]

/-- These are the conditions under which a read is sent. -/
structure AdmittedRead (handler : MistHandler) (read : CatalogRead) (caller : Option CallerCtx)
    (past : MistHistory) (operation : MistOperation) (target : Option MistTarget)
    (request : MistRequest) : Prop where
  same : request = read.request
  catalogued : handler.catalog.operation read.operationId = some operation
  method : operation.method = "GET"
  capability : operation.capability = read.capability
  derived : DerivedTarget read.path operation.targetSelectors target
  scope : ScopeAdmits caller read.tool target
  grant : GrantAdmits caller read.operationId operation.capability target
  allowlisted : ∀ subject, target = some subject → Allowlisted handler past subject
  pageLimit : ∀ limit, read.query.get "limit" = some limit →
    ∃ number : UInt64, limit = .number (.posInt number) ∧ 1 ≤ number ∧ number ≤ 100
  valid : request.validate handler.catalog handler.origin = .ok request

theorem admitRead_ok {handler : MistHandler} {read : CatalogRead} {caller : Option CallerCtx}
    {target : Option MistTarget} (admitted : admitRead handler read caller = .ok target) :
    ∃ operation, handler.catalog.operation read.operationId = some operation ∧
      operation.method = "GET" ∧ operation.capability = read.capability ∧
      DerivedTarget read.path operation.targetSelectors target ∧
      ScopeAdmits caller read.tool target ∧
      GrantAdmits caller read.operationId operation.capability target := by
  unfold admitRead at admitted
  split at admitted
  · cases admitted
  · rename_i operation catalogued
    split at admitted
    · cases admitted
    · rename_i derived
      split at admitted
      · cases admitted
      · rename_i classified
        split at admitted
        · cases admitted
        · split at admitted
          · cases admitted
          · rename_i scopeChecked
            split at admitted
            · cases admitted
            · rename_i granted
              obtain rfl := Except.ok.inj admitted
              rw [not_or, not_not, not_not] at classified
              refine ⟨operation, catalogued, classified.1, classified.2,
                targetFor_derived derived, ?_, authorizeGrant_ok_iff.mp granted⟩
              rintro context rfl
              have allowed := ServerPlatform.authorizeCall_ok _ _ _ _ scopeChecked
              refine ⟨allowed.1, ?_⟩
              rintro subject rfl
              exact allowed.2 _ rfl

/-- A read is sent only when it is admitted. -/
def ReadAllowed (handler : MistHandler) (read : CatalogRead) (caller : Option CallerCtx)
    (past : MistHistory) (request : MistRequest) : Prop :=
  ∃ operation target, AdmittedRead handler read caller past operation target request

/-- Only the last program of a read sends, and it sends the given request. -/
theorem sendRead_ensures {handler : MistHandler} {read : CatalogRead} {caller : Option CallerCtx}
    {target : Option MistTarget} {request : MistRequest} {past : MistHistory}
    {allowed : MistHistory → MistRequest → Prop} (holds : allowed past request) :
    (sendRead handler read caller target request).Ensures (OnSend allowed) (fun _ _ => True)
      past := by
  unfold sendRead
  refine Program.ensures_ask_iff.mpr ⟨OnSend.sent holds, fun _ => ?_⟩
  refine Program.ensures_ask_iff.mpr ⟨nofun, fun answer => ?_⟩
  cases answer with
  | error error => trivial
  | ok response =>
      refine Program.ensures_ask_iff.mpr ⟨nofun, fun budget => ?_⟩
      cases acceptResponse handler request target response <;> trivial

theorem requestRead_ensures {handler : MistHandler} {read : CatalogRead}
    {caller : Option CallerCtx} {operation : MistOperation} {target : Option MistTarget}
    {past : MistHistory} (catalogued : handler.catalog.operation read.operationId = some operation)
    (method : operation.method = "GET") (capability : operation.capability = read.capability)
    (derived : DerivedTarget read.path operation.targetSelectors target)
    (scope : ScopeAdmits caller read.tool target)
    (grant : GrantAdmits caller read.operationId operation.capability target)
    (allowlisted : ∀ subject, target = some subject → Allowlisted handler past subject) :
    (requestRead handler read caller target).Ensures (OnSend (ReadAllowed handler read caller))
      (fun _ _ => True) past := by
  unfold requestRead
  split
  · trivial
  · rename_i limited
    dsimp only
    split
    · trivial
    · rename_i request valid
      obtain rfl := validate_returns valid
      exact sendRead_ensures ⟨operation, target, rfl, catalogued, method, capability, derived,
        scope, grant, allowlisted, fun limit => validatePageLimit_ok limited, valid⟩

omit [ServerPlatform] in
/-- The allowlist check is silent exactly for the targets that it admits. -/
theorem allowlistProblem_ensures (handler : MistHandler) (target : MistTarget)
    (past : MistHistory) :
    (allowlistProblem handler target).Ensures (fun _ (op : Op) => op = .sites)
      (fun (history : MistHistory) problem => problem = none → Allowlisted handler history target)
      past := by
  unfold allowlistProblem Allowlisted
  cases target.kind with
  | org =>
      dsimp only
      split
      · rename_i listed
        exact fun _ => listed
      · exact fun impossible => by cases impossible
  | site =>
      dsimp only
      refine Program.ensures_ask_iff.mpr ⟨rfl, fun sites => ?_⟩
      split
      · exact fun impossible => by cases impossible
      · rename_i orgId found
        split
        · rename_i listed
          exact fun _ => ⟨sites, orgId, by simp, found, listed⟩
        · exact fun impossible => by cases impossible

theorem dispatchCataloguedRead_ensures (handler : MistHandler) (read : CatalogRead)
    (caller : Option CallerCtx) (past : MistHistory) :
    (dispatchCataloguedRead handler read caller).Ensures
      (OnSend (ReadAllowed handler read caller)) (fun _ _ => True) past := by
  unfold dispatchCataloguedRead
  split
  · trivial
  · rename_i admitted
    obtain ⟨operation, catalogued, method, capability, derived, scope, grant⟩ :=
      admitRead_ok admitted
    exact requestRead_ensures catalogued method capability derived scope grant
      (by rintro subject ⟨⟩)
  · rename_i subject admitted
    obtain ⟨operation, catalogued, method, capability, derived, scope, grant⟩ :=
      admitRead_ok admitted
    have silent : ∀ history (op : Op), op = .sites →
        OnSend (ReadAllowed handler read caller) history op := by
      rintro history op rfl request priority ⟨⟩
    have listed : (allowlistProblem handler subject).Ensures
        (OnSend (ReadAllowed handler read caller))
        (fun (history : MistHistory) problem => problem = none →
          Allowlisted handler history subject) past :=
      (allowlistProblem_ensures handler subject past).mono
        (fun history op => silent (past ++ history) op) (fun _ _ => id)
    refine listed.bind fun history problem reached => ?_
    cases problem with
    | some reason => trivial
    | none =>
        refine requestRead_ensures catalogued method capability derived scope grant ?_
        rintro target ⟨⟩
        exact reached rfl

/-- A read talks to the client, the budget and the site map. -/
def IsReadOp : Op → Prop
  | .executeAs _ _ | .response | .budgetStatus | .sites => True
  | _ => False

/-- A read touches neither the change-set store nor the evidence log. -/
theorem dispatchCataloguedRead_readOps (handler : MistHandler) (read : CatalogRead)
    (caller : Option CallerCtx) (past : MistHistory) :
    (dispatchCataloguedRead handler read caller).Ensures (fun _ (op : Op) => IsReadOp op)
      (fun _ _ => True) past := by
  have sent (target : Option MistTarget) (past : MistHistory) :
      (requestRead handler read caller target).Ensures (fun _ (op : Op) => IsReadOp op)
        (fun _ _ => True) past := by
    unfold requestRead
    split
    · trivial
    · dsimp only
      split
      · trivial
      · refine Program.ensures_ask_iff.mpr ⟨trivial, fun _ => ?_⟩
        refine Program.ensures_ask_iff.mpr ⟨trivial, fun answer => ?_⟩
        cases answer with
        | error error => trivial
        | ok response =>
            refine Program.ensures_ask_iff.mpr ⟨trivial, fun budget => ?_⟩
            dsimp only
            split <;> trivial
  unfold dispatchCataloguedRead
  split
  · trivial
  · exact sent none past
  · rename_i subject _
    have silent : (allowlistProblem handler subject).Ensures (fun _ (op : Op) => IsReadOp op)
        (fun _ _ => True) past :=
      (allowlistProblem_ensures handler subject past).mono
        (by rintro history op rfl; trivial) (fun _ _ _ => trivial)
    refine silent.bind fun history problem _ => ?_
    cases problem with
    | some reason => trivial
    | none => exact sent (some subject) _

theorem isReadOp_of_mem {handler : MistHandler} {read : CatalogRead} {caller : Option CallerCtx}
    {history : MistHistory} {rest : MistProgram CallToolResult}
    (run : Program.Run (dispatchCataloguedRead handler read caller) history rest) :
    ∀ event ∈ history, IsReadOp event.op :=
  fun _ member => (dispatchCataloguedRead_readOps handler read caller []).event_mem run member

/-- A catalogued read calls the client only after every one of its checks has passed, whatever the
site map, the caller and the answers are. -/
theorem cataloguedReadSendsOnlyAdmitted (handler : MistHandler) (read : CatalogRead)
    (caller : Option CallerCtx) :
    (dispatchCataloguedRead handler read caller).Ensures
      (OnSend (ReadAllowed handler read caller)) (fun _ _ => True) [] :=
  dispatchCataloguedRead_ensures handler read caller []

end Admission

end RustMist
