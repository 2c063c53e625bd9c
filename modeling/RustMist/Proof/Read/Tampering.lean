import RustMist.Proof.Read.Cursor

/-! What a forged cursor can dispatch beside its own path and query. -/

namespace RustMist

open Effects Effects.Program

section Dispatch

variable [ServerPlatform] {handler : MistHandler} {read : CatalogRead}
  {caller : Option CallerCtx} {target : Option MistTarget} {request : MistRequest}
  {priority : CallPriority} {before after : MistHistory}

/-- A program hands a request to the client after these events. -/
def Dispatches (program : MistProgram CallToolResult) (before : MistHistory)
    (request : MistRequest) (priority : CallPriority) : Prop :=
  ∃ after rest, Run program (before ++ ⟨.executeAs request priority, ()⟩ :: after) rest

/-- A send hands over its request first and no other request. -/
theorem sendRead_dispatches_iff {sent : MistRequest} :
    Dispatches (sendRead handler read caller target sent) before request priority ↔
      before = [] ∧ request = sent ∧ priority = callPriorityFor caller := by
  constructor
  · rintro ⟨after, rest, run⟩
    unfold sendRead at run
    cases before with
    | nil =>
        cases run with
        | step op next answer later => exact ⟨rfl, rfl, rfl⟩
    | cons first before =>
        cases run with
        | step op next answer later =>
            obtain ⟨answer, before', rfl, answered⟩ := Run.seek_ask later nofun
            cases answer with
            | error error => exact answered.seek_pure.elim
            | ok response =>
                obtain ⟨budget, before', rfl, judged⟩ := answered.seek_ask nofun
                dsimp only at judged
                split at judged <;> exact judged.seek_pure.elim
  · rintro ⟨rfl, rfl, rfl⟩
    exact ⟨[], _, .answered (.start _)⟩

/-- A read is sent when its page limit and its request are valid. -/
theorem requestRead_dispatches_iff :
    Dispatches (requestRead handler read caller target) before request priority ↔
      validatePageLimit read.query = .ok () ∧
        read.request.validate handler.catalog handler.origin = .ok read.request ∧
        before = [] ∧ request = read.request ∧ priority = callPriorityFor caller := by
  constructor
  · rintro ⟨after, rest, run⟩
    unfold requestRead at run
    split at run
    · exact run.seek_pure.elim
    · rename_i limited
      dsimp only at run
      split at run
      · exact run.seek_pure.elim
      · rename_i sent valid
        obtain rfl := validate_returns valid
        exact ⟨limited, valid, sendRead_dispatches_iff.mp ⟨after, rest, run⟩⟩
  · rintro ⟨limited, valid, sent⟩
    have sends : Dispatches (sendRead handler read caller target read.request) before request
      priority := sendRead_dispatches_iff.mpr sent
    obtain ⟨after, rest, run⟩ := sends
    refine ⟨after, rest, ?_⟩
    unfold CatalogRead.request at valid run
    unfold requestRead
    rw [limited]
    dsimp only
    rw [valid]
    exact run

/-- The allowlist lets a target pass after these events. -/
def PassesAllowlist (handler : MistHandler) (before : MistHistory) : Option MistTarget → Prop
  | none => before = []
  | some target => Completes (allowlistProblem handler target) before none

theorem admitRead_cursor (handler : MistHandler) (read : CatalogRead) (cursor : Option MistCursor)
    (caller : Option CallerCtx) :
    admitRead handler { read with cursor := cursor } caller = admitRead handler read caller := rfl

/-- A read is dispatched when it is admitted, allowlisted and valid. -/
theorem dispatchCataloguedRead_dispatches_iff :
    Dispatches (dispatchCataloguedRead handler read caller) before request priority ↔
      ∃ target, admitRead handler read caller = .ok target ∧
        PassesAllowlist handler before target ∧ validatePageLimit read.query = .ok () ∧
        read.request.validate handler.catalog handler.origin = .ok read.request ∧
        request = read.request ∧ priority = callPriorityFor caller := by
  constructor
  · rintro ⟨after, rest, run⟩
    unfold dispatchCataloguedRead at run
    split at run
    · exact run.seek_pure.elim
    · rename_i admitted
      obtain ⟨limited, valid, rfl, same, drawn⟩ :=
        requestRead_dispatches_iff.mp ⟨after, rest, run⟩
      exact ⟨none, admitted, rfl, limited, valid, same, drawn⟩
    · rename_i subject admitted
      have silent : ∀ history rest, Run (allowlistProblem handler subject) history rest →
          (⟨.executeAs request priority, ()⟩ : MistEvent) ∉ history := by
        intro history rest early member
        have quiet := (allowlistProblem_ensures handler subject []).event_mem early member
        cases quiet
      obtain ⟨problem, first, second, rfl, done, late⟩ := run.seek_bind silent
      cases problem with
      | some reason => exact late.seek_pure.elim
      | none =>
          obtain ⟨limited, valid, rfl, same, drawn⟩ :=
            requestRead_dispatches_iff.mp ⟨after, rest, late⟩
          rw [List.append_nil]
          exact ⟨some subject, admitted, done, limited, valid, same, drawn⟩
  · rintro ⟨target, admitted, passes, limited, valid, same, drawn⟩
    have sends : Dispatches (requestRead handler read caller target) [] request priority :=
      requestRead_dispatches_iff.mpr ⟨limited, valid, rfl, same, drawn⟩
    obtain ⟨after, rest, run⟩ := sends
    refine ⟨after, rest, ?_⟩
    unfold dispatchCataloguedRead
    rw [admitted]
    cases target with
    | none =>
        obtain rfl : before = [] := passes
        exact run
    | some subject => exact Run.bind passes run

end Dispatch

section Tampering

variable [ServerPlatform]

/-- A cursor that the dispatcher resolves carries the path and the query of the read. -/
theorem resolveArgs_cursor {handler : MistHandler} {operationId encoded : String}
    {path : Option PathValues} {query : Option QueryValues}
    {resolved : PathValues × QueryValues × Option MistCursor}
    (passed : resolveArgs handler ⟨operationId, path, query, some encoded⟩ = .ok resolved) :
    ∃ cursor context, decodeCursor encoded = some cursor ∧ cursor.context = some context ∧
      resolved = (context.path, context.query, some cursor) := by
  unfold resolveArgs at passed
  split at passed
  · cases passed
  · dsimp only at passed
    split at passed
    · cases passed
    · rename_i cursor decoded
      split at passed
      · cases passed
      · rename_i context carried
        split at passed
        · cases passed
        · exact ⟨cursor, context, decoded, carried, (Except.ok.inj passed).symm⟩

theorem invokeDispatcher_dispatches {handler : MistHandler} {tool : String} {args : InvokeReadArgs}
    {capability : MistCapability} {caller : Option CallerCtx} {before : MistHistory}
    {request : MistRequest} {priority : CallPriority} {path : PathValues} {query : QueryValues}
    {cursor : Option MistCursor} (resolved : resolveArgs handler args = .ok (path, query, cursor))
    (sends : Dispatches (dispatchCataloguedRead handler
      ⟨tool, args.operationId, path, query, cursor, capability, true⟩ caller) before request
        priority) :
    Dispatches (invokeDispatcher handler tool args capability caller) before request priority := by
  unfold invokeDispatcher
  rw [resolved]
  exact sends

/-- The arguments that name the path and the query of a cursor and no cursor. -/
def directArgs (operationId : String) (context : MistCursorContext) : InvokeReadArgs :=
  ⟨operationId, some context.path, some context.query, none⟩

/-- A dispatched cursor is bound to its operation and its origin, its request differs from the
direct one in the parameter of the pagination only, and the direct one is dispatched as well. -/
structure CursorConfined (handler : MistHandler) (tool operationId encoded : String)
    (capability : MistCapability) (caller : Option CallerCtx) (before : MistHistory)
    (request : MistRequest) (priority : CallPriority) (cursor : MistCursor)
    (context : MistCursorContext) (operation : MistOperation) : Prop where
  decoded : decodeCursor encoded = some cursor
  carried : cursor.context = some context
  catalogued : handler.catalog.operation operationId = some operation
  named : cursor.operationId = operationId
  located : cursor.origin = handler.origin
  paged : cursor.mode = operation.pagination
  sent : request = ⟨operationId, context.path, context.query, none, some cursor⟩
  /-- The two URLs of a client agree in everything else. -/
  apart : ∀ (client : HttpMistClient) key url direct,
    cursorQueryKey operation.pagination = some key →
    client.buildUrl operationId context.path context.query (some cursor) = .ok url →
    client.buildUrl operationId context.path context.query none = .ok direct →
      SameApart key direct url
  direct : Dispatches (invokeDispatcher handler tool (directArgs operationId context) capability
    caller) before { request with cursor := none } priority

/-- A cursor dispatches nothing that its own path and query would not dispatch. -/
theorem cursor_never_widens (json : String) (fingerprints : Fingerprints) (handler : MistHandler)
    (accepted : Catalog.parse json fingerprints = .ok handler.catalog)
    (tool operationId encoded : String) (path : Option PathValues) (query : Option QueryValues)
    (capability : MistCapability) (caller : Option CallerCtx) (before : MistHistory)
    (request : MistRequest) (priority : CallPriority)
    (dispatched : Dispatches (invokeDispatcher handler tool ⟨operationId, path, query, some encoded⟩
      capability caller) before request priority) :
    ∃ cursor context operation, CursorConfined handler tool operationId encoded capability caller
      before request priority cursor context operation := by
  obtain ⟨after, rest, run⟩ := dispatched
  unfold invokeDispatcher at run
  split at run
  · exact run.seek_pure.elim
  · rename_i path' query' cursor' resolved
    obtain ⟨cursor, context, decoded, carried, same⟩ := resolveArgs_cursor resolved
    obtain ⟨rfl, rfl, rfl⟩ := same
    dsimp only at run
    obtain ⟨target, admitted, passes, limited, valid, rfl, rfl⟩ :=
      dispatchCataloguedRead_dispatches_iff.mp ⟨after, rest, run⟩
    obtain ⟨-, operation, checks⟩ := validate_eq_ok_iff.mp valid
    have bound : cursor.validateFor operation handler.origin = .ok () := checks.cursor
    obtain ⟨named, located, paged⟩ := validateFor_ok_iff.mp bound
    have catalogued : handler.catalog.operation operationId = some operation := checks.catalogued
    have loaded := Catalog.parse_loaded accepted
    have identified := ((loaded.found _ _).mp catalogued).2
    refine ⟨cursor, context, operation, decoded, carried, catalogued, named.trans identified,
      located, paged, rfl, ?_, ?_⟩
    · intro client key url direct keyed built original
      refine sameApart_of_built keyed ?_ ?_ original built
      · rintro _ ⟨⟩
        exact paged
      · nofun
    · have direct : Dispatches (dispatchCataloguedRead handler
          ⟨tool, operationId, context.path, context.query, none, capability, true⟩ caller) before
          ⟨operationId, context.path, context.query, none, none⟩ (callPriorityFor caller) := by
        refine dispatchCataloguedRead_dispatches_iff.mpr
          ⟨target, admitted, passes, limited, ?_, rfl, rfl⟩
        exact ValidRequest.validate ⟨checks.bounds, catalogued, by
          have parameters := checks.parameters
          rw [← validateParameters_cursor _ none] at parameters
          exact parameters, checks.body, rfl⟩
      exact invokeDispatcher_dispatches rfl direct

end Tampering

end RustMist

namespace RustMist.Network

open Effects Effects.Program

section Tampering

/-- The continuation of the sites as a caller hands it back. -/
def continuationArgs : InvokeReadArgs :=
  ⟨siteRead.operationId, none, none, some carriedSites.encode⟩

def continuedRequest : MistRequest := { siteRead.request with cursor := some carriedSites }

theorem decode_carriedSites : decodeCursor carriedSites.encode = some carriedSites :=
  decodeCursor_encode readText_empty (urlParse_reference _) (cursorJson_wellFormed formed_siteRead)
    carriedSites_fits

theorem resolve_continuation : resolveArgs siteHandler continuationArgs =
    .ok (siteRead.path, siteRead.query, some carriedSites) := by
  have carries : carriedSites.context = some ⟨siteRead.path, siteRead.query, some target⟩ := rfl
  have derived : derivedTarget siteHandler.catalog siteRead.operationId siteRead.path =
    some target := derivedTarget_of_admitted admitRead_sites
  exact resolveArgs_of_decoded decode_carriedSites carries derived

theorem validate_continuation : continuedRequest.validate siteHandler.catalog siteHandler.origin =
    .ok continuedRequest := by
  have valid : siteRead.request.validate siteHandler.catalog siteHandler.origin =
    .ok siteRead.request := validate_page List.mem_cons_self (by decide)
  have found : siteHandler.catalog.operation siteRead.request.operationId =
    some (sealed siteListing) := operation_sites
  obtain ⟨-, operation, checks⟩ := validate_eq_ok_iff.mp valid
  obtain rfl := Option.some.inj (found.symm.trans checks.catalogued)
  have bound : carriedSites.validateFor (sealed siteListing) siteHandler.origin = .ok () := rfl
  exact (checks.continued bound).validate

theorem continuation_dispatches :
    Dispatches (invokeDispatcher siteHandler "invoke_mist_read" continuationArgs .ordinaryRead none)
      [] continuedRequest .standard := by
  have sends : Dispatches (dispatchCataloguedRead siteHandler
      { siteRead with cursor := some carriedSites } none) [] continuedRequest .standard := by
    have admitted : admitRead siteHandler { siteRead with cursor := some carriedSites } none =
        .ok (some target) := by
      rw [admitRead_cursor]
      exact admitRead_sites
    refine dispatchCataloguedRead_dispatches_iff.mpr
      ⟨some target, admitted, ?_, limit_sites, validate_continuation, rfl, rfl⟩
    have silent : allowlistProblem siteHandler target = Program.pure none :=
      allowlistProblem_org rfl List.mem_cons_self
    change Completes (allowlistProblem siteHandler target) [] none
    rw [silent]
    exact .start _
  exact invokeDispatcher_dispatches resolve_continuation sends

theorem cursor_never_widens_sites :
    ∃ cursor context operation, CursorConfined siteHandler "invoke_mist_read"
      siteRead.operationId carriedSites.encode .ordinaryRead none [] continuedRequest .standard
      cursor context operation :=
  cursor_never_widens _ .verify siteHandler siteCatalog_accepted "invoke_mist_read"
    siteRead.operationId carriedSites.encode none none .ordinaryRead none [] continuedRequest
    .standard continuation_dispatches

end Tampering

end RustMist.Network
