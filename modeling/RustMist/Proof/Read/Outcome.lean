import RustMist.Construction.Server.Plan
import RustMist.Proof.Read.Admission

/-! What the result of a catalogued read says about the client's answer. -/

namespace RustMist

open Effects Effects.Program

section Envelopes

theorem wellFormed_ofOption {value : Option Json}
    (formed : ∀ json, value = some json → json.wellFormed = true) :
    (Json.ofOption value).wellFormed = true := by
  cases value with
  | none => rfl
  | some json => exact formed json rfl

theorem envelopeData_wellFormed (body : MistResponseBody) :
    (envelopeData body).2.wellFormed = true := by
  cases body with
  | json value => exact value.property
  | text value => rfl
  | binary bytes =>
      apply (Json.wellFormed_array_iff _).mpr
      intro value member
      obtain ⟨byte, _, rfl⟩ := List.mem_map.mp member
      rfl
  | empty => rfl

theorem pageInfo_wellFormed (info : MistPageInfo) : info.toJson.wellFormed = true := by
  obtain ⟨page, limit, total⟩ := info
  cases page <;> cases limit <;> cases total <;> rfl

/-- An envelope is well formed when its data is. -/
theorem envelope_wellFormed (envelope : ReadEnvelope) (formed : envelope.data.wellFormed = true) :
    envelope.toJson.wellFormed = true := by
  have text : ∀ value : Option String, (Json.ofOption (value.map Json.string)).wellFormed = true := by
    intro value
    cases value <;> rfl
  have status : (Json.ofNat envelope.status.toNat).wellFormed = true := rfl
  have budget : ∀ value : BudgetStatus, value.toJson.wellFormed = true := fun _ => rfl
  rw [ReadEnvelope.toJson, Json.wellFormed_object_iff]
  cases envelope.page <;> cases envelope.budgetRemaining <;>
    simp [optionalMember, IndexMap.keys, formed, text, status, budget, pageInfo_wellFormed]

theorem envelope_get_data (envelope : ReadEnvelope) :
    envelope.toJson.get "data" = some envelope.data := rfl

end Envelopes

variable [ServerPlatform]

/-- A result that is not an error carries the data of its envelope. -/
theorem readData_toolResult {envelope : ReadEnvelope} (formed : envelope.data.wellFormed = true)
    (returned : (toolResult (.ok envelope.toJson)).isError ≠ some true) :
    readData (toolResult (.ok envelope.toJson)) = .ok envelope.data := by
  rcases toolResult_ok envelope.toJson (envelope_wellFormed envelope formed) with
    failed | ⟨text, first, parsed⟩
  · exact absurd failed returned
  · unfold readData
    rw [first]
    simp only [parsed, envelope_get_data]

/-- The data of a result is a part of a value that was read. -/
theorem readData_wellFormed {result : CallToolResult} {data : Json}
    (read : readData result = .ok data) : data.wellFormed = true := by
  unfold readData at read
  split at read
  · cases read
  · split at read
    · cases read
    · rename_i value parsed
      split at read
      · cases read
      · rename_i found
        obtain rfl := Except.ok.inj read
        exact Json.wellFormed_of_get (Platform.fromStr_wellFormed _ _ parsed) found

theorem attachContext_body {response accepted : MistResponse} {path : PathValues}
    {query : QueryValues} {target : Option MistTarget}
    (attached : attachContext response path query target = .ok accepted) :
    accepted.body = response.body ∧ accepted.status = response.status := by
  unfold attachContext at attached
  split at attached
  · obtain rfl := Except.ok.inj attached
    exact ⟨rfl, rfl⟩
  · split at attached
    · obtain rfl := Except.ok.inj attached
      exact ⟨rfl, rfl⟩
    · cases attached

/-- A response that is validated is returned unchanged, and its cursor continues its operation. -/
theorem response_validate_ok {response accepted : MistResponse} {catalog : Catalog}
    {origin : String} (valid : response.validate catalog origin = .ok accepted) :
    accepted = response ∧ ∃ operation, catalog.operation response.operationId = some operation ∧
      validateCursor response.cursor operation origin = .ok () := by
  unfold MistResponse.validate at valid
  split at valid
  · cases valid
  · rename_i operation catalogued
    split at valid
    · cases valid
    · simp only [bind_eq_ok_iff] at valid
      obtain ⟨_, _, _, _, _, cursor, same⟩ := valid
      exact ⟨(Except.ok.inj same).symm, operation, catalogued, cursor⟩

theorem response_validate_returns {response accepted : MistResponse} {catalog : Catalog}
    {origin : String} (valid : response.validate catalog origin = .ok accepted) :
    accepted = response :=
  (response_validate_ok valid).1

/-- The context is attached to an accepted response last. -/
theorem acceptResponse_attached {handler : MistHandler} {request : MistRequest}
    {target : Option MistTarget} {response accepted : MistResponse}
    (passed : acceptResponse handler request target response = .ok accepted) :
    attachContext response request.path request.query target = .ok accepted := by
  unfold acceptResponse at passed
  split at passed
  · cases passed
  · split at passed
    · cases passed
    · rename_i valid
      obtain rfl := response_validate_returns valid
      split at passed
      · cases passed
      · exact passed

/-- An accepted response is validated, successful and has the body that the client gave. -/
theorem acceptResponse_ok {handler : MistHandler} {request : MistRequest}
    {target : Option MistTarget} {response accepted : MistResponse}
    (passed : acceptResponse handler request target response = .ok accepted) :
    response.operationId = request.operationId ∧
      response.validate handler.catalog handler.origin = .ok response ∧
      isSuccess response.status = true ∧ accepted.body = response.body := by
  unfold acceptResponse at passed
  split at passed
  · cases passed
  · rename_i same
    split at passed
    · cases passed
    · rename_i valid
      obtain rfl := response_validate_returns valid
      split at passed
      · cases passed
      · rename_i success
        obtain ⟨body, _⟩ := attachContext_body passed
        exact ⟨not_not.mp same, valid, by simpa using success, body⟩

/-- This is what a completed read that returned data has done. -/
structure ReturnedRead (handler : MistHandler) (read : CatalogRead) (caller : Option CallerCtx)
    (history : MistHistory) (result : CallToolResult) (target : Option MistTarget)
    (response accepted : MistResponse) : Prop where
  admitted : admitRead handler read caller = .ok target
  valid : read.request.validate handler.catalog handler.origin = .ok read.request
  answered : ∃ before budget, history = before ++
    [⟨.executeAs read.request (callPriorityFor caller), ()⟩, ⟨.response, .ok response⟩,
      ⟨.budgetStatus, budget⟩] ∧
    result = toolResult (.ok
      (ReadEnvelope.fromResponse accepted target budget read.redactOutput).toJson)
  passed : acceptResponse handler read.request target response = .ok accepted

theorem sendRead_completes {handler : MistHandler} {read : CatalogRead} {caller : Option CallerCtx}
    {target : Option MistTarget} {history : MistHistory} {result : CallToolResult}
    (run : Completes (sendRead handler read caller target read.request) history result)
    (returned : result.isError ≠ some true) :
    ∃ response accepted budget, history =
      [⟨.executeAs read.request (callPriorityFor caller), ()⟩, ⟨.response, .ok response⟩,
        ⟨.budgetStatus, budget⟩] ∧
      result = toolResult (.ok
        (ReadEnvelope.fromResponse accepted target budget read.redactOutput).toJson) ∧
      acceptResponse handler read.request target response = .ok accepted := by
  unfold sendRead at run
  obtain ⟨_, afterSend, rfl, waiting⟩ := (completes_ask_iff _ _ _ _).mp run
  obtain ⟨answer, afterAnswer, rfl, answered⟩ := (completes_ask_iff _ _ _ _).mp waiting
  cases answer with
  | error error =>
      obtain ⟨_, rfl⟩ := (completes_pure_iff _ _ _).mp answered
      exact absurd (toolResult_error _) returned
  | ok response =>
      obtain ⟨budget, afterBudget, rfl, judged⟩ := (completes_ask_iff _ _ _ _).mp answered
      cases passed : acceptResponse handler read.request target response with
      | error error =>
          simp only [passed] at judged
          obtain ⟨_, rfl⟩ := (completes_pure_iff _ _ _).mp judged
          exact absurd (toolResult_error _) returned
      | ok accepted =>
          simp only [passed] at judged
          obtain ⟨rfl, rfl⟩ := (completes_pure_iff _ _ _).mp judged
          exact ⟨response, accepted, budget, rfl, rfl, passed⟩

theorem requestRead_completes {handler : MistHandler} {read : CatalogRead}
    {caller : Option CallerCtx} {target : Option MistTarget} {history : MistHistory}
    {result : CallToolResult}
    (run : Completes (requestRead handler read caller target) history result)
    (returned : result.isError ≠ some true) :
    read.request.validate handler.catalog handler.origin = .ok read.request ∧
      Completes (sendRead handler read caller target read.request) history result := by
  unfold requestRead at run
  split at run
  · obtain ⟨_, rfl⟩ := (completes_pure_iff _ _ _).mp run
    exact absurd (MistCallError.result_isError _) returned
  · dsimp only at run
    split at run
    · obtain ⟨_, rfl⟩ := (completes_pure_iff _ _ _).mp run
      exact absurd (toolResult_error _) returned
    · rename_i request valid
      obtain rfl := validate_returns valid
      exact ⟨valid, run⟩

/-- A completed read whose result is not an error got an acceptable response. -/
theorem dispatchCataloguedRead_completes {handler : MistHandler} {read : CatalogRead}
    {caller : Option CallerCtx} {history : MistHistory} {result : CallToolResult}
    (run : Completes (dispatchCataloguedRead handler read caller) history result)
    (returned : result.isError ≠ some true) :
    ∃ target response accepted,
      ReturnedRead handler read caller history result target response accepted := by
  unfold dispatchCataloguedRead at run
  split at run
  · obtain ⟨_, rfl⟩ := (completes_pure_iff _ _ _).mp run
    exact absurd (MistCallError.result_isError _) returned
  · rename_i admitted
    obtain ⟨valid, sent⟩ := requestRead_completes run returned
    obtain ⟨response, accepted, budget, rfl, same, passed⟩ := sendRead_completes sent returned
    exact ⟨none, response, accepted, admitted, valid, ⟨[], budget, rfl, same⟩, passed⟩
  · rename_i subject admitted
    obtain ⟨problem, first, second, rfl, _, late⟩ := (completes_bind_iff _ _ _ _).mp run
    cases problem with
    | some reason =>
        obtain ⟨_, rfl⟩ := (completes_pure_iff _ _ _).mp late
        exact absurd (toolResult_error _) returned
    | none =>
        obtain ⟨valid, sent⟩ := requestRead_completes late returned
        obtain ⟨response, accepted, budget, rfl, same, passed⟩ := sendRead_completes sent returned
        exact ⟨some subject, response, accepted, admitted, valid, ⟨first, budget, rfl, same⟩, passed⟩

omit [ServerPlatform] in
theorem allowlistProblem_org {handler : MistHandler} {target : MistTarget}
    (kind : target.kind = .org) (allowed : target.id ∈ handler.allowedOrgs) :
    allowlistProblem handler target = Program.pure none := by
  rw [allowlistProblem, kind]
  exact if_pos allowed

/-- An admitted read of an allowlisted organization is sent. -/
theorem dispatchCataloguedRead_sends {handler : MistHandler} {read : CatalogRead}
    {caller : Option CallerCtx} {target : MistTarget}
    (admitted : admitRead handler read caller = .ok (some target)) (kind : target.kind = .org)
    (allowed : target.id ∈ handler.allowedOrgs) (limit : validatePageLimit read.query = .ok ())
    (valid : read.request.validate handler.catalog handler.origin = .ok read.request) :
    dispatchCataloguedRead handler read caller =
      sendRead handler read caller (some target) read.request := by
  have silent := allowlistProblem_org kind allowed
  unfold dispatchCataloguedRead
  rw [admitted]
  dsimp only
  rw [silent, pure_bind]
  unfold CatalogRead.request at valid ⊢
  unfold requestRead
  rw [limit]
  dsimp only
  rw [valid]

section Sends

variable {handler : MistHandler} {read : CatalogRead} {caller : Option CallerCtx}
  {target : Option MistTarget} {request : MistRequest}

/-- A sent read returns the accepted answer of the client. -/
theorem sendRead_returns {response accepted : MistResponse} (budget : Option BudgetStatus)
    (passed : acceptResponse handler request target response = .ok accepted) :
    Completes (sendRead handler read caller target request)
      [⟨.executeAs request (callPriorityFor caller), ()⟩, ⟨.response, .ok response⟩,
        ⟨.budgetStatus, budget⟩]
      (toolResult (.ok (ReadEnvelope.fromResponse accepted target budget
        read.redactOutput).toJson)) := by
  unfold sendRead
  apply completes_ask_cons_iff.mpr
  apply completes_ask_cons_iff.mpr
  apply completes_ask_cons_iff.mpr
  rw [passed]
  exact .start _

theorem sendRead_fails (error : MistError) :
    Completes (sendRead handler read caller target request)
      [⟨.executeAs request (callPriorityFor caller), ()⟩, ⟨.response, .error error⟩]
      (toolResult (.error (MistCallError.mist error).toString)) :=
  .answered (.answered (.start _))

end Sends

/-- Without redaction the data of a read is the data of the response's body. -/
theorem ReturnedRead.data {handler : MistHandler} {read : CatalogRead}
    {caller : Option CallerCtx} {history : MistHistory} {result : CallToolResult}
    {target : Option MistTarget} {response accepted : MistResponse}
    (read_returned : ReturnedRead handler read caller history result target response accepted)
    (raw : read.redactOutput = false) (returned : result.isError ≠ some true) :
    readData result = .ok (envelopeData response.body).2 := by
  obtain ⟨before, budget, _, rfl⟩ := read_returned.answered
  have body := (acceptResponse_ok read_returned.passed).2.2.2
  have data : (ReadEnvelope.fromResponse accepted target budget read.redactOutput).data =
      (envelopeData response.body).2 := by
    simp only [ReadEnvelope.fromResponse, raw, body]
    rfl
  have formed := data ▸ envelopeData_wellFormed response.body
  rw [readData_toolResult formed returned, data]

end RustMist
