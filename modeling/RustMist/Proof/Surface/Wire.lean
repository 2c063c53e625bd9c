import RustMist.Proof.Client.Charges
import RustMist.Proof.Client.Queries
import RustMist.Proof.Apply.Conclusion
import RustMist.Proof.Store.Once
import RustMist.Proof.Surface.Arguments
import RustMist.Proof.Surface.Bounds
import RustMist.Proof.Surface.Containment

/-! What the tools send over HTTP. -/

namespace RustMist

open Effects Effects.Program

section Events

/-- The events of a handler that do not concern the client. -/
def handlerEvents (history : MistHistory) : MistHistory :=
  history.filter fun event => !isClientOp event.op

def toolEvents (history : ServiceHistory) : MistHistory :=
  history.filterMap fun
    | ⟨.tool op, answer⟩ => some ⟨op, answer⟩
    | _ => none

def httpEvents (history : ServiceHistory) : HttpHistory :=
  history.filterMap fun
    | ⟨.http op, answer⟩ => some ⟨op, answer⟩
    | _ => none

theorem handlerEvents_client {op : Op} (own : isClientOp op = true) (past : MistHistory)
    (answer : op.Answer) : handlerEvents (past ++ [⟨op, answer⟩]) = handlerEvents past := by
  simp [handlerEvents, own]

theorem toolEvents_tool (past : ServiceHistory) (op : Op) (answer : op.Answer) :
    toolEvents (past ++ [⟨.tool op, answer⟩]) = toolEvents past ++ [⟨op, answer⟩] := by
  simp [toolEvents]

def isToolOp : ServiceOp → Bool
  | .tool _ => true
  | _ => false

theorem toolEvents_other (past : ServiceHistory) (op : ServiceOp) (answer : op.Answer)
    (other : isToolOp op = false) :
    toolEvents (past ++ [⟨op, answer⟩]) = toolEvents past := by
  cases op with
  | tool own => cases other
  | _ => simp [toolEvents]

theorem httpEvents_http (past : ServiceHistory) (op : HttpOp) (answer : op.Answer) :
    httpEvents (past ++ [⟨.http op, answer⟩]) = httpEvents past ++ [⟨op, answer⟩] := by
  simp [httpEvents]

end Events

section Permitted

variable [Platform] {client : HttpMistRetryClient}
  {joinedQuery : String → String → Option (List (String × String))} {request : MistRequest}
  {priority : CallPriority}

/-- A call with its permit ensures what the call alone ensures of a related history. -/
theorem permittedCall_ensures {past : ServiceHistory} {own : HttpHistory}
    {guard : ServiceHistory → ServiceOp → Prop} {guard' : HttpHistory → HttpOp → Prop}
    {goal : ServiceHistory → Except CallFailure MistResponse → Prop}
    {goal' : HttpHistory → Except CallFailure MistResponse → Prop}
    (call : (client.executeAs joinedQuery request priority).Ensures (S := http) guard' goal' own)
    (related : ServiceHistory → HttpHistory → Prop) (acquires : guard past .acquirePermit)
    (start : related (past ++ [⟨.acquirePermit, ()⟩]) own)
    (extends' : ∀ history own op answer, related history own →
      related (history ++ [⟨.http op, answer⟩]) (own ++ [⟨op, answer⟩]))
    (implied : ∀ history own op, related history own → guard' own op → guard history (.http op))
    (releases : ∀ history own result, related history own → goal' own result →
      guard history .releasePermit ∧ goal (history ++ [⟨.releasePermit, ()⟩]) result) :
    (client.permittedCall joinedQuery request priority).Ensures (S := service) guard goal past := by
  refine ensures_ask_iff.mpr ⟨acquires, fun _ => ?_⟩
  have embedded : ((client.executeAs joinedQuery request priority).embed httpEmbedding).Ensures
      (S := service) guard (fun history result => ∃ own, related history own ∧ goal' own result)
      (past ++ [⟨.acquirePermit, ()⟩]) := by
    refine Ensures.embed related ?_ ?_ call start
    · exact extends'
    · exact implied
  refine embedded.bind fun _ result reached => ?_
  obtain ⟨own, kept, ended⟩ := reached
  obtain ⟨released, finished⟩ := releases _ own result kept ended
  exact ensures_ask_iff.mpr ⟨released, fun _ => finished⟩

/-- Whatever a call with its permit leaves, the operation that makes it leaves. -/
theorem executeAs_ensures {past : ServiceHistory} {guard : ServiceHistory → ServiceOp → Prop}
    {goal : ServiceHistory → Prop} (pending : Option (Except MistError MistResponse))
    (call : (client.permittedCall joinedQuery request priority).Ensures (S := service) guard
      (fun history _ => goal history) past) :
    (client.implement joinedQuery pending (.executeAs request priority)).Ensures (S := service)
      guard (fun history _ => goal history) past := by
  refine call.bind fun history result kept => ?_
  cases result with
  | ok response => exact kept
  | error failure =>
      cases failure with
      | mist error => exact kept
      | overflow => exact kept

end Permitted

section Over

variable [Platform] {α : Type} {client : HttpMistRetryClient}
  {joinedQuery : String → String → Option (List (String × String))}

section Links

/-- The client has answered these operations of a handler in these events. -/
abbrev HandsOn (client : HttpMistRetryClient)
    (joinedQuery : String → String → Option (List (String × String)))
    (pending : Option (Except MistError MistResponse)) (own : MistHistory) (past : ServiceHistory)
    (pending' : Option (Except MistError MistResponse)) : Prop :=
  Linked (client.implement joinedQuery) pending own past pending'

/-- The events of a call of the client as the service sees them. -/
def callEvents (own : HttpHistory) : ServiceHistory :=
  [⟨.acquirePermit, ()⟩] ++ (own.map (fun event => ⟨.http event.op, event.answer⟩) ++
    [⟨.releasePermit, ()⟩])

/-- The client keeps the result of a call that is over. -/
theorem handsOn_call {request : MistRequest} {priority : CallPriority} {own : HttpHistory}
    {result : Except MistError MistResponse} (pending : Option (Except MistError MistResponse))
    (call : Completes (client.executeAs joinedQuery request priority) own
      (result.mapError CallFailure.mist)) :
    HandsOn client joinedQuery pending [⟨.executeAs request priority, ()⟩] (callEvents own)
      (some result) := by
  have embedded : Completes ((client.executeAs joinedQuery request priority).embed httpEmbedding)
      _ _ := Completes.embed (fun _ answer => answer) (fun _ _ => rfl) call
  have permitted : Completes (client.permittedCall joinedQuery request priority) (callEvents own)
      (result.mapError CallFailure.mist) := by
    apply Run.answered
    apply Run.bind embedded
    exact .answered (.start _)
  apply Linked.single
  rw [← List.append_nil (callEvents own)]
  apply Run.bind permitted
  cases result <;> exact .start _

/-- The handler takes the result of its call. -/
theorem handsOn_response (answer : Except MistError MistResponse) :
    HandsOn client joinedQuery (some answer) [⟨.response, answer⟩] [] none :=
  .single (.start _)

theorem handsOn_budget (pending : Option (Except MistError MistResponse)) (status : BudgetStatus) :
    HandsOn client joinedQuery pending [⟨.budgetStatus, some status⟩]
      [⟨.http .budgetStatus, status⟩] pending :=
  .single (.answered (.start _))

/-- The events of a tool as the service sees them. -/
def onTools (own : MistHistory) : ServiceHistory :=
  own.map fun event => ⟨.tool event.op, event.answer⟩

theorem implement_tool {op : Op} (own : isClientOp op = false)
    (pending : Option (Except MistError MistResponse)) :
    client.implement joinedQuery pending op =
      (serve (.tool op) >>= fun answer => Program.pure (some (answer, pending))) := by
  cases op with
  | executeAs | response | budgetStatus => cases own
  | _ => rfl

/-- The operations of a tool are handed on. -/
theorem handsOn_tools {own : MistHistory} (pending : Option (Except MistError MistResponse))
    (tools : ∀ event ∈ own, isClientOp event.op = false) :
    HandsOn client joinedQuery pending own (onTools own) pending := by
  induction own with
  | nil => exact .nil pending
  | cons event later ih =>
      obtain ⟨op, answer⟩ := event
      have handed : Completes (client.implement joinedQuery pending op) [⟨.tool op, answer⟩]
          (some (answer, pending)) := by
        rw [implement_tool (tools _ List.mem_cons_self)]
        exact .answered (.start _)
      exact .cons handed (ih fun other member => tools other (List.mem_cons_of_mem _ member))

/-- The client has answered the operations of a handler so far, and it is about to answer the next
one. -/
def UnderWay (client : HttpMistRetryClient)
    (joinedQuery : String → String → Option (List (String × String))) (own : MistHistory) (op : Op)
    (past : ServiceHistory) : Prop :=
  ∃ early late memory rest, past = early ++ late ∧
    HandsOn client joinedQuery none own early memory ∧
    Run (client.implement joinedQuery memory op) late rest

/-- The client has answered all operations of a handler. -/
def AnsweredBy (client : HttpMistRetryClient)
    (joinedQuery : String → String → Option (List (String × String))) (own : MistHistory)
    (past : ServiceHistory) : Prop :=
  ∃ memory, HandsOn client joinedQuery none own past memory

end Links

section Refinement

/-- This is a step of the implementation of an operation. -/
def StepOf (client : HttpMistRetryClient) (op : Op) (past : ServiceHistory) : ServiceOp → Prop
  | .tool own => isClientOp own = false ∧ own = op
  | .http .budgetStatus => True
  | .http own => ∃ request priority, op = .executeAs request priority ∧
      ExchangeStep client request priority (httpEvents past) own
  | _ => True

/-- Every step over the client is one of the operation that the handler performs after the events
that the client has answered. -/
def WireStep (client : HttpMistRetryClient)
    (joinedQuery : String → String → Option (List (String × String))) (program : MistProgram α)
    (past : ServiceHistory) (step : ServiceOp) : Prop :=
  ∃ own op next, Run program own (.perform op next) ∧ handlerEvents own = toolEvents past ∧
    UnderWay client joinedQuery own op past ∧ StepOf client op past step

theorem permittedCall_steps {request : MistRequest} {priority : CallPriority}
    {past : ServiceHistory} :
    (client.permittedCall joinedQuery request priority).Ensures (S := service)
      (fun history step => StepOf client (.executeAs request priority) history step ∧
        toolEvents history = toolEvents past)
      (fun history _ => toolEvents history = toolEvents past) past := by
  have silent : toolEvents (past ++ [⟨.acquirePermit, ()⟩]) = toolEvents past :=
    toolEvents_other past .acquirePermit () rfl
  refine permittedCall_ensures (executeAs_calls (httpEvents (past ++ [⟨.acquirePermit, ()⟩])))
    (fun history own => httpEvents history = own ∧ toolEvents history = toolEvents past)
    ⟨trivial, rfl⟩ ⟨rfl, silent⟩ (fun history own op answer related => ?_)
    (fun history own op related step => ?_) fun history own result related _ => ?_
  · obtain ⟨rfl, same⟩ := related
    exact ⟨httpEvents_http history op answer,
      (toolEvents_other history (.http op) answer rfl).trans same⟩
  · obtain ⟨rfl, same⟩ := related
    refine ⟨?_, same⟩
    cases op with
    | budgetStatus => trivial
    | _ => exact ⟨request, priority, rfl, step⟩
  · exact ⟨⟨trivial, related.2⟩,
      (toolEvents_other history .releasePermit () rfl).trans related.2⟩

/-- The implementation of an operation adds what the handler sees of it. -/
theorem implement_steps {past : ServiceHistory} {op : Op}
    (pending : Option (Except MistError MistResponse)) :
    (client.implement joinedQuery pending op).Ensures (S := service)
      (fun history step => StepOf client op history step ∧ toolEvents history = toolEvents past)
      (fun history result => ∀ answer memory, result = some (answer, memory) →
        toolEvents history = toolEvents past ++ handlerEvents [⟨op, answer⟩]) past := by
  by_cases own : isClientOp op = true
  · have kept (history : ServiceHistory) (same : toolEvents history = toolEvents past)
        (answer : op.Answer) :
        toolEvents history = toolEvents past ++ handlerEvents [⟨op, answer⟩] := by
      rw [same, ← List.nil_append [_], handlerEvents_client own [] answer]
      exact (List.append_nil _).symm
    cases op with
    | executeAs request priority =>
        exact (executeAs_ensures pending permittedCall_steps).mono (fun _ _ => id)
          fun _ _ same answer _ _ => kept _ same answer
    | response => exact fun answer _ _ => kept _ rfl answer
    | budgetStatus =>
        refine ensures_ask_iff.mpr ⟨⟨trivial, rfl⟩, fun status => ?_⟩
        exact fun answer _ _ => kept _ (toolEvents_other _ (.http .budgetStatus) status rfl) answer
    | _ => cases own
  · rw [Bool.not_eq_true] at own
    rw [implement_tool own]
    refine ensures_ask_iff.mpr ⟨⟨⟨own, rfl⟩, rfl⟩, fun answer => ?_⟩
    intro answer' memory same
    obtain ⟨rfl, _⟩ := Prod.mk.inj (Option.some.inj same)
    have shown : handlerEvents [⟨op, answer⟩] = [⟨op, answer⟩] :=
      List.filter_cons_of_pos (by simp [own])
    rw [shown]
    exact toolEvents_tool past op answer

omit [Platform] in
theorem toolEvents_append (early late : ServiceHistory) :
    toolEvents (early ++ late) = toolEvents early ++ toolEvents late := List.filterMap_append

/-- The client hands on the operations of the tools in their order. -/
theorem handsOn_toolEvents {pending pending' : Option (Except MistError MistResponse)}
    {own : MistHistory} {past : ServiceHistory}
    (handed : HandsOn client joinedQuery pending own past pending') :
    handlerEvents own = toolEvents past := by
  induction handed with
  | nil => rfl
  | @cons op answer first second third early late history implemented _ ih =>
      have steps : (client.implement joinedQuery first op).Ensures (S := service) _ _ [] :=
        implement_steps first
      have seen := steps.returned implemented answer second rfl
      calc handlerEvents (⟨op, answer⟩ :: history)
          = handlerEvents [⟨op, answer⟩] ++ handlerEvents history := List.filter_append [_] history
        _ = toolEvents early ++ toolEvents late := by rw [ih, seen]; rfl
        _ = toolEvents (early ++ late) := (toolEvents_append early late).symm

/-- The implementation of an operation goes on with what the client has answered. -/
theorem implement_answers {program : MistProgram α} {own : MistHistory} {past : ServiceHistory}
    {memory : Option (Except MistError MistResponse)} {op : Op}
    (handed : HandsOn client joinedQuery none own past memory)
    (reached : ∃ next, Run program own (.perform op next)) :
    (client.implement joinedQuery memory op).Ensures (WireStep client joinedQuery program)
      (fun history result => ∀ answer memory', result = some (answer, memory') →
        HandsOn client joinedQuery none (own ++ [⟨op, answer⟩]) history memory') past := by
  obtain ⟨next, run⟩ := reached
  have same := handsOn_toolEvents handed
  have steps : (client.implement joinedQuery memory op).Ensures (S := service) _ _ past :=
    implement_steps memory
  refine steps.along.mono (fun history step reached => ?_) fun history result reached => ?_
  · obtain ⟨⟨step, silent⟩, late, rest, split, under⟩ := reached
    exact ⟨own, op, next, run, same.trans silent.symm, ⟨past, late, memory, _, split, handed, under⟩,
      step⟩
  · obtain ⟨_, late, split, completes⟩ := reached
    rintro answer memory' rfl
    rw [split]
    exact handed.append (.single completes)

/-- A program over the client makes the steps of its handler: its own operations in their order,
and for each of its requests the steps of one call; and what it returns its handler returns. -/
theorem over_ensures (program : MistProgram α) :
    (client.over joinedQuery program).Ensures (S := service) (WireStep client joinedQuery program)
      (fun history result => ∀ value, result = some value →
        ∃ own, Completes program own value ∧ handlerEvents own = toolEvents history ∧
          AnsweredBy client joinedQuery own history) [] := by
  have steps : program.Ensures (S := mist)
      (fun past op => ∃ next, Run program past (.perform op next))
      (fun past value => Completes program past value) [] :=
    ensures_of_runs (fun history op next run => ⟨next, run⟩) (fun history value run => run)
  refine Ensures.mono (Ensures.link (HandsOn client joinedQuery none)
    (fun past past' memory op handed reached => implement_answers handed reached)
    steps (.nil none)) (fun _ _ => id) fun history result reached value same => ?_
  obtain ⟨own, memory, handed, completes⟩ := reached value same
  exact ⟨own, completes, handsOn_toolEvents handed, memory, handed⟩

end Refinement

section Costs

variable {perUnit perSend perWait : Nat}

/-- Only the operations of the client cost something. -/
def ServiceOp.weight (perUnit perSend perWait : Nat) : ServiceOp → Nat
  | .http op => op.weight perUnit perSend perWait
  | _ => 0

/-- This is what all events of a history cost. -/
def wireCost (perUnit perSend perWait : Nat) (history : ServiceHistory) : Nat :=
  (history.map fun event => ServiceOp.weight perUnit perSend perWait event.op).sum

/-- This is the cost of one unit, one request, and a request and a longest wait for each retry. -/
def callCost (client : HttpMistRetryClient) (perUnit perSend perWait : Nat) : Nat :=
  perUnit + retryCost client perSend perWait client.max429Retries.toNat

omit [Platform] in
theorem atMost_serve {op : ServiceOp} {next : op.Answer → ServiceProgram α} {bound : Nat}
    (free : op.weight perUnit perSend perWait = 0)
    (later : ∀ answer, (next answer).AtMost (S := service)
      (ServiceOp.weight perUnit perSend perWait) (fun _ => True) bound) :
    (serve op >>= next).AtMost (S := service) (ServiceOp.weight perUnit perSend perWait)
      (fun _ => True) bound :=
  (atMost_ask_bind (S := service) trivial later).mono (by rw [free, Nat.zero_add])

theorem permittedCall_costs {request : MistRequest} {priority : CallPriority} :
    (client.permittedCall joinedQuery request priority).AtMost (S := service)
      (ServiceOp.weight perUnit perSend perWait) (fun _ => True)
      (callCost client perUnit perSend perWait) := by
  have call : ((client.executeAs joinedQuery request priority).embed httpEmbedding).AtMost
      (S := service) (ServiceOp.weight perUnit perSend perWait) (fun _ => True)
      (callCost client perUnit perSend perWait) := AtMost.embed executeAs_costs
  refine atMost_serve rfl fun _ => AtMost.bind_free call fun result => ?_
  exact atMost_serve rfl fun _ => trivial

theorem implement_costs {op : Op} (pending : Option (Except MistError MistResponse)) :
    (client.implement joinedQuery pending op).AtMost (S := service)
      (ServiceOp.weight perUnit perSend perWait) (fun _ => True)
      (requestWeight op * callCost client perUnit perSend perWait) := by
  by_cases own : isClientOp op = true
  · cases op with
    | executeAs request priority =>
        rw [requestWeight, Nat.one_mul]
        refine AtMost.bind_free permittedCall_costs fun result => ?_
        cases result with
        | ok response => trivial
        | error failure => cases failure <;> trivial
    | response => trivial
    | budgetStatus => exact atMost_serve rfl fun _ => trivial
    | _ => cases own
  · rw [Bool.not_eq_true] at own
    rw [implement_tool own]
    exact atMost_serve rfl fun _ => trivial

/-- A program over the client costs as many calls as its handler sends requests. -/
theorem over_costs {program : MistProgram α} {priority : CallPriority} {bound : Nat}
    (within : SendsAtMost program priority bound) :
    (client.over joinedQuery program).AtMost (S := service)
      (ServiceOp.weight perUnit perSend perWait) (fun _ => True)
      (bound * callCost client perUnit perSend perWait) :=
  within.link (fun pending _ _ => implement_costs pending) none

/-- The budget is asked with the priority of the handler's requests only. -/
theorem over_priority {program : MistProgram α} {priority given : CallPriority} {bound : Nat}
    (within : SendsAtMost program priority bound) {history : ServiceHistory}
    {rest : ServiceProgram (Option α)} (run : Run (client.over joinedQuery program) history rest)
    {outcome : Except BudgetExhausted BudgetStatus}
    (asked : (⟨.http (.tryAcquire given), outcome⟩ : ServiceEvent) ∈ history) :
    given = priority := by
  obtain ⟨before, after, rfl⟩ := List.append_of_mem asked
  have ensured : (client.over joinedQuery program).Ensures (S := service)
      (WireStep client joinedQuery program) _ [] := over_ensures program
  obtain ⟨past, _, next, reached, _, _, request, own, rfl, step⟩ := ensured.event run
  have keeps : program.Ensures (S := mist) (fun _ op => HasPriority priority op) _ [] :=
    within.ensures
  have allowed := (keeps.guard_run reached).1
  exact step.trans allowed

end Costs

end Over

section Tools

variable [ServerPlatform] (handler : MistHandler) (client : HttpMistRetryClient)
  (joinedQuery : String → String → Option (List (String × String)))

/-- Over the client, a call of a tool makes the steps of its handler and returns its result, and
every HTTP request stands for a request that the handler sends after the same events. What the
handler is answered is what the client makes of its own events. -/
theorem callTool_refines (caller : Option CallerCtx) (name : String) (arguments : Json.Value)
    {history : ServiceHistory} {rest : ServiceProgram (Option ToolOutcome)}
    (run : Run (client.over joinedQuery (callTool handler caller name arguments)) history rest) :
    (∀ before event after, history = before ++ event :: after →
      WireStep client joinedQuery (callTool handler caller name arguments) before event.op) ∧
    ∀ outcome, rest = .pure (some outcome) →
      ∃ own, Completes (callTool handler caller name arguments) own outcome ∧
        handlerEvents own = toolEvents history ∧ AnsweredBy client joinedQuery own history := by
  have ensured : (client.over joinedQuery (callTool handler caller name arguments)).Ensures
      (S := service) (WireStep client joinedQuery (callTool handler caller name arguments)) _ [] :=
    over_ensures (callTool handler caller name arguments)
  refine ⟨fun before event after same => ?_, fun outcome same => ?_⟩
  · subst same
    exact ensured.event run
  · subst same
    exact ensured.returned run outcome rfl

/-- A call of a tool asks for no more units of the budget than its tool may send requests, always
with the priority of its caller, and for each it sends and waits no more than the retries allow. -/
theorem callTool_bounded (caller : Option CallerCtx) (name : String) (arguments : Json.Value)
    {history : ServiceHistory} {rest : ServiceProgram (Option ToolOutcome)}
    (run : Run (client.over joinedQuery (callTool handler caller name arguments)) history rest) :
    (∀ perUnit perSend perWait, wireCost perUnit perSend perWait history ≤
      requestBound name * callCost client perUnit perSend perWait) ∧
    ∀ priority outcome, (⟨.http (.tryAcquire priority), outcome⟩ : ServiceEvent) ∈ history →
      priority = callPriorityFor caller := by
  have within : SendsAtMost (callTool handler caller name arguments) _ _ :=
    callTool_sends name arguments
  exact ⟨fun perUnit perSend perWait => ((over_costs within).run run).1,
    fun priority outcome asked => over_priority within run asked⟩

variable {client}

/-- A read is sent with GET and without a body. -/
theorem OnWire.get {request : MistRequest} {method : HttpMethod} {url : Url} {body : Option String}
    (onWire : OnWire client request method url body) (shared : client.catalog = handler.catalog)
    {operation : MistOperation}
    (catalogued : handler.catalog.operation request.operationId = some operation)
    (reads : operation.method = "GET") (bodiless : request.json = none) :
    method = .get ∧ body = none := by
  obtain ⟨operation', catalogued', named⟩ := onWire.method
  rw [shared, catalogued] at catalogued'
  obtain rfl := Option.some.inj catalogued'
  rw [reads] at named
  refine ⟨(Except.ok.inj named).symm, ?_⟩
  rw [onWire.body, bodiless]
  rfl

theorem OnWire.origin {request : MistRequest} {method : HttpMethod} {url : Url}
    {body : Option String} (onWire : OnWire client request method url body) :
    url.origin = client.baseUrl := by
  have built := onWire.built
  unfold HttpMistClient.buildUrl at built
  split at built
  · cases built
  · obtain ⟨expanded, _, built⟩ := bind_eq_ok_iff.mp built
    obtain ⟨effective, _, built⟩ := bind_eq_ok_iff.mp built
    obtain ⟨pairs, _, built⟩ := bind_eq_ok_iff.mp built
    obtain rfl := Except.ok.inj built
    rfl

/-- Every HTTP request of a call goes to the origin of the client and is a bodiless GET for a read
that the caller may make, or else the write of an apply that has passed its gates. -/
theorem wire_contained (shared : client.catalog = handler.catalog) (caller : Option CallerCtx)
    (name : String) (arguments : Json.Value) {before after : ServiceHistory} {method : HttpMethod}
    {url : Url} {body : Option String} {answer : Except String HttpResponse}
    {rest : ServiceProgram (Option ToolOutcome)}
    (run : Run (client.over joinedQuery (callTool handler caller name arguments))
      (before ++ ⟨.http (.send method url body), answer⟩ :: after) rest) :
    url.origin = client.baseUrl ∧ ∃ own request priority, handlerEvents own = toolEvents before ∧
      UnderWay client joinedQuery own (.executeAs request priority) before ∧
      OnWire client request method url body ∧ SentBy handler caller name own request ∧
      (method = .get ∧ body = none ∨ name = "apply_mist_change_set") := by
  have ensured : (client.over joinedQuery (callTool handler caller name arguments)).Ensures
      (S := service) (WireStep client joinedQuery (callTool handler caller name arguments)) _ [] :=
    over_ensures (callTool handler caller name arguments)
  obtain ⟨own, _, next, reached, same, under, request, priority, rfl, onWire, _⟩ :=
    ensured.event run
  have sent : SentBy handler caller name own request :=
    (callTool_sentBy name arguments).event (reached.trans (.step _ next () (.start _))) request
      priority rfl
  refine ⟨onWire.origin, own, request, priority, same, under, onWire, sent, ?_⟩
  cases sent with
  | ordinary reads =>
      obtain ⟨operation, catalogued, get, _, bodiless⟩ := reads
      exact .inl (onWire.get handler shared catalogued get bodiless)
  | privileged context known operation target names grant reads =>
      exact .inl (onWire.get handler shared reads.catalogued reads.method reads.bodiless)
  | write applies => exact .inr applies

end Tools

end RustMist

namespace RustMist.Network

open Effects Effects.Program

section Calls

/-- The server accepts a request and answers with this body. -/
def acceptance (body : Json.Value) : HttpResponse :=
  ⟨200, fun _ => none, (serdeToString body.val).toUTF8.toList⟩

theorem responseBody_acceptance (body : Json.Value) :
    HttpMistRetryClient.responseBody (acceptance body).body = .json body := by
  have read := Platform.fromStr_toString body.val body.property
  have text : String.fromUTF8? ⟨(acceptance body).body.toArray⟩ =
      some (serdeToString body.val) := Utf8.fromUTF8_toUTF8 _
  have nonempty : (acceptance body).body.isEmpty = false := by
    rw [List.isEmpty_eq_false_iff]
    intro empty
    rw [empty] at text
    have none' : serdeToString body.val = "" := (Option.some.inj text).symm
    rw [none'] at read
    cases read
  rw [HttpMistRetryClient.responseBody, nonempty, if_neg Bool.false_ne_true, text]
  dsimp only
  split
  · rename_i json found
    rw [read] at found
    obtain rfl := Except.ok.inj found
    rfl
  · rename_i found
    rw [read] at found
    cases found

variable {client : HttpMistRetryClient}
  {joinedQuery : String → String → Option (List (String × String))}

/-- What a client makes of such an answer when there are no further pages. -/
theorem finishCall_acceptance {operationId : String} {operation : MistOperation}
    (found : client.catalog.operation operationId = some operation)
    (single : operation.pagination = .none) (body : Json.Value) :
    client.finishCall joinedQuery operationId (acceptance body) =
      .ok ⟨operationId, 200, .json body, none, none⟩ := by
  have present : (acceptance body).status ≠ 410 := by
    change (200 : UInt16) ≠ 410
    decide
  have unpaged : parsePageInfo (acceptance body).headerStr = none := rfl
  have ends : deriveNextCursor joinedQuery client.toHttpMistClient operationId (.json body) none =
      none := by
    unfold deriveNextCursor
    rw [found]
    simp [single]
  rw [HttpMistRetryClient.finishCall, if_neg present]
  dsimp only
  rw [responseBody_acceptance, unpaged, ends]
  rfl

/-- This client may retry three times. -/
def writeClient : HttpMistRetryClient := ⟨⟨origin, catalog⟩, 3, 30 * 10 ^ 9⟩

def networksUrl : Url :=
  ⟨origin, UrlPath.setPath ("/api/v1/orgs/" ++ orgId ++ "/networks").toList, []⟩

def networkUrl : Url :=
  ⟨origin, UrlPath.setPath ("/api/v1/orgs/" ++ orgId ++ "/networks/" ++ networkId).toList, []⟩

theorem writeClient_shares : writeClient.catalog = handler.catalog := rfl

theorem operation_create :
    writeClient.catalog.operation plannedWork.writeRequest.operationId =
      some (sealed createOrgNetwork) := by
  have named : plannedWork.writeRequest.operationId = createOrgNetwork.operationId := rfl
  rw [writeClient_shares, named]
  exact handler_operation (List.mem_cons_of_mem _ List.mem_cons_self)

theorem operation_read :
    writeClient.catalog.operation request.operationId = some (sealed getOrgNetwork) := by
  have named : request.operationId = getOrgNetwork.operationId := rfl
  rw [writeClient_shares, named]
  exact operation_get

theorem networks_url :
    writeClient.buildUrl plannedWork.writeRequest.operationId plannedWork.writeRequest.path
      plannedWork.writeRequest.query plannedWork.writeRequest.cursor = .ok networksUrl := by
  have expansion : expandPath createOrgNetwork.operationId createOrgNetwork.path
      plannedWork.writeRequest.path.entries = .ok ("/api/v1/orgs/" ++ orgId ++ "/networks") := by
    decide +kernel
  exact buildUrl_of_parts operation_create expansion rfl rfl

theorem network_url :
    writeClient.buildUrl request.operationId request.path request.query request.cursor =
      .ok networkUrl := by
  have expansion : expandPath getOrgNetwork.operationId getOrgNetwork.path request.path.entries =
      .ok ("/api/v1/orgs/" ++ orgId ++ "/networks/" ++ networkId) := by decide +kernel
  exact buildUrl_of_parts operation_read expansion rfl rfl

def writeBody : Option String := plannedWork.writeRequest.json.map serdeToString

/-- The events of a write that is rejected once and then accepted. -/
def writeCall : HttpHistory :=
  [⟨.tryAcquire .standard, .ok grantedStatus⟩,
    ⟨.buildRequest .post networksUrl, .ok ()⟩, ⟨.send .post networksUrl writeBody, .ok rejection⟩,
    ⟨.sleep (waitAfter writeClient rejection 0), ()⟩, ⟨.buildRequest .post networksUrl, .ok ()⟩,
    ⟨.send .post networksUrl writeBody, .ok (acceptance created)⟩]

theorem write_called :
    Completes (writeClient.executeAs (fun _ _ => none) plannedWork.writeRequest .standard) writeCall
      (.ok createdResponse) := by
  have accepted : (acceptance created).status ≠ 429 := by
    change (200 : UInt16) ≠ 429
    decide
  have loop : Completes (writeClient.sendLoop .post networksUrl writeBody 0) (writeCall.drop 1)
      (.ok (acceptance created)) :=
    sendLoop_retries rfl (by decide) (by decide) (sendLoop_ends accepted)
  have finished : writeClient.finishCall (fun _ _ => none) plannedWork.writeRequest.operationId
      (acceptance created) = .ok createdResponse := finishCall_acceptance operation_create rfl created
  rw [← finished]
  exact executeAs_sends .standard networks_url operation_create rfl grantedStatus loop

/-- The budget after the second call of the hour. -/
def secondStatus : BudgetStatus := ⟨5000, 250, 2, 4748, 4998⟩

/-- The events of the read that follows the write. -/
def readCall : HttpHistory :=
  [⟨.tryAcquire .standard, .ok secondStatus⟩, ⟨.buildRequest .get networkUrl, .ok ()⟩,
    ⟨.send .get networkUrl none, .ok (acceptance created)⟩]

theorem read_called :
    Completes (writeClient.executeAs (fun _ _ => none) request .standard) readCall
      (.ok (response created)) := by
  have accepted : (acceptance created).status ≠ 429 := by
    change (200 : UInt16) ≠ 429
    decide
  have loop : Completes (writeClient.sendLoop .get networkUrl none 0) (readCall.drop 1)
      (.ok (acceptance created)) := sendLoop_ends accepted
  have finished : writeClient.finishCall (fun _ _ => none) request.operationId
      (acceptance created) = .ok (response created) := finishCall_acceptance operation_read rfl created
  rw [← finished]
  exact executeAs_sends .standard network_url operation_read rfl secondStatus loop

end Calls

section Tools

/-- The events of the verification read. -/
def verifyEvents : MistHistory :=
  [⟨.executeAs request .standard, ()⟩, ⟨.response, .ok (response created)⟩,
    ⟨.budgetStatus, some secondStatus⟩]

def verifyResult : CallToolResult :=
  toolResult (.ok (ReadEnvelope.fromResponse (response created) (some target) (some secondStatus)
    false).toJson)

theorem verify_read :
    Completes (dispatchCataloguedRead handler (read "apply_mist_change_set") none) verifyEvents
      verifyResult := by
  rw [read_sends]
  exact sendRead_returns (some secondStatus)
    (accept_response (validate_response (by decide +kernel) (by decide)))

/-- The events that settle the change set. -/
def settleEvents : MistHistory :=
  [⟨.resultReceipt "stdio" claimedCreation.id claimedCreation.device "stdio"
      (isVerified verifyResult plannedWork.after)
      (if isVerified verifyResult plannedWork.after then "" else "write not verified"), .ok ()⟩,
    ⟨.updateChangeSet (settled claimedCreation (isVerified verifyResult plannedWork.after)), .ok ()⟩]

/-- The events of an apply that creates the network. -/
def createdEvents : MistHistory :=
  applyEvents ++ ⟨.response, .ok createdResponse⟩ :: (verifyEvents ++ settleEvents)

def appliedOutcome : ToolOutcome :=
  .ok (toolResult (.ok (applyResponse plannedWork.args
    (settled claimedCreation (isVerified verifyResult plannedWork.after)) networkId false
    (isVerified verifyResult plannedWork.after))))

/-- These arguments name the planned change set. -/
def plannedArguments : Json.Value :=
  ⟨.object [("change_set_id", .string (Hex.encode identifier.bytes)),
    ("object", .string "network")], by decide +kernel⟩

theorem create_applied :
    Completes (callTool handler none "apply_mist_change_set" plannedArguments) createdEvents
      appliedOutcome := by
  have routed : callTool handler none "apply_mist_change_set" plannedArguments =
      applyMistChangeSet handler plannedWork.args none := rfl
  obtain ⟨past, inserted⟩ := inserted_creation orgId_allowed
  have concluded : Completes (perform .response >>= concludeWrite handler plannedWork
      claimedCreation false) _ _ := concludeWrite_judges rfl created_found verify_read
  rw [routed]
  exact (applyMistChangeSet_reaches (create_reached inserted rfl claimedCreation)).trans concluded

/-- The events of that apply over the client. -/
def createdOver : ServiceHistory :=
  onTools (createEvents handler plannedWork claimedCreation) ++ callEvents writeCall ++
    (callEvents readCall ++ ⟨.http .budgetStatus, secondStatus⟩ :: onTools settleEvents)

theorem created_handed :
    HandsOn writeClient (fun _ _ => none) none createdEvents createdOver none := by
  have gates : HandsOn writeClient (fun _ _ => none) none
      (createEvents handler plannedWork claimedCreation) _ none := handsOn_tools none (by decide)
  have write : HandsOn writeClient (fun _ _ => none) none
      [⟨.executeAs plannedWork.writeRequest .standard, ()⟩] (callEvents writeCall)
      (some (.ok createdResponse)) := handsOn_call none write_called
  have read : HandsOn writeClient (fun _ _ => none) none [⟨.executeAs request .standard, ()⟩]
      (callEvents readCall) (some (.ok (response created))) := handsOn_call none read_called
  have status : HandsOn writeClient (fun _ _ => none) none [⟨.budgetStatus, some secondStatus⟩] _
      none := handsOn_budget none secondStatus
  have ends : HandsOn writeClient (fun _ _ => none) none settleEvents _ none :=
    handsOn_tools none (by decide)
  have judged := (handsOn_response (.ok (response created))).append (status.append ends)
  exact (gates.append write).append
    ((handsOn_response (.ok createdResponse)).append (read.append judged))

/-- The apply runs over the client to its end. -/
theorem created_over : Run (writeClient.over (fun _ _ => none)
      (callTool handler none "apply_mist_change_set" plannedArguments)) createdOver
    (.pure (some appliedOutcome)) := created_handed.run create_applied

/-- Over the client, the apply returns the outcome of its handler. The same client is told of the
rejection and sends the write again. -/
theorem callTool_refines_created :
    (∀ before event after, createdOver = before ++ event :: after →
      WireStep writeClient (fun _ _ => none)
        (callTool handler none "apply_mist_change_set" plannedArguments) before event.op) ∧
    ∃ own, Completes (callTool handler none "apply_mist_change_set" plannedArguments) own
        appliedOutcome ∧
      handlerEvents own = toolEvents createdOver ∧
      AnsweredBy writeClient (fun _ _ => none) own createdOver := by
  obtain ⟨steps, ends⟩ := callTool_refines handler writeClient (fun _ _ => none) none
    "apply_mist_change_set" plannedArguments created_over
  exact ⟨steps, ends appliedOutcome rfl⟩

theorem callTool_bounded_created :
    (∀ perUnit perSend perWait, wireCost perUnit perSend perWait createdOver ≤
      requestBound "apply_mist_change_set" * callCost writeClient perUnit perSend perWait) ∧
    ∀ priority outcome, (⟨.http (.tryAcquire priority), outcome⟩ : ServiceEvent) ∈ createdOver →
      priority = callPriorityFor none :=
  callTool_bounded handler writeClient (fun _ _ => none) none "apply_mist_change_set"
    plannedArguments created_over

/-- The events before the rejected write is sent again. -/
def beforeWrite : ServiceHistory :=
  onTools (createEvents handler plannedWork claimedCreation) ++ (callEvents writeCall).take 6

theorem wire_contained_created :
    networksUrl.origin = writeClient.baseUrl ∧ ∃ own request priority,
      handlerEvents own = toolEvents beforeWrite ∧
      UnderWay writeClient (fun _ _ => none) own (.executeAs request priority) beforeWrite ∧
      OnWire writeClient request .post networksUrl writeBody ∧
      SentBy handler none "apply_mist_change_set" own request ∧
      (HttpMethod.post = .get ∧ writeBody = none ∨
        "apply_mist_change_set" = "apply_mist_change_set") :=
  @wire_contained _ handler writeClient (fun _ _ => none) rfl none "apply_mist_change_set"
    plannedArguments beforeWrite _ _ _ _ _ _ created_over

end Tools

section Tasks

/-- These arguments plan the network. -/
def planArguments : Json.Value :=
  ⟨.object [("object", .string "network"), ("verb", .string "create"), ("org_id", .string orgId),
    ("patch", network)], by decide⟩

/-- One task plans a network and another applies the change set. -/
def wireTasks : Bool → Task
  | false => .call none "plan_mist_change" planArguments
  | true => .call none "apply_mist_change_set" plannedArguments

def wireProgram (task : Bool) : ServiceProgram (Option Unit) :=
  (wireTasks task).program handler writeClient fun _ _ => none

def plannedOver : ServiceHistory := onTools (creationPlanEvents orgId)

theorem plan_runs : ∃ rest, Run (wireProgram false) plannedOver rest := by
  have routed : callTool handler none "plan_mist_change" planArguments =
      (ToolCall.plan (creationPlan orgId)).program handler none := rfl
  have handed : HandsOn writeClient (fun _ _ => none) none (creationPlanEvents orgId) plannedOver
      none := handsOn_tools none (by decide)
  obtain ⟨rest, planned⟩ := creationPlan_runs orgId_allowed
  have called : Run (callTool handler none "plan_mist_change" planArguments)
      (creationPlanEvents orgId) (succeed rest) := by
    rw [routed]
    exact (run_bind_iff _ _ _ _).mpr (.inl ⟨rest, planned, rfl⟩)
  exact ⟨_, handed.run ((run_bind_iff _ _ _ _).mpr (.inl ⟨_, called, rfl⟩))⟩

theorem apply_runs : Run (wireProgram true) createdOver (.pure (some ())) := by
  have worked : Completes ((wireTasks true).work handler) (createdEvents ++ []) () :=
    Run.bind create_applied (.start _)
  rw [List.append_nil] at worked
  exact created_handed.run worked

/-- The apply starts, the plan stages the change set, and the apply goes on. -/
def wireTrace : Trace Bool service :=
  (createdOver.take 1).map (fun event => (true, event)) ++
    plannedOver.map (fun event => (false, event)) ++
    (createdOver.drop 1).map fun event => (true, event)

/-- The tasks are interleaved in this way in every world that answers them so. -/
theorem wire_interleaved {world : World service} {first second third fourth : world.State}
    (guard : world.Answers first (createdOver.take 1) second)
    (plan : world.Answers second plannedOver third)
    (apply : world.Answers third (createdOver.drop 1) fourth) :
    ∃ pool, Interleaved world wireProgram first wireTrace pool fourth ∧
      pool true = .pure (some ()) := by
  have whole := apply_runs
  rw [← List.take_append_drop 1 createdOver] at whole
  obtain ⟨middle, early, late⟩ := whole.split
  obtain ⟨rest, planned⟩ := plan_runs
  have idle : Interleaved world wireProgram first [] wireProgram first := .start
  obtain ⟨pool, guarded, here, others⟩ := idle.extend early guard
  rw [← others false nofun] at planned
  obtain ⟨pool', staged, _, others'⟩ := guarded.extend planned plan
  rw [← here, ← others' true nofun] at late
  obtain ⟨pool'', applied, last, _⟩ := staged.extend late apply
  exact ⟨pool'', applied, last⟩

end Tasks

end RustMist.Network
