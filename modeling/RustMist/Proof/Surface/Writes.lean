import RustMist.Proof.Store.Once
import RustMist.Proof.Surface.Server

/-! The writes that all tasks together send over HTTP. -/

namespace RustMist

open Effects Effects.Program

section Rewrites

/-- An HTTP request that is no GET. -/
def isWireWrite (event : ServiceEvent) : Bool :=
  match event.op with
  | .http (.send method _ _) => method != .get
  | _ => false

/-- Mist has answered with 429 and so refused the request. -/
def isRefused : ServiceEvent → Bool
  | ⟨.http op, answer⟩ => isRejection ⟨op, answer⟩
  | _ => false

/-- A write is sent only when every earlier write of its task has been refused, and as often as the
retries allow. -/
def RewriteStep (client : HttpMistRetryClient) (past : ServiceHistory) : ServiceOp → Prop
  | .http (.send method _ _) => method ≠ .get →
      (∀ event ∈ past, isWireWrite event = true → isRefused event = true) ∧
        past.countP isWireWrite ≤ client.max429Retries.toNat
  | _ => True

variable [Platform] {client : HttpMistRetryClient}

/-- Such a request is sent with GET. -/
def SentWithGet (client : HttpMistRetryClient) (request : MistRequest) : Prop :=
  ∀ method url body, OnWire client request method url body → method = .get

def WritesNothing (past : MistHistory) : Prop :=
  ∀ request priority, (⟨.executeAs request priority, ()⟩ : MistEvent) ∈ past → ¬IsWrite request

/-- Whatever is not sent with GET is the only write. -/
def SingleWrite (client : HttpMistRetryClient) (past : MistHistory) : Op → Prop
  | .executeAs request _ => SentWithGet client request ∨ IsWrite request ∧ WritesNothing past
  | _ => True

/-- An HTTP write stands for a write of the handler. -/
def Backed (own : MistHistory) (past : ServiceHistory) : Prop :=
  WritesNothing own → ∀ event ∈ past, isWireWrite event = false

omit [Platform] in
theorem WritesNothing.of_append {own more : MistHistory} (nothing : WritesNothing (own ++ more)) :
    WritesNothing own :=
  fun request priority member => nothing request priority (List.mem_append_left more member)

omit [Platform] in
theorem Backed.append {own : MistHistory} {past : ServiceHistory} (backed : Backed own past)
    {more : MistHistory} {late : ServiceHistory}
    (reads : ∀ event ∈ late, isWireWrite event = false) : Backed (own ++ more) (past ++ late) := by
  intro nothing event member
  rcases List.mem_append.mp member with early | last
  · exact backed nothing.of_append event early
  · exact reads event last

variable {joinedQuery : String → String → Option (List (String × String))} {request : MistRequest}
  {priority : CallPriority} {past : ServiceHistory}

/-- A request that is sent with GET makes a call without a write. -/
theorem permittedCall_gets (reads : SentWithGet client request) :
    (client.permittedCall joinedQuery request priority).Ensures (S := service)
      (fun _ op => ∀ answer, isWireWrite ⟨op, answer⟩ = false) (fun _ _ => True) past := by
  refine permittedCall_ensures (executeAs_calls []) (fun _ _ => True) (fun _ => rfl) trivial
    (fun _ _ _ _ _ => trivial) (fun _ own op _ step answer => ?_)
    fun _ _ _ _ _ => ⟨fun _ => rfl, trivial⟩
  cases op with
  | send method url body =>
      rw [reads method url body step.1]
      rfl
  | _ => rfl

theorem permittedCall_silent (reads : SentWithGet client request) :
    (client.permittedCall joinedQuery request priority).Ensures (S := service) (RewriteStep client)
      (fun history _ => ∃ late, history = past ++ late ∧
        ∀ event ∈ late, isWireWrite event = false) past := by
  have gets : (client.permittedCall joinedQuery request priority).Ensures (S := service) _ _ past :=
    permittedCall_gets reads
  refine gets.completes.mono (fun history op get => ?_) fun history result reached => ?_
  · cases op with
    | http op =>
        cases op with
        | send method url body =>
            intro other
            have same := get (.error "")
            simp [isWireWrite, other] at same
        | _ => trivial
    | _ => trivial
  · obtain ⟨_, late, same, completes⟩ := reached
    have own : (client.permittedCall joinedQuery request priority).Ensures (S := service) _ _ [] :=
      permittedCall_gets reads
    exact ⟨late, same, fun event member => own.event_mem completes member event.answer⟩

/-- The events of the client as the service sees them. -/
def onService (own : HttpHistory) : ServiceHistory :=
  own.map fun event => ⟨.http event.op, event.answer⟩

omit [Platform] in
theorem isRefused_of_rejected {own : HttpHistory} (rejected : AllRejected own) :
    ∀ event ∈ onService own, isWireWrite event = true → isRefused event = true := by
  intro event member writes
  obtain ⟨sent, inside, rfl⟩ := List.mem_map.mp member
  refine rejected sent inside ?_
  obtain ⟨op, answer⟩ := sent
  cases op with
  | send method url body => rfl
  | _ => cases writes

omit [Platform] in
/-- A write on the wire is a request that the client sends. -/
theorem countP_onService (own : HttpHistory) :
    (onService own).countP isWireWrite ≤ sendCount own := by
  rw [onService, List.countP_map, sendCount]
  refine List.countP_mono_left fun event _ writes => ?_
  obtain ⟨op, answer⟩ := event
  cases op with
  | send method url body => rfl
  | _ => cases writes

/-- The call of a first write sends it again only when it has been refused. -/
theorem permittedCall_rewrites (first : ∀ event ∈ past, isWireWrite event = false) :
    (client.permittedCall joinedQuery request priority).Ensures (S := service) (RewriteStep client)
      (fun _ _ => True) past := by
  refine permittedCall_ensures executeAs_resends
    (fun history own => history = past ++ [⟨.acquirePermit, ()⟩] ++ onService own) trivial
    (List.append_nil _).symm (fun history own op answer same => ?_)
    (fun history own op same step => ?_) fun _ _ _ _ _ => ⟨trivial, trivial⟩
  · rw [same, List.append_assoc, onService, onService, List.map_append]
    rfl
  · cases op with
    | send method url body =>
        intro _
        rw [same]
        constructor
        · intro event member writes
          rw [List.mem_append, List.mem_append, List.mem_singleton] at member
          rcases member with (early | rfl) | own'
          · rw [first event early] at writes
            cases writes
          · cases writes
          · exact isRefused_of_rejected step.1 event own' writes
        · have none : past.countP isWireWrite = 0 := by
            apply List.countP_eq_zero.mpr
            intro event member
            rw [first event member]
            exact Bool.false_ne_true
          have unwritten : List.countP isWireWrite [⟨.acquirePermit, ()⟩] = 0 := rfl
          rw [List.countP_append, List.countP_append, none, unwritten, Nat.zero_add]
          exact (countP_onService own).trans step.2
    | _ => trivial

/-- What an answer of the client leaves of the history backs the writes of the wire. -/
def BackedAfter (own : MistHistory) (op : Op) (history : ServiceHistory)
    (result : Option (op.Answer × Option (Except MistError MistResponse))) : Prop :=
  ∀ answer memory, result = some (answer, memory) → Backed (own ++ [⟨op, answer⟩]) history

theorem executeAs_rewrites {own : MistHistory} (pending : Option (Except MistError MistResponse))
    (backed : Backed own past) (single : SingleWrite client own (.executeAs request priority)) :
    (client.implement joinedQuery pending (.executeAs request priority)).Ensures (S := service)
      (RewriteStep client) (BackedAfter own (.executeAs request priority)) past := by
  rcases single with reads | ⟨writes, nothing⟩
  · refine (executeAs_ensures pending (permittedCall_silent reads)).mono (fun _ _ => id)
      fun history _ reached answer _ _ => ?_
    obtain ⟨late, same, silent⟩ := reached
    rw [same]
    exact backed.append silent
  · refine (executeAs_ensures pending (permittedCall_rewrites (backed nothing))).mono
      (fun _ _ => id) fun history _ _ answer _ _ none => ?_
    exact absurd writes (none request priority (by simp))

/-- The implementation of an operation keeps the writes of the wire backed. -/
theorem implement_rewrites {own : MistHistory} {op : Op}
    (pending : Option (Except MistError MistResponse)) (backed : Backed own past)
    (single : SingleWrite client own op) :
    (client.implement joinedQuery pending op).Ensures (S := service) (RewriteStep client)
      (BackedAfter own op) past := by
  by_cases mine : isClientOp op = true
  · cases op with
    | executeAs request priority => exact executeAs_rewrites pending backed single
    | response =>
        intro answer memory _
        have kept : Backed (own ++ [⟨.response, answer⟩]) (past ++ []) :=
          backed.append fun _ member => absurd member List.not_mem_nil
        rwa [List.append_nil] at kept
    | budgetStatus =>
        refine ensures_ask_iff.mpr ⟨trivial, fun status answer memory _ => backed.append ?_⟩
        simp [isWireWrite]
    | _ => cases mine
  · rw [Bool.not_eq_true] at mine
    rw [implement_tool mine]
    refine ensures_ask_iff.mpr ⟨trivial, fun answer answer' memory _ => backed.append ?_⟩
    simp [isWireWrite]

/-- A program with a single write sends it again only when it has been refused. -/
theorem over_rewrites {α : Type} {program : MistProgram α}
    (single : program.Ensures (S := mist) (SingleWrite client) (fun _ _ => True) []) :
    (client.over joinedQuery program).Ensures (S := service) (RewriteStep client) (fun _ _ => True) [] :=
  Ensures.mono (Ensures.link (fun own past _ => Backed own past)
    (fun _ _ memory _ backed step => implement_rewrites memory backed step) single
    (fun _ _ member => absurd member List.not_mem_nil)) (fun _ _ => id) fun _ _ _ => trivial

end Rewrites

section Tools

variable [ServerPlatform] {handler : MistHandler} {client : HttpMistRetryClient}

/-- A call of a tool sends one write at most, and GET otherwise. -/
theorem callTool_single (shared : client.catalog = handler.catalog) (caller : Option CallerCtx)
    (name : String) (arguments : Json.Value) :
    (callTool handler caller name arguments).Ensures (S := mist) (SingleWrite client)
      (fun _ _ => True) [] := by
  refine ensures_of_runs (fun history op next run => ?_) fun _ _ _ => trivial
  cases op with
  | executeAs request priority =>
      have sent : SentBy handler caller name history request :=
        (callTool_sentBy name arguments).event (run.trans (.step _ next () (.start _))) request
          priority rfl
      cases sent with
      | ordinary reads =>
          obtain ⟨operation, catalogued, get, _, bodiless⟩ := reads
          exact .inl fun method url body onWire =>
            (onWire.get handler shared catalogued get bodiless).1
      | privileged context known operation target names grant reads =>
          exact .inl fun method url body onWire =>
            (onWire.get handler shared reads.catalogued reads.method reads.bodiless).1
      | write applies listed args work claimed driftChecked now reads reached same =>
          have write : IsWrite request := by
            rw [same]
            exact nofun
          exact .inr ⟨write, fun other priority member write' =>
            reached.write_notMem write' member⟩
  | _ => trivial

/-- What a task of a tool does next its tool does next. -/
theorem Task.performs {caller : Option CallerCtx} {tool : String} {arguments : Json.Value}
    {own : MistHistory} {op : Op} {next : op.Answer → MistProgram Unit}
    (run : Run ((Task.call caller tool arguments).work handler) own (.perform (S := mist) op next)) :
    ∃ next', Run (callTool handler caller tool arguments) own (.perform (S := mist) op next') := by
  rcases (run_bind_iff _ _ _ _).mp run with ⟨inner, early, same⟩ | ⟨outcome, _, _, _, _, late⟩
  · cases inner with
    | pure outcome => cases same
    | perform op' next' =>
        obtain ⟨rfl, _⟩ := Program.perform.inj same
        exact ⟨next', early⟩
  · cases ((run_pure_iff _ _ _).mp late).2

end Tools

section Store

variable {tools : World mist}

/-- The store keeps its contract when the calls of the client are single steps. -/
def StoreContract.calls (contract : StoreContract tools) : StoreContract (callWorld tools) where
  find := contract.find
  find_id := contract.find_id
  insert_ok := fun state record state' step => contract.insert_ok state record state' step
  approve_ok := fun state id device approver digest actor output state' step =>
    contract.approve_ok state id device approver digest actor output state' step
  waive_ok := fun state id device owner digest state' step =>
    contract.waive_ok state id device owner digest state' step
  claim_ok := fun state id device handle claimed state' step =>
    contract.claim_ok state id device handle claimed state' step
  fetch_ok := fun state id device record state' step =>
    contract.fetch_ok state id device record state' step
  update_ok := fun state record state' step => contract.update_ok state record state' step
  stays := fun state op answer state' unchanged step => by
    change if isClientOp op = true then state' = state else tools.Step state op answer state' at step
    split at step
    · rw [step]
    · exact contract.stays state op answer state' unchanged step

variable {ι : Type}

theorem toolEvent_eq_some {event : ServiceEvent} {op : Op} {answer : op.Answer} :
    toolEvent event = some ⟨op, answer⟩ ↔ event = ⟨.tool op, answer⟩ := by
  constructor
  · intro visible
    obtain ⟨op', answer'⟩ := event
    cases op' with
    | tool own =>
        obtain ⟨rfl, same⟩ := Event.mk.inj (Option.some.inj visible)
        rw [eq_of_heq same]
    | _ => cases visible
  · intro same
    rw [same]
    rfl

theorem mem_toolEvents {history : ServiceHistory} {op : Op} {answer : op.Answer} :
    (⟨op, answer⟩ : MistEvent) ∈ toolEvents history ↔
      (⟨.tool op, answer⟩ : ServiceEvent) ∈ history := by
  change _ ∈ history.filterMap toolEvent ↔ _
  simp [toolEvent_eq_some]

/-- The operations of a tool are shown, and they are what is seen of the service. -/
theorem mem_of_seen {trace : Trace ι service} {trace' : Trace ι mist}
    (same : Trace.seen ownEvent trace' = Trace.seen toolEvent trace) {task : ι} {op : Op}
    {answer : op.Answer} (own : isClientOp op = false) :
    (task, (⟨op, answer⟩ : MistEvent)) ∈ trace' ↔
      (task, (⟨.tool op, answer⟩ : ServiceEvent)) ∈ trace := by
  have shown (event : MistEvent) : ownEvent event = some ⟨op, answer⟩ ↔ event = ⟨op, answer⟩ := by
    unfold ownEvent
    constructor
    · intro visible
      split at visible
      · cases visible
      · exact Option.some.inj visible
    · rintro rfl
      rw [if_neg (by rw [own]; exact Bool.false_ne_true)]
  calc (task, (⟨op, answer⟩ : MistEvent)) ∈ trace'
      ↔ (task, (⟨op, answer⟩ : MistEvent)) ∈ Trace.seen ownEvent trace' := by
        simp [Trace.mem_seen, shown]
    _ ↔ (task, (⟨op, answer⟩ : MistEvent)) ∈ Trace.seen toolEvent trace := by rw [same]
    _ ↔ (task, (⟨.tool op, answer⟩ : ServiceEvent)) ∈ trace := by
        simp [Trace.mem_seen, toolEvent_eq_some]

end Store

section Wire

variable {ι : Type} [DecidableEq ι]

/-- Someone other than its owner has approved this record, or the lab mode has waived that. -/
def ApprovedInTrace (handler : MistHandler) (trace : Trace ι service) (record : ChangeSetRecord) :
    Prop :=
  (∃ task device approver output, approver ≠ record.owner ∧
    (task, (⟨.tool (.approveChangeSet record.id device approver record.digest .human),
      .ok output⟩ : ServiceEvent)) ∈ trace) ∨
  (handler.labMode = true ∧ ∃ task device owner digest,
    (task, (⟨.tool (.waiveApproval record.id device owner digest), .ok ()⟩ : ServiceEvent)) ∈ trace)

/-- A task applies the change set that its arguments name. -/
def Task.Applies (task : Task) (id : String) : Prop :=
  ∃ caller arguments args, task = .call caller "apply_mist_change_set" arguments ∧
    ChangeSetArgs.read arguments.val = .ok args ∧ args.changeSetId = id

variable [ServerPlatform] {handler : MistHandler} {client : HttpMistRetryClient}
  {joinedQuery : String → String → Option (List (String × String))}

/-- The HTTP request is the write of an apply that has passed its gates in these events, and the
record that it has fetched is approved. -/
structure WireWriteJustified (handler : MistHandler) (client : HttpMistRetryClient)
    (caller : Option CallerCtx) (args : ChangeSetArgs) (before : Trace ι service) (task : ι)
    (method : HttpMethod) (url : Url) (body : Option String) (own : MistHistory) (work : ApplyWork)
    (claimed : ChangeSetRecord) (driftChecked : Bool) (now : UInt64) (reads : MistHistory) :
    Prop where
  reached : WriteReached handler args caller own work claimed driftChecked now reads
  events : handlerEvents own = toolEvents (before.ofThread task)
  sent : OnWire client work.writeRequest method url body
  named : work.record.id = args.changeSetId
  approval : ApprovedInTrace handler before work.record

/-- Only an apply sends a write, for the change set that its arguments name. -/
theorem Task.write_sent (shared : client.catalog = handler.catalog) {caller : Option CallerCtx}
    {tool : String} {arguments : Json.Value} {past later : ServiceHistory} {method : HttpMethod}
    {url : Url} {body : Option String} {answer : Except String HttpResponse}
    {rest : ServiceProgram (Option Unit)}
    (run : Run ((Task.call caller tool arguments).program handler client joinedQuery)
      (past ++ ⟨.http (.send method url body), answer⟩ :: later) rest) (other : method ≠ .get) :
    tool = "apply_mist_change_set" ∧ ∃ args own work claimed driftChecked now reads,
      ChangeSetArgs.read arguments.val = .ok args ∧
      WriteReached handler args caller own work claimed driftChecked now reads ∧
      handlerEvents own = toolEvents past ∧ OnWire client work.writeRequest method url body := by
  have ensured : ((Task.call caller tool arguments).program handler client joinedQuery).Ensures
      (S := service) (WireStep client joinedQuery ((Task.call caller tool arguments).work handler))
      _ [] := over_ensures _
  obtain ⟨own, _, next, working, same, _, request, priority, rfl, onWire, _⟩ := ensured.event run
  obtain ⟨next', called⟩ := Task.performs working
  have sending : Run (callTool handler caller tool arguments)
      (own ++ [⟨.executeAs request priority, ()⟩]) (next' ()) :=
    called.trans (.step _ next' () (.start _))
  cases (callTool_sentBy tool arguments).event sending request priority rfl with
  | ordinary reads =>
      obtain ⟨operation, catalogued, get, _, bodiless⟩ := reads
      exact absurd (onWire.get handler shared catalogued get bodiless).1 other
  | privileged context known operation target names grant reads =>
      exact absurd (onWire.get handler shared reads.catalogued reads.method reads.bodiless).1 other
  | write applies listed args work claimed driftChecked now reads reached request_eq =>
      subst applies
      have write : IsWrite request := by
        rw [request_eq]
        exact nofun
      have routed : callTool handler caller "apply_mist_change_set" arguments =
          withArgs (ChangeSetArgs.read arguments.val) fun args =>
            (ToolCall.apply args).program handler caller := rfl
      rw [routed] at sending
      unfold withArgs at sending
      split at sending
      · exact sending.seek_pure.elim
      · rename_i args found
        obtain ⟨work, claimed, driftChecked, now, reads, reached, rfl, _⟩ :=
          applyMistChangeSet_write write sending
        exact ⟨rfl, args, own, work, claimed, driftChecked, now, reads, found, reached, same, onWire⟩

omit [ServerPlatform] in
/-- A task over its own events, up to one of them. -/
theorem thread_at {world : World service} {threads pool : ι → ServiceProgram (Option Unit)}
    {initial state : world.State} {before after : Trace ι service} {task : ι} {event : ServiceEvent}
    (run : Interleaved world threads initial (before ++ (task, event) :: after) pool state) :
    Run (threads task) (before.ofThread task ++ event :: after.ofThread task) (pool task) := by
  have own := run.thread_run task
  rwa [← List.singleton_append, Trace.ofThread_append, Trace.ofThread_append,
    Trace.ofThread_single] at own

omit [ServerPlatform] in
/-- The events of a handler have happened in the trace. -/
theorem mem_of_own {own : MistHistory} {before : Trace ι service} {task : ι}
    (same : handlerEvents own = toolEvents (before.ofThread task)) {op : Op} {answer : op.Answer}
    (tool : isClientOp op = false) (member : (⟨op, answer⟩ : MistEvent) ∈ own) :
    (task, (⟨.tool op, answer⟩ : ServiceEvent)) ∈ before := by
  have inside : (⟨op, answer⟩ : MistEvent) ∈ handlerEvents own :=
    List.mem_filter.mpr ⟨member, by simp [tool]⟩
  rw [same] at inside
  exact Trace.mem_ofThread.mp (mem_toolEvents.mp inside)

omit [ServerPlatform] in
theorem isWireWrite_iff {event : ServiceEvent} : isWireWrite event = true ↔
    ∃ method url body answer, event = ⟨.http (.send method url body), answer⟩ ∧ method ≠ .get := by
  obtain ⟨op, answer⟩ := event
  constructor
  · intro writes
    cases op with
    | http op =>
        cases op with
        | send method url body => exact ⟨method, url, body, answer, rfl, by simpa [isWireWrite] using writes⟩
        | _ => cases writes
    | _ => cases writes
  · rintro ⟨method, url, body, answer', same, other⟩
    obtain ⟨rfl, _⟩ := Event.mk.inj same
    simpa [isWireWrite] using other

/-- A task of a tool sends its write and the retries of it. -/
theorem Task.writes_few (shared : client.catalog = handler.catalog) (caller : Option CallerCtx)
    (tool : String) (arguments : Json.Value) :
    ((Task.call caller tool arguments).program handler client joinedQuery).Ensures (S := service)
      (RewriteStep client) (fun _ _ => True) [] := by
  have single : ((Task.call caller tool arguments).work handler).Ensures (S := mist)
      (SingleWrite client) (fun _ _ => True) [] :=
    (callTool_single shared caller tool arguments).bind fun _ _ _ => trivial
  exact over_rewrites single

omit [ServerPlatform] in
theorem countP_writes_le {program rest : ServiceProgram (Option Unit)} {history : ServiceHistory}
    (ensures : program.Ensures (S := service) (RewriteStep client) (fun _ _ => True) [])
    (run : Run program history rest) :
    history.countP isWireWrite ≤ client.max429Retries.toNat + 1 := by
  induction history using List.reverseRecOn generalizing rest with
  | nil => exact Nat.zero_le _
  | append_singleton early event ih =>
      obtain ⟨next, before, _⟩ := run.at_event
      rw [List.countP_append, List.countP_singleton]
      split
      · rename_i writes
        obtain ⟨method, url, body, answer, rfl, other⟩ := isWireWrite_iff.mp writes
        have few := (ensures.event run other).2
        omega
      · exact ih before

section Server

variable {tools : World mist} {budget : RateLimitBudget} {created permits : Nat} {tasks : ι → Task}
  (contract : StoreContract tools) {initial : tools.State}
  (absent : ∀ id, contract.find initial id = none) {trace : Trace ι service}
  {pool : ι → ServiceProgram (Option Unit)} {state : (serverWorld tools budget).State}

include absent

/-- The store keeps its invariant while the tasks go over their client. -/
theorem server_store (run : Interleaved (serverWorld tools budget)
      (fun task => (tasks task).program handler client joinedQuery)
      (initial, SharedClient.new created permits) trace pool state) :
    ∃ (calls : ι → ToolCall) (trace' : Trace ι mist),
      StoreInvariant handler calls (fun task => (tasks task).caller) (contract.find state.1) trace' ∧
        Trace.seen ownEvent trace' = Trace.seen toolEvent trace := by
  obtain ⟨middle, _, refined, same, _⟩ := tasks_refine run
  obtain ⟨calls, trace', _, called, same'⟩ := tasks_call tasks refined
  exact ⟨calls, trace', store_invariant contract.calls absent called, same'.trans same⟩

/-- Every write on the wire is justified by what has happened before it. -/
theorem wire_write_justified (shared : client.catalog = handler.catalog)
    {before after : Trace ι service} {task : ι} {method : HttpMethod} {url : Url}
    {body : Option String} {answer : Except String HttpResponse}
    (run : Interleaved (serverWorld tools budget)
      (fun task => (tasks task).program handler client joinedQuery)
      (initial, SharedClient.new created permits)
      (before ++ (task, ⟨.http (.send method url body), answer⟩) :: after) pool state)
    {caller : Option CallerCtx} {tool : String} {arguments : Json.Value}
    (call : tasks task = .call caller tool arguments) (other : method ≠ .get) :
    tool = "apply_mist_change_set" ∧ ∃ args own work claimed driftChecked now reads,
      ChangeSetArgs.read arguments.val = .ok args ∧ WireWriteJustified handler client caller args
        before task method url body own work claimed driftChecked now reads := by
  have own := thread_at run
  simp only [call] at own
  obtain ⟨applies, args, own, work, claimed, driftChecked, now, reads, found, reached, same, sent⟩ :=
    Task.write_sent shared own other
  obtain ⟨_, _, _, _, earlier, _, _⟩ := run.at_entry
  obtain ⟨calls, trace', stored, seen⟩ := server_store contract absent earlier
  have fetched := (mem_of_seen seen rfl).mpr (mem_of_own same rfl reached.fetched_mem)
  obtain ⟨named, _, authority⟩ := stored.fetched _ _ _ _ fetched
  refine ⟨applies, args, own, work, claimed, driftChecked, now, reads, found, reached, same, sent,
    named, ?_⟩
  rcases authority reached.approved with ⟨thread, approval, device, output, _, _, distinct, digest,
    member⟩ | ⟨lab, thread, device, owner, digest, member⟩
  · rw [digest] at member
    exact .inl ⟨thread, device, _, output, distinct, (mem_of_seen seen rfl).mp member⟩
  · exact .inr ⟨lab, thread, device, owner, digest, (mem_of_seen seen rfl).mp member⟩

/-- The claim of its change set precedes every write on the wire. -/
theorem wire_claimed (shared : client.catalog = handler.catalog) {before after : Trace ι service}
    {task : ι} {event : ServiceEvent}
    (run : Interleaved (serverWorld tools budget)
      (fun task => (tasks task).program handler client joinedQuery)
      (initial, SharedClient.new created permits) (before ++ (task, event) :: after) pool state)
    {id : String} (applies : (tasks task).Applies id) (writes : isWireWrite event = true) :
    ∃ device claimed,
      (task, (⟨.tool (.claimChangeSetForApply id device .none), .ok claimed⟩ : ServiceEvent)) ∈
        before := by
  obtain ⟨caller, arguments, args, call, found, rfl⟩ := applies
  obtain ⟨method, url, body, answer, rfl, other⟩ := isWireWrite_iff.mp writes
  obtain ⟨_, args', own, work, claimed, _, _, _, found', justified⟩ :=
    wire_write_justified contract absent shared run call other
  obtain rfl := Except.ok.inj (found.symm.trans found')
  refine ⟨work.record.device, claimed, ?_⟩
  rw [← justified.named]
  exact mem_of_own justified.events rfl justified.reached.claimed_mem

/-- Two writes on the wire for one change set are of one task, and Mist has refused the first. -/
theorem wire_writes_apart (shared : client.catalog = handler.catalog)
    {early middle late : Trace ι service} {first second : ι × ServiceEvent}
    (run : Interleaved (serverWorld tools budget)
      (fun task => (tasks task).program handler client joinedQuery)
      (initial, SharedClient.new created permits)
      (early ++ first :: (middle ++ second :: late)) pool state) {id : String}
    (writes : isWireWrite first.2 = true) (writes' : isWireWrite second.2 = true)
    (applies : (tasks first.1).Applies id) (applies' : (tasks second.1).Applies id) :
    first.1 = second.1 ∧ isRefused first.2 = true := by
  obtain ⟨device, claimed, claim⟩ := wire_claimed contract absent shared run applies writes
  have split : early ++ first :: (middle ++ second :: late) =
      (early ++ first :: middle) ++ second :: late := by simp
  have run' := run
  rw [split] at run'
  obtain ⟨device', claimed', claim'⟩ := wire_claimed contract absent shared run' applies' writes'
  obtain ⟨calls, trace', stored, seen⟩ := server_store contract absent run
  have claims {task : ι} {device : String} {claimed : ChangeSetRecord}
      (member : (task, (⟨.tool (.claimChangeSetForApply id device .none), .ok claimed⟩ :
        ServiceEvent)) ∈ early ++ first :: (middle ++ second :: late)) :
      (task, (⟨.claimChangeSetForApply id device .none, .ok claimed⟩ : MistEvent)) ∈
        claimsOf id trace' :=
    List.mem_filter.mpr ⟨(mem_of_seen seen rfl).mpr member, by simp⟩
  have same : first.1 = second.1 := by
    have one := claims (List.mem_append_left _ claim)
    have two := claims (split ▸ List.mem_append_left _ claim')
    exact (Prod.mk.inj (claims_unique (stored.once id) one two)).1
  refine ⟨same, ?_⟩
  obtain ⟨caller, arguments, _, call, _, _⟩ := applies'
  have rewrites : ((Task.call caller "apply_mist_change_set" arguments).program handler client
      joinedQuery).Ensures (S := service) (RewriteStep client) (fun _ _ => True) [] :=
    Task.writes_few shared caller _ arguments
  have own := thread_at run'
  simp only [call] at own
  obtain ⟨method, url, body, answer, event, other⟩ := isWireWrite_iff.mp writes'
  have step := rewrites.event own
  rw [event] at step
  have before : first.2 ∈ Trace.ofThread (early ++ first :: middle) second.1 := by
    apply Trace.mem_ofThread.mpr
    rw [← same]
    exact List.mem_append_right _ List.mem_cons_self
  exact (step other).1 first.2 before writes

end Server

/-- However the tasks interleave over their shared client, a write that a tool sends over HTTP is
the write of an apply whose record was fetched as approved. Until Mist has refused it with 429
nothing writes for the same change set again, and then only the same call, as often as the retries
allow. -/
theorem writes_once_on_wire (handler : MistHandler) (client : HttpMistRetryClient)
    (joinedQuery : String → String → Option (List (String × String))) (tools : World mist)
    (budget : RateLimitBudget) (created permits : Nat) (tasks : ι → Task)
    (contract : StoreContract tools) {initial : tools.State}
    (absent : ∀ id, contract.find initial id = none) (shared : client.catalog = handler.catalog)
    {trace : Trace ι service} {pool : ι → ServiceProgram (Option Unit)}
    {state : (serverWorld tools budget).State}
    (run : Interleaved (serverWorld tools budget)
      (fun task => (tasks task).program handler client joinedQuery)
      (initial, SharedClient.new created permits) trace pool state) :
    (∀ before task caller tool arguments method url body answer after,
      tasks task = .call caller tool arguments → method ≠ .get →
      trace = before ++ (task, ⟨.http (.send method url body), answer⟩) :: after →
        tool = "apply_mist_change_set" ∧ ∃ args own work claimed driftChecked now reads,
          ChangeSetArgs.read arguments.val = .ok args ∧ WireWriteJustified handler client caller args
            before task method url body own work claimed driftChecked now reads) ∧
    (∀ early first middle second late id, trace = early ++ first :: (middle ++ second :: late) →
      isWireWrite first.2 = true → isWireWrite second.2 = true → (tasks first.1).Applies id →
        (tasks second.1).Applies id → first.1 = second.1 ∧ isRefused first.2 = true) ∧
    ∀ task caller tool arguments, tasks task = .call caller tool arguments →
      (trace.ofThread task).countP isWireWrite ≤ client.max429Retries.toNat + 1 := by
  refine ⟨?_, ?_, ?_⟩
  · intro before task caller tool arguments method url body answer after call other same
    rw [same] at run
    exact wire_write_justified contract absent shared run call other
  · intro early first middle second late id same writes writes' applies applies'
    rw [same] at run
    exact wire_writes_apart contract absent shared run writes writes' applies applies'
  · intro task caller tool arguments call
    have own := run.thread_run task
    simp only [call] at own
    exact countP_writes_le (Task.writes_few shared caller tool arguments) own

end Wire

end RustMist

namespace RustMist.Network

open Effects Effects.Program

section Writes

/-- The write of the apply, which is rejected first and then accepted. -/
def rejectedWrite : Bool × ServiceEvent :=
  (true, ⟨.http (.send .post networksUrl writeBody), .ok rejection⟩)

def acceptedWrite : Bool × ServiceEvent :=
  (true, ⟨.http (.send .post networksUrl writeBody), .ok (acceptance created)⟩)

theorem wireTrace_eq : wireTrace = wireTrace.take 13 ++
    rejectedWrite :: ((wireTrace.drop 14).take 2 ++ acceptedWrite :: wireTrace.drop 17) := rfl

theorem wireTasks_applies : (wireTasks true).Applies (Hex.encode identifier.bytes) :=
  ⟨none, plannedArguments, ⟨Hex.encode identifier.bytes, .network, none⟩, rfl, rfl, rfl⟩

/-- The write is justified, Mist refuses it, and the same task sends it again, once. -/
theorem writes_once_on_wire_created :
    (∃ args own work claimed driftChecked now reads,
      ChangeSetArgs.read plannedArguments.val = .ok args ∧
        WireWriteJustified handler writeClient none args (wireTrace.take 13) true .post networksUrl
          writeBody own work claimed driftChecked now reads) ∧
      (rejectedWrite.1 = acceptedWrite.1 ∧ isRefused rejectedWrite.2 = true) ∧
      (wireTrace.ofThread true).countP isWireWrite = 2 ∧
      (wireTrace.ofThread true).countP isWireWrite ≤ writeClient.max429Retries.toNat + 1 := by
  obtain ⟨pool, run, _⟩ := served_runs
  obtain ⟨justified, apart, few⟩ := writes_once_on_wire handler writeClient (fun _ _ => none)
    Shelf.world .mistDefault 0 1 wireTasks Shelf.contract (fun _ => rfl) rfl run
  obtain ⟨_, gates⟩ := justified (wireTrace.take 13) true none "apply_mist_change_set"
    plannedArguments .post networksUrl writeBody (.ok rejection) _ rfl (by decide) wireTrace_eq
  exact ⟨gates, apart _ rejectedWrite _ acceptedWrite _ _ wireTrace_eq rfl rfl wireTasks_applies
    wireTasks_applies, by decide, few true none "apply_mist_change_set" plannedArguments rfl⟩

end Writes

end RustMist.Network
