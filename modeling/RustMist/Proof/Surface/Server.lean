import RustMist.Library.Refinement
import RustMist.Proof.Store.Shelf
import RustMist.Proof.Surface.Permits

/-! The tasks over their client refine the tasks whose calls are single steps. -/

namespace RustMist

open Effects Effects.Program

section Abstraction

/-- Only the operations of the tools are seen. -/
def toolEvent (event : ServiceEvent) : Option MistEvent :=
  match event with
  | ⟨.tool op, answer⟩ => some ⟨op, answer⟩
  | _ => none

def ownEvent (event : MistEvent) : Option MistEvent :=
  if isClientOp event.op = true then none else some event

/-- The shared client is hidden. -/
def serverAbstraction (tools : World mist) (budget : RateLimitBudget) :
    Abstraction mist service MistEvent where
  upper := callWorld tools
  lower := serverWorld tools budget
  states state tools' := state.1 = tools'
  shown := ownEvent
  seen := toolEvent

variable {tools : World mist} {budget : RateLimitBudget}

/-- A step that is none of a tool leaves the tools alone and is not seen. -/
theorem serverWorld_hidden {op : ServiceOp} (other : isToolOp op = false) {answer : op.Answer}
    {state state' : (serverWorld tools budget).State}
    (step : (serverWorld tools budget).Step state op answer state') :
    state'.1 = state.1 ∧ toolEvent ⟨op, answer⟩ = none := by
  cases op with
  | tool own => cases other
  | _ => exact ⟨step.2, rfl⟩

theorem callWorld_client {op : Op} (own : isClientOp op = true) (state : tools.State)
    (answer : op.Answer) : (callWorld tools).Step state op answer state := by
  change if isClientOp op = true then state = state else _
  rw [if_pos own]

theorem callWorld_tool {op : Op} (own : isClientOp op = false) {state state' : tools.State}
    {answer : op.Answer} (step : tools.Step state op answer state') :
    (callWorld tools).Step state op answer state' := by
  change if isClientOp op = true then _ else tools.Step state op answer state'
  rwa [own, if_neg Bool.false_ne_true]

/-- What is shown of a history are the operations of the tools. -/
theorem filterMap_ownEvent (history : MistHistory) :
    history.filterMap ownEvent = handlerEvents history := by
  induction history with
  | nil => rfl
  | cons event later ih =>
      cases own : isClientOp event.op with
      | true => simpa [handlerEvents, ownEvent, own] using ih
      | false => simpa [handlerEvents, ownEvent, own] using ih

/-- Calls of the client are silent when they are single steps. -/
theorem silent_clientOps {history : MistHistory} (clients : handlerEvents history = []) :
    (serverAbstraction tools budget).Silent history := by
  refine ⟨fun state => ?_, (filterMap_ownEvent history).trans clients⟩
  induction history with
  | nil => exact .nil _
  | cons event later ih =>
      cases own : isClientOp event.op with
      | true =>
          have rest : handlerEvents later = [] := by simpa [handlerEvents, own] using clients
          have waits : (serverAbstraction tools budget).upper.Step state event.op event.answer state :=
            @callWorld_client tools event.op own state event.answer
          exact .cons waits (ih rest)
      | false =>
          have shown : handlerEvents (event :: later) = event :: handlerEvents later :=
            List.filter_cons_of_pos (by simp [own])
          rw [shown] at clients
          cases clients

end Abstraction

section Following

variable [Platform] {α : Type} {client : HttpMistRetryClient}
  {joinedQuery : String → String → Option (List (String × String))} {tools : World mist}
  {budget : RateLimitBudget}

/-- What has been answered to a handler is what its client makes of the events so far, and what is
left of it has since been run by calls of the client only. -/
def Trails (client : HttpMistRetryClient)
    (joinedQuery : String → String → Option (List (String × String))) (past : ServiceHistory)
    (own : MistHistory) (program : ServiceProgram (Option α)) (rest : MistProgram α) : Prop :=
  ∃ early late memory, past = early ++ late ∧ HandsOn client joinedQuery none own early memory ∧
    Run (rest.link (client.implement joinedQuery) memory) late program ∧ toolEvents late = []

/-- When the client comes to an operation of a tool, its handler has come to it. -/
theorem unlink_tool {rest : MistProgram α} {late : ServiceHistory} {op : Op}
    {memory : Option (Except MistError MistResponse)}
    {next : op.Answer → ServiceProgram (Option α)}
    (run : Run (rest.link (client.implement joinedQuery) memory) late
      (.perform (S := service) (.tool op) next)) :
    isClientOp op = false ∧ ∃ own memory' later, Run rest own (.perform (S := mist) op later) ∧
      HandsOn client joinedQuery memory own late memory' ∧
      ∀ answer, next answer = (later answer).link (client.implement joinedQuery) memory' := by
  obtain ⟨own, early, late', memory', upper, later, inner, rfl, reached, handed, under, goes⟩ :=
    run.unlink
  have steps : (client.implement joinedQuery memory' upper).Ensures (S := service) _ _ [] :=
    implement_steps memory'
  obtain ⟨⟨tool, rfl⟩, _⟩ := (steps.guard_run under).1
  rw [implement_tool tool] at under
  rcases (run_perform_iff _ _ _ _).mp under with ⟨rfl, same⟩ | ⟨answer, more, rfl, ended⟩
  · obtain ⟨_, sameInner⟩ := Program.perform.inj same
    refine ⟨tool, own, memory', later, reached, by rwa [List.append_nil], fun answer => ?_⟩
    rw [goes answer, congrFun (eq_of_heq sameInner) answer]
    rfl
  · cases ((run_pure_iff _ _ _).mp ended).2

/-- A step over the client is followed by the handler. -/
theorem Trails.step {past : ServiceHistory} {own : MistHistory} {op : ServiceOp}
    {next : op.Answer → ServiceProgram (Option α)} {rest : MistProgram α}
    (follows : Trails client joinedQuery past own (.perform (S := service) op next) rest)
    (answer : op.Answer) {first first' : (serverWorld tools budget).State} {second : tools.State}
    (related : first.1 = second) (step : (serverWorld tools budget).Step first op answer first') :
    ∃ more rest' second', Run rest more rest' ∧
      (serverAbstraction tools budget).Mimics second second' more ⟨op, answer⟩ ∧
      first'.1 = second' ∧
      Trails client joinedQuery (past ++ [⟨op, answer⟩]) (own ++ more) (next answer) rest' := by
  obtain ⟨early, late, memory, rfl, handed, run, quiet⟩ := follows
  subst related
  cases tool : isToolOp op with
  | false =>
      obtain ⟨kept, unseen⟩ := serverWorld_hidden tool step
      have same : ([] : MistHistory) = (toolEvent ⟨op, answer⟩).toList := by rw [unseen]; rfl
      refine ⟨[], rest, first.1, .start _, ⟨.nil _, same⟩, kept, early, late ++ [⟨op, answer⟩],
        memory, List.append_assoc _ _ _, by rwa [List.append_nil],
        run.trans (.step (S := service) op next answer (.start _)), ?_⟩
      rw [toolEvents_other late op answer tool, quiet]
  | true =>
      cases op with
      | tool op =>
          obtain ⟨mine, own', memory', later, reached, handed', goes⟩ := unlink_tool run
          have silent : (serverAbstraction tools budget).Silent own' :=
            silent_clientOps ((handsOn_toolEvents handed').trans quiet)
          have moved : tools.Step first.1 op answer first'.1 := step.1
          have shown : ownEvent ⟨op, answer⟩ = some ⟨op, answer⟩ :=
            if_neg (by rw [mine]; exact Bool.false_ne_true)
          have single : (serverAbstraction tools budget).Mimics first.1 first'.1 [⟨op, answer⟩]
              ⟨.tool op, answer⟩ :=
            ⟨.cons (callWorld_tool mine moved) (.nil _), List.filterMap_cons_some shown⟩
          have answered : HandsOn client joinedQuery memory' [⟨op, answer⟩]
              [⟨.tool op, answer⟩] memory' :=
            handsOn_tools memory' (by simpa using mine)
          refine ⟨own' ++ [⟨op, answer⟩], later answer, first'.1,
            reached.trans (.step (S := mist) op later answer (.start _)), silent.mimics single, rfl,
            early ++ late ++ [⟨.tool op, answer⟩], [], memory', (List.append_nil _).symm, ?_, ?_, rfl⟩
          · rw [← List.append_assoc]
            exact (handed.append handed').append answered
          · rw [goes answer]
            exact .start _
      | _ => cases tool

/-- A handler whose client has returned returns the same after calls of the client. -/
theorem Trails.returns {past : ServiceHistory} {own : MistHistory} {value : α}
    {rest : MistProgram α}
    (follows : Trails client joinedQuery past own (.pure (some value)) rest) :
    ∃ more, Completes rest more value ∧ more.filterMap ownEvent = [] ∧
      AnsweredBy client joinedQuery (own ++ more) past := by
  obtain ⟨early, late, memory, rfl, handed, run, quiet⟩ := follows
  obtain ⟨more, memory', done, handed'⟩ := Completes.unlink run
  exact ⟨more, done, (filterMap_ownEvent more).trans ((handsOn_toolEvents handed').trans quiet),
    memory', handed.append handed'⟩

end Following

section Tasks

variable {ι : Type} [DecidableEq ι] [ServerPlatform]

variable {handler : MistHandler} {client : HttpMistRetryClient}
  {joinedQuery : String → String → Option (List (String × String))} {tools : World mist}
  {budget : RateLimitBudget}

/-- What is left of each task over its client follows what is left of its work. -/
theorem tasks_refine {created permits : Nat} {tasks : ι → Task} {initial : tools.State}
    {trace : Trace ι service} {pool : ι → ServiceProgram (Option Unit)}
    {state : (serverWorld tools budget).State}
    (run : Interleaved (serverWorld tools budget)
      (fun task => (tasks task).program handler client joinedQuery)
      (initial, SharedClient.new created permits) trace pool state) :
    ∃ trace' pool', Interleaved (callWorld tools) (fun task => (tasks task).work handler) initial
        trace' pool' state.1 ∧
      Trace.seen ownEvent trace' = Trace.seen toolEvent trace ∧
      ∀ task, Trails client joinedQuery (trace.ofThread task) (trace'.ofThread task) (pool task)
        (pool' task) := by
  have begins : ∀ task, Trails client joinedQuery [] []
      ((tasks task).program handler client joinedQuery) ((tasks task).work handler) :=
    fun task => ⟨[], [], none, rfl, .nil none, .start _, rfl⟩
  obtain ⟨trace', pool', state', refined, rfl, same, follows⟩ :=
    Interleaved.refines (serverAbstraction tools budget) begins
      (fun _ _ _ _ _ _ answer _ _ _ follows related step => follows.step answer related step) rfl run
  exact ⟨trace', pool', refined, same, follows⟩

/-- Every interleaving of the tasks over the client that they share is one of tasks whose calls are
single steps, with the same events of the tools in the same order. The answers of these calls are
what the client makes of its own events. A task that has come to its end has nothing left to do
there but calls of the client. -/
theorem server_refines (handler : MistHandler) (client : HttpMistRetryClient)
    (joinedQuery : String → String → Option (List (String × String))) (tools : World mist)
    (budget : RateLimitBudget) (created permits : Nat) (tasks : ι → Task) {initial : tools.State}
    {trace : Trace ι service} {pool : ι → ServiceProgram (Option Unit)}
    {state : (serverWorld tools budget).State}
    (run : Interleaved (serverWorld tools budget)
      (fun task => (tasks task).program handler client joinedQuery)
      (initial, SharedClient.new created permits) trace pool state) :
    ∃ trace' pool', Interleaved (callWorld tools) (fun task => (tasks task).work handler) initial
        trace' pool' state.1 ∧
      Trace.seen ownEvent trace' = Trace.seen toolEvent trace ∧
      (∀ task, Trails client joinedQuery (trace.ofThread task) (trace'.ofThread task) (pool task)
        (pool' task)) ∧
      ∀ task, pool task = .pure (some ()) →
        ∃ more, Completes (pool' task) more () ∧ more.filterMap ownEvent = [] ∧
          AnsweredBy client joinedQuery (trace'.ofThread task ++ more) (trace.ofThread task) := by
  obtain ⟨trace', pool', refined, same, follows⟩ := tasks_refine run
  refine ⟨trace', pool', refined, same, follows, fun task done => ?_⟩
  have followed := follows task
  rw [done] at followed
  exact followed.returns

end Tasks

section Calls

variable {tools : World mist}

/-- The same world answers both. -/
def callAbstraction (tools : World mist) : Abstraction mist mist MistEvent where
  upper := callWorld tools
  lower := callWorld tools
  states := Eq
  shown := ownEvent
  seen := ownEvent

/-- A pass over the sites performs operations of the client only. -/
theorem discoverOrgPages_client [Platform] {catalog : Catalog} {origin orgId : String}
    {sites : SiteMap} {page left : Nat} {past : MistHistory} :
    (discoverOrgPages catalog origin orgId sites page left).Ensures (S := mist)
      (fun _ op => isClientOp op = true) (fun _ _ => True) past := by
  induction left generalizing sites page past with
  | zero => trivial
  | succ left ih =>
      unfold discoverOrgPages
      split
      · trivial
      · refine ensures_ask_iff.mpr ⟨rfl, fun _ => ensures_ask_iff.mpr ⟨rfl, fun answer => ?_⟩⟩
        cases answer with
        | error error => trivial
        | ok response =>
            dsimp only
            split
            · trivial
            · split
              · trivial
              · split
                · trivial
                · exact ih

theorem discoverFrom_client [Platform] {catalog : Catalog} {origin : String}
    {discovered : SiteDiscovery} {orgs : List String} {past : MistHistory} :
    (discoverFrom catalog origin discovered orgs).Ensures (S := mist)
      (fun _ op => isClientOp op = true) (fun _ _ => True) past := by
  induction orgs generalizing discovered past with
  | nil => trivial
  | cons orgId rest ih =>
      unfold discoverFrom discoverOrgSites
      refine Ensures.bind discoverOrgPages_client fun history result _ => ?_
      obtain ⟨sites, outcome⟩ := result
      dsimp only
      split <;> exact ih

variable [ServerPlatform] {handler : MistHandler}

/-- The caller of a task is the one of its tool. -/
def Task.caller : Task → Option CallerCtx
  | .call caller _ _ => caller
  | .refresh _ => none

/-- This call is never started. -/
def unstarted : ToolCall := .getChangeSet ⟨"", .network, none⟩

omit [ServerPlatform] in
/-- A program that performs operations of the client only tracks any program that waits. -/
theorem tracks_client {α β : Type} {program : MistProgram β} {upper : MistProgram α}
    (client : program.Ensures (S := mist) (fun _ op => isClientOp op = true) (fun _ _ => True) []) :
    program.Tracks (callAbstraction tools) (fun upper' _ => upper' = upper) upper := by
  refine tracks_idle (fun _ op own answer first first' second related step => ?_) client
  have kept : first' = first := by
    change if isClientOp op = true then first' = first else _ at step
    rwa [if_pos own] at step
  exact ⟨kept.trans related, if_pos own⟩

/-- Every task does what some call of the server does. -/
theorem Task.tracks_call (task : Task) : ∃ call : ToolCall,
    (task.work handler).Tracks (callAbstraction tools) (fun _ _ => True)
      (call.program handler task.caller) := by
  cases task with
  | call caller tool arguments =>
      rcases callTool_serves tool arguments with ⟨outcome, same⟩ | ⟨call, _, _, same⟩
      · refine ⟨unstarted, ?_⟩
        unfold Task.work
        dsimp only
        rw [same]
        exact tracks_pure trivial
      · refine ⟨call, ?_⟩
        unfold Task.work
        dsimp only
        rw [same]
        refine (tracks_self rfl (fun op answer first first' second related step => ?_) _).bind
          fun _ _ _ => tracks_pure trivial
        exact ⟨first', related ▸ step, rfl⟩
  | refresh current =>
      refine ⟨unstarted, (tracks_client ?_).bind fun _ _ _ => tracks_pure trivial⟩
      exact discoverFrom_client.bind fun _ _ _ => trivial

variable {ι : Type} [DecidableEq ι]

/-- The tasks do what calls of the server do that are interleaved in the same way. -/
theorem tasks_call (tasks : ι → Task) {initial state : tools.State} {trace : Trace ι mist}
    {pool : ι → MistProgram Unit} (run : Interleaved (callWorld tools)
      (fun task => (tasks task).work handler) initial trace pool state) :
    ∃ (calls : ι → ToolCall) (trace' : Trace ι mist) (pool' : ι → MistProgram ToolOutcome),
      Interleaved (callWorld tools) (fun task => (calls task).program handler (tasks task).caller)
          initial trace' pool' state ∧
        Trace.seen ownEvent trace' = Trace.seen ownEvent trace := by
  have each : ∀ task, ∃ call : ToolCall, ((tasks task).work handler).Tracks
      (callAbstraction tools) (fun _ _ => True) (call.program handler (tasks task).caller) :=
    fun task => (tasks task).tracks_call
  choose calls tracks using each
  obtain ⟨trace', pool', state', refined, rfl, same, _⟩ :=
    Interleaved.tracked tracks rfl run
  exact ⟨calls, trace', pool', refined, same⟩

end Calls

end RustMist

namespace RustMist.Network

open Effects Effects.Program

section Served

/-- The tools and the client that answer what is theirs answer a history together. -/
theorem serverWorld_answers {tools : World mist} {budget : RateLimitBudget}
    {first second : tools.State} {state state' : (sharedWorld budget).State}
    {history : ServiceHistory}
    (handled : tools.Answers first (toolEvents history) second)
    (shared : (sharedWorld budget).Answers state history state') :
    (serverWorld tools budget).Answers (first, state) history (second, state') := by
  induction shared generalizing first with
  | nil =>
      cases handled
      exact .nil _
  | @cons _ _ _ op answer _ step _ ih =>
      cases op with
      | tool own =>
          cases handled with
          | cons moved later =>
              refine .cons ?_ (ih later)
              exact ⟨moved, step⟩
      | _ =>
          refine .cons ?_ (ih handled)
          exact ⟨step, rfl⟩

theorem toolEvents_onTools (own : MistHistory) : toolEvents (onTools own) = own := by
  induction own with
  | nil => rfl
  | cons event later ih => exact congrArg (event :: ·) ih

/-- The shelf once the change set is settled. -/
def settledShelf : Shelf := (plannedShelf.put claimedCreation).put
  (settled claimedCreation (isVerified verifyResult plannedWork.after))

theorem created_answered : Shelf.world.Answers plannedShelf
    ((createEvents handler plannedWork claimedCreation).drop 1 ++ settleEvents) settledShelf := by
  have stored : plannedShelf.find (plannedCreation orgId).id =
      some (approvedRecord (plannedCreation orgId)) := Shelf.find_put _ _
  have claim : Shelf.world.Step plannedShelf
      (.claimChangeSetForApply plannedWork.record.id plannedWork.record.device .none)
      (.ok claimedCreation) (plannedShelf.put claimedCreation) := ⟨_, stored, rfl, rfl, rfl, rfl⟩
  refine .cons ⟨stored, rfl, rfl⟩ (.cons rfl (.cons rfl (.cons claim (.cons rfl ?_))))
  exact .cons rfl (.nil _)

/-- The apply has created the network that the other task has planned in the meantime. -/
theorem served_runs : ∃ pool, Interleaved (serverWorld Shelf.world .mistDefault) wireProgram
    (Shelf.empty, SharedClient.new 0 1) wireTrace pool (settledShelf, inspected) ∧
      pool true = .pure (some ()) := by
  have whole := shared_applies
  rw [← List.take_append_drop 1 createdOver] at whole
  obtain ⟨middle, guard, rest⟩ := whole.split
  have guarded : Shelf.world.Answers Shelf.empty (toolEvents (createdOver.take 1)) Shelf.empty :=
    .cons rfl (.nil _)
  have planned : Shelf.world.Answers Shelf.empty (toolEvents plannedOver) plannedShelf := by
    rw [plannedOver, toolEvents_onTools]
    exact plan_answered
  have applied : Shelf.world.Answers plannedShelf (toolEvents (createdOver.drop 1)) settledShelf :=
    created_answered
  exact wire_interleaved (serverWorld_answers guarded guard)
    (serverWorld_answers planned (shared_tools _)) (serverWorld_answers applied rest)

theorem server_refines_created : ∃ trace' pool', Interleaved (callWorld Shelf.world)
      (fun task => (wireTasks task).work handler) Shelf.empty trace' pool' settledShelf ∧
    Trace.seen ownEvent trace' = Trace.seen toolEvent wireTrace ∧
    ∃ more, Completes (pool' true) more () ∧ more.filterMap ownEvent = [] ∧
      AnsweredBy writeClient (fun _ _ => none) (trace'.ofThread true ++ more)
        (wireTrace.ofThread true) := by
  obtain ⟨pool, run, done⟩ := served_runs
  obtain ⟨trace', pool', refined, same, _, ends⟩ := server_refines handler writeClient
    (fun _ _ => none) Shelf.world .mistDefault 0 1 wireTasks run
  exact ⟨trace', pool', refined, same, ends true done⟩

end Served

end RustMist.Network
