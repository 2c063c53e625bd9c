import RustMist.Construction.Server.Service
import RustMist.Proof.Surface.Routes

/-! How many requests a task sends, and with which priority. -/

namespace RustMist

open Effects Effects.Program

/-- A request weighs one. -/
def requestWeight : Op → Nat
  | .executeAs _ _ => 1
  | _ => 0

/-- Every request has this priority. -/
def HasPriority (priority : CallPriority) : Op → Prop
  | .executeAs _ given => given = priority
  | _ => True

/-- A program sends at most so many requests, all with one priority. -/
abbrev SendsAtMost {α : Type} (program : MistProgram α) (priority : CallPriority) (bound : Nat) : Prop :=
  program.AtMost (S := mist) requestWeight (HasPriority priority) bound

section Rules

variable {α β : Type} {priority : CallPriority} {bound : Nat}

/-- An operation that is no request costs nothing. -/
theorem sends_perform (op : Op) {next : op.Answer → MistProgram α}
    (light : requestWeight op = 0)
    (later : ∀ answer, SendsAtMost (next answer) priority bound) :
    SendsAtMost (perform op >>= next) priority bound := by
  have permitted : HasPriority priority op := by
    cases op with
    | executeAs request given => cases light
    | _ => trivial
  exact ⟨permitted, bound, by rw [light, Nat.zero_add], later⟩

theorem sends_request (bound : Nat) {request : MistRequest} {next : Unit → MistProgram α}
    (later : SendsAtMost (next ()) priority bound) :
    SendsAtMost (perform (.executeAs request priority) >>= next) priority (1 + bound) :=
  ⟨rfl, bound, rfl, fun _ => later⟩

/-- What follows a part that sends nothing may send all. -/
theorem sends_after {program : MistProgram α} {next : α → MistProgram β}
    (quiet : SendsAtMost program priority 0) (later : ∀ value, SendsAtMost (next value) priority bound) :
    SendsAtMost (program >>= next) priority bound := by
  have both := quiet.bind later
  rwa [Nat.zero_add] at both

theorem sends_then_nothing {program : MistProgram α} {next : α → MistProgram β}
    (first : SendsAtMost program priority bound) (quiet : ∀ value, SendsAtMost (next value) priority 0) :
    SendsAtMost (program >>= next) priority bound := first.bind quiet

end Rules

variable [ServerPlatform] {handler : MistHandler} {caller : Option CallerCtx}

section Reads

variable {read : CatalogRead} {target : Option MistTarget}

theorem sends_sendRead (request : MistRequest) :
    SendsAtMost (sendRead handler read caller target request) (callPriorityFor caller) 1 := by
  refine sends_request 0 (sends_perform _ rfl fun answer => ?_)
  cases answer with
  | error error => trivial
  | ok response =>
      refine sends_perform _ rfl fun budget => ?_
      cases acceptResponse handler request target response <;> trivial

theorem sends_requestRead :
    SendsAtMost (requestRead handler read caller target) (callPriorityFor caller) 1 := by
  unfold requestRead
  split
  · trivial
  · dsimp only
    split
    · trivial
    · exact sends_sendRead _

omit [ServerPlatform] in
theorem sends_allowlistProblem (target : MistTarget) (priority : CallPriority) :
    SendsAtMost (allowlistProblem handler target) priority 0 := by
  unfold allowlistProblem
  cases target.kind with
  | org =>
      dsimp only
      split <;> trivial
  | site =>
      refine sends_perform _ rfl fun sites => ?_
      split
      · trivial
      · split <;> trivial

/-- A catalogued read sends at most one request. -/
theorem sends_read :
    SendsAtMost (dispatchCataloguedRead handler read caller) (callPriorityFor caller) 1 := by
  unfold dispatchCataloguedRead
  split
  · trivial
  · exact sends_requestRead
  · refine sends_after (sends_allowlistProblem _ _) fun problem => ?_
    cases problem with
    | none => exact sends_requestRead
    | some reason => trivial

end Reads

section Plan

variable {args : PlanChangeArgs} {owner : String} {staged : StagedPlan} {before : Json}
  {priority : CallPriority}

theorem sends_waivePlan : SendsAtMost (waivePlan handler args owner staged before) priority 0 := by
  unfold waivePlan
  split
  · refine sends_perform _ rfl fun waived => ?_
    cases waived <;> trivial
  · trivial

theorem sends_stagePlan {object : WanObject} {objectId : Option String} {orgId : String}
    {after : Json} : SendsAtMost (stagePlan owner object objectId orgId before after) priority 0 := by
  refine sends_perform _ rfl fun random => ?_
  cases random with
  | error reason => trivial
  | ok idBytes =>
      dsimp only
      split
      · trivial
      · refine sends_perform _ rfl fun time => ?_
        cases time with
        | error reason => trivial
        | ok now =>
            refine sends_perform _ rfl fun inserted => ?_
            cases inserted <;> trivial

theorem sends_stageChange : SendsAtMost (stageChange handler args owner before) priority 0 := by
  refine sends_after sends_stagePlan fun result => ?_
  cases result with
  | error error => trivial
  | ok staged =>
      dsimp only
      split
      · exact sends_perform _ rfl fun _ => sends_waivePlan
      · exact sends_waivePlan

/-- A plan reads its object at most once. -/
theorem sends_planMistChange :
    SendsAtMost (planMistChange handler args caller) (callPriorityFor caller) 1 := by
  unfold planMistChange
  dsimp only
  split
  · trivial
  · split
    · trivial
    · split
      · trivial
      · split
        · exact sends_stageChange.mono (Nat.zero_le _)
        · split
          · trivial
          · refine sends_then_nothing sends_read fun result => ?_
            split
            · trivial
            · split
              · trivial
              · exact sends_stageChange

end Plan

section Apply

variable {work : ApplyWork} {claimed : ChangeSetRecord} {driftChecked : Bool}

theorem sends_abandonApply {message : String} {priority : CallPriority} :
    SendsAtMost (abandonApply claimed message) priority 0 :=
  sends_perform _ rfl fun _ => trivial

omit [ServerPlatform] in
theorem sends_recordReceipt {success : Bool} {reason : String} {priority : CallPriority} :
    SendsAtMost (recordReceipt handler work claimed success reason) priority 0 := by
  unfold recordReceipt
  split
  · exact sends_perform _ rfl fun _ => trivial
  · trivial

/-- The verification reads the object once. -/
theorem sends_verifyApply {objectId : String} :
    SendsAtMost (verifyApply handler work claimed objectId driftChecked) (callPriorityFor work.caller)
      1 := by
  refine sends_then_nothing sends_read fun result => ?_
  refine sends_after sends_recordReceipt fun _ => ?_
  refine sends_perform _ rfl fun answer => ?_
  cases answer <;> trivial

theorem sends_concludeWrite (answer : Except MistError MistResponse) :
    SendsAtMost (concludeWrite handler work claimed driftChecked answer) (callPriorityFor work.caller)
      1 := by
  cases answer with
  | error error => exact sends_abandonApply.mono (Nat.zero_le _)
  | ok response =>
      unfold concludeWrite
      dsimp only
      cases finalObjectId work response with
      | error reason =>
          exact sends_after sends_recordReceipt fun _ => sends_abandonApply.mono (Nat.zero_le _)
      | ok objectId => exact sends_verifyApply

/-- The write is followed by at most one read. -/
theorem sends_sendWrite :
    SendsAtMost (sendWrite handler work claimed driftChecked) (callPriorityFor work.caller) 2 := by
  unfold sendWrite
  exact sends_request 1 (sends_perform .response rfl sends_concludeWrite)

theorem sends_claimAndWrite :
    SendsAtMost (claimAndWrite handler work driftChecked) (callPriorityFor work.caller) 2 := by
  refine sends_perform _ rfl fun answer => ?_
  cases answer with
  | error error => trivial
  | ok claimed => exact sends_sendWrite

theorem sends_issueApply :
    SendsAtMost (issueApply handler work driftChecked) (callPriorityFor work.caller) 2 := by
  unfold issueApply
  split
  · trivial
  · split
    · refine sends_perform _ rfl fun answer => ?_
      cases answer with
      | error reason => trivial
      | ok _ => exact sends_claimAndWrite
    · exact sends_claimAndWrite

theorem sends_settleDrift {priority : CallPriority} : SendsAtMost (settleDrift work) priority 0 := by
  refine sends_perform _ rfl fun answer => ?_
  cases answer with
  | error error => trivial
  | ok claimed => exact sends_abandonApply

/-- The drift check reads the object once before the write. -/
theorem sends_applyWork : SendsAtMost (applyWork handler work) (callPriorityFor work.caller) 3 := by
  unfold applyWork
  split
  · exact sends_issueApply.mono (by decide)
  · unfold checkDrift
    change SendsAtMost _ _ (1 + 2)
    refine sends_read.bind fun result => ?_
    split
    · trivial
    · split
      · trivial
      · split
        · exact sends_settleDrift.mono (Nat.zero_le _)
        · exact sends_issueApply

theorem sends_applyMistChangeSet {args : ChangeSetArgs} :
    SendsAtMost (applyMistChangeSet handler args caller) (callPriorityFor caller) 3 := by
  refine sends_perform _ rfl fun guard => ?_
  cases guard with
  | error error => trivial
  | ok _ =>
      refine sends_perform _ rfl fun fetch => ?_
      cases fetch with
      | error error => trivial
      | ok record =>
          dsimp only
          unfold applyRecord
          split
          · trivial
          · refine sends_perform _ rfl fun time => ?_
            cases time with
            | error reason => trivial
            | ok now =>
                dsimp only
                split
                · trivial
                · split
                  · trivial
                  · rename_i work prepared
                    obtain ⟨_, rfl, _⟩ := prepareWork_ok prepared
                    exact sends_applyWork

end Apply

section Tools

/-- Only an apply sends more than one request. -/
def ToolCall.requestBound : ToolCall → Nat
  | .apply _ => 3
  | .getChangeSet _ | .approve _ => 0
  | _ => 1

omit [ServerPlatform] in
theorem sends_succeed {program : MistProgram CallToolResult} {priority : CallPriority} {bound : Nat}
    (within : SendsAtMost program priority bound) : SendsAtMost (succeed program) priority bound :=
  sends_then_nothing within fun _ => trivial

theorem ToolCall.sends (call : ToolCall) :
    SendsAtMost (call.program handler caller) (callPriorityFor caller) call.requestBound := by
  cases call with
  | invoke tool args capability =>
      apply sends_succeed
      unfold invokeDispatcher
      split
      · trivial
      · exact sends_read
  | named tool operationId args pathNames capability =>
      apply sends_succeed
      unfold dispatchNamed
      split
      · trivial
      · exact sends_read
  | plan args => exact sends_succeed sends_planMistChange
  | getChangeSet args =>
      apply sends_succeed
      refine sends_perform _ rfl fun fetch => ?_
      cases fetch with
      | error error => trivial
      | ok record =>
          dsimp only
          split
          · trivial
          · split <;> trivial
  | approve args =>
      apply sends_succeed
      refine sends_perform _ rfl fun approved => ?_
      cases approved <;> trivial
  | apply args => exact sends_applyMistChangeSet

/-- These tools never reach the client. -/
def localTools : List String :=
  ["approve_mist_change_set", "get_mist_change_set", "get_mist_operation_schema", "list_mist_orgs",
    "search_mist_operations"]

def requestBound (tool : String) : Nat :=
  if tool = "apply_mist_change_set" then 3 else if tool ∈ localTools then 0 else 1

omit [ServerPlatform] in
theorem sends_withArgs {α : Type} {read : Except String α} {run : α → MistProgram ToolOutcome}
    {priority : CallPriority} {bound : Nat} (within : ∀ args, SendsAtMost (run args) priority bound) :
    SendsAtMost (withArgs read run) priority bound := by
  unfold withArgs
  split
  · trivial
  · exact within _

theorem sends_answerLocally {tool : String} (answer : Except ToolCallError Json)
    {priority : CallPriority} {bound : Nat} :
    SendsAtMost (answerLocally caller tool answer) priority bound := by
  unfold answerLocally
  split
  · trivial
  · split <;> trivial

theorem NamedTool.sends (tool : NamedTool) (arguments : Json.Value) :
    SendsAtMost (tool.program handler caller arguments) (callPriorityFor caller) 1 := by
  unfold NamedTool.program
  split
  · trivial
  · rename_i record _
    split
    · trivial
    · rename_i resolved _
      exact (ToolCall.named tool.name resolved.operationId record.toJson resolved.pathNames
        resolved.capability).sends

theorem sends_getMistOrg (arguments : Json.Value) :
    SendsAtMost (getMistOrg handler caller arguments) (callPriorityFor caller) 1 := by
  unfold getMistOrg
  split
  · trivial
  · exact sends_succeed sends_read

theorem sends_getMistWanConfig (arguments : Json.Value) :
    SendsAtMost (getMistWanConfig handler caller arguments) (callPriorityFor caller) 1 := by
  unfold getMistWanConfig
  split
  · trivial
  · exact sends_succeed sends_read

/-- Every route keeps the bound of its tool. -/
theorem toolRouter_sends : ∀ route ∈ toolRouter handler caller, ∀ arguments,
    SendsAtMost (route.2 arguments) (callPriorityFor caller) (requestBound route.1) := by
  intro route member arguments
  rcases List.mem_append.mp member with own | named
  · simp only [ownRoutes, List.mem_cons, List.not_mem_nil, or_false] at own
    rcases own with rfl | rfl | rfl | rfl | rfl | rfl | rfl | rfl | rfl | rfl | rfl
    · exact sends_withArgs fun args => (ToolCall.apply args).sends
    · exact sends_withArgs fun args => (ToolCall.approve args).sends
    · exact sends_withArgs fun args => (ToolCall.getChangeSet args).sends
    · exact sends_withArgs fun args => sends_answerLocally _
    · exact sends_getMistOrg arguments
    · exact sends_getMistWanConfig arguments
    · exact sends_withArgs fun args =>
        (ToolCall.invoke "invoke_mist_privileged_read" args .privilegedRead).sends
    · exact sends_withArgs fun args => (ToolCall.invoke "invoke_mist_read" args .ordinaryRead).sends
    · exact sends_withArgs fun _ => sends_answerLocally _
    · exact sends_withArgs fun args => (ToolCall.plan args).sends
    · exact sends_withArgs fun args => sends_answerLocally _
  · obtain ⟨tool, listed, rfl⟩ := List.mem_map.mp named
    have single : ∀ tool ∈ namedTools, requestBound tool.name = 1 := by decide
    rw [NamedTool.route, single tool listed]
    exact tool.sends arguments

/-- A call of a tool sends at most one request, three when it applies a change set, and none when
the tool is local, and only a caller who is known to be human draws on the reserve. -/
theorem callTool_sends (name : String) (arguments : Json.Value) :
    SendsAtMost (callTool handler caller name arguments) (callPriorityFor caller) (requestBound name) := by
  unfold callTool
  split
  · rename_i tool found
    exact toolRouter_sends _ (IndexMap.mem_of_get found) arguments
  · trivial

end Tools

section Tasks

omit [ServerPlatform] in
/-- A pass sends no more requests than it may fetch pages. -/
theorem sends_discoverOrgPages [Platform] {catalog : Catalog} {origin orgId : String}
    {sites : SiteMap} {page left : Nat} :
    SendsAtMost (discoverOrgPages catalog origin orgId sites page left) .standard left := by
  induction left generalizing sites page with
  | zero => trivial
  | succ left ih =>
      unfold discoverOrgPages
      split
      · trivial
      · rw [Nat.add_comm left 1]
        refine sends_request _ ?_
        refine sends_perform .response rfl fun answer => ?_
        cases answer with
        | error error => trivial
        | ok response =>
            dsimp only
            split
            · trivial
            · split
              · trivial
              · split
                · trivial
                · exact ih

omit [ServerPlatform] in
theorem sends_discoverFrom [Platform] {catalog : Catalog} {origin : String}
    {discovered : SiteDiscovery} {orgs : List String} :
    SendsAtMost (discoverFrom catalog origin discovered orgs) .standard
      (orgs.length * maxPagesPerOrg) := by
  induction orgs generalizing discovered with
  | nil => trivial
  | cons orgId rest ih =>
      unfold discoverFrom
      rw [List.length_cons, Nat.add_mul, Nat.one_mul, Nat.add_comm]
      refine AtMost.bind (S := mist) sends_discoverOrgPages fun result => ?_
      obtain ⟨sites, outcome⟩ := result
      dsimp only
      split
      · exact ih
      · exact ih

/-- The requests of a task are bounded by its tool or by the organizations that it visits. -/
def Task.requestBound (handler : MistHandler) : Task → Nat
  | .call _ tool _ => RustMist.requestBound tool
  | .refresh _ => handler.allowedOrgs.length * maxPagesPerOrg

theorem Task.sends (task : Task) :
    SendsAtMost (task.work handler) task.priority (task.requestBound handler) := by
  cases task with
  | call caller tool arguments =>
      exact sends_then_nothing (callTool_sends tool arguments) fun _ => trivial
  | refresh current =>
      exact sends_then_nothing (sends_then_nothing sends_discoverFrom fun _ => trivial)
        fun _ => trivial

end Tasks

end RustMist
