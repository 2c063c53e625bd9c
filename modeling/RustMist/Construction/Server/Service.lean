import RustMist.Construction.Core.Execute
import RustMist.Construction.Server.LocalTools
import RustMist.Construction.SiteDiscovery
import RustMist.Library.Interleaving
import RustMist.Library.Linking

/-! The tools and the refresh over the HTTP client that they share. -/

namespace RustMist

open Effects

section Signature

/-- The operations of the tools, those of the client, and the permits of its semaphore. -/
inductive ServiceOp where
  | tool (op : Op)
  | http (op : HttpOp)
  | acquirePermit
  | releasePermit

@[reducible] def ServiceOp.Answer : ServiceOp → Type
  | .tool op => op.Answer
  | .http op => op.Answer
  | .acquirePermit => Unit
  | .releasePermit => Unit

def service : Signature := ⟨ServiceOp, ServiceOp.Answer⟩

abbrev ServiceProgram := Program service

abbrev ServiceEvent := Event service

abbrev ServiceHistory := History service

abbrev serve (op : ServiceOp) : ServiceProgram op.Answer := Program.ask (S := service) op

/-- The client answers these operations itself. -/
def isClientOp : Op → Bool
  | .executeAs _ _ | .response | .budgetStatus => true
  | _ => false

def httpEmbedding : Embedding http service := ⟨.http, fun _ answer => answer⟩

end Signature

section Programs

variable [Platform] (client : HttpMistRetryClient)
  (joinedQuery : String → String → Option (List (String × String)))

/-- A call holds a permit of the semaphore until it ends. -/
def HttpMistRetryClient.permittedCall (request : MistRequest) (priority : CallPriority) :
    ServiceProgram (Except CallFailure MistResponse) := do
  serve .acquirePermit
  let result ← (client.executeAs joinedQuery request priority).embed httpEmbedding
  serve .releasePermit
  pure result

/-- The client keeps its answer until the handler takes it. A call that overflows ends its task. -/
def HttpMistRetryClient.implement (pending : Option (Except MistError MistResponse)) :
    (op : Op) → ServiceProgram (Option (op.Answer × Option (Except MistError MistResponse)))
  | .executeAs request priority => do
      match ← client.permittedCall joinedQuery request priority with
      | .ok response => pure (some ((), some (.ok response)))
      | .error (.mist error) => pure (some ((), some (.error error)))
      | .error .overflow => pure none
  | .response => pure (pending.map fun answer => (answer, none))
  | .budgetStatus => do
      let status ← serve (.http .budgetStatus)
      pure (some (some status, pending))
  | op => do
      let answer ← serve (.tool op)
      pure (some (answer, pending))

variable {α : Type}

/-- A program of the handler runs over the client. -/
def HttpMistRetryClient.over (program : MistProgram α) : ServiceProgram (Option α) :=
  program.link (client.implement joinedQuery) none

end Programs

section Tasks

/-- A task of the server is the call of a tool or a round of the refresh. -/
inductive Task where
  | call (caller : Option CallerCtx) (tool : String) (arguments : Json.Value)
  | refresh (current : SiteMap)

variable [ServerPlatform] (handler : MistHandler)

def Task.work : Task → MistProgram Unit
  | .call caller tool arguments => do
      let _ ← callTool handler caller tool arguments
      pure ()
  | .refresh current => do
      let _ ← refreshSites handler.catalog handler.origin handler.allowedOrgs current
      pure ()

/-- The calls of a task have this priority. -/
def Task.priority : Task → CallPriority
  | .call caller _ _ => callPriorityFor caller
  | .refresh _ => .standard

variable (client : HttpMistRetryClient)
  (joinedQuery : String → String → Option (List (String × String)))

def Task.program (task : Task) : ServiceProgram (Option Unit) :=
  client.over joinedQuery (task.work handler)

end Tasks

section Shared

/-- What all calls of a client share. The decisions of the budget are recorded in their order. -/
structure SharedClient where
  window : Window
  /-- The latest reading of the clock. -/
  latest : Nat
  decisions : List BudgetDecision
  freePermits : Nat

/-- The budget decides a call. -/
def SharedClient.decide (budget : RateLimitBudget) (state : SharedClient) (call : BudgetCall) :
    SharedClient :=
  let (decision, window) := budget.decide state.window call
  { state with
    window := window
    latest := call.finishedAt
    decisions := state.decisions ++ [decision] }

/-- The budget answers a request at a time that the clock has reached. -/
def SharedClient.Answers (budget : RateLimitBudget) (state : SharedClient)
    (request : BudgetRequest) (outcome : Except BudgetExhausted BudgetStatus)
    (state' : SharedClient) : Prop :=
  ∃ call : BudgetCall, call.request = request ∧ state.latest ≤ call.elapsedAt ∧
    (budget.decide state.window call).1.outcome = outcome ∧ state' = state.decide budget call

/-- The budget and the semaphore answer for themselves, and everything else may answer anything. -/
def SharedClient.Step (budget : RateLimitBudget) (state : SharedClient) :
    (op : ServiceOp) → op.Answer → SharedClient → Prop
  | .http (.tryAcquire priority), outcome, state' =>
      state.Answers budget (.tryAcquire priority) outcome state'
  | .http .budgetStatus, status, state' => state.Answers budget .status (.ok status) state'
  | .acquirePermit, _, state' =>
      0 < state.freePermits ∧ state' = { state with freePermits := state.freePermits - 1 }
  | .releasePermit, _, state' => state' = { state with freePermits := state.freePermits + 1 }
  | _, _, state' => state' = state

def sharedWorld (budget : RateLimitBudget) : World service where
  State := SharedClient
  Step := SharedClient.Step budget

/-- The tools' own operations are answered by one world, and the client shares the rest. -/
def serverWorld (tools : World mist) (budget : RateLimitBudget) : World service where
  State := tools.State × SharedClient
  Step state op answer state' :=
    match op, answer with
    | .tool op, answer => tools.Step state.1 op answer state'.1 ∧ state'.2 = state.2
    | op, answer => SharedClient.Step budget state.2 op answer state'.2 ∧ state'.1 = state.1

/-- A call of the client is one step that may be answered at will. -/
def callWorld (tools : World mist) : World mist where
  State := tools.State
  Step state op answer state' :=
    if isClientOp op = true then state' = state else tools.Step state op answer state'

def SharedClient.new (created permits : Nat) : SharedClient := ⟨⟨created, 0⟩, created, [], permits⟩

end Shared

end RustMist
