import RustMist.Construction.Server.Apply

/-! The tools of the server as calls. -/

namespace RustMist

/-- Each call carries the arguments of one tool. -/
inductive ToolCall where
  /-- A dispatcher takes an operation, its values or a cursor. -/
  | invoke (tool : String) (args : InvokeReadArgs) (capability : MistCapability)
  /-- A named tool has its own operation and its own path names. -/
  | named (tool operationId : String) (args : Json) (pathNames : List String)
      (capability : MistCapability)
  | plan (args : PlanChangeArgs)
  | getChangeSet (args : ChangeSetArgs)
  | approve (args : ApproveChangeSetArgs)
  | apply (args : ChangeSetArgs)

variable [ServerPlatform]

def succeed (program : MistProgram CallToolResult) : MistProgram ToolOutcome := do
  let result ← program
  pure (.ok result)

/-- This program answers a call. -/
def ToolCall.program (handler : MistHandler) (caller : Option CallerCtx) :
    ToolCall → MistProgram ToolOutcome
  | .invoke tool args capability => succeed (invokeDispatcher handler tool args capability caller)
  | .named tool operationId args pathNames capability =>
      succeed (dispatchNamed handler tool operationId args pathNames capability caller)
  | .plan args => succeed (planMistChange handler args caller)
  | .getChangeSet args => succeed (getMistChangeSet args)
  | .approve args => succeed (approveMistChangeSet handler args caller)
  | .apply args => applyMistChangeSet handler args caller

end RustMist
