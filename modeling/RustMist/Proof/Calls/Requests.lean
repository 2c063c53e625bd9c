import RustMist.Construction.Server.Tools
import RustMist.Proof.Apply.Write

/-! The requests that the calls of all tools send. -/

namespace RustMist

open Effects Effects.Program

variable [ServerPlatform]

/-- This is the name under which the scopes of a caller are checked. -/
def ToolCall.tool : ToolCall → String
  | .invoke tool _ _ => tool
  | .named tool _ _ _ _ => tool
  | .plan _ => "plan_mist_change"
  | .getChangeSet _ => "get_mist_change_set"
  | .approve _ => "approve_mist_change_set"
  | .apply _ => "apply_mist_change_set"

section Guards

variable {handler : MistHandler} {caller : Option CallerCtx}
  {allowed : MistHistory → MistRequest → Prop}

omit [ServerPlatform] in
theorem succeed_ensures {program : MistProgram CallToolResult} {past : MistHistory}
    (ensures : program.Ensures (OnSend allowed) (fun _ _ => True) past) :
    (succeed program).Ensures (OnSend allowed) (fun _ _ => True) past :=
  ensures.bind fun _ _ _ => trivial

/-- A call makes reads of its own, the change-set tools those of their objects. -/
def ToolCall.Reads (read : CatalogRead) : ToolCall → Prop
  | .invoke tool _ capability | .named tool _ _ _ capability =>
      read.tool = tool ∧ read.capability = capability
  | .plan _ => IsObjectRead "plan_mist_change" read
  | .apply _ => IsObjectRead "apply_mist_change_set" read
  | _ => False

omit [ServerPlatform] in
theorem ToolCall.Reads.tool {read : CatalogRead} {call : ToolCall} (reads : call.Reads read) :
    read.tool = call.tool := by
  cases call with
  | invoke | named => exact reads.1
  | plan | apply =>
      obtain ⟨target, objectId, orgId, rfl⟩ := reads
      rfl
  | _ => exact reads.elim

/-- Every call sends its own admitted reads, and an apply sends the write of its work. -/
theorem ToolCall.reads_ensures (call : ToolCall)
    (reads : ∀ (read : CatalogRead) past request, call.Reads read →
      ReadAllowed handler read caller past request → allowed past request)
    (writes : ∀ args, call = .apply args → ∀ record work past,
      prepareWork args caller record = .ok work → allowed past work.writeRequest) :
    (call.program handler caller).Ensures (OnSend allowed) (fun _ _ => True) [] := by
  cases call with
  | invoke tool args capability =>
      apply succeed_ensures
      unfold invokeDispatcher
      split
      · trivial
      · exact read_ensures fun past request => reads _ past request ⟨rfl, rfl⟩
  | named tool operationId args pathNames capability =>
      apply succeed_ensures
      unfold dispatchNamed
      split
      · trivial
      · exact read_ensures fun past request => reads _ past request ⟨rfl, rfl⟩
  | plan args => exact succeed_ensures (planMistChange_ensures reads)
  | getChangeSet args =>
      apply succeed_ensures
      refine ensures_ask_iff.mpr ⟨nofun, fun fetch => ?_⟩
      cases fetch with
      | error error => trivial
      | ok record =>
          dsimp only
          split
          · trivial
          · split <;> trivial
  | approve args =>
      apply succeed_ensures
      refine ensures_ask_iff.mpr ⟨nofun, fun approved => ?_⟩
      cases approved <;> trivial
  | apply args => exact applyMistChangeSet_ensures reads (writes args rfl)

/-- Every call sends admitted reads under its own name, and an apply sends the write of its work. -/
theorem ToolCall.program_ensures (call : ToolCall)
    (reads : ∀ (read : CatalogRead) past request, read.tool = call.tool →
      ReadAllowed handler read caller past request → allowed past request)
    (writes : ∀ args, call = .apply args → ∀ record work past,
      prepareWork args caller record = .ok work → allowed past work.writeRequest) :
    (call.program handler caller).Ensures (OnSend allowed) (fun _ _ => True) [] :=
  call.reads_ensures (fun read past request own => reads read past request own.tool) writes

end Guards

/-- The call is an apply that fetched a record, prepared this work and sent its write. -/
def ToolCall.SendsWrite (call : ToolCall) (caller : Option CallerCtx) (history : MistHistory)
    (work : ApplyWork) : Prop :=
  ∃ args record priority, call = .apply args ∧
    ⟨.changeSet args.changeSetId (objectKey args.object args.objectId), .ok record⟩ ∈ history ∧
    prepareWork args caller record = .ok work ∧
    ⟨.executeAs work.writeRequest priority, ()⟩ ∈ history

/-- Only an apply writes, and what it writes is the write of the work that it prepared. -/
theorem ToolCall.sendsWrite_of_mem {handler : MistHandler} {call : ToolCall}
    {caller : Option CallerCtx} {history : MistHistory} {rest : MistProgram ToolOutcome}
    {request : MistRequest} {priority : CallPriority}
    (run : Run (call.program handler caller) history rest)
    (sent : (⟨.executeAs request priority, ()⟩ : MistEvent) ∈ history) (write : IsWrite request) :
    ∃ work, call.SendsWrite caller history work ∧ request = work.writeRequest := by
  by_cases applies : ∃ args, call = .apply args
  · obtain ⟨args, rfl⟩ := applies
    obtain ⟨before, after, rfl⟩ := List.append_of_mem sent
    obtain ⟨work, claimed, driftChecked, now, reads, reached, rfl, _⟩ :=
      applyMistChangeSet_write write run
    exact ⟨work, ⟨args, work.record, priority, rfl, List.mem_append_left _ reached.fetched_mem,
      reached.prepared, sent⟩, rfl⟩
  · have free : (call.program handler caller).Ensures NoWrite (fun _ _ => True) [] :=
      call.program_ensures
        (fun read past request _ => not_isWrite_of_readAllowed read past request)
        (fun args same => absurd ⟨args, same⟩ applies)
    exact absurd sent (not_mem_of_noWrite free write _ _ run)

end RustMist
