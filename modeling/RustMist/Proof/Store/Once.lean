import RustMist.Proof.Plan.Digest
import RustMist.Proof.Store.Shelf
import RustMist.Proof.Store.Lifecycle

/-! A change set is written at most once, and only as it was planned and approved. -/

namespace RustMist

open Effects Effects.Program

variable [ServerPlatform] {ι : Type} [DecidableEq ι] {handler : MistHandler}
  {calls : ι → ToolCall} {callers : ι → Option CallerCtx}

/-- The change set of a write is the one that the arguments of its call name. -/
def writtenChangeSet (calls : ι → ToolCall) (entry : ι × MistEvent) : Option String :=
  match calls entry.1, entry.2.op with
  | .apply args, .executeAs request _ =>
      if request.json.isSome then some args.changeSetId else none
  | _, _ => none

/-- A plan of the trace has staged the body, the organization and the verb of this work. -/
def PlannedBy (handler : MistHandler) (calls : ι → ToolCall) (callers : ι → Option CallerCtx)
    (trace : Trace ι mist) (work : ApplyWork) : Prop :=
  ∃ planner plan past base planned, calls planner = .plan plan ∧
    (planner, ⟨.insertChangeSet planned, .ok ()⟩) ∈ trace ∧
    PlanInserted handler plan (callers planner) past base planned ∧
    SameStaged planned work.record ∧ work.writeRequest.json = some (mergePatch base plan.patch.val) ∧
    work.orgId = plan.orgId ∧ work.isCreate = base.isNull

/-- What the call of a write has read, who has approved it and which plan has staged it. -/
structure WriteJustified (handler : MistHandler) (calls : ι → ToolCall)
    (callers : ι → Option CallerCtx) (trace : Trace ι mist) (thread : ι) (request : MistRequest)
    (args : ChangeSetArgs) (work : ApplyWork) (claimed : ChangeSetRecord) (driftChecked : Bool)
    (now : UInt64) (reads : MistHistory) : Prop where
  call : calls thread = .apply args
  /-- The fetched record was approved and not expired, and every later gate was passed. -/
  reached : WriteReached handler args (callers thread) (trace.ofThread thread) work claimed
    driftChecked now reads
  request : request = work.writeRequest
  named : work.record.id = args.changeSetId
  approval : ApprovedBy handler calls callers trace work.record
  planned : PlannedBy handler calls callers trace work

omit [DecidableEq ι] [ServerPlatform] in
theorem writtenChangeSet_eq_some_iff {entry : ι × MistEvent} {id : String} :
    writtenChangeSet calls entry = some id ↔ ∃ args request priority,
      calls entry.1 = .apply args ∧ entry.2 = ⟨.executeAs request priority, ()⟩ ∧
        IsWrite request ∧ args.changeSetId = id := by
  obtain ⟨thread, op, answer⟩ := entry
  unfold writtenChangeSet IsWrite
  constructor
  · intro written
    split at written
    · rename_i args request priority call operation
      dsimp only at operation
      subst operation
      split at written
      · rename_i body
        exact ⟨args, request, priority, call, rfl, Option.isSome_iff_ne_none.mp body,
          Option.some.inj written⟩
      · cases written
    · cases written
  · intro ⟨args, request, priority, call, event, body, same⟩
    obtain ⟨rfl, _⟩ := Event.mk.inj event
    simp only [call, Option.isSome_iff_ne_none.mpr body, if_true, same]

section Runs

variable {world : World mist} {initial state : world.State} {trace before after : Trace ι mist}
  {pool : ι → MistProgram ToolOutcome} {thread : ι} {request : MistRequest}
  {priority : CallPriority}

/-- Only an apply writes, and the events of its thread have passed every gate. -/
theorem write_reached
    (run : Interleaved world (fun thread => (calls thread).program handler (callers thread)) initial
      (before ++ (thread, ⟨.executeAs request priority, ()⟩) :: after) pool state)
    (write : IsWrite request) :
    ∃ args work claimed driftChecked now reads, calls thread = .apply args ∧
      WriteReached handler args (callers thread) (before.ofThread thread) work claimed driftChecked
        now reads ∧ request = work.writeRequest := by
  have own := run.thread_run thread
  rw [← List.singleton_append, Trace.ofThread_append, Trace.ofThread_append,
    Trace.ofThread_single] at own
  obtain ⟨_, ⟨args, _, _, call, _⟩, _⟩ :=
    ToolCall.sendsWrite_of_mem own (List.mem_append_right _ List.mem_cons_self) write
  simp only [call] at own
  obtain ⟨work, claimed, driftChecked, now, reads, reached, same, _⟩ :=
    applyMistChangeSet_write write own
  exact ⟨args, work, claimed, driftChecked, now, reads, call, reached, same⟩

/-- The store keeps its invariant in every interleaving of the calls. -/
theorem store_invariant (contract : StoreContract world)
    (absent : ∀ id, contract.find initial id = none)
    (run : Interleaved world (fun thread => (calls thread).program handler (callers thread)) initial
      trace pool state) :
    StoreInvariant handler calls callers (contract.find state) trace := by
  let keeps (trace : Trace ι mist) (state : world.State) : Prop :=
    StoreInvariant handler calls callers (contract.find state) trace
  have kept : ∀ trace state state' thread (op : Op) (answer : op.Answer), keeps trace state →
      CallStep handler (calls thread) (callers thread) (Trace.ofThread trace thread) op →
        world.Step state op answer state' → keeps (trace ++ [(thread, ⟨op, answer⟩)]) state' := by
    intro trace state state' thread op answer holds step answered
    exact StoreInvariant.step contract holds step answered
  have base : keeps [] initial := StoreInvariant.empty absent
  exact run.invariant (fun thread => (calls thread).program_steps handler (callers thread)) base kept

/-- Nothing is written before the write of a run. -/
theorem WriteReached.write_notMem {args : ChangeSetArgs} {caller : Option CallerCtx}
    {past : MistHistory} {work : ApplyWork} {claimed : ChangeSetRecord} {driftChecked : Bool}
    {now : UInt64} {reads : MistHistory}
    (reached : WriteReached handler args caller past work claimed driftChecked now reads)
    (write : IsWrite request) : (⟨.executeAs request priority, ()⟩ : MistEvent) ∉ past := by
  intro member
  obtain ⟨early, late, same⟩ := List.append_of_mem member
  have run := applyMistChangeSet_reaches reached
  rw [same, List.append_assoc, List.cons_append] at run
  obtain ⟨work', claimed', driftChecked', now', reads', _, _, later⟩ :=
    applyMistChangeSet_write write run
  have free : (perform .response >>= concludeWrite handler work' claimed' driftChecked').Ensures
      NoWrite (fun _ _ => True) [] := concludeWrite_ensures
    (fun read past request _ => not_isWrite_of_readAllowed read past request) _ _
  have write' : IsWrite work.writeRequest := nofun
  exact not_mem_of_noWrite free write' _ _ later (List.mem_append_right late List.mem_cons_self)

/-- The fetched record is the one that the arguments name. -/
theorem WriteReached.named (contract : StoreContract world)
    (absent : ∀ id, contract.find initial id = none)
    (run : Interleaved world (fun thread => (calls thread).program handler (callers thread)) initial
      trace pool state) {args : ChangeSetArgs} {work : ApplyWork} {claimed : ChangeSetRecord}
    {driftChecked : Bool} {now : UInt64} {reads : MistHistory}
    (reached : WriteReached handler args (callers thread) (trace.ofThread thread) work claimed
      driftChecked now reads) :
    work.record.id = args.changeSetId ∧ InsertedAs handler calls callers trace work.record ∧
      ApprovedBy handler calls callers trace work.record := by
  have fetched := (store_invariant contract absent run).fetched thread _ _ work.record
    (Trace.mem_ofThread.mp reached.fetched_mem)
  exact ⟨fetched.1, fetched.2.1, fetched.2.2 reached.approved⟩

section Writes

variable (contract : StoreContract world) (absent : ∀ id, contract.find initial id = none)

include contract absent

/-- Every write of an interleaving is justified by the events before it. -/
theorem write_justified
    (run : Interleaved world (fun thread => (calls thread).program handler (callers thread)) initial
      (before ++ (thread, ⟨.executeAs request priority, ()⟩) :: after) pool state)
    (write : IsWrite request) :
    ∃ args work claimed driftChecked now reads, WriteJustified handler calls callers before thread
      request args work claimed driftChecked now reads := by
  obtain ⟨args, work, claimed, driftChecked, now, reads, call, reached, same⟩ :=
    write_reached run write
  obtain ⟨_, _, _, _, earlier, _, _⟩ := run.at_entry
  obtain ⟨named, inserted, approval⟩ := reached.named contract absent earlier
  obtain ⟨planner, plan, past, base, planned, planCall, member, staging, staged⟩ := inserted
  obtain ⟨_, _, _, sameAfter, sameOrg, create, _⟩ :=
    (staging.staged.transfer staged).prepared reached.prepared
  refine ⟨args, work, claimed, driftChecked, now, reads, call, reached, same, named, approval, ?_⟩
  refine ⟨planner, plan, past, base, planned, planCall, member, staging, staged, ?_, sameOrg, create⟩
  exact congrArg some sameAfter

/-- The claim of its change set precedes every write. -/
theorem write_claimed
    (run : Interleaved world (fun thread => (calls thread).program handler (callers thread)) initial
      (before ++ (thread, ⟨.executeAs request priority, ()⟩) :: after) pool state)
    (write : IsWrite request) {args : ChangeSetArgs} (call : calls thread = .apply args) :
    ∃ device claimed, (thread, ⟨.claimChangeSetForApply args.changeSetId device .none,
      .ok claimed⟩) ∈ claimsOf args.changeSetId before := by
  obtain ⟨args', work, claimed, driftChecked, now, reads, justified⟩ :=
    write_justified contract absent run write
  obtain rfl := ToolCall.apply.inj (call.symm.trans justified.call)
  refine ⟨work.record.device, claimed, List.mem_filter.mpr ⟨?_, by simp⟩⟩
  rw [← justified.named]
  exact Trace.mem_ofThread.mp justified.reached.claimed_mem

/-- A second write of one change set would need a second claim of it. -/
theorem write_fresh
    (run : Interleaved world (fun thread => (calls thread).program handler (callers thread)) initial
      (trace ++ [(thread, ⟨.executeAs request priority, ()⟩)]) pool state)
    {id : String} (written : writtenChangeSet calls (thread, ⟨.executeAs request priority, ()⟩) =
      some id) : id ∉ trace.filterMap (writtenChangeSet calls) := by
  intro member
  obtain ⟨⟨thread', event⟩, present, written'⟩ := List.mem_filterMap.mp member
  obtain ⟨args, request₁, priority₁, call, same, write, named⟩ :=
    writtenChangeSet_eq_some_iff.mp written
  obtain ⟨args', request', priority', call', rfl, write', named'⟩ :=
    writtenChangeSet_eq_some_iff.mp written'
  obtain ⟨rfl, rfl⟩ := Op.executeAs.inj (Event.mk.inj same).1
  obtain ⟨early, late, split⟩ := List.append_of_mem present
  have run' := run
  rw [split, List.append_assoc, List.cons_append] at run'
  obtain ⟨device, claimed, claim⟩ := write_claimed contract absent run write call
  obtain ⟨device', claimed', claim'⟩ := write_claimed contract absent run' write' call'
  rw [named'] at claim'
  rw [named] at claim
  -- Both claims are the one claim that the store allows, so that one thread has written twice.
  have within : claimsOf id early ⊆ claimsOf id trace := by
    rw [split, claimsOf_append]
    exact List.subset_append_left _ _
  obtain ⟨_, _, _, _, earlier, _, _⟩ := run.at_entry
  have same := claims_unique ((store_invariant contract absent earlier).once id) (within claim') claim
  obtain rfl : thread' = thread := congrArg Prod.fst same
  obtain ⟨_, _, _, _, _, _, _, reached, _⟩ := write_reached run write
  exact reached.write_notMem write' (Trace.mem_ofThread.mpr present)

end Writes

/-- A change set is written at most once in every interleaving, and only when that is justified. -/
theorem changeSets_written_once (contract : StoreContract world)
    (absent : ∀ id, contract.find initial id = none)
    (run : Interleaved world (fun thread => (calls thread).program handler (callers thread)) initial
      trace pool state) :
    (trace.filterMap (writtenChangeSet calls)).Nodup ∧
      ∀ before thread request priority after,
        trace = before ++ (thread, ⟨.executeAs request priority, ()⟩) :: after → IsWrite request →
          ∃ args work claimed driftChecked now reads, WriteJustified handler calls callers before
            thread request args work claimed driftChecked now reads := by
  constructor
  · induction run with
    | start => exact List.nodup_nil
    | @step trace pool state state' mover op next answer earlier waiting answered ih =>
        rw [List.filterMap_append]
        cases written : writtenChangeSet calls (mover, ⟨op, answer⟩) with
        | none =>
            rw [List.filterMap_cons_none written, List.filterMap_nil, List.append_nil]
            exact ih
        | some id =>
            rw [List.filterMap_cons_some written, List.filterMap_nil, List.nodup_append_comm,
              List.singleton_append, List.nodup_cons]
            obtain ⟨args, request, priority, call, same, write, named⟩ :=
              writtenChangeSet_eq_some_iff.mp written
            obtain ⟨rfl, _⟩ := Event.mk.inj same
            exact ⟨write_fresh contract absent (earlier.step waiting answered) written, ih⟩
  · rintro before thread request priority after rfl write
    exact write_justified contract absent run write

end Runs

end RustMist

namespace RustMist.Network

open Effects Effects.Program

/-- One thread plans a network and another applies the change set. -/
def calls : Bool → ToolCall
  | false => .plan (creationPlan orgId)
  | true => .apply ⟨Hex.encode identifier.bytes, .network, none⟩

/-- The record that the apply has claimed. -/
def claimedCreation : ChangeSetRecord := { plannedCreation orgId with state := .applying }

/-- The work of that apply. -/
def plannedWork : ApplyWork := createWork (creationPlan orgId) .null (plannedCreation orgId)

/-- The events of that apply up to its write. -/
def applyEvents : MistHistory :=
  createEvents handler plannedWork claimedCreation ++
    [⟨.executeAs plannedWork.writeRequest (callPriorityFor none), ()⟩]

def creationTrace : Trace Bool mist :=
  (creationPlanEvents orgId).map (fun event => (false, event)) ++
    applyEvents.map fun event => (true, event)

def plannedShelf : Shelf := (Shelf.empty.put (plannedCreation orgId)).put
  (approvedRecord (plannedCreation orgId))

theorem plan_answered :
    Shelf.world.Answers Shelf.empty (creationPlanEvents orgId) plannedShelf := by
  refine .cons rfl (.cons rfl (.cons ⟨rfl, rfl⟩ (.cons rfl (.cons ?_ (.nil _)))))
  exact ⟨plannedCreation orgId, Shelf.find_put Shelf.empty (plannedCreation orgId), rfl, rfl⟩

theorem apply_answered :
    Shelf.world.Answers plannedShelf applyEvents (plannedShelf.put claimedCreation) := by
  have stored : plannedShelf.find (plannedCreation orgId).id =
      some (approvedRecord (plannedCreation orgId)) := Shelf.find_put _ _
  refine .cons rfl (.cons ⟨stored, rfl, rfl⟩ (.cons rfl (.cons rfl (.cons ?_
    (.cons rfl (.nil _))))))
  exact ⟨_, stored, rfl, rfl, rfl, rfl⟩

theorem creation_interleaved : ∃ pool, Interleaved Shelf.world
    (fun thread => (calls thread).program handler none) Shelf.empty creationTrace pool
    (plannedShelf.put claimedCreation) := by
  obtain ⟨rest, run⟩ := creationPlan_runs orgId_allowed
  obtain ⟨past, inserted⟩ := inserted_creation orgId_allowed
  have plan : Run ((calls false).program handler none) (creationPlanEvents orgId)
      (succeed rest) := (run_bind_iff _ _ _ _).mpr (.inl ⟨rest, run, rfl⟩)
  have apply : Run ((calls true).program handler none) applyEvents _ :=
    applyMistChangeSet_reaches (create_reached inserted rfl claimedCreation)
  have unstarted : Interleaved Shelf.world (fun thread => (calls thread).program handler none)
      Shelf.empty [] (fun thread => (calls thread).program handler none) Shelf.empty := .start
  obtain ⟨pool, planned, _, others⟩ := unstarted.extend plan plan_answered
  rw [← others true nofun] at apply
  obtain ⟨pool', applied, _⟩ := planned.extend apply apply_answered
  exact ⟨pool', applied⟩

theorem changeSets_written_once_creation :
    (creationTrace.filterMap (writtenChangeSet calls)).Nodup ∧
      ∀ before thread request priority after,
        creationTrace = before ++ (thread, ⟨.executeAs request priority, ()⟩) :: after →
          IsWrite request → ∃ args work claimed driftChecked now reads,
            WriteJustified handler calls (fun _ => none) before thread request args work claimed
              driftChecked now reads := by
  obtain ⟨pool, run⟩ := creation_interleaved
  exact changeSets_written_once Shelf.contract (fun _ => rfl) run

end RustMist.Network
