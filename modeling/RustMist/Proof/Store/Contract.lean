import RustMist.Library.Interleaving
import RustMist.Proof.Apply.StoreSteps
import RustMist.Proof.Calls.Requests
import RustMist.Proof.Plan.Staging

/-! The contract of the change-set store and what holds of it in every interleaving. -/

namespace RustMist

open Effects Effects.Program

/-- These are the successful answers that change the store. -/
def ChangesStore : (op : Op) → op.Answer → Prop
  | .insertChangeSet _, .ok _ => True
  | .waiveApproval _ _ _ _, .ok _ => True
  | .approveChangeSet _ _ _ _ _, .ok _ => True
  | .claimChangeSetForApply _ _ _, .ok _ => True
  | .updateChangeSet _, .ok _ => True
  | _, _ => False

/-- The record of one change set is replaced and the others stay. -/
def Replaces (find find' : String → Option ChangeSetRecord) (record : ChangeSetRecord) : Prop :=
  find' record.id = some record ∧ ∀ id, id ≠ record.id → find' id = find id

/-- An approval moves a planned record to approved and keeps what is staged. -/
def Approves (find find' : String → Option ChangeSetRecord) (id : String)
    (allowed : ChangeSetRecord → Prop) : Prop :=
  ∃ record record', find id = some record ∧ record.state = .planned ∧ allowed record ∧
    SameStaged record record' ∧ record'.state = .approved ∧ Replaces find find' record'

/-- This is what the store of the change sets promises. -/
structure StoreContract (world : World mist) where
  find : world.State → String → Option ChangeSetRecord
  find_id : ∀ state id record, find state id = some record → record.id = id
  insert_ok : ∀ state record state', world.Step state (.insertChangeSet record) (.ok ()) state' →
    find state record.id = none ∧ Replaces (find state) (find state') record
  approve_ok : ∀ state id device approver digest actorType output state',
    world.Step state (.approveChangeSet id device approver digest actorType) (.ok output) state' →
      Approves (find state) (find state') id fun record =>
        actorType = .human ∧ approver ≠ record.owner ∧ digest = record.digest
  waive_ok : ∀ state id device owner digest state',
    world.Step state (.waiveApproval id device owner digest) (.ok ()) state' →
      Approves (find state) (find state') id fun _ => True
  /-- The claim is the only way from approved to applying. -/
  claim_ok : ∀ state id device handle claimed state',
    world.Step state (.claimChangeSetForApply id device handle) (.ok claimed) state' →
      ∃ record, find state id = some record ∧ record.state = .approved ∧
        SameStaged record claimed ∧ claimed.state = .applying ∧
        Replaces (find state) (find state') claimed
  fetch_ok : ∀ state id device record state',
    world.Step state (.changeSet id device) (.ok record) state' → find state id = some record
  update_ok : ∀ state record state',
    world.Step state (.updateChangeSet record) (.ok ()) state' →
      Replaces (find state) (find state') record
  /-- Nothing else changes the store. -/
  stays : ∀ state (op : Op) (answer : op.Answer) state', ¬ChangesStore op answer →
    world.Step state op answer state' → find state' = find state

section Steps

variable [ServerPlatform]

/-- What a call does to the store, as far as its arguments fix it. -/
def CallStep (handler : MistHandler) (call : ToolCall) (caller : Option CallerCtx)
    (past : MistHistory) : Op → Prop
  | .insertChangeSet record =>
      ∃ args base, call = .plan args ∧ PlanInserted handler args caller past base record
  | .waiveApproval _ _ _ _ => handler.labMode = true
  | .approveChangeSet _ _ approver digest actor =>
      ∃ args, call = .approve args ∧ approver = principal caller ∧ digest = args.planDigest ∧
        actor = actorType caller
  | .updateChangeSet record =>
      ∃ claimed verified, record = settled claimed verified ∧ ClaimedBefore past claimed
  | _ => True

theorem callStep_of_isReadOp {handler : MistHandler} {call : ToolCall} {caller : Option CallerCtx}
    {past : MistHistory} {op : Op} (reading : IsReadOp op) :
    CallStep handler call caller past op := by
  cases op <;> first | exact reading.elim | trivial

omit [ServerPlatform] in
theorem succeed_steps {guard : MistHistory → Op → Prop} {program : MistProgram CallToolResult}
    {past : MistHistory} (ensures : program.Ensures guard (fun _ _ => True) past) :
    (succeed program).Ensures guard (fun _ _ => True) past :=
  ensures.bind fun _ _ _ => trivial

/-- Every call keeps to its part in the lifecycle of a change set. -/
theorem ToolCall.program_steps (handler : MistHandler) (call : ToolCall)
    (caller : Option CallerCtx) :
    (call.program handler caller).Ensures (CallStep handler call caller) (fun _ _ => True) [] := by
  cases call with
  | invoke tool args capability =>
      apply succeed_steps
      unfold invokeDispatcher
      split
      · trivial
      · exact (dispatchCataloguedRead_readOps _ _ _ _).mono
          (fun _ _ reading => callStep_of_isReadOp reading) (fun _ _ => id)
  | named tool operationId args pathNames capability =>
      apply succeed_steps
      unfold dispatchNamed
      split
      · trivial
      · exact (dispatchCataloguedRead_readOps _ _ _ _).mono
          (fun _ _ reading => callStep_of_isReadOp reading) (fun _ _ => id)
  | plan args =>
      apply succeed_steps
      refine planMistChange_inserts.mono (fun history op step => ?_) (fun _ _ => id)
      cases op with
      | insertChangeSet record =>
          obtain ⟨base, inserted⟩ := step
          exact ⟨args, base, rfl, inserted⟩
      | waiveApproval id device owner digest => exact step
      | approveChangeSet id device approver digest actor => exact step.elim
      | updateChangeSet record => exact step.elim
      | _ => trivial
  | getChangeSet args =>
      apply succeed_steps
      refine ensures_ask_iff.mpr ⟨trivial, fun fetch => ?_⟩
      cases fetch with
      | error error => trivial
      | ok record =>
          dsimp only
          split
          · trivial
          · split <;> trivial
  | approve args =>
      apply succeed_steps
      refine ensures_ask_iff.mpr ⟨⟨args, rfl, rfl, rfl, rfl⟩, fun approved => ?_⟩
      cases approved <;> trivial
  | apply args =>
      refine (applyMistChangeSet_storeSteps handler args caller).mono
        (fun history op step => ?_) (fun _ _ => id)
      cases op with
      | insertChangeSet record => exact step.elim
      | waiveApproval id device owner digest => exact step.elim
      | approveChangeSet id device approver digest actor => exact step.elim
      | updateChangeSet record =>
          obtain ⟨claimed, verified, same, taken, _⟩ := step
          exact ⟨claimed, verified, same, taken⟩
      | _ => trivial

end Steps

section Invariant

variable [ServerPlatform] {ι : Type} [DecidableEq ι] {handler : MistHandler}
  {calls : ι → ToolCall} {callers : ι → Option CallerCtx}

/-- A plan of the trace has inserted the staged part of this record. -/
def InsertedAs (handler : MistHandler) (calls : ι → ToolCall) (callers : ι → Option CallerCtx)
    (trace : Trace ι mist) (record : ChangeSetRecord) : Prop :=
  ∃ thread args past base planned, calls thread = .plan args ∧
    (thread, ⟨.insertChangeSet planned, .ok ()⟩) ∈ trace ∧
    PlanInserted handler args (callers thread) past base planned ∧ SameStaged planned record

/-- A human other than the owner has approved this record, or the lab mode has waived that. -/
def ApprovedBy (handler : MistHandler) (calls : ι → ToolCall) (callers : ι → Option CallerCtx)
    (trace : Trace ι mist) (record : ChangeSetRecord) : Prop :=
  (∃ thread args device output, calls thread = .approve args ∧
    actorType (callers thread) = .human ∧ principal (callers thread) ≠ record.owner ∧
    args.planDigest = record.digest ∧
    (thread, ⟨.approveChangeSet record.id device (principal (callers thread)) args.planDigest .human,
      .ok output⟩) ∈ trace) ∨
  (handler.labMode = true ∧ ∃ thread device owner digest,
    (thread, ⟨.waiveApproval record.id device owner digest, .ok ()⟩) ∈ trace)

/-- The successful claims of one change set. -/
def claimsOf (id : String) (trace : Trace ι mist) : Trace ι mist :=
  trace.filter fun entry =>
    match entry.2 with
    | ⟨.claimChangeSetForApply id' _ _, .ok _⟩ => id' = id
    | _ => false

def isPending (record : ChangeSetRecord) : Prop :=
  record.state = .planned ∨ record.state = .approved

/-- This is what holds of the store after every trace. -/
structure StoreInvariant (handler : MistHandler) (calls : ι → ToolCall)
    (callers : ι → Option CallerCtx) (find : String → Option ChangeSetRecord)
    (trace : Trace ι mist) : Prop where
  stored : ∀ id record, find id = some record → InsertedAs handler calls callers trace record
  approved : ∀ id record, find id = some record → record.state = .approved →
    ApprovedBy handler calls callers trace record
  /-- A change set is claimed once, and not before it is approved. -/
  unclaimed : ∀ id, (∀ record, find id = some record → isPending record) → claimsOf id trace = []
  once : ∀ id, (claimsOf id trace).length ≤ 1
  claimed : ∀ thread id device handle record,
    (thread, ⟨.claimChangeSetForApply id device handle, .ok record⟩) ∈ trace →
      InsertedAs handler calls callers trace record
  fetched : ∀ thread id device record, (thread, ⟨.changeSet id device, .ok record⟩) ∈ trace →
    record.id = id ∧ InsertedAs handler calls callers trace record ∧
      (record.state = .approved → ApprovedBy handler calls callers trace record)

variable {trace : Trace ι mist} {find find' : String → Option ChangeSetRecord}
  {record : ChangeSetRecord}

omit [DecidableEq ι] in
theorem InsertedAs.append (inserted : InsertedAs handler calls callers trace record)
    (more : Trace ι mist) : InsertedAs handler calls callers (trace ++ more) record := by
  obtain ⟨thread, args, past, base, planned, call, member, rest⟩ := inserted
  exact ⟨thread, args, past, base, planned, call, List.mem_append_left more member, rest⟩

omit [DecidableEq ι] in
theorem InsertedAs.same {other : ChangeSetRecord}
    (inserted : InsertedAs handler calls callers trace record) (same : SameStaged record other) :
    InsertedAs handler calls callers trace other := by
  obtain ⟨thread, args, past, base, planned, call, member, staged, earlier⟩ := inserted
  exact ⟨thread, args, past, base, planned, call, member, staged, earlier.trans same⟩

omit [ServerPlatform] [DecidableEq ι] in
theorem ApprovedBy.append (approved : ApprovedBy handler calls callers trace record)
    (more : Trace ι mist) : ApprovedBy handler calls callers (trace ++ more) record := by
  rcases approved with ⟨thread, args, device, output, call, human, other, digest, member⟩ |
    ⟨lab, thread, device, owner, digest, member⟩
  · exact .inl ⟨thread, args, device, output, call, human, other, digest,
      List.mem_append_left more member⟩
  · exact .inr ⟨lab, thread, device, owner, digest, List.mem_append_left more member⟩

omit [ServerPlatform] [DecidableEq ι] in
theorem ApprovedBy.same {other : ChangeSetRecord}
    (approved : ApprovedBy handler calls callers trace record) (same : SameStaged record other) :
    ApprovedBy handler calls callers trace other := by
  unfold ApprovedBy at approved ⊢
  rwa [← same.id, ← same.owner, ← same.digest]

omit [ServerPlatform] [DecidableEq ι] in
theorem claimsOf_append (id : String) (early late : Trace ι mist) :
    claimsOf id (early ++ late) = claimsOf id early ++ claimsOf id late := by
  simp [claimsOf]

omit [ServerPlatform] [DecidableEq ι] in
/-- Two claims of one change set are the same claim. -/
theorem claims_unique {id : String} {first second : ι × MistEvent}
    (single : (claimsOf id trace).length ≤ 1) (member : first ∈ claimsOf id trace)
    (member' : second ∈ claimsOf id trace) : first = second := by
  generalize claimsOf id trace = claims at single member member'
  match claims with
  | [] => cases member
  | [only] => rw [List.mem_singleton.mp member, List.mem_singleton.mp member']
  | _ :: _ :: _ => simp at single

omit [DecidableEq ι] in
/-- The replacement of one record keeps the invariant when the new record has its history. -/
theorem StoreInvariant.replace {entry : ι × MistEvent}
    (holds : StoreInvariant handler calls callers find trace)
    (replaced : Replaces find find' record)
    (inserted : InsertedAs handler calls callers (trace ++ [entry]) record)
    (approved : record.state = .approved → ApprovedBy handler calls callers (trace ++ [entry]) record)
    (pending : isPending record → claimsOf record.id (trace ++ [entry]) = [])
    (single : (claimsOf record.id (trace ++ [entry])).length ≤ 1)
    (others : ∀ id, id ≠ record.id → claimsOf id [entry] = [])
    (claim : ∀ thread id device handle claimed,
      entry = (thread, ⟨.claimChangeSetForApply id device handle, .ok claimed⟩) → claimed = record)
    (fetch : ∀ thread id device stored, entry ≠ (thread, ⟨.changeSet id device, .ok stored⟩)) :
    StoreInvariant handler calls callers find' (trace ++ [entry]) where
  stored id other found := by
    by_cases same : id = record.id
    · rw [same, replaced.1] at found
      exact Option.some.inj found ▸ inserted
    · rw [replaced.2 id same] at found
      exact (holds.stored id other found).append _
  approved id other found state := by
    by_cases same : id = record.id
    · rw [same, replaced.1] at found
      obtain rfl := Option.some.inj found
      exact approved state
    · rw [replaced.2 id same] at found
      exact (holds.approved id other found state).append _
  unclaimed id waiting := by
    by_cases same : id = record.id
    · rw [same] at waiting ⊢
      exact pending (waiting record replaced.1)
    · rw [replaced.2 id same] at waiting
      rw [claimsOf_append, others id same, holds.unclaimed id waiting]
      rfl
  once id := by
    by_cases same : id = record.id
    · rw [same]
      exact single
    · rw [claimsOf_append, others id same, List.append_nil]
      exact holds.once id
  claimed thread id device handle other member := by
    rcases List.mem_append.mp member with early | late
    · exact (holds.claimed thread id device handle other early).append _
    · rw [claim thread id device handle other (List.mem_singleton.mp late).symm]
      exact inserted
  fetched thread id device other member := by
    rcases List.mem_append.mp member with early | late
    · obtain ⟨same, staged, authority⟩ := holds.fetched thread id device other early
      exact ⟨same, staged.append _, fun state => (authority state).append _⟩
    · exact absurd (List.mem_singleton.mp late).symm (fetch thread id device other)

omit [DecidableEq ι] in
/-- An event that leaves the store as it is keeps the invariant. -/
theorem StoreInvariant.keep {world : World mist} (contract : StoreContract world)
    {state state' : world.State} {thread : ι} {op : Op} {answer : op.Answer}
    (holds : StoreInvariant handler calls callers (contract.find state) trace)
    (unchanged : ¬ChangesStore op answer) (answered : world.Step state op answer state') :
    StoreInvariant handler calls callers (contract.find state')
      (trace ++ [(thread, ⟨op, answer⟩)]) := by
  rw [contract.stays state op answer state' unchanged answered]
  have quiet : ∀ id, claimsOf id [(thread, (⟨op, answer⟩ : MistEvent))] = [] := by
    intro id
    unfold claimsOf
    rw [List.filter_eq_nil_iff]
    intro entry member
    obtain rfl := List.mem_singleton.mp member
    cases op with
    | claimChangeSetForApply id' device handle =>
        cases answer with
        | error error => simp
        | ok claimed => exact absurd trivial unchanged
    | _ => simp
  constructor
  · exact fun id record found => (holds.stored id record found).append _
  · exact fun id record found approved => (holds.approved id record found approved).append _
  · intro id waiting
    rw [claimsOf_append, quiet, holds.unclaimed id waiting]
    rfl
  · intro id
    rw [claimsOf_append, quiet, List.append_nil]
    exact holds.once id
  · intro thread' id device handle record member
    rcases List.mem_append.mp member with early | late
    · exact (holds.claimed thread' id device handle record early).append _
    · simp only [List.mem_singleton, Prod.mk.injEq, Event.mk.injEq] at late
      obtain ⟨rfl, rfl, same⟩ := late
      obtain rfl := eq_of_heq same
      exact absurd trivial unchanged
  · intro thread' id device record member
    rcases List.mem_append.mp member with early | late
    · obtain ⟨same, staged, authority⟩ := holds.fetched thread' id device record early
      exact ⟨same, staged.append _, fun approved => (authority approved).append _⟩
    · simp only [List.mem_singleton, Prod.mk.injEq, Event.mk.injEq] at late
      obtain ⟨rfl, rfl, same⟩ := late
      obtain rfl := eq_of_heq same
      have found := contract.fetch_ok state id device record state' answered
      exact ⟨contract.find_id state id record found, (holds.stored id record found).append _,
        fun approved => (holds.approved id record found approved).append _⟩

end Invariant

end RustMist
