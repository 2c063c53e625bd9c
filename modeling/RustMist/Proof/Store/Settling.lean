import RustMist.Proof.Store.Lifecycle

/-! A claimed change set is settled by its update. -/

namespace RustMist

open Effects Effects.Program

variable [ServerPlatform]

variable {ι : Type} [DecidableEq ι] {handler : MistHandler} {calls : ι → ToolCall}
  {callers : ι → Option CallerCtx}

/-- This holds of every store and every trace: what is claimed waits for nothing any more, and what
is updated stays as one of the updates has left it. -/
structure ClaimsSettle (find : String → Option ChangeSetRecord) (trace : Trace ι mist) : Prop where
  claimed : ∀ thread id device handle claimed,
    (thread, ⟨.claimChangeSetForApply id device handle, .ok claimed⟩) ∈ trace →
      claimed.id = id ∧ ∃ record, find id = some record ∧ ¬isPending record
  once : ∀ id, (claimsOf id trace).length ≤ 1
  updated : ∀ thread record, (thread, ⟨.updateChangeSet record, .ok ()⟩) ∈ trace →
    ∃ thread' record', (thread', ⟨.updateChangeSet record', .ok ()⟩) ∈ trace ∧
      record'.id = record.id ∧ ¬isPending record' ∧ find record.id = some record'

variable {trace : Trace ι mist} {find find' : String → Option ChangeSetRecord}
  {record : ChangeSetRecord} {thread : ι}

omit [ServerPlatform] [DecidableEq ι] in
theorem ClaimsSettle.unclaimed (holds : ClaimsSettle find trace) {id : String}
    (waiting : ∀ record, find id = some record → isPending record) : claimsOf id trace = [] := by
  unfold claimsOf
  rw [List.filter_eq_nil_iff]
  rintro ⟨thread, op, answer⟩ member
  cases op with
  | claimChangeSetForApply id' device handle =>
      cases answer with
      | error error => simp
      | ok claimed =>
          simp only [decide_eq_true_eq]
          rintro rfl
          obtain ⟨_, record, found, settled⟩ := holds.claimed thread id' device handle claimed member
          exact settled (waiting record found)
  | _ => simp

omit [ServerPlatform] [DecidableEq ι] in
/-- A change set that was still waiting, or was not there, may be replaced. -/
theorem ClaimsSettle.replace {entry : ι × MistEvent} (holds : ClaimsSettle find trace)
    (replaced : Replaces find find' record)
    (waiting : ∀ stored, find record.id = some stored → isPending stored)
    (claim : ∀ thread id device handle claimed,
      entry = (thread, ⟨.claimChangeSetForApply id device handle, .ok claimed⟩) →
        claimed.id = id ∧ claimed = record ∧ ¬isPending record)
    (update : ∀ thread updated, entry ≠ (thread, ⟨.updateChangeSet updated, .ok ()⟩))
    (single : ∀ id, (claimsOf id (trace ++ [entry])).length ≤ 1) :
    ClaimsSettle find' (trace ++ [entry]) where
  claimed thread id device handle claimed member := by
    rcases List.mem_append.mp member with early | late
    · obtain ⟨same, stored, found, settled⟩ := holds.claimed thread id device handle claimed early
      have other : id ≠ record.id := by
        rintro rfl
        exact settled (waiting stored found)
      exact ⟨same, stored, (replaced.2 id other).trans found, settled⟩
    · obtain ⟨same, rfl, settled⟩ :=
        claim thread id device handle claimed (List.mem_singleton.mp late).symm
      exact ⟨same, claimed, same ▸ replaced.1, settled⟩
  once := single
  updated thread updated member := by
    rcases List.mem_append.mp member with early | late
    · obtain ⟨thread', record', present, same, settled, found⟩ := holds.updated thread updated early
      have other : updated.id ≠ record.id := by
        intro equal
        rw [equal] at found
        exact settled (waiting record' found)
      exact ⟨thread', record', List.mem_append_left _ present, same, settled,
        (replaced.2 _ other).trans found⟩
    · exact absurd (List.mem_singleton.mp late).symm (update thread updated)

omit [ServerPlatform] [DecidableEq ι] in
/-- An update leaves the record that it names. -/
theorem ClaimsSettle.update (holds : ClaimsSettle find trace)
    (replaced : Replaces find find' record) (settled : ¬isPending record) :
    ClaimsSettle find' (trace ++ [(thread, ⟨.updateChangeSet record, .ok ()⟩)]) where
  claimed thread id device handle claimed member := by
    rcases List.mem_append.mp member with early | late
    · obtain ⟨same, stored, found, kept⟩ := holds.claimed thread id device handle claimed early
      by_cases equal : id = record.id
      · exact ⟨same, record, equal ▸ replaced.1, settled⟩
      · exact ⟨same, stored, (replaced.2 id equal).trans found, kept⟩
    · cases (Event.mk.inj (Prod.mk.inj (List.mem_singleton.mp late)).2).1
  once id := by
    have quiet : claimsOf id [(thread, (⟨.updateChangeSet record, .ok ()⟩ : MistEvent))] = [] := rfl
    rw [claimsOf_append, quiet, List.append_nil]
    exact holds.once id
  updated thread' updated member := by
    by_cases equal : updated.id = record.id
    · exact ⟨thread, record, by simp, equal.symm, settled, equal ▸ replaced.1⟩
    · rcases List.mem_append.mp member with early | late
      · obtain ⟨thread'', record', present, same, kept, found⟩ := holds.updated thread' updated early
        exact ⟨thread'', record', List.mem_append_left _ present, same, kept,
          (replaced.2 _ equal).trans found⟩
      · obtain ⟨operation, _⟩ := Event.mk.inj (Prod.mk.inj (List.mem_singleton.mp late)).2
        exact absurd (congrArg ChangeSetRecord.id (Op.updateChangeSet.inj operation)) equal

omit [ServerPlatform] [DecidableEq ι] in
/-- A replacement by an operation that neither claims nor updates is one of a waiting record. -/
theorem ClaimsSettle.replaceQuiet {op : Op} {answer : op.Answer} (holds : ClaimsSettle find trace)
    (claim : ∀ id device handle, op ≠ .claimChangeSetForApply id device handle)
    (update : ∀ updated, op ≠ .updateChangeSet updated) (replaced : Replaces find find' record)
    (waiting : ∀ stored, find record.id = some stored → isPending stored) :
    ClaimsSettle find' (trace ++ [(thread, ⟨op, answer⟩)]) := by
  have quiet : ∀ id, claimsOf id [(thread, (⟨op, answer⟩ : MistEvent))] = [] := by
    intro id
    cases op with
    | claimChangeSetForApply id' device handle => exact absurd rfl (claim id' device handle)
    | _ => rfl
  apply holds.replace replaced waiting
  · intro thread' id device handle claimed same
    exact absurd (Event.mk.inj (Prod.mk.inj same).2).1 (claim id device handle)
  · intro thread' updated same
    exact update updated (Event.mk.inj (Prod.mk.inj same).2).1
  · intro id
    rw [claimsOf_append, quiet, List.append_nil]
    exact holds.once id

omit [ServerPlatform] [DecidableEq ι] in
theorem ClaimsSettle.approve {world : World mist} (contract : StoreContract world)
    {state : world.State} {op : Op} {answer : op.Answer} {id : String}
    {allowed : ChangeSetRecord → Prop} (holds : ClaimsSettle (contract.find state) trace)
    (claim : ∀ id device handle, op ≠ .claimChangeSetForApply id device handle)
    (update : ∀ updated, op ≠ .updateChangeSet updated)
    (approves : Approves (contract.find state) find' id allowed) :
    ClaimsSettle find' (trace ++ [(thread, ⟨op, answer⟩)]) := by
  obtain ⟨record, record', found, planned, _, same, _, replaced⟩ := approves
  apply holds.replaceQuiet claim update replaced
  intro stored found'
  rw [← same.id, contract.find_id state id record found, found] at found'
  exact Option.some.inj found' ▸ .inl planned

omit [ServerPlatform] [DecidableEq ι] in
theorem ClaimsSettle.claim {world : World mist} (contract : StoreContract world)
    {state state' : world.State} {id device : String} {handle : ApplyHandle}
    {claimed : ChangeSetRecord} (holds : ClaimsSettle (contract.find state) trace)
    (answered : world.Step state (.claimChangeSetForApply id device handle) (.ok claimed) state') :
    ClaimsSettle (contract.find state')
      (trace ++ [(thread, ⟨.claimChangeSetForApply id device handle, .ok claimed⟩)]) := by
  obtain ⟨record, found, approved, same, applying, replaced⟩ :=
    contract.claim_ok state id device handle claimed state' answered
  have named : claimed.id = id := same.id ▸ contract.find_id state id record found
  have waiting : ∀ stored, contract.find state id = some stored → isPending stored := by
    intro stored found'
    rw [found] at found'
    exact Option.some.inj found' ▸ .inr approved
  apply holds.replace replaced
  · rwa [named]
  · intro thread' id' device' handle' claimed' entry
    obtain ⟨operation, answer⟩ := Event.mk.inj (Prod.mk.inj entry).2
    cases operation
    obtain rfl := Except.ok.inj (eq_of_heq answer)
    exact ⟨named, rfl, by simp [isPending, applying]⟩
  · intro thread' updated entry
    cases (Event.mk.inj (Prod.mk.inj entry).2).1
  · intro other
    rw [claimsOf_append]
    by_cases equal : other = id
    · rw [equal, holds.unclaimed waiting, List.nil_append]
      exact List.length_filter_le _ _
    · have quiet : claimsOf other [(thread, (⟨.claimChangeSetForApply id device handle,
          .ok claimed⟩ : MistEvent))] = [] := by
        simp [claimsOf, Ne.symm equal]
      rw [quiet, List.append_nil]
      exact holds.once other

omit [ServerPlatform] [DecidableEq ι] in
/-- An event that leaves the store as it is claims and updates nothing. -/
theorem ClaimsSettle.keep {op : Op} {answer : op.Answer} (holds : ClaimsSettle find trace)
    (unchanged : ¬ChangesStore op answer) :
    ClaimsSettle find (trace ++ [(thread, ⟨op, answer⟩)]) where
  claimed thread' id device handle claimed member := by
    rcases List.mem_append.mp member with early | late
    · exact holds.claimed thread' id device handle claimed early
    · obtain ⟨rfl, answered⟩ := Event.mk.inj (Prod.mk.inj (List.mem_singleton.mp late)).2
      obtain rfl := eq_of_heq answered
      exact absurd trivial unchanged
  once id := by
    have quiet : claimsOf id [(thread, (⟨op, answer⟩ : MistEvent))] = [] := by
      unfold claimsOf
      rw [List.filter_eq_nil_iff]
      intro entry member
      obtain rfl := List.mem_singleton.mp member
      cases op with
      | claimChangeSetForApply id' device handle =>
          cases answer with
          | error error => simp
          | ok claimed => exact absurd trivial unchanged
      | _ => simp
    rw [claimsOf_append, quiet, List.append_nil]
    exact holds.once id
  updated thread' record member := by
    rcases List.mem_append.mp member with early | late
    · obtain ⟨thread'', record', present, rest⟩ := holds.updated thread' record early
      exact ⟨thread'', record', List.mem_append_left _ present, rest⟩
    · obtain ⟨rfl, answered⟩ := Event.mk.inj (Prod.mk.inj (List.mem_singleton.mp late)).2
      obtain rfl := eq_of_heq answered
      exact absurd trivial unchanged

theorem ClaimsSettle.step {world : World mist} (contract : StoreContract world)
    {state state' : world.State} {op : Op} {answer : op.Answer}
    (holds : ClaimsSettle (contract.find state) trace)
    (step : CallStep handler (calls thread) (callers thread) (trace.ofThread thread) op)
    (answered : world.Step state op answer state') :
    ClaimsSettle (contract.find state') (trace ++ [(thread, ⟨op, answer⟩)]) := by
  by_cases changed : ChangesStore op answer
  · cases op with
    | insertChangeSet record =>
        cases answer with
        | error error => exact changed.elim
        | ok _ =>
            obtain ⟨fresh, replaced⟩ := contract.insert_ok state record state' answered
            apply holds.replaceQuiet (by simp) (by simp) replaced
            intro stored found
            rw [fresh] at found
            cases found
    | approveChangeSet id device approver digest actor =>
        cases answer with
        | error error => exact changed.elim
        | ok output =>
            exact holds.approve contract (by simp) (by simp)
              (contract.approve_ok state id device _ _ _ output state' answered)
    | waiveApproval id device owner digest =>
        cases answer with
        | error error => exact changed.elim
        | ok _ =>
            exact holds.approve contract (by simp) (by simp)
              (contract.waive_ok state id device owner digest state' answered)
    | claimChangeSetForApply id device handle =>
        cases answer with
        | error error => exact changed.elim
        | ok claimed => exact holds.claim contract answered
    | updateChangeSet record =>
        cases answer with
        | error error => exact changed.elim
        | ok _ =>
            obtain ⟨claimed, verified, rfl, _⟩ := step
            exact holds.update (contract.update_ok state _ state' answered)
              (settled_not_pending claimed verified)
    | _ => exact changed.elim
  · rw [contract.stays state op answer state' changed answered]
    exact holds.keep changed

/-- Claims settle in every interleaving of the calls, whatever the store holds at its start. -/
theorem claimsSettle {world : World mist} (contract : StoreContract world)
    {initial state : world.State} {pool : ι → MistProgram ToolOutcome}
    (run : Interleaved world (fun thread => (calls thread).program handler (callers thread)) initial
      trace pool state) : ClaimsSettle (contract.find state) trace := by
  let keeps (trace : Trace ι mist) (state : world.State) : Prop :=
    ClaimsSettle (contract.find state) trace
  have kept : ∀ trace state state' thread (op : Op) (answer : op.Answer), keeps trace state →
      CallStep handler (calls thread) (callers thread) (Trace.ofThread trace thread) op →
        world.Step state op answer state' → keeps (trace ++ [(thread, ⟨op, answer⟩)]) state' := by
    intro trace state state' thread op answer holds step answered
    exact holds.step contract step answered
  have base : keeps [] initial := ⟨nofun, fun _ => Nat.zero_le 1, nofun⟩
  exact run.invariant (fun thread => (calls thread).program_steps handler (callers thread)) base kept

/-- The one update of a claimed record is what the store holds at the end. -/
theorem settled_at_end {world : World mist} (contract : StoreContract world)
    {initial state : world.State} {pool : ι → MistProgram ToolOutcome}
    (run : Interleaved world (fun thread => (calls thread).program handler (callers thread)) initial
      trace pool state)
    {id device : String} {handle : ApplyHandle} {claimed : ChangeSetRecord} {verified : Bool}
    (claim : (thread, ⟨.claimChangeSetForApply id device handle, .ok claimed⟩) ∈ trace)
    (update : (thread, ⟨.updateChangeSet (settled claimed verified), .ok ()⟩) ∈ trace)
    (only : ∀ record answer, (⟨.updateChangeSet record, answer⟩ : MistEvent) ∈
      trace.ofThread thread → record = settled claimed verified) :
    contract.find state id = some (settled claimed verified) := by
  have holds := claimsSettle contract run
  obtain ⟨named, _⟩ := holds.claimed thread id device handle claimed claim
  obtain ⟨thread', record, present, same, _, found⟩ := holds.updated thread _ update
  change contract.find state claimed.id = some record at found
  -- Whoever has updated the record has claimed it, and it is claimed once.
  obtain ⟨before, after, rfl⟩ := List.append_of_mem present
  obtain ⟨claimed', verified', rfl, id', device', handle', taken⟩ :=
    run.guard_at_entry (fun thread => (calls thread).program_steps handler (callers thread))
  have claim' : (thread', ⟨.claimChangeSetForApply id' device' handle', .ok claimed'⟩) ∈
      before ++ (thread', ⟨.updateChangeSet (settled claimed' verified'), .ok ()⟩) :: after :=
    List.mem_append_left _ (Trace.mem_ofThread.mp taken)
  obtain ⟨named', _⟩ := holds.claimed thread' id' device' handle' claimed' claim'
  change claimed'.id = claimed.id at same
  have one := claims_unique (holds.once id) (List.mem_filter.mpr ⟨claim, by simp⟩)
    (List.mem_filter.mpr ⟨claim', by simp [← named, ← named', same]⟩)
  obtain rfl : thread = thread' := congrArg Prod.fst one
  rw [← named, found, only _ _ (Trace.mem_ofThread.mpr present)]

end RustMist
