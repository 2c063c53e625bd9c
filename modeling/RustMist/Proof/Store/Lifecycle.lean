import RustMist.Proof.Store.Contract

/-! Every interleaving of the calls claims and writes a change set at most once. -/

namespace RustMist

open Effects Effects.Program

variable [ServerPlatform] {ι : Type} [DecidableEq ι] {handler : MistHandler}
  {calls : ι → ToolCall} {callers : ι → Option CallerCtx}

section Steps

variable {trace : Trace ι mist} {find find' : String → Option ChangeSetRecord}
  {record : ChangeSetRecord}

/-- A replacement that is no claim moves no change set back before its claim. -/
theorem StoreInvariant.replaceQuiet {thread : ι} {op : Op} {answer : op.Answer}
    (holds : StoreInvariant handler calls callers find trace)
    (claim : ∀ id device handle, op ≠ .claimChangeSetForApply id device handle)
    (fetch : ∀ id device, op ≠ .changeSet id device) (replaced : Replaces find find' record)
    (inserted : InsertedAs handler calls callers (trace ++ [(thread, ⟨op, answer⟩)]) record)
    (approved : record.state = .approved →
      ApprovedBy handler calls callers (trace ++ [(thread, ⟨op, answer⟩)]) record)
    (pending : isPending record → claimsOf record.id trace = []) :
    StoreInvariant handler calls callers find' (trace ++ [(thread, ⟨op, answer⟩)]) := by
  have quiet : ∀ id, claimsOf id [(thread, (⟨op, answer⟩ : MistEvent))] = [] := by
    intro id
    cases op with
    | claimChangeSetForApply id' device handle => exact absurd rfl (claim id' device handle)
    | _ => rfl
  have kept : ∀ id, claimsOf id (trace ++ [(thread, ⟨op, answer⟩)]) = claimsOf id trace := by
    intro id
    rw [claimsOf_append, quiet, List.append_nil]
  apply holds.replace replaced inserted approved
  · intro waiting
    rw [kept]
    exact pending waiting
  · rw [kept]
    exact holds.once record.id
  · exact fun id _ => quiet id
  · intro thread' id device handle claimed same
    exact absurd (Event.mk.inj (Prod.mk.inj same).2).1 (claim id device handle)
  · intro thread' id device stored same
    exact fetch id device (Event.mk.inj (Prod.mk.inj same).2).1

/-- An approval keeps the invariant when the trace names who has approved. -/
theorem StoreInvariant.approve {world : World mist} (contract : StoreContract world)
    {state : world.State} {thread : ι} {op : Op} {answer : op.Answer} {id : String}
    {allowed : ChangeSetRecord → Prop}
    (holds : StoreInvariant handler calls callers (contract.find state) trace)
    (claim : ∀ id device handle, op ≠ .claimChangeSetForApply id device handle)
    (fetch : ∀ id device, op ≠ .changeSet id device)
    (approves : Approves (contract.find state) find' id allowed)
    (authority : ∀ record, record.id = id → allowed record →
      ApprovedBy handler calls callers (trace ++ [(thread, ⟨op, answer⟩)]) record) :
    StoreInvariant handler calls callers find' (trace ++ [(thread, ⟨op, answer⟩)]) := by
  obtain ⟨record, record', found, planned, met, same, _, replaced⟩ := approves
  have named : record.id = id := contract.find_id state id record found
  apply holds.replaceQuiet claim fetch replaced
  · exact ((holds.stored id record found).append _).same same
  · exact fun _ => (authority record named met).same same
  · intro _
    rw [← same.id, named]
    apply holds.unclaimed id
    intro stored found'
    rw [found] at found'
    exact Option.some.inj found' ▸ .inl planned

/-- The claim takes the only step from approved to applying. -/
theorem StoreInvariant.claim {world : World mist} (contract : StoreContract world)
    {state state' : world.State} {thread : ι} {id device : String} {handle : ApplyHandle}
    {claimed : ChangeSetRecord}
    (holds : StoreInvariant handler calls callers (contract.find state) trace)
    (answered : world.Step state (.claimChangeSetForApply id device handle) (.ok claimed) state') :
    StoreInvariant handler calls callers (contract.find state')
      (trace ++ [(thread, ⟨.claimChangeSetForApply id device handle, .ok claimed⟩)]) := by
  obtain ⟨record, found, approved, same, applying, replaced⟩ :=
    contract.claim_ok state id device handle claimed state' answered
  have named : claimed.id = id := same.id ▸ contract.find_id state id record found
  have unclaimed : claimsOf claimed.id trace = [] := by
    rw [named]
    apply holds.unclaimed id
    intro stored found'
    rw [found] at found'
    exact Option.some.inj found' ▸ .inr approved
  apply holds.replace replaced
  · exact ((holds.stored id record found).append _).same same
  · intro state
    rw [applying] at state
    cases state
  · intro waiting
    unfold isPending at waiting
    rw [applying] at waiting
    rcases waiting with state | state <;> cases state
  · rw [claimsOf_append, unclaimed, List.nil_append]
    exact List.length_filter_le _ _
  · intro other different
    rw [named] at different
    simp [claimsOf, Ne.symm different]
  · intro thread' id' device' handle' claimed' same
    obtain ⟨operation, answer⟩ := Event.mk.inj (Prod.mk.inj same).2
    cases operation
    exact (Except.ok.inj (eq_of_heq answer)).symm
  · intro thread' id' device' stored same
    cases (Event.mk.inj (Prod.mk.inj same).2).1

omit [ServerPlatform] in
/-- A settled record keeps what is staged and waits for nothing. -/
theorem settled_same (claimed : ChangeSetRecord) (verified : Bool) :
    SameStaged claimed (settled claimed verified) :=
  ⟨rfl, rfl, rfl, rfl, rfl, rfl, rfl⟩

omit [ServerPlatform] in
theorem settled_not_pending (claimed : ChangeSetRecord) (verified : Bool) :
    ¬isPending (settled claimed verified) := by
  cases verified <;> simp [isPending, settled]

/-- One step of any call keeps the invariant of the store. -/
theorem StoreInvariant.step {world : World mist} (contract : StoreContract world)
    {state state' : world.State} {thread : ι} {op : Op} {answer : op.Answer}
    (holds : StoreInvariant handler calls callers (contract.find state) trace)
    (step : CallStep handler (calls thread) (callers thread) (trace.ofThread thread) op)
    (answered : world.Step state op answer state') :
    StoreInvariant handler calls callers (contract.find state')
      (trace ++ [(thread, ⟨op, answer⟩)]) := by
  by_cases changed : ChangesStore op answer
  · cases op with
    | insertChangeSet record =>
        cases answer with
        | error error => exact changed.elim
        | ok _ =>
            obtain ⟨args, base, call, inserted⟩ := step
            obtain ⟨fresh, replaced⟩ := contract.insert_ok state record state' answered
            apply holds.replaceQuiet (by simp) (by simp) replaced
            · exact ⟨thread, args, _, base, record, call, by simp, inserted, .refl record⟩
            · intro approved
              rw [inserted.planned] at approved
              cases approved
            · intro _
              apply holds.unclaimed record.id
              intro stored found
              rw [fresh] at found
              cases found
    | approveChangeSet id device approver digest actor =>
        cases answer with
        | error error => exact changed.elim
        | ok output =>
            obtain ⟨args, call, rfl, rfl, rfl⟩ := step
            refine holds.approve contract (by simp) (by simp)
              (contract.approve_ok state id device _ _ _ output state' answered) ?_
            rintro record rfl ⟨human, other, digest⟩
            exact .inl ⟨thread, args, device, output, call, human, other, digest, by simp [human]⟩
    | waiveApproval id device owner digest =>
        cases answer with
        | error error => exact changed.elim
        | ok _ =>
            refine holds.approve contract (by simp) (by simp)
              (contract.waive_ok state id device owner digest state' answered) ?_
            rintro record rfl _
            exact .inr ⟨step, thread, device, owner, digest, by simp⟩
    | claimChangeSetForApply id device handle =>
        cases answer with
        | error error => exact changed.elim
        | ok claimed => exact holds.claim contract answered
    | updateChangeSet record =>
        cases answer with
        | error error => exact changed.elim
        | ok _ =>
            obtain ⟨claimed, verified, rfl, id, device, handle, member⟩ := step
            have taken := holds.claimed thread id device handle claimed
              (Trace.mem_ofThread.mp member)
            have waiting := settled_not_pending claimed verified
            apply holds.replaceQuiet (by simp) (by simp) (contract.update_ok state _ state' answered)
            · exact (taken.append _).same (settled_same claimed verified)
            · exact fun approved => absurd (.inr approved) waiting
            · exact fun pending => absurd pending waiting
    | _ => exact changed.elim
  · exact holds.keep contract changed answered

omit [DecidableEq ι] in
/-- An empty store holds nothing. -/
theorem StoreInvariant.empty (absent : ∀ id, find id = none) :
    StoreInvariant handler calls callers find [] where
  stored id record found := by
    rw [absent] at found
    cases found
  approved id record found := by
    rw [absent] at found
    cases found
  unclaimed id _ := rfl
  once id := Nat.zero_le 1
  claimed := nofun
  fetched := nofun

end Steps

end RustMist
