import RustMist.Proof.Apply.Write
import RustMist.Proof.Plan.Staging

/-! Whether an apply keeps the verb and the object of its plan. -/

namespace RustMist

open Effects Effects.Program

variable [ServerPlatform]

/-- The read of an update plan has returned this object. -/
def PlanRead (handler : MistHandler) (args : PlanChangeArgs) (caller : Option CallerCtx)
    (past : MistHistory) (base : Json) : Prop :=
  ∃ objectId reads more result, args.objectId = some objectId ∧ past = reads ++ more ∧
    Completes (dispatchCataloguedRead handler
      (objectRead "plan_mist_change" (writeTarget args.object .update) objectId args.orgId) caller)
      reads result ∧ result.isError ≠ some true ∧ readData result = .ok base

theorem PlanRead.unique {handler : MistHandler} {args : PlanChangeArgs}
    {caller : Option CallerCtx} {past : MistHistory} {base base' : Json}
    (read : PlanRead handler args caller past base)
    (read' : PlanRead handler args caller past base') : base = base' := by
  obtain ⟨objectId, reads, more, result, supplied, rfl, done, _, data⟩ := read
  obtain ⟨objectId', reads', more', result', supplied', same, done', _, data'⟩ := read'
  obtain rfl := Option.some.inj (supplied.symm.trans supplied')
  obtain ⟨_, rfl⟩ := completes_unique done done' same
  exact Except.ok.inj (data.symm.trans data')

/-- A write uses the operation of the planned verb, and an update goes to the planned object after
a drift check. -/
def KeepsVerb (handler : MistHandler) (args : PlanChangeArgs) (applied : ChangeSetArgs)
    (caller : Option CallerCtx) (before : MistHistory) (request : MistRequest) : Prop :=
  request.operationId = (writeTarget args.object args.verb).writeOperationId ∧
    (args.verb = .update →
      request.path.get (writeTarget args.object .update).idPathName = args.objectId ∧
      ∃ work claimed driftChecked now reads,
        WriteReached handler applied caller before work claimed driftChecked now reads ∧
          work.isCreate = false)

/-- Every write of every apply of the stored change set keeps the verb and the object. -/
def AppliesAsPlanned (args : PlanChangeArgs) (record : ChangeSetRecord) : Prop :=
  ∀ stored, SameStaged record stored →
    ∀ handler applied caller before request priority after rest,
      objectKey applied.object applied.objectId = stored.device →
      (⟨.changeSet applied.changeSetId (objectKey applied.object applied.objectId),
        .ok stored⟩ : MistEvent) ∈ before →
      Run (applyMistChangeSet handler applied caller)
        (before ++ ⟨.executeAs request priority, ()⟩ :: after) rest → IsWrite request →
      KeepsVerb handler args applied caller before request

section Keeping

variable {handler : MistHandler} {args : PlanChangeArgs} {caller : Option CallerCtx}
  {past : MistHistory} {base : Json} {record : ChangeSetRecord}

/-- A planned verb is the one that the staged object stands for. -/
theorem appliesAsPlanned_of_verb (inserted : PlanInserted handler args caller past base record)
    (verb : base.isNull = decide (args.verb = .create)) : AppliesAsPlanned args record := by
  intro stored same handler' applied caller' before request priority after rest key fetched run write
  obtain ⟨work, claimed, driftChecked, now, reads, reached, rfl, _⟩ :=
    applyMistChangeSet_write write run
  obtain rfl := reached.fetched fetched
  have staged := inserted.staged.transfer same
  obtain ⟨sameArgs, _, _, _, _, create, supplied⟩ := staged.prepared reached.prepared
  rw [staged.device] at key
  obtain ⟨object, identifier⟩ := objectKey_eq_iff.mp key
  have chosen : work.verb = args.verb := by
    rw [ApplyWork.verb, create, verb]
    cases args.verb <;> rfl
  have target : work.target = writeTarget args.object args.verb := by
    rw [ApplyWork.target, chosen, sameArgs, object]
  refine ⟨by rw [← target]; rfl, fun update => ?_⟩
  have updates : work.isCreate = false := by
    rw [create, verb, update]
    rfl
  obtain ⟨objectId, _, _, _, planned, _⟩ := inserted.update update
  rw [supplied updates, planned] at identifier
  obtain rfl : work.objectId = objectId := by simpa using identifier
  refine ⟨?_, work, claimed, driftChecked, now, reads, reached, updates⟩
  rw [planned, ← update, ← target]
  simp [ApplyWork.writeRequest, ApplyWork.writePath, updates]

/-- The record once it is approved. -/
def approvedRecord (record : ChangeSetRecord) : ChangeSetRecord := { record with state := .approved }

omit [ServerPlatform] in
theorem approvedRecord_same (record : ChangeSetRecord) : SameStaged record (approvedRecord record) :=
  ⟨rfl, rfl, rfl, rfl, rfl, rfl, rfl⟩

/-- The work of an apply that creates what a plan has staged. -/
def createWork (args : PlanChangeArgs) (base : Json) (record : ChangeSetRecord) : ApplyWork :=
  ⟨⟨record.id, args.object, args.objectId⟩, none, approvedRecord record,
    mergePatch base args.patch.val, args.orgId, true, ""⟩

/-- The events of that apply before its write. -/
def createEvents (handler : MistHandler) (work : ApplyWork) (claimed : ChangeSetRecord) :
    MistHistory :=
  [⟨.deviceGuard (objectKey work.args.object work.args.objectId), .ok ()⟩,
    ⟨.changeSet work.args.changeSetId (objectKey work.args.object work.args.objectId),
      .ok work.record⟩,
    ⟨.systemTime, .ok 0⟩] ++ (intentEvents handler work ++
      [⟨.claimChangeSetForApply work.record.id work.record.device .none, .ok claimed⟩])

/-- An approved change set of an absent object reaches the write of a create. -/
theorem create_reached (inserted : PlanInserted handler args caller past base record)
    (absent : base.isNull = true) (claimed : ChangeSetRecord) :
    WriteReached handler ⟨record.id, args.object, args.objectId⟩ none
      (createEvents handler (createWork args base record) claimed) (createWork args base record)
      claimed false 0 [] where
  events := rfl
  approved := rfl
  unexpired := UInt64.zero_le
  prepared := (inserted.staged.transfer (approvedRecord_same record)).prepareWork_create absent _ none
  allowed := inserted.allowed
  drift := ⟨rfl, rfl⟩

/-- A planned update of a null object is applied as a create. -/
theorem not_appliesAsPlanned (inserted : PlanInserted handler args caller past base record)
    (update : args.verb = .update) (absent : base.isNull = true) :
    ¬AppliesAsPlanned args record := by
  intro kept
  have reached := create_reached inserted absent (approvedRecord record)
  obtain ⟨operation, _⟩ := kept _ (approvedRecord_same record) handler _ none _ _ _ _ _
    inserted.staged.device.symm reached.fetched_mem (applyMistChangeSet_reaches reached) nofun
  change (writeTarget args.object .create).writeOperationId = _ at operation
  rw [update] at operation
  cases object : args.object <;> rw [object] at operation <;> exact absurd operation (by decide)

end Keeping

/-- The verb is kept from a plan to every apply exactly when the plan creates or has read an object
that is not null. -/
theorem verb_kept_iff (handler : MistHandler) (args : PlanChangeArgs) (caller : Option CallerCtx)
    (past later : MistHistory) (record : ChangeSetRecord) (answer : Except CoordinatorError Unit)
    (rest : MistProgram CallToolResult)
    (run : Run (planMistChange handler args caller)
      (past ++ ⟨.insertChangeSet record, answer⟩ :: later) rest) :
    AppliesAsPlanned args record ↔
      (args.verb = .update → ∀ base, PlanRead handler args caller past base →
        base.isNull = false) := by
  obtain ⟨base, inserted⟩ := planMistChange_inserts.event run
  constructor
  · intro kept update base' read
    obtain ⟨objectId, reads, more, result, supplied, same, done, returned, data⟩ :=
      inserted.update update
    obtain rfl := PlanRead.unique read
      ⟨objectId, reads, more, result, supplied, same, done, returned, data⟩
    rw [Bool.eq_false_iff]
    exact fun absent => not_appliesAsPlanned inserted update absent kept
  · intro present
    apply appliesAsPlanned_of_verb inserted
    cases verb : args.verb with
    | create =>
        rw [inserted.create verb]
        rfl
    | update => exact present verb base (inserted.update verb)

end RustMist

namespace RustMist.Network

open Effects Effects.Program

/-- The body of a response that holds a null. -/
def nothing : Json.Value := ⟨.null, rfl⟩

/-- A plan to update a network. -/
def updatePlan : PlanChangeArgs := ⟨.network, .update, orgId, some networkId, ⟨network, network_isObject⟩⟩

def identifier : Bytes32 := ⟨List.replicate 32 0, rfl⟩

def updateDigest : String :=
  Reference.planDigest (principal none) (objectKey .network (some networkId))
    (candidateFingerprint .null) [planAction .network (mergePatch .null network)]

def plannedUpdate : ChangeSetRecord :=
  insertedRecord updatePlan (principal none) .null identifier 0 updateDigest

theorem nothing_valid :
    (response nothing).validate handler.catalog handler.origin = .ok (response nothing) :=
  validate_response (by decide) (by decide)

theorem nothing_returned : (readResult nothing).isError ≠ some true := by
  decide +kernel

theorem updatePlan_runs :
    ∃ rest, Run (planMistChange handler updatePlan none) (readEvents nothing ++
      stagingEvents updatePlan (principal none) .null identifier 0 updateDigest) rest := by
  have authority : rejectConfigAuthority updatePlan.patch.val = .ok () := by decide
  have placeholder : rejectRedactionPlaceholder updatePlan.patch.val = .ok () := by decide
  rw [planMistChange_update authority placeholder List.mem_cons_self rfl rfl]
  exact ⟨_, planUpdate_reaches (read_completes "plan_mist_change" nothing_valid) nothing_returned
    (readData_readResult nothing_returned) (stageChange_reaches identifier 0 rfl)⟩

/-- The events of the plan before its insertion. -/
def updatePast : MistHistory :=
  readEvents nothing ++ [⟨.random, .ok identifier⟩, ⟨.systemTime, .ok 0⟩]

theorem updatePlan_inserts : ∃ rest, Run (planMistChange handler updatePlan none)
    (updatePast ++ [⟨.insertChangeSet plannedUpdate, .ok ()⟩]) rest := updatePlan_runs

theorem planRead_nothing : PlanRead handler updatePlan none updatePast .null :=
  ⟨networkId, readEvents nothing, _, readResult nothing, rfl, rfl,
    read_completes "plan_mist_change" nothing_valid, nothing_returned,
    readData_readResult nothing_returned⟩

/-- An update that was planned on a null is not applied as an update. -/
theorem update_of_null_creates :
    Catalog.fromJson (serdeToString (paddedDocument networkOperations).toJson) =
        .ok handler.catalog ∧
      (∃ rest, Run (planMistChange handler updatePlan none)
        (updatePast ++ [⟨.insertChangeSet plannedUpdate, .ok ()⟩]) rest) ∧
      ¬AppliesAsPlanned updatePlan plannedUpdate := by
  refine ⟨catalog_accepted, updatePlan_inserts, ?_⟩
  obtain ⟨rest, run⟩ := updatePlan_inserts
  obtain ⟨base, inserted⟩ := planMistChange_inserts.event run
  obtain rfl := planRead_nothing.unique (inserted.update rfl)
  exact not_appliesAsPlanned inserted rfl rfl

theorem verb_kept_iff_nothing :
    AppliesAsPlanned updatePlan plannedUpdate ↔
      (updatePlan.verb = .update → ∀ base, PlanRead handler updatePlan none updatePast base →
        base.isNull = false) :=
  verb_kept_iff handler updatePlan none updatePast [] plannedUpdate (.ok ()) _
    updatePlan_inserts.choose_spec

end RustMist.Network
