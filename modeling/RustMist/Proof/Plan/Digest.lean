import RustMist.Proof.Plan.Verb

/-! What the digest of a plan pins of the write. -/

namespace RustMist

open Effects Effects.Program

variable [ServerPlatform]

/-- A plan run has handed this record to the store. -/
def PlannedAs (handler : MistHandler) (args : PlanChangeArgs) (caller : Option CallerCtx)
    (record : ChangeSetRecord) : Prop :=
  ∃ past answer later rest, Run (planMistChange handler args caller)
    (past ++ ⟨.insertChangeSet record, answer⟩ :: later) rest

/-- An apply of the stored change set prepares this write. -/
def Writes (record : ChangeSetRecord) (request : MistRequest) : Prop :=
  ∃ stored applied caller work, SameStaged record stored ∧
    objectKey applied.object applied.objectId = stored.device ∧
    prepareWork applied caller stored = .ok work ∧ request = work.writeRequest

/-- An apply run of the stored change set sends this request as its write. -/
def Sends (record : ChangeSetRecord) (request : MistRequest) : Prop :=
  ∃ stored handler applied caller before priority after rest, SameStaged record stored ∧
    objectKey applied.object applied.objectId = stored.device ∧
    (⟨.changeSet applied.changeSetId (objectKey applied.object applied.objectId),
      .ok stored⟩ : MistEvent) ∈ before ∧ IsWrite request ∧
    Run (applyMistChangeSet handler applied caller)
      (before ++ ⟨.executeAs request priority, ()⟩ :: after) rest

theorem Sends.writes {record : ChangeSetRecord} {request : MistRequest}
    (sends : Sends record request) : Writes record request := by
  obtain ⟨stored, handler, applied, caller, before, priority, after, rest, same, key, fetched,
    write, run⟩ := sends
  obtain ⟨work, claimed, driftChecked, now, reads, reached, rfl, _⟩ :=
    applyMistChangeSet_write write run
  obtain rfl := reached.fetched fetched
  exact ⟨work.record, applied, caller, work, same, key, reached.prepared, rfl⟩

section Staged

variable {owner : String} {object : WanObject} {objectId : Option String} {orgId : String}
  {before after : Json} {record : ChangeSetRecord} {request : MistRequest}

/-- This is the write that a staged change set stands for. -/
def stagedWrite (object : WanObject) (objectId : Option String) (orgId : String)
    (before after : Json) : MistRequest :=
  let verb := if before.isNull then WriteVerb.create else .update
  let path := (∅ : PathValues).insert "org_id" orgId
  { operationId := (writeTarget object verb).writeOperationId
    path := if before.isNull then path
      else path.insert (writeTarget object verb).idPathName (objectId.getD "new")
    query := ∅
    json := some after
    cursor := none }

theorem StagedAs.writes (staged : StagedAs record owner object objectId orgId before after)
    (written : Writes record request) :
    request = stagedWrite object objectId orgId before after := by
  obtain ⟨stored, applied, caller, work, same, key, prepared, rfl⟩ := written
  have staged' := staged.transfer same
  obtain ⟨sameArgs, _, _, sameAfter, sameOrg, create, supplied⟩ := staged'.prepared prepared
  rw [staged'.device] at key
  obtain ⟨sameObject, identifier⟩ := objectKey_eq_iff.mp key
  unfold ApplyWork.writeRequest ApplyWork.writePath ApplyWork.target ApplyWork.verb stagedWrite
  rw [sameArgs, sameAfter, sameOrg, create, sameObject]
  cases absent : before.isNull with
  | true => rfl
  | false =>
      have updates : work.isCreate = false := create.trans absent
      rw [supplied updates] at identifier
      rw [← identifier]
      rfl

omit [ServerPlatform] in
theorem stagedWrite_orgId : (stagedWrite object objectId orgId before after).path.get "org_id" =
    some orgId := by
  have other (verb : WriteVerb) : (writeTarget object verb).idPathName ≠ "org_id" := by
    cases object <;> cases verb <;> decide
  unfold stagedWrite
  dsimp only
  split
  · simp
  · simp [(other .update).symm]

end Staged

section Plans

variable {handler : MistHandler} {args : PlanChangeArgs} {caller : Option CallerCtx}
  {past : MistHistory} {base : Json} {record : ChangeSetRecord}

/-- Every staged change set has a write. -/
theorem PlanInserted.exists_writes (inserted : PlanInserted handler args caller past base record) :
    ∃ request, Writes record request := by
  have same := SameStaged.refl record
  have key : objectKey args.object args.objectId = record.device := inserted.staged.device.symm
  let applied : ChangeSetArgs := ⟨record.id, args.object, args.objectId⟩
  cases absent : base.isNull with
  | true =>
      exact ⟨_, record, applied, none, _, same, key,
        inserted.staged.prepareWork_create absent applied none, rfl⟩
  | false =>
      have update : args.verb = .update := by
        cases verb : args.verb with
        | update => rfl
        | create =>
            rw [inserted.create verb] at absent
            cases absent
      obtain ⟨objectId, _, _, _, supplied, _⟩ := inserted.update update
      have supplied' : applied.objectId = some objectId := supplied
      exact ⟨_, record, applied, none, _, same, key,
        inserted.staged.prepareWork_update absent supplied' none, rfl⟩

end Plans

section Pinning

variable {handler handler' : MistHandler} {args args' : PlanChangeArgs}
  {caller caller' : Option CallerCtx} {past past' : MistHistory} {base base' : Json}
  {record record' : ChangeSetRecord}
  (inserted : PlanInserted handler args caller past base record)
  (inserted' : PlanInserted handler' args' caller' past' base' record')

include inserted inserted'

/-- One organization and one digest leave one write. -/
theorem writes_eq_of_digest (equal : record.digest = record'.digest)
    (distinct : changeSetDigest record.owner record.device record.expectedCandidateFingerprint
        record.actions =
      changeSetDigest record'.owner record'.device record'.expectedCandidateFingerprint
        record'.actions →
      record.device = record'.device ∧
        record.expectedCandidateFingerprint = record'.expectedCandidateFingerprint ∧
        record.actions = record'.actions)
    (sameOrg : args.orgId = args'.orgId) {request request' : MistRequest}
    (written : Writes record request) (written' : Writes record' request') : request = request' := by
  have staged := inserted.staged
  have staged' := inserted'.staged
  have digests : changeSetDigest record.owner record.device record.expectedCandidateFingerprint
      record.actions = .ok record.digest := by
    rw [staged.device, staged.fingerprint, staged.actions, staged.digest]
  have digests' : changeSetDigest record'.owner record'.device
      record'.expectedCandidateFingerprint record'.actions = .ok record'.digest := by
    rw [staged'.device, staged'.fingerprint, staged'.actions, staged'.digest]
  obtain ⟨device, fingerprint, actions⟩ := distinct (by rw [digests, digests', equal])
  rw [staged.device, staged'.device] at device
  obtain ⟨object, identifier⟩ := objectKey_eq_iff.mp device
  rw [staged.actions, staged'.actions, object] at actions
  have after : mergePatch base args.patch.val = mergePatch base' args'.patch.val := by
    simpa [planAction] using actions
  rw [staged.fingerprint, staged'.fingerprint] at fingerprint
  have absent : base.isNull = base'.isNull := by
    rw [Bool.eq_iff_iff, ← candidateFingerprint_eq_create, ← candidateFingerprint_eq_create,
      fingerprint]
  rw [staged.writes written, staged'.writes written']
  unfold stagedWrite
  rw [object, identifier, sameOrg, after, absent]

/-- One write names one organization. -/
theorem orgId_eq_of_pinned (pinned : ∀ request request', Writes record request →
    Writes record' request' → request = request') : args.orgId = args'.orgId := by
  obtain ⟨request, written⟩ := inserted.exists_writes
  obtain ⟨request', written'⟩ := inserted'.exists_writes
  have same := pinned request request' written written'
  rw [inserted.staged.writes written, inserted'.staged.writes written'] at same
  have paths := congrArg (fun request => request.path.get "org_id") same
  simpa [stagedWrite_orgId] using paths

end Pinning

/-- A create that is staged for an organization can be sent to it. -/
theorem exists_sends_create {handler : MistHandler} {args : PlanChangeArgs}
    {caller : Option CallerCtx} {past : MistHistory} {base : Json} {record : ChangeSetRecord}
    (inserted : PlanInserted handler args caller past base record) (absent : base.isNull = true) :
    ∃ request, Sends record request ∧ request.path.get "org_id" = some args.orgId := by
  have reached := create_reached inserted absent (approvedRecord record)
  let work := createWork args base record
  have sends : Sends record work.writeRequest :=
    ⟨_, handler, _, none, _, _, [], _, approvedRecord_same record, inserted.staged.device.symm,
      reached.fetched_mem, nofun, applyMistChangeSet_reaches reached⟩
  refine ⟨work.writeRequest, sends, ?_⟩
  rw [inserted.staged.writes sends.writes, stagedWrite_orgId]

/-- Two change sets with one digest have the same write exactly when they name one organization, and
then all their apply runs send that write. -/
theorem digest_determines_write_iff (handler handler' : MistHandler) (args args' : PlanChangeArgs)
    (caller caller' : Option CallerCtx) (record record' : ChangeSetRecord)
    (planned : PlannedAs handler args caller record)
    (planned' : PlannedAs handler' args' caller' record')
    (equal : record.digest = record'.digest)
    (distinct : changeSetDigest record.owner record.device record.expectedCandidateFingerprint
        record.actions =
      changeSetDigest record'.owner record'.device record'.expectedCandidateFingerprint
        record'.actions →
      record.device = record'.device ∧
        record.expectedCandidateFingerprint = record'.expectedCandidateFingerprint ∧
        record.actions = record'.actions) :
    ((∀ request request', Writes record request → Writes record' request' → request = request') ↔
      args.orgId = args'.orgId) ∧
    (args.orgId = args'.orgId →
      ∀ request request', Sends record request → Sends record' request' → request = request') := by
  obtain ⟨past, _, _, _, run⟩ := planned
  obtain ⟨past', _, _, _, run'⟩ := planned'
  obtain ⟨base, inserted⟩ := planMistChange_inserts.event run
  obtain ⟨base', inserted'⟩ := planMistChange_inserts.event run'
  refine ⟨⟨orgId_eq_of_pinned inserted inserted', ?_⟩, ?_⟩
  · intro sameOrg request request' written written'
    exact writes_eq_of_digest inserted inserted' equal distinct sameOrg written written'
  · intro sameOrg request request' sends sends'
    exact writes_eq_of_digest inserted inserted' equal distinct sameOrg sends.writes sends'.writes

end RustMist

namespace RustMist.Network

open Effects Effects.Program

/-- A plan of one network for an organization. -/
def creationPlan (orgId : String) : PlanChangeArgs :=
  ⟨.network, .create, orgId, none, ⟨network, network_isObject⟩⟩

def creationDigest : String :=
  Reference.planDigest (principal none) (objectKey .network none) (candidateFingerprint .null)
    [planAction .network (mergePatch .null network)]

def plannedCreation (orgId : String) : ChangeSetRecord :=
  insertedRecord (creationPlan orgId) (principal none) .null identifier 0 creationDigest

/-- The events of that plan up to its waiver. -/
def creationPlanEvents (orgId : String) : MistHistory :=
  stagingEvents (creationPlan orgId) (principal none) .null identifier 0 creationDigest ++
    [⟨.proposal (Hex.encode identifier.bytes) (Hex.encode identifier.bytes)
        (objectKey .network none) (principal none) creationDigest, ()⟩,
      ⟨.waiveApproval (Hex.encode identifier.bytes) (objectKey .network none) (principal none)
        creationDigest, .ok ()⟩]

theorem creationPlan_runs {orgId : String} (allowed : orgId ∈ handler.allowedOrgs) :
    ∃ rest, Run (planMistChange handler (creationPlan orgId) none) (creationPlanEvents orgId)
      rest := by
  have authority : rejectConfigAuthority (creationPlan orgId).patch.val = .ok () := by
    change rejectConfigAuthority network = .ok ()
    decide
  have placeholder : rejectRedactionPlaceholder (creationPlan orgId).patch.val = .ok () := by
    change rejectRedactionPlaceholder network = .ok ()
    decide
  rw [planMistChange_create authority placeholder allowed rfl]
  exact ⟨_, (stageChange_reaches identifier 0 rfl).trans (.answered (.answered (.start _)))⟩

/-- The plan hands its record to the store. -/
theorem creationPlanEvents_eq (orgId : String) : creationPlanEvents orgId =
    [⟨.random, .ok identifier⟩, ⟨.systemTime, .ok 0⟩] ++
      ⟨.insertChangeSet (plannedCreation orgId), .ok ()⟩ ::
        (creationPlanEvents orgId).drop 3 := rfl

theorem plannedAs_creation {orgId : String} (allowed : orgId ∈ handler.allowedOrgs) :
    PlannedAs handler (creationPlan orgId) none (plannedCreation orgId) := by
  obtain ⟨rest, run⟩ := creationPlan_runs allowed
  rw [creationPlanEvents_eq] at run
  exact ⟨_, .ok (), _, rest, run⟩

theorem orgId_allowed : orgId ∈ handler.allowedOrgs := List.mem_cons_self

theorem otherOrgId_allowed : otherOrgId ∈ handler.allowedOrgs :=
  List.mem_cons_of_mem _ List.mem_cons_self

theorem plannedCreation_staged (orgId : String) :
    (plannedCreation orgId).digest = creationDigest ∧
      (plannedCreation orgId).device = objectKey .network none ∧
      (plannedCreation orgId).expectedCandidateFingerprint = candidateFingerprint .null ∧
      (plannedCreation orgId).actions = [planAction .network (mergePatch .null network)] :=
  ⟨rfl, rfl, rfl, rfl⟩

theorem plannedCreations_digest :
    (plannedCreation orgId).digest = (plannedCreation otherOrgId).digest := by
  rw [(plannedCreation_staged orgId).1, (plannedCreation_staged otherOrgId).1]

theorem inserted_creation {orgId : String} (allowed : orgId ∈ handler.allowedOrgs) :
    ∃ past, PlanInserted handler (creationPlan orgId) none past .null (plannedCreation orgId) := by
  obtain ⟨rest, run⟩ := creationPlan_runs allowed
  rw [creationPlanEvents_eq] at run
  obtain ⟨base, inserted⟩ := planMistChange_inserts.event run
  obtain rfl := inserted.create rfl
  exact ⟨_, inserted⟩

/-- Two organizations' plans of one network have one digest, and their applies send different
writes. -/
theorem creations_share_digest :
    PlannedAs handler (creationPlan orgId) none (plannedCreation orgId) ∧
      PlannedAs handler (creationPlan otherOrgId) none (plannedCreation otherOrgId) ∧
      (plannedCreation orgId).digest = (plannedCreation otherOrgId).digest ∧
      ¬∀ request request', Sends (plannedCreation orgId) request →
        Sends (plannedCreation otherOrgId) request' → request = request' := by
  obtain ⟨past, inserted⟩ := inserted_creation orgId_allowed
  obtain ⟨past', inserted'⟩ := inserted_creation otherOrgId_allowed
  refine ⟨plannedAs_creation orgId_allowed, plannedAs_creation otherOrgId_allowed,
    plannedCreations_digest, fun pinned => ?_⟩
  obtain ⟨request, sends, org⟩ := exists_sends_create inserted rfl
  obtain ⟨request', sends', org'⟩ := exists_sends_create inserted' rfl
  rw [pinned request request' sends sends', org'] at org
  exact absurd (Option.some.inj org) (by decide)

theorem digest_determines_write_iff_creations :
    ((∀ request request', Writes (plannedCreation orgId) request →
        Writes (plannedCreation otherOrgId) request' → request = request') ↔
      orgId = otherOrgId) ∧
    (orgId = otherOrgId → ∀ request request', Sends (plannedCreation orgId) request →
      Sends (plannedCreation otherOrgId) request' → request = request') := by
  have staged := plannedCreation_staged orgId
  have staged' := plannedCreation_staged otherOrgId
  exact digest_determines_write_iff handler handler (creationPlan orgId) (creationPlan otherOrgId)
    none none _ _ (plannedAs_creation orgId_allowed) (plannedAs_creation otherOrgId_allowed)
    plannedCreations_digest fun _ => ⟨staged.2.1.trans staged'.2.1.symm,
      staged.2.2.1.trans staged'.2.2.1.symm, staged.2.2.2.trans staged'.2.2.2.symm⟩

end RustMist.Network
