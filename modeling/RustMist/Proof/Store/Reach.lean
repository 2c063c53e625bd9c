import RustMist.Proof.Calls.Preflight
import RustMist.Proof.Calls.Targets
import RustMist.Proof.Store.Once

/-! The callers that reach the change sets of an organization. -/

namespace RustMist

open Effects Effects.Program

section Callers

/-- The device scope of a caller holds the organization, and so does its grant if it has one. -/
def Admits [ServerPlatform] (caller : CallerCtx) (orgId : String) : Prop :=
  caller.devices.allows ("org/" ++ orgId) = true ∧
    ∀ grant, caller.grant = some grant → grant.allowsSubject ("org/" ++ orgId) = true

/-- The reads of the planned objects take their target from the organization alone. -/
def ReadsOfOrgs (catalog : Catalog) : Prop :=
  ∀ object verb operation,
    catalog.operation (writeTarget object verb).readOperationId = some operation →
      operation.targetSelectors = [.org]

variable [ServerPlatform]

/-- A read that is admitted for an object of an organization is one of a caller that the
organization admits. -/
theorem admits_of_admitRead {handler : MistHandler} (reads : ReadsOfOrgs handler.catalog)
    {tool objectId orgId : String} {object : WanObject} {verb : WriteVerb} {caller : CallerCtx}
    {target : Option MistTarget}
    (admitted : admitRead handler (objectRead tool (writeTarget object verb) objectId orgId)
      (some caller) = .ok target) : Admits caller orgId := by
  obtain ⟨operation, catalogued, _, _, derived, scope, granted⟩ := admitRead_ok admitted
  have selectors := reads object verb operation catalogued
  rw [selectors] at derived
  cases derived with
  | org target kind supplied =>
      have path : (objectRead tool (writeTarget object verb) objectId orgId).path.get "org_id" =
          some orgId := by
        simp [objectRead]
      have same : target.id = orgId := Option.some.inj (supplied.symm.trans path)
      have subject : target.subject = "org/" ++ orgId := by
        rw [MistTarget.subject, kind, same]
      rw [Admits, ← subject]
      refine ⟨(scope caller rfl).2 target rfl, fun grant own => ?_⟩
      unfold GrantAdmits at granted
      rw [Option.bind_some, own] at granted
      rw [MistGrant.allowsSubject, target.parse_subject]
      exact granted.2.2 target rfl

end Callers

section Claims

variable [ServerPlatform]

/-- A claim is made for the record that the call has fetched, and for an update the object has
been read first. -/
structure ClaimMade (handler : MistHandler) (args : ChangeSetArgs) (caller : Option CallerCtx)
    (past : MistHistory) (id : String) (work : ApplyWork) : Prop where
  fetched : (⟨.changeSet args.changeSetId (objectKey args.object args.objectId),
    .ok work.record⟩ : MistEvent) ∈ past
  prepared : prepareWork args caller work.record = .ok work
  named : id = work.record.id
  admitted : work.isCreate = false → ∃ target, admitRead handler
    (objectRead "apply_mist_change_set" work.target work.objectId work.orgId) work.caller =
      .ok target

/-- Only an apply claims. -/
def ClaimStep (handler : MistHandler) (call : ToolCall) (caller : Option CallerCtx)
    (past : MistHistory) : Op → Prop
  | .claimChangeSetForApply id _ _ =>
      ∃ args work, call = .apply args ∧ ClaimMade handler args caller past id work
  | _ => True

variable {handler : MistHandler} {call : ToolCall} {caller : Option CallerCtx}
  {past : MistHistory} {work : ApplyWork} {claimed : ChangeSetRecord} {driftChecked : Bool}

theorem claimStep_of_isReadOp {op : Op} (reading : IsReadOp op) :
    ClaimStep handler call caller past op := by
  cases op <;> first | exact reading.elim | trivial

theorem read_claims (read : CatalogRead) (reader : Option CallerCtx) :
    (dispatchCataloguedRead handler read reader).Ensures (ClaimStep handler call caller)
      (fun _ _ => True) past :=
  (dispatchCataloguedRead_readOps handler read reader past).mono
    (fun _ _ reading => claimStep_of_isReadOp reading) (fun _ _ => id)

theorem recordReceipt_claims (success : Bool) (reason : String) :
    (recordReceipt handler work claimed success reason).Ensures (ClaimStep handler call caller)
      (fun _ _ => True) past := by
  unfold recordReceipt
  split
  · exact ensures_ask_iff.mpr ⟨trivial, fun _ => trivial⟩
  · trivial

theorem abandonApply_claims (message : String) :
    (abandonApply claimed message).Ensures (ClaimStep handler call caller) (fun _ _ => True)
      past :=
  ensures_ask_iff.mpr ⟨trivial, fun _ => trivial⟩

theorem verifyApply_claims (objectId : String) :
    (verifyApply handler work claimed objectId driftChecked).Ensures
      (ClaimStep handler call caller) (fun _ _ => True) past := by
  refine (read_claims _ _).bind fun history result _ => ?_
  refine (recordReceipt_claims _ _).bind fun later _ _ => ?_
  refine ensures_ask_iff.mpr ⟨trivial, fun answer => ?_⟩
  cases answer <;> trivial

/-- Nothing is claimed once the write is under way. -/
theorem sendWrite_claims :
    (sendWrite handler work claimed driftChecked).Ensures (ClaimStep handler call caller)
      (fun _ _ => True) past := by
  refine ensures_ask_iff.mpr ⟨trivial, fun _ => ?_⟩
  refine ensures_ask_iff.mpr ⟨trivial, fun answer => ?_⟩
  cases answer with
  | error error => exact abandonApply_claims _
  | ok response =>
      unfold concludeWrite
      dsimp only
      cases finalObjectId work response with
      | error reason => exact (recordReceipt_claims _ _).bind fun _ _ _ => abandonApply_claims _
      | ok objectId => exact verifyApply_claims _

variable {args : ChangeSetArgs}

theorem ClaimMade.append (made : ClaimMade handler args caller past work.record.id work)
    (more : MistHistory) : ClaimMade handler args caller (past ++ more) work.record.id work :=
  ⟨List.mem_append_left more made.fetched, made.prepared, rfl, made.admitted⟩

theorem claimAndWrite_claims (made : ClaimMade handler args caller past work.record.id work) :
    (claimAndWrite handler work driftChecked).Ensures (ClaimStep handler (.apply args) caller)
      (fun _ _ => True) past := by
  refine ensures_ask_iff.mpr ⟨⟨args, work, rfl, made⟩, fun answer => ?_⟩
  cases answer with
  | error error => trivial
  | ok claimed => exact sendWrite_claims

theorem issueApply_claims (made : ClaimMade handler args caller past work.record.id work) :
    (issueApply handler work driftChecked).Ensures (ClaimStep handler (.apply args) caller)
      (fun _ _ => True) past := by
  unfold issueApply
  split
  · trivial
  · split
    · refine ensures_ask_iff.mpr ⟨trivial, fun answer => ?_⟩
      cases answer with
      | error reason => trivial
      | ok _ => exact claimAndWrite_claims (made.append _)
    · exact claimAndWrite_claims made

theorem settleDrift_claims (made : ClaimMade handler args caller past work.record.id work) :
    (settleDrift work).Ensures (ClaimStep handler (.apply args) caller) (fun _ _ => True) past := by
  refine ensures_ask_iff.mpr ⟨⟨args, work, rfl, made⟩, fun answer => ?_⟩
  cases answer with
  | error error => trivial
  | ok claimed => exact abandonApply_claims _

/-- A claim of an update comes after its read. -/
theorem applyWork_claims
    (fetched : (⟨.changeSet args.changeSetId (objectKey args.object args.objectId),
      .ok work.record⟩ : MistEvent) ∈ past)
    (prepared : prepareWork args caller work.record = .ok work) :
    (applyWork handler work).Ensures (ClaimStep handler (.apply args) caller) (fun _ _ => True)
      past := by
  unfold applyWork
  split
  · rename_i create
    exact issueApply_claims ⟨fetched, prepared, rfl, fun update => by rw [create] at update; cases update⟩
  · refine (read_claims _ _).completes.bind fun history result reached => ?_
    obtain ⟨_, own, _, done⟩ := reached
    split
    · trivial
    · rename_i returned
      obtain ⟨target, response, accepted, read⟩ := dispatchCataloguedRead_completes done returned
      have made : ClaimMade handler args caller (past ++ history) work.record.id work :=
        ⟨List.mem_append_left _ fetched, prepared, rfl, fun _ => ⟨target, read.admitted⟩⟩
      split
      · trivial
      · split
        · exact settleDrift_claims made
        · exact issueApply_claims made

theorem applyMistChangeSet_claims (args : ChangeSetArgs) :
    (applyMistChangeSet handler args caller).Ensures (ClaimStep handler (.apply args) caller)
      (fun _ _ => True) [] := by
  refine ensures_ask_iff.mpr ⟨trivial, fun guard => ?_⟩
  cases guard with
  | error error => trivial
  | ok _ =>
      refine ensures_ask_iff.mpr ⟨trivial, fun fetch => ?_⟩
      cases fetch with
      | error error => trivial
      | ok record =>
          change (applyRecord handler args caller record).Ensures _ _ _
          unfold applyRecord
          split
          · trivial
          · refine ensures_ask_iff.mpr ⟨trivial, fun time => ?_⟩
            cases time with
            | error reason => trivial
            | ok now =>
                change (if now > record.expiresAtUnix then _ else _ : MistProgram ToolOutcome).Ensures
                  _ _ _
                split
                · trivial
                · split
                  · trivial
                  · rename_i work prepared
                    obtain ⟨rfl, rfl, rfl, _⟩ := prepareWork_ok prepared
                    exact applyWork_claims (by simp) prepared

/-- Every claim of a call is made by an apply on what it has fetched and read. -/
theorem ToolCall.program_claims (handler : MistHandler) (call : ToolCall)
    (caller : Option CallerCtx) :
    (call.program handler caller).Ensures (ClaimStep handler call caller) (fun _ _ => True) [] := by
  cases call with
  | invoke tool args capability =>
      apply succeed_steps
      unfold invokeDispatcher
      split
      · trivial
      · exact read_claims _ _
  | named tool operationId args pathNames capability =>
      apply succeed_steps
      unfold dispatchNamed
      split
      · trivial
      · exact read_claims _ _
  | plan args =>
      apply succeed_steps
      refine planMistChange_inserts.mono (fun history op step => ?_) (fun _ _ => id)
      cases op with
      | claimChangeSetForApply id device handle => exact step.elim
      | _ => trivial
  | getChangeSet args =>
      apply succeed_steps
      refine ensures_ask_iff.mpr ⟨trivial, fun fetch => ?_⟩
      cases fetch with
      | error error => trivial
      | ok record =>
          dsimp only
          split
          · trivial
          · split <;> trivial
  | approve args =>
      apply succeed_steps
      refine ensures_ask_iff.mpr ⟨trivial, fun approved => ?_⟩
      cases approved <;> trivial
  | apply args => exact applyMistChangeSet_claims args

end Claims

section Stored

theorem SameStaged.symm {first second : ChangeSetRecord} (same : SameStaged first second) :
    SameStaged second first :=
  ⟨same.id.symm, same.owner.symm, same.device.symm, same.fingerprint.symm, same.actions.symm,
    same.digest.symm, same.preview.symm⟩

variable {ι : Type} {trace : Trace ι mist}

/-- The store keeps what is staged of every record that it has taken. -/
def KeepsInserted (find : String → Option ChangeSetRecord) (trace : Trace ι mist) : Prop :=
  ∀ thread planned, (thread, ⟨.insertChangeSet planned, .ok ()⟩) ∈ trace →
    ∃ stored, find planned.id = some stored ∧ SameStaged planned stored

theorem KeepsInserted.replace {find find' : String → Option ChangeSetRecord}
    {record record' : ChangeSetRecord} (keeps : KeepsInserted find trace)
    (found : find record'.id = some record) (same : SameStaged record record')
    (replaced : Replaces find find' record') : KeepsInserted find' trace := by
  intro thread planned member
  obtain ⟨stored, present, staged⟩ := keeps thread planned member
  by_cases own : planned.id = record'.id
  · rw [own, found] at present
    obtain rfl := Option.some.inj present
    exact ⟨record', by rw [own]; exact replaced.1, staged.trans same⟩
  · exact ⟨stored, by rw [replaced.2 _ own]; exact present, staged⟩

/-- An event that inserts nothing adds nothing to what is kept. -/
theorem KeepsInserted.append {find : String → Option ChangeSetRecord} {thread : ι} {op : Op}
    {answer : op.Answer} (keeps : KeepsInserted find trace)
    (other : ∀ record, op ≠ .insertChangeSet record) :
    KeepsInserted find (trace ++ [(thread, ⟨op, answer⟩)]) := by
  intro thread' planned member
  rcases List.mem_append.mp member with early | late
  · exact keeps thread' planned early
  · have same := (Prod.mk.inj (List.mem_singleton.mp late)).2
    exact absurd (Event.mk.inj same).1.symm (other planned)

variable [ServerPlatform] [DecidableEq ι] {handler : MistHandler} {calls : ι → ToolCall}
  {callers : ι → Option CallerCtx} {world : World mist}

omit [DecidableEq ι] in
/-- What the trace has inserted under one identifier is staged alike. -/
theorem InsertedAs.kept {find : String → Option ChangeSetRecord} {record : ChangeSetRecord}
    (keeps : KeepsInserted find trace)
    (inserted : InsertedAs handler calls callers trace record) :
    ∃ stored, find record.id = some stored ∧ SameStaged record stored := by
  obtain ⟨thread, args, past, base, planned, call, member, staged, same⟩ := inserted
  obtain ⟨stored, found, kept⟩ := keeps thread planned member
  exact ⟨stored, by rw [← same.id]; exact found, same.symm.trans kept⟩

/-- One step of any call keeps what has been inserted. -/
theorem KeepsInserted.step (contract : StoreContract world) {state state' : world.State}
    {thread : ι} {op : Op} {answer : op.Answer}
    (keeps : KeepsInserted (contract.find state) trace)
    (holds : StoreInvariant handler calls callers (contract.find state) trace)
    (step : CallStep handler (calls thread) (callers thread) (trace.ofThread thread) op)
    (answered : world.Step state op answer state') :
    KeepsInserted (contract.find state') (trace ++ [(thread, ⟨op, answer⟩)]) := by
  have approves {id : String} {allowed : ChangeSetRecord → Prop}
      (approved : Approves (contract.find state) (contract.find state') id allowed) :
      KeepsInserted (contract.find state') trace := by
    obtain ⟨record, record', found, _, _, same, _, replaced⟩ := approved
    have named := contract.find_id state id record found
    refine keeps.replace ?_ same replaced
    rw [← same.id, named]
    exact found
  by_cases changed : ChangesStore op answer
  · cases op with
    | insertChangeSet record =>
        cases answer with
        | error error => exact changed.elim
        | ok _ =>
            obtain ⟨fresh, replaced⟩ := contract.insert_ok state record state' answered
            intro thread' planned member
            rcases List.mem_append.mp member with early | late
            · obtain ⟨stored, found, staged⟩ := keeps thread' planned early
              have other : planned.id ≠ record.id := by
                intro same
                rw [same, fresh] at found
                cases found
              exact ⟨stored, by rw [replaced.2 _ other]; exact found, staged⟩
            · have same := (Prod.mk.inj (List.mem_singleton.mp late)).2
              obtain rfl := Op.insertChangeSet.inj (Event.mk.inj same).1
              exact ⟨planned, replaced.1, .refl planned⟩
    | approveChangeSet id device approver digest actor =>
        cases answer with
        | error error => exact changed.elim
        | ok output =>
            exact (approves (contract.approve_ok state id device _ _ _ output state' answered)).append
              (by simp)
    | waiveApproval id device owner digest =>
        cases answer with
        | error error => exact changed.elim
        | ok _ =>
            exact (approves (contract.waive_ok state id device owner digest state' answered)).append
              (by simp)
    | claimChangeSetForApply id device handle =>
        cases answer with
        | error error => exact changed.elim
        | ok claimed =>
            obtain ⟨record, found, _, same, _, replaced⟩ :=
              contract.claim_ok state id device handle claimed state' answered
            have named := contract.find_id state id record found
            refine (keeps.replace ?_ same replaced).append (by simp)
            rw [← same.id, named]
            exact found
    | updateChangeSet record =>
        cases answer with
        | error error => exact changed.elim
        | ok _ =>
            obtain ⟨claimed, verified, rfl, id, device, handle, member⟩ := step
            have taken := holds.claimed thread id device handle claimed
              (Trace.mem_ofThread.mp member)
            obtain ⟨stored, found, same⟩ := taken.kept keeps
            refine (keeps.replace ?_ (same.symm.trans (settled_same claimed verified))
              (contract.update_ok state _ state' answered)).append (by simp)
            exact found
    | _ => exact changed.elim
  · rw [contract.stays state op answer state' changed answered]
    intro thread' planned member
    rcases List.mem_append.mp member with early | late
    · exact keeps thread' planned early
    · have same := (Prod.mk.inj (List.mem_singleton.mp late)).2
      obtain ⟨rfl, equal⟩ := Event.mk.inj same
      obtain rfl := eq_of_heq equal
      exact absurd trivial changed

end Stored

section Isolation

variable [ServerPlatform] {ι : Type}

/-- A plan of the trace has staged the change set of this identifier for the organization. -/
def PlannedFor (calls : ι → ToolCall) (trace : Trace ι mist) (id orgId : String)
    (planned : ChangeSetRecord) : Prop :=
  ∃ thread args, calls thread = .plan args ∧ args.orgId = orgId ∧
    (thread, ⟨.insertChangeSet planned, .ok ()⟩) ∈ trace ∧ planned.id = id

/-- This is what the store does besides its contract for a record under the key of its object. It
answers with a record only under that key, and it is able to answer whenever that is fit. -/
structure KeyedStore {world : World mist} (contract : StoreContract world) where
  /-- The digest of a record is well formed and its approval window is open. -/
  approvable : world.State → ChangeSetRecord → Prop
  /-- The store refuses no apply of this record once it is approved. -/
  claimable : world.State → ChangeSetRecord → Prop
  fetch_key : ∀ state id device record state',
    world.Step state (.changeSet id device) (.ok record) state' → record.device = device
  fetches : ∀ state id record, contract.find state id = some record →
    ∃ state', world.Step state (.changeSet id record.device) (.ok record) state'
  approve_key : ∀ state id device approver digest actor output state' record,
    world.Step state (.approveChangeSet id device approver digest actor) (.ok output) state' →
      contract.find state id = some record → record.device = device ∧ approvable state record
  approves : ∀ state id record approver, contract.find state id = some record →
    record.state = .planned → approver ≠ record.owner → approvable state record →
      ∃ output state', world.Step state
        (.approveChangeSet id record.device approver record.digest .human) (.ok output) state'
  claim_key : ∀ state id device handle claimed state' record,
    world.Step state (.claimChangeSetForApply id device handle) (.ok claimed) state' →
      contract.find state id = some record → record.device = device ∧ claimable state record
  claims : ∀ state id record handle, contract.find state id = some record →
    record.state = .approved → claimable state record →
      ∃ claimed state', world.Step state (.claimChangeSetForApply id record.device handle)
        (.ok claimed) state'

variable {world : World mist} {contract : StoreContract world}

/-- This operation on a record that the store holds shows it, approves it or starts to apply it as
a create. -/
def Touches (keyed : KeyedStore contract) (call : ToolCall) (state : world.State)
    (record : ChangeSetRecord) : Op → Prop
  | .changeSet _ device => (∃ args, call = .getChangeSet args) ∧ record.device = device
  | .approveChangeSet _ device approver digest actor => record.device = device ∧
      record.state = .planned ∧ actor = .human ∧ approver ≠ record.owner ∧
      digest = record.digest ∧ keyed.approvable state record
  | .claimChangeSetForApply _ device _ => record.device = device ∧ record.state = .approved ∧
      record.expectedCandidateFingerprint = "create" ∧ keyed.claimable state record
  | _ => False

/-- The change set that an operation names. -/
def namedChangeSet : Op → Option String
  | .changeSet id _ | .approveChangeSet id _ _ _ _ | .claimChangeSetForApply id _ _ => some id
  | _ => none

/-- When an operation is about to touch a record of the store, its caller is one that the
organization of the record admits. -/
def StepWithin (keyed : KeyedStore contract) (calls : ι → ToolCall)
    (callers : ι → Option CallerCtx) (state : world.State) (thread : ι) (op : Op) : Prop :=
  ∀ caller id record body orgId, callers thread = some caller → namedChangeSet op = some id →
    contract.find state id = some record → Touches keyed (calls thread) state record op →
      readPreview record = .ok (body, orgId) → Admits caller orgId

/-- No caller that an organization does not admit is shown, approves or claims a change set that
was planned for it. -/
structure OrgIsolated (calls : ι → ToolCall) (callers : ι → Option CallerCtx)
    (trace : Trace ι mist) : Prop where
  shown : ∀ thread args id device record after orgId caller, calls thread = .getChangeSet args →
    callers thread = some caller → (thread, ⟨.changeSet id device, .ok record⟩) ∈ trace →
      readPreview record = .ok (after, orgId) → Admits caller orgId
  approved : ∀ thread id device approver digest actor output orgId planned caller,
    callers thread = some caller →
      (thread, ⟨.approveChangeSet id device approver digest actor, .ok output⟩) ∈ trace →
        PlannedFor calls trace id orgId planned → Admits caller orgId
  applied : ∀ thread id device handle claimed after orgId caller, callers thread = some caller →
    (thread, ⟨.claimChangeSetForApply id device handle, .ok claimed⟩) ∈ trace →
      readPreview claimed = .ok (after, orgId) → Admits caller orgId

theorem OrgIsolated.nil (calls : ι → ToolCall) (callers : ι → Option CallerCtx) :
    OrgIsolated calls callers [] where
  shown _ _ _ _ _ _ _ _ _ _ member := absurd member List.not_mem_nil
  approved _ _ _ _ _ _ _ _ _ _ _ member := absurd member List.not_mem_nil
  applied _ _ _ _ _ _ _ _ _ member := absurd member List.not_mem_nil

variable [DecidableEq ι] {handler : MistHandler} {calls : ι → ToolCall}
  {callers : ι → Option CallerCtx} {initial state : world.State}
  {trace before after : Trace ι mist} {pool : ι → MistProgram ToolOutcome} {thread : ι}

/-- The store keeps its invariant and what has been inserted in every interleaving. -/
theorem store_keeps (contract : StoreContract world)
    (absent : ∀ id, contract.find initial id = none)
    (run : Interleaved world (fun thread => (calls thread).program handler (callers thread)) initial
      trace pool state) : KeepsInserted (contract.find state) trace := by
  let keeps (trace : Trace ι mist) (state : world.State) : Prop :=
    StoreInvariant handler calls callers (contract.find state) trace ∧
      KeepsInserted (contract.find state) trace
  have kept : ∀ trace state state' thread (op : Op) (answer : op.Answer), keeps trace state →
      CallStep handler (calls thread) (callers thread) (Trace.ofThread trace thread) op →
        world.Step state op answer state' → keeps (trace ++ [(thread, ⟨op, answer⟩)]) state' := by
    intro trace state state' thread op answer ⟨holds, inserted⟩ step answered
    exact ⟨holds.step contract step answered, inserted.step contract holds step answered⟩
  have base : keeps [] initial := ⟨.empty absent, nofun⟩
  exact (run.invariant (fun thread => (calls thread).program_steps handler (callers thread)) base
    kept).2

omit [DecidableEq ι] in
/-- An inserted record is planned for the organization that its preview names. -/
theorem InsertedAs.plannedFor {record : ChangeSetRecord} {after : Json} {orgId : String}
    (inserted : InsertedAs handler calls callers trace record)
    (preview : readPreview record = .ok (after, orgId)) :
    ∃ planned, PlannedFor calls trace record.id orgId planned ∧ SameStaged planned record := by
  obtain ⟨planner, args, past, base, planned, call, member, staged, same⟩ := inserted
  rw [(staged.staged.transfer same).readPreview] at preview
  exact ⟨planned, ⟨planner, args, call, (Prod.mk.inj (Except.ok.inj preview)).2, member, same.id⟩,
    same⟩

omit [DecidableEq ι] in
theorem InsertedAs.preview {record : ChangeSetRecord}
    (inserted : InsertedAs handler calls callers trace record) :
    ∃ body orgId, readPreview record = .ok (body, orgId) := by
  obtain ⟨_, _, _, _, _, _, _, staged, same⟩ := inserted
  exact ⟨_, _, (staged.staged.transfer same).readPreview⟩

omit [ServerPlatform] [DecidableEq ι] in
theorem PlannedFor.append {id orgId : String} {planned : ChangeSetRecord}
    (plan : PlannedFor calls trace id orgId planned) (more : Trace ι mist) :
    PlannedFor calls (trace ++ more) id orgId planned := by
  obtain ⟨thread, args, call, org, member, named⟩ := plan
  exact ⟨thread, args, call, org, List.mem_append_left more member, named⟩

theorem readPreview_same {first second : ChangeSetRecord} (same : SameStaged first second) :
    readPreview first = readPreview second := by
  unfold readPreview
  rw [same.preview]

/-- The preview of a planned change set names the organization of its plan. -/
theorem PlannedFor.preview
    (run : Interleaved world (fun thread => (calls thread).program handler (callers thread)) initial
      trace pool state) {id orgId : String} {planned : ChangeSetRecord}
    (plan : PlannedFor calls trace id orgId planned) :
    ∃ after, readPreview planned = .ok (after, orgId) := by
  obtain ⟨thread, args, call, rfl, member, _⟩ := plan
  obtain ⟨before, after, rfl⟩ := List.append_of_mem member
  have step := run.guard_at_entry
    (fun thread => (calls thread).program_steps handler (callers thread))
  obtain ⟨args', base, call', inserted⟩ := step
  obtain rfl := ToolCall.plan.inj (call.symm.trans call')
  exact ⟨_, inserted.staged.readPreview⟩

section Runs

variable (contract) (absent : ∀ id, contract.find initial id = none)
  (run : Interleaved world (fun thread => (calls thread).program handler (callers thread)) initial
    trace pool state)

include contract absent run

/-- All records with one identifier name the same organization. -/
theorem PlannedFor.same_org {id orgId : String} {planned record : ChangeSetRecord} {body : Json}
    {orgId' : String} (plan : PlannedFor calls trace id orgId planned)
    (inserted : InsertedAs handler calls callers trace record) (named : record.id = id)
    (preview : readPreview record = .ok (body, orgId')) : orgId = orgId' := by
  have keeps := store_keeps contract absent run
  obtain ⟨stored, found, same⟩ := inserted.kept keeps
  obtain ⟨after, own⟩ := plan.preview run
  obtain ⟨thread, args, _, _, member, sameId⟩ := plan
  obtain ⟨stored', found', same'⟩ := keeps thread planned member
  rw [sameId, ← named, found] at found'
  obtain rfl := Option.some.inj found'
  rw [readPreview_same (same'.trans same.symm), preview] at own
  exact (Prod.mk.inj (Except.ok.inj own)).2.symm

end Runs

section Steps

variable (contract) (absent : ∀ id, contract.find initial id = none)

include contract absent

/-- What is approved was planned before. -/
theorem approved_planned {id device approver digest : String} {actor : ActorType}
    {output : ApproveOutput}
    (run : Interleaved world (fun thread => (calls thread).program handler (callers thread)) initial
      (before ++ (thread, ⟨.approveChangeSet id device approver digest actor, .ok output⟩) :: after)
      pool state) {orgId : String} {planned : ChangeSetRecord}
    (plan : PlannedFor calls (before ++ (thread,
      ⟨.approveChangeSet id device approver digest actor, .ok output⟩) :: after) id orgId planned) :
    ∃ planned, PlannedFor calls before id orgId planned := by
  obtain ⟨_, earlier, later, _, run', _, answered⟩ := run.at_entry
  obtain ⟨record, _, found, _⟩ :=
    contract.approve_ok earlier id device approver digest actor output later answered
  have inserted := (store_invariant contract absent run').stored id record found
  have named := contract.find_id earlier id record found
  obtain ⟨planner, args, past, base, first, call, member, staged, same⟩ := inserted
  have preview := (staged.staged.transfer same).readPreview
  have whole : InsertedAs handler calls callers (before ++ (thread,
      ⟨.approveChangeSet id device approver digest actor, .ok output⟩) :: after) record :=
    .append ⟨planner, args, past, base, first, call, member, staged, same⟩ _
  rw [plan.same_org contract absent run whole named preview]
  exact ⟨first, planner, args, call, rfl, member, same.id.trans named⟩

/-- A record is claimed as a create or by a caller that has read its object. -/
theorem claimed_as_create (reads : ReadsOfOrgs handler.catalog) {id device orgId : String}
    {handle : ApplyHandle} {next : Except CoordinatorError ChangeSetRecord → MistProgram ToolOutcome}
    {record : ChangeSetRecord} {body : Json} {caller : CallerCtx}
    (run : Interleaved world (fun thread => (calls thread).program handler (callers thread)) initial
      trace pool state)
    (waiting : pool thread = .perform (S := mist) (.claimChangeSetForApply id device handle) next)
    (own : callers thread = some caller) (found : contract.find state id = some record)
    (preview : readPreview record = .ok (body, orgId)) :
    record.expectedCandidateFingerprint = "create" ∨ Admits caller orgId := by
  obtain ⟨args, work, call, made⟩ :=
    run.guard_waiting thread ((calls thread).program_claims handler (callers thread)) waiting
  have invariant := store_invariant contract absent run
  have fetched := invariant.fetched thread _ _ work.record (Trace.mem_ofThread.mp made.fetched)
  obtain ⟨stored, found', same⟩ := fetched.2.1.kept (store_keeps contract absent run)
  rw [← made.named, found] at found'
  obtain rfl := Option.some.inj found'
  obtain ⟨_, sameCaller, _, workPreview, create, _⟩ := prepareWork_ok made.prepared
  rw [readPreview_same same, preview] at workPreview
  obtain ⟨_, sameOrg⟩ := Prod.mk.inj (Except.ok.inj workPreview)
  cases kind : work.isCreate with
  | true =>
      left
      rw [← same.fingerprint]
      exact create.mp kind
  | false =>
      right
      obtain ⟨target, admitted⟩ := made.admitted kind
      rw [sameCaller, own, ← sameOrg] at admitted
      exact admits_of_admitRead reads admitted

end Steps

omit [DecidableEq ι] in
/-- A tool call that shows a change set hands out both sides of its plan. -/
theorem getMistChangeSet_shows {record : ChangeSetRecord} {owner : String} {object : WanObject}
    {objectId : Option String} {orgId : String} {base after : Json}
    (staged : StagedAs record owner object objectId orgId base after) (args : ChangeSetArgs) :
    Completes (getMistChangeSet args)
      [⟨.changeSet args.changeSetId (objectKey args.object args.objectId), .ok record⟩]
      (toolResult (.ok (getResponse record (redactJsonValue base) (redactJsonValue after)))) := by
  obtain ⟨preview, stored, artifact⟩ := staged.preview
  have parsed := Platform.fromStr_toString _
    (previewDocument_wellFormed orgId staged.beforeFormed staged.afterFormed)
  unfold getMistChangeSet
  apply completes_ask_cons_iff.mpr
  dsimp only
  rw [stored]
  dsimp only
  rw [artifact, parsed]
  exact .start _

section Exactness

variable (keyed : KeyedStore contract) (absent : ∀ id, contract.find initial id = none)
  (reads : ReadsOfOrgs handler.catalog) {op : Op} {next : op.Answer → MistProgram ToolOutcome}
  (run : Interleaved world (fun thread => (calls thread).program handler (callers thread)) initial
    trace pool state)
  (waiting : pool thread = .perform (S := mist) op next)

include keyed absent run waiting

include reads in
/-- A step within its organization keeps the change sets isolated whatever the store answers. -/
theorem step_isolates (within : StepWithin keyed calls callers state thread op)
    (isolated : OrgIsolated calls callers trace) {answer : op.Answer} {state' : world.State}
    (answered : world.Step state op answer state') :
    OrgIsolated calls callers (trace ++ [(thread, ⟨op, answer⟩)]) := by
  have whole := run.step waiting answered
  constructor
  · intro thread' args id device record body orgId caller call own member preview
    rcases List.mem_append.mp member with early | late
    · exact isolated.shown thread' args id device record body orgId caller call own early preview
    · cases List.mem_singleton.mp late
      exact within caller id record body orgId own rfl
        (contract.fetch_ok state id device record state' answered)
        ⟨⟨args, call⟩, keyed.fetch_key state id device record state' answered⟩ preview
  · intro thread' id device approver digest actor output orgId planned caller own member plan
    rcases List.mem_append.mp member with early | late
    · obtain ⟨before, after, rfl⟩ := List.append_of_mem early
      rw [List.append_assoc, List.cons_append] at whole plan
      obtain ⟨first, earlier⟩ := approved_planned contract absent whole plan
      exact isolated.approved thread' id device approver digest actor output orgId first caller own
        early (earlier.append _)
    · cases List.mem_singleton.mp late
      obtain ⟨record, _, found, waits, ⟨human, other, echoed⟩, _⟩ :=
        contract.approve_ok state id device approver digest actor output state' answered
      obtain ⟨sameKey, approvable⟩ := keyed.approve_key state id device approver digest actor output
        state' record answered found
      have inserted := (store_invariant contract absent run).stored id record found
      obtain ⟨body, orgId', preview⟩ := inserted.preview
      rw [plan.same_org contract absent whole (inserted.append _)
        (contract.find_id state id record found) preview]
      exact within caller id record body orgId' own rfl found
        ⟨sameKey, waits, human, other, echoed, approvable⟩ preview
  · intro thread' id device handle claimed body orgId caller own member preview
    rcases List.mem_append.mp member with early | late
    · exact isolated.applied thread' id device handle claimed body orgId caller own early preview
    · cases List.mem_singleton.mp late
      obtain ⟨record, found, approved, same, _, _⟩ :=
        contract.claim_ok state id device handle claimed state' answered
      obtain ⟨sameKey, claimable⟩ := keyed.claim_key state id device handle claimed state' record
        answered found
      rw [← readPreview_same same] at preview
      rcases claimed_as_create contract absent reads run waiting own found preview with
        create | admits
      · exact within caller id record body orgId own rfl found
          ⟨sameKey, approved, create, claimable⟩ preview
      · exact admits

/-- The store is able to answer a step that is not within its organization, and then the change
sets are not isolated. -/
theorem step_breaks (beyond : ¬StepWithin keyed calls callers state thread op) :
    ∃ answer state', world.Step state op answer state' ∧
      ¬OrgIsolated calls callers (trace ++ [(thread, ⟨op, answer⟩)]) := by
  unfold StepWithin at beyond
  push Not at beyond
  obtain ⟨caller, id, record, body, orgId, own, named, found, touches, preview, refused⟩ := beyond
  cases op with
  | changeSet id' device =>
      obtain ⟨⟨args, call⟩, rfl⟩ := touches
      obtain rfl := Option.some.inj named
      obtain ⟨state', answered⟩ := keyed.fetches state id' record found
      refine ⟨.ok record, state', answered, fun isolated => refused ?_⟩
      exact isolated.shown thread args id' record.device record body orgId caller call own (by simp)
        preview
  | approveChangeSet id' device approver digest actor =>
      obtain ⟨rfl, waits, rfl, other, rfl, approvable⟩ := touches
      obtain rfl := Option.some.inj named
      obtain ⟨output, state', answered⟩ :=
        keyed.approves state id' record approver found waits other approvable
      obtain ⟨planned, plan, _⟩ :=
        ((store_invariant contract absent run).stored id' record found).plannedFor preview
      rw [contract.find_id state id' record found] at plan
      refine ⟨.ok output, state', answered, fun isolated => refused ?_⟩
      exact isolated.approved thread id' record.device approver record.digest .human output orgId
        planned caller own (by simp) (plan.append _)
  | claimChangeSetForApply id' device handle =>
      obtain ⟨rfl, approved, _, claimable⟩ := touches
      obtain rfl := Option.some.inj named
      obtain ⟨claimed, state', answered⟩ :=
        keyed.claims state id' record handle found approved claimable
      obtain ⟨record', found', _, same, _, _⟩ :=
        contract.claim_ok state id' record.device handle claimed state' answered
      rw [found] at found'
      obtain rfl := Option.some.inj found'
      rw [readPreview_same same] at preview
      refine ⟨.ok claimed, state', answered, fun isolated => refused ?_⟩
      exact isolated.applied thread id' record.device handle claimed body orgId caller own (by simp)
        preview
  | _ => exact touches.elim

end Exactness

end Isolation

end RustMist

namespace RustMist.Network

open Effects Effects.Program

section Reach

/-- The scope of this caller holds one organization, and it may only call one tool. -/
def scopedCaller (tool orgId : String) (grant : Option MistGrant) : CallerCtx where
  tokenName := tool
  requestId := "request"
  actorType := .human
  devices := .allowlist ["org/" ++ orgId]
  tools := .allowlist [tool]
  grant := grant

def planner : CallerCtx := scopedCaller "plan_mist_change" orgId none

/-- The scope and the grant of this caller hold another organization. -/
def outsider : CallerCtx :=
  scopedCaller "get_mist_change_set" otherOrgId
    (some ⟨["getOrgNetwork"], [.ordinaryRead], [⟨.org, otherOrgId, by decide +kernel⟩]⟩)

def insider : CallerCtx := scopedCaller "get_mist_change_set" orgId none

/-- One thread plans a network and another looks at the change set. -/
def inspectionCalls : Bool → ToolCall
  | false => .plan (creationPlan orgId)
  | true => .getChangeSet ⟨Hex.encode identifier.bytes, .network, none⟩

def inspectionCallers (inspector : CallerCtx) : Bool → Option CallerCtx
  | false => some planner
  | true => some inspector

def scopedDigest : String :=
  Reference.planDigest (principal (some planner)) (objectKey .network none)
    (candidateFingerprint .null) [planAction .network (mergePatch .null network)]

def scopedCreation : ChangeSetRecord :=
  insertedRecord (creationPlan orgId) (principal (some planner)) .null identifier 0 scopedDigest

def scopedPlanEvents : MistHistory :=
  stagingEvents (creationPlan orgId) (principal (some planner)) .null identifier 0 scopedDigest ++
    [⟨.proposal (Hex.encode identifier.bytes) (Hex.encode identifier.bytes)
        (objectKey .network none) (principal (some planner)) scopedDigest, ()⟩,
      ⟨.waiveApproval (Hex.encode identifier.bytes) (objectKey .network none)
        (principal (some planner)) scopedDigest, .ok ()⟩]

/-- The change set as the inspection finds it. -/
def shownCreation : ChangeSetRecord := approvedRecord scopedCreation

def inspectionEvents : MistHistory :=
  [⟨.changeSet (Hex.encode identifier.bytes) (objectKey .network none), .ok shownCreation⟩]

def inspectionTrace : Trace Bool mist :=
  scopedPlanEvents.map (fun event => (false, event)) ++
    inspectionEvents.map fun event => (true, event)

def scopedShelf : Shelf := (Shelf.empty.put scopedCreation).put shownCreation

theorem scopedPlan_runs : ∃ rest,
    Run (planMistChange handler (creationPlan orgId) (some planner)) scopedPlanEvents rest := by
  have authority : rejectConfigAuthority (creationPlan orgId).patch.val = .ok () := by
    change rejectConfigAuthority network = .ok ()
    decide +kernel
  have placeholder : rejectRedactionPlaceholder (creationPlan orgId).patch.val = .ok () := by
    change rejectRedactionPlaceholder network = .ok ()
    decide +kernel
  rw [planMistChange_create authority placeholder orgId_allowed rfl]
  exact ⟨_, (stageChange_reaches identifier 0 rfl).trans (.answered (.answered (.start _)))⟩

theorem scopedCreation_staged : ∃ base, StagedAs scopedCreation (principal (some planner)) .network
    none orgId base (mergePatch base network) ∧ base = .null := by
  obtain ⟨rest, run⟩ := scopedPlan_runs
  have events : scopedPlanEvents =
      [⟨.random, .ok identifier⟩, ⟨.systemTime, .ok 0⟩] ++
        ⟨.insertChangeSet scopedCreation, .ok ()⟩ :: scopedPlanEvents.drop 3 := rfl
  rw [events] at run
  obtain ⟨base, inserted⟩ := planMistChange_inserts.event run
  exact ⟨base, inserted.staged, inserted.create rfl⟩

theorem scopedPlan_answered :
    Shelf.world.Answers Shelf.empty scopedPlanEvents scopedShelf := by
  refine .cons rfl (.cons rfl (.cons ⟨rfl, rfl⟩ (.cons rfl (.cons ?_ (.nil _)))))
  exact ⟨scopedCreation, Shelf.find_put Shelf.empty scopedCreation, rfl, rfl⟩

theorem inspection_answered :
    Shelf.world.Answers scopedShelf inspectionEvents scopedShelf := by
  have stored : scopedShelf.find scopedCreation.id = some shownCreation := Shelf.find_put _ _
  exact .cons ⟨stored, rfl, rfl⟩ (.nil _)

/-- The result of that inspection. -/
def shownResult : CallToolResult :=
  toolResult (.ok (getResponse shownCreation (redactJsonValue .null)
    (redactJsonValue (mergePatch .null network))))

/-- The threads of the inspection. -/
def inspection (inspector : CallerCtx) (thread : Bool) : MistProgram ToolOutcome :=
  (inspectionCalls thread).program handler (inspectionCallers inspector thread)

/-- What the inspection finds is planned first. -/
theorem inspection_planned (inspector : CallerCtx) : ∃ pool,
    Interleaved Shelf.world (inspection inspector) Shelf.empty
      (scopedPlanEvents.map fun event => (false, event)) pool scopedShelf ∧
    pool true = inspection inspector true := by
  obtain ⟨rest, run⟩ := scopedPlan_runs
  have plan : Run (inspection inspector false) scopedPlanEvents (succeed rest) :=
    (run_bind_iff _ _ _ _).mpr (.inl ⟨rest, run, rfl⟩)
  have unstarted : Interleaved Shelf.world (inspection inspector) Shelf.empty []
      (inspection inspector) Shelf.empty := .start
  obtain ⟨pool, planned, _, others⟩ := unstarted.extend plan scopedPlan_answered
  exact ⟨pool, planned, others true nofun⟩

/-- The inspection hands out both sides of the plan whoever makes it. -/
theorem inspection_shows (inspector : CallerCtx) : ∃ pool, Interleaved Shelf.world
    (inspection inspector) Shelf.empty inspectionTrace pool scopedShelf ∧
    pool true = .pure (.ok shownResult) := by
  obtain ⟨pool, planned, waiting⟩ := inspection_planned inspector
  obtain ⟨base, staged, rfl⟩ := scopedCreation_staged
  have shown : StagedAs shownCreation _ .network none orgId .null (mergePatch .null network) :=
    staged.transfer ⟨rfl, rfl, rfl, rfl, rfl, rfl, rfl⟩
  have look : Run (inspection inspector true) (inspectionEvents ++ []) (.pure (.ok shownResult)) :=
    Run.bind (getMistChangeSet_shows shown ⟨Hex.encode identifier.bytes, .network, none⟩) (.start _)
  rw [List.append_nil, ← waiting] at look
  obtain ⟨pool', inspected, last, _⟩ := planned.extend look inspection_answered
  exact ⟨pool', inspected, last⟩

/-- The call of the inspection as it arrives on the transport. -/
def inspectionMessage : Json :=
  .object [("method", .string "tools/call"), ("params", .object [
    ("name", .string "get_mist_change_set"), ("arguments", .object [
      ("change_set_id", .string (Hex.encode identifier.bytes)), ("object", .string "network")])])]

def inspectionBody : ByteArray := (serdeToString inspectionMessage).toUTF8

theorem outsider_unscoped : outsider.devices.allows ("org/" ++ orgId) = false := by
  decide +kernel

/-- What the outsider is shown belongs to an organization that does not admit it. -/
theorem outsider_not_isolated :
    ¬OrgIsolated inspectionCalls (inspectionCallers outsider) inspectionTrace := by
  intro isolated
  obtain ⟨base, staged, rfl⟩ := scopedCreation_staged
  have same : SameStaged scopedCreation shownCreation := ⟨rfl, rfl, rfl, rfl, rfl, rfl, rfl⟩
  have shown := (staged.transfer same).readPreview
  have admits := isolated.shown true _ (Hex.encode identifier.bytes) (objectKey .network none)
    shownCreation _ orgId outsider rfl rfl (by simp [inspectionTrace, inspectionEvents]) shown
  have unscoped := outsider_unscoped
  rw [admits.1] at unscoped
  cases unscoped

/-- The operations of a padded catalog are the given ones and the fillers. -/
theorem reads_of_padded {special : List MistOperation} (paddable : Paddable special)
    (orgs : ∀ original ∈ special, original.targetSelectors = [.org]) :
    ReadsOfOrgs (paddedCatalog special) := by
  intro object verb operation found
  obtain ⟨member, named⟩ := paddable.find_iff.mp found
  rcases mem_paddedOperations.mp member with ⟨index, _, rfl⟩ | ⟨original, listed, rfl⟩
  · have apart : (writeTarget object verb).readOperationId.toList.any (· ≠ 'a') = true := by
      cases object <;> cases verb <;> decide
    exact absurd named (fillerId_ne apart index)
  · exact orgs original listed

theorem readsOfOrgs_handler : ReadsOfOrgs handler.catalog :=
  reads_of_padded paddable_networkOperations (by simp [networkOperations, getOrgNetwork,
    createOrgNetwork, updateOrgNetwork])

theorem admits_orgId (tool : String) : Admits (scopedCaller tool orgId none) orgId := by
  refine ⟨?_, nofun⟩
  change decide ("org/" ++ orgId ∈ ["org/" ++ orgId]) = true
  simp

/-- The shelf answers whatever is under the right key. -/
def keyedShelf : KeyedStore Shelf.contract where
  approvable _ _ := True
  claimable _ _ := True
  fetch_key := by
    rintro shelf id device record shelf' ⟨_, same, _⟩
    exact same
  fetches shelf id record found := ⟨shelf, found, rfl, rfl⟩
  approve_key := by
    rintro shelf id device approver digest actor output shelf' record ⟨stored, own, same, _⟩ found
    obtain rfl := Option.some.inj (own.symm.trans found)
    exact ⟨same, trivial⟩
  approves shelf id record approver found waits other _ :=
    ⟨⟨id⟩, _, record, found, rfl, waits, rfl, other, rfl, rfl⟩
  claim_key := by
    rintro shelf id device handle claimed shelf' record ⟨stored, own, same, _⟩ found
    obtain rfl := Option.some.inj (own.symm.trans found)
    exact ⟨same, trivial⟩
  claims shelf id record handle found approved _ :=
    ⟨_, _, record, found, rfl, approved, rfl, rfl⟩

/-- Every record of the inspection is one of the organization. -/
theorem inspection_org {inspector : CallerCtx} {trace : Trace Bool mist}
    {pool : Bool → MistProgram ToolOutcome} {shelf : Shelf} {id org : String}
    {record : ChangeSetRecord} {body : Json}
    (run : Interleaved Shelf.world (inspection inspector) Shelf.empty trace pool shelf)
    (found : shelf.find id = some record) (preview : readPreview record = .ok (body, org)) :
    org = orgId := by
  have inserted := (store_invariant Shelf.contract (fun _ => rfl) run).stored id record found
  obtain ⟨_, ⟨thread, args, call, rfl, _⟩, _⟩ := inserted.plannedFor preview
  cases thread with
  | false => rw [← ToolCall.plan.inj call]; rfl
  | true => cases call

theorem planning_isolated (inspector : CallerCtx) :
    OrgIsolated inspectionCalls (inspectionCallers inspector)
      (scopedPlanEvents.map fun event => (false, event)) := by
  constructor <;> intros <;> simp_all [scopedPlanEvents, stagingEvents]

end Reach

end RustMist.Network
