import RustMist.Proof.Plan.Digest

/-! When the keys of two staged changes agree with the objects that they change. -/

namespace RustMist

open Effects Effects.Program

section Subjects

/-- Two identifiers name one object when they are equal, or are UUIDs up to case. -/
def SameId (first second : String) : Prop :=
  first = second ∨ isCanonicalUuid first.toLower = true ∧ first.toLower = second.toLower

/-- Both plans update one object, or both create an object of one type. -/
def SameSubject (args args' : PlanChangeArgs) : Prop :=
  args.object = args'.object ∧
    match args.verb, args'.verb with
    | .create, .create => True
    | .update, .update => ∃ objectId objectId', args.objectId = some objectId ∧
        args'.objectId = some objectId' ∧ SameId objectId objectId'
    | _, _ => False

/-- Two creates give different identifiers, two updates spell one identifier in two ways, or an
update has the identifier that stands in the key of a create. -/
def Confused (args args' : PlanChangeArgs) : Prop :=
  args.object = args'.object ∧
    match args.verb, args'.verb with
    | .create, .create => args.objectId.getD "new" ≠ args'.objectId.getD "new"
    | .update, .update => ∃ objectId objectId', args.objectId = some objectId ∧
        args'.objectId = some objectId' ∧ SameId objectId objectId' ∧ objectId ≠ objectId'
    | _, _ => args.objectId.getD "new" = args'.objectId.getD "new"

end Subjects

section Keys

variable [ServerPlatform]

/-- The plan completes and the store has accepted its record. -/
def AcceptedAs (handler : MistHandler) (args : PlanChangeArgs) (caller : Option CallerCtx)
    (record : ChangeSetRecord) : Prop :=
  ∃ history result, Completes (planMistChange handler args caller) history result ∧
    ⟨.insertChangeSet record, .ok ()⟩ ∈ history

variable {handler handler' : MistHandler} {args args' : PlanChangeArgs}
  {caller caller' : Option CallerCtx} {record record' : ChangeSetRecord}

theorem AcceptedAs.inserted (accepted : AcceptedAs handler args caller record) :
    ∃ past base, PlanInserted handler args caller past base record := by
  obtain ⟨history, result, run, member⟩ := accepted
  obtain ⟨past, later, rfl⟩ := List.append_of_mem member
  obtain ⟨base, inserted⟩ := planMistChange_inserts.event run
  exact ⟨past, base, inserted⟩

theorem AcceptedAs.device (accepted : AcceptedAs handler args caller record) :
    record.device = objectKey args.object args.objectId := by
  obtain ⟨_, _, inserted⟩ := accepted.inserted
  exact inserted.staged.device

/-- An accepted update names its object. -/
theorem AcceptedAs.objectId (accepted : AcceptedAs handler args caller record)
    (update : args.verb = .update) : ∃ objectId, args.objectId = some objectId := by
  obtain ⟨_, _, inserted⟩ := accepted.inserted
  obtain ⟨objectId, _, _, _, supplied, _⟩ := inserted.update update
  exact ⟨objectId, supplied⟩

/-- The keys of two accepted plans are equal exactly when the plans have one subject, unless the
identifiers are confused. -/
theorem keys_tell_subjects_iff (handler handler' : MistHandler) (args args' : PlanChangeArgs)
    (caller caller' : Option CallerCtx) (record record' : ChangeSetRecord)
    (accepted : AcceptedAs handler args caller record)
    (accepted' : AcceptedAs handler' args' caller' record') :
    (record.device = record'.device ↔ SameSubject args args') ↔ ¬Confused args args' := by
  rw [accepted.device, accepted'.device, objectKey_eq_iff, SameSubject, Confused]
  by_cases same : args.object = args'.object
  · simp only [same, true_and]
    cases verb : args.verb with
    | create =>
        cases verb' : args'.verb with
        | create => simp
        | update => simp
    | update =>
        obtain ⟨objectId, supplied⟩ := accepted.objectId verb
        cases verb' : args'.verb with
        | create => simp
        | update =>
            obtain ⟨objectId', supplied'⟩ := accepted'.objectId verb'
            simp only [supplied, supplied', Option.getD_some, Option.some.injEq,
              exists_and_left, exists_eq_left']
            constructor
            · rintro meets ⟨named, different⟩
              exact different (meets.mpr named)
            · intro told
              constructor
              · exact fun equal => .inl equal
              · intro named
                by_contra different
                exact told ⟨named, different⟩
  · simp [same]

end Keys

end RustMist

namespace RustMist.Network

open Effects Effects.Program

/-- A plan that creates a network and may carry an identifier. -/
def keyedPlan (objectId : Option String) : PlanChangeArgs :=
  { creationPlan orgId with objectId := objectId }

def keyedDigest (objectId : Option String) : String :=
  Reference.planDigest (principal none) (objectKey .network objectId) (candidateFingerprint .null)
    [planAction .network (mergePatch .null network)]

def keyedRecord (objectId : Option String) : ChangeSetRecord :=
  insertedRecord (keyedPlan objectId) (principal none) .null identifier 0 (keyedDigest objectId)

def keyedEvents (objectId : Option String) : MistHistory :=
  stagingEvents (keyedPlan objectId) (principal none) .null identifier 0 (keyedDigest objectId) ++
    [⟨.proposal (Hex.encode identifier.bytes) (Hex.encode identifier.bytes)
        (objectKey .network objectId) (principal none) (keyedDigest objectId), ()⟩,
      ⟨.waiveApproval (Hex.encode identifier.bytes) (objectKey .network objectId) (principal none)
        (keyedDigest objectId), .ok ()⟩]

def keyedResult (objectId : Option String) : CallToolResult :=
  toolResult (.ok (planResponse (stagedPlan (keyedPlan objectId) .null identifier
    (keyedDigest objectId)) .null))

/-- The store accepts each of these plans. -/
theorem keyedPlan_accepted (objectId : Option String) :
    AcceptedAs handler (keyedPlan objectId) none (keyedRecord objectId) := by
  have authority : rejectConfigAuthority (keyedPlan objectId).patch.val = .ok () := by
    change rejectConfigAuthority network = .ok ()
    decide
  have placeholder : rejectRedactionPlaceholder (keyedPlan objectId).patch.val = .ok () := by
    change rejectRedactionPlaceholder network = .ok ()
    decide
  have digested : changeSetDigest (principal none) (objectKey .network objectId)
      (candidateFingerprint .null) [planAction .network (mergePatch .null network)] =
        .ok (keyedDigest objectId) := rfl
  have planned : planMistChange handler (keyedPlan objectId) none =
      stageChange handler (keyedPlan objectId) (principal none) .null :=
    planMistChange_create authority placeholder orgId_allowed rfl
  have staged : Run (stageChange handler (keyedPlan objectId) (principal none) .null) _ _ :=
    stageChange_reaches identifier 0 digested
  have member : ⟨.insertChangeSet (keyedRecord objectId), .ok ()⟩ ∈
      stagingEvents (keyedPlan objectId) (principal none) .null identifier 0
        (keyedDigest objectId) :=
    List.mem_cons_of_mem _ (List.mem_cons_of_mem _ List.mem_cons_self)
  refine ⟨keyedEvents objectId, keyedResult objectId, ?_, List.mem_append_left _ member⟩
  rw [planned]
  exact staged.trans (.answered (.answered (.start _)))

/-- Two creates of one type have two keys when one of them carries an identifier. -/
theorem creates_have_two_keys :
    AcceptedAs handler (keyedPlan none) none (keyedRecord none) ∧
      AcceptedAs handler (keyedPlan (some networkId)) none (keyedRecord (some networkId)) ∧
      SameSubject (keyedPlan none) (keyedPlan (some networkId)) ∧
      (keyedRecord none).device ≠ (keyedRecord (some networkId)).device := by
  refine ⟨keyedPlan_accepted none, keyedPlan_accepted (some networkId), ⟨rfl, trivial⟩, ?_⟩
  change objectKey .network none ≠ objectKey .network (some networkId)
  rw [ne_eq, objectKey_eq_iff]
  decide

/-- These two creates are confused, so their keys do not tell their one subject. -/
theorem keys_tell_subjects_iff_creates :
    ¬((keyedRecord none).device = (keyedRecord (some networkId)).device ↔
        SameSubject (keyedPlan none) (keyedPlan (some networkId))) ∧
      ((keyedRecord (some "new")).device = (keyedRecord none).device ↔
        SameSubject (keyedPlan (some "new")) (keyedPlan none)) := by
  have differ : (none : Option String).getD "new" ≠ (some networkId).getD "new" := by decide
  have confused : Confused (keyedPlan none) (keyedPlan (some networkId)) := ⟨rfl, differ⟩
  have told : ¬Confused (keyedPlan (some "new")) (keyedPlan none) := fun both => both.2 rfl
  exact ⟨fun tells => (keys_tell_subjects_iff handler handler (keyedPlan none)
      (keyedPlan (some networkId)) none none _ _ (keyedPlan_accepted none)
      (keyedPlan_accepted (some networkId))).mp tells confused,
    (keys_tell_subjects_iff handler handler (keyedPlan (some "new")) (keyedPlan none) none none _ _
      (keyedPlan_accepted (some "new")) (keyedPlan_accepted none)).mpr told⟩

end RustMist.Network
