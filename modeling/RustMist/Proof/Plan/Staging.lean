import RustMist.Proof.Apply.Requests
import RustMist.Construction.Server.Reference
import RustMist.Proof.Apply.Write
import RustMist.Proof.Catalog.Reference

/-! What a plan has stored when it stages a change set. -/

namespace RustMist

open Effects Effects.Program

section Keys

theorem objectKey_eq (object : WanObject) (objectId : Option String) :
    objectKey object objectId = object.name ++ ("/" ++ objectId.getD "new") := by
  cases objectId with
  | none => simp [objectKey]
  | some id => simp [objectKey, String.ext_iff]

theorem slash_notMem_name (object : WanObject) : ∀ symbol ∈ object.name.toList, symbol ≠ '/' := by
  cases object <;> simp [WanObject.name]

theorem name_injective {first second : WanObject} (same : first.name = second.name) :
    first = second := by
  cases first <;> cases second <;> first | rfl | exact absurd same (by decide)

/-- The key of an object determines the type of the object and the identifier. -/
theorem objectKey_eq_iff {object object' : WanObject} {objectId objectId' : Option String} :
    objectKey object objectId = objectKey object' objectId' ↔
      object = object' ∧ objectId.getD "new" = objectId'.getD "new" := by
  constructor
  · intro same
    rw [objectKey_eq, objectKey_eq] at same
    have name (object : WanObject) (tail : String) :
        ((object.name ++ ("/" ++ tail)).toList.takeWhile fun symbol => symbol ≠ '/') =
          object.name.toList := by
      rw [String.toList_append, List.takeWhile_append_of_pos
        (by simpa using slash_notMem_name object)]
      simp
    have names : object.name = object'.name := by
      apply String.toList_injective
      rw [← name object (objectId.getD "new"), same, name]
    obtain rfl := name_injective names
    refine ⟨rfl, ?_⟩
    simpa [String.ext_iff] using same
  · rintro ⟨rfl, same⟩
    rw [objectKey_eq, objectKey_eq, same]

end Keys

section Records

/-- Two records agree on what is staged; an approval changes neither of these fields. -/
structure SameStaged (first second : ChangeSetRecord) : Prop where
  id : first.id = second.id
  owner : first.owner = second.owner
  device : first.device = second.device
  fingerprint : first.expectedCandidateFingerprint = second.expectedCandidateFingerprint
  actions : first.actions = second.actions
  digest : first.digest = second.digest
  preview : first.preview = second.preview

theorem SameStaged.refl (record : ChangeSetRecord) : SameStaged record record :=
  ⟨rfl, rfl, rfl, rfl, rfl, rfl, rfl⟩

theorem SameStaged.trans {first second third : ChangeSetRecord} (same : SameStaged first second)
    (same' : SameStaged second third) : SameStaged first third :=
  ⟨same.id.trans same'.id, same.owner.trans same'.owner, same.device.trans same'.device,
    same.fingerprint.trans same'.fingerprint, same.actions.trans same'.actions,
    same.digest.trans same'.digest, same.preview.trans same'.preview⟩

end Records

variable [ServerPlatform]

section Fingerprints

theorem stateFingerprint_ne_create (value : Json) : stateFingerprint value ≠ "create" := by
  intro same
  have first := congrArg (fun text : String => text.toList.head?) same
  simp [stateFingerprint] at first

/-- Only an absent object has the fingerprint of a create. -/
theorem candidateFingerprint_eq_create {before : Json} :
    candidateFingerprint before = "create" ↔ before.isNull = true := by
  unfold candidateFingerprint
  split
  · simp_all
  · rename_i present
    simp [stateFingerprint_ne_create, present]

end Fingerprints

/-- The staged part of a record is what an approval, a waiver and a claim keep. -/
structure StagedAs (record : ChangeSetRecord) (owner : String) (object : WanObject)
    (objectId : Option String) (orgId : String) (before after : Json) : Prop where
  owner : record.owner = owner
  device : record.device = objectKey object objectId
  fingerprint : record.expectedCandidateFingerprint = candidateFingerprint before
  actions : record.actions = [planAction object after]
  digest : changeSetDigest record.owner (objectKey object objectId) (candidateFingerprint before)
    [planAction object after] = .ok record.digest
  preview : ∃ preview, record.preview = some preview ∧
    preview.artifact = serdeToString (previewDocument before after orgId)
  beforeFormed : before.wellFormed = true
  afterFormed : after.wellFormed = true

section Transfer

variable {owner : String} {object : WanObject} {objectId : Option String} {orgId : String}
  {before after : Json} {record stored : ChangeSetRecord}

theorem StagedAs.transfer (staged : StagedAs record owner object objectId orgId before after)
    (same : SameStaged record stored) : StagedAs stored owner object objectId orgId before after where
  owner := same.owner ▸ staged.owner
  device := same.device ▸ staged.device
  fingerprint := same.fingerprint ▸ staged.fingerprint
  actions := same.actions ▸ staged.actions
  digest := same.owner ▸ same.digest ▸ staged.digest
  preview := same.preview ▸ staged.preview
  beforeFormed := staged.beforeFormed
  afterFormed := staged.afterFormed

end Transfer

section Preview

omit [ServerPlatform] in
theorem previewDocument_wellFormed {before after : Json} (orgId : String)
    (formed : before.wellFormed = true) (formed' : after.wellFormed = true) :
    (previewDocument before after orgId).wellFormed = true := by
  rw [previewDocument, Json.wellFormed_object_iff]
  simp [IndexMap.keys, formed, formed']

variable {record : ChangeSetRecord} {owner : String} {object : WanObject}
  {objectId : Option String} {orgId : String} {before after : Json}

/-- The staged body and the organization are read back from the preview. -/
theorem StagedAs.readPreview (staged : StagedAs record owner object objectId orgId before after) :
    readPreview record = .ok (after, orgId) := by
  obtain ⟨preview, stored, artifact⟩ := staged.preview
  have parsed := Platform.fromStr_toString _
    (previewDocument_wellFormed orgId staged.beforeFormed staged.afterFormed)
  unfold RustMist.readPreview
  rw [stored]
  simp only [artifact, parsed]
  rfl

theorem StagedAs.prepareWork_create
    (staged : StagedAs record owner object objectId orgId before after)
    (absent : before.isNull = true) (args : ChangeSetArgs) (caller : Option CallerCtx) :
    prepareWork args caller record = .ok ⟨args, caller, record, after, orgId, true, ""⟩ := by
  have fingerprint := staged.fingerprint.trans (candidateFingerprint_eq_create.mpr absent)
  unfold prepareWork
  simp only [staged.readPreview, fingerprint, if_true]

theorem StagedAs.prepareWork_update
    (staged : StagedAs record owner object objectId orgId before after)
    (present : before.isNull = false) {args : ChangeSetArgs} {identifier : String}
    (supplied : args.objectId = some identifier) (caller : Option CallerCtx) :
    prepareWork args caller record =
      .ok ⟨args, caller, record, after, orgId, false, identifier⟩ := by
  have fingerprint : record.expectedCandidateFingerprint ≠ "create" := by
    rw [staged.fingerprint, ne_eq, candidateFingerprint_eq_create, present]
    decide
  unfold prepareWork
  simp only [staged.readPreview, if_neg fingerprint, supplied]

/-- The staged part fixes the work of every apply. -/
theorem StagedAs.prepared (staged : StagedAs record owner object objectId orgId before after)
    {args : ChangeSetArgs} {caller : Option CallerCtx} {work : ApplyWork}
    (prepared : prepareWork args caller record = .ok work) :
    work.args = args ∧ work.caller = caller ∧ work.record = record ∧ work.after = after ∧
      work.orgId = orgId ∧ work.isCreate = before.isNull ∧
      (work.isCreate = false → args.objectId = some work.objectId) := by
  cases absent : before.isNull with
  | true =>
      rw [staged.prepareWork_create absent] at prepared
      obtain rfl := Except.ok.inj prepared
      exact ⟨rfl, rfl, rfl, rfl, rfl, rfl, nofun⟩
  | false =>
      obtain ⟨sameArgs, sameCaller, sameRecord, preview, create, supplied⟩ := prepareWork_ok prepared
      rw [staged.readPreview] at preview
      obtain ⟨sameAfter, sameOrg⟩ := Prod.mk.inj (Except.ok.inj preview)
      refine ⟨sameArgs, sameCaller, sameRecord, sameAfter.symm, sameOrg.symm, ?_, supplied⟩
      rw [Bool.eq_false_iff, ne_eq, create, staged.fingerprint, candidateFingerprint_eq_create,
        absent]
      decide

end Preview

section Planning

/-- This is what a plan has done when it hands its record to the store. -/
structure PlanInserted (handler : MistHandler) (args : PlanChangeArgs) (caller : Option CallerCtx)
    (past : MistHistory) (base : Json) (record : ChangeSetRecord) : Prop where
  allowed : args.orgId ∈ handler.allowedOrgs
  staged : StagedAs record (principal caller) args.object args.objectId args.orgId base
    (mergePatch base args.patch.val)
  planned : record.state = .planned
  create : args.verb = .create → base = .null
  update : args.verb = .update → ∃ objectId reads more result, args.objectId = some objectId ∧
    past = reads ++ more ∧
    Completes (dispatchCataloguedRead handler
      (objectRead "plan_mist_change" (writeTarget args.object .update) objectId args.orgId) caller)
      reads result ∧ result.isError ≠ some true ∧ readData result = .ok base

/-- A plan inserts what is allowed, waives in lab mode only and does nothing else to the store. -/
def PlanStep (handler : MistHandler) (allowed : MistHistory → ChangeSetRecord → Prop)
    (past : MistHistory) : Op → Prop
  | .insertChangeSet record => allowed past record
  | .waiveApproval _ _ _ _ => handler.labMode = true
  | .approveChangeSet _ _ _ _ _ | .claimChangeSetForApply _ _ _ | .updateChangeSet _ => False
  | _ => True

omit [ServerPlatform] in
theorem planStep_of_isReadOp {handler : MistHandler}
    {allowed : MistHistory → ChangeSetRecord → Prop} {past : MistHistory} {op : Op}
    (reading : IsReadOp op) : PlanStep handler allowed past op := by
  cases op <;> first | exact reading.elim | trivial

variable {handler : MistHandler} {args : PlanChangeArgs} {caller : Option CallerCtx}
  {allowed : MistHistory → ChangeSetRecord → Prop}

theorem waivePlan_inserts {owner : String} {staged : StagedPlan} {base : Json}
    (past : MistHistory) :
    (waivePlan handler args owner staged base).Ensures (PlanStep handler allowed) (fun _ _ => True)
      past := by
  unfold waivePlan
  split
  · rename_i lab
    refine ensures_ask_iff.mpr ⟨lab, fun waived => ?_⟩
    cases waived <;> trivial
  · trivial

/-- The staged part of the inserted record is the one of the arguments. -/
theorem stagePlan_inserts {owner : String} {object : WanObject} {objectId : Option String}
    {orgId : String} {base changed : Json} (formed : base.wellFormed = true)
    (formed' : changed.wellFormed = true) (past : MistHistory)
    (meets : ∀ more record, StagedAs record owner object objectId orgId base changed →
      record.state = .planned → allowed (past ++ more) record) :
    (stagePlan owner object objectId orgId base changed).Ensures (PlanStep handler allowed)
      (fun _ _ => True) past := by
  refine ensures_ask_iff.mpr ⟨trivial, fun random => ?_⟩
  cases random with
  | error reason => trivial
  | ok idBytes =>
      dsimp only
      split
      · trivial
      · rename_i planDigest digest
        refine ensures_ask_iff.mpr ⟨trivial, fun time => ?_⟩
        cases time with
        | error reason => trivial
        | ok now =>
            refine ensures_ask_iff.mpr ⟨?_, fun inserted => ?_⟩
            · change allowed _ _
              rw [List.append_assoc]
              exact meets _ _ ⟨rfl, rfl, rfl, rfl, digest, ⟨_, rfl, rfl⟩, formed, formed'⟩ rfl
            · cases inserted <;> trivial

theorem stageChange_inserts {owner : String} {base : Json} (formed : base.wellFormed = true)
    (past : MistHistory)
    (meets : ∀ more record, StagedAs record owner args.object args.objectId args.orgId base
      (mergePatch base args.patch.val) → record.state = .planned →
        allowed (past ++ more) record) :
    (stageChange handler args owner base).Ensures (PlanStep handler allowed) (fun _ _ => True) past := by
  have formed' := mergePatch_wellFormed formed args.patch.property
  refine (stagePlan_inserts formed formed' past meets).bind fun history result _ => ?_
  cases result with
  | error error => trivial
  | ok staged =>
      dsimp only
      split
      · exact ensures_ask_iff.mpr ⟨trivial, fun _ => waivePlan_inserts _⟩
      · exact waivePlan_inserts _

/-- A plan inserts only what its arguments and its own read stage. -/
theorem planMistChange_inserts :
    (planMistChange handler args caller).Ensures
      (PlanStep handler fun past record =>
        ∃ base, PlanInserted handler args caller past base record)
      (fun _ _ => True) [] := by
  unfold planMistChange
  dsimp only
  split
  · trivial
  · split
    · trivial
    · split
      · trivial
      · rename_i listed
        rw [not_not] at listed
        split
        · rename_i create
          refine stageChange_inserts rfl [] fun more record staged planned => ?_
          exact ⟨.null, listed, staged, planned, fun _ => rfl,
            fun update => absurd (create.symm.trans update) nofun⟩
        · rename_i update
          split
          · trivial
          · rename_i objectId supplied
            unfold planUpdate
            dsimp only
            have reading : (dispatchCataloguedRead handler (objectRead "plan_mist_change"
                (writeTarget args.object args.verb) objectId args.orgId) caller).Ensures
                (PlanStep handler fun past record => ∃ base,
                  PlanInserted handler args caller past base record) (fun _ _ => True) [] :=
              (dispatchCataloguedRead_readOps handler _ caller []).mono
                (fun _ _ reading => planStep_of_isReadOp reading) (fun _ _ => id)
            refine reading.completes.bind fun history result reached => ?_
            obtain ⟨_, own, same, done⟩ := reached
            split
            · trivial
            · rename_i returned
              split
              · trivial
              · rename_i base data
                refine stageChange_inserts (readData_wellFormed data) _
                  fun more record staged planned => ?_
                refine ⟨base, listed, staged, planned,
                  fun create => absurd (create.symm.trans update) nofun, fun _ => ?_⟩
                rw [update] at done
                exact ⟨objectId, own, more, result, supplied, by rw [same, List.nil_append], done,
                  returned, data⟩

end Planning

section Reaching

variable {handler : MistHandler} {args : PlanChangeArgs} {caller : Option CallerCtx}

/-- The record that a plan hands to the store. -/
def insertedRecord (args : PlanChangeArgs) (owner : String) (before : Json) (id : Bytes32)
    (now : UInt64) (digest : String) : ChangeSetRecord :=
  let after := mergePatch before args.patch.val
  plannedRecord (Hex.encode id.bytes) owner (objectKey args.object args.objectId)
    (candidateFingerprint before) digest (planAction args.object after) now
    (serdeToString (previewDocument before after args.orgId))

/-- The events of a staging that reaches the store. -/
def stagingEvents (args : PlanChangeArgs) (owner : String) (before : Json) (id : Bytes32)
    (now : UInt64) (digest : String) : MistHistory :=
  [⟨.random, .ok id⟩, ⟨.systemTime, .ok now⟩,
    ⟨.insertChangeSet (insertedRecord args owner before id now digest), .ok ()⟩]

/-- What such a staging returns. -/
def stagedPlan (args : PlanChangeArgs) (before : Json) (id : Bytes32) (digest : String) :
    StagedPlan :=
  let after := mergePatch before args.patch.val
  ⟨Hex.encode id.bytes, digest, previewDigest (serdeToString after), before, after⟩

section Events

variable {owner : String} {before : Json} (id : Bytes32) (now : UInt64) {digest : String}
  (digested : changeSetDigest owner (objectKey args.object args.objectId)
    (candidateFingerprint before)
    [planAction args.object (mergePatch before args.patch.val)] = .ok digest)

include digested

theorem stagePlan_completes :
    Completes (stagePlan owner args.object args.objectId args.orgId before
      (mergePatch before args.patch.val))
      (stagingEvents args owner before id now digest) (.ok (stagedPlan args before id digest)) := by
  unfold stagePlan
  apply completes_ask_cons_iff.mpr
  dsimp only
  rw [digested]
  apply completes_ask_cons_iff.mpr
  apply completes_ask_cons_iff.mpr
  exact .start _

/-- A staged change is announced where a recorder is configured, and then waived or returned. -/
theorem stageChange_reaches :
    Run (stageChange handler args owner before) (stagingEvents args owner before id now digest)
      (if handler.evidence then do
        perform (.proposal (Hex.encode id.bytes) (Hex.encode id.bytes)
          (objectKey args.object args.objectId) owner digest)
        waivePlan handler args owner (stagedPlan args before id digest) before
      else waivePlan handler args owner (stagedPlan args before id digest) before) := by
  unfold stageChange
  rw [← List.append_nil (stagingEvents args owner before id now digest)]
  exact Run.bind (stagePlan_completes id now digested) (.start _)

end Events

/-- The object that a plan has read is staged. -/
theorem planUpdate_reaches {owner objectId : String} {reads more : MistHistory}
    {result : CallToolResult} {before : Json} {rest : MistProgram CallToolResult}
    (done : Completes (dispatchCataloguedRead handler (objectRead "plan_mist_change"
      (writeTarget args.object args.verb) objectId args.orgId) caller) reads result)
    (returned : result.isError ≠ some true) (data : readData result = .ok before)
    (staging : Run (stageChange handler args owner before) more rest) :
    Run (planUpdate handler args caller owner objectId) (reads ++ more) rest := by
  unfold planUpdate
  apply Run.bind done
  rw [if_neg returned, data]
  exact staging

variable (authority : rejectConfigAuthority args.patch.val = .ok ())
  (placeholder : rejectRedactionPlaceholder args.patch.val = .ok ())
  (allowed : args.orgId ∈ handler.allowedOrgs)

include authority placeholder allowed

/-- A plan of a create goes straight to the staging. -/
theorem planMistChange_create (create : args.verb = .create) :
    planMistChange handler args caller = stageChange handler args (principal caller) .null := by
  unfold planMistChange
  rw [authority, placeholder, if_neg (by simp), if_neg (by simp), if_neg (not_not_intro allowed),
    create]

theorem planMistChange_update (update : args.verb = .update) {objectId : String}
    (supplied : args.objectId = some objectId) :
    planMistChange handler args caller =
      planUpdate handler args caller (principal caller) objectId := by
  unfold planMistChange
  rw [authority, placeholder, if_neg (by simp), if_neg (by simp), if_neg (not_not_intro allowed),
    update, supplied]

end Reaching

end RustMist

/-! Runs of the tools on one network of an accepted catalog. -/

namespace RustMist.Network

open Effects Effects.Program

section Handler

def orgId : String := "11111111-1111-1111-1111-111111111111"

def otherOrgId : String := "22222222-2222-2222-2222-222222222222"

def networkId : String := "33333333-3333-3333-3333-333333333333"

def origin : String := "https://api.mist.com/"

/-- The catalog of these runs is one that the loader accepts. -/
def catalog : Catalog := paddedCatalog networkOperations

theorem catalog_accepted :
    Catalog.fromJson (serdeToString (paddedDocument networkOperations).toJson) = .ok catalog :=
  paddable_networkOperations.fromJson

def handler : MistHandler where
  origin := origin
  allowedOrgs := [orgId, otherOrgId]
  catalog := catalog
  evidence := true
  labMode := true
  approvalTtlSecs := 3600

def target : MistTarget := ⟨.org, orgId, by decide⟩

theorem handler_operation {operation : MistOperation} (member : operation ∈ networkOperations) :
    handler.catalog.operation operation.operationId = some (sealed operation) := by
  have catalogued : handler.catalog = catalog := rfl
  rw [catalogued]
  exact paddable_networkOperations.operation member

theorem operation_get :
    handler.catalog.operation getOrgNetwork.operationId = some (sealed getOrgNetwork) :=
  handler_operation List.mem_cons_self

end Handler

section Reads

/-- The seal of an operation does not touch its parameters. -/
theorem validateParameters_sealed (request : MistRequest) (operation : MistOperation)
    (catalog : Catalog) : validateParameters request (sealed operation) catalog =
      validateParameters request operation catalog := by
  have same (location : ParameterLocation) : declaredParameters (sealed operation) location =
    declaredParameters operation location := rfl
  simp only [validateParameters, validateParameterSet, same]

/-- A request without a body passes the checks of an operation that needs none. -/
theorem validate_bare {request : MistRequest} {operation : MistOperation} {catalog : Catalog}
    {origin : String} (found : catalog.operation request.operationId = some (sealed operation))
    (bounds : validateRequestBounds request = .ok ())
    (parameters : validateParameters request operation catalog = .ok ())
    (bare : request.json = none) (optional : operation.requestBodyRequired = false)
    (cursor : validateCursor request.cursor (sealed operation) origin = .ok ()) :
    request.validate catalog origin = .ok request := by
  have body : validateJsonBody request (sealed operation) catalog = .ok () := by
    have same : (sealed operation).requestBodyRequired = operation.requestBodyRequired := rfl
    simp [validateJsonBody, bare, same, optional]
  rw [← validateParameters_sealed] at parameters
  exact ValidRequest.validate ⟨bounds, found, parameters, body, cursor⟩

/-- A read of the network for one of the change tools. -/
def read (tool : String) : CatalogRead :=
  objectRead tool (writeTarget .network .update) networkId orgId

theorem admitRead_read (tool : String) : admitRead handler (read tool) none = .ok (some target) := by
  have named : (read tool).operationId = getOrgNetwork.operationId := rfl
  have derived : targetFor (sealed getOrgNetwork).targetSelectors (read tool).path =
      .ok (some target) := by
    change targetFor [.org] (((∅ : PathValues).insert "network_id" networkId).insert "org_id" orgId) = _
    have supplied : (((∅ : PathValues).insert "network_id" networkId).insert "org_id" orgId).get
        "org_id" = some orgId := by simp
    have accepted : MistTarget.org orgId = .ok target := MistTarget.org_ok_iff.mpr ⟨rfl, rfl⟩
    simp only [targetFor, supplied, accepted]
  rw [admitRead, named, operation_get]
  dsimp only
  rw [derived]
  rfl

/-- The request of the read; the tool is no part of it. -/
def request : MistRequest where
  operationId := getOrgNetwork.operationId
  path := ((∅ : PathValues).insert "network_id" networkId).insert "org_id" orgId
  query := ∅
  json := none
  cursor := none

theorem validate_request : request.validate handler.catalog handler.origin = .ok request := by
  have bounds : validateRequestBounds request = .ok () := by decide
  have parameters : validateParameters request getOrgNetwork handler.catalog = .ok () := by
    decide
  exact validate_bare operation_get bounds parameters rfl rfl rfl

/-- The answer of the client to a read. -/
def response (body : Json.Value) : MistResponse :=
  ⟨"getOrgNetwork", 200, .json body, none, none⟩

/-- The events of a read that the client answers. -/
def readEvents (body : Json.Value) : MistHistory :=
  [⟨.executeAs request .standard, ()⟩, ⟨.response, .ok (response body)⟩,
    ⟨.budgetStatus, none⟩]

def readResult (body : Json.Value) : CallToolResult :=
  toolResult (.ok (ReadEnvelope.fromResponse (response body) (some target) none false).toJson)

theorem accept_response {body : Json.Value}
    (valid : (response body).validate handler.catalog handler.origin = .ok (response body)) :
    acceptResponse handler request (some target) (response body) = .ok (response body) := by
  have named : (response body).operationId = request.operationId := rfl
  have success : isSuccess (response body).status = true := by
    have number : (response body).status = 200 := rfl
    rw [number]
    decide
  have ended : (response body).cursor = none := rfl
  rw [acceptResponse, if_neg (not_not_intro named), valid]
  dsimp only
  rw [success, attachContext, ended]
  rfl

theorem read_sends (tool : String) : dispatchCataloguedRead handler (read tool) none =
    sendRead handler (read tool) none (some target) request :=
  dispatchCataloguedRead_sends (admitRead_read tool) rfl List.mem_cons_self rfl validate_request

theorem read_completes (tool : String) {body : Json.Value}
    (valid : (response body).validate handler.catalog handler.origin = .ok (response body)) :
    Completes (dispatchCataloguedRead handler (read tool) none) (readEvents body)
      (readResult body) := by
  rw [read_sends]
  exact sendRead_returns none (accept_response valid)

/-- The events of a read that the client does not answer. -/
def lostEvents : MistHistory :=
  [⟨.executeAs request .standard, ()⟩, ⟨.response, .error .transportUnavailable⟩]

def lostResult : CallToolResult :=
  toolResult (.error (MistCallError.mist .transportUnavailable).toString)

theorem read_lost (tool : String) :
    Completes (dispatchCataloguedRead handler (read tool) none) lostEvents lostResult := by
  rw [read_sends]
  exact sendRead_fails .transportUnavailable

theorem responses_get :
    networkResponses.get "200" = some (SortedMap.ofList [("application/json", networkSchema)]) := by
  unfold networkResponses
  simp [SortedMap.ofList]

/-- A response is accepted when its body is within the bounds and meets the relaxed schema. -/
theorem validate_response {body : Json.Value}
    (bounds : validateResponseBounds (response body) = .ok ())
    (meets : responseBodyProblem (.json body)
      (SortedMap.ofList [("application/json", networkSchema)]) handler.catalog = .ok ()) :
    (response body).validate handler.catalog handler.origin = .ok (response body) := by
  have named : (response body).operationId = getOrgNetwork.operationId := rfl
  have status : toString (response body).status.toNat = "200" := by
    have number : (response body).status.toNat = 200 := rfl
    rw [number]
    decide
  have declared : (sealed getOrgNetwork).responses = networkResponses := rfl
  have media : validateResponseBody (response body)
      (SortedMap.ofList [("application/json", networkSchema)]) handler.catalog = .ok () := by
    have same : (response body).body = .json body := rfl
    rw [validateResponseBody, same, meets]
  rw [MistResponse.validate, named, operation_get]
  dsimp only
  rw [status, declared, responses_get]
  dsimp only
  rw [bounds, media]
  rfl

/-- The data of a returned read is the body. -/
theorem readData_readResult {body : Json.Value}
    (returned : (readResult body).isError ≠ some true) :
    readData (readResult body) = .ok body.val :=
  readData_toolResult body.property returned

end Reads

section Records

/-- The record of an approved change set of a network. -/
def record (objectId : Option String) (before after : Json) : ChangeSetRecord :=
  let device := objectKey .network objectId
  let action := planAction .network after
  let fingerprint := candidateFingerprint before
  { plannedRecord "change" "planner" device fingerprint
      (Reference.planDigest "planner" device fingerprint [action]) action 0
      (serdeToString (previewDocument before after orgId)) with
    state := .approved }

theorem record_staged (objectId : Option String) {before after : Json}
    (formed : before.wellFormed = true) (formed' : after.wellFormed = true) :
    StagedAs (record objectId before after) "planner" .network objectId orgId before after where
  owner := rfl
  device := rfl
  fingerprint := rfl
  actions := rfl
  digest := rfl
  preview := ⟨_, rfl, rfl⟩
  beforeFormed := formed
  afterFormed := formed'

/-- The arguments of a call that names the change set. -/
def args (objectId : Option String) : ChangeSetArgs := ⟨"change", .network, objectId⟩

/-- The body of a network. -/
def network : Json := .object [("name", .string "lan")]

theorem network_isObject : network.isObject = true := rfl

/-- The work of an apply that creates a network. -/
def creation (caller : Option CallerCtx) (after : Json) : ApplyWork :=
  ⟨args none, caller, record none .null after, after, orgId, true, ""⟩

def creationClaim (after : Json) : ChangeSetRecord :=
  { record none .null after with state := .applying }

/-- The events of that apply before its write. -/
def creationEvents (caller : Option CallerCtx) (after : Json) : MistHistory :=
  [⟨.deviceGuard (objectKey .network none), .ok ()⟩,
    ⟨.changeSet "change" (objectKey .network none), .ok (record none .null after)⟩,
    ⟨.systemTime, .ok 0⟩,
    ⟨.applyIntent (applyRequestId caller) "change" (objectKey .network none) (principal caller),
      .ok ()⟩,
    ⟨.claimChangeSetForApply "change" (objectKey .network none) .none,
      .ok (creationClaim after)⟩]

/-- A create of a well-formed body reaches its write, whoever calls. -/
theorem creation_reached (caller : Option CallerCtx) {after : Json}
    (formed : after.wellFormed = true) :
    WriteReached handler (args none) caller (creationEvents caller after) (creation caller after)
      (creationClaim after) false 0 [] where
  events := rfl
  approved := rfl
  unexpired := UInt64.zero_le
  prepared := (record_staged none rfl formed).prepareWork_create rfl (args none) caller
  allowed := List.mem_cons_self
  drift := ⟨rfl, rfl⟩

/-- The events of that apply with its write. -/
def creationSent (caller : Option CallerCtx) (after : Json) : MistHistory :=
  creationEvents caller after ++
    [⟨.executeAs (creation caller after).writeRequest (callPriorityFor caller), ()⟩]

theorem creation_sent_mem (caller : Option CallerCtx) (after : Json) :
    (⟨.executeAs (creation caller after).writeRequest (callPriorityFor caller), ()⟩ : MistEvent) ∈
      creationSent caller after := List.mem_append_right _ List.mem_cons_self

theorem creation_sends (caller : Option CallerCtx) {after : Json}
    (formed : after.wellFormed = true) :
    Run (applyMistChangeSet handler (args none) caller) (creationSent caller after)
      (perform .response >>= concludeWrite handler (creation caller after) (creationClaim after)
        false) :=
  applyMistChangeSet_reaches (creation_reached caller formed)

end Records

end RustMist.Network
