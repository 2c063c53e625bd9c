import RustMist.Proof.Apply.Write
import RustMist.Proof.Plan.Staging

/-! When an update passes its drift check. -/

namespace RustMist

open Effects Effects.Program

variable [ServerPlatform]

/-- An apply of an update has read its object again; what followed is the last part. -/
def DriftReread (handler : MistHandler) (args : ChangeSetArgs) (caller : Option CallerCtx)
    (history : MistHistory) (work : ApplyWork) (current : Json) (more : MistHistory) : Prop :=
  prepareWork args caller work.record = .ok work ∧ work.isCreate = false ∧
    ∃ now reads result, history =
      [⟨.deviceGuard (objectKey args.object args.objectId), .ok ()⟩,
        ⟨.changeSet args.changeSetId (objectKey args.object args.objectId), .ok work.record⟩,
        ⟨.systemTime, .ok now⟩] ++ (reads ++ more) ∧
      Completes (dispatchCataloguedRead handler
        (objectRead "apply_mist_change_set" work.target work.objectId work.orgId) work.caller)
        reads result ∧ result.isError ≠ some true ∧ readData result = .ok current

/-- A drifted change set is claimed at once, to be settled as failed. -/
def PassesDrift (more : MistHistory) : Prop :=
  ¬∃ id device answer later, more = ⟨.claimChangeSetForApply id device .expected, answer⟩ :: later

variable {handler : MistHandler} {args : ChangeSetArgs} {caller : Option CallerCtx}
  {work : ApplyWork} {more : MistHistory} {outcome : ToolOutcome} {current : Json}

theorem settleDrift_refuses (run : Completes (settleDrift work) more outcome) :
    ¬PassesDrift more := by
  obtain ⟨answer, later, rfl, _⟩ := (completes_ask_iff _ _ _ _).mp run
  exact fun passes => passes ⟨_, _, answer, later, rfl⟩

theorem issueApply_passes {driftChecked : Bool}
    (run : Completes (issueApply handler work driftChecked) more outcome) : PassesDrift more := by
  rintro ⟨id, device, answer, later, rfl⟩
  unfold issueApply at run
  split at run
  · obtain ⟨impossible, _⟩ := (completes_pure_iff _ _ _).mp run
    cases impossible
  · split at run
    · obtain ⟨answer, later', same, _⟩ := (completes_ask_iff _ _ _ _).mp run
      cases same
    · obtain ⟨answer, later', same, _⟩ := (completes_ask_iff _ _ _ _).mp run
      cases same

/-- A returned read has events. -/
theorem reads_ne_nil {read : CatalogRead} {reads : MistHistory} {result : CallToolResult}
    (run : Completes (dispatchCataloguedRead handler read caller) reads result)
    (returned : result.isError ≠ some true) : reads ≠ [] := by
  obtain ⟨target, response, accepted, read_returned⟩ :=
    dispatchCataloguedRead_completes run returned
  obtain ⟨before, budget, rfl, _⟩ := read_returned.answered
  simp

/-- The rest of a run that has read its object again compares the fingerprints. -/
theorem DriftReread.checked {history : MistHistory}
    (reread : DriftReread handler args caller history work current more)
    (run : Completes (applyMistChangeSet handler args caller) history outcome) :
    Completes (if stateFingerprint current ≠ work.record.expectedCandidateFingerprint then
        settleDrift work
      else issueApply handler work true) more outcome := by
  obtain ⟨prepared, update, now, reads, result, rfl, read, returned, data⟩ := reread
  change Completes (perform _ >>= _) (⟨_, _⟩ :: ⟨_, _⟩ :: ⟨_, _⟩ :: (reads ++ more)) _ at run
  have guarded := completes_ask_cons_iff.mp run
  have fetched := completes_ask_cons_iff.mp guarded
  change Completes (applyRecord handler args caller work.record) _ _ at fetched
  unfold applyRecord at fetched
  split at fetched
  · obtain ⟨impossible, _⟩ := (completes_pure_iff _ _ _).mp fetched
    cases impossible
  · have timed := completes_ask_cons_iff.mp fetched
    change Completes (if now > work.record.expiresAtUnix then _ else _) _ _ at timed
    split at timed
    · obtain ⟨impossible, _⟩ := (completes_pure_iff _ _ _).mp timed
      exact absurd (List.append_eq_nil_iff.mp impossible).1 (reads_ne_nil read returned)
    · rw [prepared] at timed
      change Completes (applyWork handler work) _ _ at timed
      rw [applyWork, if_neg (by simp [update])] at timed
      obtain ⟨result', reads', more', same, read', checked⟩ :=
        (completes_bind_iff _ _ _ _).mp timed
      obtain ⟨rfl, rfl⟩ := completes_unique read read' same
      obtain rfl := List.append_cancel_left same
      rw [if_neg returned, data] at checked
      exact checked

/-- The check compares the fingerprints. -/
theorem passesDrift_iff {history : MistHistory}
    (run : Completes (applyMistChangeSet handler args caller) history outcome)
    (reread : DriftReread handler args caller history work current more) :
    PassesDrift more ↔
      stateFingerprint current = work.record.expectedCandidateFingerprint := by
  have checked := reread.checked run
  split at checked
  · rename_i drifted
    exact iff_of_false (settleDrift_refuses checked) drifted
  · rename_i same
    exact iff_of_true (issueApply_passes checked) (not_not.mp same)

/-- An object whose fingerprint has changed leads to the settlement of its drift. -/
theorem drift_settles {now : UInt64} {reads : MistHistory} {result : CallToolResult}
    (approved : work.record.state = .approved) (unexpired : now ≤ work.record.expiresAtUnix)
    (prepared : prepareWork args caller work.record = .ok work) (update : work.isCreate = false)
    (done : Completes (dispatchCataloguedRead handler
      (objectRead "apply_mist_change_set" work.target work.objectId work.orgId) work.caller)
      reads result)
    (returned : result.isError ≠ some true) (data : readData result = .ok current)
    (drifted : stateFingerprint current ≠ work.record.expectedCandidateFingerprint)
    (settles : Completes (settleDrift work) more outcome) :
    Completes (applyMistChangeSet handler args caller)
      ([⟨.deviceGuard (objectKey args.object args.objectId), .ok ()⟩,
        ⟨.changeSet args.changeSetId (objectKey args.object args.objectId), .ok work.record⟩,
        ⟨.systemTime, .ok now⟩] ++ (reads ++ more)) outcome := by
  refine .answered (.answered ?_)
  change Completes (applyRecord handler args caller work.record) _ _
  rw [applyRecord, if_neg (not_not.mpr approved)]
  refine .answered ?_
  change Completes (if now > work.record.expiresAtUnix then _ else _) _ _
  rw [if_neg (UInt64.not_lt.mpr unexpired), prepared]
  change Completes (applyWork handler work) _ _
  rw [applyWork, if_neg (by simp [update])]
  apply Run.bind done
  rw [if_neg returned, data]
  change Completes (if _ then settleDrift work else issueApply handler work true) _ _
  rw [if_pos drifted]
  exact settles

/-- Without a collision of the digest the fingerprints of two values tell them apart. -/
theorem stateFingerprint_eq_iff {first second : Json} (formed : first.wellFormed = true)
    (formed' : second.wellFormed = true)
    (distinct : sha256 (serdeToString first) = sha256 (serdeToString second) →
      serdeToString first = serdeToString second) :
    stateFingerprint first = stateFingerprint second ↔ first = second := by
  constructor
  · intro same
    have digits : sha256Hex (serdeToString first) = sha256Hex (serdeToString second) := by
      simpa [stateFingerprint, String.ext_iff] using same
    exact serdeToString_injective formed formed' (distinct (sha256Hex_eq_iff.mp digits))
  · rintro rfl
    rfl

/-- The drift check decides equality of JSON values exactly for those objects whose equality
includes the order of their members. -/
theorem driftCheck_exact_iff (handler : MistHandler) (args : ChangeSetArgs)
    (caller : Option CallerCtx) (history more : MistHistory) (outcome : ToolOutcome)
    (work : ApplyWork) (owner : String) (object : WanObject) (objectId : Option String)
    (orgId : String) (before after current : Json)
    (run : Completes (applyMistChangeSet handler args caller) history outcome)
    (reread : DriftReread handler args caller history work current more)
    (staged : StagedAs work.record owner object objectId orgId before after)
    (distinct : sha256 (serdeToString current) = sha256 (serdeToString before) →
      serdeToString current = serdeToString before) :
    (PassesDrift more ↔ current.same before = true) ↔
      (current.same before = true → current = before) := by
  have formed : current.wellFormed = true := by
    obtain ⟨_, _, _, _, _, _, _, _, data⟩ := reread
    exact readData_wellFormed data
  have present : before.isNull = false := by
    obtain ⟨prepared, update, _⟩ := reread
    rw [← (staged.prepared prepared).2.2.2.2.2.1, update]
  have passes := passesDrift_iff run reread
  rw [staged.fingerprint, candidateFingerprint, if_neg (by simp [present]),
    stateFingerprint_eq_iff formed staged.beforeFormed distinct] at passes
  rw [passes]
  constructor
  · exact fun exact' same => exact'.mpr same
  · intro strict
    exact ⟨fun same => same ▸ Json.same_refl _ formed, strict⟩

end RustMist

namespace RustMist.Network

open Effects Effects.Program

/-- A network with two members. -/
def ordered : Json.Value := ⟨.object [("name", .string "lan"), ("vlan", .string "1")], rfl⟩

/-- The same network with its members in another order. -/
def reordered : Json.Value := ⟨.object [("vlan", .string "1"), ("name", .string "lan")], rfl⟩

/-- The work of an apply that updates the network. -/
def revision : ApplyWork :=
  ⟨args (some networkId), none, record (some networkId) ordered.val network, network, orgId, false,
    networkId⟩

def refusal : CoordinatorError := ⟨"state", "refused"⟩

def driftEnd : MistHistory :=
  [⟨.claimChangeSetForApply "change" (objectKey .network (some networkId)) .expected,
    .error refusal⟩]

def driftEvents : MistHistory :=
  [⟨.deviceGuard (objectKey .network (some networkId)), .ok ()⟩,
    ⟨.changeSet "change" (objectKey .network (some networkId)), .ok revision.record⟩,
    ⟨.systemTime, .ok 0⟩] ++ (readEvents reordered ++ driftEnd)

def driftOutcome : ToolOutcome :=
  .ok (toolResult (.error "object has been modified since planning; fingerprint mismatch"))

theorem revision_staged : StagedAs revision.record "planner" .network (some networkId) orgId
    ordered.val network := record_staged (some networkId) ordered.property rfl

theorem revision_prepared :
    prepareWork (args (some networkId)) none revision.record = .ok revision :=
  revision_staged.prepareWork_update rfl rfl none

theorem reordered_returned : (readResult reordered).isError ≠ some true := by
  decide +kernel

theorem reordered_read : Completes (dispatchCataloguedRead handler
    (objectRead "apply_mist_change_set" revision.target revision.objectId revision.orgId)
    revision.caller) (readEvents reordered) (readResult reordered) :=
  read_completes "apply_mist_change_set" (validate_response (by decide +kernel) (by decide))

theorem reordered_drifts :
    stateFingerprint reordered.val ≠ revision.record.expectedCandidateFingerprint := by
  have fingerprint : revision.record.expectedCandidateFingerprint =
    stateFingerprint ordered.val := rfl
  rw [fingerprint]
  decide +kernel

theorem drift_run :
    Completes (applyMistChangeSet handler (args (some networkId)) none) driftEvents driftOutcome :=
  drift_settles rfl UInt64.zero_le revision_prepared rfl reordered_read reordered_returned
    (readData_readResult reordered_returned) reordered_drifts (.answered (.start _))

theorem drift_reread :
    DriftReread handler (args (some networkId)) none driftEvents revision reordered.val driftEnd :=
  ⟨revision_prepared, rfl, 0, readEvents reordered, readResult reordered, rfl, reordered_read,
    reordered_returned, readData_readResult reordered_returned⟩

/-- An object that only has its members in another order fails the drift check. -/
theorem reordered_fails_drift :
    Catalog.fromJson (serdeToString (paddedDocument networkOperations).toJson) =
        .ok handler.catalog ∧
      Completes (applyMistChangeSet handler (args (some networkId)) none) driftEvents
        driftOutcome ∧
      DriftReread handler (args (some networkId)) none driftEvents revision reordered.val
        driftEnd ∧
      StagedAs revision.record "planner" .network (some networkId) orgId ordered.val network ∧
      ¬(PassesDrift driftEnd ↔ reordered.val.same ordered.val = true) := by
  refine ⟨catalog_accepted, drift_run, drift_reread, revision_staged, fun exact' => ?_⟩
  have same : reordered.val.same ordered.val = true := by decide
  exact reordered_drifts ((passesDrift_iff drift_run drift_reread).mp (exact'.mpr same))

theorem driftCheck_exact_iff_reordered :
    (PassesDrift driftEnd ↔ reordered.val.same ordered.val = true) ↔
      (reordered.val.same ordered.val = true → reordered.val = ordered.val) := by
  have distinct : sha256 (serdeToString reordered.val) = sha256 (serdeToString ordered.val) →
      serdeToString reordered.val = serdeToString ordered.val := by
    intro collision
    exact absurd collision (by decide +kernel)
  exact driftCheck_exact_iff handler (args (some networkId)) none driftEvents driftEnd driftOutcome
    revision "planner" .network (some networkId) orgId ordered.val network reordered.val drift_run
    drift_reread revision_staged distinct

end RustMist.Network
