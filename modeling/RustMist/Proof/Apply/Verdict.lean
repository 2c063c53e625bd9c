import RustMist.Proof.Apply.StoreSteps
import RustMist.Proof.Apply.Conclusion

/-! The verdict of an apply run on its write. -/

namespace RustMist

open Effects Effects.Program

variable [ServerPlatform]

section Verdict

/-- The run persists the record as applied and answers that the write is verified. -/
def EndsApplied (args : ChangeSetArgs) (history : MistHistory) (outcome : ToolOutcome) : Prop :=
  ∃ claimed objectId driftChecked,
    (⟨.updateChangeSet (settled claimed true), .ok ()⟩ : MistEvent) ∈ history ∧
      outcome = .ok (toolResult (.ok
        (applyResponse args (settled claimed true) objectId driftChecked true)))

/-- The last update of the record is accepted by the store. -/
def Persisted (after : MistHistory) : Prop :=
  ∃ record, (⟨.updateChangeSet record, .ok ()⟩ : MistEvent) ∈ after

/-- The response is a success, and the object read again agrees with every staged field. -/
def WriteConfirmed (handler : MistHandler) (work : ApplyWork) (response : MistResponse)
    (after : MistHistory) : Prop :=
  isSuccess response.status = true ∧ ∃ objectId data,
    finalObjectId work response = .ok objectId ∧ Reread handler work objectId after data ∧
      work.after.projects data = true

/-- A run ends as applied and verified exactly when its write is confirmed. -/
structure VerdictExact (handler : MistHandler) (args : ChangeSetArgs) (caller : Option CallerCtx)
    (history : MistHistory) (outcome : ToolOutcome) : Prop where
  complete : ∀ work response after,
    WriteAnswered handler args caller history work (.ok response) after →
      WriteConfirmed handler work response after → EndsApplied args history outcome
  sound : EndsApplied args history outcome → ∃ work response after,
    WriteAnswered handler args caller history work (.ok response) after ∧
      WriteConfirmed handler work response after

/-- An object that agrees with the staged body is the same and is persisted, and an object that is
the same and persisted was written with success. -/
def VerdictCondition (handler : MistHandler) (work : ApplyWork) (response : MistResponse)
    (after : MistHistory) : Prop :=
  ∀ objectId data, finalObjectId work response = .ok objectId →
    Reread handler work objectId after data →
      (isSuccess response.status = true → work.after.projects data = true →
        data.same work.after = true ∧ Persisted after) ∧
      (data.same work.after = true → Persisted after → isSuccess response.status = true)

end Verdict

theorem projects_of_reread {handler : MistHandler} {work : ApplyWork} {objectId : String}
    {after : MistHistory} {data : Json} (formed : work.after.wellFormed = true)
    (reread : Reread handler work objectId after data) (same : data.same work.after = true) :
    work.after.projects data = true := by
  obtain ⟨_, _, _, _, _, _, found⟩ := reread
  exact Json.projects_of_same (Json.same_symm (readData_wellFormed found) formed same)

/-- The staged body comes from a text. -/
theorem WriteReached.afterFormed {handler : MistHandler} {args : ChangeSetArgs}
    {caller : Option CallerCtx} {before : MistHistory} {work : ApplyWork}
    {claimed : ChangeSetRecord} {driftChecked : Bool} {now : UInt64} {reads : MistHistory}
    (reached : WriteReached handler args caller before work claimed driftChecked now reads) :
    work.after.wellFormed = true :=
  readPreview_wellFormed (prepareWork_ok reached.prepared).2.2.2.1

variable {handler : MistHandler} {args : ChangeSetArgs} {caller : Option CallerCtx}
  {history : MistHistory} {outcome : ToolOutcome}

/-- A record is only settled as applied after the client has answered the write. -/
theorem answered_of_endsApplied
    (run : Completes (applyMistChangeSet handler args caller) history outcome)
    (ends : EndsApplied args history outcome) :
    ∃ work answer after, WriteAnswered handler args caller history work answer after := by
  obtain ⟨claimed, objectId, driftChecked, member, _⟩ := ends
  obtain ⟨before, after, rfl⟩ := List.append_of_mem member
  obtain ⟨claimed', verified, same, _, wrote⟩ :=
    (applyMistChangeSet_storeSteps handler args caller).event run
  obtain rfl : verified = true := by
    have state := congrArg ChangeSetRecord.state same
    cases verified with
    | true => rfl
    | false => simp [settled] at state
  obtain ⟨early, request, priority, answer, late, write, rfl⟩ := wrote rfl
  obtain ⟨work, rfl, answered⟩ := writeAnswered_of_event run
    (by rw [List.append_assoc, List.cons_append, List.cons_append]) write
  exact ⟨work, answer, _, answered⟩

section Updates

variable {work : ApplyWork} {claimed : ChangeSetRecord} {driftChecked : Bool}
  {reads receipt before after : MistHistory} {record : ChangeSetRecord}
  {update : Except CoordinatorError Unit}

theorem update_notMem_reads {read : CatalogRead} {result : CallToolResult}
    (run : Completes (dispatchCataloguedRead handler read caller) reads result) :
    (⟨.updateChangeSet record, update⟩ : MistEvent) ∉ reads :=
  fun member => isReadOp_of_mem run _ member

omit [ServerPlatform] in
theorem ReceiptEvents.update_notMem {success : Bool} {reason : String}
    (recorded : ReceiptEvents handler work claimed success reason receipt) :
    (⟨.updateChangeSet record, update⟩ : MistEvent) ∉ receipt := by
  unfold ReceiptEvents at recorded
  split at recorded
  · obtain ⟨answer, rfl⟩ := recorded
    simp
  · rw [recorded]
    exact List.not_mem_nil

/-- Nothing is updated before the write. -/
theorem WriteReached.update_notMem {now : UInt64}
    (reached : WriteReached handler args caller before work claimed driftChecked now reads) :
    (⟨.updateChangeSet record, update⟩ : MistEvent) ∉ before := by
  have quiet : (⟨.updateChangeSet record, update⟩ : MistEvent) ∉ reads :=
    fun present => reached.drift.readOps _ present
  rw [reached.events]
  intro member
  simp only [List.mem_append, List.mem_cons, List.not_mem_nil, or_false, Event.mk.injEq,
    reduceCtorEq, false_and, or_self, false_or, quiet, intentEvents] at member
  split at member <;> simp at member

omit [ServerPlatform] in
theorem settled_injective {claimed claimed' : ChangeSetRecord} {verified verified' : Bool}
    (same : settled claimed verified = settled claimed' verified') : verified = verified' := by
  have state := congrArg ChangeSetRecord.state same
  cases verified <;> cases verified' <;> simp_all [settled]

/-- A judged run holds one update, the one of its verdict. -/
theorem update_of_mem_judged {read : CatalogRead} {result : CallToolResult} {success : Bool}
    {reason : String} {last : ChangeSetRecord} {answer : Except CoordinatorError Unit}
    (run : Completes (dispatchCataloguedRead handler read caller) reads result)
    (recorded : ReceiptEvents handler work claimed success reason receipt)
    (member : (⟨.updateChangeSet record, update⟩ : MistEvent) ∈
      reads ++ (receipt ++ [⟨.updateChangeSet last, answer⟩])) :
    record = last ∧ update = answer := by
  rcases List.mem_append.mp member with early | member
  · exact absurd early (update_notMem_reads run)
  · rcases List.mem_append.mp member with middle | late
    · exact absurd middle recorded.update_notMem
    · simpa using late

end Updates

/-- A run ends as applied exactly when the object read after the write is the staged one and the
last update is persisted. -/
theorem endsApplied_iff (run : Completes (applyMistChangeSet handler args caller) history outcome)
    {work : ApplyWork} {answer : Except MistError MistResponse} {after : MistHistory}
    (answered : WriteAnswered handler args caller history work answer after) :
    EndsApplied args history outcome ↔ ∃ response objectId data, answer = .ok response ∧
      finalObjectId work response = .ok objectId ∧ Reread handler work objectId after data ∧
      data.same work.after = true ∧ Persisted after := by
  obtain ⟨before, claimed, driftChecked, now, reads, priority, reached, rfl, concluded⟩ :=
    conclusion_of_answered run answered
  have sameArgs := (prepareWork_ok reached.prepared).1
  have within : ∀ record update, (⟨.updateChangeSet record, update⟩ : MistEvent) ∈
      before ++ ⟨.executeAs work.writeRequest priority, ()⟩ :: ⟨.response, answer⟩ :: after →
        (⟨.updateChangeSet record, update⟩ : MistEvent) ∈ after := by
    intro record update member
    simpa [reached.update_notMem] using member
  generalize events : (⟨.response, answer⟩ :: after : MistHistory) = later at concluded
  constructor
  · rintro ⟨claimed', objectId, driftChecked', member, _⟩
    rw [← events] at member
    have last := within _ _ member
    cases concluded with
    | failed error update message =>
        obtain ⟨_, rfl⟩ := List.cons.inj events
        have same : settled claimed' true = settled claimed false ∧ Except.ok () = update := by
          simpa using last
        exact absurd (settled_injective same.1) nofun
    | unusable response reason receipt update refused recorded =>
        obtain ⟨_, rfl⟩ := List.cons.inj events
        rcases List.mem_append.mp last with early | late
        · exact absurd early recorded.update_notMem
        · have same : settled claimed' true = settled claimed false ∧ Except.ok () = update := by
            simpa using late
          exact absurd (settled_injective same.1) nofun
    | judged response objectId reason reads receipt result update outcome found read recorded =>
        obtain ⟨same, rfl⟩ := List.cons.inj events
        obtain rfl := eq_of_heq (Event.mk.inj same).2
        obtain ⟨record, rfl⟩ := update_of_mem_judged read recorded last
        have verified := (settled_injective record).symm
        obtain ⟨returned, data, reread, agree⟩ := isVerified_iff.mp verified
        exact ⟨response, objectId, data, rfl, found, ⟨reads, _, result, rfl, read, returned, reread⟩,
          agree, _, last⟩
  · rintro ⟨response, objectId, data, rfl, found, reread, agree, record, persisted⟩
    cases concluded with
    | failed error update message => cases events
    | unusable response' reason receipt update refused recorded =>
        obtain ⟨same, rfl⟩ := List.cons.inj events
        obtain rfl := Except.ok.inj (eq_of_heq (Event.mk.inj same).2)
        rw [found] at refused
        cases refused
    | judged response' objectId' reason reads receipt result update outcome found' read recorded
        closed =>
        obtain ⟨same, rfl⟩ := List.cons.inj events
        obtain rfl := Except.ok.inj (eq_of_heq (Event.mk.inj same).2)
        obtain rfl := Except.ok.inj (found.symm.trans found')
        obtain ⟨returned, data_read⟩ := reread.of_completes read
        have verified := isVerified_iff.mpr ⟨returned, data, data_read, agree⟩
        obtain ⟨_, rfl⟩ := update_of_mem_judged read recorded persisted
        have ended := closed rfl
        rw [verified, sameArgs] at ended
        refine ⟨claimed, objectId, driftChecked, ?_, ended⟩
        rw [verified]
        simp

/-- The verdict of a completed run is exact exactly when every object that agrees with the staged
body is the same and persisted, and every such object was written with success. -/
theorem verdict_exact_iff (handler : MistHandler) (args : ChangeSetArgs)
    (caller : Option CallerCtx) (history : MistHistory) (outcome : ToolOutcome)
    (run : Completes (applyMistChangeSet handler args caller) history outcome) :
    VerdictExact handler args caller history outcome ↔
      ∀ work response after, WriteAnswered handler args caller history work (.ok response) after →
        VerdictCondition handler work response after := by
  constructor
  · intro exact' work response after answered objectId data found reread
    constructor
    · intro success agrees
      have ends := exact'.complete work response after answered
        ⟨success, objectId, data, found, reread, agrees⟩
      obtain ⟨response', objectId', data', same, found', reread', agree, persisted⟩ :=
        (endsApplied_iff run answered).mp ends
      obtain rfl := Except.ok.inj same
      obtain rfl := Except.ok.inj (found.symm.trans found')
      obtain rfl := reread.unique reread'
      exact ⟨agree, persisted⟩
    · intro agree persisted
      have ends := (endsApplied_iff run answered).mpr
        ⟨response, objectId, data, rfl, found, reread, agree, persisted⟩
      obtain ⟨work', response', after', answered', success, _⟩ := exact'.sound ends
      obtain ⟨rfl, same, rfl⟩ := WriteAnswered.unique run answered answered'
      obtain rfl := Except.ok.inj same
      exact success
  · intro condition
    refine ⟨?_, ?_⟩
    · rintro work response after answered ⟨success, objectId, data, found, reread, agrees⟩
      obtain ⟨agree, persisted⟩ :=
        (condition work response after answered objectId data found reread).1 success agrees
      exact (endsApplied_iff run answered).mpr
        ⟨response, objectId, data, rfl, found, reread, agree, persisted⟩
    · intro ends
      obtain ⟨work, answer, after, answered⟩ := answered_of_endsApplied run ends
      obtain ⟨response, objectId, data, rfl, found, reread, agree, persisted⟩ :=
        (endsApplied_iff run answered).mp ends
      have formed : work.after.wellFormed = true := by
        obtain ⟨_, _, _, _, _, _, reached, _⟩ := answered
        exact reached.afterFormed
      exact ⟨work, response, after, answered,
        (condition work response after answered objectId data found reread).2 agree persisted,
        objectId, data, found, reread, projects_of_reread formed reread agree⟩

end RustMist

namespace RustMist.Network

open Effects Effects.Program

/-- The run whose second read returns the created network. -/
def verifiedHistory : MistHistory := creationHistory (readEvents created)

theorem verified_completes :
    Completes (applyMistChangeSet handler (args none) none) verifiedHistory creationOutcome :=
  creation_completes created_read created_unverified

/-- A network that is created as staged is not reported as applied. -/
theorem creation_not_applied :
    Catalog.fromJson (serdeToString (paddedDocument networkOperations).toJson) =
        .ok handler.catalog ∧
      Completes (applyMistChangeSet handler (args none) none) verifiedHistory creationOutcome ∧
      ¬VerdictExact handler (args none) none verifiedHistory creationOutcome := by
  refine ⟨catalog_accepted, verified_completes, fun exact' => ?_⟩
  have answered := creation_answered (readEvents created)
  have ends := exact'.complete _ _ _ answered
    ⟨createdResponse_success, networkId, created.val, created_found, creation_reread, created_agrees⟩
  obtain ⟨response, objectId, data, answer, found, reread, same, _⟩ :=
    (endsApplied_iff verified_completes answered).mp ends
  obtain rfl := Except.ok.inj answer
  obtain rfl := Except.ok.inj (created_found.symm.trans found)
  obtain rfl := reread.unique creation_reread
  exact absurd same (by decide +kernel)

theorem verdict_exact_iff_creation :
    VerdictExact handler (args none) none verifiedHistory creationOutcome ↔
      ∀ work response after,
        WriteAnswered handler (args none) none verifiedHistory work (.ok response) after →
          VerdictCondition handler work response after :=
  verdict_exact_iff handler (args none) none verifiedHistory creationOutcome verified_completes

end RustMist.Network
