import RustMist.Proof.Apply.Conclusion

/-! What the evidence log says about an apply run. -/

namespace RustMist

open Effects Effects.Program

section Log

/-- An intent that the log holds. -/
def isIntent : MistEvent → Bool
  | ⟨.applyIntent _ _ _ _, .ok ()⟩ => true
  | _ => false

/-- The outcome that a receipt of the log states. -/
def receiptOf : MistEvent → Option Bool
  | ⟨.resultReceipt _ _ _ _ success _, .ok ()⟩ => some success
  | _ => none

def receipts (history : MistHistory) : List Bool := history.filterMap receiptOf

/-- The log accepts whatever is appended. -/
structure AppendsSucceed (history : MistHistory) : Prop where
  intent : ∀ requestId id device owner answer,
    (⟨.applyIntent requestId id device owner, answer⟩ : MistEvent) ∈ history → answer = .ok ()
  receipt : ∀ requestId id device owner success reason answer,
    (⟨.resultReceipt requestId id device owner success reason, answer⟩ : MistEvent) ∈ history →
      answer = .ok ()

/-- The events of a read are not in the log. -/
theorem silent_of_isReadOp {event : MistEvent} (reading : IsReadOp event.op) :
    isIntent event = false ∧ receiptOf event = none := by
  obtain ⟨op, answer⟩ := event
  cases op <;> first | exact reading.elim | exact ⟨rfl, rfl⟩

end Log

variable [ServerPlatform]

section Silence

variable {handler : MistHandler} {read : CatalogRead} {caller : Option CallerCtx}
  {reads : MistHistory} {result : CallToolResult}

omit [ServerPlatform] in
theorem silent_of_readOps (each : ∀ event ∈ reads, IsReadOp event.op) :
    reads.filter isIntent = [] ∧ receipts reads = [] := by
  constructor
  · rw [List.filter_eq_nil_iff]
    intro event member
    rw [(silent_of_isReadOp (each event member)).1]
    decide
  · rw [receipts, List.filterMap_eq_nil_iff]
    exact fun event member => (silent_of_isReadOp (each event member)).2

variable {args : ChangeSetArgs} {before : MistHistory} {work : ApplyWork}
  {claimed : ChangeSetRecord} {driftChecked : Bool} {now : UInt64}

/-- The log holds one intent and no receipt when the write is sent. -/
theorem WriteReached.log
    (reached : WriteReached handler args caller before work claimed driftChecked now reads)
    (configured : handler.evidence = true) :
    (before.filter isIntent).length = 1 ∧ receipts before = [] := by
  obtain ⟨noIntent, noReceipt⟩ := silent_of_readOps reached.drift.readOps
  rw [receipts] at noReceipt
  rw [reached.events, intentEvents, if_pos configured, receipts]
  simp only [List.filter_append, List.filterMap_append, noIntent, noReceipt]
  exact ⟨rfl, rfl⟩

end Silence

section Receipts

variable {handler : MistHandler} {work : ApplyWork} {claimed : ChangeSetRecord}
  {driftChecked : Bool} {after : MistHistory} {outcome : ToolOutcome}

omit [ServerPlatform] in
theorem ReceiptEvents.receipts {success : Bool} {reason : String} {receipt : MistHistory}
    (recorded : ReceiptEvents handler work claimed success reason receipt)
    (configured : handler.evidence = true) (appended : AppendsSucceed receipt) :
    RustMist.receipts receipt = [success] := by
  rw [ReceiptEvents, if_pos configured] at recorded
  obtain ⟨answer, rfl⟩ := recorded
  obtain rfl := appended.receipt _ _ _ _ _ _ _ List.mem_cons_self
  rfl

omit [ServerPlatform] in
theorem AppendsSucceed.mono {part whole : MistHistory} (appended : AppendsSucceed whole)
    (included : part ⊆ whole) : AppendsSucceed part where
  intent requestId id device owner answer member :=
    appended.intent requestId id device owner answer (included member)
  receipt requestId id device owner success reason answer member :=
    appended.receipt requestId id device owner success reason answer (included member)

/-- An error of the client leaves no receipt, and a response leaves one. -/
def ReceiptsTold (handler : MistHandler) (work : ApplyWork) (after : MistHistory)
    (stated : List Bool) : Except MistError MistResponse → Prop
  | .error _ => stated = []
  | .ok response =>
      (∃ reason, finalObjectId work response = .error reason ∧ stated = [false]) ∨
      ∃ objectId reads more result, finalObjectId work response = .ok objectId ∧
        after = reads ++ more ∧
        Completes (dispatchCataloguedRead handler
          (objectRead "apply_mist_change_set" work.target objectId work.orgId) work.caller)
          reads result ∧
        stated = [isVerified result work.after]

theorem Conclusion.receipts {answer : Except MistError MistResponse}
    (concluded : Conclusion handler work claimed driftChecked (⟨.response, answer⟩ :: after) outcome)
    (configured : handler.evidence = true) (appended : AppendsSucceed after) :
    ReceiptsTold handler work after (RustMist.receipts after) answer := by
  generalize events : (⟨.response, answer⟩ :: after : MistHistory) = history at concluded
  cases concluded with
  | failed error update message =>
      obtain ⟨same, rfl⟩ := List.cons.inj events
      obtain rfl := eq_of_heq (Event.mk.inj same).2
      rfl
  | unusable response reason receipt update refused recorded =>
      obtain ⟨same, rfl⟩ := List.cons.inj events
      obtain rfl := eq_of_heq (Event.mk.inj same).2
      have one := recorded.receipts configured
        (appended.mono (List.subset_append_left _ _))
      refine .inl ⟨reason, refused, ?_⟩
      rw [RustMist.receipts, List.filterMap_append]
      exact congrArg (· ++ []) one
  | judged response objectId reason reads receipt result update outcome found read recorded =>
      obtain ⟨same, rfl⟩ := List.cons.inj events
      obtain rfl := eq_of_heq (Event.mk.inj same).2
      have one := recorded.receipts configured
        (appended.mono (fun _ member => by simp [member]))
      refine .inr ⟨objectId, reads, _, result, found, rfl, read, ?_⟩
      rw [RustMist.receipts, List.filterMap_append, List.filterMap_append]
      have none := (silent_of_readOps (isReadOp_of_mem read)).2
      rw [RustMist.receipts] at none one
      rw [none, one]
      rfl

end Receipts

section Truth

/-- What Mist answered shows that the change did not take effect. -/
def ShowsFailure (handler : MistHandler) (work : ApplyWork) (response : MistResponse)
    (after : MistHistory) : Prop :=
  (∃ reason, finalObjectId work response = .error reason) ∨ isSuccess response.status = false ∨
    ∃ objectId data, finalObjectId work response = .ok objectId ∧
      Reread handler work objectId after data ∧ work.after.projects data = false

/-- The log tells the truth about an apply run. -/
structure TruthfulEvidence (handler : MistHandler) (args : ChangeSetArgs)
    (caller : Option CallerCtx) (history : MistHistory) : Prop where
  intent : ∀ before request priority after,
    history = before ++ ⟨.executeAs request priority, ()⟩ :: after → IsWrite request →
      (before.filter isIntent).length = 1
  unknown : ∀ before request priority error after,
    history = before ++ ⟨.executeAs request priority, ()⟩ :: ⟨.response, .error error⟩ :: after →
      IsWrite request → receipts history = []
  answered : ∀ before request priority response after,
    history = before ++ ⟨.executeAs request priority, ()⟩ :: ⟨.response, .ok response⟩ :: after →
      IsWrite request → (receipts history).length = 1
  honest : ∀ work response after,
    WriteAnswered handler args caller history work (.ok response) after →
      false ∈ receipts history → ShowsFailure handler work response after

/-- A usable and successful response is followed by a read that returns the object; when the object
agrees with the staged body, it is the same. -/
def ReadConfirms (handler : MistHandler) (work : ApplyWork) (response : MistResponse)
    (after : MistHistory) : Prop :=
  ∀ objectId, finalObjectId work response = .ok objectId → isSuccess response.status = true →
    ∃ data, Reread handler work objectId after data ∧
      (work.after.projects data = true → data.same work.after = true)

variable {handler : MistHandler} {args : ChangeSetArgs} {caller : Option CallerCtx}
  {history : MistHistory} {outcome : ToolOutcome}

/-- The receipts of a run are those after its write. -/
theorem receipts_of_answered
    (run : Completes (applyMistChangeSet handler args caller) history outcome)
    (configured : handler.evidence = true) (appended : AppendsSucceed history)
    {work : ApplyWork} {answer : Except MistError MistResponse} {after : MistHistory}
    (answered : WriteAnswered handler args caller history work answer after) :
    ReceiptsTold handler work after (receipts history) answer := by
  obtain ⟨before, claimed, driftChecked, now, reads, priority, reached, rfl, concluded⟩ :=
    conclusion_of_answered run answered
  have later := concluded.receipts configured (appended.mono (fun _ member => by simp [member]))
  have earlier := (reached.log configured).2
  have whole : receipts (before ++ ⟨.executeAs work.writeRequest priority, ()⟩ ::
      ⟨.response, answer⟩ :: after) = receipts after := by
    rw [receipts] at earlier
    rw [receipts, List.filterMap_append, earlier]
    rfl
  rw [whole]
  exact later

/-- The log of a completed run tells the truth exactly when a usable and successful response to the
write is confirmed by the read that follows it. -/
theorem evidence_truthful_iff (handler : MistHandler) (args : ChangeSetArgs)
    (caller : Option CallerCtx) (history : MistHistory) (outcome : ToolOutcome)
    (run : Completes (applyMistChangeSet handler args caller) history outcome)
    (configured : handler.evidence = true) (appended : AppendsSucceed history) :
    TruthfulEvidence handler args caller history ↔
      ∀ work response after, WriteAnswered handler args caller history work (.ok response) after →
        ReadConfirms handler work response after := by
  constructor
  · intro truthful work response after answered objectId found success
    rcases receipts_of_answered run configured appended answered with
      ⟨reason, refused, _⟩ | ⟨objectId', reads, more, result, found', rfl, read, stated⟩
    · rw [found] at refused
      cases refused
    · obtain rfl := Except.ok.inj (found.symm.trans found')
      cases verdict : isVerified result work.after with
      | true =>
          obtain ⟨returned, data, reread, same⟩ := isVerified_iff.mp verdict
          exact ⟨data, ⟨reads, more, result, rfl, read, returned, reread⟩, fun _ => same⟩
      | false =>
          rcases truthful.honest work response _ answered (by simp [stated, verdict]) with
            ⟨reason, refused⟩ | failure | ⟨objectId', data, found', reread, disagrees⟩
          · rw [found] at refused
            cases refused
          · rw [success] at failure
            cases failure
          · obtain rfl := Except.ok.inj (found.symm.trans found')
            exact ⟨data, reread, fun agrees => by rw [disagrees] at agrees; cases agrees⟩
  · intro confirmed
    refine ⟨?_, ?_, ?_, ?_⟩
    · rintro before request priority after rfl write
      obtain ⟨work, claimed, driftChecked, now, reads, reached, _⟩ :=
        applyMistChangeSet_write write run
      exact (reached.log configured).1
    · intro before request priority error after events write
      obtain ⟨work, _, answered⟩ := writeAnswered_of_event run events write
      exact receipts_of_answered run configured appended answered
    · intro before request priority response after events write
      obtain ⟨work, _, answered⟩ := writeAnswered_of_event run events write
      rcases receipts_of_answered run configured appended answered with
        ⟨_, _, stated⟩ | ⟨_, _, _, _, _, _, _, stated⟩ <;> rw [stated] <;> rfl
    · intro work response after answered failure
      rcases receipts_of_answered run configured appended answered with
        ⟨reason, refused, _⟩ | ⟨objectId, reads, more, result, found, rfl, read, stated⟩
      · exact .inl ⟨reason, refused⟩
      · cases success : isSuccess response.status with
        | false => exact .inr (.inl success)
        | true =>
            obtain ⟨data, reread, agreement⟩ := confirmed work response _ answered objectId found success
            obtain ⟨returned, data_read⟩ := reread.of_completes read
            refine .inr (.inr ⟨objectId, data, found, reread, ?_⟩)
            rw [Bool.eq_false_iff]
            intro agrees
            have verified := isVerified_iff.mpr ⟨returned, data, data_read, agreement agrees⟩
            rw [stated, verified] at failure
            simp at failure

end Truth

end RustMist

namespace RustMist.Network

open Effects Effects.Program

/-- The run whose second read is lost. -/
def lostHistory : MistHistory := creationHistory lostEvents

theorem lost_completes :
    Completes (applyMistChangeSet handler (args none) none) lostHistory creationOutcome :=
  creation_completes (read_lost "apply_mist_change_set") lost_unverified

theorem lost_appends : AppendsSucceed lostHistory where
  intent requestId id device owner answer member := by
    simp only [lostHistory, creationHistory, creationSent, creationEvents, creationAfter, lostEvents,
      List.cons_append, List.nil_append, List.mem_cons, List.not_mem_nil, Event.mk.injEq,
      reduceCtorEq, false_and, false_or, or_false] at member
    obtain ⟨same, answered⟩ := member
    cases same
    exact eq_of_heq answered
  receipt requestId id device owner success reason answer member := by
    simp only [lostHistory, creationHistory, creationSent, creationEvents, creationAfter, lostEvents,
      List.cons_append, List.nil_append, List.mem_cons, List.not_mem_nil, Event.mk.injEq,
      reduceCtorEq, false_and, false_or, or_false] at member
    obtain ⟨same, answered⟩ := member
    cases same
    exact eq_of_heq answered

theorem lost_receipts : receipts lostHistory = [false] := rfl

/-- A lost read leads to no object. -/
theorem lost_not_reread {data : Json} :
    ¬Reread handler (creation none network) networkId (creationAfter lostEvents) data := by
  intro reread
  exact (reread.of_completes (read_lost "apply_mist_change_set")).1 (toolResult_error _)

/-- The log denies the creation of a network because the read that follows it is lost. -/
theorem creation_denied :
    Catalog.fromJson (serdeToString (paddedDocument networkOperations).toJson) =
        .ok handler.catalog ∧
      Completes (applyMistChangeSet handler (args none) none) lostHistory creationOutcome ∧
      AppendsSucceed lostHistory ∧
      ¬TruthfulEvidence handler (args none) none lostHistory := by
  refine ⟨catalog_accepted, lost_completes, lost_appends, fun truthful => ?_⟩
  have stated : false ∈ receipts lostHistory := by
    rw [lost_receipts]
    exact List.mem_cons_self
  rcases truthful.honest _ _ _ (creation_answered lostEvents) stated with
    ⟨reason, refused⟩ | failure | ⟨objectId, data, found, reread, _⟩
  · rw [created_found] at refused
    cases refused
  · rw [createdResponse_success] at failure
    cases failure
  · obtain rfl := Except.ok.inj (created_found.symm.trans found)
    exact lost_not_reread reread

theorem evidence_truthful_iff_creation :
    TruthfulEvidence handler (args none) none lostHistory ↔
      ∀ work response after,
        WriteAnswered handler (args none) none lostHistory work (.ok response) after →
          ReadConfirms handler work response after :=
  evidence_truthful_iff handler (args none) none lostHistory creationOutcome lost_completes rfl
    lost_appends

end RustMist.Network
