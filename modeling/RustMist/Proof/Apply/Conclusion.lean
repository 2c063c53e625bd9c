import RustMist.Proof.Apply.Write
import RustMist.Proof.Plan.Staging

/-! What follows the write of an apply run. -/

namespace RustMist

open Effects Effects.Program

variable [ServerPlatform]

section Reads

/-- The verification read returned an object. -/
def Reread (handler : MistHandler) (work : ApplyWork) (objectId : String) (after : MistHistory)
    (data : Json) : Prop :=
  ∃ reads more result, after = reads ++ more ∧
    Completes (dispatchCataloguedRead handler
      (objectRead "apply_mist_change_set" work.target objectId work.orgId) work.caller)
      reads result ∧ result.isError ≠ some true ∧ readData result = .ok data

variable {handler : MistHandler} {work : ApplyWork} {objectId : String}
  {reads more : MistHistory} {result : CallToolResult} {data : Json}

/-- A history holds at most one verification read. -/
theorem Reread.of_completes (reread : Reread handler work objectId (reads ++ more) data)
    (done : Completes (dispatchCataloguedRead handler
      (objectRead "apply_mist_change_set" work.target objectId work.orgId) work.caller)
      reads result) : result.isError ≠ some true ∧ readData result = .ok data := by
  obtain ⟨reads', more', result', same, done', returned, found⟩ := reread
  obtain ⟨_, rfl⟩ := completes_unique done done' same
  exact ⟨returned, found⟩

theorem Reread.unique {after : MistHistory} {data' : Json}
    (reread : Reread handler work objectId after data)
    (reread' : Reread handler work objectId after data') : data = data' := by
  obtain ⟨reads, more, result, rfl, done, _, found⟩ := reread
  exact Except.ok.inj (found.symm.trans (reread'.of_completes done).2)

theorem isVerified_iff {after : Json} : isVerified result after = true ↔
    result.isError ≠ some true ∧ ∃ data, readData result = .ok data ∧ data.same after = true := by
  unfold isVerified
  split
  · simp_all
  · split <;> simp_all

end Reads

section Conclusions

/-- The receipt of an outcome is appended where a recorder is configured. -/
def ReceiptEvents (handler : MistHandler) (work : ApplyWork) (claimed : ChangeSetRecord)
    (success : Bool) (reason : String) (receipt : MistHistory) : Prop :=
  if handler.evidence then
    ∃ answer, receipt = [⟨.resultReceipt (applyRequestId work.caller) claimed.id claimed.device
      (principal work.caller) success reason, answer⟩]
  else receipt = []

/-- The record is settled by its last update. -/
def settled (claimed : ChangeSetRecord) (verified : Bool) : ChangeSetRecord :=
  { claimed with state := if verified then .applied else .failed }

/-- These are the three ways in which an apply run ends after its write. -/
inductive Conclusion (handler : MistHandler) (work : ApplyWork) (claimed : ChangeSetRecord)
    (driftChecked : Bool) : MistHistory → ToolOutcome → Prop where
  | failed (error : MistError) (update : Except CoordinatorError Unit) (message : String) :
      Conclusion handler work claimed driftChecked
        [⟨.response, .error error⟩, ⟨.updateChangeSet (settled claimed false), update⟩]
        (.ok (toolResult (.error message)))
  | unusable (response : MistResponse) (reason : String) (receipt : MistHistory)
      (update : Except CoordinatorError Unit)
      (refused : finalObjectId work response = .error reason)
      (recorded : ReceiptEvents handler work claimed false reason receipt) :
      Conclusion handler work claimed driftChecked
        (⟨.response, .ok response⟩ :: (receipt ++
          [⟨.updateChangeSet (settled claimed false), update⟩]))
        (.ok (toolResult (.error reason)))
  | judged (response : MistResponse) (objectId reason : String) (reads receipt : MistHistory)
      (result : CallToolResult) (update : Except CoordinatorError Unit) (outcome : ToolOutcome)
      (found : finalObjectId work response = .ok objectId)
      (read : Completes (dispatchCataloguedRead handler
        (objectRead "apply_mist_change_set" work.target objectId work.orgId) work.caller)
        reads result)
      (recorded : ReceiptEvents handler work claimed (isVerified result work.after) reason receipt)
      (answered : update = .ok () → outcome = .ok (toolResult (.ok (applyResponse work.args
        (settled claimed (isVerified result work.after)) objectId driftChecked
        (isVerified result work.after))))) :
      Conclusion handler work claimed driftChecked
        (⟨.response, .ok response⟩ :: (reads ++ (receipt ++
          [⟨.updateChangeSet (settled claimed (isVerified result work.after)), update⟩])))
        outcome

variable {handler : MistHandler} {work : ApplyWork} {claimed : ChangeSetRecord}
  {driftChecked : Bool} {history : MistHistory} {outcome : ToolOutcome}

omit [ServerPlatform] in
theorem recordReceipt_completes {success : Bool} {reason : String}
    (run : Completes (recordReceipt handler work claimed success reason) history ()) :
    ReceiptEvents handler work claimed success reason history := by
  unfold recordReceipt at run
  unfold ReceiptEvents
  split at run
  · rename_i configured
    obtain ⟨answer, later, rfl, done⟩ := (completes_ask_iff _ _ _ _).mp run
    obtain ⟨rfl, _⟩ := (completes_pure_iff _ _ _).mp done
    rw [if_pos configured]
    exact ⟨answer, rfl⟩
  · rename_i configured
    obtain ⟨rfl, _⟩ := (completes_pure_iff _ _ _).mp run
    rw [if_neg configured]

theorem abandonApply_completes {message : String}
    (run : Completes (abandonApply claimed message) history outcome) :
    (∃ update, history = [⟨.updateChangeSet (settled claimed false), update⟩]) ∧
      outcome = .ok (toolResult (.error message)) := by
  obtain ⟨update, later, rfl, done⟩ := (completes_ask_iff _ _ _ _).mp run
  obtain ⟨rfl, rfl⟩ := (completes_pure_iff _ _ _).mp done
  exact ⟨⟨update, rfl⟩, rfl⟩

theorem settleApply_completes {objectId : String} {verified : Bool}
    (run : Completes (settleApply work claimed objectId driftChecked verified) history outcome) :
    ∃ update, history = [⟨.updateChangeSet (settled claimed verified), update⟩] ∧
      (update = .ok () → outcome = .ok (toolResult (.ok
        (applyResponse work.args (settled claimed verified) objectId driftChecked verified)))) := by
  obtain ⟨update, later, rfl, done⟩ := (completes_ask_iff _ _ _ _).mp run
  cases update with
  | error error =>
      obtain ⟨rfl, _⟩ := (completes_pure_iff _ _ _).mp done
      exact ⟨.error error, rfl, nofun⟩
  | ok _ =>
      obtain ⟨rfl, rfl⟩ := (completes_pure_iff _ _ _).mp done
      exact ⟨.ok (), rfl, fun _ => rfl⟩

/-- Every completed run ends in one of the three ways. -/
theorem concludeWrite_completes
    (run : Completes (perform .response >>= concludeWrite handler work claimed driftChecked)
      history outcome) : Conclusion handler work claimed driftChecked history outcome := by
  obtain ⟨answer, later, rfl, concluded⟩ := (completes_ask_iff _ _ _ _).mp run
  cases answer with
  | error error =>
      obtain ⟨⟨update, rfl⟩, rfl⟩ := abandonApply_completes concluded
      exact .failed error update _
  | ok response =>
      unfold concludeWrite at concluded
      dsimp only at concluded
      cases final : finalObjectId work response with
      | error reason =>
          rw [final] at concluded
          obtain ⟨_, receipt, last, rfl, recorded, ended⟩ :=
            (completes_bind_iff _ _ _ _).mp concluded
          obtain ⟨⟨update, rfl⟩, rfl⟩ := abandonApply_completes ended
          exact .unusable response reason receipt update final (recordReceipt_completes recorded)
      | ok objectId =>
          rw [final] at concluded
          obtain ⟨result, reads, tail, rfl, read, judged⟩ :=
            (completes_bind_iff _ _ _ _).mp concluded
          obtain ⟨_, receipt, last, rfl, recorded, ended⟩ :=
            (completes_bind_iff _ _ _ _).mp judged
          obtain ⟨update, rfl, answered⟩ := settleApply_completes ended
          exact .judged response objectId _ reads receipt result update outcome final read
            (recordReceipt_completes recorded) answered

/-- A usable response is judged by the read that follows it. -/
theorem concludeWrite_judges {response : MistResponse} {objectId : String} {reads : MistHistory}
    {result : CallToolResult} (configured : handler.evidence = true)
    (found : finalObjectId work response = .ok objectId)
    (read : Completes (dispatchCataloguedRead handler
      (objectRead "apply_mist_change_set" work.target objectId work.orgId) work.caller)
      reads result) :
    Completes (perform .response >>= concludeWrite handler work claimed driftChecked)
      (⟨.response, .ok response⟩ :: (reads ++
        [⟨.resultReceipt (applyRequestId work.caller) claimed.id claimed.device
            (principal work.caller) (isVerified result work.after)
            (if isVerified result work.after then "" else "write not verified"), .ok ()⟩,
          ⟨.updateChangeSet (settled claimed (isVerified result work.after)), .ok ()⟩]))
      (.ok (toolResult (.ok (applyResponse work.args
        (settled claimed (isVerified result work.after)) objectId driftChecked
        (isVerified result work.after))))) := by
  refine .answered ?_
  unfold concludeWrite
  dsimp only
  rw [found]
  apply Run.bind read
  unfold recordReceipt
  dsimp only
  rw [if_pos configured]
  exact .answered (.answered (.start _))

end Conclusions

section Answers

variable {handler : MistHandler} {args : ChangeSetArgs} {caller : Option CallerCtx}

/-- The events before a write determine the work and the claimed record. -/
theorem WriteReached.unique {before : MistHistory} {work work' : ApplyWork}
    {claimed claimed' : ChangeSetRecord} {driftChecked driftChecked' : Bool} {now now' : UInt64}
    {reads reads' : MistHistory}
    (reached : WriteReached handler args caller before work claimed driftChecked now reads)
    (reached' : WriteReached handler args caller before work' claimed' driftChecked' now' reads') :
    work = work' ∧ claimed = claimed' ∧ driftChecked = driftChecked' ∧ reads = reads' := by
  have same := reached.events.symm.trans reached'.events
  simp only [List.cons_append, List.nil_append, List.cons.injEq, Event.mk.injEq, true_and,
    heq_eq_eq, Except.ok.injEq] at same
  obtain ⟨record, _, tail⟩ := same
  have prepared := reached.prepared
  rw [record, reached'.prepared] at prepared
  obtain rfl := Except.ok.inj prepared
  obtain ⟨rfl, last⟩ := List.append_inj' tail (by simp [intentEvents])
  obtain ⟨_, claim⟩ := List.append_inj' last rfl
  simp only [List.cons.injEq, Event.mk.injEq, heq_eq_eq, Except.ok.injEq, true_and,
    and_true] at claim
  refine ⟨rfl, claim, ?_, rfl⟩
  have drift := reached.drift
  have drift' := reached'.drift
  unfold DriftPassed at drift drift'
  split at drift
  · rename_i create
    rw [if_pos create] at drift'
    exact drift.2.trans drift'.2.symm
  · rename_i update
    rw [if_neg update] at drift'
    exact drift.1.trans drift'.1.symm

/-- The client has answered the write of an apply run. -/
def WriteAnswered (handler : MistHandler) (args : ChangeSetArgs) (caller : Option CallerCtx)
    (history : MistHistory) (work : ApplyWork) (answer : Except MistError MistResponse)
    (after : MistHistory) : Prop :=
  ∃ before claimed driftChecked now reads priority,
    WriteReached handler args caller before work claimed driftChecked now reads ∧
      history = before ++ ⟨.executeAs work.writeRequest priority, ()⟩ ::
        ⟨.response, answer⟩ :: after

variable {history : MistHistory} {outcome : ToolOutcome}
  (run : Completes (applyMistChangeSet handler args caller) history outcome)

include run

/-- An answer to a request with a body answers the write of the work. -/
theorem writeAnswered_of_event {before after : MistHistory} {request : MistRequest}
    {priority : CallPriority} {answer : Except MistError MistResponse}
    (events : history = before ++ ⟨.executeAs request priority, ()⟩ ::
      ⟨.response, answer⟩ :: after) (write : IsWrite request) :
    ∃ work, request = work.writeRequest ∧
      WriteAnswered handler args caller history work answer after := by
  subst events
  obtain ⟨work, claimed, driftChecked, now, reads, reached, rfl, _⟩ :=
    applyMistChangeSet_write write run
  exact ⟨work, rfl, before, claimed, driftChecked, now, reads, priority, reached, rfl⟩

/-- Nothing is written after the write of a run. -/
theorem write_notMem_after {before after : MistHistory} {request request' : MistRequest}
    {priority priority' : CallPriority} (write : IsWrite request) (write' : IsWrite request')
    (events : history = before ++ ⟨.executeAs request priority, ()⟩ :: after) :
    (⟨.executeAs request' priority', ()⟩ : MistEvent) ∉ after := by
  subst events
  obtain ⟨work, claimed, driftChecked, now, reads, _, _, later⟩ := applyMistChangeSet_write write run
  have free : (perform .response >>= concludeWrite handler work claimed driftChecked).Ensures
      NoWrite (fun _ _ => True) [] := concludeWrite_ensures
    (fun read past request _ => not_isWrite_of_readAllowed read past request) _ _
  exact not_mem_of_noWrite free write' _ _ later

theorem write_split_unique {before before' after after' : MistHistory}
    {request request' : MistRequest} {priority priority' : CallPriority}
    (write : IsWrite request) (write' : IsWrite request')
    (events : history = before ++ ⟨.executeAs request priority, ()⟩ :: after)
    (events' : history = before' ++ ⟨.executeAs request' priority', ()⟩ :: after') :
    before = before' ∧ after = after' := by
  rcases List.append_eq_append_iff.mp (events.symm.trans events') with
    ⟨more, rfl, tail⟩ | ⟨more, rfl, tail⟩
  · cases more with
    | nil => exact ⟨by simp, (List.cons.inj tail).2⟩
    | cons first more =>
        obtain ⟨rfl, rfl⟩ := List.cons.inj tail
        exact absurd (List.mem_append_right more List.mem_cons_self)
          (write_notMem_after run write write' events)
  · cases more with
    | nil => exact ⟨by simp, (List.cons.inj tail).2.symm⟩
    | cons first more =>
        obtain ⟨rfl, rfl⟩ := List.cons.inj tail
        exact absurd (List.mem_append_right more List.mem_cons_self)
          (write_notMem_after run write' write events')

/-- A run writes once. -/
theorem WriteAnswered.unique {work work' : ApplyWork}
    {answer answer' : Except MistError MistResponse} {after after' : MistHistory}
    (answered : WriteAnswered handler args caller history work answer after)
    (answered' : WriteAnswered handler args caller history work' answer' after') :
    work = work' ∧ answer = answer' ∧ after = after' := by
  obtain ⟨before, claimed, driftChecked, now, reads, priority, reached, events⟩ := answered
  obtain ⟨before', claimed', driftChecked', now', reads', priority', reached', events'⟩ := answered'
  have write : IsWrite work.writeRequest := nofun
  have write' : IsWrite work'.writeRequest := nofun
  obtain ⟨rfl, tails⟩ := write_split_unique run write write' events events'
  obtain ⟨first, rest⟩ := List.cons.inj tails
  exact ⟨(reached.unique reached').1, eq_of_heq (Event.mk.inj first).2, rest⟩

/-- A run whose write was answered ends in one of the three ways. -/
theorem conclusion_of_answered {work : ApplyWork} {answer : Except MistError MistResponse}
    {after : MistHistory}
    (answered : WriteAnswered handler args caller history work answer after) :
    ∃ before claimed driftChecked now reads priority,
      WriteReached handler args caller before work claimed driftChecked now reads ∧
      history = before ++ ⟨.executeAs work.writeRequest priority, ()⟩ ::
        ⟨.response, answer⟩ :: after ∧
      Conclusion handler work claimed driftChecked (⟨.response, answer⟩ :: after) outcome := by
  obtain ⟨before, claimed, driftChecked, now, reads, priority, reached, rfl⟩ := answered
  have write : IsWrite work.writeRequest := nofun
  obtain ⟨work', claimed', driftChecked', now', reads', reached', _, later⟩ :=
    applyMistChangeSet_write write run
  obtain ⟨rfl, rfl, rfl, rfl⟩ := reached.unique reached'
  exact ⟨before, claimed, driftChecked, now, reads, priority, reached, rfl,
    concludeWrite_completes later⟩

end Answers

end RustMist

/-! A run that creates a network and reads it again. -/

namespace RustMist.Network

open Effects Effects.Program

/-- The created network carries the identifier that the service has assigned. -/
def created : Json.Value := ⟨.object [("id", .string networkId), ("name", .string "lan")], rfl⟩

/-- The answer of the client to the write. -/
def createdResponse : MistResponse := ⟨"createOrgNetwork", 200, .json created, none, none⟩

/-- The events after the answer to the write, for a read that does not verify it. -/
def creationAfter (reads : MistHistory) : MistHistory :=
  reads ++
    [⟨.resultReceipt "stdio" "change" (objectKey .network none) "stdio" false "write not verified",
        .ok ()⟩,
      ⟨.updateChangeSet (settled (creationClaim network) false), .ok ()⟩]

def creationHistory (reads : MistHistory) : MistHistory :=
  creationSent none network ++ (⟨.response, .ok createdResponse⟩ :: creationAfter reads)

def creationOutcome : ToolOutcome :=
  .ok (toolResult (.ok (applyResponse (args none) (settled (creationClaim network) false) networkId
    false false)))

theorem created_found : finalObjectId (creation none network) createdResponse = .ok networkId := by
  rfl

theorem createdResponse_success : isSuccess createdResponse.status = true := by
  decide

section Runs

variable {reads : MistHistory} {result : CallToolResult}

theorem creation_completes
    (read : Completes (dispatchCataloguedRead handler (read "apply_mist_change_set") none) reads
      result)
    (unverified : isVerified result network = false) :
    Completes (applyMistChangeSet handler (args none) none) (creationHistory reads)
      creationOutcome := by
  have concluded : Completes (perform .response >>= concludeWrite handler (creation none network)
      (creationClaim network) false) _ _ := concludeWrite_judges rfl created_found read
  have verdict : isVerified result (creation none network).after = false := unverified
  rw [verdict] at concluded
  exact (creation_sends none rfl).trans concluded

/-- The client has answered the write of such a run. -/
theorem creation_answered (reads : MistHistory) :
    WriteAnswered handler (args none) none (creationHistory reads) (creation none network)
      (.ok createdResponse) (creationAfter reads) :=
  ⟨creationEvents none network, creationClaim network, false, 0, [], callPriorityFor none,
    creation_reached none rfl, by
      rw [creationHistory, creationSent, List.append_assoc]
      rfl⟩

end Runs

section Verification

theorem created_read : Completes (dispatchCataloguedRead handler (read "apply_mist_change_set") none)
    (readEvents created) (readResult created) :=
  read_completes "apply_mist_change_set" (validate_response (by decide +kernel) (by decide))

theorem created_returned : (readResult created).isError ≠ some true := by
  decide +kernel

theorem created_unverified : isVerified (readResult created) network = false := by
  have different : created.val.same network = false := by decide
  unfold isVerified
  rw [if_neg created_returned, readData_readResult created_returned]
  exact different

theorem creation_reread :
    Reread handler (creation none network) networkId (creationAfter (readEvents created))
      created.val :=
  ⟨readEvents created, _, readResult created, rfl, created_read, created_returned,
    readData_readResult created_returned⟩

/-- The created network agrees with every staged member. -/
theorem created_agrees : network.projects created.val = true := by
  decide

theorem lost_unverified : isVerified lostResult network = false := by
  unfold isVerified
  exact if_pos (toolResult_error _)

end Verification

end RustMist.Network
