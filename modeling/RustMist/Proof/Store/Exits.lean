import RustMist.Proof.Apply.Drift
import RustMist.Proof.Apply.Conclusion
import RustMist.Proof.Store.Shelf
import RustMist.Proof.Store.Settling

/-! How an apply run leaves its change set. -/

namespace RustMist

open Effects Effects.Program

variable [ServerPlatform]

section Exits

/-- This event changes no change set, sends no write and tries no update. -/
structure Idle (event : MistEvent) : Prop where
  store : ¬ChangesStore event.op event.answer
  send : ∀ request priority, event.op = .executeAs request priority → ¬IsWrite request
  update : ∀ record, event.op ≠ .updateChangeSet record

/-- A run either changes nothing at all or has sent its write. -/
def IdleOrWrites (history : MistHistory) : Prop :=
  (∀ event ∈ history, Idle event) ∨ ∃ request priority,
    IsWrite request ∧ (⟨.executeAs request priority, ()⟩ : MistEvent) ∈ history

omit [ServerPlatform] in
theorem IdleOrWrites.append {reads more : MistHistory} (idle : ∀ event ∈ reads, Idle event)
    (ends : IdleOrWrites more) : IdleOrWrites (reads ++ more) := by
  rcases ends with quiet | ⟨request, priority, write, member⟩
  · exact .inl fun event member => (List.mem_append.mp member).elim (idle event) (quiet event)
  · exact .inr ⟨request, priority, write, List.mem_append_right reads member⟩

omit [ServerPlatform] in
theorem IdleOrWrites.cons {event : MistEvent} {more : MistHistory} (idle : Idle event)
    (ends : IdleOrWrites more) : IdleOrWrites (event :: more) := by
  have single : ∀ other ∈ [event], Idle other :=
    fun _ member => List.mem_singleton.mp member ▸ idle
  exact IdleOrWrites.append single ends

omit [ServerPlatform] in
theorem IdleOrWrites.nil : IdleOrWrites [] :=
  .inl fun _ member => absurd member List.not_mem_nil

variable {handler : MistHandler} {args : ChangeSetArgs} {caller : Option CallerCtx}
  {work : ApplyWork} {driftChecked : Bool} {history : MistHistory} {outcome : ToolOutcome}

/-- A catalogued read is idle. -/
theorem idle_of_read {read : CatalogRead} {rest : MistProgram CallToolResult}
    (run : Run (dispatchCataloguedRead handler read caller) history rest) :
    ∀ event ∈ history, Idle event := by
  intro event member
  have reading := isReadOp_of_mem run event member
  obtain ⟨op, answer⟩ := event
  refine ⟨?_, ?_, ?_⟩
  · cases op <;> first | exact id | exact reading.elim
  · rintro request priority rfl write
    exact not_mem_of_noWrite read_noWrite write _ _ run member
  · rintro record rfl
    exact reading

omit [ServerPlatform] in
theorem IdleOrWrites.of_pure {value : ToolOutcome}
    (run : Completes (Program.pure value) history outcome) : IdleOrWrites history := by
  obtain ⟨rfl, _⟩ := (completes_pure_iff _ _ _).mp run
  exact .nil

theorem claimAndWrite_exits
    (run : Completes (claimAndWrite handler work driftChecked) history outcome) :
    IdleOrWrites history := by
  obtain ⟨answer, later, rfl, claim⟩ := (completes_ask_iff _ _ _ _).mp run
  cases answer with
  | error error => exact .cons ⟨id, nofun, nofun⟩ (.of_pure claim)
  | ok claimed =>
      obtain ⟨_, last, rfl, _⟩ := (completes_ask_iff _ _ _ _).mp claim
      exact .inr ⟨work.writeRequest, _, nofun, List.mem_cons_of_mem _ List.mem_cons_self⟩

theorem issueApply_exits
    (run : Completes (issueApply handler work driftChecked) history outcome) :
    IdleOrWrites history := by
  unfold issueApply at run
  split at run
  · exact .of_pure run
  · split at run
    · obtain ⟨answer, later, rfl, intent⟩ := (completes_ask_iff _ _ _ _).mp run
      have first : Idle ⟨.applyIntent (applyRequestId work.caller) work.record.id
        work.record.device (principal work.caller), answer⟩ := ⟨id, nofun, nofun⟩
      apply IdleOrWrites.cons first
      cases answer with
      | error reason => exact .of_pure intent
      | ok _ => exact claimAndWrite_exits intent
    · exact claimAndWrite_exits run

/-- An apply of an update has read another object than the one that was planned on. -/
def Drifted (handler : MistHandler) (args : ChangeSetArgs) (caller : Option CallerCtx)
    (history : MistHistory) (work : ApplyWork) : Prop :=
  ∃ current more, DriftReread handler args caller history work current more ∧
    stateFingerprint current ≠ work.record.expectedCandidateFingerprint

/-- These are the events of a settled drift. -/
theorem settleDrift_completes (run : Completes (settleDrift work) history outcome) :
    (∃ error, history =
      [⟨.claimChangeSetForApply work.record.id work.record.device .expected, .error error⟩]) ∨
    ∃ claimed update, history =
      [⟨.claimChangeSetForApply work.record.id work.record.device .expected, .ok claimed⟩,
        ⟨.updateChangeSet (settled claimed false), update⟩] := by
  obtain ⟨answer, later, rfl, settles⟩ := (completes_ask_iff _ _ _ _).mp run
  cases answer with
  | error error =>
      obtain ⟨rfl, _⟩ := (completes_pure_iff _ _ _).mp settles
      exact .inl ⟨error, rfl⟩
  | ok claimed =>
      obtain ⟨⟨update, rfl⟩, _⟩ := abandonApply_completes settles
      exact .inr ⟨claimed, update, rfl⟩

/-- A drifted run settles its drift and does nothing else. -/
theorem Drifted.settles (drifted : Drifted handler args caller history work)
    (run : Completes (applyMistChangeSet handler args caller) history outcome) :
    ∃ before more, history = before ++ more ∧ (∀ event ∈ before, Idle event) ∧
      Completes (settleDrift work) more outcome := by
  obtain ⟨current, more, reread, different⟩ := drifted
  have checked := reread.checked run
  rw [if_pos different] at checked
  obtain ⟨_, _, now, reads, result, rfl, read, _⟩ := reread
  rw [← List.append_assoc]
  refine ⟨_, more, rfl, fun event member => ?_, checked⟩
  rcases List.mem_append.mp member with early | late
  · simp only [List.mem_cons, List.not_mem_nil, or_false] at early
    rcases early with rfl | rfl | rfl <;> exact ⟨id, nofun, nofun⟩
  · exact idle_of_read read event late

/-- Every completed run changes nothing, settles a drift or sends its write. -/
theorem applyMistChangeSet_completes
    (run : Completes (applyMistChangeSet handler args caller) history outcome) :
    IdleOrWrites history ∨ ∃ work, Drifted handler args caller history work := by
  obtain ⟨guard, history₁, rfl, guarded⟩ := (completes_ask_iff _ _ _ _).mp run
  have first : Idle ⟨.deviceGuard (objectKey args.object args.objectId), guard⟩ :=
    ⟨id, nofun, nofun⟩
  cases guard with
  | error error => exact .inl (.cons first (.of_pure guarded))
  | ok _ =>
      obtain ⟨fetch, history₂, rfl, fetched⟩ := (completes_ask_iff _ _ _ _).mp guarded
      have second : Idle ⟨.changeSet args.changeSetId (objectKey args.object args.objectId),
        fetch⟩ := ⟨id, nofun, nofun⟩
      cases fetch with
      | error error => exact .inl (.cons first (.cons second (.of_pure fetched)))
      | ok record =>
          change Completes (applyRecord handler args caller record) _ _ at fetched
          unfold applyRecord at fetched
          split at fetched
          · exact .inl (.cons first (.cons second (.of_pure fetched)))
          · obtain ⟨time, history₃, rfl, timed⟩ := (completes_ask_iff _ _ _ _).mp fetched
            have third : Idle ⟨.systemTime, time⟩ := ⟨id, nofun, nofun⟩
            have settle (ends : IdleOrWrites history₃) : IdleOrWrites _ :=
              .cons first (.cons second (.cons third ends))
            cases time with
            | error reason => exact .inl (settle (.of_pure timed))
            | ok now =>
                change Completes (if now > record.expiresAtUnix then _ else _) _ _ at timed
                split at timed
                · exact .inl (settle (.of_pure timed))
                · split at timed
                  · exact .inl (settle (.of_pure timed))
                  · rename_i work prepared
                    obtain ⟨rfl, rfl, rfl, _⟩ := prepareWork_ok prepared
                    unfold applyWork at timed
                    split at timed
                    · exact .inl (settle (issueApply_exits timed))
                    · rename_i update
                      obtain ⟨result, reads, more, rfl, read, checked⟩ :=
                        (completes_bind_iff _ _ _ _).mp timed
                      have passed (ends : IdleOrWrites more) : IdleOrWrites _ :=
                        settle (.append (idle_of_read read) ends)
                      split at checked
                      · exact .inl (passed (.of_pure checked))
                      · rename_i returned
                        split at checked
                        · exact .inl (passed (.of_pure checked))
                        · rename_i current data
                          split at checked
                          · rename_i drifted
                            exact .inr ⟨work, current, more, ⟨prepared, by simpa using update, now,
                              reads, result, rfl, read, returned, data⟩, drifted⟩
                          · exact .inl (passed (issueApply_exits checked))

end Exits

section Conclusions

variable {handler : MistHandler} {args : ChangeSetArgs} {caller : Option CallerCtx}
  {work : ApplyWork} {claimed : ChangeSetRecord} {driftChecked : Bool}
  {before history : MistHistory} {outcome : ToolOutcome}

/-- What follows a write updates the claimed record and claims nothing. -/
def SettlesOnly (record : ChangeSetRecord) : Op → Prop
  | .claimChangeSetForApply _ _ _ => False
  | .updateChangeSet updated => updated = record
  | _ => True

omit [ServerPlatform] in
theorem settlesOnly_of_isReadOp {record : ChangeSetRecord} {op : Op} (reading : IsReadOp op) :
    SettlesOnly record op := by
  cases op <;> trivial

omit [ServerPlatform] in
theorem ReceiptEvents.settlesOnly {record : ChangeSetRecord} {success : Bool} {reason : String}
    {receipt : MistHistory}
    (recorded : ReceiptEvents handler work claimed success reason receipt) :
    ∀ event ∈ receipt, SettlesOnly record event.op := by
  unfold ReceiptEvents at recorded
  intro event member
  split at recorded
  · obtain ⟨answer, rfl⟩ := recorded
    rw [List.mem_singleton.mp member]
    trivial
  · rw [recorded] at member
    cases member

/-- Every way in which a run ends after its write updates the claimed record once. -/
theorem Conclusion.update
    (concluded : Conclusion handler work claimed driftChecked history outcome) :
    ∃ verified update,
      (⟨.updateChangeSet (settled claimed verified), update⟩ : MistEvent) ∈ history ∧
        ∀ event ∈ history, SettlesOnly (settled claimed verified) event.op := by
  cases concluded with
  | failed error update message => exact ⟨false, update, by simp, by simp [SettlesOnly]⟩
  | unusable response reason receipt update refused recorded =>
      refine ⟨false, update, by simp, fun event member => ?_⟩
      simp only [List.mem_cons, List.mem_append, List.not_mem_nil, or_false] at member
      rcases member with rfl | early | rfl
      · trivial
      · exact recorded.settlesOnly event early
      · exact rfl
  | judged response objectId reason reads receipt result update outcome found read recorded answered =>
      refine ⟨isVerified result work.after, update, by simp, fun event member => ?_⟩
      simp only [List.mem_cons, List.mem_append, List.not_mem_nil, or_false] at member
      rcases member with rfl | early | early | rfl
      · trivial
      · exact settlesOnly_of_isReadOp (isReadOp_of_mem read event early)
      · exact recorded.settlesOnly event early
      · exact rfl

/-- Up to its write a run claims the fetched record and updates nothing. -/
theorem WriteReached.claims {now : UInt64} {reads : MistHistory}
    (reached : WriteReached handler args caller before work claimed driftChecked now reads) :
    (∀ id device handle claimed', (⟨.claimChangeSetForApply id device handle, .ok claimed'⟩ :
      MistEvent) ∈ before → claimed' = claimed) ∧
    ∀ record answer, (⟨.updateChangeSet record, answer⟩ : MistEvent) ∉ before := by
  have quiet (event : MistEvent) (present : event ∈ reads) := reached.drift.readOps event present
  rw [reached.events]
  constructor
  · intro id device handle claimed' member
    simp only [List.mem_append, List.mem_cons, List.not_mem_nil, or_false, Event.mk.injEq,
      reduceCtorEq, false_and, false_or, intentEvents] at member
    rcases member with early | intent | ⟨operation, answer⟩
    · exact (quiet _ early).elim
    · split at intent <;> simp at intent
    · cases operation
      exact Except.ok.inj (eq_of_heq answer)
  · intro record answer member
    simp only [List.mem_append, List.mem_cons, List.not_mem_nil, or_false, Event.mk.injEq,
      reduceCtorEq, false_and, false_or, intentEvents] at member
    rcases member with early | intent
    · exact quiet _ early
    · split at intent <;> simp at intent

/-- A settled drift updates the claimed record once. -/
theorem settleDrift_settles {id device : String} {handle : ApplyHandle}
    (run : Completes (settleDrift work) history outcome)
    (claim : (⟨.claimChangeSetForApply id device handle, .ok claimed⟩ : MistEvent) ∈ history) :
    ∃ update, (⟨.updateChangeSet (settled claimed false), update⟩ : MistEvent) ∈ history ∧
      ∀ record answer, (⟨.updateChangeSet record, answer⟩ : MistEvent) ∈ history →
        record = settled claimed false := by
  rcases settleDrift_completes run with ⟨error, rfl⟩ | ⟨claimed', update, rfl⟩
  · obtain ⟨operation, answer⟩ := Event.mk.inj (List.mem_singleton.mp claim)
    cases operation
    cases eq_of_heq answer
  · obtain rfl : claimed = claimed' := by
      simp only [List.mem_cons, Event.mk.injEq, reduceCtorEq, false_and, List.not_mem_nil,
        or_false] at claim
      obtain ⟨operation, answer⟩ := claim
      cases operation
      exact Except.ok.inj (eq_of_heq answer)
    refine ⟨update, by simp, fun record answer present => ?_⟩
    simp only [List.mem_cons, Event.mk.injEq, reduceCtorEq, false_and, List.not_mem_nil,
      or_false, false_or] at present
    exact Op.updateChangeSet.inj present.1

/-- A run that has claimed its change set updates the claimed record once. -/
theorem claimed_settles {id device : String} {handle : ApplyHandle}
    (run : Completes (applyMistChangeSet handler args caller) history outcome)
    (claim : (⟨.claimChangeSetForApply id device handle, .ok claimed⟩ : MistEvent) ∈ history) :
    ∃ verified update,
      (⟨.updateChangeSet (settled claimed verified), update⟩ : MistEvent) ∈ history ∧
        ∀ record answer, (⟨.updateChangeSet record, answer⟩ : MistEvent) ∈ history →
          record = settled claimed verified := by
  rcases applyMistChangeSet_completes run with (idle | ⟨request, priority, write, member⟩) |
    ⟨work, drifted⟩
  · exact absurd trivial (idle _ claim).store
  · obtain ⟨before, after, rfl⟩ := List.append_of_mem member
    obtain ⟨work, claimed', driftChecked, now, reads, reached, rfl, later⟩ :=
      applyMistChangeSet_write write run
    obtain ⟨verified, update, updated, only⟩ := (concludeWrite_completes later).update
    obtain ⟨claims, quiet⟩ := reached.claims
    obtain rfl : claimed = claimed' := by
      rcases List.mem_append.mp claim with early | late
      · exact claims _ _ _ _ early
      · rcases List.mem_cons.mp late with same | last
        · cases (Event.mk.inj same).1
        · exact (only _ last).elim
    refine ⟨verified, update, List.mem_append_right _ (List.mem_cons_of_mem _ updated), ?_⟩
    intro record answer present
    rcases List.mem_append.mp present with early | late
    · exact absurd early (quiet record answer)
    · rcases List.mem_cons.mp late with same | last
      · cases (Event.mk.inj same).1
      · exact only _ last
  · obtain ⟨before, more, rfl, idle, settles⟩ := drifted.settles run
    have late : (⟨.claimChangeSetForApply id device handle, .ok claimed⟩ : MistEvent) ∈ more :=
      (List.mem_append.mp claim).resolve_left fun early => (idle _ early).store trivial
    obtain ⟨update, updated, only⟩ := settleDrift_settles settles late
    refine ⟨false, update, List.mem_append_right _ updated, fun record answer present => ?_⟩
    rcases List.mem_append.mp present with early | last
    · exact absurd rfl ((idle _ early).update record)
    · exact only record answer last

end Conclusions

section Store

variable {world : World mist}

def SendsNoWrite (history : MistHistory) : Prop :=
  ∀ request priority, IsWrite request → (⟨.executeAs request priority, ()⟩ : MistEvent) ∉ history

/-- None of these events changes what the store holds. -/
def LeavesStore (contract : StoreContract world) (history : MistHistory) : Prop :=
  ∀ event ∈ history, ∀ state state', world.Step state event.op event.answer state' →
    contract.find state' = contract.find state

variable {handler : MistHandler} {args : ChangeSetArgs} {caller : Option CallerCtx}
  {work : ApplyWork} {history : MistHistory} {outcome : ToolOutcome}

/-- A run that neither claims nor drifts leaves everything as it was. -/
theorem refused_leaves (contract : StoreContract world)
    (run : Completes (applyMistChangeSet handler args caller) history outcome)
    (unclaimed : ∀ claimed, ¬ClaimedBefore history claimed)
    (undrifted : ∀ work, ¬Drifted handler args caller history work) :
    SendsNoWrite history ∧ LeavesStore contract history := by
  rcases applyMistChangeSet_completes run with (idle | ⟨request, priority, write, member⟩) |
    ⟨work, drifted⟩
  · constructor
    · exact fun request priority write member => (idle _ member).send request priority rfl write
    · exact fun event member state state' answered =>
        contract.stays state event.op event.answer state' (idle event member).store answered
  · obtain ⟨before, after, rfl⟩ := List.append_of_mem member
    obtain ⟨work, claimed, driftChecked, now, reads, reached, _⟩ :=
      applyMistChangeSet_write write run
    have claim : ClaimedBefore before claimed := ⟨_, _, _, reached.claimed_mem⟩
    exact absurd (claim.append _) (unclaimed claimed)
  · exact absurd drifted (undrifted work)

/-- A drifted run sends no write and claims its change set to settle it as failed. -/
theorem Drifted.fails (drifted : Drifted handler args caller history work)
    (run : Completes (applyMistChangeSet handler args caller) history outcome) :
    SendsNoWrite history ∧ ∃ answer,
      (⟨.claimChangeSetForApply work.record.id work.record.device .expected, answer⟩ : MistEvent) ∈
        history ∧
      ∀ claimed, answer = .ok claimed → ∃ update,
        (⟨.updateChangeSet (settled claimed false), update⟩ : MistEvent) ∈ history := by
  obtain ⟨before, more, rfl, idle, settles⟩ := drifted.settles run
  have quiet : SendsNoWrite more := by
    intro request priority write member
    rcases settleDrift_completes settles with ⟨error, rfl⟩ | ⟨claimed, update, rfl⟩ <;>
      simp at member
  constructor
  · intro request priority write member
    rcases List.mem_append.mp member with early | late
    · exact (idle _ early).send request priority rfl write
    · exact quiet request priority write late
  · rcases settleDrift_completes settles with ⟨error, rfl⟩ | ⟨claimed, update, rfl⟩
    · exact ⟨.error error, by simp, nofun⟩
    · refine ⟨.ok claimed, by simp, fun claimed' same => ?_⟩
      obtain rfl := Except.ok.inj same
      exact ⟨update, by simp⟩

/-- An apply that ends before its claim leaves the store as it was, unless it has found a drift; a
drift is settled as failed without a write; and what was claimed is left applied or failed. -/
theorem applyMistChangeSet_exits {ι : Type} [DecidableEq ι] {calls : ι → ToolCall}
    {callers : ι → Option CallerCtx} (contract : StoreContract world) (initial state : world.State)
    (trace : Trace ι mist) (pool : ι → MistProgram ToolOutcome)
    (run : Interleaved world (fun thread => (calls thread).program handler (callers thread)) initial
      trace pool state)
    (thread : ι) (args : ChangeSetArgs) (outcome : ToolOutcome)
    (call : calls thread = .apply args) (returned : pool thread = .pure outcome) :
    ((∀ claimed, ¬ClaimedBefore (trace.ofThread thread) claimed) →
      (∀ work, ¬Drifted handler args (callers thread) (trace.ofThread thread) work) →
        SendsNoWrite (trace.ofThread thread) ∧ LeavesStore contract (trace.ofThread thread)) ∧
    (∀ work, Drifted handler args (callers thread) (trace.ofThread thread) work →
      SendsNoWrite (trace.ofThread thread) ∧ ∃ answer,
        (⟨.claimChangeSetForApply work.record.id work.record.device .expected, answer⟩ :
          MistEvent) ∈ trace.ofThread thread ∧
        ∀ claimed, answer = .ok claimed → ∃ update,
          (⟨.updateChangeSet (settled claimed false), update⟩ : MistEvent) ∈
            trace.ofThread thread ∧
          (update = .ok () → contract.find state work.record.id = some (settled claimed false))) ∧
    (∀ id device handle claimed,
      (⟨.claimChangeSetForApply id device handle, .ok claimed⟩ : MistEvent) ∈
        trace.ofThread thread → ∃ verified update,
          (⟨.updateChangeSet (settled claimed verified), update⟩ : MistEvent) ∈
            trace.ofThread thread ∧
          (update = .ok () → contract.find state id = some (settled claimed verified))) := by
  have own := run.thread_run thread
  rw [call, returned] at own
  change Completes (applyMistChangeSet handler args (callers thread)) _ _ at own
  have settles (id device : String) (handle : ApplyHandle) (claimed : ChangeSetRecord)
      (claim : (⟨.claimChangeSetForApply id device handle, .ok claimed⟩ : MistEvent) ∈
        trace.ofThread thread) (verified : Bool) (update : Except CoordinatorError Unit)
      (updated : (⟨.updateChangeSet (settled claimed verified), update⟩ : MistEvent) ∈
        trace.ofThread thread) (accepted : update = .ok ()) :
      contract.find state id = some (settled claimed verified) := by
    obtain ⟨verified', _, _, only⟩ := claimed_settles own claim
    subst accepted
    have same := only _ _ updated
    refine settled_at_end contract run (Trace.mem_ofThread.mp claim)
      (Trace.mem_ofThread.mp updated) fun record answer present => ?_
    rw [only record answer present, same]
  refine ⟨refused_leaves contract own, fun work drifted => ?_, ?_⟩
  · obtain ⟨quiet, answer, claim, fails⟩ := drifted.fails own
    refine ⟨quiet, answer, claim, fun claimed accepted => ?_⟩
    obtain ⟨update, updated⟩ := fails claimed accepted
    subst accepted
    exact ⟨update, updated, settles _ _ _ claimed claim false update updated⟩
  · intro id device handle claimed claim
    obtain ⟨verified, update, updated, _⟩ := claimed_settles own claim
    exact ⟨verified, update, updated, settles id device handle claimed claim verified update updated⟩

end Store

end RustMist

namespace RustMist.Network

open Effects Effects.Program

/-- The shelf holds the approved change set alone. -/
def approvedShelf : Shelf := Shelf.empty.put (record none .null network)

def claimedShelf : Shelf := approvedShelf.put (creationClaim network)

def failedShelf : Shelf := claimedShelf.put (settled (creationClaim network) false)

/-- The shelf answers the run that creates the network and does not verify it. -/
theorem creationHistory_answered : Shelf.world.Answers approvedShelf
    (creationHistory (readEvents created)) failedShelf := by
  have stored : approvedShelf.find "change" = some (record none .null network) :=
    Shelf.find_put Shelf.empty (record none .null network)
  have claim : Shelf.world.Step approvedShelf
      (.claimChangeSetForApply "change" (objectKey .network none) .none)
      (.ok (creationClaim network)) claimedShelf := ⟨_, stored, rfl, rfl, rfl, rfl⟩
  refine .cons rfl (.cons ⟨stored, rfl, rfl⟩ (.cons rfl (.cons rfl (.cons claim (.cons rfl ?_)))))
  exact .cons rfl (.cons rfl (.cons rfl (.cons rfl (.cons rfl (.cons rfl (.nil _))))))

def creationThread : Trace Unit mist :=
  (creationHistory (readEvents created)).map fun event => ((), event)

theorem creationThread_interleaved : ∃ pool, Interleaved Shelf.world
    (fun _ => (ToolCall.apply (args none)).program handler none) approvedShelf creationThread pool
    failedShelf ∧ pool () = .pure creationOutcome := by
  have unstarted : Interleaved Shelf.world
      (fun _ : Unit => (ToolCall.apply (args none)).program handler none) approvedShelf []
      (fun _ => (ToolCall.apply (args none)).program handler none) approvedShelf := .start
  have run : Completes ((ToolCall.apply (args none)).program handler none)
      (creationHistory (readEvents created)) creationOutcome :=
    creation_completes created_read created_unverified
  obtain ⟨pool, interleaved, returned, _⟩ := unstarted.extend run creationHistory_answered
  exact ⟨pool, interleaved, returned⟩

theorem creationThread_history :
    creationThread.ofThread () = creationHistory (readEvents created) := by
  simp [creationThread, Trace.ofThread]

/-- The run is left failed, as its read has not verified the write. -/
theorem applyMistChangeSet_exits_creation :
    (∃ verified update,
      (⟨.updateChangeSet (settled (creationClaim network) verified), update⟩ : MistEvent) ∈
        creationHistory (readEvents created) ∧
      (update = .ok () → failedShelf.find "change" =
        some (settled (creationClaim network) verified))) := by
  obtain ⟨pool, run, returned⟩ := creationThread_interleaved
  have exits := applyMistChangeSet_exits Shelf.contract approvedShelf failedShelf creationThread
    pool run () (args none) creationOutcome rfl returned
  rw [creationThread_history] at exits
  have claim : (⟨.claimChangeSetForApply "change" (objectKey .network none) .none,
      .ok (creationClaim network)⟩ : MistEvent) ∈ creationHistory (readEvents created) := by
    simp [creationHistory, creationSent, creationEvents]
  exact exits.2.2 "change" (objectKey .network none) .none (creationClaim network) claim

end RustMist.Network
