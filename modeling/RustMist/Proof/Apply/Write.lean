import RustMist.Proof.Apply.Requests

/-! What an apply run has done when its write is sent. -/

namespace RustMist

open Effects Effects.Program

variable [ServerPlatform]

/-- The drift check of an update read an object with the staged fingerprint. An update is a record
that was staged from an object that is not null. -/
def DriftPassed (handler : MistHandler) (work : ApplyWork) (reads : MistHistory)
    (driftChecked : Bool) : Prop :=
  if work.isCreate then reads = [] ∧ driftChecked = false
  else driftChecked = true ∧ ∃ result current,
    Completes (dispatchCataloguedRead handler
      (objectRead "apply_mist_change_set" work.target work.objectId work.orgId) work.caller)
      reads result ∧ result.isError ≠ some true ∧ readData result = .ok current ∧
      stateFingerprint current = work.record.expectedCandidateFingerprint

/-- The intent is persisted where a recorder is configured. -/
def intentEvents (handler : MistHandler) (work : ApplyWork) : MistHistory :=
  if handler.evidence then
    [⟨.applyIntent (applyRequestId work.caller) work.record.id work.record.device
      (principal work.caller), .ok ()⟩]
  else []

/-- These are the events of an apply run up to its write. -/
structure WriteReached (handler : MistHandler) (args : ChangeSetArgs) (caller : Option CallerCtx)
    (before : MistHistory) (work : ApplyWork) (claimed : ChangeSetRecord) (driftChecked : Bool)
    (now : UInt64) (reads : MistHistory) : Prop where
  events : before =
    [⟨.deviceGuard (objectKey args.object args.objectId), .ok ()⟩,
      ⟨.changeSet args.changeSetId (objectKey args.object args.objectId), .ok work.record⟩,
      ⟨.systemTime, .ok now⟩] ++ (reads ++ (intentEvents handler work ++
        [⟨.claimChangeSetForApply work.record.id work.record.device .none, .ok claimed⟩]))
  approved : work.record.state = .approved
  unexpired : now ≤ work.record.expiresAtUnix
  prepared : prepareWork args caller work.record = .ok work
  allowed : work.orgId ∈ handler.allowedOrgs
  drift : DriftPassed handler work reads driftChecked

section Stages

variable {handler : MistHandler} {work : ApplyWork} {driftChecked : Bool}
  {before after : MistHistory} {request : MistRequest} {priority : CallPriority}
  {rest : MistProgram ToolOutcome}

theorem claimAndWrite_write (write : IsWrite request)
    (run : Run (claimAndWrite handler work driftChecked)
      (before ++ ⟨.executeAs request priority, ()⟩ :: after) rest) :
    ∃ claimed, before =
      [⟨.claimChangeSetForApply work.record.id work.record.device .none, .ok claimed⟩] ∧
      request = work.writeRequest ∧
      Run (perform .response >>= concludeWrite handler work claimed driftChecked) after rest := by
  obtain ⟨answer, before', rfl, claim⟩ := run.seek_ask nofun
  cases answer with
  | error error => exact claim.seek_pure.elim
  | ok claimed =>
      change Run (perform (.executeAs work.writeRequest (callPriorityFor work.caller)) >>=
        fun _ => perform .response >>= concludeWrite handler work claimed driftChecked) _ _ at claim
      cases before' with
      | nil =>
          cases claim with
          | step op next answer later => exact ⟨claimed, rfl, rfl, later⟩
      | cons first before' =>
          cases claim with
          | step op next answer later =>
              have free : (perform .response >>=
                  concludeWrite handler work claimed driftChecked).Ensures NoWrite
                  (fun _ _ => True) [] := concludeWrite_ensures
                    (fun read past request _ => not_isWrite_of_readAllowed read past request) _ _
              exact absurd (List.mem_append_right before' List.mem_cons_self)
                (not_mem_of_noWrite free write _ _ later)

/-- The organization is allowed and the intent is persisted when the write is sent. -/
theorem issueApply_write (write : IsWrite request)
    (run : Run (issueApply handler work driftChecked)
      (before ++ ⟨.executeAs request priority, ()⟩ :: after) rest) :
    ∃ claimed, before = intentEvents handler work ++
      [⟨.claimChangeSetForApply work.record.id work.record.device .none, .ok claimed⟩] ∧
      request = work.writeRequest ∧ work.orgId ∈ handler.allowedOrgs ∧
      Run (perform .response >>= concludeWrite handler work claimed driftChecked) after rest := by
  unfold issueApply at run
  split at run
  · exact run.seek_pure.elim
  · rename_i allowed
    rw [not_not] at allowed
    unfold intentEvents
    split at run
    · rename_i configured
      rw [if_pos configured]
      obtain ⟨answer, before', rfl, intent⟩ := run.seek_ask nofun
      cases answer with
      | error reason => exact intent.seek_pure.elim
      | ok _ =>
          obtain ⟨claimed, rfl, same, later⟩ := claimAndWrite_write write intent
          exact ⟨claimed, rfl, same, allowed, later⟩
    · rename_i configured
      rw [if_neg configured]
      obtain ⟨claimed, rfl, same, later⟩ := claimAndWrite_write write run
      exact ⟨claimed, rfl, same, allowed, later⟩

/-- An update passes its drift check before its write is sent. -/
theorem checkDrift_write (write : IsWrite request)
    (run : Run (checkDrift handler work)
      (before ++ ⟨.executeAs request priority, ()⟩ :: after) rest) :
    ∃ result current reads more, before = reads ++ more ∧
      Completes (dispatchCataloguedRead handler
        (objectRead "apply_mist_change_set" work.target work.objectId work.orgId) work.caller)
        reads result ∧ result.isError ≠ some true ∧ readData result = .ok current ∧
      stateFingerprint current = work.record.expectedCandidateFingerprint ∧
      Run (issueApply handler work true) (more ++ ⟨.executeAs request priority, ()⟩ :: after)
        rest := by
  have free : (dispatchCataloguedRead handler
      (objectRead "apply_mist_change_set" work.target work.objectId work.orgId) work.caller).Ensures
      NoWrite (fun _ _ => True) [] := read_noWrite
  obtain ⟨result, reads, more, rfl, done, late⟩ := run.seek_bind (not_mem_of_noWrite free write)
  split at late
  · exact late.seek_pure.elim
  · rename_i returned
    split at late
    · exact late.seek_pure.elim
    · rename_i current data
      split at late
      · have drifted : (settleDrift work).Ensures NoWrite (fun _ _ => True) [] := settleDrift_ensures _
        exact absurd (List.mem_append_right more List.mem_cons_self)
          (not_mem_of_noWrite drifted write _ _ late)
      · rename_i same
        exact ⟨result, current, reads, more, rfl, done, returned, data, not_not.mp same, late⟩

theorem applyWork_write (write : IsWrite request)
    (run : Run (applyWork handler work)
      (before ++ ⟨.executeAs request priority, ()⟩ :: after) rest) :
    ∃ reads claimed driftChecked, before = reads ++ (intentEvents handler work ++
      [⟨.claimChangeSetForApply work.record.id work.record.device .none, .ok claimed⟩]) ∧
      DriftPassed handler work reads driftChecked ∧ request = work.writeRequest ∧
      work.orgId ∈ handler.allowedOrgs ∧
      Run (perform .response >>= concludeWrite handler work claimed driftChecked) after rest := by
  unfold applyWork at run
  unfold DriftPassed
  split at run
  · rename_i create
    obtain ⟨claimed, rfl, same, allowed, later⟩ := issueApply_write write run
    exact ⟨[], claimed, false, rfl, by simp [create], same, allowed, later⟩
  · rename_i update
    obtain ⟨result, current, reads, more, rfl, done, returned, data, fingerprint, issued⟩ :=
      checkDrift_write write run
    obtain ⟨claimed, rfl, same, allowed, later⟩ := issueApply_write write issued
    refine ⟨reads, claimed, true, rfl, ?_, same, allowed, later⟩
    rw [if_neg update]
    exact ⟨rfl, result, current, done, returned, data, fingerprint⟩

end Stages

/-- A write of an apply run is the write of its work, and the run has passed every gate. -/
theorem applyMistChangeSet_write {handler : MistHandler} {args : ChangeSetArgs}
    {caller : Option CallerCtx} {before after : MistHistory} {request : MistRequest}
    {priority : CallPriority} {rest : MistProgram ToolOutcome} (write : IsWrite request)
    (run : Run (applyMistChangeSet handler args caller)
      (before ++ ⟨.executeAs request priority, ()⟩ :: after) rest) :
    ∃ work claimed driftChecked now reads,
      WriteReached handler args caller before work claimed driftChecked now reads ∧
      request = work.writeRequest ∧
      Run (perform .response >>= concludeWrite handler work claimed driftChecked) after rest := by
  obtain ⟨guard, before', rfl, guarded⟩ := run.seek_ask nofun
  cases guard with
  | error error => exact guarded.seek_pure.elim
  | ok _ =>
      obtain ⟨fetch, before', rfl, fetched⟩ := guarded.seek_ask nofun
      cases fetch with
      | error error => exact fetched.seek_pure.elim
      | ok record =>
          change Run (applyRecord handler args caller record) _ _ at fetched
          unfold applyRecord at fetched
          split at fetched
          · exact fetched.seek_pure.elim
          · rename_i approved
            obtain ⟨time, before', rfl, timed⟩ := fetched.seek_ask nofun
            cases time with
            | error reason => exact timed.seek_pure.elim
            | ok now =>
                change Run (if now > record.expiresAtUnix then _ else _) _ _ at timed
                split at timed
                · exact timed.seek_pure.elim
                · rename_i unexpired
                  split at timed
                  · exact timed.seek_pure.elim
                  · rename_i work prepared
                    obtain ⟨sameArgs, sameCaller, sameRecord, _⟩ := prepareWork_ok prepared
                    obtain ⟨reads, claimed, driftChecked, rfl, drift, same, allowed, later⟩ :=
                      applyWork_write write timed
                    subst sameRecord
                    exact ⟨work, claimed, driftChecked, now, reads,
                      ⟨rfl, not_not.mp approved, UInt64.not_lt.mp unexpired, prepared, allowed, drift⟩,
                      same, later⟩

section Events

variable {handler : MistHandler} {args : ChangeSetArgs} {caller : Option CallerCtx}
  {work : ApplyWork} {claimed : ChangeSetRecord} {driftChecked : Bool} {reads : MistHistory}

/-- The events of a drift check are those of a read. -/
theorem DriftPassed.readOps (drift : DriftPassed handler work reads driftChecked) :
    ∀ event ∈ reads, IsReadOp event.op := by
  unfold DriftPassed at drift
  split at drift
  · rw [drift.1]
    exact fun event member => absurd member List.not_mem_nil
  · obtain ⟨_, result, current, done, _⟩ := drift
    exact isReadOp_of_mem done

theorem WriteReached.fetched_mem {before : MistHistory} {now : UInt64}
    (reached : WriteReached handler args caller before work claimed driftChecked now reads) :
    (⟨.changeSet args.changeSetId (objectKey args.object args.objectId), .ok work.record⟩ :
      MistEvent) ∈ before := by
  rw [reached.events]
  simp

/-- The events before a write hold the claim of its change set. -/
theorem WriteReached.claimed_mem {before : MistHistory} {now : UInt64}
    (reached : WriteReached handler args caller before work claimed driftChecked now reads) :
    (⟨.claimChangeSetForApply work.record.id work.record.device .none, .ok claimed⟩ : MistEvent) ∈
      before := by
  rw [reached.events]
  simp

/-- A run fetches one record before its write. -/
theorem WriteReached.fetched {before : MistHistory} {now : UInt64} {id device : String}
    {stored : ChangeSetRecord}
    (reached : WriteReached handler args caller before work claimed driftChecked now reads)
    (member : (⟨.changeSet id device, .ok stored⟩ : MistEvent) ∈ before) :
    stored = work.record := by
  have quiet : (⟨.changeSet id device, .ok stored⟩ : MistEvent) ∉ reads :=
    fun present => reached.drift.readOps _ present
  rw [reached.events] at member
  simp only [List.mem_append, List.mem_cons, List.not_mem_nil, or_false, Event.mk.injEq,
    reduceCtorEq, false_and, false_or, or_false, quiet, intentEvents] at member
  rcases member with ⟨_, same⟩ | member
  · simpa using same
  · split at member <;> simp at member

end Events

section Reaching

variable {handler : MistHandler} {args : ChangeSetArgs} {caller : Option CallerCtx}
  {work : ApplyWork} {claimed : ChangeSetRecord} {driftChecked : Bool}

theorem claimAndWrite_reaches : Run (claimAndWrite handler work driftChecked)
    [⟨.claimChangeSetForApply work.record.id work.record.device .none, .ok claimed⟩,
      ⟨.executeAs work.writeRequest (callPriorityFor work.caller), ()⟩]
    (perform .response >>= concludeWrite handler work claimed driftChecked) :=
  .answered (.answered (.start _))

theorem issueApply_reaches (allowed : work.orgId ∈ handler.allowedOrgs) :
    Run (issueApply handler work driftChecked) (intentEvents handler work ++
      [⟨.claimChangeSetForApply work.record.id work.record.device .none, .ok claimed⟩,
        ⟨.executeAs work.writeRequest (callPriorityFor work.caller), ()⟩])
      (perform .response >>= concludeWrite handler work claimed driftChecked) := by
  unfold issueApply intentEvents
  rw [if_neg (not_not.mpr allowed)]
  split
  · exact .answered claimAndWrite_reaches
  · exact claimAndWrite_reaches

theorem applyWork_reaches {reads : MistHistory} (allowed : work.orgId ∈ handler.allowedOrgs)
    (drift : DriftPassed handler work reads driftChecked) :
    Run (applyWork handler work) (reads ++ (intentEvents handler work ++
      [⟨.claimChangeSetForApply work.record.id work.record.device .none, .ok claimed⟩,
        ⟨.executeAs work.writeRequest (callPriorityFor work.caller), ()⟩]))
      (perform .response >>= concludeWrite handler work claimed driftChecked) := by
  unfold DriftPassed at drift
  unfold applyWork
  split at drift
  · rename_i create
    obtain ⟨rfl, rfl⟩ := drift
    rw [if_pos create]
    exact issueApply_reaches allowed
  · rename_i update
    obtain ⟨rfl, result, current, done, returned, data, fingerprint⟩ := drift
    rw [if_neg update]
    refine Run.bind done ?_
    rw [if_neg returned, data]
    change Run (if _ then settleDrift work else issueApply handler work true) _ _
    rw [if_neg (not_not.mpr fingerprint)]
    exact issueApply_reaches allowed

/-- A run that passes every gate sends its write. -/
theorem applyMistChangeSet_reaches {before : MistHistory} {now : UInt64} {reads : MistHistory}
    (reached : WriteReached handler args caller before work claimed driftChecked now reads) :
    Run (applyMistChangeSet handler args caller)
      (before ++ [⟨.executeAs work.writeRequest (callPriorityFor work.caller), ()⟩])
      (perform .response >>= concludeWrite handler work claimed driftChecked) := by
  rw [reached.events, List.append_assoc, List.append_assoc, List.append_assoc]
  refine .answered (.answered ?_)
  change Run (applyRecord handler args caller work.record) _ _
  rw [applyRecord, if_neg (not_not.mpr reached.approved)]
  refine .answered ?_
  change Run (if now > work.record.expiresAtUnix then _ else _) _ _
  rw [if_neg (UInt64.not_lt.mpr reached.unexpired), reached.prepared]
  exact applyWork_reaches reached.allowed reached.drift

end Reaching

end RustMist
