import RustMist.Proof.Apply.Conclusion

/-! What an apply run does to the change-set store. -/

namespace RustMist

open Effects Effects.Program

/-- A request with a body was sent and the client has answered. -/
def WroteBefore (past : MistHistory) : Prop :=
  ∃ before request priority answer after, IsWrite request ∧
    past = before ++ ⟨.executeAs request priority, ()⟩ :: ⟨.response, answer⟩ :: after

theorem WroteBefore.append {past : MistHistory} (wrote : WroteBefore past) (more : MistHistory) :
    WroteBefore (past ++ more) := by
  obtain ⟨before, request, priority, answer, after, write, rfl⟩ := wrote
  exact ⟨before, request, priority, answer, after ++ more, write, by simp⟩

/-- The store has handed out a claimed record. -/
def ClaimedBefore (past : MistHistory) (claimed : ChangeSetRecord) : Prop :=
  ∃ id device handle,
    (⟨.claimChangeSetForApply id device handle, .ok claimed⟩ : MistEvent) ∈ past

/-- An apply claims the approved record that it fetched and updates the record that it claimed. -/
def StoreStep (args : ChangeSetArgs) (past : MistHistory) : Op → Prop
  | .changeSet id device => id = args.changeSetId ∧ device = objectKey args.object args.objectId
  | .claimChangeSetForApply id device _ =>
      ∃ record, (⟨.changeSet args.changeSetId (objectKey args.object args.objectId),
        .ok record⟩ : MistEvent) ∈ past ∧ record.state = .approved ∧ id = record.id ∧
        device = record.device
  | .updateChangeSet record =>
      ∃ claimed verified, record = settled claimed verified ∧ ClaimedBefore past claimed ∧
        (verified = true → WroteBefore past)
  | .insertChangeSet _ | .approveChangeSet _ _ _ _ _ | .waiveApproval _ _ _ _ => False
  | _ => True

theorem storeStep_of_isReadOp {args : ChangeSetArgs} {past : MistHistory} {op : Op}
    (reading : IsReadOp op) : StoreStep args past op := by
  cases op <;> first | exact reading.elim | trivial

variable [ServerPlatform]

section Steps

variable {handler : MistHandler} {args : ChangeSetArgs} {work : ApplyWork} {driftChecked : Bool}
  {claimed : ChangeSetRecord} {past : MistHistory}

theorem read_storeSteps (read : CatalogRead) (caller : Option CallerCtx) :
    (dispatchCataloguedRead handler read caller).Ensures (StoreStep args) (fun _ _ => True) past :=
  (dispatchCataloguedRead_readOps handler read caller past).mono
    (fun _ _ reading => storeStep_of_isReadOp reading) (fun _ _ => id)

omit [ServerPlatform] in
theorem recordReceipt_storeSteps (success : Bool) (reason : String) :
    (recordReceipt handler work claimed success reason).Ensures (StoreStep args)
      (fun _ _ => True) past := by
  unfold recordReceipt
  split
  · exact ensures_ask_iff.mpr ⟨trivial, fun _ => trivial⟩
  · trivial

theorem abandonApply_storeSteps (message : String) (taken : ClaimedBefore past claimed) :
    (abandonApply claimed message).Ensures (StoreStep args) (fun _ _ => True) past :=
  ensures_ask_iff.mpr ⟨⟨claimed, false, rfl, taken, nofun⟩, fun _ => trivial⟩

omit [ServerPlatform] in
theorem ClaimedBefore.append (taken : ClaimedBefore past claimed) (more : MistHistory) :
    ClaimedBefore (past ++ more) claimed := by
  obtain ⟨id, device, handle, member⟩ := taken
  exact ⟨id, device, handle, List.mem_append_left more member⟩

theorem settleDrift_storeSteps
    (fetched : (⟨.changeSet args.changeSetId (objectKey args.object args.objectId),
      .ok work.record⟩ : MistEvent) ∈ past) (approved : work.record.state = .approved) :
    (settleDrift work).Ensures (StoreStep args) (fun _ _ => True) past := by
  refine ensures_ask_iff.mpr ⟨⟨work.record, fetched, approved, rfl, rfl⟩, fun answer => ?_⟩
  cases answer with
  | error error => trivial
  | ok claimed =>
      exact abandonApply_storeSteps _ ⟨_, _, _, List.mem_append_right past List.mem_cons_self⟩

theorem verifyApply_storeSteps (objectId : String) (taken : ClaimedBefore past claimed)
    (wrote : WroteBefore past) :
    (verifyApply handler work claimed objectId driftChecked).Ensures (StoreStep args)
      (fun _ _ => True) past := by
  refine (read_storeSteps _ _).bind fun history result _ => ?_
  refine (recordReceipt_storeSteps _ _).bind fun later _ _ => ?_
  refine ensures_ask_iff.mpr ⟨⟨claimed, _, rfl, (taken.append _).append _,
    fun _ => (wrote.append _).append _⟩, fun answer => ?_⟩
  cases answer <;> trivial

theorem sendWrite_storeSteps (taken : ClaimedBefore past claimed) :
    (sendWrite handler work claimed driftChecked).Ensures (StoreStep args) (fun _ _ => True)
      past := by
  refine ensures_ask_iff.mpr ⟨trivial, fun _ => ?_⟩
  refine ensures_ask_iff.mpr ⟨trivial, fun answer => ?_⟩
  have kept := (taken.append [⟨.executeAs work.writeRequest (callPriorityFor work.caller), ()⟩]).append
    [⟨.response, answer⟩]
  have wrote : WroteBefore (past ++ [⟨.executeAs work.writeRequest (callPriorityFor work.caller),
      ()⟩] ++ [⟨.response, answer⟩]) :=
    ⟨past, work.writeRequest, callPriorityFor work.caller, answer, [], nofun, by simp⟩
  cases answer with
  | error error => exact abandonApply_storeSteps _ kept
  | ok response =>
      unfold concludeWrite
      dsimp only
      cases finalObjectId work response with
      | error reason =>
          refine (recordReceipt_storeSteps _ _).bind fun later _ _ => ?_
          exact abandonApply_storeSteps _ (kept.append _)
      | ok objectId => exact verifyApply_storeSteps _ kept wrote

variable (fetched : (⟨.changeSet args.changeSetId (objectKey args.object args.objectId),
    .ok work.record⟩ : MistEvent) ∈ past) (approved : work.record.state = .approved)

include fetched approved

theorem claimAndWrite_storeSteps :
    (claimAndWrite handler work driftChecked).Ensures (StoreStep args) (fun _ _ => True) past := by
  refine ensures_ask_iff.mpr ⟨⟨work.record, fetched, approved, rfl, rfl⟩, fun answer => ?_⟩
  cases answer with
  | error error => trivial
  | ok claimed =>
      exact sendWrite_storeSteps ⟨_, _, _, List.mem_append_right past List.mem_cons_self⟩

theorem issueApply_storeSteps :
    (issueApply handler work driftChecked).Ensures (StoreStep args) (fun _ _ => True) past := by
  unfold issueApply
  split
  · trivial
  · split
    · refine ensures_ask_iff.mpr ⟨trivial, fun answer => ?_⟩
      cases answer with
      | error reason => trivial
      | ok _ => exact claimAndWrite_storeSteps (List.mem_append_left _ fetched) approved
    · exact claimAndWrite_storeSteps fetched approved

theorem applyWork_storeSteps :
    (applyWork handler work).Ensures (StoreStep args) (fun _ _ => True) past := by
  unfold applyWork
  split
  · exact issueApply_storeSteps fetched approved
  · refine (read_storeSteps _ _).bind fun history result _ => ?_
    split
    · trivial
    · split
      · trivial
      · split
        · exact settleDrift_storeSteps (List.mem_append_left _ fetched) approved
        · exact issueApply_storeSteps (List.mem_append_left _ fetched) approved

end Steps

/-- An apply fetches its change set, claims what it fetched and settles what it claimed. -/
theorem applyMistChangeSet_storeSteps (handler : MistHandler) (args : ChangeSetArgs)
    (caller : Option CallerCtx) :
    (applyMistChangeSet handler args caller).Ensures (StoreStep args) (fun _ _ => True) [] := by
  refine ensures_ask_iff.mpr ⟨trivial, fun guard => ?_⟩
  cases guard with
  | error error => trivial
  | ok _ =>
      refine ensures_ask_iff.mpr ⟨⟨rfl, rfl⟩, fun fetch => ?_⟩
      cases fetch with
      | error error => trivial
      | ok record =>
          dsimp only
          unfold applyRecord
          split
          · trivial
          · rename_i approved
            refine ensures_ask_iff.mpr ⟨trivial, fun time => ?_⟩
            cases time with
            | error reason => trivial
            | ok now =>
                dsimp only
                split
                · trivial
                · split
                  · trivial
                  · rename_i work prepared
                    obtain ⟨_, _, rfl, _⟩ := prepareWork_ok prepared
                    exact applyWork_storeSteps (by simp) (not_not.mp approved)

end RustMist
