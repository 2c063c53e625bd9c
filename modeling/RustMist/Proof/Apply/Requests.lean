import RustMist.Construction.Server.Apply
import RustMist.Proof.Read.Outcome

/-! The requests that the change-set tools send. -/

namespace RustMist

open Effects Effects.Program

/-- A request with a body is a write; the reads of the server have none. -/
def IsWrite (request : MistRequest) : Prop := request.json ≠ none

/-- This guard forbids writes. -/
abbrev NoWrite : MistHistory → Op → Prop := OnSend fun _ request => ¬IsWrite request

variable [ServerPlatform]

/-- A catalogued read sends its own request, which has no body. -/
theorem not_isWrite_of_readAllowed {handler : MistHandler} {caller : Option CallerCtx}
    (read : CatalogRead) (past : MistHistory) (request : MistRequest)
    (allowed : ReadAllowed handler read caller past request) : ¬IsWrite request := by
  obtain ⟨operation, target, admitted⟩ := allowed
  rw [admitted.same]
  exact fun write => write rfl

omit [ServerPlatform] in
/-- A program that sends no write has no write in its runs. -/
theorem not_mem_of_noWrite {α : Type} {program : MistProgram α} {request : MistRequest}
    {priority : CallPriority} (free : program.Ensures NoWrite (fun _ _ => True) [])
    (write : IsWrite request) :
    ∀ history rest, Run program history rest →
      (⟨.executeAs request priority, ()⟩ : MistEvent) ∉ history := by
  intro history rest run member
  obtain ⟨before, after, rfl⟩ := List.append_of_mem member
  exact free.event run request priority rfl write

section Reads

variable {handler : MistHandler} {caller : Option CallerCtx} {read : CatalogRead}
  {allowed : MistHistory → MistRequest → Prop} {past : MistHistory}

/-- A catalogued read keeps every guard that its admitted request meets. -/
theorem read_ensures
    (reads : ∀ past request, ReadAllowed handler read caller past request → allowed past request) :
    (dispatchCataloguedRead handler read caller).Ensures (OnSend allowed) (fun _ _ => True) past :=
  (dispatchCataloguedRead_ensures handler read caller past).mono
    (fun history _ admitted request priority same =>
      reads (past ++ history) request (admitted request priority same))
    (fun _ _ => id)

theorem read_noWrite :
    (dispatchCataloguedRead handler read caller).Ensures NoWrite (fun _ _ => True) past :=
  read_ensures fun past request => not_isWrite_of_readAllowed read past request

end Reads

/-- This is the read of an object for one of the change-set tools. -/
def IsObjectRead (tool : String) (read : CatalogRead) : Prop :=
  ∃ target objectId orgId, read = objectRead tool target objectId orgId

omit [ServerPlatform] in
theorem isObjectRead_objectRead (tool : String) (target : WriteTarget) (objectId orgId : String) :
    IsObjectRead tool (objectRead tool target objectId orgId) := ⟨target, objectId, orgId, rfl⟩

section Apply

variable {handler : MistHandler} {work : ApplyWork} {driftChecked : Bool}
  {allowed : MistHistory → MistRequest → Prop}

theorem abandonApply_ensures (claimed : ChangeSetRecord) (message : String)
    (past : MistHistory) :
    (abandonApply claimed message).Ensures (OnSend allowed) (fun _ _ => True) past :=
  ensures_ask_iff.mpr ⟨nofun, fun _ => trivial⟩

omit [ServerPlatform] in
theorem recordReceipt_ensures (claimed : ChangeSetRecord) (success : Bool) (reason : String)
    (past : MistHistory) :
    (recordReceipt handler work claimed success reason).Ensures (OnSend allowed)
      (fun _ _ => True) past := by
  unfold recordReceipt
  split
  · exact ensures_ask_iff.mpr ⟨nofun, fun _ => trivial⟩
  · trivial

theorem settleDrift_ensures (past : MistHistory) :
    (settleDrift work).Ensures (OnSend allowed) (fun _ _ => True) past := by
  refine ensures_ask_iff.mpr ⟨nofun, fun answer => ?_⟩
  cases answer with
  | error error => trivial
  | ok claimed => exact abandonApply_ensures _ _ _

variable (reads : ∀ (read : CatalogRead) past request, IsObjectRead "apply_mist_change_set" read →
  ReadAllowed handler read work.caller past request → allowed past request)

include reads

theorem verifyApply_ensures (claimed : ChangeSetRecord) (objectId : String)
    (past : MistHistory) :
    (verifyApply handler work claimed objectId driftChecked).Ensures (OnSend allowed)
      (fun _ _ => True) past := by
  refine (read_ensures fun past request => reads _ past request (isObjectRead_objectRead _ _ _ _)).bind fun history result _ => ?_
  refine (recordReceipt_ensures claimed _ _ _).bind fun later _ _ => ?_
  refine ensures_ask_iff.mpr ⟨nofun, fun answer => ?_⟩
  cases answer <;> trivial

/-- Only a verification read follows the write. -/
theorem concludeWrite_ensures (claimed : ChangeSetRecord) (past : MistHistory) :
    (perform .response >>= concludeWrite handler work claimed driftChecked).Ensures
      (OnSend allowed) (fun _ _ => True) past := by
  refine ensures_ask_iff.mpr ⟨nofun, fun answer => ?_⟩
  cases answer with
  | error error => exact abandonApply_ensures _ _ _
  | ok response =>
      unfold concludeWrite
      dsimp only
      cases finalObjectId work response with
      | error reason =>
          refine (recordReceipt_ensures claimed _ _ _).bind fun later _ _ => ?_
          exact abandonApply_ensures _ _ _
      | ok objectId => exact verifyApply_ensures reads _ _ _

variable (writes : ∀ past, allowed past work.writeRequest)

include writes

theorem claimAndWrite_ensures (past : MistHistory) :
    (claimAndWrite handler work driftChecked).Ensures (OnSend allowed) (fun _ _ => True)
      past := by
  refine ensures_ask_iff.mpr ⟨nofun, fun answer => ?_⟩
  cases answer with
  | error error => trivial
  | ok claimed =>
      exact ensures_ask_iff.mpr ⟨OnSend.sent (writes _),
        fun _ => concludeWrite_ensures reads claimed _⟩

theorem issueApply_ensures (past : MistHistory) :
    (issueApply handler work driftChecked).Ensures (OnSend allowed) (fun _ _ => True) past := by
  unfold issueApply
  split
  · trivial
  · split
    · refine ensures_ask_iff.mpr ⟨nofun, fun answer => ?_⟩
      cases answer with
      | error reason => trivial
      | ok _ => exact claimAndWrite_ensures reads writes _
    · exact claimAndWrite_ensures reads writes _

theorem applyWork_ensures (past : MistHistory) :
    (applyWork handler work).Ensures (OnSend allowed) (fun _ _ => True) past := by
  unfold applyWork
  split
  · exact issueApply_ensures reads writes _
  · refine (read_ensures fun past request => reads _ past request (isObjectRead_objectRead _ _ _ _)).bind
      fun history result _ => ?_
    split
    · trivial
    · split
      · trivial
      · split
        · exact settleDrift_ensures _
        · exact issueApply_ensures reads writes _

end Apply

/-- The staged body is a part of a value that was read. -/
theorem readPreview_wellFormed {record : ChangeSetRecord} {after : Json} {orgId : String}
    (preview : readPreview record = .ok (after, orgId)) : after.wellFormed = true := by
  unfold readPreview at preview
  split at preview
  · cases preview
  · split at preview
    · cases preview
    · rename_i parsed read
      split at preview
      · cases preview
      · obtain ⟨rfl, _⟩ := Prod.mk.inj (Except.ok.inj preview)
        exact wellFormed_ofOption fun json found =>
          Json.wellFormed_of_get (Platform.fromStr_wellFormed _ _ read) found

theorem prepareWork_ok {args : ChangeSetArgs} {caller : Option CallerCtx}
    {record : ChangeSetRecord} {work : ApplyWork}
    (prepared : prepareWork args caller record = .ok work) :
    work.args = args ∧ work.caller = caller ∧ work.record = record ∧
      readPreview record = .ok (work.after, work.orgId) ∧
      (work.isCreate = true ↔ record.expectedCandidateFingerprint = "create") ∧
      (work.isCreate = false → args.objectId = some work.objectId) := by
  unfold prepareWork at prepared
  split at prepared
  · cases prepared
  · rename_i preview
    split at prepared
    · rename_i create
      obtain rfl := Except.ok.inj prepared
      exact ⟨rfl, rfl, rfl, preview, by simp [create], nofun⟩
    · rename_i update
      split at prepared
      · cases prepared
      · rename_i supplied
        obtain rfl := Except.ok.inj prepared
        exact ⟨rfl, rfl, rfl, preview, by simp [update], fun _ => supplied⟩

section Tools

variable {handler : MistHandler} {caller : Option CallerCtx}
  {allowed : MistHistory → MistRequest → Prop}

/-- An apply sends reads for its own tool and the write of its work. -/
theorem applyMistChangeSet_ensures {args : ChangeSetArgs}
    (reads : ∀ (read : CatalogRead) past request, IsObjectRead "apply_mist_change_set" read →
      ReadAllowed handler read caller past request → allowed past request)
    (writes : ∀ record work past, prepareWork args caller record = .ok work →
      allowed past work.writeRequest) :
    (applyMistChangeSet handler args caller).Ensures (OnSend allowed) (fun _ _ => True) [] := by
  refine ensures_ask_iff.mpr ⟨nofun, fun guard => ?_⟩
  cases guard with
  | error error => trivial
  | ok _ =>
      refine ensures_ask_iff.mpr ⟨nofun, fun fetch => ?_⟩
      cases fetch with
      | error error => trivial
      | ok record =>
          dsimp only
          unfold applyRecord
          split
          · trivial
          · refine ensures_ask_iff.mpr ⟨nofun, fun time => ?_⟩
            cases time with
            | error reason => trivial
            | ok now =>
                dsimp only
                split
                · trivial
                · split
                  · trivial
                  · rename_i work prepared
                    obtain ⟨_, rfl, _⟩ := prepareWork_ok prepared
                    exact applyWork_ensures reads (fun past => writes record work past prepared) _

theorem waivePlan_ensures {args : PlanChangeArgs} {owner : String} {staged : StagedPlan}
    {before : Json} (past : MistHistory) :
    (waivePlan handler args owner staged before).Ensures (OnSend allowed) (fun _ _ => True)
      past := by
  unfold waivePlan
  split
  · refine ensures_ask_iff.mpr ⟨nofun, fun waived => ?_⟩
    cases waived <;> trivial
  · trivial

theorem stagePlan_ensures {owner : String} {object : WanObject} {objectId : Option String}
    {orgId : String} {before after : Json} (past : MistHistory) :
    (stagePlan owner object objectId orgId before after).Ensures (OnSend allowed)
      (fun _ _ => True) past := by
  refine ensures_ask_iff.mpr ⟨nofun, fun random => ?_⟩
  cases random with
  | error reason => trivial
  | ok idBytes =>
      dsimp only
      split
      · trivial
      · refine ensures_ask_iff.mpr ⟨nofun, fun time => ?_⟩
        cases time with
        | error reason => trivial
        | ok now =>
            refine ensures_ask_iff.mpr ⟨nofun, fun inserted => ?_⟩
            cases inserted <;> trivial

theorem stageChange_ensures {args : PlanChangeArgs} {owner : String} {before : Json}
    (past : MistHistory) :
    (stageChange handler args owner before).Ensures (OnSend allowed) (fun _ _ => True) past := by
  refine (stagePlan_ensures past).bind fun history result _ => ?_
  cases result with
  | error error => trivial
  | ok staged =>
      dsimp only
      split
      · exact ensures_ask_iff.mpr ⟨nofun, fun _ => waivePlan_ensures _⟩
      · exact waivePlan_ensures _

/-- A plan sends reads for its own tool only. -/
theorem planMistChange_ensures {args : PlanChangeArgs}
    (reads : ∀ (read : CatalogRead) past request, IsObjectRead "plan_mist_change" read →
      ReadAllowed handler read caller past request → allowed past request) :
    (planMistChange handler args caller).Ensures (OnSend allowed) (fun _ _ => True) [] := by
  unfold planMistChange
  dsimp only
  split
  · trivial
  · split
    · trivial
    · split
      · trivial
      · split
        · exact stageChange_ensures _
        · split
          · trivial
          · refine (read_ensures fun past request => reads _ past request (isObjectRead_objectRead _ _ _ _)).bind
              fun history result _ => ?_
            split
            · trivial
            · split
              · trivial
              · exact stageChange_ensures _

end Tools

end RustMist
