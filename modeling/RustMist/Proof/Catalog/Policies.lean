import RustMist.Construction.Server.Reference
import RustMist.Proof.Catalog.Reference

/-! What every accepted catalog guarantees of its operations. -/

namespace RustMist

/-- The capabilities of reads. -/
def readCapabilities : List MistCapability := [.ordinaryRead, .privilegedRead]

/-- The guarantees on which the later decisions rest. -/
structure SoundCatalog (catalog : Catalog) : Prop where
  distinct : DistinctOperations catalog.operations
  listed : ∀ operation ∈ catalog.operations,
    catalog.operation operation.operationId = some operation
  unlisted : ∀ operationId, operationId ∉ catalog.operations.map MistOperation.operationId →
    catalog.operation operationId = none
  reads : ∀ operation ∈ catalog.operations, operation.capability ∈ readCapabilities →
    operation.method = "GET"
  writes : ∀ operation ∈ catalog.operations,
    operation.capability = .create ∨ operation.capability = .delete → operation.method ≠ "GET"
  readPolicy : ∀ operation ∈ catalog.operations, operation.capability ∈ readCapabilities →
    operation.verification = .none
  writePolicy : ∀ operation ∈ catalog.operations, operation.capability ∉ readCapabilities →
    operation.verification = .followUpRead ∨ operation.verification = .apiAcknowledged
  followUps : ∀ operation ∈ catalog.operations, ∀ operationId,
    operation.followUpOperationId = some operationId →
    ∃ followUp ∈ catalog.operations, followUp.operationId = operationId ∧
      followUp.capability ∈ readCapabilities

/-- The condition: no read carries a policy of writes, and no followed-up GET updates or executes. -/
structure PoliciesApart (operations : List MistOperation) : Prop where
  reads : ∀ operation ∈ operations, operation.capability ∈ readCapabilities →
    operation.verification = .none
  followUps : ∀ operation ∈ operations, ∀ followUp ∈ operations,
    operation.followUpOperationId = some followUp.operationId →
    followUp.capability ≠ .update ∧ followUp.capability ≠ .execute

section Records

variable {operation : MistOperation}

theorem ValidOperation.capable (valid : ValidOperation operation) :
    methodAllowsAction operation.method operation.capability = true := by
  rw [valid.action]
  exact valid.allowed

/-- Only a GET reads. -/
theorem get_of_read {method : String} {capability : MistCapability}
    (allowed : methodAllowsAction method capability = true)
    (read : capability ∈ readCapabilities) : method = "GET" := by
  unfold methodAllowsAction at allowed
  split at allowed
  · rfl
  all_goals cases capability <;> simp [readCapabilities] at allowed read

/-- A GET reads, updates or executes. -/
theorem capability_of_get {capability : MistCapability}
    (allowed : methodAllowsAction "GET" capability = true) :
    capability ∈ readCapabilities ∨ capability = .update ∨ capability = .execute := by
  cases capability <;> simp [methodAllowsAction, readCapabilities] at allowed ⊢

/-- A checked policy fits its operation. -/
inductive CheckedPolicy (operations : List MistOperation) (operation : MistOperation) : Prop where
  | none (policy : operation.verification = .none) (read : operation.action ∈ readCapabilities)
      (silent : operation.followUpOperationId = none)
  | followUpRead (policy : operation.verification = .followUpRead) (followUp : MistOperation)
      (listed : followUp ∈ operations)
      (named : operation.followUpOperationId = some followUp.operationId)
      (method : followUp.method = "GET")
  | apiAcknowledged (policy : operation.verification = .apiAcknowledged)
      (silent : operation.followUpOperationId = none)

theorem checkedPolicy_of_verified {catalog : Catalog} (loaded : catalog.Loaded)
    (verified : validateVerificationOf catalog.operations catalog.operationIndex operation =
      .ok ()) : CheckedPolicy catalog.operations operation := by
  unfold validateVerificationOf at verified
  dsimp only at verified
  cases policy : operation.verification with
  | none =>
      rw [policy] at verified
      dsimp only at verified
      split at verified
      · rename_i checked
        exact .none policy checked.1 (Option.isNone_iff_eq_none.mp checked.2.1)
      · cases verified
  | apiAcknowledged =>
      rw [policy] at verified
      dsimp only at verified
      split at verified
      · rename_i checked
        exact .apiAcknowledged policy (Option.isNone_iff_eq_none.mp checked.1)
      · cases verified
  | followUpRead =>
      rw [policy] at verified
      dsimp only at verified
      split at verified
      · split at verified
        · cases verified
        · rename_i followUpId named
          split at verified
          · cases verified
          · rename_i followUp found
            have known := (loaded.found followUpId followUp).mp found
            split at verified
            · cases verified
            · rename_i method
              exact .followUpRead policy followUp known.1 (by rw [named, known.2])
                (not_not.mp method)
      · cases verified

end Records

section Catalogs

variable [Platform]

/-- An accepted catalog gives all guarantees exactly when reads are not verified and no GET that
updates or executes is followed up. -/
theorem soundCatalog_iff (json : String) (catalog : Catalog)
    (accepted : Catalog.fromJson json = .ok catalog) :
    SoundCatalog catalog ↔ PoliciesApart catalog.operations := by
  have checked := Catalog.parse_checked accepted
  have valid := checked.loaded.valid
  have policies : ∀ operation ∈ catalog.operations, CheckedPolicy catalog.operations operation :=
    fun operation member =>
      checkedPolicy_of_verified checked.loaded (checked.verified operation member)
  constructor
  · intro sound
    refine ⟨sound.readPolicy, ?_⟩
    intro operation member followUp present named
    obtain ⟨other, listed, same, read⟩ := sound.followUps operation member _ named
    have found := (checked.loaded.found _ _).mpr ⟨listed, same⟩
    rw [(checked.loaded.found _ _).mpr ⟨present, rfl⟩] at found
    obtain rfl := Option.some.inj found
    constructor
    · intro update
      rw [update] at read
      exact absurd read (by decide)
    · intro execute
      rw [execute] at read
      exact absurd read (by decide)
  · intro apart
    refine ⟨checked.distinct, ?_, ?_, ?_, ?_, apart.reads, ?_, ?_⟩
    · exact fun operation member => (checked.loaded.found _ _).mpr ⟨member, rfl⟩
    · intro operationId absent
      by_contra known
      obtain ⟨operation, found⟩ := Option.ne_none_iff_exists'.mp known
      obtain ⟨member, rfl⟩ := (checked.loaded.found _ _).mp found
      exact absent (List.mem_map_of_mem member)
    · exact fun operation member => get_of_read (valid operation member).capable
    · intro operation member capability get
      have allowed := (valid operation member).capable
      rw [get] at allowed
      rcases capability with create | delete
      · rw [create] at allowed
        exact absurd allowed (by decide)
      · rw [delete] at allowed
        exact absurd allowed (by decide)
    · intro operation member write
      cases policies operation member with
      | none policy read =>
          rw [← (valid operation member).action] at read
          exact absurd read write
      | followUpRead policy => exact .inl policy
      | apiAcknowledged policy => exact .inr policy
    · intro operation member operationId named
      cases policies operation member with
      | none policy read silent =>
          rw [silent] at named
          cases named
      | apiAcknowledged policy silent =>
          rw [silent] at named
          cases named
      | followUpRead policy followUp listed named' method =>
          rw [named'] at named
          refine ⟨followUp, listed, Option.some.inj named, ?_⟩
          have allowed := (valid followUp listed).capable
          rw [method] at allowed
          have apart' := apart.followUps operation member followUp listed named'
          rcases capability_of_get allowed with read | update | execute
          · exact read
          · exact absurd update apart'.1
          · exact absurd execute apart'.2

end Catalogs

end RustMist

namespace RustMist.Network

section Policies

def acknowledgedCatalog : Catalog := paddedCatalog acknowledgedOperations

theorem acknowledgedCatalog_accepted :
    Catalog.fromJson (serdeToString (paddedDocument acknowledgedOperations).toJson) =
      .ok acknowledgedCatalog :=
  paddable_acknowledgedOperations.fromJson

theorem acknowledged_listed : sealed acknowledgedListing ∈ acknowledgedCatalog.operations :=
  mem_paddedOperations.mpr (.inr ⟨acknowledgedListing, List.mem_cons_self, rfl⟩)

/-- An accepted catalog may hold a read that the service's acknowledgement verifies. -/
theorem acknowledged_read_accepted :
    Catalog.fromJson (serdeToString (paddedDocument acknowledgedOperations).toJson) =
        .ok acknowledgedCatalog ∧ ¬SoundCatalog acknowledgedCatalog := by
  refine ⟨acknowledgedCatalog_accepted, fun sound => ?_⟩
  have policy := sound.readPolicy _ acknowledged_listed (by decide +kernel)
  cases policy

theorem soundCatalog_iff_acknowledged :
    SoundCatalog acknowledgedCatalog ↔ PoliciesApart acknowledgedCatalog.operations :=
  soundCatalog_iff _ acknowledgedCatalog acknowledgedCatalog_accepted

end Policies

end RustMist.Network
