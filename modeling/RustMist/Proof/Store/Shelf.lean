import RustMist.Proof.Store.Contract

/-! A store that keeps the contract of the change sets. -/

namespace RustMist

open Effects

/-- The records are filed under their own identifiers. -/
structure Shelf where
  find : String → Option ChangeSetRecord
  filed : ∀ id record, find id = some record → record.id = id

namespace Shelf

def empty : Shelf := ⟨fun _ => none, nofun⟩

def put (shelf : Shelf) (record : ChangeSetRecord) : Shelf where
  find := Function.update shelf.find record.id (some record)
  filed id stored found := by
    by_cases same : id = record.id
    · rw [same, Function.update_self] at found
      rw [same, Option.some.inj found]
    · rw [Function.update_of_ne same] at found
      exact shelf.filed id stored found

theorem find_put (shelf : Shelf) (record : ChangeSetRecord) :
    (shelf.put record).find record.id = some record := Function.update_self _ _ _

theorem put_replaces (shelf : Shelf) (record : ChangeSetRecord) :
    Replaces shelf.find (shelf.put record).find record :=
  ⟨find_put shelf record, fun _ different => Function.update_of_ne different _ _⟩

/-- What the shelf does to answer an operation. -/
def Step (shelf : Shelf) (op : Op) (answer : op.Answer) (shelf' : Shelf) : Prop :=
  match op, answer with
  | .insertChangeSet record, .ok () => shelf.find record.id = none ∧ shelf' = shelf.put record
  | .approveChangeSet id device approver digest actor, .ok _ =>
      ∃ record, shelf.find id = some record ∧ record.device = device ∧ record.state = .planned ∧
        actor = .human ∧ approver ≠ record.owner ∧ digest = record.digest ∧
        shelf' = shelf.put { record with state := .approved }
  | .waiveApproval id _ _ _, .ok () =>
      ∃ record, shelf.find id = some record ∧ record.state = .planned ∧
        shelf' = shelf.put { record with state := .approved }
  | .claimChangeSetForApply id device _, .ok claimed =>
      ∃ record, shelf.find id = some record ∧ record.device = device ∧ record.state = .approved ∧
        claimed = { record with state := .applying } ∧ shelf' = shelf.put claimed
  | .updateChangeSet record, .ok () => shelf' = shelf.put record
  | .changeSet id device, .ok record =>
      shelf.find id = some record ∧ record.device = device ∧ shelf' = shelf
  | _, _ => shelf' = shelf

/-- The world of this store answers everything else at will. -/
def world : World mist := ⟨Shelf, Step⟩

def contract : StoreContract world where
  find := Shelf.find
  find_id := Shelf.filed
  insert_ok := by
    rintro shelf record shelf' ⟨fresh, rfl⟩
    exact ⟨fresh, put_replaces shelf record⟩
  approve_ok := by
    rintro shelf id device approver digest actor output shelf'
      ⟨record, found, _, planned, human, other, echoed, rfl⟩
    exact ⟨record, { record with state := .approved }, found, planned, ⟨human, other, echoed⟩,
      ⟨rfl, rfl, rfl, rfl, rfl, rfl, rfl⟩, rfl, put_replaces shelf _⟩
  waive_ok := by
    rintro shelf id device owner digest shelf' ⟨record, found, planned, rfl⟩
    exact ⟨record, { record with state := .approved }, found, planned, trivial,
      ⟨rfl, rfl, rfl, rfl, rfl, rfl, rfl⟩, rfl, put_replaces shelf _⟩
  claim_ok := by
    rintro shelf id device handle claimed shelf' ⟨record, found, _, approved, rfl, rfl⟩
    exact ⟨record, found, approved, ⟨rfl, rfl, rfl, rfl, rfl, rfl, rfl⟩, rfl, put_replaces shelf _⟩
  fetch_ok := by
    rintro shelf id device record shelf' ⟨found, _⟩
    exact found
  update_ok := by
    rintro shelf record shelf' rfl
    exact put_replaces shelf record
  stays := by
    intro shelf op answer shelf' unchanged step
    change Step shelf op answer shelf' at step
    unfold Step at step
    split at step
    all_goals first
      | exact absurd trivial unchanged
      | exact congrArg Shelf.find step.2.2
      | exact congrArg Shelf.find step

end Shelf

end RustMist
