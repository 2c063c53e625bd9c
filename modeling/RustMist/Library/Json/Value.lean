import RustMist.Library.IndexMap
import RustMist.Library.Json.Float
import Mathlib.Algebra.Order.Ring.Nat
import Mathlib.Data.List.Perm.Subperm
import Mathlib.Tactic.Common

/-! JSON values whose objects keep the order of their members. -/

/-- A number is a machine integer or a float. The negative integers are `-(magnitude + 1)`. -/
inductive JsonNumber where
  | posInt (value : UInt64)
  | negInt (magnitude : Fin (2 ^ 63))
  | float (literal : FloatText)
deriving DecidableEq

/-- The two zero floats are the only equal floats with different texts. -/
def FloatText.isZero (literal : FloatText) : Bool :=
  literal.text = ['0', '.', '0'] ∨ literal.text = ['-', '0', '.', '0']

def JsonNumber.same : JsonNumber → JsonNumber → Bool
  | .posInt first, .posInt second => first == second
  | .negInt first, .negInt second => first == second
  | .float first, .float second => first == second || (first.isZero && second.isZero)
  | _, _ => false

inductive Json where
  | null
  | bool (value : Bool)
  | number (value : JsonNumber)
  | string (value : String)
  | array (values : List Json)
  | object (members : List (String × Json))

namespace Json

/-- An induction over values treats array elements and object members as smaller values. -/
theorem inductionOn {motive : Json → Prop} (null : motive .null)
    (bool : ∀ value, motive (.bool value)) (number : ∀ value, motive (.number value))
    (string : ∀ value, motive (.string value))
    (array : ∀ values, (∀ value ∈ values, motive value) → motive (.array values))
    (object : ∀ members : List (String × Json), (∀ member ∈ members, motive member.2) →
      motive (.object members)) : ∀ json, motive json :=
  @Json.rec motive (fun values => ∀ value ∈ values, motive value)
    (fun members => ∀ member ∈ members, motive member.2)
    (fun member => motive member.2) null bool number string
    (fun values ih => array values ih) (fun members ih => object members ih)
    (by simp) (fun head tail first rest => by
      intro value member
      rcases List.mem_cons.mp member with rfl | later
      · exact first
      · exact rest value later)
    (by simp) (fun head tail first rest => by
      intro member present
      rcases List.mem_cons.mp present with rfl | later
      · exact first
      · exact rest member later)
    (fun _ _ ih => ih)

def isNull : Json → Bool
  | .null => true
  | _ => false

/-- The members of an object; other values have none. -/
def members : Json → List (String × Json)
  | .object members => members
  | _ => []

def isObject : Json → Bool
  | .object _ => true
  | _ => false

/-- A lookup by key finds nothing outside objects. -/
def get (json : Json) (key : String) : Option Json := IndexMap.get key json.members

def asString : Json → Option String
  | .string value => some value
  | _ => none

def asUInt64 : Json → Option UInt64
  | .number (.posInt value) => some value
  | _ => none

def ofNat (value : Nat) : Json := .number (.posInt (UInt64.ofNat value))

def ofOption (value : Option Json) : Json := value.getD .null

@[simp] theorem members_object (members : List (String × Json)) :
    (Json.object members).members = members := rfl

@[simp] theorem get_object (members : List (String × Json)) (key : String) :
    (Json.object members).get key = IndexMap.get key members := rfl

@[simp] theorem asString_string (value : String) : (Json.string value).asString = some value := rfl

theorem asUInt64_eq_some_iff {json : Json} {value : UInt64} :
    json.asUInt64 = some value ↔ json = .number (.posInt value) := by
  unfold asUInt64
  split
  · simp
  · rename_i other
    constructor
    · intro impossible
      cases impossible
    · rintro rfl
      exact absurd rfl (other value)

section WellFormed

mutual

/-- Every object of a well-formed value holds each key once. -/
def wellFormed : Json → Bool
  | .array values => wellFormedValues values
  | .object members => decide (IndexMap.keys members).Nodup && wellFormedMembers members
  | _ => true
termination_by structural json => json

def wellFormedValues : List Json → Bool
  | [] => true
  | value :: rest => value.wellFormed && wellFormedValues rest
termination_by structural values => values

def wellFormedMembers : List (String × Json) → Bool
  | [] => true
  | member :: rest => wellFormedMember member && wellFormedMembers rest
termination_by structural members => members

def wellFormedMember : String × Json → Bool
  | (_, value) => value.wellFormed
termination_by structural member => member

end

theorem wellFormedValues_iff (values : List Json) :
    wellFormedValues values = true ↔ ∀ value ∈ values, value.wellFormed = true := by
  induction values with
  | nil => simp [wellFormedValues]
  | cons value rest ih => simp [wellFormedValues, ih]

@[simp] theorem wellFormedMember_eq (member : String × Json) :
    wellFormedMember member = member.2.wellFormed := by
  cases member
  rfl

theorem wellFormedMembers_iff (members : List (String × Json)) :
    wellFormedMembers members = true ↔ ∀ member ∈ members, member.2.wellFormed = true := by
  induction members with
  | nil => simp [wellFormedMembers]
  | cons member rest ih => simp [wellFormedMembers, ih]

@[simp] theorem wellFormed_null : Json.null.wellFormed = true := rfl

@[simp] theorem wellFormed_bool (value : Bool) : (Json.bool value).wellFormed = true := rfl

@[simp] theorem wellFormed_number (value : JsonNumber) :
    (Json.number value).wellFormed = true := rfl

@[simp] theorem wellFormed_string (value : String) : (Json.string value).wellFormed = true := rfl

theorem wellFormed_array_iff (values : List Json) :
    (Json.array values).wellFormed = true ↔ ∀ value ∈ values, value.wellFormed = true := by
  rw [wellFormed, wellFormedValues_iff]

theorem wellFormed_object_iff (members : List (String × Json)) :
    (Json.object members).wellFormed = true ↔
      (IndexMap.keys members).Nodup ∧ ∀ member ∈ members, member.2.wellFormed = true := by
  rw [wellFormed, Bool.and_eq_true, decide_eq_true_iff, wellFormedMembers_iff]

theorem wellFormed_of_get {json value : Json} {key : String} (formed : json.wellFormed = true)
    (found : json.get key = some value) : value.wellFormed = true := by
  cases json with
  | object members =>
      exact ((wellFormed_object_iff members).mp formed).2 _ (IndexMap.mem_of_get found)
  | _ => simp [get, members] at found

/-- The values that a JSON library can hold. -/
abbrev Value := { json : Json // json.wellFormed = true }

end WellFormed

section Depth

mutual

/-- The depth is the number of arrays and objects around the innermost value. -/
def depth : Json → Nat
  | .array values => depthValues values + 1
  | .object members => depthMembers members + 1
  | _ => 0
termination_by structural json => json

def depthValues : List Json → Nat
  | [] => 0
  | value :: rest => max value.depth (depthValues rest)
termination_by structural values => values

def depthMembers : List (String × Json) → Nat
  | [] => 0
  | member :: rest => max (depthMember member) (depthMembers rest)
termination_by structural members => members

def depthMember : String × Json → Nat
  | (_, value) => value.depth
termination_by structural member => member

end

theorem depthValues_le_iff {values : List Json} {bound : Nat} :
    depthValues values ≤ bound ↔ ∀ value ∈ values, value.depth ≤ bound := by
  induction values with
  | nil => simp [depthValues]
  | cons value rest ih => simp [depthValues, ih]

@[simp] theorem depthMember_eq (member : String × Json) : depthMember member = member.2.depth := by
  cases member
  rfl

theorem depthMembers_le_iff {members : List (String × Json)} {bound : Nat} :
    depthMembers members ≤ bound ↔ ∀ member ∈ members, member.2.depth ≤ bound := by
  induction members with
  | nil => simp [depthMembers]
  | cons member rest ih => simp [depthMembers, ih]

theorem depth_array_le_iff {values : List Json} {bound : Nat} :
    (Json.array values).depth ≤ bound + 1 ↔ ∀ value ∈ values, value.depth ≤ bound := by
  rw [depth, Nat.add_le_add_iff_right, depthValues_le_iff]

theorem depth_object_le_iff {members : List (String × Json)} {bound : Nat} :
    (Json.object members).depth ≤ bound + 1 ↔ ∀ member ∈ members, member.2.depth ≤ bound := by
  rw [depth, Nat.add_le_add_iff_right, depthMembers_le_iff]

end Depth

section Same

mutual

/-- Two values are the same when they agree up to the order of object members. -/
def same : Json → Json → Bool
  | .null, .null => true
  | .bool first, .bool second => first == second
  | .number first, .number second => first.same second
  | .string first, .string second => first == second
  | .array first, .array second => sameValues first second
  | .object first, .object second => first.length == second.length && sameMembers first second
  | _, _ => false
termination_by structural json => json

def sameValues : List Json → List Json → Bool
  | [], [] => true
  | first :: rest, second :: rest' => first.same second && sameValues rest rest'
  | _, _ => false
termination_by structural values => values

def sameMembers : List (String × Json) → List (String × Json) → Bool
  | [], _ => true
  | member :: rest, second => sameMember member second && sameMembers rest second
termination_by structural members => members

def sameMember : String × Json → List (String × Json) → Bool
  | (key, value), second =>
      match IndexMap.get key second with
      | some other => value.same other
      | none => false
termination_by structural member => member

end

/-- An object is the same as another of equal size that holds each of its members. -/
theorem same_object_iff (first second : List (String × Json)) :
    (Json.object first).same (.object second) = true ↔ first.length = second.length ∧
      ∀ member ∈ first, ∃ other, IndexMap.get member.1 second = some other ∧
        member.2.same other = true := by
  have every (members : List (String × Json)) : sameMembers members second = true ↔
      ∀ member ∈ members, ∃ other, IndexMap.get member.1 second = some other ∧
        member.2.same other = true := by
    induction members with
    | nil => simp [sameMembers]
    | cons member rest ih =>
        rw [sameMembers, Bool.and_eq_true, ih, List.forall_mem_cons, sameMember]
        cases IndexMap.get member.1 second <;> simp
  rw [same, Bool.and_eq_true, beq_iff_eq, every]

theorem JsonNumber.same_refl (value : JsonNumber) : value.same value = true := by
  cases value <;> simp [JsonNumber.same]

theorem JsonNumber.same_symm {first second : JsonNumber} (equal : first.same second = true) :
    second.same first = true := by
  cases first with
  | posInt value =>
      cases second with
      | posInt other =>
          obtain rfl : value = other := by simpa [JsonNumber.same] using equal
          exact equal
      | _ => simp [JsonNumber.same] at equal
  | negInt magnitude =>
      cases second with
      | negInt other =>
          obtain rfl : magnitude = other := eq_of_beq equal
          exact equal
      | _ => simp [JsonNumber.same] at equal
  | float literal =>
      cases second with
      | float other =>
          rw [JsonNumber.same, Bool.or_eq_true, Bool.and_eq_true] at equal ⊢
          rcases equal with same | zeros
          · exact .inl (beq_iff_eq.mpr (eq_of_beq same).symm)
          · exact .inr ⟨zeros.2, zeros.1⟩
      | _ => simp [JsonNumber.same] at equal

/-- Every well-formed value is the same as itself. -/
theorem same_refl (json : Json) (formed : json.wellFormed = true) : json.same json = true := by
  induction json using inductionOn with
  | null => rfl
  | bool value => simp [same]
  | number value => exact JsonNumber.same_refl value
  | string value => simp [same]
  | array values ih =>
      rw [wellFormed_array_iff] at formed
      rw [same]
      induction values with
      | nil => rfl
      | cons value rest tail =>
          rw [sameValues, Bool.and_eq_true]
          refine ⟨ih value List.mem_cons_self (formed value List.mem_cons_self), ?_⟩
          exact tail (fun later member => ih later (List.mem_cons_of_mem _ member))
            (fun later member => formed later (List.mem_cons_of_mem _ member))
  | object members ih =>
      rw [wellFormed_object_iff] at formed
      rw [same_object_iff]
      refine ⟨rfl, fun member present => ⟨member.2, ?_, ih member present (formed.2 member present)⟩⟩
      exact IndexMap.get_of_mem formed.1 present

/-- Two maps of one size with distinct keys have the same keys when one contains the other's. -/
theorem mem_keys_of_length_eq {first second : List (String × Json)}
    (distinct : (IndexMap.keys first).Nodup) (size : first.length = second.length)
    (included : IndexMap.keys first ⊆ IndexMap.keys second) :
    IndexMap.keys second ⊆ IndexMap.keys first := by
  have shorter := List.subperm_of_subset distinct included
  have equal : (IndexMap.keys second).length ≤ (IndexMap.keys first).length := by
    simp [IndexMap.keys, size]
  exact (shorter.perm_of_length_le equal).symm.subset

/-- Sameness is symmetric on well-formed values. -/
theorem same_symm {first second : Json} (formed : first.wellFormed = true)
    (formed' : second.wellFormed = true) (equal : first.same second = true) :
    second.same first = true := by
  induction first using inductionOn generalizing second with
  | null => cases second <;> simp_all [same]
  | bool value => cases second <;> simp_all [same]
  | number value =>
      cases second with
      | number other => exact JsonNumber.same_symm equal
      | _ => simp [same] at equal
  | string value => cases second <;> simp_all [same]
  | array values ih =>
      cases second with
      | array others =>
          rw [wellFormed_array_iff] at formed formed'
          rw [same] at equal ⊢
          induction values generalizing others with
          | nil => cases others <;> simp_all [sameValues]
          | cons value rest tail =>
              cases others with
              | nil => simp [sameValues] at equal
              | cons other rest' =>
                  rw [sameValues, Bool.and_eq_true] at equal ⊢
                  refine ⟨ih value List.mem_cons_self (formed value List.mem_cons_self)
                    (formed' other List.mem_cons_self) equal.1, ?_⟩
                  exact tail (fun later member => ih later (List.mem_cons_of_mem _ member))
                    (fun later member => formed later (List.mem_cons_of_mem _ member)) rest'
                    (fun later member => formed' later (List.mem_cons_of_mem _ member)) equal.2
      | _ => simp [same] at equal
  | object members ih =>
      cases second with
      | object others =>
          rw [wellFormed_object_iff] at formed formed'
          rw [same_object_iff] at equal ⊢
          have included : IndexMap.keys members ⊆ IndexMap.keys others := by
            intro key present
            obtain ⟨member, member_in, rfl⟩ := List.mem_map.mp present
            obtain ⟨other, found, _⟩ := equal.2 member member_in
            exact IndexMap.mem_keys_of_get found
          have covered := mem_keys_of_length_eq formed.1 equal.1 included
          refine ⟨equal.1.symm, fun other other_in => ?_⟩
          obtain ⟨member, member_in, key_eq⟩ :=
            List.mem_map.mp (covered (List.mem_map_of_mem (f := Prod.fst) other_in))
          obtain ⟨found, lookup, agree⟩ := equal.2 member member_in
          have lookup' : IndexMap.get member.1 others = some other.2 := by
            rw [key_eq]
            exact IndexMap.get_of_mem formed'.1 other_in
          obtain rfl : other.2 = found := Option.some.inj (lookup'.symm.trans lookup)
          refine ⟨member.2, ?_, ih member member_in (formed.2 member member_in)
            (formed'.2 other other_in) agree⟩
          rw [← key_eq]
          exact IndexMap.get_of_mem formed.1 member_in
      | _ => simp [same] at equal

end Same

section Projection

mutual

/-- A response agrees with a request when its projection onto the request's fields equals it. -/
def projects : Json → Json → Bool
  | .object request, .object response => projectsMembers request response
  | .array request, .array response => projectsValues request response
  | .object _, _ => false
  | .array _, _ => false
  | request, response => request.same response
termination_by structural request => request

def projectsValues : List Json → List Json → Bool
  | [], [] => true
  | request :: rest, response :: rest' => request.projects response && projectsValues rest rest'
  | _, _ => false
termination_by structural values => values

def projectsMembers : List (String × Json) → List (String × Json) → Bool
  | [], _ => true
  | member :: rest, response => projectsMember member response && projectsMembers rest response
termination_by structural members => members

def projectsMember : String × Json → List (String × Json) → Bool
  | (key, value), response =>
      match IndexMap.get key response with
      | some other => value.projects other
      | none => false
termination_by structural member => member

end

theorem projectsMembers_iff (request response : List (String × Json)) :
    projectsMembers request response = true ↔ ∀ member ∈ request, ∃ other,
      IndexMap.get member.1 response = some other ∧ member.2.projects other = true := by
  induction request with
  | nil => simp [projectsMembers]
  | cons member rest ih =>
      rw [projectsMembers, Bool.and_eq_true, ih, List.forall_mem_cons, projectsMember]
      cases IndexMap.get member.1 response <;> simp

/-- A response that is the same as the request agrees with all its fields. -/
theorem projects_of_same {request response : Json} (equal : request.same response = true) :
    request.projects response = true := by
  induction request using inductionOn generalizing response with
  | null => exact equal
  | bool value => exact equal
  | number value => exact equal
  | string value => exact equal
  | array values ih =>
      cases response with
      | array others =>
          rw [same] at equal
          rw [projects]
          induction values generalizing others with
          | nil => cases others <;> simp_all [sameValues, projectsValues]
          | cons value rest tail =>
              cases others with
              | nil => simp [sameValues] at equal
              | cons other rest' =>
                  rw [sameValues, Bool.and_eq_true] at equal
                  rw [projectsValues, Bool.and_eq_true]
                  exact ⟨ih value List.mem_cons_self equal.1,
                    tail (fun later member => ih later (List.mem_cons_of_mem _ member)) rest'
                      equal.2⟩
      | _ => simp [same] at equal
  | object members ih =>
      cases response with
      | object others =>
          rw [same_object_iff] at equal
          rw [projects, projectsMembers_iff]
          intro member present
          obtain ⟨other, found, agree⟩ := equal.2 member present
          exact ⟨other, found, ih member present agree⟩
      | _ => simp [same] at equal

end Projection

end Json
