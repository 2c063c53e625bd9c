import RustMist.Construction.Core.Catalog

/-! The relaxation of schemas that judge responses. -/

namespace RustMist

/-- A member `type` admits null beside the types that it declares. -/
def widenTypeToAdmitNull (map : List (String × Json)) : List (String × Json) :=
  match IndexMap.get "type" map with
  | some (.string name) =>
      if name ≠ "null" then IndexMap.insert "type" (.array [.string name, .string "null"]) map
      else map
  | some (.array names) =>
      if names.any fun name => name.asString = some "null" then map
      else IndexMap.insert "type" (.array (names ++ [.string "null"])) map
  | _ => map

/-- A member `type` that admits integers admits every number. -/
def widenIntegerToAdmitNumber (map : List (String × Json)) : List (String × Json) :=
  match IndexMap.get "type" map with
  | some (.string name) =>
      if name = "integer" then
        IndexMap.insert "type" (.array [.string "integer", .string "number"]) map
      else map
  | some (.array names) =>
      if (names.any fun name => name.asString = some "integer") &&
          !(names.any fun name => name.asString = some "number") then
        IndexMap.insert "type" (.array (names ++ [.string "number"])) map
      else map
  | _ => map

def dropClosedProperties (map : List (String × Json)) : List (String × Json) :=
  match IndexMap.get "additionalProperties" map with
  | some (.bool false) => IndexMap.swapRemove "additionalProperties" map
  | _ => map

def rewriteOneOf (map : List (String × Json)) : List (String × Json) :=
  match IndexMap.get "oneOf" map with
  | some oneOf => IndexMap.insert "anyOf" oneOf (IndexMap.swapRemove "oneOf" map)
  | none => map

/-- The changes that the relaxation makes to the members of one object. -/
def relaxMembers (map : List (String × Json)) : List (String × Json) :=
  let map := IndexMap.swapRemove "enum" map
  let map := IndexMap.swapRemove "required" map
  let map := dropClosedProperties map
  let map := rewriteOneOf map
  let map := widenTypeToAdmitNull map
  widenIntegerToAdmitNumber map

mutual

/-- The nested values are relaxed before the members of their object; the source does it after. -/
def relaxForResponses : Json → Json
  | .object map => .object (relaxMembers (relaxNestedMembers map))
  | .array items => .array (relaxItems items)
  | value => value
termination_by structural value => value

def relaxItems : List Json → List Json
  | [] => []
  | item :: rest => relaxForResponses item :: relaxItems rest
termination_by structural items => items

def relaxNestedMembers : List (String × Json) → List (String × Json)
  | [] => []
  | member :: rest => relaxNestedMember member :: relaxNestedMembers rest
termination_by structural members => members

def relaxNestedMember : String × Json → String × Json
  | (key, value) => (key, relaxForResponses value)
termination_by structural member => member

end

def Catalog.relaxedComponents (catalog : Catalog) : Json := relaxForResponses catalog.components

theorem relaxItems_eq (items : List Json) : relaxItems items = items.map relaxForResponses := by
  induction items with
  | nil => rfl
  | cons item rest ih => rw [relaxItems, ih, List.map_cons]

/-- This map relaxes the value of each member and keeps its key. -/
def relaxValues (members : List (String × Json)) : List (String × Json) :=
  members.map fun member => (member.1, relaxForResponses member.2)

theorem relaxNestedMembers_eq (members : List (String × Json)) :
    relaxNestedMembers members = relaxValues members := by
  induction members with
  | nil => rfl
  | cons member rest ih =>
      cases member
      rw [relaxNestedMembers, ih]
      rfl

@[simp] theorem relaxForResponses_string (value : String) :
    relaxForResponses (.string value) = .string value := rfl

@[simp] theorem relaxForResponses_array (items : List Json) :
    relaxForResponses (.array items) = .array (items.map relaxForResponses) := by
  rw [relaxForResponses, relaxItems_eq]

/-- The relaxation keeps the kind of a value and changes no text. -/
theorem asString_relaxForResponses (value : Json) :
    (relaxForResponses value).asString = value.asString := by
  cases value <;> rfl

theorem any_string_relax (items : List Json) (name : String) :
    ((items.map relaxForResponses).any fun item => item.asString = some name) =
      items.any fun item => item.asString = some name := by
  rw [List.any_map]
  congr
  funext item
  simp [asString_relaxForResponses]

section SourceOrder

variable (map : List (String × Json))

theorem get_relaxValues (key : String) :
    IndexMap.get key (relaxValues map) = (IndexMap.get key map).map relaxForResponses :=
  IndexMap.get_mapValues relaxForResponses key map

theorem swapRemove_relaxValues (key : String) :
    IndexMap.swapRemove key (relaxValues map) = relaxValues (IndexMap.swapRemove key map) :=
  IndexMap.swapRemove_mapValues relaxForResponses key map

theorem insert_relaxValues (key : String) (value : Json) :
    IndexMap.insert key (relaxForResponses value) (relaxValues map) =
      relaxValues (IndexMap.insert key value map) :=
  IndexMap.insert_mapValues relaxForResponses key value map

theorem widenTypeToAdmitNull_relaxValues :
    widenTypeToAdmitNull (relaxValues map) = relaxValues (widenTypeToAdmitNull map) := by
  rw [widenTypeToAdmitNull, widenTypeToAdmitNull, get_relaxValues]
  cases found : IndexMap.get "type" map with
  | none => rfl
  | some declared =>
      cases declared with
      | string name =>
          simp only [Option.map_some, relaxForResponses_string]
          by_cases other : name ≠ "null"
          · rw [if_pos other, if_pos other]
            exact insert_relaxValues map "type" (.array [.string name, .string "null"])
          · rw [if_neg other, if_neg other]
      | array names =>
          simp only [Option.map_some, relaxForResponses_array, any_string_relax]
          by_cases admitted : (names.any fun name => name.asString = some "null") = true
          · rw [if_pos admitted, if_pos admitted]
          · rw [if_neg admitted, if_neg admitted, ← insert_relaxValues]
            simp
      | object members => rfl
      | _ => rfl

theorem widenIntegerToAdmitNumber_relaxValues :
    widenIntegerToAdmitNumber (relaxValues map) = relaxValues (widenIntegerToAdmitNumber map) := by
  rw [widenIntegerToAdmitNumber, widenIntegerToAdmitNumber, get_relaxValues]
  cases found : IndexMap.get "type" map with
  | none => rfl
  | some declared =>
      cases declared with
      | string name =>
          simp only [Option.map_some, relaxForResponses_string]
          by_cases integer : name = "integer"
          · rw [if_pos integer, if_pos integer]
            exact insert_relaxValues map "type" (.array [.string "integer", .string "number"])
          · rw [if_neg integer, if_neg integer]
      | array names =>
          simp only [Option.map_some, relaxForResponses_array, any_string_relax]
          by_cases narrow : ((names.any fun name => name.asString = some "integer") &&
              !(names.any fun name => name.asString = some "number")) = true
          · rw [if_pos narrow, if_pos narrow, ← insert_relaxValues]
            simp
          · rw [if_neg narrow, if_neg narrow]
      | object members => rfl
      | _ => rfl

theorem dropClosedProperties_relaxValues :
    dropClosedProperties (relaxValues map) = relaxValues (dropClosedProperties map) := by
  rw [dropClosedProperties, dropClosedProperties, get_relaxValues]
  cases found : IndexMap.get "additionalProperties" map with
  | none => rfl
  | some declared =>
      cases declared with
      | bool value =>
          cases value with
          | false => exact swapRemove_relaxValues map _
          | true => rfl
      | array names => rw [Option.map_some, relaxForResponses_array]
      | object members => rfl
      | _ => rfl

theorem rewriteOneOf_relaxValues :
    rewriteOneOf (relaxValues map) = relaxValues (rewriteOneOf map) := by
  rw [rewriteOneOf, rewriteOneOf, get_relaxValues]
  cases found : IndexMap.get "oneOf" map with
  | none => rfl
  | some oneOf =>
      change IndexMap.insert "anyOf" (relaxForResponses oneOf) _ = _
      rw [swapRemove_relaxValues, insert_relaxValues]

/-- The relaxation of an object in the order of the source: first its members, then the nested
values. -/
theorem relaxForResponses_object :
    relaxForResponses (.object map) = .object (relaxValues (relaxMembers map)) := by
  rw [relaxForResponses, relaxNestedMembers_eq, relaxMembers, relaxMembers,
    swapRemove_relaxValues, swapRemove_relaxValues, dropClosedProperties_relaxValues,
    rewriteOneOf_relaxValues, widenTypeToAdmitNull_relaxValues,
    widenIntegerToAdmitNumber_relaxValues]

end SourceOrder

end RustMist
