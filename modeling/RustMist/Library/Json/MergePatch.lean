import RustMist.Library.Json.Value

/-! The places of a JSON value, and the merge of a patch as the standard describes it. -/

namespace Json

section Places

/-- A step goes to a member of an object or to an element of an array. -/
inductive Step where
  | key (name : String)
  | index (position : Nat)
deriving DecidableEq

def elements : Json → List Json
  | .array values => values
  | _ => []

def child (json : Json) : Step → Option Json
  | .key name => json.get name
  | .index position => json.elements[position]?

/-- The value at a path, if there is one. -/
def valueAt (json : Json) : List Step → Option Json
  | [] => some json
  | step :: rest => (json.child step).bind fun value => value.valueAt rest

@[simp] theorem valueAt_nil (json : Json) : json.valueAt [] = some json := rfl

@[simp] theorem valueAt_cons (json : Json) (step : Step) (rest : List Step) :
    json.valueAt (step :: rest) = (json.child step).bind fun value => value.valueAt rest := rfl

theorem keys_object_nodup {members : List (String × Json)}
    (formed : (Json.object members).wellFormed = true) : (IndexMap.keys members).Nodup :=
  ((wellFormed_object_iff members).mp formed).1

theorem keys_members_nodup {json : Json} (formed : json.wellFormed = true) :
    (IndexMap.keys json.members).Nodup := by
  cases json with
  | object members => exact keys_object_nodup formed
  | _ => exact List.nodup_nil

theorem wellFormed_of_child {json value : Json} {step : Step} (formed : json.wellFormed = true)
    (found : json.child step = some value) : value.wellFormed = true := by
  cases step with
  | key name => exact wellFormed_of_get formed found
  | index position =>
      cases json with
      | array values =>
          exact (wellFormed_array_iff values).mp formed value (List.mem_of_getElem? found)
      | _ => cases found

end Places

section Lookup

/-- Two objects are the same when their lookups agree. -/
def SameLookup : Option Json → Option Json → Prop
  | none, none => True
  | some first, some second => first.same second = true
  | _, _ => False

theorem same_object_iff_lookup {first second : List (String × Json)}
    (distinct : (IndexMap.keys first).Nodup) (distinct' : (IndexMap.keys second).Nodup) :
    (Json.object first).same (.object second) = true ↔
      ∀ key, SameLookup (IndexMap.get key first) (IndexMap.get key second) := by
  rw [same_object_iff]
  constructor
  · rintro ⟨size, agree⟩ key
    cases found : IndexMap.get key first with
    | some value =>
        obtain ⟨other, lookup, same⟩ := agree _ (IndexMap.mem_of_get found)
        rw [lookup]
        exact same
    | none =>
        have included : IndexMap.keys first ⊆ IndexMap.keys second := by
          intro name present
          obtain ⟨member, member_in, rfl⟩ := List.mem_map.mp present
          obtain ⟨other, lookup, _⟩ := agree member member_in
          exact IndexMap.mem_keys_of_get lookup
        have covered := mem_keys_of_length_eq distinct size included
        rw [IndexMap.get_eq_none_iff] at found
        rw [IndexMap.get_eq_none_iff.mpr fun present => found (covered present)]
        trivial
  · intro agree
    have equal : IndexMap.keys first ⊆ IndexMap.keys second ∧
        IndexMap.keys second ⊆ IndexMap.keys first := by
      constructor <;> intro key present <;> by_contra absent <;>
        rw [← IndexMap.get_eq_none_iff] at absent
      · have lookup := agree key
        rw [absent] at lookup
        cases found : IndexMap.get key first with
        | none => exact IndexMap.get_eq_none_iff.mp found present
        | some value => rw [found] at lookup; exact lookup
      · have lookup := agree key
        rw [absent] at lookup
        cases found : IndexMap.get key second with
        | none => exact IndexMap.get_eq_none_iff.mp found present
        | some value => rw [found] at lookup; exact lookup
    refine ⟨?_, fun member present => ?_⟩
    · have shorter := (List.subperm_of_subset distinct equal.1).length_le
      have longer := (List.subperm_of_subset distinct' equal.2).length_le
      simp only [IndexMap.keys, List.length_map] at shorter longer
      omega
    · have lookup := agree member.1
      rw [IndexMap.get_of_mem distinct present] at lookup
      cases found : IndexMap.get member.1 second with
      | none => rw [found] at lookup; exact lookup.elim
      | some other => rw [found] at lookup; exact ⟨other, rfl, lookup⟩

/-- Two objects whose lookups agree are the same. -/
theorem same_of_get {first second : Json} (object : first.isObject = true)
    (object' : second.isObject = true) (distinct : (IndexMap.keys first.members).Nodup)
    (distinct' : (IndexMap.keys second.members).Nodup)
    (agree : ∀ key, SameLookup (first.get key) (second.get key)) :
    first.same second = true := by
  cases first with
  | object members =>
      cases second with
      | object others => exact (same_object_iff_lookup distinct distinct').mpr agree
      | _ => cases object'
  | _ => cases object

end Lookup

section RfcMerge

mutual

/-- This merge follows the standard: a null member deletes, an object merges at every depth,
and every other patch replaces. -/
def rfcMerge (target patch : Json) : Json :=
  match patch with
  | .object members => .object (rfcMembers target.members members)
  | patch => patch
termination_by structural patch

def rfcMembers (target : List (String × Json)) (members : List (String × Json)) :
    List (String × Json) :=
  match members with
  | [] => target
  | member :: rest => rfcMembers (rfcMember target member) rest
termination_by structural members

def rfcMember (target : List (String × Json)) (member : String × Json) : List (String × Json) :=
  match member with
  | (name, value) =>
      if value.isNull then IndexMap.swapRemove name target
      else IndexMap.insert name (rfcMerge (ofOption (IndexMap.get name target)) value) target
termination_by structural member

end

theorem rfcMember_eq (target : List (String × Json)) (name : String) (value : Json) :
    rfcMember target (name, value) =
      if value.isNull then IndexMap.swapRemove name target
      else IndexMap.insert name (rfcMerge (ofOption (IndexMap.get name target)) value) target :=
  rfl

theorem keys_rfcMember_nodup {target : List (String × Json)} (member : String × Json)
    (distinct : (IndexMap.keys target).Nodup) :
    (IndexMap.keys (rfcMember target member)).Nodup := by
  obtain ⟨name, value⟩ := member
  rw [rfcMember_eq]
  split
  · exact IndexMap.nodup_swapRemove distinct
  · exact IndexMap.nodup_insert distinct

theorem keys_rfcMembers_nodup {target : List (String × Json)} (members : List (String × Json))
    (distinct : (IndexMap.keys target).Nodup) :
    (IndexMap.keys (rfcMembers target members)).Nodup := by
  induction members generalizing target with
  | nil => exact distinct
  | cons member rest ih => exact ih (keys_rfcMember_nodup member distinct)

theorem get_rfcMember {target : List (String × Json)} (member : String × Json) (key : String)
    (distinct : (IndexMap.keys target).Nodup) :
    IndexMap.get key (rfcMember target member) =
      if key = member.1 then
        if member.2.isNull then none
        else some (rfcMerge (ofOption (IndexMap.get member.1 target)) member.2)
      else IndexMap.get key target := by
  obtain ⟨name, value⟩ := member
  rw [rfcMember_eq]
  cases value.isNull with
  | true => rw [if_pos rfl, if_pos rfl, IndexMap.get_swapRemove key distinct]
  | false =>
      rw [if_neg Bool.false_ne_true, if_neg Bool.false_ne_true, IndexMap.get_insert]

/-- The standard's merge has at each key what the patch member leaves there. -/
theorem get_rfcMembers {target members : List (String × Json)} (key : String)
    (distinct : (IndexMap.keys target).Nodup) (patchDistinct : (IndexMap.keys members).Nodup) :
    IndexMap.get key (rfcMembers target members) =
      match IndexMap.get key members with
      | none => IndexMap.get key target
      | some value =>
          if value.isNull then none
          else some (rfcMerge (ofOption (IndexMap.get key target)) value) := by
  induction members generalizing target with
  | nil => rfl
  | cons member rest ih =>
      rw [IndexMap.keys_cons, List.nodup_cons] at patchDistinct
      rw [rfcMembers, ih (keys_rfcMember_nodup member distinct) patchDistinct.2,
        get_rfcMember member key distinct, IndexMap.get_cons]
      by_cases same : key = member.1
      · subst same
        rw [if_pos rfl, if_pos rfl, IndexMap.get_eq_none_iff.mpr patchDistinct.1]
      · rw [if_neg same, if_neg (Ne.symm same)]

end RfcMerge

end Json
