import RustMist.Library.Json.Value
import RustMist.Library.SortedMap
import Mathlib.Data.List.Forall2

/-! Values that differ only in the order of their members. -/

namespace Json

/-- Two members have one key and related values. -/
inductive SameKey (related : Json → Json → Prop) : String × Json → String × Json → Prop where
  | member (key : String) {value other : Json} (same : related value other) :
      SameKey related (key, value) (key, other)

/-- A value is reordered when members of its objects change their places. -/
inductive Reordered : Json → Json → Prop where
  | same (value : Json) : Reordered value value
  | array {values others : List Json} (each : List.Forall₂ Reordered values others) :
      Reordered (.array values) (.array others)
  | object {members placed others : List (String × Json)}
      (each : List.Forall₂ (SameKey Reordered) members placed) (order : placed.Perm others) :
      Reordered (.object members) (.object others)

variable {related : Json → Json → Prop} {members placed others : List (String × Json)}

theorem keys_of_sameKey (each : List.Forall₂ (SameKey related) members placed) :
    IndexMap.keys placed = IndexMap.keys members := by
  induction each with
  | nil => rfl
  | cons first rest ih =>
      cases first
      rw [IndexMap.keys_cons, IndexMap.keys_cons, ih]

theorem get_of_sameKey (each : List.Forall₂ (SameKey related) members placed) (key : String) :
    Option.Rel related (IndexMap.get key members) (IndexMap.get key placed) := by
  induction each with
  | nil => exact .none
  | cons first rest ih =>
      cases first with
      | member name same =>
          rw [IndexMap.get_cons, IndexMap.get_cons]
          dsimp only
          split
          · exact .some same
          · exact ih

theorem Reordered.optional (value : Option Json) : Option.Rel Reordered value value := by
  cases value with
  | none => exact .none
  | some value => exact .some (.same value)

/-- An object is reordered when the lookups find reordered values. -/
theorem reordered_object_iff (distinct : (IndexMap.keys members).Nodup)
    (distinct' : (IndexMap.keys others).Nodup) :
    Reordered (.object members) (.object others) ↔
      ∀ key, Option.Rel Reordered (IndexMap.get key members) (IndexMap.get key others) := by
  constructor
  · intro reordered key
    cases reordered with
    | same => exact Reordered.optional _
    | object each order =>
        have keys := keys_of_sameKey each
        rw [← IndexMap.get_of_perm order (keys ▸ distinct)]
        exact get_of_sameKey each key
  · intro agree
    -- The values of the second object are placed in the order of the first.
    let place (member : String × Json) := (member.1, ofOption (IndexMap.get member.1 others))
    have placed {member : String × Json} {other : Json}
        (lookup : IndexMap.get member.1 others = some other) : place member = (member.1, other) := by
      simp only [place, lookup, ofOption, Option.getD_some]
    have found (member : String × Json) (present : member ∈ members) :
        ∃ other, IndexMap.get member.1 others = some other ∧ Reordered member.2 other := by
      have lookup := agree member.1
      rw [IndexMap.get_of_mem distinct present] at lookup
      generalize IndexMap.get member.1 others = other at lookup
      cases lookup with
      | some same => exact ⟨_, rfl, same⟩
    have each : List.Forall₂ (SameKey Reordered) members (members.map place) := by
      rw [List.forall₂_map_right_iff, List.forall₂_same]
      intro member present
      obtain ⟨other, lookup, same⟩ := found member present
      rw [placed lookup]
      exact .member member.1 same
    have distinctPlaced : (IndexMap.keys (members.map place)).Nodup :=
      keys_of_sameKey each ▸ distinct
    apply Reordered.object each
    rw [List.perm_ext_iff_of_nodup (.of_map Prod.fst distinctPlaced) (.of_map Prod.fst distinct')]
    intro member
    constructor
    · intro present
      obtain ⟨before, inside, same⟩ := List.mem_map.mp present
      obtain ⟨other, lookup, _⟩ := found before inside
      rw [← same, placed lookup]
      exact IndexMap.mem_of_get lookup
    · intro present
      have lookup' := IndexMap.get_of_mem distinct' present
      have lookup := agree member.1
      rw [lookup'] at lookup
      cases before : IndexMap.get member.1 members with
      | none =>
          rw [before] at lookup
          cases lookup
      | some value =>
          have other : IndexMap.get (member.1, value).1 others = some member.2 := lookup'
          exact List.mem_map.mpr ⟨_, IndexMap.mem_of_get before, placed other⟩

theorem Reordered.isObject {value other : Json} (reordered : Reordered value other) :
    other.isObject = value.isObject := by
  cases reordered <;> rfl

theorem Reordered.asString {value other : Json} (reordered : Reordered value other) :
    other.asString = value.asString := by
  cases reordered <;> rfl

end Json
