import RustMist.Library.Json.MergePatch

/-! The judgement of values by JSON schemas whose references lead into a registry. -/

/-- A judgement stays open while it has no steps left. -/
abbrev Judgement := Option Bool

namespace Judgement

def every (verdicts : List Judgement) : Judgement :=
  if some false ∈ verdicts then some false else if none ∈ verdicts then none else some true

def any (verdicts : List Judgement) : Judgement :=
  if some true ∈ verdicts then some true else if none ∈ verdicts then none else some false

/-- Exactly one judgement is positive. -/
def one (verdicts : List Judgement) : Judgement :=
  if 2 ≤ verdicts.count (some true) then some false
  else if none ∈ verdicts then none
  else some (verdicts.count (some true) = 1)

def negate (verdict : Judgement) : Judgement := verdict.map Bool.not

theorem mem_verdicts {verdicts : List Judgement} {verdict : Judgement} (present : verdict ∈ verdicts)
    (negative : some false ∉ verdicts) (decided : none ∉ verdicts) : verdict = some true := by
  cases verdict with
  | none => exact absurd present decided
  | some verdict =>
      cases verdict with
      | false => exact absurd present negative
      | true => rfl

theorem every_eq_true_iff {verdicts : List Judgement} :
    every verdicts = some true ↔ ∀ verdict ∈ verdicts, verdict = some true := by
  unfold every
  constructor
  · intro positive verdict present
    split at positive
    · cases positive
    · rename_i negative
      split at positive
      · cases positive
      · rename_i decided
        exact mem_verdicts present negative decided
  · intro each
    have decided : none ∉ verdicts := fun present => nomatch each none present
    have positive : some false ∉ verdicts := fun present => nomatch each (some false) present
    rw [if_neg positive, if_neg decided]

theorem every_eq_false_iff {verdicts : List Judgement} :
    every verdicts = some false ↔ some false ∈ verdicts := by
  unfold every
  constructor
  · intro negative
    split at negative
    · assumption
    · split at negative <;> cases negative
  · intro present
    exact if_pos present

theorem any_eq_true_iff {verdicts : List Judgement} :
    any verdicts = some true ↔ some true ∈ verdicts := by
  unfold any
  constructor
  · intro positive
    split at positive
    · assumption
    · split at positive <;> cases positive
  · intro present
    exact if_pos present

theorem any_eq_false_iff {verdicts : List Judgement} :
    any verdicts = some false ↔ ∀ verdict ∈ verdicts, verdict = some false := by
  unfold any
  constructor
  · intro negative verdict present
    split at negative
    · cases negative
    · rename_i positive
      split at negative
      · cases negative
      · rename_i decided
        cases verdict with
        | none => exact absurd present decided
        | some verdict =>
            cases verdict with
            | false => rfl
            | true => exact absurd present positive
  · intro each
    have decided : none ∉ verdicts := fun present => nomatch each none present
    have negative : some true ∉ verdicts := fun present => nomatch each (some true) present
    rw [if_neg negative, if_neg decided]

theorem mem_of_one {verdicts : List Judgement} (positive : one verdicts = some true) :
    some true ∈ verdicts := by
  unfold one at positive
  split at positive
  · cases positive
  · split at positive
    · cases positive
    · have single : verdicts.count (some true) = 1 := by simpa using positive
      apply List.count_pos_iff.mp
      omega

section Maps

variable {α : Type} {items : List α} {first second : α → Judgement} {verdict : Bool}

/-- A conjunction keeps a verdict that each of its parts keeps. -/
theorem every_keeps (kept : ∀ item ∈ items, first item = some verdict → second item = some verdict)
    (judged : every (items.map first) = some verdict) :
    every (items.map second) = some verdict := by
  cases verdict with
  | true =>
      rw [every_eq_true_iff, List.forall_mem_map] at judged ⊢
      intro item present
      exact kept item present (judged item present)
  | false =>
      rw [every_eq_false_iff, List.mem_map] at judged ⊢
      obtain ⟨item, present, negative⟩ := judged
      exact ⟨item, present, kept item present negative⟩

/-- A disjunction keeps a verdict that each of its parts keeps. -/
theorem any_keeps (kept : ∀ item ∈ items, first item = some verdict → second item = some verdict)
    (judged : any (items.map first) = some verdict) :
    any (items.map second) = some verdict := by
  cases verdict with
  | true =>
      rw [any_eq_true_iff, List.mem_map] at judged ⊢
      obtain ⟨item, present, positive⟩ := judged
      exact ⟨item, present, kept item present positive⟩
  | false =>
      rw [any_eq_false_iff, List.forall_mem_map] at judged ⊢
      intro item present
      exact kept item present (judged item present)

theorem count_le_of_kept
    (kept : ∀ item ∈ items, first item = some true → second item = some true) :
    (items.map first).count (some true) ≤ (items.map second).count (some true) := by
  rw [List.count_eq_countP, List.count_eq_countP, List.countP_map, List.countP_map]
  apply List.countP_mono_left
  intro item present positive
  simp only [Function.comp_apply, beq_iff_eq] at positive ⊢
  exact kept item present positive

/-- A choice keeps its verdict when its parts keep all of theirs. -/
theorem one_keeps
    (kept : ∀ verdict, ∀ item ∈ items, first item = some verdict → second item = some verdict)
    (judged : one (items.map first) = some verdict) : one (items.map second) = some verdict := by
  unfold one at judged ⊢
  have count := count_le_of_kept (kept true)
  split at judged
  · rw [if_pos (by omega), judged]
  · split at judged
    · cases judged
    · rename_i decided
      have same : items.map second = items.map first := by
        apply List.map_congr_left
        intro item present
        cases known : first item with
        | none => exact absurd (List.mem_map.mpr ⟨item, present, known⟩) decided
        | some verdict => exact kept verdict item present known
      rw [same, if_neg (by assumption), if_neg decided, judged]

theorem negate_keeps {before after : Judgement}
    (kept : before = some (!verdict) → after = some (!verdict))
    (judged : before.negate = some verdict) : after.negate = some verdict := by
  cases before with
  | none => cases judged
  | some known =>
      have opposite : some known = some (!verdict) := by
        cases judged
        simp
      rw [kept opposite]
      simp [negate]

end Maps

end Judgement

namespace JsonSchema

/-- What a judgement takes from the dialect: the search of patterns, the equality of values, the
floats that count as integers, and the keys and places that a reference names below the registry. -/
structure Dialect where
  finds : String → String → Bool
  equal : Json → Json → Bool
  integral : FloatText → Bool
  steps : String → Option (List String)
  index : String → Option Nat

variable (dialect : Dialect)

/-- The value that stands at the end of a path. -/
def walk : List String → Json → Option Json
  | [], value => some value
  | key :: rest, .object members => (IndexMap.get key members).bind (walk rest)
  | place :: rest, .array values =>
      (dialect.index place).bind fun place => values[place]?.bind (walk rest)
  | _ :: _, _ => none

def path (reference : Json) : Option (List String) := reference.asString.bind dialect.steps

def target (registry reference : Json) : Option Json :=
  (path dialect reference).bind fun steps => walk dialect steps registry

def typeNames : List String := ["null", "boolean", "object", "array", "number", "integer", "string"]

def hasType (name : String) : Json → Bool
  | .null => name = "null"
  | .bool _ => name = "boolean"
  | .number (.float literal) => name = "number" || (name = "integer" && dialect.integral literal)
  | .number _ => name = "number" || name = "integer"
  | .string _ => name = "string"
  | .array _ => name = "array"
  | .object _ => name = "object"

/-- A declared type admits a value through one of its names. -/
def admitsType (declared value : Json) : Bool :=
  match declared with
  | .string name => hasType dialect name value
  | .array names => names.any fun name => name.asString.any fun name => hasType dialect name value
  | _ => true

def holdsRequired (required value : Json) : Bool :=
  !value.isObject || required.elements.all fun name =>
    name.asString.all fun name => (IndexMap.get name value.members).isSome

/-- The members of the object at a keyword. -/
def membersAt (keyword : String) (map : List (String × Json)) : List (String × Json) :=
  (IndexMap.get keyword map).elim [] Json.members

/-- The elements of the array at a keyword. -/
def elementsAt (keyword : String) (map : List (String × Json)) : List Json :=
  (IndexMap.get keyword map).elim [] Json.elements

/-- The schemas that the property names and the patterns declare for a member. -/
def declaredFor (map : List (String × Json)) (key : String) : List Json :=
  (IndexMap.get key (membersAt "properties" map)).toList ++
    ((membersAt "patternProperties" map).filter fun member => dialect.finds member.1 key).map Prod.snd

/-- The schemas that judge a member: without a declared one, the bound on further properties. -/
def schemasFor (map : List (String × Json)) (key : String) : List Json :=
  if declaredFor dialect map key = [] then (IndexMap.get "additionalProperties" map).toList
  else declaredFor dialect map key

/-- The keywords of a schema. The bounds on properties, on patterns and on further properties judge
the members of a value together. -/
inductive Keyword where
  | type
  | enum
  | required
  | members
  | items
  | oneOf
  | anyOf
  | allOf
  | not
  | ref

def keywords : List Keyword :=
  [.type, .enum, .required, .members, .items, .oneOf, .anyOf, .allOf, .not, .ref]

/-- An absent keyword accepts every value. -/
def keyword (name : String) (map : List (String × Json)) (judge : Json → Judgement) : Judgement :=
  (IndexMap.get name map).elim (some true) judge

/-- The judgement of one keyword rests on the judgements of the subschemas. -/
def keywordVerdict (registry : Json) (judge : Json → Json → Judgement) (map : List (String × Json))
    (value : Json) : Keyword → Judgement
  | .type => keyword "type" map fun declared => some (admitsType dialect declared value)
  | .enum => keyword "enum" map fun listed => some (listed.elements.any (dialect.equal value))
  | .required => keyword "required" map fun required => some (holdsRequired required value)
  | .members => .every (value.members.map fun member =>
      .every ((schemasFor dialect map member.1).map fun schema => judge schema member.2))
  | .items => keyword "items" map fun schema => .every (value.elements.map (judge schema))
  | .oneOf => keyword "oneOf" map fun listed => .one (listed.elements.map (judge · value))
  | .anyOf => keyword "anyOf" map fun listed => .any (listed.elements.map (judge · value))
  | .allOf => keyword "allOf" map fun listed => .every (listed.elements.map (judge · value))
  | .not => keyword "not" map fun schema => .negate (judge schema value)
  | .ref => keyword "$ref" map fun reference =>
      (target dialect registry reference).elim none (judge · value)

/-- A judgement follows references as long as it has steps left. -/
def judge (registry : Json) : Nat → Json → Json → Judgement
  | _, .bool verdict, _ => some verdict
  | fuel + 1, .object map, value =>
      .every (keywords.map (keywordVerdict dialect registry (judge registry fuel) map value))
  | _, _, _ => none

section Shape

/-- A declared type names known types. -/
def isType : Json → Bool
  | .string name => name ∈ typeNames
  | .array names => names.all fun name => name.asString.any fun name => name ∈ typeNames
  | _ => false

def isTexts : Json → Bool
  | .array values => values.all fun value => value.asString.isSome
  | _ => false

def isArray : Json → Bool
  | .array _ => true
  | _ => false

/-- The value at each keyword has the shape that the keyword asks for. -/
structure Formed (registry : Json) (map : List (String × Json)) : Prop where
  type : ∀ declared, IndexMap.get "type" map = some declared → isType declared = true
  enum : ∀ listed, IndexMap.get "enum" map = some listed → isArray listed = true
  required : ∀ names, IndexMap.get "required" map = some names → isTexts names = true
  members : ∀ name ∈ ["properties", "patternProperties"], ∀ declared,
    IndexMap.get name map = some declared → declared.isObject = true
  alternatives : ∀ name ∈ ["oneOf", "anyOf", "allOf"], ∀ listed,
    IndexMap.get name map = some listed → isArray listed = true
  reference : ∀ reference, IndexMap.get "$ref" map = some reference →
    (target dialect registry reference).isSome = true

/-- A schema is a verdict or an object of keywords. -/
def FormedSchema (registry : Json) : Json → Prop
  | .bool _ => True
  | .object map => Formed dialect registry map
  | _ => False

/-- A schema applies the schemas of its properties and patterns, those of its bounds and of its
combinations, and the target of its reference. -/
inductive Applies (registry : Json) (map : List (String × Json)) : Json → Prop where
  | member {name : String} {member : String × Json}
      (known : name ∈ ["properties", "patternProperties"]) (present : member ∈ membersAt name map) :
      Applies registry map member.2
  | bound {name : String} {part : Json} (known : name ∈ ["additionalProperties", "items"])
      (present : IndexMap.get name map = some part) : Applies registry map part
  | element {name : String} {part : Json} (known : name ∈ ["oneOf", "anyOf", "allOf"])
      (present : part ∈ elementsAt name map) : Applies registry map part
  | target {reference part : Json} (present : IndexMap.get "$ref" map = some reference)
      (found : target dialect registry reference = some part) : Applies registry map part

/-- The subschemas of a schema, each with the sign that the negations around it leave. -/
inductive Reaches (registry schema : Json) : Bool → Json → Prop where
  | root : Reaches registry schema true schema
  | applied {positive : Bool} {map : List (String × Json)} {part : Json}
      (outer : Reaches registry schema positive (.object map))
      (applies : Applies dialect registry map part) : Reaches registry schema positive part
  | negated {positive : Bool} {map : List (String × Json)} {part : Json}
      (outer : Reaches registry schema positive (.object map))
      (present : IndexMap.get "not" map = some part) : Reaches registry schema (!positive) part

/-- A schema compiles when all that it reaches is formed. -/
def Compiles (registry schema : Json) : Prop :=
  ∀ positive part, Reaches dialect registry schema positive part → FormedSchema dialect registry part

/-- A value is valid under a schema that compiles when a judgement of it ends well. -/
structure Valid (registry schema value : Json) : Prop where
  compiles : Compiles dialect registry schema
  accepted : ∃ fuel, judge dialect registry fuel schema value = some true

end Shape

section Steps

variable {dialect} {registry : Json}

/-- A keyword keeps its verdict when its value changes and the judgement of that value does not. -/
theorem keyword_keeps {name : String} {map map' : List (String × Json)} {change : Json → Json}
    {before after : Json → Judgement} {verdict : Bool}
    (changed : IndexMap.get name map' = (IndexMap.get name map).map change)
    (kept : ∀ declared, IndexMap.get name map = some declared →
      before declared = some verdict → after (change declared) = some verdict)
    (judged : keyword name map before = some verdict) : keyword name map' after = some verdict := by
  unfold keyword at judged ⊢
  rw [changed]
  cases found : IndexMap.get name map with
  | none =>
      rw [found] at judged
      exact judged
  | some declared =>
      rw [found] at judged
      exact kept declared found judged

/-- A keyword keeps its verdict when the judgements of the subschemas keep theirs. -/
theorem keywordVerdict_keeps {first second : Json → Json → Judgement}
    (kept : ∀ schema value verdict, first schema value = some verdict →
      second schema value = some verdict)
    {map : List (String × Json)} {value : Json} (name : Keyword) {verdict : Bool}
    (judged : keywordVerdict dialect registry first map value name = some verdict) :
    keywordVerdict dialect registry second map value name = some verdict := by
  have inner {name : String} {before after : Json → Judgement}
      (kept : ∀ declared, before declared = some verdict → after declared = some verdict) :
      keyword name map before = some verdict → keyword name map after = some verdict :=
    keyword_keeps (by simp) fun declared _ => kept declared
  cases name with
  | type | enum | required => exact judged
  | members =>
      apply Judgement.every_keeps _ judged
      intro member _ judged
      apply Judgement.every_keeps _ judged
      intro schema _
      exact kept schema member.2 verdict
  | items =>
      apply inner _ judged
      intro schema judged
      apply Judgement.every_keeps _ judged
      intro element _
      exact kept schema element verdict
  | oneOf =>
      apply inner _ judged
      intro listed judged
      apply Judgement.one_keeps _ judged
      intro verdict schema _
      exact kept schema value verdict
  | anyOf =>
      apply inner _ judged
      intro listed judged
      apply Judgement.any_keeps _ judged
      intro schema _
      exact kept schema value verdict
  | allOf =>
      apply inner _ judged
      intro listed judged
      apply Judgement.every_keeps _ judged
      intro schema _
      exact kept schema value verdict
  | not =>
      apply inner _ judged
      intro schema judged
      exact Judgement.negate_keeps (kept schema value _) judged
  | ref =>
      apply inner _ judged
      intro reference judged
      cases found : target dialect registry reference with
      | none =>
          rw [found] at judged
          cases judged
      | some schema =>
          rw [found] at judged
          exact kept schema value verdict judged

theorem judge_succ {fuel : Nat} {schema value : Json} {verdict : Bool}
    (judged : judge dialect registry fuel schema value = some verdict) :
    judge dialect registry (fuel + 1) schema value = some verdict := by
  induction fuel generalizing schema value verdict with
  | zero =>
      cases schema with
      | bool known => exact judged
      | _ => cases judged
  | succ fuel ih =>
      cases schema with
      | bool known => exact judged
      | object map =>
          apply Judgement.every_keeps _ judged
          intro name _
          apply keywordVerdict_keeps
          intro schema value verdict
          exact ih
      | _ => cases judged

/-- A verdict stays when the judgement has more steps. -/
theorem judge_of_le {fuel more : Nat} (enough : fuel ≤ more) {schema value : Json} {verdict : Bool}
    (judged : judge dialect registry fuel schema value = some verdict) :
    judge dialect registry more schema value = some verdict := by
  induction more, enough using Nat.le_induction with
  | base => exact judged
  | succ more _ ih => exact judge_succ ih

/-- No judgement accepts a value that another one rejects. -/
theorem rejected_not_valid {fuel : Nat} {schema value : Json}
    (judged : judge dialect registry fuel schema value = some false) :
    ¬Valid dialect registry schema value := by
  intro valid
  obtain ⟨other, accepted⟩ := valid.accepted
  have negative := judge_of_le (Nat.le_max_left fuel other) judged
  have positive := judge_of_le (Nat.le_max_right fuel other) accepted
  rw [negative] at positive
  cases positive

/-- A property of a schema and of all subschemas of its objects holds of all that it reaches. -/
theorem Reaches.invariant {schema part : Json} {positive : Bool} {holds : Bool → Json → Prop}
    (root : holds true schema)
    (applied : ∀ positive map, holds positive (.object map) → ∀ part,
      Applies dialect registry map part → holds positive part)
    (negated : ∀ positive map, holds positive (.object map) → ∀ part,
      IndexMap.get "not" map = some part → holds (!positive) part)
    (reached : Reaches dialect registry schema positive part) : holds positive part := by
  induction reached with
  | root => exact root
  | applied _ applies ih => exact applied _ _ ih _ applies
  | negated _ present ih => exact negated _ _ ih _ present

theorem walk_wellFormed {steps : List String} {value part : Json} (formed : value.wellFormed = true)
    (found : walk dialect steps value = some part) : part.wellFormed = true := by
  induction steps generalizing value with
  | nil =>
      cases found
      exact formed
  | cons key rest ih =>
      cases value with
      | object map =>
          obtain ⟨value, present, found⟩ := Option.bind_eq_some_iff.mp found
          have stored : (Json.object map).get key = some value := present
          exact ih (Json.wellFormed_of_get formed stored) found
      | array values =>
          obtain ⟨position, _, found⟩ := Option.bind_eq_some_iff.mp found
          obtain ⟨value, present, found⟩ := Option.bind_eq_some_iff.mp found
          exact ih ((Json.wellFormed_array_iff values).mp formed _ (List.mem_of_getElem? present)) found
      | _ => cases found

theorem target_wellFormed {reference part : Json} (formed : registry.wellFormed = true)
    (found : target dialect registry reference = some part) : part.wellFormed = true := by
  obtain ⟨steps, _, found⟩ := Option.bind_eq_some_iff.mp found
  exact walk_wellFormed formed found

theorem membersAt_eq {name : String} {map : List (String × Json)} {declared : Json}
    (found : IndexMap.get name map = some declared) : membersAt name map = declared.members := by
  rw [membersAt, found]
  rfl

theorem elementsAt_eq {name : String} {map : List (String × Json)} {declared : Json}
    (found : IndexMap.get name map = some declared) : elementsAt name map = declared.elements := by
  rw [elementsAt, found]
  rfl

/-- The members at a keyword of a well-formed object are those of a well-formed object. -/
theorem membersAt_wellFormed {name : String} {map : List (String × Json)}
    (formed : (Json.object map).wellFormed = true) :
    (Json.object (membersAt name map)).wellFormed = true := by
  cases found : IndexMap.get name map with
  | none =>
      rw [membersAt, found]
      rfl
  | some declared =>
      have stored : (Json.object map).get name = some declared := found
      have inner := Json.wellFormed_of_get formed stored
      rw [membersAt_eq found]
      cases declared with
      | object members => exact inner
      | _ => rfl

theorem membersAt_distinct (name : String) {map : List (String × Json)}
    (formed : (Json.object map).wellFormed = true) : (IndexMap.keys (membersAt name map)).Nodup :=
  ((Json.wellFormed_object_iff _).mp (membersAt_wellFormed formed)).1

theorem Applies.wellFormed {map : List (String × Json)} {part : Json}
    (bounded : registry.wellFormed = true) (formed : (Json.object map).wellFormed = true)
    (applies : Applies dialect registry map part) : part.wellFormed = true := by
  cases applies with
  | member known present =>
      exact ((Json.wellFormed_object_iff _).mp (membersAt_wellFormed formed)).2 _ present
  | bound known present =>
      have stored : (Json.object map).get _ = some part := present
      exact Json.wellFormed_of_get formed stored
  | @element name _ known present =>
      cases found : IndexMap.get name map with
      | none => simp [elementsAt, found] at present
      | some listed =>
          have stored : (Json.object map).get name = some listed := found
          have inner := Json.wellFormed_of_get formed stored
          rw [elementsAt_eq found] at present
          cases listed with
          | array values => exact (Json.wellFormed_array_iff values).mp inner part present
          | _ => cases present
  | target present found => exact target_wellFormed bounded found

theorem Reaches.wellFormed {schema part : Json} {positive : Bool}
    (bounded : registry.wellFormed = true) (formed : schema.wellFormed = true)
    (reached : Reaches dialect registry schema positive part) : part.wellFormed = true := by
  apply Reaches.invariant formed _ _ reached
  · intro _ map inner part applies
    exact applies.wellFormed bounded inner
  · intro _ map inner part present
    have stored : (Json.object map).get "not" = some part := present
    exact Json.wellFormed_of_get inner stored

/-- The schemas for a member are applied. -/
theorem applies_of_mem_schemasFor {map : List (String × Json)} {key : String} {schema : Json}
    (present : schema ∈ schemasFor dialect map key) : Applies dialect registry map schema := by
  rw [schemasFor] at present
  split at present
  · exact .bound (by simp) (Option.mem_toList.mp present)
  · rw [declaredFor, List.mem_append] at present
    cases present with
    | inl named =>
        have found := IndexMap.mem_of_get (Option.mem_toList.mp named)
        exact .member (by simp) found
    | inr matched =>
        obtain ⟨member, found, rfl⟩ := List.mem_map.mp matched
        exact .member (by simp) (List.mem_of_mem_filter found)

end Steps

end JsonSchema
