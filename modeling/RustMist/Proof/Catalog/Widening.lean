import RustMist.Library.Json.Schema
import RustMist.Library.Replace
import RustMist.Proof.Catalog.Relaxation

/-! The values that a response schema accepts before and after its relaxation. -/

namespace RustMist

open JsonSchema

section Conditions

/-- The relaxation leaves the member of a key in its place and gives it no other value. -/
structure KeepsKey (map : List (String × Json)) (key : String) : Prop where
  kept : key ≠ "enum" ∧ key ≠ "required" ∧ key ≠ "oneOf"
  opened : key = "additionalProperties" → IndexMap.get key map ≠ some (.bool false)
  single : key = "anyOf" → "oneOf" ∉ IndexMap.keys map
  untyped : key = "type" → ∀ value, IndexMap.get key map = some value → isTypeDeclaration value = false

/-- The relaxation leaves each member that a path passes in its place. -/
def KeepsPath (dialect : Dialect) : List String → Json → Prop
  | key :: rest, .object map =>
      KeepsKey map key ∧ ∀ value, IndexMap.get key map = some value → KeepsPath dialect rest value
  | place :: rest, .array values => ∀ position, dialect.index place = some position →
      ∀ value, values[position]? = some value → KeepsPath dialect rest value
  | _, _ => True

/-- No property or pattern is renamed, and one that is removed is not left to a schema for further
properties. -/
structure KeepsNames (map : List (String × Json)) : Prop where
  named : ∀ name ∈ ["properties", "patternProperties"],
    "oneOf" ∉ IndexMap.keys (membersAt name map)
  covered : (∀ value, IndexMap.get "additionalProperties" map = some value → ∃ verdict,
      value = .bool verdict) ∨
    ∀ name ∈ ["properties", "patternProperties"],
      "enum" ∉ IndexMap.keys (membersAt name map) ∧ "required" ∉ IndexMap.keys (membersAt name map)

/-- The relaxation leaves the keywords of a schema, its properties and its patterns as they are. -/
structure KeepsAll (map : List (String × Json)) : Prop where
  keywords : RelaxedObject map
  names : ∀ name ∈ ["properties", "patternProperties"], RelaxedObject (membersAt name map)

/-- A reference keeps its target. A schema that no negation turns keeps its names, and one that a
negation turns stays as it is. -/
structure WidensAt (dialect : Dialect) (registry : Json) (positive : Bool)
    (map : List (String × Json)) : Prop where
  reference : ∀ reference, IndexMap.get "$ref" map = some reference →
    ∀ steps, path dialect reference = some steps → KeepsPath dialect steps registry
  names : positive = true → KeepsNames map
  turned : positive = false → KeepsAll map

/-- The relaxation turns none of the schemas that a schema reaches against the values it accepts. -/
def Widens (dialect : Dialect) (registry schema : Json) : Prop :=
  ∀ positive map, Reaches dialect registry schema positive (.object map) →
    WidensAt dialect registry positive map

end Conditions

section Targets

variable {dialect : Dialect} {map : List (String × Json)}

/-- A relaxed object at a key. -/
theorem get_relaxed (distinct : (IndexMap.keys map).Nodup) (key : String) :
    IndexMap.get key (relaxValues (relaxMembers map)) =
      (relaxedMember map key).map relaxForResponses := by
  rw [get_relaxValues, get_relaxMembers distinct]

theorem withNumber_withNull_of_other {value : Json} (other : isTypeDeclaration value = false) :
    withNumber (withNull value) = value := by
  cases value with
  | string name => cases other
  | array values => cases other
  | _ => rfl

theorem openProperties_eq {declared : Option Json} (opened : declared ≠ some (.bool false)) :
    openProperties declared = declared := by
  unfold openProperties
  split
  · exact absurd rfl opened
  · rfl

theorem relaxedMember_of_keeps {key : String} (keeps : KeepsKey map key) :
    relaxedMember map key = IndexMap.get key map := by
  obtain ⟨enum, required, oneOf⟩ := keeps.kept
  rw [relaxedMember, if_neg (by simp only [enum, required, oneOf, or_self, not_false_eq_true])]
  by_cases closed : key = "additionalProperties"
  · rw [if_pos closed, openProperties_eq (keeps.opened closed)]
  · rw [if_neg closed]
    by_cases anyOf : key = "anyOf"
    · rw [if_pos anyOf, IndexMap.get_eq_none_iff.mpr (keeps.single anyOf), Option.none_or]
    · rw [if_neg anyOf]
      by_cases type : key = "type"
      · rw [if_pos type]
        cases found : IndexMap.get key map with
        | none => rfl
        | some value =>
            rw [Option.map_some, withNumber_withNull_of_other (keeps.untyped type value found)]
      · rw [if_neg type]

/-- A path that the relaxation keeps leads to the relaxed value. -/
theorem walk_relax {steps : List String} {value part : Json} (formed : value.wellFormed = true)
    (keeps : KeepsPath dialect steps value) (found : walk dialect steps value = some part) :
    walk dialect steps (relaxForResponses value) = some (relaxForResponses part) := by
  induction steps generalizing value with
  | nil =>
      cases found
      rfl
  | cons key rest ih =>
      cases value with
      | object map =>
          obtain ⟨kept, inner⟩ := keeps
          have distinct := ((Json.wellFormed_object_iff map).mp formed).1
          rw [walk] at found
          obtain ⟨value, present, found⟩ := Option.bind_eq_some_iff.mp found
          rw [relaxForResponses_object, walk, get_relaxed distinct, relaxedMember_of_keeps kept,
            present]
          have stored : (Json.object map).get key = some value := present
          exact ih (Json.wellFormed_of_get formed stored) (inner value present) found
      | array values =>
          rw [walk] at found
          obtain ⟨position, place, found⟩ := Option.bind_eq_some_iff.mp found
          obtain ⟨value, present, found⟩ := Option.bind_eq_some_iff.mp found
          rw [relaxForResponses_array, walk, place, Option.bind_some, List.getElem?_map, present]
          apply ih _ (keeps position place value present) found
          exact (Json.wellFormed_array_iff values).mp formed value (List.mem_of_getElem? present)
      | _ => cases found

theorem path_relax (reference : Json) :
    path dialect (relaxForResponses reference) = path dialect reference := by
  rw [path, asString_relaxForResponses, path]

theorem target_relax {registry reference part : Json} (formed : registry.wellFormed = true)
    (keeps : ∀ steps, path dialect reference = some steps → KeepsPath dialect steps registry)
    (found : target dialect registry reference = some part) :
    target dialect (relaxForResponses registry) (relaxForResponses reference) =
      some (relaxForResponses part) := by
  rw [target] at found ⊢
  obtain ⟨steps, read, found⟩ := Option.bind_eq_some_iff.mp found
  rw [path_relax, read]
  exact walk_relax formed (keeps steps read) found

end Targets

section Compilation

variable {dialect : Dialect} {registry : Json} {map : List (String × Json)}

theorem relaxedMember_plain {key : String}
    (plain : key ∈ ["properties", "patternProperties", "items", "allOf", "not", "$ref"]) :
    relaxedMember map key = IndexMap.get key map := by
  simp only [List.mem_cons, List.not_mem_nil, or_false] at plain
  obtain rfl | rfl | rfl | rfl | rfl | rfl := plain <;> simp [relaxedMember]

theorem get_relaxed_plain (distinct : (IndexMap.keys map).Nodup) {key : String}
    (plain : key ∈ ["properties", "patternProperties", "items", "allOf", "not", "$ref"]) :
    IndexMap.get key (relaxValues (relaxMembers map)) =
      (IndexMap.get key map).map relaxForResponses := by
  rw [get_relaxed distinct, relaxedMember_plain plain]

theorem plain_of_names {name : String} (known : name ∈ ["properties", "patternProperties"]) :
    name ∈ ["properties", "patternProperties", "items", "allOf", "not", "$ref"] :=
  List.mem_append_left ["items", "allOf", "not", "$ref"] known

theorem isObject_relax (value : Json) : (relaxForResponses value).isObject = value.isObject := by
  cases value <;> rfl

theorem isArray_relax (value : Json) : isArray (relaxForResponses value) = isArray value := by
  cases value <;> rfl

theorem elements_relax (value : Json) :
    (relaxForResponses value).elements = value.elements.map relaxForResponses := by
  cases value with
  | array values => rw [relaxForResponses_array]; rfl
  | _ => rfl

theorem elementsAt_relaxed {name : String} {relaxed : List (String × Json)}
    {declared : Option Json}
    (found : IndexMap.get name relaxed = declared.map relaxForResponses) :
    elementsAt name relaxed = (declared.elim [] Json.elements).map relaxForResponses := by
  rw [elementsAt, found]
  cases declared with
  | none => rfl
  | some listed => exact elements_relax listed

/-- The properties and the patterns of a relaxed schema are those of the schema after the changes
that the relaxation makes to every object. -/
theorem membersAt_relax (distinct : (IndexMap.keys map).Nodup) (shaped : Formed dialect registry map)
    {name : String} (known : name ∈ ["properties", "patternProperties"]) :
    membersAt name (relaxValues (relaxMembers map)) =
      relaxValues (relaxMembers (membersAt name map)) := by
  rw [membersAt, membersAt, get_relaxed_plain distinct (plain_of_names known)]
  cases found : IndexMap.get name map with
  | none => rfl
  | some declared =>
      have shape := shaped.members name known declared found
      cases declared with
      | object members =>
          change (relaxForResponses (.object members)).members = _
          rw [relaxForResponses_object]
          rfl
      | _ => cases shape

theorem isTypeDeclaration_of_formed {part : Json} (shaped : FormedSchema dialect registry part) :
    isTypeDeclaration part = false := by
  cases part with
  | string name => cases shaped
  | array values => cases shaped
  | _ => rfl

/-- The changes to an object without a declared type keep each value that they do not remove. -/
theorem mem_relaxMembers (distinct : (IndexMap.keys map).Nodup)
    (untyped : ∀ member ∈ map, isTypeDeclaration member.2 = false) {member : String × Json}
    (present : member ∈ relaxMembers map) :
    ∃ key, (key, member.2) ∈ map ∧ member.1 = if key = "oneOf" then "anyOf" else key := by
  have found := IndexMap.get_of_mem (nodup_relaxMembers distinct) present
  rw [get_relaxMembers distinct] at found
  obtain ⟨⟨key, value⟩, inside, _, same⟩ := retained_of_relaxedMember found
  have kept : (if key = "type" then withNumber (withNull value) else value) = value := by
    rw [withNumber_withNull_of_other (untyped _ inside), ite_self]
  rw [retainedMember, kept, Prod.mk.injEq] at same
  exact ⟨key, same.2 ▸ inside, same.1.symm⟩

/-- The properties and the patterns of a schema whose subschemas are formed declare no type. -/
theorem untyped_members (parts : ∀ part, Applies dialect registry map part →
    FormedSchema dialect registry part) {name : String}
    (known : name ∈ ["properties", "patternProperties"]) :
    ∀ member ∈ membersAt name map, isTypeDeclaration member.2 = false := by
  intro member present
  exact isTypeDeclaration_of_formed (parts member.2 (.member known present))

/-- A relaxed schema applies relaxed subschemas only. -/
theorem applies_relax (bounded : registry.wellFormed = true)
    (formed : (Json.object map).wellFormed = true) (shaped : Formed dialect registry map)
    (parts : ∀ part, Applies dialect registry map part → FormedSchema dialect registry part)
    (keeps : ∀ reference, IndexMap.get "$ref" map = some reference →
      ∀ steps, path dialect reference = some steps → KeepsPath dialect steps registry)
    {relaxed : Json} (applies : Applies dialect (relaxForResponses registry)
      (relaxValues (relaxMembers map)) relaxed) :
    ∃ part, Applies dialect registry map part ∧ relaxForResponses part = relaxed := by
  have distinct := ((Json.wellFormed_object_iff map).mp formed).1
  cases applies with
  | @member name member known present =>
      rw [membersAt_relax distinct shaped known] at present
      obtain ⟨before, inside, rfl⟩ := List.mem_map.mp present
      have names := membersAt_distinct name formed
      obtain ⟨key, origin, _⟩ := mem_relaxMembers names (untyped_members parts known) inside
      have applied : Applies dialect registry map (key, before.2).2 := .member known origin
      exact ⟨before.2, applied, rfl⟩
  | @bound name part known present =>
      rw [get_relaxed distinct] at present
      obtain ⟨declared, found, rfl⟩ := Option.map_eq_some_iff.mp present
      refine ⟨declared, .bound known ?_, rfl⟩
      simp only [List.mem_cons, List.not_mem_nil, or_false] at known
      obtain rfl | rfl := known
      · change openProperties (IndexMap.get "additionalProperties" map) = some declared at found
        unfold openProperties at found
        split at found
        · cases found
        · exact found
      · rwa [relaxedMember_plain (by decide)] at found
  | @element name part known present =>
      rw [elementsAt_relaxed (get_relaxed distinct name)] at present
      obtain ⟨before, inside, rfl⟩ := List.mem_map.mp present
      have listed : before ∈ elementsAt "oneOf" map ∨ before ∈ elementsAt name map := by
        simp only [List.mem_cons, List.not_mem_nil, or_false] at known
        obtain rfl | rfl | rfl := known
        · cases inside
        · change before ∈ ((IndexMap.get "oneOf" map).or _).elim [] Json.elements at inside
          cases found : IndexMap.get "oneOf" map with
          | none =>
              rw [found, Option.none_or] at inside
              exact .inr inside
          | some alternatives =>
              rw [found, Option.some_or] at inside
              exact .inl (by rwa [elementsAt_eq found])
        · rw [relaxedMember_plain (by decide)] at inside
          exact .inr inside
      cases listed with
      | inl oneOf => exact ⟨before, .element (by simp) oneOf, rfl⟩
      | inr same => exact ⟨before, .element known same, rfl⟩
  | @target relaxed part present found =>
      rw [get_relaxed_plain distinct (by decide)] at present
      obtain ⟨reference, declared, rfl⟩ := Option.map_eq_some_iff.mp present
      obtain ⟨part, strict⟩ := Option.isSome_iff_exists.mp (shaped.reference reference declared)
      rw [target_relax bounded (keeps reference declared) strict, Option.some.injEq] at found
      exact ⟨part, .target declared strict, found⟩

theorem isType_relax (declared : Json) : isType (relaxForResponses declared) = isType declared := by
  cases declared with
  | array names =>
      rw [relaxForResponses_array, isType, List.all_map, isType]
      congr 1
      funext name
      rw [Function.comp_apply, asString_relaxForResponses]
  | _ => rfl

theorem isType_withNull {declared : Json} (known : isType declared = true) :
    isType (withNull declared) = true := by
  cases declared with
  | string name =>
      rw [withNull]
      split
      · have named : name ∈ typeNames := by simpa [isType] using known
        have null : "null" ∈ typeNames := by decide
        simp [isType, named, null]
      · exact known
  | array names =>
      rw [withNull]
      split
      · exact known
      · rw [isType, List.all_append, Bool.and_eq_true]
        exact ⟨known, rfl⟩
  | _ => cases known

theorem isType_withNumber {declared : Json} (known : isType declared = true) :
    isType (withNumber declared) = true := by
  cases declared with
  | string name =>
      rw [withNumber]
      split
      · rfl
      · exact known
  | array names =>
      rw [withNumber]
      split
      · rw [isType, List.all_append, Bool.and_eq_true]
        exact ⟨known, rfl⟩
      · exact known
  | _ => cases known

/-- A relaxed object of keywords is formed. -/
theorem formed_relax (bounded : registry.wellFormed = true) (distinct : (IndexMap.keys map).Nodup)
    (shaped : Formed dialect registry map)
    (keeps : ∀ reference, IndexMap.get "$ref" map = some reference →
      ∀ steps, path dialect reference = some steps → KeepsPath dialect steps registry) :
    Formed dialect (relaxForResponses registry) (relaxValues (relaxMembers map)) where
  type declared found := by
    rw [get_relaxed distinct] at found
    obtain ⟨widened, wide, rfl⟩ := Option.map_eq_some_iff.mp found
    obtain ⟨before, strict, rfl⟩ := Option.map_eq_some_iff.mp wide
    rw [isType_relax]
    apply isType_withNumber
    apply isType_withNull
    exact shaped.type before strict
  enum listed found := by
    rw [get_relaxed distinct] at found
    cases found
  required names found := by
    rw [get_relaxed distinct] at found
    cases found
  members name known declared found := by
    rw [get_relaxed_plain distinct (plain_of_names known)] at found
    obtain ⟨before, strict, rfl⟩ := Option.map_eq_some_iff.mp found
    rw [isObject_relax]
    exact shaped.members name known before strict
  alternatives name known listed found := by
    rw [get_relaxed distinct] at found
    obtain ⟨before, kept, rfl⟩ := Option.map_eq_some_iff.mp found
    rw [isArray_relax]
    have origin : IndexMap.get "oneOf" map = some before ∨ IndexMap.get name map = some before := by
      simp only [List.mem_cons, List.not_mem_nil, or_false] at known
      obtain rfl | rfl | rfl := known
      · cases kept
      · exact (Option.or_eq_some_iff.mp kept).imp_right And.right
      · rw [relaxedMember_plain (by decide)] at kept
        exact .inr kept
    cases origin with
    | inl oneOf => exact shaped.alternatives "oneOf" (by simp) before oneOf
    | inr same => exact shaped.alternatives name known before same
  reference reference found := by
    rw [get_relaxed_plain distinct (by decide)] at found
    obtain ⟨before, declared, rfl⟩ := Option.map_eq_some_iff.mp found
    obtain ⟨part, strict⟩ := Option.isSome_iff_exists.mp (shaped.reference before declared)
    rw [target_relax bounded (keeps before declared) strict]
    rfl

theorem object_of_relax {part : Json} {relaxed : List (String × Json)}
    (same : relaxForResponses part = .object relaxed) :
    ∃ map, part = .object map ∧ relaxed = relaxValues (relaxMembers map) := by
  cases part with
  | object map =>
      rw [relaxForResponses_object, Json.object.injEq] at same
      exact ⟨map, rfl, same.symm⟩
  | array values =>
      rw [relaxForResponses_array] at same
      cases same
  | _ => cases same

variable {schema : Json}

/-- A relaxed schema reaches relaxed schemas only. -/
theorem reaches_relax (bounded : registry.wellFormed = true) (formed : schema.wellFormed = true)
    (compiles : Compiles dialect registry schema) (widens : Widens dialect registry schema)
    {positive : Bool} {relaxed : Json}
    (reached : Reaches dialect (relaxForResponses registry) (relaxForResponses schema) positive relaxed) :
    ∃ part, Reaches dialect registry schema positive part ∧ relaxForResponses part = relaxed := by
  induction reached with
  | root => exact ⟨schema, .root, rfl⟩
  | applied outer applies ih =>
      obtain ⟨part, reached, same⟩ := ih
      obtain ⟨map, rfl, rfl⟩ := object_of_relax same
      obtain ⟨part, strict, same⟩ := applies_relax bounded (reached.wellFormed bounded formed)
        (compiles _ _ reached) (fun part applies => compiles _ part (.applied reached applies))
        (widens _ map reached).reference applies
      exact ⟨part, .applied reached strict, same⟩
  | negated outer present ih =>
      obtain ⟨part, reached, same⟩ := ih
      obtain ⟨map, rfl, rfl⟩ := object_of_relax same
      have distinct := ((Json.wellFormed_object_iff map).mp (reached.wellFormed bounded formed)).1
      rw [get_relaxed_plain distinct (by decide)] at present
      obtain ⟨part, declared, same⟩ := Option.map_eq_some_iff.mp present
      exact ⟨part, .negated reached declared, same⟩

/-- A schema that compiles still does so after the relaxation. -/
theorem compiles_relax (bounded : registry.wellFormed = true) (formed : schema.wellFormed = true)
    (compiles : Compiles dialect registry schema) (widens : Widens dialect registry schema) :
    Compiles dialect (relaxForResponses registry) (relaxForResponses schema) := by
  intro positive relaxed reached
  obtain ⟨part, strict, rfl⟩ := reaches_relax bounded formed compiles widens reached
  have shaped := compiles positive part strict
  cases part with
  | bool verdict => exact shaped
  | object map =>
      have distinct := ((Json.wellFormed_object_iff map).mp (strict.wellFormed bounded formed)).1
      rw [relaxForResponses_object]
      exact formed_relax bounded distinct shaped (widens positive map strict).reference
  | _ => cases shaped

end Compilation

section Types

variable {dialect : Dialect} {value declared : Json}

theorem admitsType_relax : admitsType dialect (relaxForResponses declared) value =
    admitsType dialect declared value := by
  cases declared with
  | array names =>
      rw [relaxForResponses_array, admitsType, List.any_map, admitsType]
      congr 1
      funext name
      rw [Function.comp_apply, asString_relaxForResponses]
  | _ => rfl

/-- A type admits what it admitted when null stands beside it. -/
theorem admitsType_withNull (admitted : admitsType dialect declared value = true) :
    admitsType dialect (withNull declared) value = true := by
  cases declared with
  | string name =>
      have known : hasType dialect name value = true := admitted
      rw [withNull]
      split
      · simp [admitsType, known]
      · exact admitted
  | array names =>
      rw [withNull]
      split
      · exact admitted
      · rw [admitsType, List.any_append, Bool.or_eq_true]
        exact .inl admitted
  | _ => exact admitted

theorem admitsType_withNumber (admitted : admitsType dialect declared value = true) :
    admitsType dialect (withNumber declared) value = true := by
  cases declared with
  | string name =>
      rw [withNumber]
      split
      · rename_i integer
        subst integer
        have known : hasType dialect "integer" value = true := admitted
        simp [admitsType, known]
      · exact admitted
  | array names =>
      rw [withNumber]
      split
      · rw [admitsType, List.any_append, Bool.or_eq_true]
        exact .inl admitted
      · exact admitted
  | _ => exact admitted

end Types

section Members

variable {dialect : Dialect} {registry : Json} {map : List (String × Json)} {key : String}

theorem mem_declaredFor_iff {map : List (String × Json)} {schema : Json} :
    schema ∈ declaredFor dialect map key ↔
      IndexMap.get key (membersAt "properties" map) = some schema ∨
        ∃ pattern, (pattern, schema) ∈ membersAt "patternProperties" map ∧
          dialect.finds pattern key = true := by
  rw [declaredFor, List.mem_append, Option.mem_toList, List.mem_map]
  simp [List.mem_filter]

/-- The schemas of a member that stays as it is are relaxed one by one. -/
theorem schemasFor_of_keepsAll (distinct : (IndexMap.keys map).Nodup)
    (shaped : Formed dialect registry map) (keeps : KeepsAll map) :
    schemasFor dialect (relaxValues (relaxMembers map)) key =
      (schemasFor dialect map key).map relaxForResponses := by
  have names {name : String} (known : name ∈ ["properties", "patternProperties"]) :
      membersAt name (relaxValues (relaxMembers map)) = relaxValues (membersAt name map) := by
    rw [membersAt_relax distinct shaped known, relaxMembers_of_relaxed (keeps.names name known)]
  have declared : declaredFor dialect (relaxValues (relaxMembers map)) key =
      (declaredFor dialect map key).map relaxForResponses := by
    rw [declaredFor, names (by simp), names (by simp), get_relaxValues, declaredFor, List.map_append,
      List.map_map, relaxValues, List.filter_map, List.map_map]
    congr 1
    cases IndexMap.get key (membersAt "properties" map) <;> rfl
  rw [schemasFor, schemasFor, declared]
  simp only [List.map_eq_nil_iff]
  split
  · rw [relaxMembers_of_relaxed keeps.keywords, get_relaxValues]
    cases IndexMap.get "additionalProperties" map <;> rfl
  · rfl

/-- The changes to an object rename no member but `oneOf`. -/
theorem origin_of_relaxed (distinct : (IndexMap.keys map).Nodup)
    (untyped : ∀ member ∈ map, isTypeDeclaration member.2 = false)
    (named : "oneOf" ∉ IndexMap.keys map) {member : String × Json}
    (present : member ∈ relaxValues (relaxMembers map)) :
    ∃ value, (member.1, value) ∈ map ∧ relaxForResponses value = member.2 := by
  obtain ⟨before, inside, rfl⟩ := List.mem_map.mp present
  obtain ⟨key, origin, renamed⟩ := mem_relaxMembers distinct untyped inside
  have other : key ≠ "oneOf" := by
    rintro rfl
    exact named (List.mem_map_of_mem origin)
  rw [if_neg other] at renamed
  exact ⟨before.2, renamed ▸ origin, rfl⟩

/-- Under a member that is removed without its key, no value is accepted. -/
theorem relaxedMember_of_names (named : "oneOf" ∉ IndexMap.keys map)
    (untyped : ∀ member ∈ map, isTypeDeclaration member.2 = false)
    (covered : "enum" ∉ IndexMap.keys map ∧ "required" ∉ IndexMap.keys map) {value : Json}
    (found : IndexMap.get key map = some value) :
    value = .bool false ∨ relaxedMember map key = some value := by
  by_cases closed : value = .bool false
  · exact .inl closed
  · have inside := IndexMap.mem_keys_of_get found
    have keeps : KeepsKey map key := by
      apply KeepsKey.mk
      · exact ⟨fun same => covered.1 (same ▸ inside), fun same => covered.2 (same ▸ inside),
          fun same => named (same ▸ inside)⟩
      · intro _ bound
        rw [found, Option.some.injEq] at bound
        exact closed bound
      · exact fun _ => named
      · intro _ declared present
        exact untyped _ (IndexMap.mem_of_get present)
    exact .inr (by rw [relaxedMember_of_keeps keeps, found])

variable (formed : (Json.object map).wellFormed = true) (shaped : Formed dialect registry map)
  (parts : ∀ part, Applies dialect registry map part → FormedSchema dialect registry part)
  (keeps : KeepsNames map)

include formed shaped parts keeps

/-- A declared schema of a relaxed object is a relaxed declared schema. -/
theorem declaredFor_relax {relaxed : Json}
    (present : relaxed ∈ declaredFor dialect (relaxValues (relaxMembers map)) key) :
    ∃ part ∈ declaredFor dialect map key, relaxForResponses part = relaxed := by
  have distinct := ((Json.wellFormed_object_iff map).mp formed).1
  have origin {name : String} (known : name ∈ ["properties", "patternProperties"])
      {member : String × Json}
      (present : member ∈ relaxValues (relaxMembers (membersAt name map))) :
      ∃ value, (member.1, value) ∈ membersAt name map ∧ relaxForResponses value = member.2 :=
    origin_of_relaxed (membersAt_distinct name formed) (untyped_members parts known)
      (keeps.named name known) present
  rw [mem_declaredFor_iff, membersAt_relax distinct shaped (by simp),
    membersAt_relax distinct shaped (by simp)] at present
  cases present with
  | inl found =>
      obtain ⟨part, inside, same⟩ := origin (by simp) (IndexMap.mem_of_get found)
      have stored := IndexMap.get_of_mem (membersAt_distinct "properties" formed) inside
      exact ⟨part, mem_declaredFor_iff.mpr (.inl stored), same⟩
  | inr matched =>
      obtain ⟨pattern, inside, finds⟩ := matched
      obtain ⟨part, inside, same⟩ := origin (by simp) inside
      exact ⟨part, mem_declaredFor_iff.mpr (.inr ⟨pattern, inside, finds⟩), same⟩

/-- A member whose declared schemas are all removed had one that accepts nothing. -/
theorem declaredFor_removed
    (covered : ∀ name ∈ ["properties", "patternProperties"],
      "enum" ∉ IndexMap.keys (membersAt name map) ∧ "required" ∉ IndexMap.keys (membersAt name map))
    (removed : declaredFor dialect (relaxValues (relaxMembers map)) key = []) :
    ∀ part ∈ declaredFor dialect map key, part = .bool false := by
  have distinct := ((Json.wellFormed_object_iff map).mp formed).1
  have absent (relaxed : Json) := List.eq_nil_iff_forall_not_mem.mp removed relaxed
  simp only [mem_declaredFor_iff, not_or] at absent
  have origin {name : String} (known : name ∈ ["properties", "patternProperties"])
      {key : String} {part : Json} (stored : IndexMap.get key (membersAt name map) = some part) :
      part = .bool false ∨ relaxedMember (membersAt name map) key = some part :=
    relaxedMember_of_names (keeps.named name known) (untyped_members parts known)
      (covered name known) stored
  have found {name : String} (known : name ∈ ["properties", "patternProperties"]) {key : String}
      {part : Json} (stored : relaxedMember (membersAt name map) key = some part) :
      IndexMap.get key (membersAt name (relaxValues (relaxMembers map))) =
        some (relaxForResponses part) := by
    rw [membersAt_relax distinct shaped known, get_relaxed (membersAt_distinct name formed), stored]
    rfl
  intro part present
  cases mem_declaredFor_iff.mp present with
  | inl named =>
      cases origin (by simp) named with
      | inl closed => exact closed
      | inr kept => exact absurd (found (by simp) kept) (absent _).1
  | inr matched =>
      obtain ⟨pattern, inside, finds⟩ := matched
      have stored := IndexMap.get_of_mem (membersAt_distinct "patternProperties" formed) inside
      cases origin (by simp) stored with
      | inl closed => exact closed
      | inr kept =>
          exact absurd ⟨pattern, IndexMap.mem_of_get (found (by simp) kept), finds⟩ (absent _).2

/-- A schema that judges a member after the relaxation accepts everything or is the relaxation of
one that judged it before, unless no value was accepted there. -/
theorem schemasFor_relax {relaxed : Json}
    (present : relaxed ∈ schemasFor dialect (relaxValues (relaxMembers map)) key) :
    .bool false ∈ schemasFor dialect map key ∨ relaxed = .bool true ∨
      ∃ part ∈ schemasFor dialect map key, relaxForResponses part = relaxed := by
  have distinct := ((Json.wellFormed_object_iff map).mp formed).1
  rw [schemasFor] at present
  split at present
  · rename_i removed
    rw [get_relaxed distinct, Option.mem_toList] at present
    obtain ⟨bound, kept, rfl⟩ := Option.map_eq_some_iff.mp present
    change openProperties (IndexMap.get "additionalProperties" map) = some bound at kept
    have opened : IndexMap.get "additionalProperties" map ≠ some (.bool false) := by
      intro closed
      rw [closed] at kept
      cases kept
    rw [openProperties_eq opened] at kept
    rw [schemasFor]
    split
    · exact .inr (.inr ⟨bound, Option.mem_toList.mpr kept, rfl⟩)
    · rename_i declared
      cases keeps.covered with
      | inl verdict =>
          obtain ⟨verdict, rfl⟩ := verdict bound kept
          cases verdict with
          | false => exact absurd kept opened
          | true => exact .inr (.inl rfl)
      | inr covered =>
          obtain ⟨part, inside⟩ := List.exists_mem_of_ne_nil _ declared
          have closed := declaredFor_removed formed shaped parts keeps covered removed part inside
          exact .inl (closed ▸ inside)
  · obtain ⟨part, inside, same⟩ := declaredFor_relax formed shaped parts keeps present
    have declared : declaredFor dialect map key ≠ [] := List.ne_nil_of_mem inside
    rw [schemasFor, if_neg declared]
    exact .inr (.inr ⟨part, inside, same⟩)

end Members

section Verdicts

variable {dialect : Dialect} {registry schema value : Json} {positive : Bool}
  {map : List (String × Json)}

theorem judge_bool (fuel : Nat) (verdict : Bool) :
    judge dialect registry fuel (.bool verdict) value = some verdict := by
  cases fuel <;> rfl

/-- A keyword that the relaxation removes restrains nothing any more. -/
theorem removed_keeps {name : String} {relaxed : List (String × Json)} {before after : Json → Judgement}
    (gone : IndexMap.get name relaxed = none)
    (turned : positive = false → IndexMap.get name map = none)
    (judged : keyword name map before = some positive) :
    keyword name relaxed after = some positive := by
  cases positive with
  | true => rw [keyword, gone, Option.elim_none]
  | false =>
      rw [keyword, turned rfl] at judged
      cases judged

theorem type_keeps (distinct : (IndexMap.keys map).Nodup)
    (turned : positive = false → KeepsAll map)
    (judged : keyword "type" map (fun declared => some (admitsType dialect declared value)) =
      some positive) :
    keyword "type" (relaxValues (relaxMembers map))
      (fun declared => some (admitsType dialect declared value)) = some positive := by
  cases positive with
  | true =>
      have changed : IndexMap.get "type" (relaxValues (relaxMembers map)) =
          (IndexMap.get "type" map).map
            fun declared => relaxForResponses (withNumber (withNull declared)) := by
        rw [get_relaxed distinct]
        exact Option.map_map _ _ _
      apply keyword_keeps changed _ judged
      intro declared _ admitted
      rw [Option.some.injEq] at admitted ⊢
      rw [admitsType_relax]
      apply admitsType_withNumber
      exact admitsType_withNull admitted
  | false =>
      have same := relaxMembers_of_relaxed (turned rfl).keywords
      rw [same]
      apply keyword_keeps (get_relaxValues map "type") _ judged
      intro declared _ admitted
      rwa [admitsType_relax]

variable (bounded : registry.wellFormed = true) (formed : schema.wellFormed = true) {fuel : Nat}
  (inner : ∀ {positive : Bool} {part : Json}, Reaches dialect registry schema positive part →
    ∀ {value : Json}, judge dialect registry fuel part value = some positive →
      judge dialect (relaxForResponses registry) fuel (relaxForResponses part) value = some positive)
  (reached : Reaches dialect registry schema positive (.object map))

include bounded formed inner reached

/-- The judgement of alternatives keeps its sign where those of `anyOf` stay. -/
theorem alternatives_keeps (absent : IndexMap.get "oneOf" map = none)
    (judged : keywordVerdict dialect registry (judge dialect registry fuel) map value .anyOf =
      some positive) :
    keywordVerdict dialect (relaxForResponses registry)
      (judge dialect (relaxForResponses registry) fuel) (relaxValues (relaxMembers map)) value
      .anyOf = some positive := by
  have distinct := ((Json.wellFormed_object_iff map).mp (reached.wellFormed bounded formed)).1
  have changed : IndexMap.get "anyOf" (relaxValues (relaxMembers map)) =
      (IndexMap.get "anyOf" map).map relaxForResponses := by
    rw [get_relaxed distinct]
    change ((IndexMap.get "oneOf" map).or _).map _ = _
    rw [absent, Option.none_or]
  apply keyword_keeps changed _ judged
  intro listed found judged
  rw [elements_relax, List.map_map]
  apply Judgement.any_keeps _ judged
  intro part inside judged
  have element : part ∈ elementsAt "anyOf" map := by rwa [elementsAt_eq found]
  exact inner (.applied reached (.element (by simp) element)) judged

/-- One of the alternatives that took the place of those of `anyOf` accepts what exactly one of them
accepted. -/
theorem choice_keeps {listed : Json} (found : IndexMap.get "oneOf" map = some listed)
    (accepted : Judgement.one (listed.elements.map (judge dialect registry fuel · value)) = some true)
    (positively : positive = true) :
    keywordVerdict dialect (relaxForResponses registry)
      (judge dialect (relaxForResponses registry) fuel) (relaxValues (relaxMembers map)) value
      .anyOf = some true := by
  subst positively
  have distinct := ((Json.wellFormed_object_iff map).mp (reached.wellFormed bounded formed)).1
  have changed : IndexMap.get "anyOf" (relaxValues (relaxMembers map)) =
      some (relaxForResponses listed) := by
    rw [get_relaxed distinct]
    change ((IndexMap.get "oneOf" map).or _).map _ = _
    rw [found, Option.some_or, Option.map_some]
  rw [keywordVerdict, keyword, changed, Option.elim_some, elements_relax, List.map_map,
    Judgement.any_eq_true_iff]
  obtain ⟨part, inside, accepts⟩ := List.mem_map.mp (Judgement.mem_of_one accepted)
  have element : part ∈ elementsAt "oneOf" map := by rwa [elementsAt_eq found]
  exact List.mem_map.mpr ⟨part, inside, inner (.applied reached (.element (by simp) element)) accepts⟩

variable (compiles : Compiles dialect registry schema) (widens : Widens dialect registry schema)

include compiles widens

/-- The judgement of the members of a value keeps its sign. -/
theorem members_keeps
    (judged : keywordVerdict dialect registry (judge dialect registry fuel) map value .members =
      some positive) :
    keywordVerdict dialect (relaxForResponses registry)
      (judge dialect (relaxForResponses registry) fuel) (relaxValues (relaxMembers map)) value
      .members = some positive := by
  have whole := reached.wellFormed bounded formed
  have shaped := compiles _ _ reached
  apply Judgement.every_keeps _ judged
  intro member _ judged
  cases positive with
  | true =>
      rw [Judgement.every_eq_true_iff, List.forall_mem_map] at judged ⊢
      intro relaxed present
      have origin := schemasFor_relax whole shaped
        (fun part applies => compiles _ part (.applied reached applies))
        ((widens _ map reached).names rfl) present
      obtain closed | rfl | ⟨part, inside, rfl⟩ := origin
      · have accepted := judged _ closed
        rw [judge_bool] at accepted
        cases accepted
      · exact judge_bool fuel true
      · exact inner (.applied reached (applies_of_mem_schemasFor inside)) (judged part inside)
  | false =>
      have distinct := ((Json.wellFormed_object_iff map).mp whole).1
      rw [schemasFor_of_keepsAll distinct shaped ((widens _ map reached).turned rfl), List.map_map]
      apply Judgement.every_keeps _ judged
      intro part inside rejected
      exact inner (.applied reached (applies_of_mem_schemasFor inside)) rejected

/-- A keyword keeps the verdict that the sign of its schema asks for, when a schema that no negation
turns meets all its keywords. -/
theorem keywordVerdict_relax
    (all : positive = true → ∀ name,
      keywordVerdict dialect registry (judge dialect registry fuel) map value name = some true)
    (name : Keyword)
    (judged : keywordVerdict dialect registry (judge dialect registry fuel) map value name =
      some positive) :
    keywordVerdict dialect (relaxForResponses registry)
      (judge dialect (relaxForResponses registry) fuel) (relaxValues (relaxMembers map)) value
      name = some positive := by
  have distinct := ((Json.wellFormed_object_iff map).mp (reached.wellFormed bounded formed)).1
  have widened := widens positive map reached
  cases name with
  | type => exact type_keeps distinct widened.turned judged
  | enum =>
      apply removed_keeps _ (fun turned => (widened.turned turned).keywords.noEnum) judged
      rw [get_relaxed distinct]
      rfl
  | required =>
      apply removed_keeps _ (fun turned => (widened.turned turned).keywords.noRequired) judged
      rw [get_relaxed distinct]
      rfl
  | oneOf =>
      apply removed_keeps _ (fun turned => (widened.turned turned).keywords.noOneOf) judged
      rw [get_relaxed distinct]
      rfl
  | members => exact members_keeps bounded formed inner reached compiles widens judged
  | items =>
      apply keyword_keeps (get_relaxed_plain distinct (by decide)) _ judged
      intro part found judged
      apply Judgement.every_keeps _ judged
      intro element _
      exact inner (.applied reached (.bound (by simp) found))
  | anyOf =>
      cases found : IndexMap.get "oneOf" map with
      | none => exact alternatives_keeps bounded formed inner reached found judged
      | some listed =>
          cases positive with
          | true =>
              have accepted := all rfl .oneOf
              rw [keywordVerdict, keyword, found, Option.elim_some] at accepted
              exact choice_keeps bounded formed inner reached found accepted rfl
          | false =>
              rw [(widened.turned rfl).keywords.noOneOf] at found
              cases found
  | allOf =>
      apply keyword_keeps (get_relaxed_plain distinct (by decide)) _ judged
      intro listed found judged
      rw [elements_relax, List.map_map]
      apply Judgement.every_keeps _ judged
      intro part inside
      have element : part ∈ elementsAt "allOf" map := by rwa [elementsAt_eq found]
      exact inner (.applied reached (.element (by simp) element))
  | not =>
      apply keyword_keeps (get_relaxed_plain distinct (by decide)) _ judged
      intro part found judged
      exact Judgement.negate_keeps (inner (.negated reached found)) judged
  | ref =>
      apply keyword_keeps (get_relaxed_plain distinct (by decide)) _ judged
      intro reference found judged
      cases strict : target dialect registry reference with
      | none =>
          rw [strict] at judged
          cases judged
      | some part =>
          rw [strict] at judged
          rw [target_relax bounded (widened.reference reference found) strict]
          exact inner (.applied reached (.target found strict)) judged

end Verdicts

section Outcome

variable {dialect : Dialect} {registry schema : Json}

/-- A judgement keeps the sign of its schema: after the relaxation, a schema that no negation turns
accepts what it accepted, and one that a negation turns rejects what it rejected. -/
theorem judge_relax (bounded : registry.wellFormed = true) (formed : schema.wellFormed = true)
    (compiles : Compiles dialect registry schema) (widens : Widens dialect registry schema)
    (fuel : Nat) {positive : Bool} {part : Json}
    (reached : Reaches dialect registry schema positive part) {value : Json}
    (judged : judge dialect registry fuel part value = some positive) :
    judge dialect (relaxForResponses registry) fuel (relaxForResponses part) value =
      some positive := by
  induction fuel generalizing positive part value with
  | zero =>
      cases part with
      | bool verdict => exact judged
      | _ => cases judged
  | succ fuel ih =>
      cases part with
      | bool verdict => exact judged
      | object map =>
          rw [relaxForResponses_object]
          change Judgement.every _ = _ at judged
          change Judgement.every _ = _
          apply Judgement.every_keeps _ judged
          intro name _
          apply keywordVerdict_relax bounded formed ih reached compiles widens
          intro positively name
          rw [positively, Judgement.every_eq_true_iff, List.forall_mem_map] at judged
          exact judged name (by cases name <;> simp [keywords])
      | _ => cases judged

/-- A value that a schema accepts stays valid when the relaxation turns no schema against it. -/
theorem relaxation_widens (dialect : Dialect) (registry schema : Json.Value)
    (widens : Widens dialect registry.1 schema.1) (value : Json)
    (valid : Valid dialect registry.1 schema.1 value) :
    Valid dialect (relaxForResponses registry.1) (relaxForResponses schema.1) value := by
  obtain ⟨fuel, accepted⟩ := valid.accepted
  apply Valid.mk (compiles_relax registry.2 schema.2 valid.compiles widens)
  exact ⟨fuel, judge_relax registry.2 schema.2 valid.compiles widens fuel .root accepted⟩

/-- In this dialect a pattern is searched as a plain text, and one reference has a target. -/
def plainDialect : Dialect where
  finds pattern key := Pattern.occurs pattern.toList key.toList
  equal := Json.same
  integral literal := literal.text.drop (literal.text.length - 2) = ['.', '0']
  steps reference :=
    if reference = "#/components/schemas/name" then some ["schemas", "name"] else none
  index := String.toNat?

/-- This schema names one type. -/
def typed (name : String) : List (String × Json) := [("type", .string name)]

/-- A bare schema has none of these keywords. -/
def Bare (map : List (String × Json)) : Prop :=
  ∀ name ∈ ["properties", "patternProperties", "additionalProperties", "items", "oneOf", "anyOf",
    "allOf", "enum", "required"], name ∉ IndexMap.keys map

instance (map : List (String × Json)) : Decidable (Bare map) :=
  inferInstanceAs (Decidable (∀ name ∈ _, name ∉ IndexMap.keys map))

section Bare

variable {map : List (String × Json)} (bare : Bare map)

include bare

theorem Bare.absent {name : String}
    (known : name ∈ ["properties", "patternProperties", "additionalProperties", "items", "oneOf",
      "anyOf", "allOf", "enum", "required"]) : IndexMap.get name map = none :=
  IndexMap.get_eq_none_iff.mpr (bare name known)

theorem Bare.membersAt {name : String} (known : name ∈ ["properties", "patternProperties"]) :
    JsonSchema.membersAt name map = [] := by
  rw [JsonSchema.membersAt, bare.absent (List.mem_append_left _ known)]
  rfl

theorem Bare.keepsNames : KeepsNames map where
  named name known := by
    rw [bare.membersAt known]
    exact List.not_mem_nil
  covered := by
    left
    intro value found
    rw [bare.absent (by decide)] at found
    cases found

theorem Bare.formed {dialect : Dialect} {registry : Json}
    (type : ∀ declared, IndexMap.get "type" map = some declared → isType declared = true)
    (reference : ∀ reference, IndexMap.get "$ref" map = some reference →
      (target dialect registry reference).isSome = true) : Formed dialect registry map where
  type := type
  enum listed found := by
    rw [bare.absent (by decide)] at found
    cases found
  required names found := by
    rw [bare.absent (by decide)] at found
    cases found
  members name known declared found := by
    rw [bare.absent (List.mem_append_left _ known)] at found
    cases found
  alternatives name known listed found := by
    have present : name ∈ ["oneOf", "anyOf", "allOf", "enum", "required"] :=
      List.mem_append_left ["enum", "required"] known
    rw [bare.absent (List.mem_append_right ["properties", "patternProperties",
      "additionalProperties", "items"] present)] at found
    cases found
  reference := reference

/-- A bare schema applies the target of its reference only. -/
theorem Bare.applies {dialect : Dialect} {registry part : Json}
    (applies : Applies dialect registry map part) :
    ∃ reference, IndexMap.get "$ref" map = some reference ∧
      target dialect registry reference = some part := by
  cases applies with
  | member known present =>
      rw [bare.membersAt known] at present
      cases present
  | bound known present =>
      have listed := List.mem_append_left ["oneOf", "anyOf", "allOf", "enum", "required"] known
      rw [bare.absent (List.mem_append_right ["properties", "patternProperties"] listed)] at present
      cases present
  | element known present =>
      have listed := List.mem_append_left ["enum", "required"] known
      rw [elementsAt, bare.absent (List.mem_append_right ["properties", "patternProperties",
        "additionalProperties", "items"] listed)] at present
      cases present
  | target present found => exact ⟨_, present, found⟩

end Bare

theorem bare_typed (name : String) : Bare (typed name) := by
  have keys : IndexMap.keys (typed name) = ["type"] := rfl
  rw [Bare, keys]
  decide

theorem formed_typed (dialect : Dialect) (registry : Json) {name : String} (known : name ∈ typeNames) :
    Formed dialect registry (typed name) := by
  apply (bare_typed name).formed
  · intro declared found
    cases found
    simpa [isType] using known
  · intro reference found
    cases found

theorem not_applies_typed {dialect : Dialect} {registry part : Json} {name : String} :
    ¬Applies dialect registry (typed name) part := by
  intro applies
  obtain ⟨reference, present, _⟩ := (bare_typed name).applies applies
  cases present

def namedRegistry : Json.Value :=
  ⟨.object [("schemas", .object [("name", .object (typed "string"))])], by decide⟩

/-- A value under this schema is a name of the registry and is not null. -/
def namedSchema : List (String × Json) :=
  [("$ref", .string "#/components/schemas/name"), ("not", .object (typed "null"))]

theorem bare_namedSchema : Bare namedSchema := by
  have keys : IndexMap.keys namedSchema = ["$ref", "not"] := rfl
  rw [Bare, keys]
  decide

theorem namedSchema_target {reference part : Json}
    (present : IndexMap.get "$ref" namedSchema = some reference)
    (found : target plainDialect namedRegistry.1 reference = some part) :
    part = .object (typed "string") := by
  cases present
  have same : some (Json.object (typed "string")) = some part := found
  exact (Option.some.inj same).symm

/-- The schema reaches the name, and through its negation the type that it excludes. -/
theorem reaches_namedSchema {positive : Bool} {part : Json}
    (reached : Reaches plainDialect namedRegistry.1 (.object namedSchema) positive part) :
    (positive = true ∧ part = .object namedSchema) ∨
      (positive = true ∧ part = .object (typed "string")) ∨
      (positive = false ∧ part = .object (typed "null")) := by
  apply Reaches.invariant (.inl ⟨rfl, rfl⟩) _ _ reached
  · intro positive map outer part applies
    obtain ⟨rfl, same⟩ | ⟨rfl, same⟩ | ⟨rfl, same⟩ := outer <;> cases same
    · obtain ⟨reference, present, found⟩ := bare_namedSchema.applies applies
      exact .inr (.inl ⟨rfl, namedSchema_target present found⟩)
    · exact absurd applies not_applies_typed
    · exact absurd applies not_applies_typed
  · intro positive map outer part present
    obtain ⟨rfl, same⟩ | ⟨rfl, same⟩ | ⟨rfl, same⟩ := outer <;> cases same <;> cases present
    exact .inr (.inr ⟨rfl, rfl⟩)

theorem compiles_namedSchema : Compiles plainDialect namedRegistry.1 (.object namedSchema) := by
  intro positive part reached
  obtain ⟨-, rfl⟩ | ⟨-, rfl⟩ | ⟨-, rfl⟩ := reaches_namedSchema reached
  · apply bare_namedSchema.formed
    · intro declared found
      cases found
    · intro reference found
      cases found
      rfl
  · exact formed_typed plainDialect _ (by decide)
  · exact formed_typed plainDialect _ (by decide)

theorem keepsPath_name : KeepsPath plainDialect ["schemas", "name"] namedRegistry.1 := by
  have keeps {key : String} {value : Json} (other : key ∉ ["enum", "required", "oneOf",
      "additionalProperties", "anyOf", "type"]) : KeepsKey [(key, value)] key := by
    simp only [List.mem_cons, List.not_mem_nil, or_false, not_or] at other
    obtain ⟨enum, required, oneOf, closed, anyOf, type⟩ := other
    exact ⟨⟨enum, required, oneOf⟩, fun same => absurd same closed, fun same => absurd same anyOf,
      fun same => absurd same type⟩
  refine ⟨keeps (by decide), fun value found => ?_⟩
  cases found
  refine ⟨keeps (by decide), fun value found => ?_⟩
  cases found
  trivial

theorem keepsAll_null : KeepsAll (typed "null") where
  keywords := by
    apply RelaxedObject.mk rfl rfl rfl
    · intro closed
      cases closed
    · intro declared found _
      cases found
      rfl
    · intro declared found _ integer
      cases found
      cases integer
  names name known := by
    rw [(bare_typed "null").membersAt known]
    apply RelaxedObject.mk rfl rfl rfl
    · intro closed
      cases closed
    · intro declared found
      cases found
    · intro declared found
      cases found

theorem widens_namedSchema : Widens plainDialect namedRegistry.1 (.object namedSchema) := by
  intro positive map reached
  obtain ⟨rfl, same⟩ | ⟨rfl, same⟩ | ⟨rfl, same⟩ := reaches_namedSchema reached <;> cases same
  · apply WidensAt.mk
    · intro reference found steps read
      cases found
      cases read
      exact keepsPath_name
    · exact fun _ => bare_namedSchema.keepsNames
    · exact fun turned => nomatch turned
  · apply WidensAt.mk
    · intro reference found
      cases found
    · exact fun _ => (bare_typed "string").keepsNames
    · exact fun turned => nomatch turned
  · apply WidensAt.mk
    · intro reference found
      cases found
    · exact fun turned => nomatch turned
    · exact fun _ => keepsAll_null

theorem relaxation_widens_named :
    Valid plainDialect namedRegistry.1 (.object namedSchema) (.string "edge") ∧
      Valid plainDialect (relaxForResponses namedRegistry.1) (relaxForResponses (.object namedSchema))
        (.string "edge") := by
  have valid : Valid plainDialect namedRegistry.1 (.object namedSchema) (.string "edge") :=
    ⟨compiles_namedSchema, 2, by decide⟩
  exact ⟨valid, relaxation_widens plainDialect namedRegistry ⟨.object namedSchema, by decide⟩
    widens_namedSchema _ valid⟩

/-- The record may have a flag of the name of a keyword; its other members are texts. -/
def flaggedRecord : List (String × Json) :=
  [("properties", .object [("required", .object (typed "boolean"))]),
    ("additionalProperties", .object (typed "string"))]

/-- A value under this schema is no text. -/
def noText : List (String × Json) := [("not", .object (typed "string"))]

theorem applies_flaggedRecord {dialect : Dialect} {registry part : Json}
    (applies : Applies dialect registry flaggedRecord part) :
    part = .object (typed "boolean") ∨ part = .object (typed "string") := by
  cases applies with
  | member known present =>
      simp only [List.mem_cons, List.not_mem_nil, or_false] at known
      obtain rfl | rfl := known
      · have same : _ = ("required", Json.object (typed "boolean")) := List.mem_singleton.mp present
        exact .inl (congrArg Prod.snd same)
      · cases present
  | bound known present =>
      simp only [List.mem_cons, List.not_mem_nil, or_false] at known
      obtain rfl | rfl := known
      · cases present
        exact .inr rfl
      · cases present
  | element known present =>
      simp only [List.mem_cons, List.not_mem_nil, or_false] at known
      obtain rfl | rfl | rfl := known <;> cases present
  | target present _ => cases present

theorem compiles_flaggedRecord (dialect : Dialect) (registry : Json) :
    Compiles dialect registry (.object flaggedRecord) := by
  intro positive part reached
  have known : part = .object flaggedRecord ∨ part = .object (typed "boolean") ∨
      part = .object (typed "string") := by
    apply Reaches.invariant (.inl rfl) _ _ reached
    · intro _ map outer part applies
      obtain same | same | same := outer <;> cases same
      · exact .inr (applies_flaggedRecord applies)
      · exact absurd applies not_applies_typed
      · exact absurd applies not_applies_typed
    · intro _ map outer part present
      obtain same | same | same := outer <;> cases same <;> cases present
  obtain rfl | rfl | rfl := known
  · apply Formed.mk
    · intro declared found
      cases found
    · intro listed found
      cases found
    · intro names found
      cases found
    · intro name known declared found
      simp only [List.mem_cons, List.not_mem_nil, or_false] at known
      obtain rfl | rfl := known <;> cases found
      rfl
    · intro name known listed found
      simp only [List.mem_cons, List.not_mem_nil, or_false] at known
      obtain rfl | rfl | rfl := known <;> cases found
    · intro reference found
      cases found
  · exact formed_typed dialect registry (by decide)
  · exact formed_typed dialect registry (by decide)

theorem compiles_noText (dialect : Dialect) (registry : Json) :
    Compiles dialect registry (.object noText) := by
  intro positive part reached
  have bare : Bare noText := by decide
  have known : part = .object noText ∨ part = .object (typed "string") := by
    apply Reaches.invariant (.inl rfl) _ _ reached
    · intro _ map outer part applies
      obtain same | same := outer <;> cases same
      · obtain ⟨reference, present, _⟩ := bare.applies applies
        cases present
      · exact absurd applies not_applies_typed
    · intro _ map outer part present
      obtain same | same := outer <;> cases same <;> cases present
      exact .inr rfl
  obtain rfl | rfl := known
  · apply bare.formed
    · intro declared found
      cases found
    · intro reference found
      cases found
  · exact formed_typed dialect registry (by decide)

/-- The flag is left to the schema for the other members when its property is removed, and the
widened type under the negation excludes null. -/
theorem relaxation_narrows :
    (Valid plainDialect (.object []) (.object flaggedRecord) (.object [("required", .bool true)]) ∧
      ¬Valid plainDialect (relaxForResponses (.object [])) (relaxForResponses (.object flaggedRecord))
        (.object [("required", .bool true)])) ∧
    (Valid plainDialect (.object []) (.object noText) .null ∧
      ¬Valid plainDialect (relaxForResponses (.object [])) (relaxForResponses (.object noText))
        .null) := by
  constructor
  · constructor
    · exact ⟨compiles_flaggedRecord _ _, 2, by decide⟩
    · have rejected : judge plainDialect (relaxForResponses (.object [])) 2
          (relaxForResponses (.object flaggedRecord)) (.object [("required", .bool true)]) =
            some false := by decide
      exact rejected_not_valid rejected
  · constructor
    · exact ⟨compiles_noText _ _, 2, by decide⟩
    · have rejected : judge plainDialect (relaxForResponses (.object [])) 2
          (relaxForResponses (.object noText)) .null = some false := by decide
      exact rejected_not_valid rejected

end Outcome

end RustMist
