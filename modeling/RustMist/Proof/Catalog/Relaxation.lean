import RustMist.Construction.Core.ResponseSchema

/-! What the relaxation of a response schema changes and what it keeps. -/

namespace RustMist

section Lookups

variable {map : List (String × Json)}

/-- The part that the relaxation keeps of a bound on further properties. -/
def openProperties : Option Json → Option Json
  | some (.bool false) => none
  | declared => declared

/-- A declared type with null beside it. -/
def withNull : Json → Json
  | .string name => if name ≠ "null" then .array [.string name, .string "null"] else .string name
  | .array names =>
      if names.any fun name => name.asString = some "null" then .array names
      else .array (names ++ [.string "null"])
  | declared => declared

/-- A declared type with numbers beside integers. -/
def withNumber : Json → Json
  | .string name =>
      if name = "integer" then .array [.string "integer", .string "number"] else .string name
  | .array names =>
      if (names.any fun name => name.asString = some "integer") &&
          !(names.any fun name => name.asString = some "number") then
        .array (names ++ [.string "number"])
      else .array names
  | declared => declared

theorem get_dropClosedProperties (distinct : (IndexMap.keys map).Nodup) (key : String) :
    IndexMap.get key (dropClosedProperties map) =
      if key = "additionalProperties" then openProperties (IndexMap.get key map)
      else IndexMap.get key map := by
  unfold dropClosedProperties
  split
  · rename_i closed
    rw [IndexMap.get_swapRemove _ distinct]
    by_cases same : key = "additionalProperties"
    · rw [if_pos same, if_pos same, same, closed]
      rfl
    · rw [if_neg same, if_neg same]
  · rename_i kept
    by_cases same : key = "additionalProperties"
    · rw [if_pos same, same]
      unfold openProperties
      split
      · rename_i closed
        exact absurd closed kept
      · rfl
    · rw [if_neg same]

theorem nodup_dropClosedProperties (distinct : (IndexMap.keys map).Nodup) :
    (IndexMap.keys (dropClosedProperties map)).Nodup := by
  unfold dropClosedProperties
  split
  · exact IndexMap.nodup_swapRemove distinct
  · exact distinct

theorem get_rewriteOneOf (distinct : (IndexMap.keys map).Nodup) (key : String) :
    IndexMap.get key (rewriteOneOf map) =
      if key = "oneOf" then none
      else if key = "anyOf" then (IndexMap.get "oneOf" map).or (IndexMap.get key map)
      else IndexMap.get key map := by
  unfold rewriteOneOf
  cases found : IndexMap.get "oneOf" map with
  | none =>
      by_cases same : key = "oneOf"
      · rw [if_pos same, same]
        exact found
      · rw [if_neg same, Option.none_or, ite_self]
  | some oneOf =>
      simp only
      rw [IndexMap.get_insert, IndexMap.get_swapRemove _ distinct]
      by_cases same : key = "oneOf"
      · rw [if_pos same, if_pos same, same, if_neg (by decide)]
      · rw [if_neg same, if_neg same, Option.some_or]

theorem get_widenTypeToAdmitNull (key : String) :
    IndexMap.get key (widenTypeToAdmitNull map) =
      if key = "type" then (IndexMap.get key map).map withNull else IndexMap.get key map := by
  unfold widenTypeToAdmitNull
  by_cases same : key = "type"
  · subst same
    rw [if_pos rfl]
    cases found : IndexMap.get "type" map with
    | none => exact found
    | some declared =>
        cases declared with
        | string name =>
            by_cases other : name ≠ "null"
            · simp only [if_pos other, IndexMap.get_insert, Option.map_some, withNull]
              rfl
            · simp only [if_neg other, found, Option.map_some, withNull]
        | array names =>
            by_cases null : (names.any fun name => name.asString = some "null") = true
            · simp only [if_pos null, found, Option.map_some, withNull]
            · simp only [if_neg null, IndexMap.get_insert, Option.map_some, withNull]
              rfl
        | _ => exact found
  · rw [if_neg same]
    split
    · split
      · rw [IndexMap.get_insert, if_neg same]
      · rfl
    · split
      · rfl
      · rw [IndexMap.get_insert, if_neg same]
    · rfl

theorem get_widenIntegerToAdmitNumber (key : String) :
    IndexMap.get key (widenIntegerToAdmitNumber map) =
      if key = "type" then (IndexMap.get key map).map withNumber else IndexMap.get key map := by
  unfold widenIntegerToAdmitNumber
  by_cases same : key = "type"
  · subst same
    rw [if_pos rfl]
    cases found : IndexMap.get "type" map with
    | none => exact found
    | some declared =>
        cases declared with
        | string name =>
            by_cases integer : name = "integer"
            · simp only [if_pos integer, IndexMap.get_insert, Option.map_some, withNumber]
              rfl
            · simp only [if_neg integer, found, Option.map_some, withNumber]
        | array names =>
            by_cases narrow : ((names.any fun name => name.asString = some "integer") &&
                !(names.any fun name => name.asString = some "number")) = true
            · simp only [if_pos narrow, IndexMap.get_insert, Option.map_some, withNumber]
              rfl
            · simp only [if_neg narrow, found, Option.map_some, withNumber]
        | _ => exact found
  · rw [if_neg same]
    split
    · split
      · rw [IndexMap.get_insert, if_neg same]
      · rfl
    · split
      · rw [IndexMap.get_insert, if_neg same]
      · rfl
    · rfl

/-- What a relaxed object has at a key, before its values are relaxed. -/
def relaxedMember (map : List (String × Json)) (key : String) : Option Json :=
  if key = "enum" ∨ key = "required" ∨ key = "oneOf" then none
  else if key = "additionalProperties" then openProperties (IndexMap.get key map)
  else if key = "anyOf" then (IndexMap.get "oneOf" map).or (IndexMap.get key map)
  else if key = "type" then (IndexMap.get key map).map fun declared => withNumber (withNull declared)
  else IndexMap.get key map

/-- The members of a relaxed object, key by key. -/
theorem get_relaxMembers (distinct : (IndexMap.keys map).Nodup) (key : String) :
    IndexMap.get key (relaxMembers map) = relaxedMember map key := by
  have first : (IndexMap.keys (IndexMap.swapRemove "enum" map)).Nodup :=
    IndexMap.nodup_swapRemove distinct
  have second : (IndexMap.keys (IndexMap.swapRemove "required"
      (IndexMap.swapRemove "enum" map))).Nodup := IndexMap.nodup_swapRemove first
  have third := nodup_dropClosedProperties second
  unfold relaxMembers relaxedMember
  simp only [get_widenIntegerToAdmitNumber, get_widenTypeToAdmitNull, get_rewriteOneOf third,
    get_dropClosedProperties second, IndexMap.get_swapRemove _ first,
    IndexMap.get_swapRemove _ distinct]
  by_cases enum : key = "enum"
  · simp [enum]
  · by_cases required : key = "required"
    · simp [required]
    · by_cases oneOf : key = "oneOf"
      · simp [oneOf]
      · by_cases type : key = "type"
        · subst type
          simp
          rfl
        · by_cases anyOf : key = "anyOf"
          · simp [anyOf]
          · by_cases closed : key = "additionalProperties"
            · simp [closed]
            · simp [enum, required, oneOf, type, anyOf, closed]

/-- A removal of an absent key changes nothing. -/
theorem swapRemove_of_get_none {key : String} (absent : IndexMap.get key map = none) :
    IndexMap.swapRemove key map = map := by
  induction map with
  | nil => rfl
  | cons member rest ih =>
      rw [IndexMap.get_cons] at absent
      by_cases same : member.1 = key
      · rw [if_pos same] at absent
        cases absent
      · rw [if_neg same] at absent
        rw [IndexMap.swapRemove, if_neg same, ih absent]

theorem nodup_rewriteOneOf (distinct : (IndexMap.keys map).Nodup) :
    (IndexMap.keys (rewriteOneOf map)).Nodup := by
  unfold rewriteOneOf
  split
  · apply IndexMap.nodup_insert
    exact IndexMap.nodup_swapRemove distinct
  · exact distinct

theorem nodup_widenTypeToAdmitNull (distinct : (IndexMap.keys map).Nodup) :
    (IndexMap.keys (widenTypeToAdmitNull map)).Nodup := by
  unfold widenTypeToAdmitNull
  split
  · split
    · exact IndexMap.nodup_insert distinct
    · exact distinct
  · split
    · exact distinct
    · exact IndexMap.nodup_insert distinct
  · exact distinct

theorem nodup_widenIntegerToAdmitNumber (distinct : (IndexMap.keys map).Nodup) :
    (IndexMap.keys (widenIntegerToAdmitNumber map)).Nodup := by
  unfold widenIntegerToAdmitNumber
  split
  · split
    · exact IndexMap.nodup_insert distinct
    · exact distinct
  · split
    · exact IndexMap.nodup_insert distinct
    · exact distinct
  · exact distinct

theorem nodup_relaxMembers (distinct : (IndexMap.keys map).Nodup) :
    (IndexMap.keys (relaxMembers map)).Nodup := by
  apply nodup_widenIntegerToAdmitNumber
  apply nodup_widenTypeToAdmitNull
  apply nodup_rewriteOneOf
  apply nodup_dropClosedProperties
  apply IndexMap.nodup_swapRemove
  exact IndexMap.nodup_swapRemove distinct

end Lookups

section Results

/-- A part of a value stands at any depth of it. -/
inductive Within (part : Json) : Json → Prop where
  | whole : Within part part
  | member {key : String} {value : Json} {members : List (String × Json)}
      (present : (key, value) ∈ members) (inner : Within part value) :
      Within part (.object members)
  | item {value : Json} {values : List Json} (present : value ∈ values)
      (inner : Within part value) : Within part (.array values)

/-- A type is declared by one name or by a list of names. -/
def isTypeDeclaration : Json → Bool
  | .string _ | .array _ => true
  | _ => false

/-- A declared type admits the values of a name. -/
def admits (name : String) : Json → Bool
  | .string declared => declared = name
  | .array names => names.any fun declared => declared.asString = some name
  | _ => false

/-- A relaxed object pins no vocabulary. -/
structure RelaxedObject (map : List (String × Json)) : Prop where
  noEnum : IndexMap.get "enum" map = none
  noRequired : IndexMap.get "required" map = none
  noOneOf : IndexMap.get "oneOf" map = none
  opened : IndexMap.get "additionalProperties" map ≠ some (.bool false)
  admitsNull : ∀ declared, IndexMap.get "type" map = some declared →
    isTypeDeclaration declared = true → admits "null" declared = true
  admitsNumber : ∀ declared, IndexMap.get "type" map = some declared →
    isTypeDeclaration declared = true → admits "integer" declared = true →
      admits "number" declared = true

/-- Every object at any depth of a value is relaxed. -/
def Relaxed (value : Json) : Prop := ∀ map, Within (.object map) value → RelaxedObject map

theorem admits_null_withNull {declared : Json} (named : isTypeDeclaration declared = true) :
    admits "null" (withNull declared) = true := by
  cases declared with
  | string name =>
      by_cases other : name ≠ "null"
      · simp [withNull, other, admits]
      · simp [withNull, admits, not_not.mp other]
  | array names =>
      by_cases null : (names.any fun name => name.asString = some "null") = true
      · rw [withNull, if_pos null]
        exact null
      · rw [withNull, if_neg null]
        simp [admits]
  | _ => cases named

theorem admits_withNumber {name : String} {declared : Json} (admitted : admits name declared = true) :
    admits name (withNumber declared) = true := by
  cases declared with
  | string other =>
      by_cases integer : other = "integer"
      · have same : "integer" = name := by simpa [admits, integer] using admitted
        simp [withNumber, integer, admits, same]
      · simpa only [withNumber, if_neg integer] using admitted
  | array names =>
      rw [withNumber]
      split
      · have kept : (names.any fun declared => declared.asString = some name) = true := admitted
        simp only [admits, List.any_append, kept, Bool.true_or]
      · exact admitted
  | _ => exact admitted

theorem admits_number_withNumber {declared : Json}
    (integer : admits "integer" (withNumber declared) = true) :
    admits "number" (withNumber declared) = true := by
  cases declared with
  | string name =>
      by_cases same : name = "integer"
      · simp [withNumber, same, admits]
      · simp only [withNumber, if_neg same, admits, decide_eq_true_iff] at integer
        exact absurd integer same
  | array names =>
      rw [withNumber] at integer ⊢
      split
      · simp [admits]
      · rename_i wide
        rw [if_neg wide] at integer
        have narrow : (names.any fun name => name.asString = some "integer") = true := integer
        rw [narrow, Bool.true_and, Bool.not_eq_true, Bool.not_eq_false'] at wide
        exact wide
  | _ => cases integer

theorem relaxedObject_relaxMembers {map : List (String × Json)}
    (distinct : (IndexMap.keys map).Nodup) : RelaxedObject (relaxMembers map) where
  noEnum := get_relaxMembers distinct "enum"
  noRequired := get_relaxMembers distinct "required"
  noOneOf := get_relaxMembers distinct "oneOf"
  opened := by
    rw [get_relaxMembers distinct]
    change openProperties _ ≠ _
    unfold openProperties
    split
    · simp
    · assumption
  admitsNull declared found named := by
    rw [get_relaxMembers distinct] at found
    obtain ⟨before, present, rfl⟩ := Option.map_eq_some_iff.mp found
    apply admits_withNumber
    apply admits_null_withNull
    cases before with
    | string name => rfl
    | array names => rfl
    | _ => cases named
  admitsNumber declared found named integer := by
    rw [get_relaxMembers distinct] at found
    obtain ⟨before, present, rfl⟩ := Option.map_eq_some_iff.mp found
    exact admits_number_withNumber integer

/-- An array is relaxed with its elements. -/
theorem relaxed_array_iff (values : List Json) :
    Relaxed (.array values) ↔ ∀ value ∈ values, Relaxed value := by
  constructor
  · intro relaxed value present map within
    exact relaxed map (.item present within)
  · intro each map within
    cases within with
    | item present inner => exact each _ present map inner

theorem relaxed_object_iff (map : List (String × Json)) :
    Relaxed (.object map) ↔ RelaxedObject map ∧ ∀ member ∈ map, Relaxed member.2 := by
  constructor
  · intro relaxed
    exact ⟨relaxed map .whole, fun member present inner within =>
      relaxed inner (.member present within)⟩
  · intro each inner within
    cases within with
    | whole => exact each.1
    | member present within => exact each.2 _ present inner within

theorem relaxed_string (name : String) : Relaxed (.string name) := by
  intro map within
  cases within

theorem relaxed_withNull {declared : Json} (relaxed : Relaxed declared) :
    Relaxed (withNull declared) := by
  cases declared with
  | string name =>
      rw [withNull]
      split
      · simp [relaxed_array_iff, relaxed_string]
      · exact relaxed
  | array names =>
      rw [withNull]
      split
      · exact relaxed
      · rw [relaxed_array_iff] at relaxed ⊢
        simpa [or_imp, forall_and, relaxed_string] using relaxed
  | _ => exact relaxed

theorem relaxed_withNumber {declared : Json} (relaxed : Relaxed declared) :
    Relaxed (withNumber declared) := by
  cases declared with
  | string name =>
      rw [withNumber]
      split
      · simp [relaxed_array_iff, relaxed_string]
      · exact relaxed
  | array names =>
      rw [withNumber]
      split
      · rw [relaxed_array_iff] at relaxed ⊢
        simpa [or_imp, forall_and, relaxed_string] using relaxed
      · exact relaxed
  | _ => exact relaxed

/-- The changes at one object keep its values relaxed. -/
theorem relaxed_relaxMembers {map : List (String × Json)} (distinct : (IndexMap.keys map).Nodup)
    (each : ∀ member ∈ map, Relaxed member.2) :
    ∀ member ∈ relaxMembers map, Relaxed member.2 := by
  intro member present
  have found := IndexMap.get_of_mem (nodup_relaxMembers distinct) present
  have kept {key : String} {value : Json} (found : IndexMap.get key map = some value) :
      Relaxed value := each _ (IndexMap.mem_of_get found)
  rw [get_relaxMembers distinct, relaxedMember] at found
  split at found
  · cases found
  · split at found
    · unfold openProperties at found
      split at found
      · cases found
      · exact kept found
    · split at found
      · cases declared : IndexMap.get "oneOf" map with
        | none =>
            rw [declared, Option.none_or] at found
            exact kept found
        | some oneOf =>
            rw [declared, Option.some_or] at found
            cases found
            exact kept declared
      · split at found
        · obtain ⟨declared, before, same⟩ := Option.map_eq_some_iff.mp found
          rw [← same]
          apply relaxed_withNumber
          exact relaxed_withNull (kept before)
        · exact kept found

theorem keys_relaxValues (map : List (String × Json)) :
    IndexMap.keys (relaxValues map) = IndexMap.keys map :=
  IndexMap.keys_mapValues relaxForResponses map

/-- The relaxation of an object whose nested values are relaxed first. -/
theorem relaxForResponses_object_nested (map : List (String × Json)) :
    relaxForResponses (.object map) = .object (relaxMembers (relaxValues map)) := by
  rw [relaxForResponses, relaxNestedMembers_eq]

/-- No object at any depth of a relaxed value pins a vocabulary. -/
theorem relaxed_relaxForResponses (value : Json) (formed : value.wellFormed = true) :
    Relaxed (relaxForResponses value) := by
  induction value using Json.inductionOn with
  | array values ih =>
      rw [relaxForResponses_array, relaxed_array_iff]
      intro item present
      obtain ⟨value, before, rfl⟩ := List.mem_map.mp present
      exact ih value before ((Json.wellFormed_array_iff values).mp formed value before)
  | object map ih =>
      obtain ⟨distinct, each⟩ := (Json.wellFormed_object_iff map).mp formed
      have distinct' : (IndexMap.keys (relaxValues map)).Nodup := by
        rw [keys_relaxValues]
        exact distinct
      rw [relaxForResponses_object_nested, relaxed_object_iff]
      apply And.intro (relaxedObject_relaxMembers distinct')
      apply relaxed_relaxMembers distinct'
      intro member present
      obtain ⟨before, inside, rfl⟩ := List.mem_map.mp present
      exact ih before inside (each before inside)
  | _ =>
      intro map within
      cases within

theorem widenTypeToAdmitNull_of_relaxed {map : List (String × Json)} (relaxed : RelaxedObject map) :
    widenTypeToAdmitNull map = map := by
  unfold widenTypeToAdmitNull
  split
  · rename_i name found
    have null : name = "null" := by simpa [admits] using relaxed.admitsNull _ found rfl
    rw [if_neg (not_not.mpr null)]
  · rename_i names found
    exact if_pos (relaxed.admitsNull _ found rfl)
  · rfl

theorem widenIntegerToAdmitNumber_of_relaxed {map : List (String × Json)}
    (relaxed : RelaxedObject map) : widenIntegerToAdmitNumber map = map := by
  unfold widenIntegerToAdmitNumber
  split
  · rename_i name found
    have null : name = "null" := by simpa [admits] using relaxed.admitsNull _ found rfl
    have other : name ≠ "integer" := by
      rw [null]
      decide
    rw [if_neg other]
  · rename_i names found
    rw [if_neg]
    intro narrow
    rw [Bool.and_eq_true, Bool.not_eq_true'] at narrow
    have wide : (names.any fun name => name.asString = some "number") = true :=
      relaxed.admitsNumber _ found rfl narrow.1
    rw [narrow.2] at wide
    cases wide
  · rfl

/-- A relaxed object stays as it is. -/
theorem relaxMembers_of_relaxed {map : List (String × Json)} (relaxed : RelaxedObject map) :
    relaxMembers map = map := by
  have kept : dropClosedProperties map = map := by
    unfold dropClosedProperties
    split
    · rename_i closed
      exact absurd closed relaxed.opened
    · rfl
  have same : rewriteOneOf map = map := by rw [rewriteOneOf, relaxed.noOneOf]
  rw [relaxMembers, swapRemove_of_get_none relaxed.noEnum,
    swapRemove_of_get_none relaxed.noRequired, kept, same,
    widenTypeToAdmitNull_of_relaxed relaxed, widenIntegerToAdmitNumber_of_relaxed relaxed]

/-- A relaxed value stays as it is. -/
theorem relaxForResponses_of_relaxed (value : Json) (relaxed : Relaxed value) :
    relaxForResponses value = value := by
  induction value using Json.inductionOn with
  | array values ih =>
      rw [relaxed_array_iff] at relaxed
      rw [relaxForResponses_array, List.map_congr_left fun value present =>
        ih value present (relaxed value present), List.map_id']
  | object map ih =>
      rw [relaxed_object_iff] at relaxed
      have same : relaxValues map = map := by
        rw [relaxValues, List.map_congr_left fun member present =>
          show (member.1, relaxForResponses member.2) = member by
            rw [ih member present (relaxed.2 member present)], List.map_id']
      rw [relaxForResponses_object, relaxMembers_of_relaxed relaxed.1, same]
  | _ => rfl

end Results

section Rest

/-- The members of these keys and the bound on further properties are removed. -/
def isRetained (member : String × Json) : Bool :=
  member.1 ≠ "enum" && member.1 ≠ "required" &&
    (member.1 ≠ "additionalProperties" || (openProperties (some member.2)).isSome)

/-- A part of a value that no removed member holds. -/
inductive Retained (part : Json) : Json → Prop where
  | whole : Retained part part
  | member {key : String} {value : Json} {members : List (String × Json)}
      (present : (key, value) ∈ members) (kept : isRetained (key, value) = true)
      (inner : Retained part value) : Retained part (.object members)
  | item {value : Json} {values : List Json} (present : value ∈ values)
      (inner : Retained part value) : Retained part (.array values)

/-- A retained member keeps its value, a type with the added names, and its key, except that the
alternatives of `oneOf` become those of `anyOf`. -/
def retainedMember (member : String × Json) : String × Json :=
  (if member.1 = "oneOf" then "anyOf" else member.1,
    if member.1 = "type" then withNumber (withNull member.2) else member.2)

/-- The relaxation keeps every element of an array and every retained member of an object. -/
def KeepsRest : Json → Prop
  | .object map => ∃ relaxed, relaxForResponses (.object map) = .object relaxed ∧
      relaxed.Perm (relaxValues ((map.filter isRetained).map retainedMember))
  | .array values => relaxForResponses (.array values) = .array (values.map relaxForResponses)
  | value => relaxForResponses value = value

variable {map : List (String × Json)}

/-- An object offers alternatives of both kinds. -/
def OffersBoth (map : List (String × Json)) : Prop :=
  "oneOf" ∈ IndexMap.keys map ∧ "anyOf" ∈ IndexMap.keys map

instance : Decidable (OffersBoth map) := inferInstanceAs (Decidable (_ ∧ _))

/-- Without alternatives of both kinds, no two retained members get one key. -/
theorem nodup_retained (distinct : (IndexMap.keys map).Nodup) (one : ¬OffersBoth map) :
    (IndexMap.keys ((map.filter isRetained).map retainedMember)).Nodup := by
  rw [IndexMap.keys, List.map_map]
  apply List.Nodup.map_on
  · intro first present second present' same
    have inside := (List.mem_filter.mp present).1
    have inside' := (List.mem_filter.mp present').1
    have key : first.1 ∈ IndexMap.keys map := List.mem_map_of_mem inside
    have key' : second.1 ∈ IndexMap.keys map := List.mem_map_of_mem inside'
    apply List.inj_on_of_nodup_map distinct inside inside'
    simp only [Function.comp_apply, retainedMember] at same
    split at same
    · rename_i oneOf
      split at same
      · rename_i oneOf'
        rw [oneOf, oneOf']
      · exact absurd ⟨oneOf ▸ key, same ▸ key'⟩ one
    · split at same
      · rename_i oneOf'
        exact absurd ⟨oneOf' ▸ key', same ▸ key⟩ one
      · exact same
  · exact (List.Nodup.of_map Prod.fst distinct).filter isRetained

theorem openProperties_of_isSome {value : Json}
    (opened : (openProperties (some value)).isSome = true) :
    openProperties (some value) = some value := by
  generalize found : openProperties (some value) = bound at opened
  unfold openProperties at found
  split at found
  · rw [← found] at opened
    cases opened
  · exact found.symm

/-- A retained member is found in the relaxed object. -/
theorem relaxedMember_retained (distinct : (IndexMap.keys map).Nodup) (one : ¬OffersBoth map)
    {member : String × Json} (present : member ∈ map) (kept : isRetained member = true) :
    relaxedMember map (retainedMember member).1 = some (retainedMember member).2 := by
  obtain ⟨key, value⟩ := member
  have found := IndexMap.get_of_mem distinct present
  have inside := IndexMap.mem_keys_of_get found
  simp only [isRetained, Bool.and_eq_true, Bool.or_eq_true, decide_eq_true_eq] at kept
  obtain ⟨⟨enum, required⟩, opened⟩ := kept
  unfold relaxedMember retainedMember
  by_cases oneOf : key = "oneOf"
  · subst oneOf
    simp [found]
  · by_cases anyOf : key = "anyOf"
    · subst anyOf
      have absent : IndexMap.get "oneOf" map = none := by
        rw [IndexMap.get_eq_none_iff]
        intro declared
        exact one ⟨declared, inside⟩
      simp [found, absent]
    · by_cases closed : key = "additionalProperties"
      · subst closed
        have kept := openProperties_of_isSome (opened.resolve_left (not_not.mpr rfl))
        simp [found, kept]
      · by_cases type : key = "type"
        · subst type
          simp [found]
        · simp [enum, required, oneOf, anyOf, closed, type, found]

/-- Every member of the relaxed object is a retained member. -/
theorem retained_of_relaxedMember {key : String} {value : Json}
    (found : relaxedMember map key = some value) :
    ∃ member ∈ map, isRetained member = true ∧ retainedMember member = (key, value) := by
  unfold relaxedMember at found
  split at found
  · cases found
  · rename_i other
    rw [not_or, not_or] at other
    obtain ⟨enum, required, oneOf⟩ := other
    split at found
    · rename_i closed
      subst closed
      cases declared : IndexMap.get "additionalProperties" map with
      | none =>
          rw [declared] at found
          cases found
      | some bound =>
          rw [declared] at found
          have opened : (openProperties (some bound)).isSome = true := by rw [found]; rfl
          rw [openProperties_of_isSome opened] at found
          cases found
          exact ⟨_, IndexMap.mem_of_get declared, by simp [isRetained, opened], by simp [retainedMember]⟩
    · rename_i closed
      split at found
      · rename_i anyOf
        subst anyOf
        cases declared : IndexMap.get "oneOf" map with
        | none =>
            rw [declared, Option.none_or] at found
            exact ⟨_, IndexMap.mem_of_get found, by simp [isRetained], by simp [retainedMember]⟩
        | some alternatives =>
            rw [declared, Option.some_or] at found
            cases found
            exact ⟨_, IndexMap.mem_of_get declared, by simp [isRetained], by simp [retainedMember]⟩
      · split at found
        · rename_i type
          subst type
          obtain ⟨declared, before, same⟩ := Option.map_eq_some_iff.mp found
          subst same
          exact ⟨_, IndexMap.mem_of_get before, by simp [isRetained], by simp [retainedMember]⟩
        · rename_i type
          exact ⟨_, IndexMap.mem_of_get found, by simp [isRetained, enum, required, closed],
            by simp [retainedMember, oneOf, type]⟩

/-- A relaxed object has its retained members and no others. -/
theorem relaxMembers_perm (distinct : (IndexMap.keys map).Nodup) (one : ¬OffersBoth map) :
    (relaxMembers map).Perm ((map.filter isRetained).map retainedMember) := by
  have distinct' := nodup_relaxMembers distinct
  rw [List.perm_ext_iff_of_nodup (List.Nodup.of_map Prod.fst distinct')
    (List.Nodup.of_map Prod.fst (nodup_retained distinct one))]
  intro member
  constructor
  · intro present
    have found := IndexMap.get_of_mem distinct' present
    rw [get_relaxMembers distinct] at found
    obtain ⟨before, inside, kept, same⟩ := retained_of_relaxedMember found
    exact List.mem_map.mpr ⟨before, List.mem_filter.mpr ⟨inside, kept⟩, same⟩
  · intro present
    obtain ⟨before, inside, rfl⟩ := List.mem_map.mp present
    obtain ⟨inside, kept⟩ := List.mem_filter.mp inside
    have found := relaxedMember_retained distinct one inside kept
    rw [← get_relaxMembers distinct] at found
    exact IndexMap.mem_of_get found

/-- One of the alternatives is lost where an object offers both kinds. -/
theorem one_of_perm (distinct : (IndexMap.keys map).Nodup)
    (kept : (relaxValues (relaxMembers map)).Perm
      (relaxValues ((map.filter isRetained).map retainedMember))) : ¬OffersBoth map := by
  rintro ⟨oneOf, anyOf⟩
  have names : (IndexMap.keys (relaxValues (relaxMembers map))).Perm
      (IndexMap.keys (relaxValues ((map.filter isRetained).map retainedMember))) :=
    kept.map Prod.fst
  rw [keys_relaxValues, keys_relaxValues] at names
  have keys := names.nodup_iff.mp (nodup_relaxMembers distinct)
  rw [IndexMap.keys, List.map_map] at keys
  obtain ⟨first, present, name⟩ := List.mem_map.mp oneOf
  obtain ⟨second, present', name'⟩ := List.mem_map.mp anyOf
  have retained : first ∈ map.filter isRetained := by simp [present, isRetained, name]
  have retained' : second ∈ map.filter isRetained := by simp [present', isRetained, name']
  have same : first = second := by
    apply List.inj_on_of_nodup_map keys retained retained'
    simp [retainedMember, name, name']
  rw [same, name'] at name
  exact absurd name (by decide)

theorem keepsRest_object_iff (distinct : (IndexMap.keys map).Nodup) :
    KeepsRest (.object map) ↔ ¬OffersBoth map := by
  constructor
  · rintro ⟨relaxed, same, kept⟩
    rw [relaxForResponses_object] at same
    cases same
    exact one_of_perm distinct kept
  · intro one
    refine ⟨_, relaxForResponses_object map, ?_⟩
    apply List.Perm.map
    exact relaxMembers_perm distinct one

theorem wellFormed_of_retained {part value : Json} (retained : Retained part value)
    (formed : value.wellFormed = true) : part.wellFormed = true := by
  induction retained with
  | whole => exact formed
  | member present kept inner ih =>
      exact ih (((Json.wellFormed_object_iff _).mp formed).2 _ present)
  | item present inner ih => exact ih ((Json.wellFormed_array_iff _).mp formed _ present)

/-- The relaxation of a schema is a fixed point that pins no vocabulary and keeps the rest. An object
that offers both kinds of alternatives does not keep the rest, even where both are the same once
they are relaxed. -/
structure RelaxesOnly (schema : Json) : Prop where
  idempotent : relaxForResponses (relaxForResponses schema) = relaxForResponses schema
  relaxed : Relaxed (relaxForResponses schema)
  kept : ∀ part, Retained part schema → KeepsRest part

/-- A schema keeps all but its vocabulary exactly when no object of it offers alternatives both
as `oneOf` and as `anyOf`: the former then take the place of the latter. -/
theorem relaxesOnly_iff (schema : Json.Value) :
    RelaxesOnly schema.1 ↔ ∀ map, Retained (.object map) schema.1 → ¬OffersBoth map := by
  have distinct {map : List (String × Json)} (retained : Retained (.object map) schema.1) :
      (IndexMap.keys map).Nodup :=
    ((Json.wellFormed_object_iff map).mp (wellFormed_of_retained retained schema.2)).1
  constructor
  · intro relaxes map retained
    exact (keepsRest_object_iff (distinct retained)).mp (relaxes.kept _ retained)
  · intro one
    have relaxed := relaxed_relaxForResponses schema.1 schema.2
    apply RelaxesOnly.mk (relaxForResponses_of_relaxed _ relaxed) relaxed
    intro part retained
    cases part with
    | object map => exact (keepsRest_object_iff (distinct retained)).mpr (one map retained)
    | array values => exact relaxForResponses_array values
    | _ => rfl

/-- This schema asks for an object with a title of two. -/
def alternativesOfBothKinds : Json :=
  .object [("anyOf", .array [.object [("type", .string "object")]]),
    ("oneOf", .array [.object [("title", .string "name")], .object [("title", .string "serial")]])]

/-- The relaxation drops the alternatives of `anyOf`, and with them the declared object. -/
theorem relaxation_drops_anyOf :
    alternativesOfBothKinds.wellFormed = true ∧
      relaxForResponses alternativesOfBothKinds = .object [("anyOf", .array
        [.object [("title", .string "name")], .object [("title", .string "serial")]])] ∧
      ¬RelaxesOnly alternativesOfBothKinds := by
  refine ⟨by decide, rfl, fun relaxes => ?_⟩
  have kept := relaxes.kept _ .whole
  rw [alternativesOfBothKinds, keepsRest_object_iff (by decide)] at kept
  exact kept (by decide)

end Rest

end RustMist
