import RustMist.Library.Json.Reorder
import RustMist.Proof.Catalog.Loading

/-! What the fingerprint of an operation record pins. -/

namespace RustMist

open Json (Reordered)

section Canonical

theorem canonicalValues_eq (values : List Json) : canonicalValues values = values.map canonicalJson := by
  induction values with
  | nil => rfl
  | cons value rest ih => rw [canonicalValues, ih, List.map_cons]

theorem canonicalMembers_eq (members : List (String × Json)) :
    canonicalMembers members = IndexMap.mapValues canonicalJson members := by
  induction members with
  | nil => rfl
  | cons member rest ih =>
      cases member
      rw [canonicalMembers, ih]
      rfl

/-- A canonical array holds the canonical elements. -/
theorem canonicalJson_array (values : List Json) :
    canonicalJson (.array values) = .array (values.map canonicalJson) := by
  rw [canonicalJson, canonicalValues_eq]

/-- The members of an object under their keys, each value in its canonical form. -/
def canonicalMap (members : List (String × Json)) : SortedMap String Json :=
  SortedMap.ofList (IndexMap.mapValues canonicalJson members)

theorem canonicalJson_object (members : List (String × Json)) :
    canonicalJson (.object members) = .object (canonicalMap members).entries := by
  rw [canonicalJson, canonicalMembers_eq]
  rfl

theorem get_canonicalMap {members : List (String × Json)}
    (distinct : (IndexMap.keys members).Nodup) (key : String) :
    (canonicalMap members).get key = (IndexMap.get key members).map canonicalJson := by
  have distinct' : (IndexMap.keys (IndexMap.mapValues canonicalJson members)).Nodup := by
    rw [IndexMap.keys_mapValues]
    exact distinct
  rw [canonicalMap, SortedMap.get_ofList distinct', IndexMap.get_mapValues]

theorem canonicalJson_wellFormed (value : Json) (formed : value.wellFormed = true) :
    (canonicalJson value).wellFormed = true := by
  induction value using Json.inductionOn with
  | array values ih =>
      rw [Json.wellFormed_array_iff] at formed
      rw [canonicalJson_array, Json.wellFormed_array_iff]
      intro item present
      obtain ⟨before, inside, rfl⟩ := List.mem_map.mp present
      exact ih before inside (formed before inside)
  | object members ih =>
      obtain ⟨distinct, each⟩ := (Json.wellFormed_object_iff members).mp formed
      rw [canonicalJson_object, Json.wellFormed_object_iff]
      apply And.intro (canonicalMap members).nodup_keys
      intro member present
      have found := SortedMap.get_of_mem present
      rw [get_canonicalMap distinct] at found
      obtain ⟨before, lookup, same⟩ := Option.map_eq_some_iff.mp found
      rw [← same]
      have inside := IndexMap.mem_of_get lookup
      exact ih _ inside (each _ inside)
  | _ => exact formed

/-- The canonical form tells values apart when they differ in more than the order of members. -/
def Canonical (value : Json) : Prop :=
  value.wellFormed = true → ∀ other : Json, other.wellFormed = true →
    (canonicalJson value = canonicalJson other ↔ Reordered value other)

theorem map_canonicalJson_iff {values others : List Json}
    (each : ∀ value ∈ values, Canonical value) (formed : ∀ value ∈ values, value.wellFormed = true)
    (formed' : ∀ other ∈ others, other.wellFormed = true) :
    values.map canonicalJson = others.map canonicalJson ↔ List.Forall₂ Reordered values others := by
  induction values generalizing others with
  | nil => cases others <;> simp
  | cons value rest ih =>
      cases others with
      | nil => simp
      | cons other more =>
          simp only [List.forall_mem_cons] at each formed formed'
          rw [List.map_cons, List.map_cons, List.cons_eq_cons, List.forall₂_cons,
            each.1 formed.1 other formed'.1, ih each.2 formed.2 formed'.2]

theorem canonicalMap_iff {members others : List (String × Json)}
    (each : ∀ member ∈ members, Canonical member.2)
    (formed : (Json.object members).wellFormed = true)
    (formed' : (Json.object others).wellFormed = true) :
    canonicalMap members = canonicalMap others ↔ Reordered (.object members) (.object others) := by
  obtain ⟨distinct, inner⟩ := (Json.wellFormed_object_iff members).mp formed
  obtain ⟨distinct', inner'⟩ := (Json.wellFormed_object_iff others).mp formed'
  have lookups (key : String) :
      (canonicalMap members).get key = (canonicalMap others).get key ↔
        Option.Rel Reordered (IndexMap.get key members) (IndexMap.get key others) := by
    rw [get_canonicalMap distinct, get_canonicalMap distinct']
    cases found : IndexMap.get key members with
    | none =>
        cases IndexMap.get key others with
        | none => exact ⟨fun _ => .none, fun _ => rfl⟩
        | some other => exact ⟨nofun, nofun⟩
    | some value =>
        cases found' : IndexMap.get key others with
        | none => exact ⟨nofun, nofun⟩
        | some other =>
            have inside := IndexMap.mem_of_get found
            have inside' := IndexMap.mem_of_get found'
            have same := each _ inside (inner _ inside) other (inner' _ inside')
            rw [Option.map_some, Option.map_some, Option.some_inj, same]
            exact ⟨.some, fun related => by cases related; assumption⟩
  rw [Json.reordered_object_iff distinct distinct']
  constructor
  · intro same key
    exact (lookups key).mp (by rw [same])
  · intro agree
    exact SortedMap.eq_of_get fun key => (lookups key).mpr (agree key)

/-- Two values have one canonical form exactly when they differ in the order of members only. -/
theorem canonicalJson_eq_iff (value : Json) : Canonical value := by
  induction value using Json.inductionOn with
  | array values ih =>
      intro formed other formed'
      cases other with
      | array others =>
          rw [Json.wellFormed_array_iff] at formed formed'
          have each := map_canonicalJson_iff ih formed formed'
          rw [canonicalJson_array, canonicalJson_array, Json.array.injEq, each]
          constructor
          · exact .array
          · intro reordered
            cases reordered with
            | same => exact List.forall₂_same.mpr fun value _ => .same value
            | array each => exact each
      | object others => exact ⟨nofun, nofun⟩
      | _ => exact ⟨nofun, nofun⟩
  | object members ih =>
      intro formed other formed'
      cases other with
      | object others =>
          rw [canonicalJson_object, canonicalJson_object, Json.object.injEq,
            ← canonicalMap_iff ih formed formed', SortedMap.ext_iff]
      | array others => exact ⟨nofun, nofun⟩
      | _ => exact ⟨nofun, nofun⟩
  | _ =>
      intro formed other formed'
      constructor
      · intro same
        cases other <;> cases same
        exact .same _
      · intro reordered
        cases reordered
        rfl

end Canonical

section Alike

/-- Two values of a JSON library differ in the order of members only. -/
structure Alike (value other : Json) : Prop where
  reordered : Reordered value other
  formed : value.wellFormed = true
  formed' : other.wellFormed = true

variable {members others : List (String × Json)}

theorem alike_iff_canonicalJson {value other : Json} (formed : value.wellFormed = true)
    (formed' : other.wellFormed = true) : Alike value other ↔ canonicalJson value = canonicalJson other := by
  rw [canonicalJson_eq_iff value formed other formed']
  exact ⟨Alike.reordered, fun reordered => ⟨reordered, formed, formed'⟩⟩

theorem Alike.canonical {value other : Json} (alike : Alike value other) :
    canonicalJson value = canonicalJson other :=
  (alike_iff_canonicalJson alike.formed alike.formed').mp alike

/-- Two lists of members find alike values. -/
def AlikeLookups (members others : List (String × Json)) : Prop :=
  ∀ key, Option.Rel Alike (IndexMap.get key members) (IndexMap.get key others)

theorem Alike.lookups (alike : Alike (.object members) (.object others)) :
    AlikeLookups members others := by
  obtain ⟨distinct, each⟩ := (Json.wellFormed_object_iff members).mp alike.formed
  obtain ⟨distinct', each'⟩ := (Json.wellFormed_object_iff others).mp alike.formed'
  intro key
  have agree := (Json.reordered_object_iff distinct distinct').mp alike.reordered key
  cases found : IndexMap.get key members with
  | none =>
      rw [found] at agree
      cases found' : IndexMap.get key others with
      | none => exact .none
      | some other =>
          rw [found'] at agree
          cases agree
  | some value =>
      rw [found] at agree
      cases found' : IndexMap.get key others with
      | none =>
          rw [found'] at agree
          cases agree
      | some other =>
          rw [found'] at agree
          cases agree with
          | some reordered =>
              exact .some ⟨reordered, each _ (IndexMap.mem_of_get found),
                each' _ (IndexMap.mem_of_get found')⟩

theorem Alike.get {value other : Json} (alike : Alike value other) (key : String) :
    Option.Rel Alike (value.get key) (other.get key) := by
  obtain ⟨reordered, formed, formed'⟩ := alike
  cases reordered with
  | same =>
      cases found : value.get key with
      | none => exact .none
      | some inner =>
          have inside := Json.wellFormed_of_get formed found
          exact .some ⟨.same inner, inside, inside⟩
  | array each => exact .none
  | object each order =>
      have alike : Alike (.object _) (.object _) := ⟨.object each order, formed, formed'⟩
      exact alike.lookups key

theorem rel_reordered {value other : Option Json} (related : Option.Rel Alike value other) :
    Option.Rel Reordered value other := by
  cases related with
  | none => exact .none
  | some alike => exact .some alike.reordered

end Alike

section Records

variable {members others : List (String × Json)}

/-- A record without its fingerprint. -/
def withoutFingerprint : Json → Json
  | .object members => .object (IndexMap.swapRemove "source_fingerprint" members)
  | value => value

theorem withoutFingerprint_wellFormed {record : Json} (formed : record.wellFormed = true) :
    (withoutFingerprint record).wellFormed = true := by
  cases record with
  | object members =>
      obtain ⟨distinct, each⟩ := (Json.wellFormed_object_iff members).mp formed
      apply (Json.wellFormed_object_iff _).mpr
      apply And.intro (IndexMap.nodup_swapRemove distinct)
      intro member present
      exact each member ((IndexMap.mem_swapRemove distinct).mp present).1
  | _ => exact formed

/-- Two objects are alike when they are without their fingerprints and have equal fingerprints. -/
theorem alike_of_withoutFingerprint (formed : (Json.object members).wellFormed = true)
    (formed' : (Json.object others).wellFormed = true)
    (named : IndexMap.get "source_fingerprint" others = IndexMap.get "source_fingerprint" members)
    (alike : Alike (withoutFingerprint (.object members)) (withoutFingerprint (.object others))) :
    Alike (.object members) (.object others) := by
  have distinct := ((Json.wellFormed_object_iff members).mp formed).1
  have distinct' := ((Json.wellFormed_object_iff others).mp formed').1
  refine ⟨?_, formed, formed'⟩
  rw [Json.reordered_object_iff distinct distinct']
  intro key
  by_cases fingerprint : key = "source_fingerprint"
  · rw [fingerprint, named]
    exact Reordered.optional _
  · have agree := rel_reordered (alike.lookups key)
    rwa [IndexMap.get_swapRemove key distinct, if_neg fingerprint,
      IndexMap.get_swapRemove key distinct', if_neg fingerprint] at agree

theorem Alike.withoutFingerprint {record other : Json} (alike : Alike record other) :
    Alike (withoutFingerprint record) (withoutFingerprint other) := by
  obtain ⟨reordered, formed, formed'⟩ := alike
  refine ⟨?_, withoutFingerprint_wellFormed formed, withoutFingerprint_wellFormed formed'⟩
  cases reordered with
  | same => exact .same _
  | array each => exact .array each
  | @object members placed others each order =>
      have alike : Alike (.object members) (.object others) := ⟨.object each order, formed, formed'⟩
      have distinct := ((Json.wellFormed_object_iff members).mp formed).1
      have distinct' := ((Json.wellFormed_object_iff others).mp formed').1
      apply (Json.reordered_object_iff (IndexMap.nodup_swapRemove distinct)
        (IndexMap.nodup_swapRemove distinct')).mpr
      intro key
      rw [IndexMap.get_swapRemove key distinct, IndexMap.get_swapRemove key distinct']
      split
      · exact .none
      · exact rel_reordered (alike.lookups key)

variable [Platform]

/-- The text that the fingerprint of a record digests. -/
def fingerprintedText (record : Json) : String :=
  serdeToString (canonicalJson (withoutFingerprint record)) ++ "\n"

theorem rawOperationFingerprint_of_isObject {record : Json} (object : record.isObject = true) :
    rawOperationFingerprint record = .ok (sha256Hex (fingerprintedText record)) := by
  cases record with
  | object members => rfl
  | _ => cases object

/-- Two texts are different and have one digest. -/
def Collide (first second : String) : Prop := first ≠ second ∧ sha256 first = sha256 second

theorem fingerprintedText_eq_iff {record other : Json} (formed : record.wellFormed = true)
    (formed' : other.wellFormed = true) : fingerprintedText record = fingerprintedText other ↔
      Alike (withoutFingerprint record) (withoutFingerprint other) := by
  have source := withoutFingerprint_wellFormed formed
  have source' := withoutFingerprint_wellFormed formed'
  rw [alike_iff_canonicalJson source source', fingerprintedText, fingerprintedText,
    String.append_left_inj]
  constructor
  · exact serdeToString_injective (canonicalJson_wellFormed _ source)
      (canonicalJson_wellFormed _ source')
  · intro same
    rw [same]

/-- Records that are alike but for their fingerprints have one fingerprint. -/
theorem fingerprint_eq_of_alike {record other : Json} (object : record.isObject = true)
    (object' : other.isObject = true)
    (alike : Alike (withoutFingerprint record) (withoutFingerprint other))
    (formed : record.wellFormed = true) (formed' : other.wellFormed = true) :
    rawOperationFingerprint record = rawOperationFingerprint other := by
  rw [rawOperationFingerprint_of_isObject object, rawOperationFingerprint_of_isObject object',
    (fingerprintedText_eq_iff formed formed').mpr alike]

/-- Without a collision one fingerprint means that the records are alike in the rest. -/
theorem alike_of_fingerprint_eq {record other : Json} (object : record.isObject = true)
    (object' : other.isObject = true) (formed : record.wellFormed = true)
    (formed' : other.wellFormed = true)
    (free : ¬Collide (fingerprintedText record) (fingerprintedText other))
    (same : rawOperationFingerprint record = rawOperationFingerprint other) :
    Alike (withoutFingerprint record) (withoutFingerprint other) := by
  rw [rawOperationFingerprint_of_isObject object, rawOperationFingerprint_of_isObject object',
    Except.ok.injEq, sha256Hex_eq_iff] at same
  rw [← fingerprintedText_eq_iff formed formed']
  by_contra different
  exact free ⟨different, same⟩

end Records

end RustMist
