import RustMist.Construction.Server.Reference
import RustMist.Proof.Catalog.Fingerprints
import RustMist.Proof.Catalog.Reference

/-! Which changes of a document the fingerprints of its records let pass. -/

namespace RustMist

open Json (Reordered SameKey)

section Readers

variable {α β γ δ : Type} {ε : Type}

/-- Where the first result is a value, the second is one with the same projection. -/
def Follows (project : α → γ) (first second : Except ε α) : Prop :=
  ∀ value, first = .ok value → ∃ other, second = .ok other ∧ project value = project other

theorem Follows.refl (project : α → γ) (result : Except ε α) : Follows project result result :=
  fun value found => ⟨value, found, rfl⟩

theorem Follows.ok {project : α → γ} {value other : α} (same : project value = project other) :
    Follows project (.ok value : Except ε α) (.ok other) := by
  intro result found
  cases found
  exact ⟨other, rfl, same⟩

theorem Follows.bind {project : α → γ} {project' : β → δ} {first second : Except ε α}
    {next next' : α → Except ε β} (agree : Follows project first second)
    (later : ∀ value other, project value = project other →
      Follows project' (next value) (next' other)) :
    Follows project' (first >>= next) (second >>= next') := by
  intro result found
  obtain ⟨value, read, rest⟩ := bind_eq_ok_iff.mp found
  obtain ⟨other, read', same⟩ := agree value read
  obtain ⟨result', rest', same'⟩ := later value other same result rest
  exact ⟨result', bind_eq_ok_iff.mpr ⟨other, read', rest'⟩, same'⟩

theorem Follows.common {project : β → δ} {first : Except ε α} {next next' : α → Except ε β}
    (later : ∀ value, Follows project (next value) (next' value)) :
    Follows project (first >>= next) (first >>= next') := by
  apply (Follows.refl id first).bind
  rintro value _ rfl
  exact later value

/-- A reader that does not see the order of members. -/
def Exact (read : Json → Except String α) : Prop :=
  ∀ value other, Alike value other → read other = read value

/-- A reader whose projection does not see the order of members. -/
def Stable (read : Json → Except String α) (project : α → γ) : Prop :=
  ∀ value other, Alike value other → Follows project (read value) (read other)

theorem Exact.stable {read : Json → Except String α} (exact' : Exact read) (project : α → γ) :
    Stable read project := by
  intro value other alike
  rw [exact' value other alike]
  exact .refl project _

theorem stable_value : Stable .ok canonicalJson :=
  fun _ _ alike => .ok alike.canonical

theorem exact_string : Exact readString := by
  intro value other alike
  cases alike.reordered <;> rfl

theorem exact_bool : Exact readBool := by
  intro value other alike
  cases alike.reordered <;> rfl

theorem exact_uInt8 : Exact readUInt8 := by
  intro value other alike
  cases alike.reordered <;> rfl

theorem exact_uInt16 : Exact readUInt16 := by
  intro value other alike
  cases alike.reordered <;> rfl

theorem exact_option {read : Json → Except String α} (exact' : Exact read) :
    Exact (readOption read) := by
  intro value other alike
  have null : other.isNull = value.isNull := by cases alike.reordered <;> rfl
  rw [readOption, readOption, null, exact' value other alike]

/-- The elements of alike arrays are alike. -/
theorem alike_items {values others : List Json} (alike : Alike (.array values) (.array others)) :
    List.Forall₂ Alike values others := by
  have formed := (Json.wellFormed_array_iff values).mp alike.formed
  have formed' := (Json.wellFormed_array_iff others).mp alike.formed'
  have each : List.Forall₂ Reordered values others := by
    cases alike.reordered with
    | same => exact List.forall₂_same.mpr fun value _ => .same value
    | array each => exact each
  rw [List.forall₂_iff_zip] at each ⊢
  refine ⟨each.1, fun {value other} paired => ⟨each.2 paired, ?_, ?_⟩⟩
  · exact formed value (List.of_mem_zip paired).1
  · exact formed' other (List.of_mem_zip paired).2

theorem readItems_agree {read : Json → Except String α} {project : α → γ}
    (stable : Stable read project) {values others : List Json}
    (each : List.Forall₂ Alike values others) :
    Follows (List.map project) (readItems read values) (readItems read others) := by
  induction each with
  | nil => exact .refl _ _
  | cons first rest ih =>
      apply (stable _ _ first).bind
      intro item item' same
      apply ih.bind
      intro items items' same'
      apply Follows.ok
      rw [List.map_cons, List.map_cons, same, same']

theorem readItems_exact {read : Json → Except String α} (exact' : Exact read)
    {values others : List Json} (each : List.Forall₂ Alike values others) :
    readItems read others = readItems read values := by
  induction each with
  | nil => rfl
  | cons first rest ih => rw [readItems, readItems, exact' _ _ first, ih]

theorem stable_list {read : Json → Except String α} {project : α → γ}
    (stable : Stable read project) : Stable (readList read) (List.map project) := by
  intro value other alike
  obtain ⟨reordered, formed, formed'⟩ := alike
  cases reordered with
  | same => exact .refl _ _
  | array each => exact readItems_agree stable (alike_items ⟨.array each, formed, formed'⟩)
  | object each order => exact .refl _ _

theorem exact_list {read : Json → Except String α} (exact' : Exact read) :
    Exact (readList read) := by
  intro value other alike
  obtain ⟨reordered, formed, formed'⟩ := alike
  cases reordered with
  | same => rfl
  | array each => exact readItems_exact exact' (alike_items ⟨.array each, formed, formed'⟩)
  | object each order => rfl

/-- The entries that are read have the keys of the members and their values. -/
theorem readEntries_ok {read : Json → Except String α} {members : List (String × Json)}
    {entries : List (String × α)} (found : readEntries read members = .ok entries) :
    IndexMap.keys entries = IndexMap.keys members ∧ ∀ key,
      Option.Rel (fun value item => read value = .ok item) (IndexMap.get key members)
        (IndexMap.get key entries) := by
  induction members generalizing entries with
  | nil =>
      cases found
      exact ⟨rfl, fun _ => .none⟩
  | cons member rest ih =>
      obtain ⟨name, value⟩ := member
      obtain ⟨item, first, found⟩ := bind_eq_ok_iff.mp found
      obtain ⟨items, later, found⟩ := bind_eq_ok_iff.mp found
      cases found
      obtain ⟨keys, lookups⟩ := ih later
      refine ⟨by rw [IndexMap.keys_cons, IndexMap.keys_cons, keys], fun key => ?_⟩
      rw [IndexMap.get_cons, IndexMap.get_cons]
      dsimp only
      split
      · exact .some first
      · exact lookups key

theorem readEntries_total {read : Json → Except String α} {members : List (String × Json)}
    (each : ∀ member ∈ members, ∃ item, read member.2 = .ok item) :
    ∃ entries, readEntries read members = .ok entries := by
  induction members with
  | nil => exact ⟨[], rfl⟩
  | cons member rest ih =>
      obtain ⟨name, value⟩ := member
      rw [List.forall_mem_cons] at each
      obtain ⟨item, first⟩ := each.1
      obtain ⟨items, later⟩ := ih each.2
      exact ⟨(name, item) :: items, bind_eq_ok_iff.mpr ⟨item, first,
        bind_eq_ok_iff.mpr ⟨items, later, rfl⟩⟩⟩

theorem stable_map {read : Json → Except String α} {project : α → γ}
    (stable : Stable read project) :
    Stable (readMap read) (SortedMap.mapValues project) := by
  intro value other alike
  obtain ⟨reordered, formed, formed'⟩ := alike
  cases reordered with
  | same => exact .refl _ _
  | array each => exact .refl _ _
  | @object members placed others each order =>
      have lookups := Alike.lookups ⟨.object each order, formed, formed'⟩
      have distinct := ((Json.wellFormed_object_iff members).mp formed).1
      have distinct' := ((Json.wellFormed_object_iff others).mp formed').1
      intro map found
      obtain ⟨entries, first, same⟩ := bind_eq_ok_iff.mp found
      cases same
      obtain ⟨keys, items⟩ := readEntries_ok first
      -- Every member of the second object stands for an entry that is read from the first.
      have total (member : String × Json) (present : member ∈ others) :
          ∃ item, read member.2 = .ok item := by
        have lookup := lookups member.1
        have item := items member.1
        rw [IndexMap.get_of_mem distinct' present] at lookup
        generalize IndexMap.get member.1 members = value at lookup item
        cases lookup with
        | some alike =>
            generalize IndexMap.get member.1 entries = entry at item
            cases item with
            | some first =>
                obtain ⟨item', second, _⟩ := stable _ _ alike _ first
                exact ⟨item', second⟩
      obtain ⟨entries', second⟩ := readEntries_total total
      obtain ⟨keys', items'⟩ := readEntries_ok second
      refine ⟨_, bind_eq_ok_iff.mpr ⟨entries', second, rfl⟩, ?_⟩
      apply SortedMap.eq_of_get
      intro key
      rw [SortedMap.get_mapValues, SortedMap.get_mapValues,
        SortedMap.get_ofList (keys ▸ distinct), SortedMap.get_ofList (keys' ▸ distinct')]
      have lookup := lookups key
      have item := items key
      have item' := items' key
      generalize IndexMap.get key members = value at lookup item
      generalize IndexMap.get key others = other at lookup item'
      generalize IndexMap.get key entries = entry at item
      generalize IndexMap.get key entries' = entry' at item'
      cases lookup with
      | none =>
          cases item
          cases item'
          rfl
      | some alike =>
          cases item with
          | some first =>
              cases item' with
              | some second =>
                  obtain ⟨found, third, same⟩ := stable _ _ alike _ first
                  rw [second] at third
                  cases third
                  rw [Option.map_some, Option.map_some, same]

theorem readVariant_object (variants : List (String × α)) (members : List (String × Json)) :
    (∃ name, members = [(name, .null)]) ∨
      readVariant variants (.object members) = .error "unknown variant" := by
  match members with
  | [] => exact .inr rfl
  | [(name, .null)] => exact .inl ⟨name, rfl⟩
  | [(_, .bool _)] | [(_, .number _)] | [(_, .string _)] | [(_, .array _)] | [(_, .object _)] =>
      exact .inr rfl
  | (_, value) :: _ :: _ => cases value <;> exact .inr rfl

/-- An object with one null has no other order. -/
theorem Reordered.single {members others : List (String × Json)} {name : String}
    (reordered : Reordered (.object members) (.object others)) :
    members = [(name, .null)] ↔ others = [(name, .null)] := by
  cases reordered with
  | same => rfl
  | object each order =>
      constructor
      · rintro rfl
        cases each with
        | cons first rest =>
            cases rest
            cases first with
            | member key same =>
                cases same
                exact (List.singleton_perm.mp order).symm
      · rintro rfl
        rw [List.perm_singleton.mp order] at each
        cases each with
        | cons first rest =>
            cases rest
            cases first with
            | member key same =>
                cases same
                rfl

theorem exact_variant (variants : List (String × α)) : Exact (readVariant variants) := by
  intro value other alike
  obtain ⟨reordered, formed, formed'⟩ := alike
  cases reordered with
  | same => rfl
  | array each => rfl
  | @object members placed others each order =>
      have reordered : Reordered (.object members) (.object others) := .object each order
      rcases readVariant_object variants members with ⟨name, single⟩ | unknown
      · rw [single, (Reordered.single reordered).mp single]
      · rcases readVariant_object variants others with ⟨name, single⟩ | unknown'
        · rw [single, (Reordered.single reordered).mpr single]
        · rw [unknown, unknown']

theorem alikeLookups_zip {values others : List Json} (each : List.Forall₂ Alike values others)
    (fields : List String) : AlikeLookups (fields.zip values) (fields.zip others) := by
  induction each generalizing fields with
  | nil =>
      intro key
      rw [List.zip_nil_right]
      exact .none
  | cons first rest ih =>
      cases fields with
      | nil => exact fun _ => .none
      | cons field fields =>
          intro key
          rw [List.zip_cons_cons, List.zip_cons_cons, IndexMap.get_cons, IndexMap.get_cons]
          dsimp only
          split
          · exact .some first
          · exact ih fields key

theorem Reordered.keys {members others : List (String × Json)}
    (reordered : Reordered (.object members) (.object others)) :
    (IndexMap.keys members).Perm (IndexMap.keys others) := by
  cases reordered with
  | same => exact .refl _
  | object each order =>
      rw [← Json.keys_of_sameKey each]
      exact order.map Prod.fst

/-- Alike records are refused for one reason or give members with alike lookups. -/
theorem readRecord_alike (fields : List String) {value other : Json} (alike : Alike value other) :
    (∃ reason, readRecord fields value = .error reason ∧ readRecord fields other = .error reason) ∨
      ∃ members others, readRecord fields value = .ok members ∧
        readRecord fields other = .ok others ∧ AlikeLookups members others := by
  cases value with
  | array values =>
      cases other with
      | array others =>
          have each := alike_items alike
          rw [readRecord, readRecord, each.length_eq]
          by_cases size : others.length = fields.length
          · rw [if_pos size, if_pos size]
            exact .inr ⟨_, _, rfl, rfl, alikeLookups_zip each fields⟩
          · rw [if_neg size, if_neg size]
            exact .inl ⟨_, rfl, rfl⟩
      | _ => cases alike.reordered
  | object members =>
      cases other with
      | object others =>
          rw [readRecord, readRecord, (Reordered.keys alike.reordered).all_eq]
          by_cases known : (IndexMap.keys others).all (· ∈ fields) = true
          · rw [if_pos known, if_pos known]
            exact .inr ⟨_, _, rfl, rfl, alike.lookups⟩
          · rw [if_neg known, if_neg known]
            exact .inl ⟨_, rfl, rfl⟩
      | _ => cases alike.reordered
  | _ =>
      cases alike.reordered
      exact .inl ⟨_, rfl, rfl⟩

/-- A reader of a record is exact when it reads its members by exact lookups. -/
theorem exact_record (fields : List String) {body : List (String × Json) → Except String α}
    (exact' : ∀ members others, AlikeLookups members others → body others = body members) :
    Exact fun json => readRecord fields json >>= body := by
  intro value other alike
  dsimp only
  rcases readRecord_alike fields alike with ⟨reason, first, second⟩ | ⟨members, others, first,
    second, lookups⟩
  · rw [first, second]
  · rw [bind_of_ok first, bind_of_ok second, exact' members others lookups]

theorem stable_record (fields : List String) {body : List (String × Json) → Except String α}
    {project : α → γ} (stable : ∀ members others, AlikeLookups members others →
      Follows project (body members) (body others)) :
    Stable (fun json => readRecord fields json >>= body) project := by
  intro value other alike
  dsimp only
  rcases readRecord_alike fields alike with ⟨reason, first, second⟩ | ⟨members, others, first,
    second, lookups⟩
  · rw [first, second]
    exact nofun
  · rw [bind_of_ok first, bind_of_ok second]
    exact stable members others lookups

variable {members others : List (String × Json)} (lookups : AlikeLookups members others)

include lookups

theorem readField_exact {read : Json → Except String α} (exact' : Exact read) (name : String) :
    readField others name read = readField members name read := by
  have lookup := lookups name
  unfold readField
  generalize IndexMap.get name members = value at lookup
  generalize IndexMap.get name others = other at lookup
  cases lookup with
  | none => rfl
  | some alike => exact exact' _ _ alike

theorem readOptionalField_exact {read : Json → Except String α} (exact' : Exact read)
    (name : String) : readOptionalField others name read = readOptionalField members name read := by
  have lookup := lookups name
  unfold readOptionalField
  generalize IndexMap.get name members = value at lookup
  generalize IndexMap.get name others = other at lookup
  cases lookup with
  | none => rfl
  | some alike => exact exact_option exact' _ _ alike

theorem readField_agree {read : Json → Except String α} {project : α → γ}
    (stable : Stable read project) (name : String) :
    Follows project (readField members name read) (readField others name read) := by
  have lookup := lookups name
  unfold readField
  generalize IndexMap.get name members = value at lookup
  generalize IndexMap.get name others = other at lookup
  cases lookup with
  | none => exact .refl _ _
  | some alike => exact stable _ _ alike

end Readers

section Records

theorem exact_source : Exact MistCatalogSource.read := by
  apply exact_record
  intro members others lookups
  simp only [readField_exact lookups exact_string]

theorem exact_media : Exact MediaAccounting.read := by
  apply exact_record
  intro members others lookups
  simp only [readField_exact lookups exact_uInt8, readField_exact lookups exact_uInt16]

theorem exact_audit : Exact CatalogAudit.read := by
  apply exact_record
  intro members others lookups
  simp only [readField_exact lookups exact_uInt8, readField_exact lookups exact_uInt16,
    readField_exact lookups exact_string, readField_exact lookups (exact_list exact_string),
    readField_exact lookups exact_media]

/-- A parameter whose schema is in canonical form. -/
def MistParameter.canonical (parameter : MistParameter) : MistParameter :=
  { parameter with schema := canonicalJson parameter.schema }

theorem stable_parameter : Stable MistParameter.read MistParameter.canonical := by
  apply stable_record
  intro members others lookups
  simp only [readField_exact lookups exact_string, readField_exact lookups exact_bool]
  iterate 3
    apply Follows.common
    intro _
  apply (readField_agree lookups stable_value "schema").bind
  intro schema schema' same
  apply Follows.ok
  rw [MistParameter.canonical, MistParameter.canonical, same]

/-- A record whose schemas are in canonical form. -/
def MistOperation.canonical (operation : MistOperation) : MistOperation :=
  { operation with
    parameters := operation.parameters.map MistParameter.canonical
    requestSchemas := operation.requestSchemas.mapValues canonicalJson
    responses := operation.responses.mapValues (·.mapValues canonicalJson) }

theorem stable_operation : Stable MistOperation.read MistOperation.canonical := by
  apply stable_record
  intro members others lookups
  simp only [readField_exact lookups exact_string, readField_exact lookups exact_bool,
    readField_exact lookups (exact_list exact_string),
    readField_exact lookups (exact_variant MistCapability.variants),
    readField_exact lookups (exact_list (exact_variant TargetSelector.variants)),
    readField_exact lookups (exact_variant PaginationMode.variants),
    readField_exact lookups (exact_variant VerificationPolicy.variants),
    readOptionalField_exact lookups exact_string]
  iterate 12
    apply Follows.common
    intro _
  apply (readField_agree lookups (stable_list stable_parameter) "parameters").bind
  intro parameters parameters' sameParameters
  iterate 2
    apply Follows.common
    intro _
  apply (readField_agree lookups (stable_map stable_value) "request_schemas").bind
  intro schemas schemas' sameSchemas
  iterate 2
    apply Follows.common
    intro _
  apply (readField_agree lookups (stable_map (stable_map stable_value)) "responses").bind
  intro responses responses' sameResponses
  iterate 7
    apply Follows.common
    intro _
  apply Follows.ok
  simp only [MistOperation.canonical, sameParameters, sameSchemas, sameResponses]

/-- A document whose schemas are in canonical form. -/
def CatalogDocument.canonical (document : CatalogDocument) : CatalogDocument :=
  { document with
    components := canonicalJson document.components
    operations := document.operations.map MistOperation.canonical }

theorem stable_document : Stable CatalogDocument.read CatalogDocument.canonical := by
  apply stable_record
  intro members others lookups
  simp only [readField_exact lookups exact_string, readField_exact lookups exact_uInt8,
    readField_exact lookups exact_source, readField_exact lookups exact_audit]
  iterate 3
    apply Follows.common
    intro _
  apply (readField_agree lookups stable_value "components").bind
  intro components components' sameComponents
  apply (readField_agree lookups (stable_list stable_operation) "operations").bind
  intro operations operations' sameOperations
  apply Follows.common
  intro audit
  apply Follows.ok
  simp only [CatalogDocument.canonical, sameComponents, sameOperations]

end Records

section Checks

theorem isObject_canonicalJson (value : Json) : (canonicalJson value).isObject = value.isObject := by
  cases value <;> rfl

theorem all_isObject_canonicalJson (values : List Json) :
    (values.map canonicalJson).all Json.isObject = values.all Json.isObject := by
  rw [List.all_map]
  congr
  funext value
  exact isObject_canonicalJson value

theorem paginationForParameters_canonical (parameters : List MistParameter) :
    paginationForParameters (parameters.map MistParameter.canonical) =
      paginationForParameters parameters := by
  have names : ((parameters.map MistParameter.canonical).filter fun parameter =>
      parameter.location = "query").map (·.name) =
        (parameters.filter fun parameter => parameter.location = "query").map (·.name) := by
    rw [List.filter_map, List.map_map]
    rfl
  rw [paginationForParameters, paginationForParameters, names]

theorem responseMedia_canonical (responses : SortedMap String (SortedMap String Json)) :
    responseMedia (responses.mapValues (·.mapValues canonicalJson)) = responseMedia responses := by
  have keys : (responses.mapValues (·.mapValues canonicalJson)).values.flatMap SortedMap.keys =
      responses.values.flatMap SortedMap.keys := by
    rw [SortedMap.values_mapValues, List.flatMap_map]
    simp only [SortedMap.keys_mapValues]
  rw [responseMedia, responseMedia, keys]

theorem canonicalRequestMedia_canonical (schemas : SortedMap String Json) :
    canonicalRequestMedia (schemas.mapValues canonicalJson) = canonicalRequestMedia schemas := by
  rw [canonicalRequestMedia, canonicalRequestMedia, SortedMap.keys_mapValues]

/-- The checks of a record do not see the order of members. -/
theorem validateOperation_canonical (operation : MistOperation) (previousKey : Option String) :
    validateOperation operation.canonical previousKey = validateOperation operation previousKey := by
  have parameters : (operation.canonical.parameters.all fun parameter =>
      parameter.schema.isObject) = operation.parameters.all fun parameter =>
        parameter.schema.isObject := by
    change (operation.parameters.map MistParameter.canonical).all _ = _
    rw [List.all_map]
    congr
    funext parameter
    exact isObject_canonicalJson parameter.schema
  have schemas : operation.canonical.requestSchemas.values.all Json.isObject =
      operation.requestSchemas.values.all Json.isObject := by
    change (operation.requestSchemas.mapValues canonicalJson).values.all Json.isObject = _
    rw [SortedMap.values_mapValues, all_isObject_canonicalJson]
  have responses : (operation.canonical.responses.values.all fun media =>
      media.values.all Json.isObject) = operation.responses.values.all fun media =>
        media.values.all Json.isObject := by
    change (operation.responses.mapValues (·.mapValues canonicalJson)).values.all _ = _
    rw [SortedMap.values_mapValues, List.all_map]
    congr
    funext media
    rw [Function.comp_apply, SortedMap.values_mapValues, all_isObject_canonicalJson]
  have media : canonicalRequestMedia operation.canonical.requestSchemas =
      canonicalRequestMedia operation.requestSchemas := canonicalRequestMedia_canonical _
  have pagination : paginationForParameters operation.canonical.parameters =
      paginationForParameters operation.parameters := paginationForParameters_canonical _
  have answers : responseMedia operation.canonical.responses = responseMedia operation.responses :=
    responseMedia_canonical _
  unfold validateOperation
  rw [parameters, schemas, responses, media, pagination, answers]
  rfl

theorem validateDocument_canonical (document : CatalogDocument) :
    validateDocument document.canonical = validateDocument document := by
  have size : document.canonical.operations.length = document.operations.length :=
    List.length_map _
  have object : document.canonical.components.isObject = document.components.isObject :=
    isObject_canonicalJson _
  simp only [validateDocument, size, object]
  rfl

end Checks

section Loading

variable [Platform]

theorem loadOperation_canonical (raw : Option Json) (state : LoadState) (index : Nat)
    (operation : MistOperation) :
    loadOperation raw state index operation.canonical = loadOperation raw state index operation := by
  simp only [loadOperation, validateOperation_canonical]
  rfl

theorem loadOperations_canonical (raw : Option Json) (state : LoadState) (index : Nat)
    (operations : List MistOperation) :
    loadOperations raw state index (operations.map MistOperation.canonical) =
      loadOperations raw state index operations := by
  induction operations generalizing state index with
  | nil => rfl
  | cons operation rest ih =>
      rw [List.map_cons, loadOperations, loadOperations, loadOperation_canonical]
      simp only [ih]

omit [Platform] in
theorem validateVerificationOf_canonical (operations : List MistOperation)
    (index : SortedMap String Nat) (operation : MistOperation) :
    validateVerificationOf (operations.map MistOperation.canonical) index operation.canonical =
      validateVerificationOf operations index operation := by
  have followUp (id : String) :
      ((index.get id).bind fun index => (operations.map MistOperation.canonical)[index]?) =
        ((index.get id).bind fun index => operations[index]?).map MistOperation.canonical := by
    cases index.get id with
    | none => rfl
    | some position => exact List.getElem?_map
  have policy : operation.canonical.verification = operation.verification := rfl
  have named : operation.canonical.followUpOperationId = operation.followUpOperationId := rfl
  unfold validateVerificationOf
  rw [policy, named]
  cases operation.verification with
  | none => rfl
  | apiAcknowledged => rfl
  | followUpRead =>
      cases operation.followUpOperationId with
      | none => rfl
      | some id =>
          dsimp only
          rw [followUp]
          cases (index.get id).bind fun index => operations[index]? with
          | none => rfl
          | some followUp => rfl

omit [Platform] in
theorem validateVerification_canonical (operations : List MistOperation)
    (index : SortedMap String Nat) :
    validateVerification (operations.map MistOperation.canonical) index =
      validateVerification operations index := by
  have each (others : List MistOperation) :
      (others.map MistOperation.canonical).forM
          (validateVerificationOf (operations.map MistOperation.canonical) index) =
        others.forM (validateVerificationOf operations index) := by
    induction others with
    | nil => rfl
    | cons operation rest ih =>
        change (validateVerificationOf _ _ operation.canonical >>= fun _ => _) =
          (validateVerificationOf _ _ operation >>= fun _ => _)
        rw [validateVerificationOf_canonical, ih]
  exact each operations

def Catalog.canonical (catalog : Catalog) : Catalog :=
  { catalog with
    components := canonicalJson catalog.components
    operations := catalog.operations.map MistOperation.canonical }

theorem parseDocument_canonical (document : CatalogDocument) (raw : Option Json) :
    Catalog.parseDocument document.canonical raw =
      (Catalog.parseDocument document raw).map Catalog.canonical := by
  have loaded := loadOperations_canonical raw .start 0 document.operations
  unfold Catalog.parseDocument
  change (loadOperations raw .start 0 (document.operations.map MistOperation.canonical) >>= _) = _
  rw [loaded]
  cases loadOperations raw .start 0 document.operations with
  | error error => rfl
  | ok state =>
      change (validateVerification (document.operations.map MistOperation.canonical) _ >>= _) =
        (validateVerification document.operations _ >>= _).map _
      rw [validateVerification_canonical]
      cases validateVerification document.operations state.operationIndex with
      | error error => rfl
      | ok checked => rfl

omit [Platform] in
theorem rel_getElem? {values others : List Json} (each : List.Forall₂ Alike values others)
    (index : Nat) : Option.Rel Alike values[index]? others[index]? := by
  induction each generalizing index with
  | nil => exact .none
  | cons first rest ih =>
      cases index with
      | zero => exact .some first
      | succ index => exact ih index

omit [Platform] in
theorem rawOperation_alike {raw raw' : Json} (alike : Alike raw raw') (index : Nat) :
    Option.Rel Alike (rawOperation raw index) (rawOperation raw' index) := by
  have lookup := alike.get "operations"
  unfold rawOperation
  generalize raw.get "operations" = value at lookup
  generalize raw'.get "operations" = other at lookup
  cases lookup with
  | none => exact .none
  | @some value other alike =>
      cases value with
      | array values =>
          cases other with
          | array others => exact rel_getElem? (alike_items alike) index
          | _ => cases alike.reordered
      | object members =>
          cases other with
          | object others => exact .none
          | _ => cases alike.reordered
      | _ =>
          cases alike.reordered
          exact .none

theorem rawOperationFingerprint_alike {record record' : Json} (alike : Alike record record') :
    rawOperationFingerprint record' = rawOperationFingerprint record := by
  cases record with
  | object members =>
      have object : record'.isObject = true := alike.reordered.isObject
      exact (fingerprint_eq_of_alike rfl object alike.withoutFingerprint alike.formed
        alike.formed').symm
  | array values => cases alike.reordered <;> rfl
  | _ =>
      cases alike.reordered
      rfl

/-- The fingerprint of a record is the same in a reordered document. -/
theorem checkFingerprint_alike {raw raw' : Json} (alike : Alike raw raw') (index : Nat)
    (operation : MistOperation) :
    checkFingerprint raw' index operation = checkFingerprint raw index operation := by
  have records := rawOperation_alike alike index
  unfold checkFingerprint
  generalize rawOperation raw index = record at records
  generalize rawOperation raw' index = record' at records
  cases records with
  | none => rfl
  | some alike =>
      dsimp only
      rw [rawOperationFingerprint_alike alike]

theorem loadOperations_alike {raw raw' : Json} (alike : Alike raw raw') (state : LoadState)
    (index : Nat) (operations : List MistOperation) :
    loadOperations (some raw') state index operations =
      loadOperations (some raw) state index operations := by
  induction operations generalizing state index with
  | nil => rfl
  | cons operation rest ih =>
      have first : loadOperation (some raw') state index operation =
          loadOperation (some raw) state index operation := by
        simp only [loadOperation, checkFingerprint_alike alike]
      rw [loadOperations, loadOperations, first]
      simp only [ih]

/-- The checks of a document are the same with a reordered raw document. -/
theorem parseDocument_alike {raw raw' : Json} (alike : Alike raw raw')
    (document : CatalogDocument) :
    Catalog.parseDocument document (some raw') = Catalog.parseDocument document (some raw) := by
  rw [Catalog.parseDocument, Catalog.parseDocument, loadOperations_alike alike]

theorem fromJson_eq_ok_iff {json : String} {raw : Json} {catalog : Catalog}
    (read : serdeFromStr json = .ok raw) : Catalog.fromJson json = .ok catalog ↔
      ∃ document, CatalogDocument.read raw = .ok document ∧ validateDocument document = .ok () ∧
        Catalog.parseDocument document (some raw) = .ok catalog := by
  unfold Catalog.fromJson Catalog.parse
  rw [read]
  dsimp only
  cases found : CatalogDocument.read raw with
  | error reason => exact ⟨nofun, nofun⟩
  | ok document =>
      dsimp only
      rw [bind_eq_ok_iff, if_pos rfl]
      constructor
      · rintro ⟨_, valid, parsed⟩
        exact ⟨document, rfl, valid, parsed⟩
      · rintro ⟨_, same, valid, parsed⟩
        cases same
        exact ⟨(), valid, parsed⟩

/-- Every reordering of the members of an accepted document is accepted and gives the same catalog
up to the order of members. -/
theorem fromJson_alike {json json' : String} {raw raw' : Json} {catalog : Catalog}
    (read : serdeFromStr json = .ok raw) (read' : serdeFromStr json' = .ok raw')
    (alike : Alike raw raw') (accepted : Catalog.fromJson json = .ok catalog) :
    ∃ catalog', Catalog.fromJson json' = .ok catalog' ∧ catalog'.canonical = catalog.canonical := by
  obtain ⟨document, found, valid, parsed⟩ := (fromJson_eq_ok_iff read).mp accepted
  obtain ⟨document', found', same⟩ := stable_document raw raw' alike document found
  have valid' : validateDocument document' = .ok () := by
    rw [← validateDocument_canonical, ← same, validateDocument_canonical]
    exact valid
  have parsed' : (Catalog.parseDocument document' (some raw)).map Catalog.canonical =
      .ok catalog.canonical := by
    rw [← parseDocument_canonical, ← same, parseDocument_canonical, parsed]
    rfl
  cases result : Catalog.parseDocument document' (some raw) with
  | error error =>
      rw [result] at parsed'
      cases parsed'
  | ok catalog' =>
      rw [result] at parsed'
      refine ⟨catalog', (fromJson_eq_ok_iff read').mpr ⟨document', found', valid', ?_⟩,
        Except.ok.inj parsed'⟩
      rw [parseDocument_alike alike, result]

end Loading

section Altering

variable [Platform]

theorem loadOperations_fingerprints {raw : Json} {state state' : LoadState} {start : Nat}
    {operations : List MistOperation}
    (loaded : loadOperations (some raw) state start operations = .ok state') {index : Nat}
    {operation : MistOperation} (found : operations[index]? = some operation) :
    checkFingerprint raw (start + index) operation = .ok () := by
  induction operations generalizing state start index with
  | nil => cases found
  | cons first rest ih =>
      obtain ⟨next, round, later⟩ := bind_eq_ok_iff.mp loaded
      cases index with
      | zero =>
          cases found
          unfold loadOperation at round
          simp only [bind_eq_ok_iff] at round
          obtain ⟨_, _, _, _, _, checked, _⟩ := round
          exact checked
      | succ index =>
          rw [show start + (index + 1) = start + 1 + index by omega]
          exact ih later found

omit [Platform] in
theorem readItems_getElem? {α : Type} {read : Json → Except String α} {values : List Json}
    {items : List α} (found : readItems read values = .ok items) {index : Nat} {value : Json}
    (present : values[index]? = some value) :
    ∃ item, items[index]? = some item ∧ read value = .ok item := by
  induction values generalizing items index with
  | nil => cases present
  | cons first rest ih =>
      obtain ⟨item, head, found⟩ := bind_eq_ok_iff.mp found
      obtain ⟨more, later, found⟩ := bind_eq_ok_iff.mp found
      cases found
      cases index with
      | zero =>
          cases present
          exact ⟨item, rfl, head⟩
      | succ index => exact ih later present

omit [Platform] in
/-- Every record of the raw document is read as the operation at its place. -/
theorem read_rawOperation {raw : Json} {document : CatalogDocument} {index : Nat} {record : Json}
    (read : CatalogDocument.read raw = .ok document) (found : rawOperation raw index = some record) :
    ∃ operation, document.operations[index]? = some operation ∧
      MistOperation.read record = .ok operation := by
  unfold rawOperation at found
  split at found
  · rename_i values listed
    unfold CatalogDocument.read at read
    simp only [bind_eq_ok_iff] at read
    obtain ⟨members, fields, _, _, _, _, _, _, _, _, operations, parsed, _, _, same⟩ := read
    cases same
    cases raw with
    | object members' =>
        rw [readRecord] at fields
        split at fields
        · cases fields
          rw [Json.get_object] at listed
          rw [readField, listed] at parsed
          exact readItems_getElem? parsed found
        · cases fields
    | _ => cases listed
  · cases found

omit [Platform] in
theorem read_sourceFingerprint {members : List (String × Json)} {operation : MistOperation}
    (read : MistOperation.read (.object members) = .ok operation) :
    IndexMap.get "source_fingerprint" members = some (.string operation.sourceFingerprint) := by
  unfold MistOperation.read at read
  obtain ⟨members', fields, read⟩ := bind_eq_ok_iff.mp read
  -- The fingerprint is the last of the fields.
  iterate 25 obtain ⟨_, _, read⟩ := bind_eq_ok_iff.mp read
  obtain ⟨fingerprint, last, same⟩ := bind_eq_ok_iff.mp read
  cases same
  rw [readRecord] at fields
  split at fields
  · cases fields
    rw [readField] at last
    split at last
    · rename_i value found
      cases value with
      | string text =>
          cases last
          exact found
      | _ => cases last
    · cases last
  · cases fields

/-- Every record of an accepted document states the fingerprint of the rest of it. -/
theorem stated_fingerprint {json : String} {raw record : Json} {catalog : Catalog} {index : Nat}
    (read : serdeFromStr json = .ok raw) (accepted : Catalog.fromJson json = .ok catalog)
    (found : rawOperation raw index = some record) :
    record.isObject = true ∧ ∃ fingerprint,
      record.get "source_fingerprint" = some (.string fingerprint) ∧
        rawOperationFingerprint record = .ok fingerprint := by
  obtain ⟨document, parsed, _, loaded⟩ := (fromJson_eq_ok_iff read).mp accepted
  obtain ⟨operation, listed, shown⟩ := read_rawOperation parsed found
  obtain ⟨state, passed, _⟩ := bind_eq_ok_iff.mp loaded
  have checked := loadOperations_fingerprints passed listed
  rw [Nat.zero_add, checkFingerprint, found] at checked
  obtain ⟨fingerprint, computed, equal⟩ := bind_eq_ok_iff.mp checked
  have same : fingerprint = operation.sourceFingerprint := by
    simpa using require_eq_ok_iff.mp equal
  cases record with
  | object members =>
      rw [same] at computed
      exact ⟨rfl, _, read_sourceFingerprint shown, computed⟩
  | _ => cases computed

/-- An alteration of a record leaves its fingerprint, or changes only that, or the kind of value, or
states a fingerprint that is not the one of the altered record. -/
inductive Altered (record altered : Json) : Prop where
  | stale (kept : altered.get "source_fingerprint" = record.get "source_fingerprint")
      (changed : ¬Reordered record altered)
  | forged (kept : Reordered (withoutFingerprint record) (withoutFingerprint altered))
      (changed : altered.get "source_fingerprint" ≠ record.get "source_fingerprint")
  | kind (changed : altered.isObject = false)
  | wrong (differs : ∀ fingerprint, altered.get "source_fingerprint" = some (.string fingerprint) →
      rawOperationFingerprint altered ≠ .ok fingerprint)

omit [Platform] in
theorem rawOperation_wellFormed {raw record : Json} {index : Nat} (formed : raw.wellFormed = true)
    (found : rawOperation raw index = some record) : record.wellFormed = true := by
  have related := rawOperation_alike ⟨.same raw, formed, formed⟩ index
  rw [found] at related
  cases related with
  | some alike => exact alike.formed

/-- A document with an altered record of an accepted one is refused. -/
theorem altered_refused {json json' : String} {raw raw' record altered : Json} {catalog : Catalog}
    {index index' : Nat} (read : serdeFromStr json = .ok raw)
    (accepted : Catalog.fromJson json = .ok catalog) (read' : serdeFromStr json' = .ok raw')
    (found : rawOperation raw index = some record)
    (found' : rawOperation raw' index' = some altered) (changed : Altered record altered)
    (free : ¬Collide (fingerprintedText record) (fingerprintedText altered)) :
    ∃ error, Catalog.fromJson json' = .error error := by
  cases result : Catalog.fromJson json' with
  | error error => exact ⟨error, rfl⟩
  | ok catalog' =>
      exfalso
      have formed := rawOperation_wellFormed (Platform.fromStr_wellFormed json raw read) found
      have formed' := rawOperation_wellFormed (Platform.fromStr_wellFormed json' raw' read') found'
      obtain ⟨object, fingerprint, stated, computed⟩ := stated_fingerprint read accepted found
      obtain ⟨object', fingerprint', stated', computed'⟩ := stated_fingerprint read' result found'
      cases changed with
      | stale kept changed =>
          rw [stated, stated', Option.some_inj, Json.string.injEq] at kept
          subst kept
          have alike := alike_of_fingerprint_eq object object' formed formed' free
            (computed.trans computed'.symm)
          cases record with
          | object members =>
              cases altered with
              | object others =>
                  have named := stated'.trans stated.symm
                  exact changed (alike_of_withoutFingerprint formed formed' named alike).reordered
              | _ => cases object'
          | _ => cases object
      | forged kept changed =>
          have alike : Alike (withoutFingerprint record) (withoutFingerprint altered) :=
            ⟨kept, withoutFingerprint_wellFormed formed, withoutFingerprint_wellFormed formed'⟩
          have same := fingerprint_eq_of_alike object object' alike formed formed'
          rw [computed, computed', Except.ok.injEq] at same
          rw [stated, stated', same] at changed
          exact changed rfl
      | kind changed =>
          rw [changed] at object'
          cases object'
      | wrong differs => exact differs fingerprint' stated' computed'

/-- The fingerprints of two records agree when they differ in the order of members or in the
stated fingerprint, and without a collision only then. The loader refuses every document with an
altered record and accepts every reordering of an accepted one. -/
theorem fingerprints_pin_records :
    (∀ record other : Json.Value, record.1.isObject = true → other.1.isObject = true →
      (Reordered (withoutFingerprint record.1) (withoutFingerprint other.1) →
        rawOperationFingerprint record.1 = rawOperationFingerprint other.1) ∧
      (¬Reordered (withoutFingerprint record.1) (withoutFingerprint other.1) →
        ¬Collide (fingerprintedText record.1) (fingerprintedText other.1) →
        rawOperationFingerprint record.1 ≠ rawOperationFingerprint other.1)) ∧
    ∀ json raw catalog json' raw', serdeFromStr json = .ok raw →
      Catalog.fromJson json = .ok catalog → serdeFromStr json' = .ok raw' →
      (∀ index record index' altered, rawOperation raw index = some record →
        rawOperation raw' index' = some altered → Altered record altered →
        ¬Collide (fingerprintedText record) (fingerprintedText altered) →
        ∃ error, Catalog.fromJson json' = .error error) ∧
      (Reordered raw raw' → ∃ catalog', Catalog.fromJson json' = .ok catalog' ∧
        catalog'.canonical = catalog.canonical) := by
  constructor
  · intro record other object object'
    constructor
    · intro reordered
      have alike : Alike (withoutFingerprint record.1) (withoutFingerprint other.1) :=
        ⟨reordered, withoutFingerprint_wellFormed record.2, withoutFingerprint_wellFormed other.2⟩
      exact fingerprint_eq_of_alike object object' alike record.2 other.2
    · intro different free same
      exact different
        (alike_of_fingerprint_eq object object' record.2 other.2 free same).reordered
  · intro json raw catalog json' raw' read accepted read'
    constructor
    · intro index record index' altered found found' changed free
      exact altered_refused read accepted read' found found' changed free
    · intro reordered
      exact fromJson_alike read read' ⟨reordered, Platform.fromStr_wellFormed json raw read,
        Platform.fromStr_wellFormed json' raw' read'⟩ accepted

end Altering

end RustMist

namespace RustMist.Network

open Json (Reordered)

section Reversal

def reverseMembers : Json → Json
  | .object members => .object members.reverse
  | value => value

/-- The members of the records of a list are reversed as well. -/
def reverseRecords : Json → Json
  | .array values => .array (values.map reverseMembers)
  | value => reverseMembers value

def reverseDocument : Json → Json
  | .object members => .object (members.map fun member => (member.1, reverseRecords member.2)).reverse
  | value => value

theorem reordered_reverseMembers (value : Json) : Reordered value (reverseMembers value) := by
  cases value with
  | object members =>
      apply Reordered.object _ (List.reverse_perm members).symm
      exact List.forall₂_same.mpr fun member _ => .member member.1 (.same member.2)
  | _ => exact .same _

theorem reordered_reverseRecords (value : Json) : Reordered value (reverseRecords value) := by
  cases value with
  | array values =>
      apply Reordered.array
      rw [List.forall₂_map_right_iff]
      exact List.forall₂_same.mpr fun value _ => reordered_reverseMembers value
  | _ => exact reordered_reverseMembers _

theorem reordered_reverseDocument (value : Json) : Reordered value (reverseDocument value) := by
  cases value with
  | object members =>
      refine Reordered.object ?_ (List.reverse_perm _).symm
      rw [List.forall₂_map_right_iff]
      exact List.forall₂_same.mpr fun member _ =>
        .member member.1 (reordered_reverseRecords member.2)
  | _ => exact .same _

theorem wellFormed_reverseMembers {value : Json} (formed : value.wellFormed = true) :
    (reverseMembers value).wellFormed = true := by
  cases value with
  | object members =>
      obtain ⟨distinct, each⟩ := (Json.wellFormed_object_iff members).mp formed
      apply (Json.wellFormed_object_iff members.reverse).mpr
      constructor
      · rw [IndexMap.keys, List.map_reverse, List.nodup_reverse]
        exact distinct
      · exact fun member present => each member (List.mem_reverse.mp present)
  | _ => exact formed

theorem wellFormed_reverseRecords {value : Json} (formed : value.wellFormed = true) :
    (reverseRecords value).wellFormed = true := by
  cases value with
  | array values =>
      apply (Json.wellFormed_array_iff _).mpr
      intro reversed member
      obtain ⟨value, present, rfl⟩ := List.mem_map.mp member
      exact wellFormed_reverseMembers ((Json.wellFormed_array_iff values).mp formed value present)
  | _ => exact wellFormed_reverseMembers formed

theorem wellFormed_reverseDocument {value : Json} (formed : value.wellFormed = true) :
    (reverseDocument value).wellFormed = true := by
  cases value with
  | object members =>
      obtain ⟨distinct, each⟩ := (Json.wellFormed_object_iff members).mp formed
      apply (Json.wellFormed_object_iff _).mpr
      constructor
      · rw [IndexMap.keys, List.map_reverse, List.nodup_reverse, List.map_map]
        exact distinct
      · intro reversed present
        obtain ⟨member, original, rfl⟩ := List.mem_map.mp (List.mem_reverse.mp present)
        exact wellFormed_reverseRecords (each member original)
  | _ => exact formed

theorem networkDocument_wellFormed : (paddedDocument networkOperations).toJson.wellFormed = true :=
  CatalogDocument.toJson_wellFormed rfl paddable_networkOperations.formed_padded rfl

/-- The first record of the document, with a fingerprint that is not its own. -/
def forgedRecord : MistOperation := { filler 0 with sourceFingerprint := "forged" }

def forgedOperations : List MistOperation :=
  (paddedOperations networkOperations).set 0 forgedRecord

/-- A document with other operations. -/
def withOperations (document : CatalogDocument) (operations : List MistOperation) :
    CatalogDocument := { document with operations := operations }

def forgedDocument : CatalogDocument :=
  withOperations (paddedDocument networkOperations) forgedOperations

theorem operations_padded (special : List MistOperation) :
    (paddedDocument special).operations = paddedOperations special := rfl

theorem operations_withOperations (document : CatalogDocument) (operations : List MistOperation) :
    (withOperations document operations).operations = operations := rfl

theorem operations_forged : forgedDocument.operations = forgedOperations := by
  rw [forgedDocument, operations_withOperations]

theorem first_padded : (paddedOperations networkOperations)[0]? = some (sealed (filler 0)) := by
  have some' : 0 < 1072 - networkOperations.length := by decide
  have inside : 0 < ((List.range (1072 - networkOperations.length)).map fun index =>
      sealed (filler index)).length := by
    rwa [List.length_map, List.length_range]
  rw [paddedOperations, List.getElem?_append_left inside, List.getElem?_map,
    List.getElem?_range some']
  rfl

theorem first_forged : forgedOperations[0]? = some forgedRecord := by
  have inside : 0 < (paddedOperations networkOperations).length :=
    (List.getElem?_eq_some_iff.mp first_padded).1
  rw [forgedOperations, List.getElem?_set_self inside]

theorem forgedRecord_wellFormed : forgedRecord.toJson.wellFormed = true := by
  apply MistOperation.toJson_wellFormed
  exact ⟨fun _ member => (List.not_mem_nil member).elim,
    fun _ member => (List.not_mem_nil member).elim, fun _ member => (List.not_mem_nil member).elim⟩

theorem forgedDocument_wellFormed : forgedDocument.toJson.wellFormed = true := by
  refine CatalogDocument.toJson_wellFormed rfl (fun operation member => ?_) rfl
  rw [operations_forged, forgedOperations] at member
  rcases List.mem_or_eq_of_mem_set member with original | rfl
  · exact paddable_networkOperations.formed_padded operation original
  · exact forgedRecord_wellFormed

theorem rawOperation_document {document : CatalogDocument} {index : Nat} {operation : MistOperation}
    (found : document.operations[index]? = some operation) :
    rawOperation document.toJson index = some operation.toJson := by
  change (document.operations.map MistOperation.toJson)[index]? = _
  rw [List.getElem?_map, found]
  rfl

/-- The stated fingerprint is no part of the rest of a record. -/
theorem withoutFingerprint_stated (operation : MistOperation) (fingerprint : String) :
    withoutFingerprint ({ operation with sourceFingerprint := fingerprint } : MistOperation).toJson =
      .object operation.sourceMembers := rfl

theorem get_stated (operation : MistOperation) (fingerprint : String) :
    ({ operation with sourceFingerprint := fingerprint } : MistOperation).toJson.get
      "source_fingerprint" = some (.string fingerprint) := rfl

theorem rest_stated (operation : MistOperation) (fingerprint other : String) :
    withoutFingerprint ({ operation with sourceFingerprint := fingerprint } : MistOperation).toJson =
      withoutFingerprint ({ operation with sourceFingerprint := other } : MistOperation).toJson :=
  (withoutFingerprint_stated operation fingerprint).trans
    (withoutFingerprint_stated operation other).symm

/-- A record that only states another fingerprint is an altered one. -/
theorem altered_stated (operation : MistOperation) {fingerprint other : String}
    (differ : fingerprint ≠ other) :
    Altered ({ operation with sourceFingerprint := fingerprint } : MistOperation).toJson
      ({ operation with sourceFingerprint := other } : MistOperation).toJson := by
  refine .forged (rest_stated operation fingerprint other ▸ .same _) fun same => ?_
  rw [get_stated, get_stated, Option.some_inj, Json.string.injEq] at same
  exact differ same.symm

theorem fingerprint_ne_forged (operation : MistOperation) : recordFingerprint operation ≠ "forged" := by
  intro same
  have digits : isLowerHexDigest (recordFingerprint operation) = true := isLowerHexDigest_sha256Hex _
  rw [same] at digits
  exact absurd digits (by decide)

theorem forgedRecord_rest : withoutFingerprint (sealed (filler 0)).toJson =
    withoutFingerprint forgedRecord.toJson :=
  rest_stated (filler 0) (recordFingerprint (filler 0)) "forged"

theorem forgedRecord_altered : Altered (sealed (filler 0)).toJson forgedRecord.toJson :=
  altered_stated (filler 0) (fingerprint_ne_forged (filler 0))

/-- A document is accepted with the members of it and of its records in the reverse order, and it is
refused when a record states another fingerprint. -/
theorem reversed_document_accepted :
    (∃ catalog, Catalog.fromJson
        (serdeToString (reverseDocument (paddedDocument networkOperations).toJson)) = .ok catalog ∧
      catalog.canonical = (paddedCatalog networkOperations).canonical) ∧
    ∃ error, Catalog.fromJson (serdeToString forgedDocument.toJson) = .error error := by
  have read := Platform.fromStr_toString _ networkDocument_wellFormed
  have accepted := paddable_networkOperations.fromJson
  constructor
  · exact (fingerprints_pin_records.2 _ _ _ _ _ read accepted
      (Platform.fromStr_toString _ (wellFormed_reverseDocument networkDocument_wellFormed))).2
      (reordered_reverseDocument _)
  · have original : (paddedDocument networkOperations).operations[0]? = some (sealed (filler 0)) := by
      rw [operations_padded, first_padded]
    have forged : forgedDocument.operations[0]? = some forgedRecord := by
      rw [operations_forged, first_forged]
    exact (fingerprints_pin_records.2 _ _ _ _ _ read accepted
      (Platform.fromStr_toString _ forgedDocument_wellFormed)).1 0 _ 0 _
      (rawOperation_document original) (rawOperation_document forged) forgedRecord_altered
      fun collide => collide.1 (by rw [fingerprintedText, fingerprintedText, forgedRecord_rest])

end Reversal

end RustMist.Network
