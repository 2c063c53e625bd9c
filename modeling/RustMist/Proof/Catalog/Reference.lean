import RustMist.Proof.Catalog.Document

/-! Accepted catalogs that hold given operations, padded to the number that the loader expects. -/

namespace RustMist

section Fillers

/-- The name of a filler is a run of one letter. -/
def fillerName (index : Nat) : List Char := List.replicate (index + 1) 'a'

theorem eq_a_of_mem_fillerName {index : Nat} {letter : Char} (member : letter ∈ fillerName index) :
    letter = 'a' := List.eq_of_mem_replicate member

theorem fillerName_ne_nil (index : Nat) : fillerName index ≠ [] := by
  simp [fillerName]

theorem fillerName_injective : Function.Injective fillerName := by
  intro first second same
  have length := congrArg List.length same
  simpa [fillerName] using length

/-- This read of the same document is never called. -/
def filler (index : Nat) : MistOperation where
  operationKey := "GET /api/v1/" ++ String.ofList (fillerName index)
  operationId := String.ofList (fillerName index)
  tool := "mist_" ++ String.ofList (fillerName index)
  method := "GET"
  path := "/api/v1/" ++ String.ofList (fillerName index)
  scope := String.ofList (fillerName index)
  summary := ""
  openapiTags := []
  capability := .ordinaryRead
  action := .ordinaryRead
  classificationReason := "read"
  classificationSourceFingerprint := String.ofList (List.replicate 64 '0')
  parameters := []
  targetSelectors := [.none]
  requestMediaTypes := []
  requestSchemas := ∅
  requestBodyRequired := false
  responseMediaTypes := []
  responses := ∅
  pagination := .none
  verification := .none
  followUpOperationId := none
  verificationPredicate := none
  verificationReason := none
  transport := "none"
  sourceFingerprint := ""

theorem all_fillerName {index : Nat} {check : Char → Bool} (holds : check 'a' = true) :
    (fillerName index).all check = true := by
  rw [List.all_eq_true]
  intro letter member
  rw [eq_a_of_mem_fillerName member]
  exact holds

theorem replaceAll_fillerName {pattern : String} (replacement : String) (index : Nat)
    (other : pattern.toList.any (· ≠ 'a') = true) :
    replaceAll pattern replacement (String.ofList (fillerName index)) =
      String.ofList (fillerName index) := by
  obtain ⟨letter, member, different⟩ := List.any_eq_true.mp other
  have absent : Pattern.occurs pattern.toList (fillerName index) = false := by
    apply Bool.eq_false_of_not_eq_true
    rw [Pattern.occurs_iff_infix]
    intro inside
    have same := eq_a_of_mem_fillerName (inside.subset member)
    simp [same] at different
  rw [replaceAll, String.toList_ofList, Pattern.replace_of_not_occurs absent]

theorem toolWords_lower (previous : Option Char) (word text : List Char) (nonempty : word ++ text ≠ [])
    (lower : ∀ letter ∈ text, letter.isUpper = false) :
    toolWords previous word text = [word ++ text] := by
  induction text generalizing previous word with
  | nil =>
      have present : word.isEmpty = false := by simpa using nonempty
      rw [toolWords, present, List.append_nil]
      rfl
  | cons letter rest ih =>
      rw [toolWords, lower letter List.mem_cons_self, Bool.false_and]
      rw [if_neg Bool.false_ne_true, ih _ _ (by simp)
        (fun other member => lower other (List.mem_cons_of_mem _ member)), List.append_assoc]
      rfl

theorem toolName_filler (index : Nat) :
    toolName (String.ofList (fillerName index)) =
      .ok ("mist_" ++ String.ofList (fillerName index)) := by
  have head : (fillerName index).head?.any Char.isAlpha = true := by
    simp [fillerName, List.replicate_succ]
  have text : (String.ofList (fillerName index)).isEmpty = false := by
    apply Bool.eq_false_of_not_eq_true
    rw [String.isEmpty_iff]
    intro empty
    exact fillerName_ne_nil index (by simpa using congrArg String.toList empty)
  have words : toolWords none [] (fillerName index) = [fillerName index] := by
    apply toolWords_lower none [] _ (by simpa using fillerName_ne_nil index)
    intro letter member
    rw [eq_a_of_mem_fillerName member]
    rfl
  have lower : (fillerName index).map Char.toLower = fillerName index := by
    simp [fillerName]
  have joined : "_".intercalate [String.ofList (fillerName index)] =
      String.ofList (fillerName index) := rfl
  have safe : ("mist_" ++ String.ofList (fillerName index)).toList.all
      (fun letter => letter.isLower || letter.isDigit || letter = '_') = true := by
    simp only [String.toList_append, String.toList_ofList, List.all_append]
    rw [Bool.and_eq_true]
    exact ⟨by decide, all_fillerName (by decide)⟩
  unfold toolName
  rw [String.toList_ofList, text, head, all_fillerName rfl]
  simp only [Bool.not_true, Bool.or_false, Bool.false_eq_true, if_false]
  rw [replaceAll_fillerName _ index (by decide), replaceAll_fillerName _ index (by decide),
    replaceAll_fillerName _ index (by decide), replaceAll_fillerName _ index (by decide),
    replaceAll_fillerName _ index (by decide), replaceAll_fillerName _ index (by decide),
    replaceAll_fillerName _ index (by decide), String.toList_ofList, words, List.map_singleton,
    lower, joined, if_pos safe]

theorem stripPrefix_append (start rest : String) : stripPrefix start (start ++ rest) = some rest := by
  have found : start.toList.isPrefixOf (start ++ rest).toList = true := by
    rw [List.isPrefixOf_iff_prefix, String.toList_append]
    exact List.prefix_append _ _
  have length : start.length = start.toList.length := rfl
  rw [stripPrefix, if_pos found, String.toList_append, length, List.drop_left]
  exact congrArg some (String.ofList_toList)

theorem notMem_fillerName (letter : Char) (other : letter ≠ 'a') (index : Nat) :
    letter ∉ fillerName index := fun member => other (eq_a_of_mem_fillerName member)

theorem splitText_filler (index : Nat) :
    splitText '/' (String.ofList (fillerName index)) = [String.ofList (fillerName index)] := by
  have whole : (fillerName index).splitOn '/' = [fillerName index] := by
    apply List.splitOnP_eq_singleton
    intro letter member
    rw [eq_a_of_mem_fillerName member]
    decide
  rw [splitText, String.toList_ofList, whole]
  rfl

theorem ofList_filler_ne {index : Nat} {text : String} (other : text.toList.any (· ≠ 'a') = true) :
    String.ofList (fillerName index) ≠ text := by
  rintro rfl
  obtain ⟨letter, member, different⟩ := List.any_eq_true.mp other
  rw [String.toList_ofList] at member
  simp [eq_a_of_mem_fillerName member] at different

theorem isEmpty_filler (index : Nat) : (String.ofList (fillerName index)).isEmpty = false := by
  apply Bool.eq_false_of_not_eq_true
  rw [String.isEmpty_iff]
  intro empty
  exact fillerName_ne_nil index (by simpa using congrArg String.toList empty)

theorem safeSegment_filler (index : Nat) :
    safeSegment (String.ofList (fillerName index)) = true := by
  have plain : placeholderName (String.ofList (fillerName index)) = none := by
    rw [placeholderName, String.toList_ofList]
    rfl
  have opening := notMem_fillerName '{' (by decide) index
  have closing := notMem_fillerName '}' (by decide) index
  rw [safeSegment, isEmpty_filler, plain]
  simp [ofList_filler_ne, opening, closing]

theorem toList_path_filler (index : Nat) :
    ("/api/v1/" ++ String.ofList (fillerName index)).toList =
      "/api/v1/".toList ++ fillerName index := by
  rw [String.toList_append, String.toList_ofList (l := fillerName index)]

theorem safePath_filler (index : Nat) :
    safePath ("/api/v1/" ++ String.ofList (fillerName index)) = true := by
  have query := notMem_fillerName '?' (by decide) index
  have fragment := notMem_fillerName '#' (by decide) index
  rw [safePath, stripPrefix_append]
  dsimp only
  rw [isEmpty_filler, splitText_filler, toList_path_filler]
  simp [query, fragment, safeSegment_filler]

theorem targetsForPath_filler (index : Nat) :
    targetsForPath ("/api/v1/" ++ String.ofList (fillerName index)) = [.none] := by
  have absent (pattern : String) (opens : '{' ∈ pattern.toList) :
      containsText pattern ("/api/v1/" ++ String.ofList (fillerName index)) = false := by
    apply Bool.eq_false_of_not_eq_true
    rw [containsText, Pattern.occurs_iff_infix, toList_path_filler]
    intro inside
    rcases List.mem_append.mp (inside.subset opens) with start | name
    · exact absurd start (by decide)
    · exact notMem_fillerName '{' (by decide) index name
  rw [targetsForPath, absent "{org_id}" (by decide), absent "{site_id}" (by decide),
    absent "{msp_id}" (by decide)]
  rfl

theorem scopeForPath_filler (index : Nat) :
    scopeForPath ("/api/v1/" ++ String.ofList (fillerName index)) =
      some (String.ofList (fillerName index)) := by
  rw [scopeForPath, stripPrefix_append, Option.bind_some, splitText_filler]
  rfl

theorem fillerKey_mono {first second : Nat} (before : first < second) :
    (filler first).operationKey < (filler second).operationKey := by
  have start : ("GET /api/v1/" ++ String.ofList (fillerName first)).toList <
      ("GET /api/v1/" ++ String.ofList (fillerName second)).toList := by
    rw [String.toList_append, String.toList_append,
      String.toList_ofList (l := fillerName first), String.toList_ofList (l := fillerName second)]
    apply List.append_left_lt
    obtain ⟨more, rfl⟩ := Nat.exists_eq_add_of_lt before
    have longer : fillerName (first + more + 1) = fillerName first ++ 'a' :: List.replicate more 'a' := by
      rw [fillerName, fillerName, ← List.replicate_succ, ← List.replicate_add]
      congr 1
      omega
    have append : fillerName first ++ [] < fillerName first ++ 'a' :: List.replicate more 'a' :=
      List.append_left_lt (List.nil_lt_cons 'a' (List.replicate more 'a'))
    rw [List.append_nil, ← longer] at append
    exact append
  exact start

/-- Every filler stands before this text. -/
theorem fillerKey_lt (index : Nat) : (filler index).operationKey < "GET /api/v1/b" := by
  have letters : fillerName index < ['b'] := List.Lex.rel (by decide)
  have start : ("GET /api/v1/" ++ String.ofList (fillerName index)).toList <
      "GET /api/v1/".toList ++ ['b'] := by
    rw [String.toList_append, String.toList_ofList (l := fillerName index)]
    exact List.append_left_lt letters
  exact start

theorem fillerId_ne {operationId : String} (other : operationId.toList.any (· ≠ 'a') = true)
    (index : Nat) : (filler index).operationId ≠ operationId := ofList_filler_ne other

theorem fillerTool_ne {tool : String}
    (other : (tool.toList.any fun letter => !"mist_a".toList.contains letter) = true)
    (index : Nat) : (filler index).tool ≠ tool := by
  rintro rfl
  obtain ⟨letter, member, different⟩ := List.any_eq_true.mp other
  change letter ∈ ("mist_" ++ String.ofList (fillerName index)).toList at member
  rw [String.toList_append, String.toList_ofList (l := fillerName index)] at member
  rcases List.mem_append.mp member with start | name
  · have inside : "mist_".toList.all (fun letter => "mist_a".toList.contains letter) = true := by
      decide +kernel
    rw [List.all_eq_true.mp inside letter start] at different
    cases different
  · rw [eq_a_of_mem_fillerName name] at different
    exact absurd different (by decide +kernel)

end Fillers

section Sealing

variable [Platform]

/-- The fingerprint of a record is the digest of its other members. -/
def recordFingerprint (operation : MistOperation) : String :=
  sha256Hex (serdeToString (canonicalJson (.object operation.sourceMembers)) ++ "\n")

def sealed (operation : MistOperation) : MistOperation :=
  { operation with sourceFingerprint := recordFingerprint operation }

theorem isLowerHexDigest_sha256Hex (text : String) : isLowerHexDigest (sha256Hex text) = true := by
  have lower : ∀ letter ∈ Hex.encodeChars (sha256 text).bytes, Hex.isLowerDigit letter = true :=
    fun letter member => Hex.isLowerDigit_of_mem_encodeChars member
  have size := (sha256 text).size
  rw [sha256Hex, isLowerHexDigest, Hex.utf8ByteSize_encode, size, Hex.encode, String.toList_ofList,
    List.all_eq_true.mpr lower]
  rfl

theorem rawOperationFingerprint_sealed (operation : MistOperation) :
    rawOperationFingerprint (sealed operation).toJson = .ok (recordFingerprint operation) := by
  rfl

theorem valid_filler (index : Nat) : ValidOperation (sealed (filler index)) where
  path := safePath_filler index
  key := by
    change "GET /api/v1/" ++ _ = "GET" ++ " " ++ ("/api/v1/" ++ _)
    rw [← String.append_assoc]
    rfl
  scope := scopeForPath_filler index
  tool := toolName_filler index
  method := by
    change "GET" ∈ _
    decide
  action := rfl
  reason := rfl
  classified := by
    change isLowerHexDigest (String.ofList (List.replicate 64 '0')) = true
    decide +kernel
  allowed := rfl
  targets := (targetsForPath_filler index).symm
  media := rfl
  body := rfl
  transport := rfl
  pagination := rfl
  responseMedia := rfl
  parameters := rfl
  schemas := rfl
  responses := rfl
  fingerprint := isLowerHexDigest_sha256Hex _

/-- A valid operation stays valid when its record is sealed. -/
theorem ValidOperation.seal {operation : MistOperation} (valid : ValidOperation operation) :
    ValidOperation (sealed operation) :=
  { valid with fingerprint := isLowerHexDigest_sha256Hex _ }

end Sealing

section WellFormed

theorem writeList_wellFormed {α : Type} {write : α → Json} {values : List α}
    (formed : ∀ value ∈ values, (write value).wellFormed = true) :
    (writeList write values).wellFormed = true := by
  rw [writeList, Json.wellFormed_array_iff]
  intro json member
  obtain ⟨value, present, rfl⟩ := List.mem_map.mp member
  exact formed value present

theorem writeMap_wellFormed {α : Type} {write : α → Json} {map : SortedMap String α}
    (formed : ∀ entry ∈ map.entries, (write entry.2).wellFormed = true) :
    (writeMap write map).wellFormed = true := by
  rw [writeMap, Json.wellFormed_object_iff]
  have keys : IndexMap.keys (IndexMap.mapValues write map.entries) = map.keys := by
    rw [IndexMap.keys, IndexMap.mapValues, List.map_map]
    rfl
  rw [keys]
  refine ⟨map.nodup_keys, fun member present => ?_⟩
  obtain ⟨entry, listed, rfl⟩ := List.mem_map.mp present
  exact formed entry listed

theorem writeOption_wellFormed (value : Option String) :
    (writeOption .string value).wellFormed = true := by
  cases value <;> rfl

/-- The schemas of an operation are well formed. -/
structure SchemasFormed (operation : MistOperation) : Prop where
  parameters : ∀ parameter ∈ operation.parameters, parameter.schema.wellFormed = true
  requests : ∀ entry ∈ operation.requestSchemas.entries, entry.2.wellFormed = true
  responses : ∀ entry ∈ operation.responses.entries, ∀ media ∈ entry.2.entries,
    media.2.wellFormed = true

theorem MistParameter.toJson_wellFormed {parameter : MistParameter}
    (formed : parameter.schema.wellFormed = true) : parameter.toJson.wellFormed = true := by
  have distinct : MistParameter.fields.Nodup := by decide
  rw [MistParameter.toJson, Json.wellFormed_object_iff]
  refine ⟨distinct, ?_⟩
  simp [formed]

theorem MistOperation.toJson_wellFormed {operation : MistOperation}
    (formed : SchemasFormed operation) : operation.toJson.wellFormed = true := by
  have texts (values : List String) : (writeList Json.string values).wellFormed = true :=
    writeList_wellFormed fun _ _ => rfl
  have parameters : (writeList MistParameter.toJson operation.parameters).wellFormed = true :=
    writeList_wellFormed fun parameter member =>
      MistParameter.toJson_wellFormed (formed.parameters parameter member)
  have selectors : (writeList (writeVariant TargetSelector.variants)
      operation.targetSelectors).wellFormed = true := writeList_wellFormed fun _ _ => rfl
  have requests : (writeMap (fun schema => schema) operation.requestSchemas).wellFormed = true :=
    writeMap_wellFormed formed.requests
  have responses : (writeMap (writeMap fun schema => schema)
      operation.responses).wellFormed = true :=
    writeMap_wellFormed fun entry member => writeMap_wellFormed (formed.responses entry member)
  have distinct : MistOperation.fields.Nodup := by decide
  rw [MistOperation.toJson, Json.wellFormed_object_iff]
  constructor
  · exact distinct
  · simp [MistOperation.sourceMembers, texts, parameters, selectors, requests, responses,
      writeOption_wellFormed, writeVariant]

theorem CatalogDocument.toJson_wellFormed {document : CatalogDocument}
    (components : document.components.wellFormed = true)
    (operations : ∀ operation ∈ document.operations, operation.toJson.wellFormed = true)
    (audit : document.audit = frozenAudit) : document.toJson.wellFormed = true := by
  have listed : (writeList MistOperation.toJson document.operations).wellFormed = true :=
    writeList_wellFormed operations
  have source : document.source.toJson.wellFormed = true := by
    have distinct : MistCatalogSource.fields.Nodup := by decide
    rw [MistCatalogSource.toJson, Json.wellFormed_object_iff]
    refine ⟨distinct, ?_⟩
    simp
  have frozen : document.audit.toJson.wellFormed = true := by
    rw [audit]
    decide +kernel
  have distinct : CatalogDocument.fields.Nodup := by decide
  rw [CatalogDocument.toJson, Json.wellFormed_object_iff]
  constructor
  · exact distinct
  · simp [components, listed, source, frozen, writeUInt8]

end WellFormed

section Documents

variable [Platform]

/-- The fillers stand before the given operations. -/
def paddedOperations (special : List MistOperation) : List MistOperation :=
  (List.range (1072 - special.length)).map (fun index => sealed (filler index)) ++
    special.map sealed

def paddedDocument (special : List MistOperation) : CatalogDocument where
  catalogVersion := 1
  platform := "mist"
  source := auditedSource
  components := .object []
  operations := paddedOperations special
  audit := frozenAudit

def paddedCatalog (special : List MistOperation) : Catalog where
  source := auditedSource
  components := .object []
  operations := paddedOperations special
  audit := frozenAudit
  operationIndex := indexOf (paddedOperations special)

/-- The verification policy of an operation holds within a list of operations. -/
def VerifiedWithin (operations : List MistOperation) (operation : MistOperation) : Prop :=
  match operation.verification with
  | .none =>
      operation.action ∈ [MistCapability.ordinaryRead, .privilegedRead] ∧
        operation.followUpOperationId.isNone ∧ operation.verificationPredicate.isNone ∧
        operation.verificationReason.isNone
  | .followUpRead =>
      operation.verificationReason.isNone ∧
        operation.verificationPredicate = some "request_projection_equals_response" ∧
        ∃ followUp ∈ operations, operation.followUpOperationId = some followUp.operationId ∧
          followUp.method = "GET"
  | .apiAcknowledged =>
      operation.followUpOperationId.isNone ∧ operation.verificationPredicate.isNone ∧
        operation.verificationReason.any (!·.isEmpty)

/-- These operations can be padded to an accepted catalog. -/
structure Paddable (special : List MistOperation) : Prop where
  few : special.length ≤ 1072
  valid : ∀ operation ∈ special, ValidOperation operation
  sorted : (special.map MistOperation.operationKey).Pairwise (· < ·)
  above : ∀ operation ∈ special, "GET /api/v1/b" ≤ operation.operationKey
  ids : (special.map MistOperation.operationId).Nodup
  tools : (special.map MistOperation.tool).Nodup
  named : ∀ operation ∈ special, operation.operationId.toList.any (· ≠ 'a') = true
  tooled : ∀ operation ∈ special,
    (operation.tool.toList.any fun letter => !"mist_a".toList.contains letter) = true
  formed : ∀ operation ∈ special, SchemasFormed operation
  verified : ∀ operation ∈ special, VerifiedWithin special operation

theorem mem_paddedOperations {special : List MistOperation} {operation : MistOperation} :
    operation ∈ paddedOperations special ↔
      (∃ index < 1072 - special.length, sealed (filler index) = operation) ∨
        ∃ original ∈ special, sealed original = operation := by
  simp [paddedOperations]

/-- A key of the padded list is a key of a filler or of a given operation. -/
theorem nodup_padded {α : Type} (key : MistOperation → α) {special : List MistOperation}
    (same : ∀ operation, key (sealed operation) = key operation)
    (distinct : (special.map key).Nodup)
    (injective : Function.Injective fun index => key (filler index))
    (apart : ∀ operation ∈ special, ∀ index, key (filler index) ≠ key operation) :
    ((paddedOperations special).map key).Nodup := by
  rw [paddedOperations, List.map_append, List.map_map, List.map_map, List.nodup_append]
  have fillers : (fun index => key (sealed (filler index))) = fun index => key (filler index) :=
    funext fun index => same (filler index)
  have specials : key ∘ sealed = key := funext same
  refine ⟨?_, ?_, ?_⟩
  · change ((List.range _).map fun index => key (sealed (filler index))).Nodup
    rw [fillers]
    exact List.nodup_range.map injective
  · rw [specials]
    exact distinct
  · intro first member second later
    obtain ⟨index, _, rfl⟩ := List.mem_map.mp member
    obtain ⟨operation, present, rfl⟩ := List.mem_map.mp later
    change key (sealed (filler index)) ≠ key (sealed operation)
    rw [same, same]
    exact apart operation present index

variable {special : List MistOperation}

theorem Paddable.valid_padded (paddable : Paddable special) :
    ∀ operation ∈ paddedOperations special, ValidOperation operation := by
  intro operation member
  rcases mem_paddedOperations.mp member with ⟨index, _, rfl⟩ | ⟨original, present, rfl⟩
  · exact valid_filler index
  · exact (paddable.valid original present).seal

theorem Paddable.sorted_padded (paddable : Paddable special) :
    ((paddedOperations special).map MistOperation.operationKey).Pairwise (· < ·) := by
  rw [paddedOperations, List.map_append, List.map_map, List.map_map, List.pairwise_append]
  refine ⟨?_, paddable.sorted, ?_⟩
  · rw [List.pairwise_map]
    exact List.pairwise_lt_range.imp fun before => fillerKey_mono before
  · intro first member second later
    obtain ⟨index, _, rfl⟩ := List.mem_map.mp member
    obtain ⟨operation, present, rfl⟩ := List.mem_map.mp later
    exact lt_of_lt_of_le (fillerKey_lt index) (paddable.above operation present)

theorem Paddable.ids_padded (paddable : Paddable special) :
    ((paddedOperations special).map MistOperation.operationId).Nodup :=
  nodup_padded MistOperation.operationId (fun _ => rfl) paddable.ids
    (fun _ _ same => fillerName_injective (String.ofList_injective same))
    fun operation present => fillerId_ne (paddable.named operation present)

theorem Paddable.tools_padded (paddable : Paddable special) :
    ((paddedOperations special).map MistOperation.tool).Nodup :=
  nodup_padded MistOperation.tool (fun _ => rfl) paddable.tools
    (fun first second same => by
      have text := congrArg String.toList same
      change ("mist_" ++ String.ofList (fillerName first)).toList =
        ("mist_" ++ String.ofList (fillerName second)).toList at text
      rw [String.toList_append, String.toList_append,
        String.toList_ofList (l := fillerName first),
        String.toList_ofList (l := fillerName second)] at text
      exact fillerName_injective (List.append_cancel_left text))
    fun operation present => fillerTool_ne (paddable.tooled operation present)

theorem Paddable.formed_padded (paddable : Paddable special) :
    ∀ operation ∈ paddedOperations special, operation.toJson.wellFormed = true := by
  intro operation member
  rcases mem_paddedOperations.mp member with ⟨index, _, rfl⟩ | ⟨original, present, rfl⟩
  · apply MistOperation.toJson_wellFormed
    constructor
    · intro parameter member
      cases member
    · intro entry member
      cases member
    · intro entry member
      cases member
  · have formed := paddable.formed original present
    exact MistOperation.toJson_wellFormed ⟨formed.parameters, formed.requests, formed.responses⟩

/-- Every operation of the padded list carries its own fingerprint. -/
theorem fingerprint_padded {index : Nat} {operation : MistOperation}
    (found : (paddedOperations special)[index]? = some operation) :
    FingerprintHolds (some (paddedDocument special).toJson) index operation := by
  rintro document ⟨⟩
  have record : rawOperation (paddedDocument special).toJson index = some operation.toJson := by
    change ((paddedOperations special).map MistOperation.toJson)[index]? = _
    rw [List.getElem?_map, found]
    rfl
  obtain ⟨original, rfl⟩ : ∃ original, operation = sealed original := by
    rcases mem_paddedOperations.mp (List.mem_of_getElem? found) with
      ⟨index, _, rfl⟩ | ⟨original, _, rfl⟩
    · exact ⟨filler index, rfl⟩
    · exact ⟨original, rfl⟩
  rw [checkFingerprint, record]
  dsimp only
  rw [rawOperationFingerprint_sealed]
  change require (decide (recordFingerprint original = recordFingerprint original)) _ = _
  rw [decide_eq_true rfl]
  rfl

/-- The index of the padded list finds each operation by its identifier, and nothing else. -/
theorem Paddable.find_iff (paddable : Paddable special) {operationId : String}
    {operation : MistOperation} :
    ((indexOf (paddedOperations special)).get operationId).bind
        (fun position => (paddedOperations special)[position]?) = some operation ↔
      operation ∈ paddedOperations special ∧ operation.operationId = operationId := by
  have loaded : loadOperations none LoadState.start ([] : List MistOperation).length
      (paddedOperations special) = .ok _ :=
    loadOperations_accepts LoadState.passed_start paddable.valid_padded paddable.sorted_padded
      paddable.ids_padded paddable.tools_padded (fun _ _ _ _ impossible => by cases impossible)
  have known := (loadOperations_passed LoadState.passed_start loaded).1
  have index := LoadState.through_index LoadState.start 0 (paddedOperations special)
  have indexed := known.indexed
  rw [List.nil_append, List.length_nil, index] at indexed
  exact operation_eq_some_iff indexed

theorem Paddable.find (paddable : Paddable special) {operation : MistOperation}
    (member : operation ∈ paddedOperations special) :
    ((indexOf (paddedOperations special)).get operation.operationId).bind
      (fun position => (paddedOperations special)[position]?) = some operation :=
  paddable.find_iff.mpr ⟨member, rfl⟩

theorem Paddable.verified_padded (paddable : Paddable special) :
    validateVerification (paddedOperations special) (indexOf (paddedOperations special)) =
      .ok () := by
  apply forM_eq_ok_iff.mpr
  intro operation member
  rcases mem_paddedOperations.mp member with ⟨index, _, rfl⟩ | ⟨original, present, rfl⟩
  · rfl
  · have policy := paddable.verified original present
    change validateVerificationOf _ _ (sealed original) = _
    have same : (sealed original).verification = original.verification := rfl
    unfold VerifiedWithin at policy
    unfold validateVerificationOf
    rw [same]
    cases kind : original.verification with
    | none =>
        rw [kind] at policy
        exact if_pos policy
    | apiAcknowledged =>
        rw [kind] at policy
        exact if_pos policy
    | followUpRead =>
        rw [kind] at policy
        obtain ⟨reason, predicate, followUp, listed, named, method⟩ := policy
        have target : sealed followUp ∈ paddedOperations special :=
          mem_paddedOperations.mpr (.inr ⟨followUp, listed, rfl⟩)
        have found := paddable.find target
        have follows : (sealed original).followUpOperationId =
          some (sealed followUp).operationId := named
        dsimp only
        rw [if_pos ⟨reason, predicate⟩, follows]
        dsimp only
        rw [found]
        exact if_neg (not_not_intro method)

/-- The padded catalog is read from the text of its document. -/
theorem Paddable.fromJson (paddable : Paddable special) :
    Catalog.fromJson (serdeToString (paddedDocument special).toJson) =
      .ok (paddedCatalog special) := by
  have formed : (paddedDocument special).toJson.wellFormed = true :=
    CatalogDocument.toJson_wellFormed rfl paddable.formed_padded rfl
  have size : (paddedOperations special).length = 1072 := by
    have few := paddable.few
    simp only [paddedOperations, List.length_append, List.length_map, List.length_range]
    omega
  have document : validateDocument (paddedDocument special) = .ok () := by
    have counted : ((paddedDocument special).operations.length = 1072) = True := eq_true size
    unfold validateDocument
    simp only [counted]
    rfl
  rw [Catalog.fromJson, Catalog.parse, Platform.fromStr_toString _ formed]
  dsimp only
  rw [reads_document]
  change (validateDocument (paddedDocument special) >>= fun _ =>
    Catalog.parseDocument (paddedDocument special) (some (paddedDocument special).toJson)) = _
  rw [bind_of_ok document]
  exact Catalog.parseDocument_accepts paddable.valid_padded paddable.sorted_padded
    paddable.ids_padded paddable.tools_padded (fun _ _ found => fingerprint_padded found)
    paddable.verified_padded

theorem Paddable.operation (paddable : Paddable special) {operation : MistOperation}
    (member : operation ∈ special) :
    (paddedCatalog special).operation operation.operationId = some (sealed operation) :=
  paddable.find (mem_paddedOperations.mpr (.inr ⟨operation, member, rfl⟩))

/-- A name that neither a filler nor a given operation has is unknown to the catalog. -/
theorem Paddable.unknown (paddable : Paddable special) {operationId : String}
    (apart : operationId.toList.any (· ≠ 'a') = true)
    (absent : ∀ operation ∈ special, operation.operationId ≠ operationId) :
    (paddedCatalog special).operation operationId = none := by
  by_contra known
  obtain ⟨operation, found⟩ := Option.ne_none_iff_exists'.mp known
  obtain ⟨member, named⟩ := paddable.find_iff.mp found
  rcases mem_paddedOperations.mp member with ⟨index, _, rfl⟩ | ⟨original, listed, rfl⟩
  · exact fillerId_ne apart index named
  · exact absent original listed named

end Documents

/-! An accepted catalog with the operations of the network object. -/

section Operations

/-- A network is an object with a name. -/
def networkSchema : Json :=
  .object [("type", .string "object"),
    ("properties", .object [("name", .object [("type", .string "string")])]),
    ("required", .array [.string "name"])]

def identifierSchema : Json :=
  .object [("type", .string "string"), ("format", .string "uuid")]

def orgParameter : MistParameter := ⟨"org_id", "path", true, identifierSchema⟩

def networkParameter : MistParameter := ⟨"network_id", "path", true, identifierSchema⟩

def networkResponses : SortedMap String (SortedMap String Json) :=
  SortedMap.ofList [("200", SortedMap.ofList [("application/json", networkSchema)])]

def networkRequests : SortedMap String Json :=
  SortedMap.ofList [("application/json", networkSchema)]

def sourceDigest : String := String.ofList (List.replicate 64 '0')

def getOrgNetwork : MistOperation where
  operationKey := "GET /api/v1/orgs/{org_id}/networks/{network_id}"
  operationId := "getOrgNetwork"
  tool := "mist_get_org_network"
  method := "GET"
  path := "/api/v1/orgs/{org_id}/networks/{network_id}"
  scope := "orgs"
  summary := "getOrgNetwork"
  openapiTags := []
  capability := .ordinaryRead
  action := .ordinaryRead
  classificationReason := "read"
  classificationSourceFingerprint := sourceDigest
  parameters := [orgParameter, networkParameter]
  targetSelectors := [.org]
  requestMediaTypes := []
  requestSchemas := ∅
  requestBodyRequired := false
  responseMediaTypes := ["application/json"]
  responses := networkResponses
  pagination := .none
  verification := .none
  followUpOperationId := none
  verificationPredicate := none
  verificationReason := none
  transport := "none"
  sourceFingerprint := sourceDigest

def createOrgNetwork : MistOperation where
  operationKey := "POST /api/v1/orgs/{org_id}/networks"
  operationId := "createOrgNetwork"
  tool := "mist_create_org_network"
  method := "POST"
  path := "/api/v1/orgs/{org_id}/networks"
  scope := "orgs"
  summary := "createOrgNetwork"
  openapiTags := []
  capability := .create
  action := .create
  classificationReason := "create"
  classificationSourceFingerprint := sourceDigest
  parameters := [orgParameter]
  targetSelectors := [.org]
  requestMediaTypes := ["application/json"]
  requestSchemas := networkRequests
  requestBodyRequired := true
  responseMediaTypes := ["application/json"]
  responses := networkResponses
  pagination := .none
  verification := .apiAcknowledged
  followUpOperationId := none
  verificationPredicate := none
  verificationReason := some "collection_identity_unavailable"
  transport := "json"
  sourceFingerprint := sourceDigest

def updateOrgNetwork : MistOperation where
  operationKey := "PUT /api/v1/orgs/{org_id}/networks/{network_id}"
  operationId := "updateOrgNetwork"
  tool := "mist_update_org_network"
  method := "PUT"
  path := "/api/v1/orgs/{org_id}/networks/{network_id}"
  scope := "orgs"
  summary := "updateOrgNetwork"
  openapiTags := []
  capability := .update
  action := .update
  classificationReason := "update"
  classificationSourceFingerprint := sourceDigest
  parameters := [orgParameter, networkParameter]
  targetSelectors := [.org]
  requestMediaTypes := ["application/json"]
  requestSchemas := networkRequests
  requestBodyRequired := true
  responseMediaTypes := ["application/json"]
  responses := networkResponses
  pagination := .none
  verification := .followUpRead
  followUpOperationId := some "getOrgNetwork"
  verificationPredicate := some "request_projection_equals_response"
  verificationReason := none
  transport := "json"
  sourceFingerprint := sourceDigest

def networkOperations : List MistOperation := [getOrgNetwork, createOrgNetwork, updateOrgNetwork]

end Operations

section Acceptance

theorem valid_networkOperations : ∀ operation ∈ networkOperations, ValidOperation operation := by
  have checked : ∀ operation ∈ networkOperations, validateOperation operation none = .ok () := by
    decide +kernel
  exact fun operation member => (validateOperation_eq_ok_iff.mp (checked operation member)).2

theorem formed_networkOperations : ∀ operation ∈ networkOperations, SchemasFormed operation := by
  have parameters : ∀ operation ∈ networkOperations, ∀ parameter ∈ operation.parameters,
      parameter.schema.wellFormed = true := by decide +kernel
  have requests : ∀ operation ∈ networkOperations, ∀ entry ∈ operation.requestSchemas.entries,
      entry.2.wellFormed = true := by decide +kernel
  have responses : ∀ operation ∈ networkOperations, ∀ entry ∈ operation.responses.entries,
      ∀ media ∈ entry.2.entries, media.2.wellFormed = true := by decide +kernel
  exact fun operation member => ⟨parameters operation member, requests operation member,
    responses operation member⟩

theorem verified_networkOperations :
    ∀ operation ∈ networkOperations, VerifiedWithin networkOperations operation := by
  intro operation member
  simp only [networkOperations, List.mem_cons, List.not_mem_nil, or_false] at member
  rcases member with rfl | rfl | rfl
  · exact ⟨by decide, rfl, rfl, rfl⟩
  · exact ⟨rfl, rfl, rfl⟩
  · exact ⟨rfl, rfl, getOrgNetwork, List.mem_cons_self, rfl, rfl⟩

theorem paddable_networkOperations : Paddable networkOperations where
  few := by decide
  valid := valid_networkOperations
  sorted := by decide +kernel
  above := by decide +kernel
  ids := by decide
  tools := by decide
  named := by decide
  tooled := by decide
  formed := formed_networkOperations
  verified := verified_networkOperations

end Acceptance

/-! Accepted catalogs of read operations. -/

section Operations

/-- This is a read of one path with the given parameters and responses. -/
def readOperation (operationId tool path scope : String) (selectors : List TargetSelector)
    (parameters : List MistParameter) (responses : SortedMap String (SortedMap String Json))
    (pagination : PaginationMode) : MistOperation where
  operationKey := "GET " ++ path
  operationId := operationId
  tool := tool
  method := "GET"
  path := path
  scope := scope
  summary := operationId
  openapiTags := []
  capability := .ordinaryRead
  action := .ordinaryRead
  classificationReason := "read"
  classificationSourceFingerprint := sourceDigest
  parameters := parameters
  targetSelectors := selectors
  requestMediaTypes := []
  requestSchemas := ∅
  requestBodyRequired := false
  responseMediaTypes := responseMedia responses
  responses := responses
  pagination := pagination
  verification := .none
  followUpOperationId := none
  verificationPredicate := none
  verificationReason := none
  transport := "none"
  sourceFingerprint := sourceDigest

def arraySchema : Json := .object [("type", .string "array")]

def integerSchema : Json := .object [("type", .string "integer")]

def arrayResponses : SortedMap String (SortedMap String Json) :=
  SortedMap.ofList [("200", SortedMap.ofList [("application/json", arraySchema)])]

/-- The operation that lists the sites of an organization. -/
def siteListing : MistOperation :=
  readOperation "listOrgSites" "mist_list_org_sites" "/api/v1/orgs/{org_id}/sites" "orgs" [.org]
    [orgParameter, ⟨"limit", "query", false, integerSchema⟩, ⟨"page", "query", false, integerSchema⟩]
    arrayResponses .pageLimit

def siteOperations : List MistOperation := [siteListing]

def stringsSchema : Json :=
  .object [("type", .string "array"), ("items", .object [("type", .string "string")])]

def objectResponses : SortedMap String (SortedMap String Json) :=
  SortedMap.ofList [("200", SortedMap.ofList [("application/json",
    .object [("type", .string "object")])])]

/-- A query of this operation may carry a list. -/
def registrationCommands : MistOperation :=
  readOperation "getOrg128TRegistrationCommands" "mist_get_org128_t_registration_commands"
    "/api/v1/orgs/{org_id}/128routers/register_cmd" "orgs" [.org]
    [orgParameter, ⟨"asset_ids", "query", false, stringsSchema⟩,
      ⟨"ttl", "query", false, integerSchema⟩] objectResponses .none

/-- This operation declares the size of a page and no page. -/
def alarmCount : MistOperation :=
  readOperation "countOrgAlarms" "mist_count_org_alarms" "/api/v1/orgs/{org_id}/alarms/count" "orgs"
    [.org] [orgParameter, ⟨"limit", "query", false, integerSchema⟩] objectResponses .pageLimit

def queryOperations : List MistOperation := [registrationCommands, alarmCount]

/-- This operation declares one query twice, with two schemas. -/
def deviceSearch : MistOperation :=
  readOperation "searchOrgDevices" "mist_search_org_devices" "/api/v1/orgs/{org_id}/devices/search"
    "orgs" [.org]
    [orgParameter, ⟨"version", "query", false, integerSchema⟩,
      ⟨"version", "query", false, .object [("type", .string "string")]⟩] objectResponses .none

def searchOperations : List MistOperation := [deviceSearch]

/-- This read carries the policy of a write. -/
def acknowledgedListing : MistOperation :=
  { siteListing with verification := .apiAcknowledged, verificationReason := some "acknowledged" }

def acknowledgedOperations : List MistOperation := [acknowledgedListing]

end Operations

section Acceptance

/-- Reads of one kind are never verified by another operation. -/
theorem verifiedWithin_readOperation {special : List MistOperation}
    {operationId tool path scope : String} {selectors : List TargetSelector}
    {parameters : List MistParameter} {responses : SortedMap String (SortedMap String Json)}
    {pagination : PaginationMode} :
    VerifiedWithin special (readOperation operationId tool path scope selectors parameters
      responses pagination) := ⟨List.mem_cons_self, rfl, rfl, rfl⟩

theorem valid_of_checked {special : List MistOperation}
    (checked : ∀ operation ∈ special, validateOperation operation none = .ok ()) :
    ∀ operation ∈ special, ValidOperation operation :=
  fun operation member => (validateOperation_eq_ok_iff.mp (checked operation member)).2

theorem paddable_siteOperations : Paddable siteOperations where
  few := by decide
  valid := valid_of_checked (by decide +kernel)
  sorted := by decide
  above := by decide
  ids := by decide +kernel
  tools := by decide +kernel
  named := by decide +kernel
  tooled := by decide +kernel
  formed := by
    intro operation member
    obtain rfl := List.mem_singleton.mp member
    exact ⟨by decide +kernel, by decide +kernel, by decide +kernel⟩
  verified := by
    intro operation member
    obtain rfl := List.mem_singleton.mp member
    exact verifiedWithin_readOperation

theorem paddable_acknowledgedOperations : Paddable acknowledgedOperations where
  few := by decide
  valid := valid_of_checked (by decide +kernel)
  sorted := by decide +kernel
  above := by decide +kernel
  ids := by decide +kernel
  tools := by decide +kernel
  named := by decide +kernel
  tooled := by decide
  formed := by
    intro operation member
    obtain rfl := List.mem_singleton.mp member
    exact ⟨by decide, by decide +kernel, by decide +kernel⟩
  verified := by
    intro operation member
    obtain rfl := List.mem_singleton.mp member
    exact ⟨rfl, rfl, by decide +kernel⟩

theorem paddable_searchOperations : Paddable searchOperations where
  few := by decide
  valid := valid_of_checked (by decide +kernel)
  sorted := by decide +kernel
  above := by decide +kernel
  ids := by decide +kernel
  tools := by decide +kernel
  named := by decide +kernel
  tooled := by decide +kernel
  formed := by
    intro operation member
    obtain rfl := List.mem_singleton.mp member
    exact ⟨by decide, by decide, by decide⟩
  verified := by
    intro operation member
    obtain rfl := List.mem_singleton.mp member
    exact verifiedWithin_readOperation

theorem paddable_queryOperations : Paddable queryOperations where
  few := by decide
  valid := valid_of_checked (by decide +kernel)
  sorted := by decide
  above := by decide
  ids := by decide
  tools := by decide
  named := by decide +kernel
  tooled := by decide
  formed := by
    have parameters : ∀ operation ∈ queryOperations, ∀ parameter ∈ operation.parameters,
        parameter.schema.wellFormed = true := by decide +kernel
    have requests : ∀ operation ∈ queryOperations, ∀ entry ∈ operation.requestSchemas.entries,
        entry.2.wellFormed = true := by decide +kernel
    have responses : ∀ operation ∈ queryOperations, ∀ entry ∈ operation.responses.entries,
        ∀ media ∈ entry.2.entries, media.2.wellFormed = true := by decide
    exact fun operation member => ⟨parameters operation member, requests operation member,
      responses operation member⟩
  verified := by
    have unverified : ∀ operation ∈ queryOperations, operation.verification = .none ∧
        operation.action = .ordinaryRead ∧ operation.followUpOperationId = none ∧
        operation.verificationPredicate = none ∧ operation.verificationReason = none := by
      decide +kernel
    intro operation member
    obtain ⟨kind, action, followUp, predicate, reason⟩ := unverified operation member
    unfold VerifiedWithin
    rw [kind, action, followUp, predicate, reason]
    exact ⟨List.mem_cons_self, rfl, rfl, rfl⟩

end Acceptance

end RustMist
