import RustMist.Proof.Catalog.Loading

/-! A document that is written is read back. -/

namespace RustMist

section Values

variable {α : Type}

/-- A reader gives back what a writer has written. -/
def Reads (read : Json → Except String α) (write : α → Json) : Prop :=
  ∀ value, read (write value) = .ok value

theorem reads_string : Reads readString .string := fun _ => rfl

theorem reads_bool : Reads readBool .bool := fun _ => rfl

theorem reads_value : Reads .ok (fun value : Json => value) := fun _ => rfl

theorem readItems_map {read : Json → Except String α} {write : α → Json} (reads : Reads read write)
    (values : List α) : readItems read (values.map write) = .ok values := by
  induction values with
  | nil => rfl
  | cons value rest ih =>
      rw [List.map_cons, readItems, reads value, ih]
      rfl

def writeList (write : α → Json) (values : List α) : Json := .array (values.map write)

theorem reads_list {read : Json → Except String α} {write : α → Json} (reads : Reads read write) :
    Reads (readList read) (writeList write) :=
  readItems_map reads

def writeMap (write : α → Json) (map : SortedMap String α) : Json :=
  .object (IndexMap.mapValues write map.entries)

theorem readEntries_mapValues {read : Json → Except String α} {write : α → Json}
    (reads : Reads read write) (entries : List (String × α)) :
    readEntries read (IndexMap.mapValues write entries) = .ok entries := by
  induction entries with
  | nil => rfl
  | cons entry rest ih =>
      obtain ⟨key, value⟩ := entry
      change readEntries read ((key, write value) :: IndexMap.mapValues write rest) = _
      rw [readEntries, reads value, ih]
      rfl

theorem reads_map {read : Json → Except String α} {write : α → Json} (reads : Reads read write) :
    Reads (readMap read) (writeMap write) := by
  intro map
  change (readEntries read (IndexMap.mapValues write map.entries) >>=
    fun entries => Except.ok (SortedMap.ofList entries)) = _
  rw [readEntries_mapValues reads]
  exact congrArg Except.ok (SortedMap.ofList_entries map)

def writeOption (write : α → Json) (value : Option α) : Json := Json.ofOption (value.map write)

theorem reads_option {read : Json → Except String α} {write : α → Json} (reads : Reads read write)
    (present : ∀ value, (write value).isNull = false) :
    Reads (readOption read) (writeOption write) := by
  intro value
  cases value with
  | none => rfl
  | some value =>
      unfold readOption writeOption
      change (if (write value).isNull then _ else (read (write value)).map some) = _
      rw [if_neg (by simp [present]), reads value]
      rfl

end Values

section Variants

variable {α : Type}

/-- The first name under which a variant is listed. -/
def nameOf [DecidableEq α] (variants : List (String × α)) (value : α) : String :=
  ((variants.find? fun entry => entry.2 = value).map Prod.fst).getD ""

def writeVariant [DecidableEq α] (variants : List (String × α)) (value : α) : Json :=
  .string (nameOf variants value)

theorem reads_capability :
    Reads (readVariant MistCapability.variants) (writeVariant MistCapability.variants) := by
  intro value
  cases value <;> rfl

theorem reads_selector :
    Reads (readVariant TargetSelector.variants) (writeVariant TargetSelector.variants) := by
  intro value
  cases value <;> rfl

theorem reads_pagination :
    Reads (readVariant PaginationMode.variants) (writeVariant PaginationMode.variants) := by
  intro value
  cases value <;> rfl

theorem reads_verification :
    Reads (readVariant VerificationPolicy.variants) (writeVariant VerificationPolicy.variants) := by
  intro value
  cases value <;> rfl

end Variants

section Records

def MistParameter.toJson (parameter : MistParameter) : Json :=
  .object [("name", .string parameter.name), ("in", .string parameter.location),
    ("required", .bool parameter.required), ("schema", parameter.schema)]

theorem reads_parameter : Reads MistParameter.read MistParameter.toJson := fun _ => rfl

/-- The members of a record without its fingerprint. -/
def MistOperation.sourceMembers (operation : MistOperation) : List (String × Json) :=
  [("operation_key", .string operation.operationKey),
    ("operation_id", .string operation.operationId), ("tool", .string operation.tool),
    ("method", .string operation.method), ("path", .string operation.path),
    ("scope", .string operation.scope), ("summary", .string operation.summary),
    ("openapi_tags", writeList .string operation.openapiTags),
    ("capability", writeVariant MistCapability.variants operation.capability),
    ("action", writeVariant MistCapability.variants operation.action),
    ("classification_reason", .string operation.classificationReason),
    ("classification_source_fingerprint", .string operation.classificationSourceFingerprint),
    ("parameters", writeList MistParameter.toJson operation.parameters),
    ("target_selectors",
      writeList (writeVariant TargetSelector.variants) operation.targetSelectors),
    ("request_media_types", writeList .string operation.requestMediaTypes),
    ("request_schemas", writeMap (fun schema => schema) operation.requestSchemas),
    ("request_body_required", .bool operation.requestBodyRequired),
    ("response_media_types", writeList .string operation.responseMediaTypes),
    ("responses", writeMap (writeMap fun schema => schema) operation.responses),
    ("pagination", writeVariant PaginationMode.variants operation.pagination),
    ("verification", writeVariant VerificationPolicy.variants operation.verification),
    ("follow_up_operation_id", writeOption .string operation.followUpOperationId),
    ("verification_predicate", writeOption .string operation.verificationPredicate),
    ("verification_reason", writeOption .string operation.verificationReason),
    ("transport", .string operation.transport)]

def MistOperation.toJson (operation : MistOperation) : Json :=
  .object (operation.sourceMembers ++
    [("source_fingerprint", .string operation.sourceFingerprint)])

/-- The reader finds every field of a written record. -/
theorem readField_toJson {α : Type} {read : Json → Except String α} {write : α → Json}
    (reads : Reads read write) {members : List (String × Json)} {name : String} {value : α}
    (found : IndexMap.get name members = some (write value)) :
    readField members name read = .ok value := by
  rw [readField, found]
  exact reads value

theorem readOptionalField_toJson {α : Type} {read : Json → Except String α} {write : α → Json}
    (reads : Reads read write) (present : ∀ value, (write value).isNull = false)
    {members : List (String × Json)} {name : String} {value : Option α}
    (found : IndexMap.get name members = some (writeOption write value)) :
    readOptionalField members name read = .ok value := by
  rw [readOptionalField, found]
  exact reads_option reads present value

theorem reads_operation : Reads MistOperation.read MistOperation.toJson := by
  intro operation
  have record : readRecord MistOperation.fields operation.toJson = .ok operation.toJson.members :=
    rfl
  have strings := reads_list reads_string
  have text (name : String) (value : String)
      (found : IndexMap.get name operation.toJson.members = some (.string value)) :
      readField operation.toJson.members name readString = .ok value :=
    readField_toJson reads_string found
  have texts (name : String) (value : List String)
      (found : IndexMap.get name operation.toJson.members = some (writeList .string value)) :
      readField operation.toJson.members name (readList readString) = .ok value :=
    readField_toJson strings found
  have optional (name : String) (value : Option String)
      (found : IndexMap.get name operation.toJson.members = some (writeOption .string value)) :
      readOptionalField operation.toJson.members name readString = .ok value :=
    readOptionalField_toJson reads_string (fun _ => rfl) found
  have capability : readField operation.toJson.members "capability" (readVariant MistCapability.variants) =
      .ok operation.capability := readField_toJson reads_capability rfl
  have action : readField operation.toJson.members "action" (readVariant MistCapability.variants) =
      .ok operation.action := readField_toJson reads_capability rfl
  have parameters : readField operation.toJson.members "parameters" (readList MistParameter.read) =
      .ok operation.parameters := readField_toJson (reads_list reads_parameter) rfl
  have selectors : readField operation.toJson.members "target_selectors" 
      (readList (readVariant TargetSelector.variants)) =
      .ok operation.targetSelectors := readField_toJson (reads_list reads_selector) rfl
  have schemas : readField operation.toJson.members "request_schemas" (readMap .ok) =
      .ok operation.requestSchemas := readField_toJson (reads_map reads_value) rfl
  have required : readField operation.toJson.members "request_body_required" readBool =
      .ok operation.requestBodyRequired := readField_toJson reads_bool rfl
  have responses : readField operation.toJson.members "responses" (readMap (readMap .ok)) =
      .ok operation.responses := readField_toJson (reads_map (reads_map reads_value)) rfl
  have pagination : readField operation.toJson.members "pagination" (readVariant PaginationMode.variants) =
      .ok operation.pagination := readField_toJson reads_pagination rfl
  have verification : readField operation.toJson.members "verification" 
      (readVariant VerificationPolicy.variants) =
      .ok operation.verification := readField_toJson reads_verification rfl
  unfold MistOperation.read
  rw [bind_of_ok record, bind_of_ok (text "operation_key" _ rfl),
    bind_of_ok (text "operation_id" _ rfl), bind_of_ok (text "tool" _ rfl),
    bind_of_ok (text "method" _ rfl), bind_of_ok (text "path" _ rfl),
    bind_of_ok (text "scope" _ rfl), bind_of_ok (text "summary" _ rfl),
    bind_of_ok (texts "openapi_tags" _ rfl), bind_of_ok capability, bind_of_ok action,
    bind_of_ok (text "classification_reason" _ rfl),
    bind_of_ok (text "classification_source_fingerprint" _ rfl), bind_of_ok parameters,
    bind_of_ok selectors, bind_of_ok (texts "request_media_types" _ rfl), bind_of_ok schemas,
    bind_of_ok required, bind_of_ok (texts "response_media_types" _ rfl), bind_of_ok responses,
    bind_of_ok pagination, bind_of_ok verification,
    bind_of_ok (optional "follow_up_operation_id" _ rfl),
    bind_of_ok (optional "verification_predicate" _ rfl),
    bind_of_ok (optional "verification_reason" _ rfl), bind_of_ok (text "transport" _ rfl),
    bind_of_ok (text "source_fingerprint" _ rfl)]

def writeUInt8 (value : UInt8) : Json := .number (.posInt value.toUInt64)

def writeUInt16 (value : UInt16) : Json := .number (.posInt value.toUInt64)

theorem reads_uint8 : Reads readUInt8 writeUInt8 := by
  intro value
  change (if value.toUInt64.toNat < 2 ^ 8 then _ else _) = _
  rw [UInt8.toNat_toUInt64, if_pos value.toNat_lt]
  simp

theorem reads_uint16 : Reads readUInt16 writeUInt16 := by
  intro value
  change (if value.toUInt64.toNat < 2 ^ 16 then _ else _) = _
  rw [UInt16.toNat_toUInt64, if_pos value.toNat_lt]
  simp

def MistCatalogSource.toJson (source : MistCatalogSource) : Json :=
  .object [("url", .string source.url), ("revision", .string source.revision),
    ("sha256", .string source.sha256), ("openapi_version", .string source.openapiVersion),
    ("api_version", .string source.apiVersion)]

def MediaAccounting.toJson (accounting : MediaAccounting) : Json :=
  .object [("json_only_operations", writeUInt16 accounting.jsonOnlyOperations),
    ("multipart_only_operations", writeUInt8 accounting.multipartOnlyOperations),
    ("mixed_media_operations", writeUInt8 accounting.mixedMediaOperations),
    ("json_media_entries", writeUInt16 accounting.jsonMediaEntries),
    ("multipart_media_entries", writeUInt8 accounting.multipartMediaEntries)]

theorem reads_accounting : Reads MediaAccounting.read MediaAccounting.toJson := by
  intro accounting
  have record : readRecord MediaAccounting.fields accounting.toJson =
      .ok accounting.toJson.members := rfl
  have small (name : String) (value : UInt8)
      (found : IndexMap.get name accounting.toJson.members = some (writeUInt8 value)) :
      readField accounting.toJson.members name readUInt8 = .ok value :=
    readField_toJson reads_uint8 found
  have large (name : String) (value : UInt16)
      (found : IndexMap.get name accounting.toJson.members = some (writeUInt16 value)) :
      readField accounting.toJson.members name readUInt16 = .ok value :=
    readField_toJson reads_uint16 found
  unfold MediaAccounting.read
  rw [bind_of_ok record, bind_of_ok (large "json_only_operations" _ rfl),
    bind_of_ok (small "multipart_only_operations" _ rfl),
    bind_of_ok (small "mixed_media_operations" _ rfl),
    bind_of_ok (large "json_media_entries" _ rfl),
    bind_of_ok (small "multipart_media_entries" _ rfl)]

def CatalogAudit.toJson (audit : CatalogAudit) : Json :=
  .object [("reference_commit", .string audit.referenceCommit),
    ("operation_wrappers", writeUInt16 audit.operationWrappers),
    ("meta_tools", writeUInt8 audit.metaTools),
    ("missing_current_operations", writeUInt8 audit.missingCurrentOperations),
    ("stale_unmatched_wrappers", writeUInt8 audit.staleUnmatchedWrappers),
    ("stale_wrapper_tools", writeList .string audit.staleWrapperTools),
    ("media_accounting", audit.mediaAccounting.toJson)]

theorem reads_audit : Reads CatalogAudit.read CatalogAudit.toJson := by
  intro audit
  have record : readRecord CatalogAudit.fields audit.toJson = .ok audit.toJson.members := rfl
  have small (name : String) (value : UInt8)
      (found : IndexMap.get name audit.toJson.members = some (writeUInt8 value)) :
      readField audit.toJson.members name readUInt8 = .ok value :=
    readField_toJson reads_uint8 found
  have commit : readField audit.toJson.members "reference_commit" readString =
      .ok audit.referenceCommit := rfl
  have wrappers : readField audit.toJson.members "operation_wrappers" readUInt16 =
      .ok audit.operationWrappers := readField_toJson reads_uint16 rfl
  have tools : readField audit.toJson.members "stale_wrapper_tools" (readList readString) =
      .ok audit.staleWrapperTools := readField_toJson (reads_list reads_string) rfl
  have accounting : readField audit.toJson.members "media_accounting" MediaAccounting.read =
      .ok audit.mediaAccounting := readField_toJson reads_accounting rfl
  unfold CatalogAudit.read
  rw [bind_of_ok record, bind_of_ok commit, bind_of_ok wrappers,
    bind_of_ok (small "meta_tools" _ rfl), bind_of_ok (small "missing_current_operations" _ rfl),
    bind_of_ok (small "stale_unmatched_wrappers" _ rfl), bind_of_ok tools, bind_of_ok accounting]

def CatalogDocument.toJson (document : CatalogDocument) : Json :=
  .object [("catalog_version", writeUInt8 document.catalogVersion),
    ("platform", .string document.platform), ("source", document.source.toJson),
    ("components", document.components),
    ("operations", writeList MistOperation.toJson document.operations),
    ("audit", document.audit.toJson)]

/-- A document is read back from its JSON value. -/
theorem reads_document : Reads CatalogDocument.read CatalogDocument.toJson := by
  intro document
  have record : readRecord CatalogDocument.fields document.toJson = .ok document.toJson.members :=
    rfl
  have version : readField document.toJson.members "catalog_version" readUInt8 =
      .ok document.catalogVersion := readField_toJson reads_uint8 rfl
  have platform : readField document.toJson.members "platform" readString =
      .ok document.platform := rfl
  have source : readField document.toJson.members "source" MistCatalogSource.read =
      .ok document.source := rfl
  have components : readField document.toJson.members "components" .ok = .ok document.components :=
    rfl
  have operations : readField document.toJson.members "operations" (readList MistOperation.read) =
      .ok document.operations := readField_toJson (reads_list reads_operation) rfl
  have audit : readField document.toJson.members "audit" CatalogAudit.read = .ok document.audit :=
    readField_toJson reads_audit rfl
  unfold CatalogDocument.read
  rw [bind_of_ok record, bind_of_ok version, bind_of_ok platform, bind_of_ok source,
    bind_of_ok components, bind_of_ok operations, bind_of_ok audit]

end Records

end RustMist
