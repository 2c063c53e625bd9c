import RustMist.Construction.Core.Catalog

/-! The catalog document as a JSON text. -/

namespace RustMist

section Readers

/-! The readers give a short reason where the source gives the text of its JSON reader. -/

variable {α : Type}

def readString : Json → Except String String
  | .string value => .ok value
  | _ => .error "expected a string"

def readBool : Json → Except String Bool
  | .bool value => .ok value
  | _ => .error "expected a boolean"

def readUInt8 (json : Json) : Except String UInt8 :=
  match json.asUInt64 with
  | some value => if value.toNat < 2 ^ 8 then .ok value.toUInt8 else .error "expected u8"
  | none => .error "expected u8"

def readUInt16 (json : Json) : Except String UInt16 :=
  match json.asUInt64 with
  | some value => if value.toNat < 2 ^ 16 then .ok value.toUInt16 else .error "expected u16"
  | none => .error "expected u16"

def readItems (read : Json → Except String α) : List Json → Except String (List α)
  | [] => .ok []
  | value :: rest => do
      let item ← read value
      let items ← readItems read rest
      .ok (item :: items)

def readList (read : Json → Except String α) : Json → Except String (List α)
  | .array values => readItems read values
  | _ => .error "expected a sequence"

def readEntries (read : Json → Except String α) :
    List (String × Json) → Except String (List (String × α))
  | [] => .ok []
  | (key, value) :: rest => do
      let item ← read value
      let items ← readEntries read rest
      .ok ((key, item) :: items)

def readMap (read : Json → Except String α) : Json → Except String (SortedMap String α)
  | .object members => do
      let entries ← readEntries read members
      .ok (SortedMap.ofList entries)
  | _ => .error "expected a map"

def readOption (read : Json → Except String α) (json : Json) : Except String (Option α) :=
  if json.isNull then .ok none else (read json).map some

/-- A variant is its name, alone or as the key of a null. -/
def readVariant (variants : List (String × α)) (json : Json) : Except String α :=
  let name :=
    match json with
    | .string name => some name
    | .object [(name, .null)] => some name
    | _ => none
  match name.bind fun name => IndexMap.get name variants with
  | some variant => .ok variant
  | none => .error "unknown variant"

/-- A record is an object with no other members than its fields, or the list of their values. -/
def readRecord (fields : List String) : Json → Except String (List (String × Json))
  | .object members =>
      if (IndexMap.keys members).all (· ∈ fields) then .ok members else .error "unknown field"
  | .array values =>
      if values.length = fields.length then .ok (fields.zip values) else .error "invalid length"
  | _ => .error "expected a record"

def readField (members : List (String × Json)) (name : String) (read : Json → Except String α) :
    Except String α :=
  match IndexMap.get name members with
  | some value => read value
  | none => .error ("missing field " ++ name)

/-- An absent optional field is the same as a null. -/
def readOptionalField (members : List (String × Json)) (name : String)
    (read : Json → Except String α) : Except String (Option α) :=
  match IndexMap.get name members with
  | some value => readOption read value
  | none => .ok none

end Readers

section Variants

def MistCapability.variants : List (String × MistCapability) :=
  [("ordinary_read", .ordinaryRead), ("privileged_read", .privilegedRead), ("create", .create),
    ("update", .update), ("delete", .delete), ("execute", .execute)]

def TargetSelector.variants : List (String × TargetSelector) :=
  [("none", .none), ("org", .org), ("site", .site), ("msp", .msp)]

def PaginationMode.variants : List (String × PaginationMode) :=
  [("none", .none), ("page_limit", .pageLimit), ("search_after", .searchAfter)]

def VerificationPolicy.variants : List (String × VerificationPolicy) :=
  [("none", .none), ("api_acknowledged", .apiAcknowledged), ("follow_up_read", .followUpRead)]

end Variants

section Records

def MistCatalogSource.fields : List String :=
  ["url", "revision", "sha256", "openapi_version", "api_version"]

def MistCatalogSource.read (json : Json) : Except String MistCatalogSource := do
  let members ← readRecord MistCatalogSource.fields json
  let url ← readField members "url" readString
  let revision ← readField members "revision" readString
  let sha256 ← readField members "sha256" readString
  let openapiVersion ← readField members "openapi_version" readString
  let apiVersion ← readField members "api_version" readString
  .ok { url, revision, sha256, openapiVersion, apiVersion }

def MistParameter.fields : List String := ["name", "in", "required", "schema"]

def MistParameter.read (json : Json) : Except String MistParameter := do
  let members ← readRecord MistParameter.fields json
  let name ← readField members "name" readString
  let location ← readField members "in" readString
  let required ← readField members "required" readBool
  let schema ← readField members "schema" .ok
  .ok { name, location, required, schema }

def MistOperation.fields : List String :=
  ["operation_key", "operation_id", "tool", "method", "path", "scope", "summary", "openapi_tags",
    "capability", "action", "classification_reason", "classification_source_fingerprint",
    "parameters", "target_selectors", "request_media_types", "request_schemas",
    "request_body_required", "response_media_types", "responses", "pagination", "verification",
    "follow_up_operation_id", "verification_predicate", "verification_reason", "transport",
    "source_fingerprint"]

def MistOperation.read (json : Json) : Except String MistOperation := do
  let members ← readRecord MistOperation.fields json
  let operationKey ← readField members "operation_key" readString
  let operationId ← readField members "operation_id" readString
  let tool ← readField members "tool" readString
  let method ← readField members "method" readString
  let path ← readField members "path" readString
  let scope ← readField members "scope" readString
  let summary ← readField members "summary" readString
  let openapiTags ← readField members "openapi_tags" (readList readString)
  let capability ← readField members "capability" (readVariant MistCapability.variants)
  let action ← readField members "action" (readVariant MistCapability.variants)
  let classificationReason ← readField members "classification_reason" readString
  let classificationSourceFingerprint ←
    readField members "classification_source_fingerprint" readString
  let parameters ← readField members "parameters" (readList MistParameter.read)
  let targetSelectors ←
    readField members "target_selectors" (readList (readVariant TargetSelector.variants))
  let requestMediaTypes ← readField members "request_media_types" (readList readString)
  let requestSchemas ← readField members "request_schemas" (readMap .ok)
  let requestBodyRequired ← readField members "request_body_required" readBool
  let responseMediaTypes ← readField members "response_media_types" (readList readString)
  let responses ← readField members "responses" (readMap (readMap .ok))
  let pagination ← readField members "pagination" (readVariant PaginationMode.variants)
  let verification ← readField members "verification" (readVariant VerificationPolicy.variants)
  let followUpOperationId ← readOptionalField members "follow_up_operation_id" readString
  let verificationPredicate ← readOptionalField members "verification_predicate" readString
  let verificationReason ← readOptionalField members "verification_reason" readString
  let transport ← readField members "transport" readString
  let sourceFingerprint ← readField members "source_fingerprint" readString
  .ok {
    operationKey, operationId, tool, method, path, scope, summary, openapiTags, capability, action,
    classificationReason, classificationSourceFingerprint, parameters, targetSelectors,
    requestMediaTypes, requestSchemas, requestBodyRequired, responseMediaTypes, responses,
    pagination, verification, followUpOperationId, verificationPredicate, verificationReason,
    transport, sourceFingerprint }

def MediaAccounting.fields : List String :=
  ["json_only_operations", "multipart_only_operations", "mixed_media_operations",
    "json_media_entries", "multipart_media_entries"]

def MediaAccounting.read (json : Json) : Except String MediaAccounting := do
  let members ← readRecord MediaAccounting.fields json
  let jsonOnlyOperations ← readField members "json_only_operations" readUInt16
  let multipartOnlyOperations ← readField members "multipart_only_operations" readUInt8
  let mixedMediaOperations ← readField members "mixed_media_operations" readUInt8
  let jsonMediaEntries ← readField members "json_media_entries" readUInt16
  let multipartMediaEntries ← readField members "multipart_media_entries" readUInt8
  .ok {
    jsonOnlyOperations, multipartOnlyOperations, mixedMediaOperations, jsonMediaEntries,
    multipartMediaEntries }

def CatalogAudit.fields : List String :=
  ["reference_commit", "operation_wrappers", "meta_tools", "missing_current_operations",
    "stale_unmatched_wrappers", "stale_wrapper_tools", "media_accounting"]

def CatalogAudit.read (json : Json) : Except String CatalogAudit := do
  let members ← readRecord CatalogAudit.fields json
  let referenceCommit ← readField members "reference_commit" readString
  let operationWrappers ← readField members "operation_wrappers" readUInt16
  let metaTools ← readField members "meta_tools" readUInt8
  let missingCurrentOperations ← readField members "missing_current_operations" readUInt8
  let staleUnmatchedWrappers ← readField members "stale_unmatched_wrappers" readUInt8
  let staleWrapperTools ← readField members "stale_wrapper_tools" (readList readString)
  let mediaAccounting ← readField members "media_accounting" MediaAccounting.read
  .ok {
    referenceCommit, operationWrappers, metaTools, missingCurrentOperations,
    staleUnmatchedWrappers, staleWrapperTools, mediaAccounting }

def CatalogDocument.fields : List String :=
  ["catalog_version", "platform", "source", "components", "operations", "audit"]

def CatalogDocument.read (json : Json) : Except String CatalogDocument := do
  let members ← readRecord CatalogDocument.fields json
  let catalogVersion ← readField members "catalog_version" readUInt8
  let platform ← readField members "platform" readString
  let source ← readField members "source" MistCatalogSource.read
  let components ← readField members "components" .ok
  let operations ← readField members "operations" (readList MistOperation.read)
  let audit ← readField members "audit" CatalogAudit.read
  .ok { catalogVersion, platform, source, components, operations, audit }

end Records

section Loading

variable [Platform]

/-- Whether a parse recomputes the fingerprint of every operation. -/
inductive Fingerprints where
  | verify
  | trust
deriving DecidableEq

/-- A member that the text repeats is refused by the source; here its last value stays. -/
def Catalog.parse (json : String) (fingerprints : Fingerprints) : Except CatalogError Catalog :=
  match serdeFromStr json with
  | .error reason => .error (.json reason)
  | .ok raw =>
      match CatalogDocument.read raw with
      | .error reason => .error (.json reason)
      | .ok document => do
          validateDocument document
          Catalog.parseDocument document (if fingerprints = .verify then some raw else none)

def Catalog.fromJson (json : String) : Except CatalogError Catalog := Catalog.parse json .verify

end Loading

end RustMist
