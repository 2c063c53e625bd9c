import RustMist.Construction.Core.Platform
import RustMist.Library.Replace
import RustMist.Library.SortedMap

/-! The operation catalog and the checks that its loader makes. -/

namespace RustMist

inductive CatalogError where
  | json (reason : String)
  | invalid (reason : String)
  /-- The source prints the identifier in its debug format. -/
  | unsafeOperationId (operationId : String)
  /-- The source prints the name in its debug format. -/
  | unsafeToolName (name : String)
deriving DecidableEq

structure MistCatalogSource where
  url : String
  revision : String
  sha256 : String
  openapiVersion : String
  apiVersion : String
deriving DecidableEq

inductive MistCapability where
  | ordinaryRead
  | privilegedRead
  | create
  | update
  | delete
  | execute
deriving DecidableEq, Repr

/-- A grant names an action by the same six classes. -/
abbrev MistAction := MistCapability

inductive TargetSelector where
  | none
  | org
  | site
  | msp
deriving DecidableEq, Repr

inductive PaginationMode where
  | none
  | pageLimit
  | searchAfter
deriving DecidableEq, Repr

inductive VerificationPolicy where
  | none
  | apiAcknowledged
  | followUpRead
deriving DecidableEq, Repr

structure MistParameter where
  name : String
  location : String
  required : Bool
  schema : Json

structure MistOperation where
  operationKey : String
  operationId : String
  tool : String
  method : String
  path : String
  scope : String
  summary : String
  openapiTags : List String
  capability : MistCapability
  action : MistAction
  classificationReason : String
  classificationSourceFingerprint : String
  parameters : List MistParameter
  targetSelectors : List TargetSelector
  requestMediaTypes : List String
  requestSchemas : SortedMap String Json
  requestBodyRequired : Bool
  responseMediaTypes : List String
  responses : SortedMap String (SortedMap String Json)
  pagination : PaginationMode
  verification : VerificationPolicy
  followUpOperationId : Option String
  verificationPredicate : Option String
  verificationReason : Option String
  transport : String
  sourceFingerprint : String

structure MediaAccounting where
  jsonOnlyOperations : UInt16
  multipartOnlyOperations : UInt8
  mixedMediaOperations : UInt8
  jsonMediaEntries : UInt16
  multipartMediaEntries : UInt8
deriving DecidableEq

structure CatalogAudit where
  referenceCommit : String
  operationWrappers : UInt16
  metaTools : UInt8
  missingCurrentOperations : UInt8
  staleUnmatchedWrappers : UInt8
  staleWrapperTools : List String
  mediaAccounting : MediaAccounting
deriving DecidableEq

structure CatalogDocument where
  catalogVersion : UInt8
  platform : String
  source : MistCatalogSource
  components : Json
  operations : List MistOperation
  audit : CatalogAudit

structure Catalog where
  source : MistCatalogSource
  components : Json
  operations : List MistOperation
  audit : CatalogAudit
  operationIndex : SortedMap String Nat

/-- An operation is looked up through the index of its identifier. -/
def Catalog.operation (catalog : Catalog) (operationId : String) : Option MistOperation :=
  (catalog.operationIndex.get operationId).bind fun index => catalog.operations[index]?

section ToolNames

def replaceAll (pattern replacement text : String) : String :=
  String.ofList (Pattern.replace pattern.toList replacement.toList text.toList)

/-- A word starts at a capital letter that follows a small letter or a digit, or that ends a run
of capitals. -/
def toolWords (previous : Option Char) (word : List Char) : List Char → List (List Char)
  | [] => if word.isEmpty then [] else [word]
  | character :: rest =>
      let boundary := character.isUpper && previous.any fun value =>
        value.isLower || value.isDigit || (value.isUpper && rest.head?.any Char.isLower)
      if boundary then word :: toolWords (some character) [character] rest
      else toolWords (some character) (word ++ [character]) rest

def toolName (operationId : String) : Except CatalogError String :=
  if operationId.isEmpty || !operationId.toList.head?.any Char.isAlpha ||
      !operationId.toList.all Char.isAlphanum then
    .error (.unsafeOperationId operationId)
  else
    let operationId := replaceAll "OAuth2" "Oauth2" operationId
    let operationId := replaceAll "OAUTH2" "Oauth2" operationId
    let operationId := replaceAll "WiFi" "Wifi" operationId
    let operationId := replaceAll "WIFI" "Wifi" operationId
    let operationId := replaceAll "IoT" "Iot" operationId
    let operationId := replaceAll "IOT" "Iot" operationId
    let operationId := replaceAll "AOSCX" "Aoscx" operationId
    let words := (toolWords none [] operationId.toList).map fun word =>
      String.ofList (word.map Char.toLower)
    let name := "mist_" ++ "_".intercalate words
    if name.toList.all fun character => character.isLower || character.isDigit || character = '_'
    then .ok name
    else .error (.unsafeToolName name)

end ToolNames

section OperationChecks

/-- The pieces of a text between the separators. -/
def splitText (separator : Char) (text : String) : List String :=
  (text.toList.splitOn separator).map String.ofList

def stripPrefix (start text : String) : Option String :=
  if start.toList.isPrefixOf text.toList then some (String.ofList (text.toList.drop start.length))
  else none

/-- A placeholder segment is a name in braces. -/
def placeholderName (segment : String) : Option String :=
  match segment.toList with
  | '{' :: rest => if rest.getLast? = some '}' then some (String.ofList rest.dropLast) else none
  | _ => none

def safeSegment (segment : String) : Bool :=
  if segment.isEmpty || segment = "." || segment = ".." then false
  else
    match placeholderName segment with
    | some parameter =>
        !parameter.isEmpty && parameter.toList.head?.any Char.isAlpha &&
          parameter.toList.all fun character => character.isAlphanum || character = '_'
    | none => !segment.toList.contains '{' && !segment.toList.contains '}'

def safePath (path : String) : Bool :=
  match stripPrefix "/api/v1/" path with
  | none => false
  | some rest =>
      !rest.isEmpty && !path.toList.contains '?' && !path.toList.contains '#' &&
        (splitText '/' rest).all safeSegment

def scopeForPath (path : String) : Option String :=
  (stripPrefix "/api/v1/" path).bind fun rest => (splitText '/' rest).head?

def containsText (pattern text : String) : Bool := Pattern.occurs pattern.toList text.toList

def targetsForPath (path : String) : List TargetSelector :=
  let targets :=
    (if containsText "{org_id}" path then [TargetSelector.org] else []) ++
    (if containsText "{site_id}" path then [TargetSelector.site] else []) ++
    (if containsText "{msp_id}" path then [TargetSelector.msp] else [])
  if targets.isEmpty then [.none] else targets

def methodAllowsAction (method : String) (action : MistAction) : Bool :=
  match method with
  | "GET" => action ∈ [.ordinaryRead, .privilegedRead, .update, .execute]
  | "PUT" => action ∈ [.update, .execute]
  | "PATCH" => action ∈ [.update, .execute]
  | "DELETE" => action = .delete
  | "POST" => action ∈ [.create, .update, .delete, .execute]
  | _ => false

def canonicalRequestMedia (schemas : SortedMap String Json) : Except CatalogError (List String) :=
  if schemas.keys.any fun media => media ≠ "application/json" && media ≠ "multipart/form-data" then
    .error (.invalid "unsupported request media")
  else .ok schemas.keys

def transportForMedia : List String → Except CatalogError String
  | [] => .ok "none"
  | ["application/json"] => .ok "json"
  | ["multipart/form-data"] => .ok "multipart"
  | ["application/json", "multipart/form-data"] => .ok "content_type_select"
  | _ => .error (.invalid "unsupported request-media combination")

def paginationForParameters (parameters : List MistParameter) : PaginationMode :=
  let names := (parameters.filter fun parameter => parameter.location = "query").map (·.name)
  if "search_after" ∈ names then .searchAfter
  else if "page" ∈ names ∨ "limit" ∈ names then .pageLimit
  else .none

/-- The media of all responses, each once and in order. -/
def responseMedia (responses : SortedMap String (SortedMap String Json)) : List String :=
  (SortedMap.ofList ((responses.values.flatMap SortedMap.keys).map fun media => (media, ()))).keys

def isLowerHexDigest (value : String) : Bool :=
  value.utf8ByteSize = 64 && value.toList.all Hex.isLowerDigit

/-- This check stops with the error when the condition fails. -/
def require (condition : Bool) (error : CatalogError) : Except CatalogError Unit :=
  if condition then .ok () else .error error

def validateOperation (operation : MistOperation) (previousKey : Option String) :
    Except CatalogError Unit := do
  let invalid := CatalogError.invalid ("invalid operation record: " ++ operation.operationId)
  require (!previousKey.any (operation.operationKey ≤ ·)) invalid
  require (safePath operation.path) invalid
  require (operation.operationKey = operation.method ++ " " ++ operation.path) invalid
  require (scopeForPath operation.path = some operation.scope) invalid
  require ((← toolName operation.operationId) = operation.tool) invalid
  require (operation.method ∈ ["GET", "POST", "PUT", "PATCH", "DELETE"]) invalid
  require (operation.capability = operation.action) invalid
  require (!operation.classificationReason.isEmpty) invalid
  require (isLowerHexDigest operation.classificationSourceFingerprint) invalid
  require (methodAllowsAction operation.method operation.action) invalid
  require (operation.targetSelectors = targetsForPath operation.path) invalid
  require (operation.requestMediaTypes = (← canonicalRequestMedia operation.requestSchemas)) invalid
  require (!(operation.requestBodyRequired && operation.requestMediaTypes.isEmpty)) invalid
  require (operation.transport = (← transportForMedia operation.requestMediaTypes)) invalid
  require (operation.pagination = paginationForParameters operation.parameters) invalid
  require (responseMedia operation.responses = operation.responseMediaTypes) invalid
  require (operation.parameters.all fun parameter => parameter.schema.isObject) invalid
  require (operation.requestSchemas.values.all Json.isObject) invalid
  require (operation.responses.values.all fun media => media.values.all Json.isObject) invalid
  require (isLowerHexDigest operation.sourceFingerprint)
    (.invalid ("invalid source fingerprint syntax: " ++ operation.operationId))

def validateVerificationOf (operations : List MistOperation) (index : SortedMap String Nat)
    (operation : MistOperation) : Except CatalogError Unit :=
  let invalid := Except.error
    (.invalid ("invalid verification policy for " ++ operation.operationId))
  match operation.verification with
  | .none =>
      if operation.action ∈ [MistCapability.ordinaryRead, .privilegedRead] ∧
          operation.followUpOperationId.isNone ∧ operation.verificationPredicate.isNone ∧
          operation.verificationReason.isNone then .ok ()
      else invalid
  | .followUpRead =>
      if operation.verificationReason.isNone ∧
          operation.verificationPredicate = some "request_projection_equals_response" then
        match operation.followUpOperationId with
        | none => .error (.invalid ("missing follow-up read for " ++ operation.operationId))
        | some followUpId =>
            match (index.get followUpId).bind fun index => operations[index]? with
            | none => .error (.invalid ("unknown follow-up read for " ++ operation.operationId))
            | some followUp =>
                if followUp.method ≠ "GET" then
                  .error (.invalid ("non-read follow-up for " ++ operation.operationId))
                else .ok ()
      else invalid
  | .apiAcknowledged =>
      if operation.followUpOperationId.isNone ∧ operation.verificationPredicate.isNone ∧
          operation.verificationReason.any (!·.isEmpty) then .ok ()
      else invalid

def validateVerification (operations : List MistOperation) (index : SortedMap String Nat) :
    Except CatalogError Unit :=
  operations.forM (validateVerificationOf operations index)

end OperationChecks

section DocumentChecks

/-- These are the source facts that a catalog must state. -/
def auditedSource : MistCatalogSource where
  url := "https://raw.githubusercontent.com/mistsys/mist_openapi/master/mist.openapi.json"
  revision := "feeb569a409dcc5119c4d8935c99cc46d482d770"
  sha256 := "22f55432535ab38f6c0539392a729b8fd515a9ccae9df693fbd4ff23d40b8fac"
  openapiVersion := "3.1.0"
  apiVersion := "2609.1.0"

/-- These are the frozen facts that a catalog must state. -/
def frozenAudit : CatalogAudit where
  referenceCommit := "2b91700b9049c2c27ce6a811a272f2ddfa8091e5"
  operationWrappers := 1050
  metaTools := 3
  missingCurrentOperations := 25
  staleUnmatchedWrappers := 3
  staleWrapperTools := ["mist_count_site_client_fingerprints", "mist_get_org_aos_register_cmd",
    "mist_search_site_client_fingerprints"]
  mediaAccounting := {
    jsonOnlyOperations := 337
    multipartOnlyOperations := 16
    mixedMediaOperations := 7
    jsonMediaEntries := 344
    multipartMediaEntries := 23 }

def validateDocument (document : CatalogDocument) : Except CatalogError Unit := do
  require (document.catalogVersion = 1 && document.platform = "mist" &&
      document.source = auditedSource && document.operations.length = 1072)
    (.invalid "unexpected catalog source or operation count")
  require (document.audit = frozenAudit && document.components.isObject)
    (.invalid "unexpected frozen audit or components registry")

end DocumentChecks

section Fingerprints

mutual

/-- The members of every object are put in key order. -/
def canonicalJson : Json → Json
  | .array values => .array (canonicalValues values)
  | .object members => .object (SortedMap.ofList (canonicalMembers members)).entries
  | value => value
termination_by structural json => json

def canonicalValues : List Json → List Json
  | [] => []
  | value :: rest => canonicalJson value :: canonicalValues rest
termination_by structural values => values

def canonicalMembers : List (String × Json) → List (String × Json)
  | [] => []
  | member :: rest => canonicalMember member :: canonicalMembers rest
termination_by structural members => members

def canonicalMember : String × Json → String × Json
  | (key, value) => (key, canonicalJson value)
termination_by structural member => member

end

variable [Platform]

def rawOperationFingerprint (operation : Json) : Except CatalogError String :=
  match operation with
  | .object members =>
      let value := Json.object (IndexMap.swapRemove "source_fingerprint" members)
      .ok (sha256Hex (serdeToString (canonicalJson value) ++ "\n"))
  | _ => .error (.invalid "operation serialization is not an object")

/-- The record of an operation as the document's text holds it. -/
def rawOperation (raw : Json) (index : Nat) : Option Json :=
  match raw.get "operations" with
  | some (.array operations) => operations[index]?
  | _ => none

def checkFingerprint (raw : Json) (index : Nat) (operation : MistOperation) :
    Except CatalogError Unit :=
  match rawOperation raw index with
  | none => .error (.invalid "raw operation record is absent")
  | some record => do
      let fingerprint ← rawOperationFingerprint record
      require (fingerprint = operation.sourceFingerprint)
        (.invalid ("invalid source fingerprint: " ++ operation.operationId ++ " expected " ++
          operation.sourceFingerprint ++ " got " ++ fingerprint))

/-- The operations that the loop has passed. -/
structure LoadState where
  ids : List String
  keys : List String
  tools : List String
  previousKey : Option String
  operationIndex : SortedMap String Nat

def LoadState.start : LoadState := ⟨[], [], [], none, ∅⟩

def LoadState.advance (state : LoadState) (index : Nat) (operation : MistOperation) : LoadState where
  ids := operation.operationId :: state.ids
  keys := operation.operationKey :: state.keys
  tools := operation.tool :: state.tools
  previousKey := some operation.operationKey
  operationIndex := state.operationIndex.insert operation.operationId index

/-- One round of the loop; the fingerprint is checked where the raw document is given. -/
def loadOperation (raw : Option Json) (state : LoadState) (index : Nat)
    (operation : MistOperation) : Except CatalogError LoadState := do
  require (operation.operationId ∉ state.ids && operation.operationKey ∉ state.keys &&
      operation.tool ∉ state.tools)
    (.invalid "operation IDs, keys, and tools must be unique")
  validateOperation operation state.previousKey
  match raw with
  | some raw => checkFingerprint raw index operation
  | none => .ok ()
  .ok (state.advance index operation)

def loadOperations (raw : Option Json) (state : LoadState) (index : Nat) :
    List MistOperation → Except CatalogError LoadState
  | [] => .ok state
  | operation :: rest => do
      let state ← loadOperation raw state index operation
      loadOperations raw state (index + 1) rest

/-- The checks of a document once it is read. -/
def Catalog.parseDocument (document : CatalogDocument) (raw : Option Json) :
    Except CatalogError Catalog := do
  let state ← loadOperations raw .start 0 document.operations
  validateVerification document.operations state.operationIndex
  .ok {
    source := document.source
    components := document.components
    operations := document.operations
    audit := document.audit
    operationIndex := state.operationIndex }

end Fingerprints

end RustMist
