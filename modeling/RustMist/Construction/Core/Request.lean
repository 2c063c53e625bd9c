import RustMist.Construction.Core.Pagination
import RustMist.Construction.Core.ResponseSchema

/-! The requests and responses that the catalog judges. -/

namespace RustMist

structure MistRequest where
  operationId : String
  path : SortedMap String String
  query : SortedMap String Json
  json : Option Json
  cursor : Option MistCursor

inductive MistResponseBody where
  | json (value : Json.Value)
  | text (value : String)
  | binary (value : List UInt8)
  | empty

structure MistResponse where
  operationId : String
  status : UInt16
  body : MistResponseBody
  cursor : Option MistCursor
  page : Option MistPageInfo

def MistRequest.invalid (request : MistRequest) (reason : String) : MistError :=
  .invalidRequest request.operationId reason

def MistResponse.invalid (response : MistResponse) (reason : String) : MistError :=
  .invalidResponse response.operationId reason

section Bounds

mutual

def validateValueBounds (value : Json) (depth : Nat) : Except String Unit :=
  if depth > 32 then .error "JSON value exceeds the Mist input depth bound of 32"
  else
    match value with
    | .string value =>
        if value.utf8ByteSize > 32768 then .error "JSON strings must not exceed 32768 bytes"
        else .ok ()
    | .array values =>
        if values.length > 1024 then .error "JSON arrays must not exceed 1024 members"
        else validateItemBounds values (depth + 1)
    | .object values =>
        if values.length > 1024 then .error "JSON objects must not exceed 1024 members"
        else validateMemberBounds values (depth + 1)
    | _ => .ok ()
termination_by structural value

def validateItemBounds (values : List Json) (depth : Nat) : Except String Unit :=
  match values with
  | [] => .ok ()
  | value :: rest =>
      match validateValueBounds value depth with
      | .error reason => .error reason
      | .ok () => validateItemBounds rest depth
termination_by structural values

def validateMemberBounds (members : List (String × Json)) (depth : Nat) : Except String Unit :=
  match members with
  | [] => .ok ()
  | member :: rest =>
      match validateMemberBound member depth with
      | .error reason => .error reason
      | .ok () => validateMemberBounds rest depth
termination_by structural members

def validateMemberBound (member : String × Json) (depth : Nat) : Except String Unit :=
  match member with
  | (name, value) =>
      if name.utf8ByteSize > 256 then .error "JSON object keys must not exceed 256 bytes"
      else validateValueBounds value depth
termination_by structural member

end

def validateNames (kind : String) : List String → Except String Unit
  | [] => .ok ()
  | name :: rest =>
      if name.isEmpty || name.utf8ByteSize > 256 then
        .error (kind ++ " parameter names must contain 1-256 bytes")
      else validateNames kind rest

def validatePathEntries : List (String × String) → Except String Unit
  | [] => .ok ()
  | (name, value) :: rest =>
      if name.isEmpty || name.utf8ByteSize > 256 then
        .error "path parameter names must contain 1-256 bytes"
      else if value.utf8ByteSize > 32768 then .error "path values must not exceed 32768 bytes"
      else validatePathEntries rest

def requestBoundsProblem (request : MistRequest) : Except String Unit := do
  if request.operationId.isEmpty || request.operationId.utf8ByteSize > 256 then
    throw "operation ID must contain 1-256 bytes"
  if request.path.size > 8 then throw "path values exceed the Mist input bound of 8"
  if request.query.size > 64 then throw "query values exceed the Mist input bound of 64"
  validatePathEntries request.path.entries
  validateNames "query" request.query.keys
  match request.json with
  | some json => validateValueBounds json 0
  | none => pure ()
  validateItemBounds request.query.values 0

def validateRequestBounds (request : MistRequest) : Except MistError Unit :=
  match requestBoundsProblem request with
  | .error reason => .error (request.invalid reason)
  | .ok () => .ok ()

end Bounds

section Schemas

variable [Platform]

/-- A request is judged as declared, a response by its structure only. -/
inductive Direction where
  | request
  | response
deriving DecidableEq

def jsonTypeName : Json → String
  | .null => "null"
  | .bool _ => "boolean"
  | .number _ => "number"
  | .string _ => "string"
  | .array _ => "array"
  | .object _ => "object"

def quoted (text : String) : String := "\"" ++ text ++ "\""

def formatValidationErrorKind (kind : ValidationErrorKind) (actualType : String) : String :=
  match kind with
  | .type (.single name) => "expected one of [" ++ quoted name ++ "], got " ++ actualType
  | .type (.multiple names) =>
      "expected one of [" ++ ", ".intercalate (names.map quoted) ++ "], got " ++ actualType
  | .enum options =>
      let count :=
        match options with
        | .array values => values.length
        | _ => 0
      "value (" ++ actualType ++ ") not in enum (expected one of " ++ toString count ++ " options)"
  | .additionalProperties unexpected =>
      "unexpected properties: " ++ ", ".intercalate (unexpected.map quoted)
  | .required property => "missing required property " ++ quoted (serdeToString property)
  | .format format => "value (" ++ actualType ++ ") does not match format " ++ quoted format
  | .pattern pattern => "value (string) does not match pattern " ++ quoted pattern
  | .minLength limit => "string length below minimum " ++ toString limit
  | .maxLength limit => "string length exceeds maximum " ++ toString limit
  | .minimum limit => "number below minimum " ++ serdeToString limit
  | .maximum limit => "number exceeds maximum " ++ serdeToString limit
  | .minItems limit => "array has fewer than " ++ toString limit ++ " items"
  | .maxItems limit => "array has more than " ++ toString limit ++ " items"
  | .uniqueItems => "array contains duplicate items"
  | .minProperties limit => "object has fewer than " ++ toString limit ++ " properties"
  | .maxProperties limit => "object has more than " ++ toString limit ++ " properties"
  | .other keyword => "validation failed: " ++ keyword ++ " (type: " ++ actualType ++ ")"

/-- A message names the place, the type and the rule, and never the value. -/
def describeError (error : ValidationError) : String :=
  let path := if error.instancePath.isEmpty then "(root)" else error.instancePath
  "  - field " ++ path ++ ": " ++ formatValidationErrorKind error.kind (jsonTypeName error.value)

def describeErrors (errors : List ValidationError) : String :=
  let shown := (errors.take 5).map describeError
  let message := "\n".intercalate shown
  if shown.length = 5 then
    message ++ "\n  ... (showing first 5 of potentially more errors)"
  else message

def validationRoot (catalog : Catalog) (schema : Json) : Direction → Json
  | .request => .object [("components", catalog.components), ("allOf", .array [schema])]
  | .response =>
      .object [("components", catalog.relaxedComponents),
        ("allOf", .array [relaxForResponses schema])]

/-- The result is absent when the schema does not compile. The source keeps the compiled
validators, so that each is built once. -/
def schemaMatches (catalog : Catalog) (schema value : Json) (direction : Direction) :
    Option (Except String Unit) :=
  (validatorFor (validationRoot catalog schema direction)).map fun iterErrors =>
    match iterErrors value with
    | [] => .ok ()
    | errors => .error (describeErrors errors)

def validateSchema (request : MistRequest) (catalog : Catalog) (schema value : Json) :
    Except MistError Unit :=
  match schemaMatches catalog schema value .request with
  | some (.ok ()) => .ok ()
  | some (.error details) =>
      .error (request.invalid ("value violates catalog schema:\n" ++ details))
  | none => .error (request.invalid "catalog schema compilation failed")

inductive ParameterLocation where
  | path
  | query
deriving DecidableEq

def ParameterLocation.name : ParameterLocation → String
  | .path => "path"
  | .query => "query"

def suppliedNames (request : MistRequest) : ParameterLocation → List String
  | .path => request.path.keys
  | .query => request.query.keys

def suppliedValue (request : MistRequest) (name : String) : ParameterLocation → Option Json
  | .path => (request.path.get name).map Json.string
  | .query => request.query.get name

def declaredParameters (operation : MistOperation) (location : ParameterLocation) :
    List MistParameter :=
  operation.parameters.filter fun parameter => parameter.location = location.name

def validateParameterValues (request : MistRequest) (catalog : Catalog)
    (location : ParameterLocation) : List MistParameter → Except MistError Unit
  | [] => .ok ()
  | parameter :: rest => do
      match suppliedValue request parameter.name location with
      | some value => validateSchema request catalog parameter.schema value
      | none =>
          if parameter.required then
            throw (request.invalid
              ("missing required " ++ location.name ++ " parameter: " ++ parameter.name))
      validateParameterValues request catalog location rest

def validateParameterSet (request : MistRequest) (operation : MistOperation) (catalog : Catalog)
    (location : ParameterLocation) : Except MistError Unit :=
  let declared := declaredParameters operation location
  match (suppliedNames request location).find? fun name => name ∉ declared.map (·.name) with
  | some extra =>
      .error (request.invalid ("undeclared " ++ location.name ++ " parameter: " ++ extra))
  | none => validateParameterValues request catalog location declared

def validateParameters (request : MistRequest) (operation : MistOperation) (catalog : Catalog) :
    Except MistError Unit := do
  validateParameterSet request operation catalog .path
  validateParameterSet request operation catalog .query

def validateJsonBody (request : MistRequest) (operation : MistOperation) (catalog : Catalog) :
    Except MistError Unit :=
  match request.json with
  | none =>
      if operation.requestBodyRequired then
        .error (request.invalid "operation requires an application/json request body")
      else .ok ()
  | some json =>
      match operation.requestSchemas.get "application/json" with
      | none =>
          .error (request.invalid "operation does not declare an application/json request body")
      | some schema => validateSchema request catalog schema json

def validateCursor (cursor : Option MistCursor) (operation : MistOperation) (origin : String) :
    Except MistError Unit :=
  match cursor with
  | some cursor => cursor.validateFor operation origin
  | none => .ok ()

/-- The returned request is the given one. -/
def MistRequest.validate (request : MistRequest) (catalog : Catalog) (origin : String) :
    Except MistError MistRequest := do
  validateRequestBounds request
  match catalog.operation request.operationId with
  | none => .error (.unknownOperation request.operationId)
  | some operation => do
      validateParameters request operation catalog
      validateJsonBody request operation catalog
      validateCursor request.cursor operation origin
      .ok request

end Schemas

section Responses

def MistResponseBody.toJson : MistResponseBody → Json
  | .json value => .object [("kind", .string "json"), ("value", value.val)]
  | .text value => .object [("kind", .string "text"), ("value", .string value)]
  | .binary value =>
      .object [("kind", .string "binary"),
        ("value", .array (value.map fun byte => Json.ofNat byte.toNat))]
  | .empty => .object [("kind", .string "empty")]

def MistResponse.toJson (response : MistResponse) : Json :=
  .object ([("operation_id", .string response.operationId),
    ("status", Json.ofNat response.status.toNat), ("body", response.body.toJson)] ++
    (response.cursor.map fun cursor => ("cursor", cursor.toJson)).toList ++
    (response.page.map fun page => ("page", page.toJson)).toList)

variable [Platform]

def responseBoundsProblem (response : MistResponse) : Except String Unit := do
  if response.operationId.isEmpty || response.operationId.utf8ByteSize > 256 then
    throw "operation ID must contain 1-256 bytes"
  match response.body with
  | .json value => validateValueBounds value.val 0
  | .text value =>
      if value.utf8ByteSize > 524288 then throw "text body exceeds the 524288-byte DTO bound"
  | .binary value =>
      if value.length > 524288 then throw "binary body exceeds the 524288-byte DTO bound"
  | .empty => pure ()
  if (serdeToString response.toJson).utf8ByteSize > 1048576 then
    throw "response exceeds the 1048576-byte serialized DTO bound"

def validateResponseBounds (response : MistResponse) : Except MistError Unit :=
  match responseBoundsProblem response with
  | .error reason => .error (response.invalid reason)
  | .ok () => .ok ()

def isJsonMedia (media : String) : Bool :=
  (stripPrefix "application/" media).isSome && containsText "json" media

/-- The first declared schema that the value meets decides; else all violations are told. -/
def matchResponseSchemas (catalog : Catalog) (value : Json) (allErrors : List String) :
    List (String × Json) → Except String Unit
  | [] =>
      if allErrors.isEmpty then
        .error "JSON body violates declared response schema (no details available)"
      else
        .error ("JSON body violates declared response schema:\n" ++ "\n\n".intercalate allErrors)
  | (media, schema) :: rest =>
      match schemaMatches catalog schema value .response with
      | some (.ok ()) => .ok ()
      | some (.error details) =>
          matchResponseSchemas catalog value
            (allErrors ++ ["Schema for " ++ media ++ ":\n" ++ details]) rest
      | none =>
          matchResponseSchemas catalog value
            (allErrors ++ ["Schema for " ++ media ++ ": compilation failed"]) rest

def responseBodyProblem (body : MistResponseBody) (responses : SortedMap String Json)
    (catalog : Catalog) : Except String Unit :=
  if responses.entries.isEmpty then
    match body with
    | .empty => .ok ()
    | _ => .error "declared no-content status requires an empty body"
  else
    match body with
    | .empty => .error "declared response media requires a body"
    | .json value =>
        let schemas := responses.entries.filter fun entry => isJsonMedia entry.1
        if schemas.isEmpty then .error "JSON body does not match declared response media"
        else matchResponseSchemas catalog value.val [] schemas
    | .text _ =>
        if responses.keys.any fun media => (stripPrefix "text/" media).isSome then .ok ()
        else .error "text body does not match declared response media"
    | .binary _ =>
        if responses.contains "application/octet-stream" then .ok ()
        else .error "binary body does not match declared response media"

def validateResponseBody (response : MistResponse) (responses : SortedMap String Json)
    (catalog : Catalog) : Except MistError Unit :=
  match responseBodyProblem response.body responses catalog with
  | .error reason => .error (response.invalid reason)
  | .ok () => .ok ()

/-- The returned response is the given one. -/
def MistResponse.validate (response : MistResponse) (catalog : Catalog) (origin : String) :
    Except MistError MistResponse :=
  match catalog.operation response.operationId with
  | none => .error (.unknownOperation response.operationId)
  | some operation =>
      match operation.responses.get (toString response.status.toNat) with
      | none => .error (response.invalid "status is not declared for operation")
      | some responses => do
          validateResponseBounds response
          validateResponseBody response responses catalog
          validateCursor response.cursor operation origin
          .ok response

end Responses

end RustMist
