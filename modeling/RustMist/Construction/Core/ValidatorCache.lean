import RustMist.Construction.Core.Request
import RustMist.Library.Memo

/-! The validation of requests and responses with the compiled validators that a catalog keeps. -/

namespace RustMist

open Effects

/-- This is the declared schema that a validator was compiled for. -/
inductive SchemaSlot where
  | requestBody
  | requestParameter (location name : String)
  | responseBody (status media : String)
deriving DecidableEq

structure ValidatorKey where
  operation : String
  slot : SchemaSlot
deriving DecidableEq

variable [Platform]

/-- A validator remembers the schema that it was compiled from. -/
structure Validator where
  root : Json
  iterErrors : Json → List ValidationError
  compiled : validatorFor root = some iterErrors

def compileValidator (root : Json) : Option Validator :=
  match compiled : validatorFor root with
  | some iterErrors => some ⟨root, iterErrors, compiled⟩
  | none => none

/-- The operations on the kept validators: the read lock, then the write lock. The root that a miss
compiles is carried along with the read. -/
abbrev cacheSignature : Signature := Memo.signature ValidatorKey Json Validator

abbrev cacheWorld : World cacheSignature := Memo.world ValidatorKey Json Validator

def cachedValidator (operation : String) (slot : SchemaSlot) (root : Json) :
    Program cacheSignature (Option Validator) :=
  Memo.fetch compileValidator ⟨operation, slot⟩ root

namespace Cached

def schemaMatches (catalog : Catalog) (operation : String) (slot : SchemaSlot)
    (schema value : Json) (direction : Direction) :
    Program cacheSignature (Option (Except String Unit)) := do
  let validator ← cachedValidator operation slot (validationRoot catalog schema direction)
  .pure (validator.map fun validator =>
    match validator.iterErrors value with
    | [] => .ok ()
    | errors => .error (describeErrors errors))

def validateSchema (request : MistRequest) (catalog : Catalog) (operation : String)
    (slot : SchemaSlot) (schema value : Json) : Program cacheSignature (Except MistError Unit) := do
  match ← schemaMatches catalog operation slot schema value .request with
  | some (.ok ()) => .pure (.ok ())
  | some (.error details) =>
      .pure (.error (request.invalid ("value violates catalog schema:\n" ++ details)))
  | none => .pure (.error (request.invalid "catalog schema compilation failed"))

def validateParameterValue (request : MistRequest) (operation : MistOperation) (catalog : Catalog)
    (location : ParameterLocation) (parameter : MistParameter) :
    Program cacheSignature (Except MistError Unit) :=
  match suppliedValue request parameter.name location with
  | some value =>
      validateSchema request catalog operation.operationKey
        (.requestParameter location.name parameter.name) parameter.schema value
  | none =>
      if parameter.required then
        .pure (.error (request.invalid
          ("missing required " ++ location.name ++ " parameter: " ++ parameter.name)))
      else .pure (.ok ())

def validateParameterValues (request : MistRequest) (operation : MistOperation)
    (catalog : Catalog) (location : ParameterLocation) :
    List MistParameter → Program cacheSignature (Except MistError Unit)
  | [] => .pure (.ok ())
  | parameter :: rest => do
      match ← validateParameterValue request operation catalog location parameter with
      | .error problem => .pure (.error problem)
      | .ok () => validateParameterValues request operation catalog location rest

def validateParameterSet (request : MistRequest) (operation : MistOperation) (catalog : Catalog)
    (location : ParameterLocation) : Program cacheSignature (Except MistError Unit) :=
  let declared := declaredParameters operation location
  match (suppliedNames request location).find? fun name => name ∉ declared.map (·.name) with
  | some extra =>
      .pure (.error (request.invalid ("undeclared " ++ location.name ++ " parameter: " ++ extra)))
  | none => validateParameterValues request operation catalog location declared

def validateParameters (request : MistRequest) (operation : MistOperation) (catalog : Catalog) :
    Program cacheSignature (Except MistError Unit) := do
  match ← validateParameterSet request operation catalog .path with
  | .error problem => .pure (.error problem)
  | .ok () => validateParameterSet request operation catalog .query

def validateJsonBody (request : MistRequest) (operation : MistOperation) (catalog : Catalog) :
    Program cacheSignature (Except MistError Unit) :=
  match request.json with
  | none =>
      if operation.requestBodyRequired then
        .pure (.error (request.invalid "operation requires an application/json request body"))
      else .pure (.ok ())
  | some json =>
      match operation.requestSchemas.get "application/json" with
      | none =>
          .pure (.error
            (request.invalid "operation does not declare an application/json request body"))
      | some schema =>
          validateSchema request catalog operation.operationKey .requestBody schema json

def validateRequest (request : MistRequest) (catalog : Catalog) (origin : String) :
    Program cacheSignature (Except MistError MistRequest) :=
  match validateRequestBounds request with
  | .error problem => .pure (.error problem)
  | .ok () =>
      match catalog.operation request.operationId with
      | none => .pure (.error (.unknownOperation request.operationId))
      | some operation => do
          match ← validateParameters request operation catalog with
          | .error problem => .pure (.error problem)
          | .ok () =>
              match ← validateJsonBody request operation catalog with
              | .error problem => .pure (.error problem)
              | .ok () =>
                  match validateCursor request.cursor operation origin with
                  | .error problem => .pure (.error problem)
                  | .ok () => .pure (.ok request)

def matchResponseSchemas (response : MistResponse) (catalog : Catalog) (value : Json)
    (allErrors : List String) :
    List (String × Json) → Program cacheSignature (Except String Unit)
  | [] =>
      if allErrors.isEmpty then
        .pure (.error "JSON body violates declared response schema (no details available)")
      else
        .pure (.error ("JSON body violates declared response schema:\n" ++
          "\n\n".intercalate allErrors))
  | (media, schema) :: rest => do
      match ← schemaMatches catalog response.operationId
          (.responseBody (toString response.status.toNat) media) schema value .response with
      | some (.ok ()) => .pure (.ok ())
      | some (.error details) =>
          matchResponseSchemas response catalog value
            (allErrors ++ ["Schema for " ++ media ++ ":\n" ++ details]) rest
      | none =>
          matchResponseSchemas response catalog value
            (allErrors ++ ["Schema for " ++ media ++ ": compilation failed"]) rest

def responseBodyProblem (response : MistResponse) (responses : SortedMap String Json)
    (catalog : Catalog) : Program cacheSignature (Except String Unit) :=
  if responses.entries.isEmpty then
    match response.body with
    | .empty => .pure (.ok ())
    | _ => .pure (.error "declared no-content status requires an empty body")
  else
    match response.body with
    | .empty => .pure (.error "declared response media requires a body")
    | .json value =>
        let schemas := responses.entries.filter fun entry => isJsonMedia entry.1
        if schemas.isEmpty then
          .pure (.error "JSON body does not match declared response media")
        else matchResponseSchemas response catalog value.val [] schemas
    | .text _ =>
        if responses.keys.any fun media => (stripPrefix "text/" media).isSome then .pure (.ok ())
        else .pure (.error "text body does not match declared response media")
    | .binary _ =>
        if responses.contains "application/octet-stream" then .pure (.ok ())
        else .pure (.error "binary body does not match declared response media")

def validateResponseBody (response : MistResponse) (responses : SortedMap String Json)
    (catalog : Catalog) : Program cacheSignature (Except MistError Unit) := do
  match ← responseBodyProblem response responses catalog with
  | .error reason => .pure (.error (response.invalid reason))
  | .ok () => .pure (.ok ())

def validateResponse (response : MistResponse) (catalog : Catalog) (origin : String) :
    Program cacheSignature (Except MistError MistResponse) :=
  match catalog.operation response.operationId with
  | none => .pure (.error (.unknownOperation response.operationId))
  | some operation =>
      match operation.responses.get (toString response.status.toNat) with
      | none => .pure (.error (response.invalid "status is not declared for operation"))
      | some responses =>
          match validateResponseBounds response with
          | .error problem => .pure (.error problem)
          | .ok () => do
              match ← validateResponseBody response responses catalog with
              | .error problem => .pure (.error problem)
              | .ok () =>
                  match validateCursor response.cursor operation origin with
                  | .error problem => .pure (.error problem)
                  | .ok () => .pure (.ok response)

end Cached

/-- A validation judges a request or a response of one origin. -/
inductive Validation where
  | request (sent : MistRequest) (origin : String)
  | response (received : MistResponse) (origin : String)

abbrev Verdict := Except MistError (MistRequest ⊕ MistResponse)

/-- This is the verdict with validators that are compiled afresh. -/
def Validation.verdict (catalog : Catalog) : Validation → Verdict
  | .request sent origin => (sent.validate catalog origin).map .inl
  | .response received origin => (received.validate catalog origin).map .inr

/-- This program finds the verdict with the kept validators. -/
def Validation.program (catalog : Catalog) : Validation → Program cacheSignature Verdict
  | .request sent origin => do
      .pure ((← Cached.validateRequest sent catalog origin).map .inl)
  | .response received origin => do
      .pure ((← Cached.validateResponse received catalog origin).map .inr)

end RustMist
