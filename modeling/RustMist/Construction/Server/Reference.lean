import RustMist.Construction.Server.Platform
import RustMist.Library.Json.Text
import RustMist.Library.Sha256

/-! A platform on which the handlers can be run. -/

namespace RustMist.Reference

def readText (text : String) : Except String Json :=
  match Json.Text.read text with
  | some json => .ok json
  | none => .error "expected value"

def digest (text : String) : Bytes32 :=
  ⟨Sha256.digest text.toUTF8.toList, Sha256.length_digest _⟩

section Validator

/-- The names that a schema lists under a keyword. -/
def names (schema : Json) (keyword : String) : List String :=
  match schema.get keyword with
  | some (.array values) => values.filterMap Json.asString
  | some (.string value) => [value]
  | _ => []

def hasType (value : Json) : String → Bool
  | "null" => value.isNull
  | "boolean" => match value with | .bool _ => true | _ => false
  | "integer" => match value with | .number (.posInt _) | .number (.negInt _) => true | _ => false
  | "number" => match value with | .number _ => true | _ => false
  | "string" => value.asString.isSome
  | "array" => match value with | .array _ => true | _ => false
  | "object" => value.isObject
  | _ => false

def typeViolations (schema value : Json) (place : String) : List ValidationError :=
  if schema.get "type" = none || (names schema "type").any (hasType value) then []
  else [⟨place, value, .type (.multiple (names schema "type"))⟩]

def requiredViolations (schema value : Json) (place : String) : List ValidationError :=
  if !value.isObject then []
  else
    ((names schema "required").filter fun name => (value.get name).isNone).map fun name =>
      ⟨place, value, .required (.string name)⟩

/-- The counter bounds the depth of the schema; other keywords are not judged. -/
def violations : Nat → Json → Json → String → List ValidationError
  | 0, _, _, _ => []
  | depth + 1, schema, value, place =>
      let parts :=
        match schema.get "allOf" with
        | some (.array parts) => parts
        | _ => []
      let properties := (schema.get "properties").elim [] Json.members
      typeViolations schema value place ++ requiredViolations schema value place ++
        parts.flatMap (fun part => violations depth part value place) ++
        properties.flatMap fun property =>
          match value.get property.1 with
          | some child => violations depth property.2 child (place ++ "/" ++ property.1)
          | none => []

end Validator

def allows (scope : ScopeSet) (name : String) : Bool :=
  match scope with
  | .wildcard => true
  | .allowlist names => name ∈ names

def allowsTool (scope : ScopeSet) (tool : String) (restricted : List String) : Bool :=
  match scope with
  | .wildcard => tool ∉ restricted
  | .allowlist names => tool ∈ names

def asStr : ChangeSetState → String
  | .planned => "planned"
  | .approved => "approved"
  | .applying => "applying"
  | .applied => "applied"
  | .failed => "failed"

def authorize (caller : Option CallerCtx) (tool : String) (target : Option String)
    (restricted : List String) : Except String Unit :=
  match caller with
  | none => .ok ()
  | some caller =>
      if !allowsTool caller.tools tool restricted then .error "tool is not permitted"
      else if target.any fun target => !allows caller.devices target then
        .error "target is not permitted"
      else .ok ()

/-- A result whose text is too long is an error. -/
def result (outcome : Except String Json) (limits : ResultLimits) : CallToolResult :=
  match outcome with
  | .error message => ⟨some true, .text message, []⟩
  | .ok json =>
      if (Json.Text.write json).utf8ByteSize > limits.maxTextBytes then
        ⟨some true, .text "result exceeds the text limit", []⟩
      else ⟨some false, .text (Json.Text.write json), []⟩

theorem result_ok (json : Json) (limits : ResultLimits) (formed : json.wellFormed = true) :
    (result (.ok json) limits).isError = some true ∨
      ∃ text, (result (.ok json) limits).first = .text text ∧ readText text = .ok json := by
  unfold result
  dsimp only
  split
  · exact .inl rfl
  · exact .inr ⟨_, rfl, by rw [readText, Json.Text.read_write json formed]⟩

def planDigest (owner device fingerprint : String) (actions : List Json) : String :=
  Hex.encode (digest (Json.Text.write (.array
    [.string owner, .string device, .string fingerprint, .array actions]))).bytes

end RustMist.Reference

namespace RustMist

/-- Secrets do not occur in the runs for which this platform is used. -/
instance reference : ServerPlatform where
  serdeToString := Json.Text.write
  serdeFromStr := Reference.readText
  sha256 := Reference.digest
  urlParse text := some text
  validatorFor root := some fun value => Reference.violations 16 root value ""
  fromStr_toString json formed := by
    rw [Reference.readText, Json.Text.read_write json formed]
  fromStr_wellFormed text json read := by
    unfold Reference.readText at read
    split at read
    · rename_i found
      obtain rfl := Except.ok.inj read
      exact Json.Text.wellFormed_of_read found
    · cases read
  allows := Reference.allows
  allowsTool := Reference.allowsTool
  asStr := Reference.asStr
  authorizeCall := Reference.authorize
  toolResult outcome _ limits _ := Reference.result outcome limits
  redactJsonValue json := json
  coordinatorErrorText error := error.field ++ ": " ++ error.message
  changeSetDigest owner device fingerprint actions :=
    .ok (Reference.planDigest owner device fingerprint actions)
  previewDigest text := Hex.encode (Reference.digest text).bytes
  toLowercase := String.toLower
  withinRatio distance length := 100 * distance ≤ 65 * length
  orderedBefore first second := first.2 ≤ second.2
  panicked := ⟨some true, .other, []⟩
  panicked_isError := rfl
  allowsTool_wildcard tool restricted allowed := of_decide_eq_true allowed
  allowsTool_allowlist names tool restricted allowed := of_decide_eq_true allowed
  authorizeCall_ok caller tool target restricted allowed := by
    unfold Reference.authorize at allowed
    dsimp only at allowed
    split at allowed
    · cases allowed
    · rename_i permitted
      split at allowed
      · cases allowed
      · rename_i reached
        refine ⟨by simpa using permitted, ?_⟩
        rintro subject rfl
        simpa using reached
  toolResult_error _ _ _ _ := rfl
  toolResult_ok json _ limits _ formed := Reference.result_ok json limits formed
  redactJsonValue_wellFormed _ formed := formed

end RustMist
