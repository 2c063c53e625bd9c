import RustMist.Library.Hex
import RustMist.Library.Json.Value

/-! The parts of other packages that the core relies on. -/

namespace RustMist

inductive TypeKind where
  | single (name : String)
  | multiple (names : List String)

/-- The kinds of schema violation that the messages tell apart. -/
inductive ValidationErrorKind where
  | type (kind : TypeKind)
  | enum (options : Json)
  | additionalProperties (unexpected : List String)
  | required (property : Json)
  | format (format : String)
  | pattern (pattern : String)
  | minLength (limit : UInt64)
  | maxLength (limit : UInt64)
  | minimum (limit : Json)
  | maximum (limit : Json)
  | minItems (limit : UInt64)
  | maxItems (limit : UInt64)
  | uniqueItems
  | minProperties (limit : UInt64)
  | maxProperties (limit : UInt64)
  | other (keyword : String)

structure ValidationError where
  instancePath : String
  value : Json
  kind : ValidationErrorKind

/-- This structure holds 32 bytes. -/
structure Bytes32 where
  bytes : List UInt8
  size : bytes.length = 32
deriving DecidableEq

/-- This class collects the text codec of JSON, the digest, the URL reader and the schema compiler. -/
class Platform where
  /-- The compact text of a value, as `serde_json::to_string` and `to_vec` write it. -/
  serdeToString : Json → String
  /-- A value is read from a text; its numbers are taken to survive the round trip. -/
  serdeFromStr : String → Except String Json
  sha256 : String → Bytes32
  /-- A URL is read and written back in its normal form. -/
  urlParse : String → Option String
  /-- A schema compiles to a validator that lists the violations of a value. -/
  validatorFor : Json → Option (Json → List ValidationError)
  /-- The round trip of numbers is assumed with it: `serde_json` reads floats with best effort, and
  each float is taken to be laid out as its shortest text is. -/
  fromStr_toString : ∀ json, json.wellFormed = true → serdeFromStr (serdeToString json) = .ok json
  fromStr_wellFormed : ∀ text json, serdeFromStr text = .ok json → json.wellFormed = true

export Platform (serdeToString serdeFromStr sha256 urlParse validatorFor)

variable [Platform]

/-- Different values have different texts. -/
theorem serdeToString_injective {first second : Json} (formed : first.wellFormed = true)
    (formed' : second.wellFormed = true) (same : serdeToString first = serdeToString second) :
    first = second := by
  have read := Platform.fromStr_toString first formed
  rw [same, Platform.fromStr_toString second formed'] at read
  exact (Except.ok.inj read).symm

/-- This is the digest of a text in hexadecimal digits. -/
def sha256Hex (text : String) : String := Hex.encode (sha256 text).bytes

/-- Two texts have the same digits exactly when they have the same digest. -/
theorem sha256Hex_eq_iff {first second : String} :
    sha256Hex first = sha256Hex second ↔ sha256 first = sha256 second := by
  constructor
  · intro same
    have bytes := Hex.encode_injective same
    cases digest : sha256 first
    cases digest' : sha256 second
    simp_all
  · intro same
    rw [sha256Hex, same, ← sha256Hex]

end RustMist
