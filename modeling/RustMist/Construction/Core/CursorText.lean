import RustMist.Construction.Core.CatalogDocument
import RustMist.Construction.Core.Pagination

/-! The reading of a cursor from the bytes of its JSON text. -/

namespace RustMist

def MistTarget.read (json : Json) : Except String MistTarget := do
  let subject ← readString json
  match MistTarget.parse subject with
  | .ok target => .ok target
  | .error error => .error error.toString

def MistCursorContext.fields : List String := ["path", "query", "target"]

def MistCursorContext.read (json : Json) : Except String MistCursorContext := do
  let members ← readRecord MistCursorContext.fields json
  let path ← readField members "path" (readMap readString)
  let query ← readField members "query" (readMap .ok)
  let target ← readOptionalField members "target" MistTarget.read
  .ok { path, query, target }

def MistCursorWire.fields : List String := ["operation_id", "origin", "mode", "value", "context"]

/-- The list form of a cursor may leave out its last field, the context. -/
def padContext : Json → Json
  | .array [operationId, origin, mode, value] => .array [operationId, origin, mode, value, .null]
  | json => json

def MistCursorWire.read (json : Json) : Except String MistCursorWire := do
  let members ← readRecord MistCursorWire.fields (padContext json)
  let operationId ← readField members "operation_id" readString
  let origin ← readField members "origin" readString
  let mode ← readField members "mode" (readVariant PaginationMode.variants)
  let value ← readField members "value" readString
  let context ← readOptionalField members "context" MistCursorContext.read
  .ok { operationId, origin, mode, value, context }

/-- A member that the text repeats is refused by the source; here its last value stays. -/
def readCursor [Platform] (bytes : List UInt8) : Option MistCursorWire :=
  match String.fromUTF8? ⟨bytes.toArray⟩ with
  | none => none
  | some text =>
      match serdeFromStr text with
      | .error _ => none
      | .ok json => (MistCursorWire.read json).toOption

end RustMist
