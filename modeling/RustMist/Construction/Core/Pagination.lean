import RustMist.Construction.Core.Catalog
import RustMist.Construction.Core.Error
import RustMist.Construction.Core.Target

/-! Continuation cursors that are bound to an operation and an origin. -/

namespace RustMist

/-- A decimal number may have a plus sign and must fit 64 bits. -/
def parseU64 (text : String) : Option UInt64 :=
  let digits :=
    match text.toList with
    | '+' :: rest => rest
    | characters => characters
  if !digits.isEmpty && digits.all Char.isDigit then
    let value := Nat.ofDigitChars 10 digits 0
    if value < 2 ^ 64 then some (UInt64.ofNat value) else none
  else none

/-- The first reason for which a continuation value is refused. -/
def cursorProblem (operationId : String) (mode : PaginationMode) (value : String) :
    Option String :=
  if operationId.isEmpty || operationId.utf8ByteSize > 256 then
    some "operation ID must contain 1-256 bytes"
  else if mode = .none then some "pagination mode must not be none"
  else if value.isEmpty || value.utf8ByteSize > 4096 then
    some "cursor value must contain 1-4096 bytes"
  else if mode = .pageLimit && !(parseU64 value).any (· ≠ 0) then
    some "page-limit cursor value must be a positive integer"
  else none

structure MistCursorContext where
  path : SortedMap String String
  query : SortedMap String Json
  target : Option MistTarget

/-- A cursor is only built from a value that the checks accept. -/
structure MistCursor where
  operationId : String
  origin : String
  mode : PaginationMode
  value : String
  context : Option MistCursorContext
  accepted : cursorProblem operationId mode value = none

/-- This record is what the text of a cursor is read into. -/
structure MistCursorWire where
  operationId : String
  origin : String
  mode : PaginationMode
  value : String
  context : Option MistCursorContext

def PaginationMode.toJson : PaginationMode → Json
  | .none => .string "none"
  | .pageLimit => .string "page_limit"
  | .searchAfter => .string "search_after"

def stringMapToJson (map : SortedMap String String) : Json :=
  .object (IndexMap.mapValues Json.string map.entries)

def valueMapToJson (map : SortedMap String Json) : Json := .object map.entries

def MistCursorContext.toJson (context : MistCursorContext) : Json :=
  .object [("path", stringMapToJson context.path), ("query", valueMapToJson context.query),
    ("target", Json.ofOption (context.target.map fun target => .string target.subject))]

def MistCursorWire.toJson (wire : MistCursorWire) : Json :=
  .object ([("operation_id", .string wire.operationId), ("origin", .string wire.origin),
    ("mode", wire.mode.toJson), ("value", .string wire.value)] ++
    (wire.context.map fun context => ("context", context.toJson)).toList)

namespace MistCursor

def wire (cursor : MistCursor) : MistCursorWire :=
  ⟨cursor.operationId, cursor.origin, cursor.mode, cursor.value, cursor.context⟩

def toJson (cursor : MistCursor) : Json := cursor.wire.toJson

def new (operationId origin : String) (mode : PaginationMode) (value : String) :
    Except MistError MistCursor :=
  match accepted : cursorProblem operationId mode value with
  | some reason => .error (.invalidCursor reason)
  | none => .ok ⟨operationId, origin, mode, value, none, accepted⟩

/-- A cursor continues an operation at an origin when all three bindings agree. -/
def validateFor (cursor : MistCursor) (operation : MistOperation) (origin : String) :
    Except MistError Unit :=
  if cursor.operationId ≠ operation.operationId then
    .error (.invalidCursor "cursor operation does not match request operation")
  else if cursor.origin ≠ origin then
    .error (.invalidCursor "cursor origin does not match request origin")
  else if cursor.mode ≠ operation.pagination then
    .error (.invalidCursor "cursor pagination mode does not match request operation")
  else .ok ()

def requestContext (cursor : MistCursor) : Option MistCursorContext := cursor.context

variable [Platform]

def validateEncodedSize (cursor : MistCursor) : Except MistError Unit :=
  if (serdeToString cursor.toJson).utf8ByteSize * 2 > 262144 then
    .error (.invalidCursor "encoded cursor exceeds the 262144-byte bound")
  else .ok ()

def withRequestContext (cursor : MistCursor) (path : SortedMap String String)
    (query : SortedMap String Json) (target : Option MistTarget) : Except MistError MistCursor := do
  let cursor := { cursor with context := some ⟨path, query, target⟩ }
  cursor.validateEncodedSize
  .ok cursor

/-- The checks that follow once the text of a cursor is read. -/
def tryFrom (wire : MistCursorWire) : Except String MistCursor :=
  match urlParse wire.origin with
  | none => .error "origin must be a URL"
  | some origin =>
      match new wire.operationId origin wire.mode wire.value with
      | .error error => .error error.toString
      | .ok cursor =>
          let cursor := { cursor with context := wire.context }
          match cursor.validateEncodedSize with
          | .error error => .error error.toString
          | .ok () => .ok cursor

/-- The text of a cursor is two digits for each byte of its JSON text. -/
def encode (cursor : MistCursor) : String :=
  Hex.encode (serdeToString cursor.toJson).toUTF8.toList

end MistCursor

structure MistPageInfo where
  page : Option UInt64
  limit : Option UInt64
  total : Option UInt64
deriving DecidableEq

namespace MistPageInfo

def isEmpty (info : MistPageInfo) : Bool :=
  info.page.isNone && info.limit.isNone && info.total.isNone

def member (name : String) (value : Option UInt64) : List (String × Json) :=
  (value.map fun number => (name, .number (.posInt number))).toList

def toJson (info : MistPageInfo) : Json :=
  .object (member "page" info.page ++ member "limit" info.limit ++ member "total" info.total)

end MistPageInfo

end RustMist
