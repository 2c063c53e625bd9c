import RustMist.Library.Json.Text
import RustMist.Library.UrlPath
import RustMist.Construction.Core.Request

/-! The URLs that the client builds and the continuation that it reads from a response. -/

namespace RustMist

/-- This is a URL at the origin of the client. The pairs of its query are kept decoded. -/
structure Url where
  origin : String
  segments : List (List Char)
  query : List (String × String)
deriving DecidableEq

structure HttpMistClient where
  baseUrl : String
  catalog : Catalog

def cursorQueryKey : PaginationMode → Option String
  | .searchAfter => some "search_after"
  | .pageLimit => some "page"
  | .none => none

def placeholder (name : String) : String := "\x7b" ++ name ++ "\x7d"

/-- The parameters are expanded one after the other. -/
def expandPath (operationId expanded : String) :
    List (String × String) → Except MistError String
  | [] => .ok expanded
  | (name, value) :: rest =>
      if containsText (placeholder name) expanded then
        expandPath operationId (replaceAll (placeholder name) value expanded) rest
      else
        .error (.invalidRequest operationId
          ("path parameter " ++ name ++ " not in operation path"))

def queryPairs (operationId : String) :
    List (String × Json) → Except MistError (List (String × String))
  | [] => .ok []
  | (key, value) :: rest =>
      match value with
      | .null => queryPairs operationId rest
      | .string text => (queryPairs operationId rest).map ((key, text) :: ·)
      | .number number =>
          (queryPairs operationId rest).map
            ((key, String.ofList (Json.Text.renderNumber number)) :: ·)
      | .bool flag =>
          (queryPairs operationId rest).map ((key, if flag then "true" else "false") :: ·)
      | _ =>
          .error (.invalidRequest operationId
            ("query parameter " ++ key ++ " must be string, number, or bool"))

/-- A continuation replaces the value that the stored query carries. -/
def effectiveQuery (query : SortedMap String Json) :
    Option MistCursor → Except MistError (SortedMap String Json)
  | none => .ok query
  | some cursor =>
      match cursorQueryKey cursor.mode with
      | some key => .ok (query.insert key (.string cursor.value))
      | none => .error (.invalidCursor "cursor pagination mode must not be none")

namespace HttpMistClient

def buildUrl (client : HttpMistClient) (operationId : String) (path : SortedMap String String)
    (query : SortedMap String Json) (cursor : Option MistCursor) : Except MistError Url :=
  match client.catalog.operation operationId with
  | none => .error (.unknownOperation operationId)
  | some operation => do
      let expandedPath ← expandPath operationId operation.path path.entries
      let effective ← effectiveQuery query cursor
      let pairs ← queryPairs operationId effective.entries
      .ok ⟨client.baseUrl, UrlPath.setPath expandedPath.toList, pairs⟩

end HttpMistClient

/-- The headers of a response are looked up by name. -/
def parsePageInfo (headerStr : String → Option String) : Option MistPageInfo :=
  let info : MistPageInfo :=
    ⟨(headerStr "X-Page-Page").bind parseU64, (headerStr "X-Page-Limit").bind parseU64,
      (headerStr "X-Page-Total").bind parseU64⟩
  if info.isEmpty then none else some info

section Cursors

-- The query pairs of the URL that a base and a relative reference give.
variable (joinedQuery : String → String → Option (List (String × String)))

def extractSearchAfterCursor (client : HttpMistClient) (json : Json) (operationId : String) :
    Option MistCursor := do
  let next ← (← json.get "next").asString
  if next.isEmpty then none
  else
    let pairs ← joinedQuery client.baseUrl next
    let pair ← pairs.find? fun pair => pair.1 = "search_after"
    if pair.2.isEmpty then none
    else
      (MistCursor.new operationId client.baseUrl .searchAfter pair.2).toOption

/-- This product stops at the largest 64-bit number. -/
def saturatingMul (first second : UInt64) : UInt64 :=
  if first.toNat * second.toNat < 2 ^ 64 then first * second else UInt64.ofNat (2 ^ 64 - 1)

def checkedAdd (first second : UInt64) : Option UInt64 :=
  if first.toNat + second.toNat < 2 ^ 64 then some (first + second) else none

def deriveNextCursor (client : HttpMistClient) (operationId : String) (body : MistResponseBody)
    (page : Option MistPageInfo) : Option MistCursor := do
  let operation ← client.catalog.operation operationId
  match operation.pagination with
  | .none => none
  | .searchAfter =>
      match body with
      | .json json => extractSearchAfterCursor joinedQuery client json.val operationId
      | _ => none
  | .pageLimit => do
      let page ← page
      let currentPage ← page.page
      let limit ← page.limit
      let total ← page.total
      if limit = 0 ∨ total ≤ saturatingMul currentPage limit then none
      else
        let next ← checkedAdd currentPage 1
        (MistCursor.new operationId client.baseUrl .pageLimit (toString next)).toOption

end Cursors

end RustMist
