import RustMist.Construction.Core.Client
import RustMist.Library.Utf8

/-! The continuation of page-limit reads from the first page to the last. -/

namespace RustMist

section Numbers

theorem toString_eq_ofList (value : UInt64) :
    toString value = String.ofList (Nat.toDigits 10 value.toNat) := Nat.repr_eq_ofList_toDigits

theorem digits_toDigits (value : Nat) : (Nat.toDigits 10 value).all Char.isDigit = true := by
  rw [List.all_eq_true]
  intro digit member
  exact Nat.isDigit_of_mem_toDigits (by decide) (by decide) member

theorem length_toDigits_le (value : UInt64) : (Nat.toDigits 10 value.toNat).length ≤ 20 := by
  apply (Nat.length_toDigits_le_iff (by decide) (by decide)).mpr
  have word := value.toNat_lt
  omega

theorem parseU64_digits {digits : List Char} (nonempty : digits.isEmpty = false)
    (decimal : digits.all Char.isDigit = true) :
    parseU64 (String.ofList digits) =
      if Nat.ofDigitChars 10 digits 0 < 2 ^ 64 then
        some (UInt64.ofNat (Nat.ofDigitChars 10 digits 0))
      else none := by
  unfold parseU64
  rw [String.toList_ofList]
  dsimp only
  split
  · cases decimal
  · rw [nonempty, decimal, Bool.not_false, Bool.true_and, if_pos rfl]

/-- A decimal number is read back. -/
theorem parseU64_toString (value : UInt64) : parseU64 (toString value) = some value := by
  have nonempty : (Nat.toDigits 10 value.toNat).isEmpty = false := by
    rw [List.isEmpty_eq_false_iff]
    exact List.ne_nil_of_length_pos Nat.length_toDigits_pos
  rw [toString_eq_ofList, parseU64_digits nonempty (digits_toDigits value.toNat),
    Nat.ofDigitChars_ten_toDigits, if_pos value.toNat_lt]
  exact congrArg some UInt64.ofNat_toNat

theorem le_saturatingMul_iff (total first second : UInt64) :
    total ≤ saturatingMul first second ↔ total.toNat ≤ first.toNat * second.toNat := by
  unfold saturatingMul
  split
  · rename_i fits
    rw [UInt64.le_iff_toNat_le, UInt64.toNat_mul, Nat.mod_eq_of_lt fits]
  · rename_i large
    have word := total.toNat_lt
    have largest : (UInt64.ofNat (2 ^ 64 - 1)).toNat = 2 ^ 64 - 1 := by decide
    rw [UInt64.le_iff_toNat_le, largest]
    omega

theorem checkedAdd_one (page : UInt64) (below : page.toNat + 1 < 2 ^ 64) :
    checkedAdd page 1 = some (page + 1) ∧ (page + 1).toNat = page.toNat + 1 := by
  have one : (1 : UInt64).toNat = 1 := rfl
  constructor
  · rw [checkedAdd, one, if_pos below]
  · rw [UInt64.toNat_add, one, Nat.mod_eq_of_lt below]

end Numbers

section Cursors

theorem MistCursor.new_of_accepted {operationId value : String} {mode : PaginationMode}
    (origin : String) (accepted : cursorProblem operationId mode value = none) :
    MistCursor.new operationId origin mode value =
      .ok ⟨operationId, origin, mode, value, none, accepted⟩ := by
  unfold MistCursor.new
  split
  · rename_i reason refused
    rw [accepted] at refused
    cases refused
  · rfl

/-- A positive page number makes a cursor of every operation with a bounded name. -/
theorem pageCursor_accepted {operationId : String} (page : UInt64)
    (named : (operationId.isEmpty || operationId.utf8ByteSize > 256) = false)
    (positive : 0 < page.toNat) :
    cursorProblem operationId .pageLimit (toString page) = none := by
  have short := Utf8.byteSize_ofList_le (Nat.toDigits 10 page.toNat)
  have length := length_toDigits_le page
  have nonzero : page ≠ 0 := by
    rintro rfl
    exact absurd positive (by decide)
  have text : (toString page).isEmpty = false := by
    apply Bool.eq_false_of_not_eq_true
    intro empty
    have read := parseU64_toString page
    rw [String.isEmpty_iff.mp empty] at read
    cases read
  have size : ¬ (toString page).utf8ByteSize > 4096 := by
    rw [toString_eq_ofList]
    omega
  rw [cursorProblem, named, text, parseU64_toString]
  simp [size, nonzero]

theorem deriveNextCursor_pageLimit
    (joinedQuery : String → String → Option (List (String × String)))
    {client : HttpMistClient} {operationId : String} {operation : MistOperation}
    (found : client.catalog.operation operationId = some operation)
    (paged : operation.pagination = .pageLimit)
    (named : (operationId.isEmpty || operationId.utf8ByteSize > 256) = false)
    (body : MistResponseBody) (page limit total : UInt64) :
    deriveNextCursor joinedQuery client operationId body
        (some ⟨some page, some limit, some total⟩) = none ∧
      ¬ (0 < limit.toNat ∧ page.toNat * limit.toNat < total.toNat) ∨
    (0 < limit.toNat ∧ page.toNat * limit.toNat < total.toNat) ∧
      ∃ next : UInt64, next.toNat = page.toNat + 1 ∧
        ∃ accepted : cursorProblem operationId .pageLimit (toString next) = none,
          deriveNextCursor joinedQuery client operationId body
            (some ⟨some page, some limit, some total⟩) =
            some ⟨operationId, client.baseUrl, .pageLimit, toString next, none, accepted⟩ := by
  have zero : limit = 0 ↔ limit.toNat = 0 := by
    rw [← UInt64.toNat_inj]
    rfl
  simp only [deriveNextCursor, found, paged, Option.bind_eq_bind, Option.bind_some]
  split
  · rename_i stops
    rw [le_saturatingMul_iff, zero] at stops
    exact .inl ⟨rfl, by omega⟩
  · rename_i continues
    rw [le_saturatingMul_iff, zero, not_or, Nat.not_le] at continues
    have positive : 0 < limit.toNat := by omega
    refine .inr ⟨⟨positive, continues.2⟩, page + 1, ?_⟩
    have word := total.toNat_lt
    have grows : page.toNat ≤ page.toNat * limit.toNat := Nat.le_mul_of_pos_right _ positive
    have next := checkedAdd_one page (by omega)
    have accepted := pageCursor_accepted (page + 1) named (by omega)
    refine ⟨next.2, accepted, ?_⟩
    rw [next.1, Option.bind_some, MistCursor.new_of_accepted client.baseUrl accepted]
    rfl

end Cursors

section Queries

/-- The values that a query can carry. -/
def isQueryValue : Json → Bool
  | .array _ => false
  | .object _ => false
  | _ => true

theorem queryPairs_ok_iff (operationId : String) (entries : List (String × Json)) :
    (∃ pairs, queryPairs operationId entries = .ok pairs) ↔
      ∀ entry ∈ entries, isQueryValue entry.2 = true := by
  induction entries with
  | nil => simp [queryPairs]
  | cons entry rest ih =>
      obtain ⟨key, value⟩ := entry
      rw [List.forall_mem_cons, ← ih]
      cases value <;> cases tail : queryPairs operationId rest <;>
        simp [queryPairs, isQueryValue, tail, Except.map]

theorem queryPairs_cons {operationId name : String} {value : Json}
    {rest : List (String × Json)} {pairs : List (String × String)}
    (built : queryPairs operationId ((name, value) :: rest) = .ok pairs) :
    ∃ more, queryPairs operationId rest = .ok more ∧
      (pairs = more ∨ ∃ text, pairs = (name, text) :: more) := by
  cases tail : queryPairs operationId rest with
  | error error => cases value <;> simp [queryPairs, tail, Except.map] at built
  | ok more =>
      refine ⟨more, rfl, ?_⟩
      cases value <;> simp only [queryPairs, tail, Except.map, Except.ok.injEq, reduceCtorEq]
        at built <;> subst built <;> simp

theorem queryPairs_string {operationId key text : String} {entries : List (String × Json)}
    {pairs : List (String × String)} (built : queryPairs operationId entries = .ok pairs)
    (found : IndexMap.get key entries = some (.string text)) :
    IndexMap.get key pairs = some text := by
  induction entries generalizing pairs with
  | nil => cases found
  | cons entry rest ih =>
      obtain ⟨name, value⟩ := entry
      rw [IndexMap.get_cons] at found
      split at found
      · rename_i same
        obtain rfl : value = .string text := Option.some.inj found
        cases tail : queryPairs operationId rest with
        | error error => simp [queryPairs, tail, Except.map] at built
        | ok more =>
            simp only [queryPairs, tail, Except.map, Except.ok.injEq] at built
            rw [← built, IndexMap.get_cons, if_pos same]
      · rename_i different
        obtain ⟨more, tail, rfl | ⟨other, rfl⟩⟩ := queryPairs_cons built
        · exact ih tail found
        · rw [IndexMap.get_cons, if_neg different]
          exact ih tail found

end Queries

section Pages

/-- The page that a URL asks for; a server starts at the first page. -/
def requestedPage (url : Url) : Option UInt64 :=
  match IndexMap.get "page" url.query with
  | some text => parseU64 text
  | none => some 1

/-- A server echoes the page and reports a page size and a total. -/
def pageHeaders (page limit total : UInt64) (name : String) : Option String :=
  if name = "X-Page-Page" then some (toString page)
  else if name = "X-Page-Limit" then some (toString limit)
  else if name = "X-Page-Total" then some (toString total)
  else none

theorem parsePageInfo_pageHeaders (page limit total : UInt64) :
    parsePageInfo (pageHeaders page limit total) = some ⟨some page, some limit, some total⟩ := by
  have headers : (pageHeaders page limit total "X-Page-Page").bind parseU64 = some page ∧
      (pageHeaders page limit total "X-Page-Limit").bind parseU64 = some limit ∧
      (pageHeaders page limit total "X-Page-Total").bind parseU64 = some total :=
    ⟨parseU64_toString page, parseU64_toString limit, parseU64_toString total⟩
  rw [parsePageInfo, headers.1, headers.2.1, headers.2.2]
  rfl

theorem effectiveQuery_page {cursor : MistCursor} (query : SortedMap String Json)
    (mode : cursor.mode = .pageLimit) :
    effectiveQuery query (some cursor) = .ok (query.insert "page" (.string cursor.value)) := by
  rw [effectiveQuery, mode]
  rfl

/-- The page of a cursor replaces the page of a query. -/
theorem queryPairs_page {operationId : String} {query : SortedMap String Json}
    {pairs : List (String × String)} (text : String)
    (built : queryPairs operationId query.entries = .ok pairs) :
    ∃ next, queryPairs operationId (query.insert "page" (.string text)).entries = .ok next ∧
      IndexMap.get "page" next = some text := by
  have scalar := (queryPairs_ok_iff operationId query.entries).mp ⟨pairs, built⟩
  have scalar' : ∀ entry ∈ (query.insert "page" (.string text)).entries,
      isQueryValue entry.2 = true := by
    rintro ⟨key, value⟩ member
    rw [SortedMap.mem_entries_iff, SortedMap.get_insert] at member
    split at member
    · rw [← Option.some.inj member]
      rfl
    · exact scalar (key, value) (SortedMap.mem_entries_iff.mpr member)
  obtain ⟨next, continued⟩ := (queryPairs_ok_iff operationId _).mpr scalar'
  refine ⟨next, continued, queryPairs_string continued ?_⟩
  change (query.insert "page" (.string text)).get "page" = _
  rw [SortedMap.get_insert, if_pos rfl]

theorem buildUrl_eq_ok {client : HttpMistClient} {operationId : String}
    {path : SortedMap String String} {query : SortedMap String Json} {cursor : Option MistCursor}
    {url : Url} (built : client.buildUrl operationId path query cursor = .ok url) :
    ∃ operation expanded effective pairs, client.catalog.operation operationId = some operation ∧
      expandPath operationId operation.path path.entries = .ok expanded ∧
      effectiveQuery query cursor = .ok effective ∧
      queryPairs operationId effective.entries = .ok pairs ∧
      url = ⟨client.baseUrl, UrlPath.setPath expanded.toList, pairs⟩ := by
  unfold HttpMistClient.buildUrl at built
  cases found : client.catalog.operation operationId with
  | none => rw [found] at built; cases built
  | some operation =>
      rw [found] at built
      simp only [bind, Except.bind] at built
      split at built
      · cases built
      · rename_i expanded expansion
        split at built
        · cases built
        · rename_i effective effect
          split at built
          · cases built
          · rename_i pairs paired
            exact ⟨operation, expanded, effective, pairs, rfl, expansion, effect, paired,
              (Except.ok.inj built).symm⟩

theorem buildUrl_of_parts {client : HttpMistClient} {operationId expanded : String}
    {path : SortedMap String String} {query effective : SortedMap String Json}
    {cursor : Option MistCursor} {operation : MistOperation} {pairs : List (String × String)}
    (found : client.catalog.operation operationId = some operation)
    (expansion : expandPath operationId operation.path path.entries = .ok expanded)
    (effect : effectiveQuery query cursor = .ok effective)
    (paired : queryPairs operationId effective.entries = .ok pairs) :
    client.buildUrl operationId path query cursor =
      .ok ⟨client.baseUrl, UrlPath.setPath expanded.toList, pairs⟩ := by
  unfold HttpMistClient.buildUrl
  rw [found]
  simp only [bind, Except.bind, expansion, effect, paired]

/-- The URL of a continuation asks for the page of its cursor. -/
theorem buildUrl_continues {client : HttpMistClient} {request : MistRequest} {url : Url}
    {page : UInt64} (cursor : MistCursor)
    (first : client.buildUrl request.operationId request.path request.query none = .ok url)
    (mode : cursor.mode = .pageLimit) (value : cursor.value = toString page) :
    ∃ next, client.buildUrl request.operationId request.path request.query (some cursor) =
      .ok next ∧ requestedPage next = some page := by
  obtain ⟨operation, expanded, effective, pairs, found, expansion, effect, paired, _⟩ :=
    buildUrl_eq_ok first
  obtain rfl : request.query = effective := Except.ok.inj effect
  obtain ⟨next, continued, asked⟩ := queryPairs_page cursor.value paired
  refine ⟨_, buildUrl_of_parts found expansion (effectiveQuery_page request.query mode) continued,
    ?_⟩
  rw [requestedPage]
  dsimp only
  rw [asked, value]
  exact parseU64_toString page

/-- This is the number of pages that hold all entries. -/
def pageCount (limit total : Nat) : Nat := (total + limit - 1) / limit

theorem lt_pageCount_iff {limit : Nat} (total page : Nat) (positive : 0 < limit) :
    page < pageCount limit total ↔ page * limit < total := by
  have step : (page + 1) * limit = page * limit + limit := Nat.succ_mul page limit
  rw [pageCount, ← Nat.succ_le_iff, Nat.le_div_iff_mul_le positive, Nat.succ_eq_add_one, step]
  omega

section Run

variable (joinedQuery : String → String → Option (List (String × String)))
  (client : HttpMistClient) (request : MistRequest) (bodies : UInt64 → MistResponseBody)
  (limit total : UInt64)

/-- The caller follows the cursors of a server that echoes the requested page. The pages are
recorded in their order, and nothing is recorded when the fuel does not suffice. -/
def followPages : Nat → Option MistCursor → Option (List Nat)
  | 0, _ => none
  | fuel + 1, cursor => do
      let url ←
        (client.buildUrl request.operationId request.path request.query cursor).toOption
      let page ← requestedPage url
      match deriveNextCursor joinedQuery client request.operationId (bodies page)
          (parsePageInfo (pageHeaders page limit total)) with
      | none => some [page.toNat]
      | some next => (followPages fuel (some next)).map (page.toNat :: ·)

variable {client request limit total}

/-- From any page on, the caller requests the remaining pages in order and then stops. -/
theorem followPages_from {operation : MistOperation}
    (found : client.catalog.operation request.operationId = some operation)
    (paged : operation.pagination = .pageLimit)
    (named : (request.operationId.isEmpty || request.operationId.utf8ByteSize > 256) = false)
    (positive : 0 < limit.toNat) {start : Url}
    (first : client.buildUrl request.operationId request.path request.query none = .ok start)
    (remaining fuel : Nat) {page : UInt64} {cursor : Option MistCursor} {url : Url}
    (built : client.buildUrl request.operationId request.path request.query cursor = .ok url)
    (asked : requestedPage url = some page)
    (rest : page.toNat + remaining = pageCount limit.toNat total.toNat)
    (enough : remaining < fuel) :
    followPages joinedQuery client request bodies limit total fuel cursor =
      some (List.range' page.toNat (remaining + 1)) := by
  induction remaining generalizing fuel page cursor url with
  | zero =>
      obtain ⟨fuel, rfl⟩ := Nat.exists_eq_succ_of_ne_zero (Nat.ne_of_gt enough)
      have last : ¬ page.toNat * limit.toNat < total.toNat := by
        rw [← lt_pageCount_iff total.toNat page.toNat positive]
        omega
      simp only [followPages, built, Except.toOption, Option.bind_eq_bind, Option.bind_some, asked,
        parsePageInfo_pageHeaders]
      rcases deriveNextCursor_pageLimit joinedQuery found paged named (bodies page) page limit total
        with ⟨stops, _⟩ | ⟨continues, _⟩
      · rw [stops]
        rfl
      · exact absurd continues.2 last
  | succ remaining ih =>
      obtain ⟨fuel, rfl⟩ := Nat.exists_eq_succ_of_ne_zero (Nat.ne_of_gt (Nat.zero_lt_of_lt enough))
      have more : page.toNat * limit.toNat < total.toNat := by
        rw [← lt_pageCount_iff total.toNat page.toNat positive]
        omega
      simp only [followPages, built, Except.toOption, Option.bind_eq_bind, Option.bind_some, asked,
        parsePageInfo_pageHeaders]
      rcases deriveNextCursor_pageLimit joinedQuery found paged named (bodies page) page limit total
        with ⟨_, stops⟩ | ⟨_, next, succ, accepted, continues⟩
      · exact absurd ⟨positive, more⟩ stops
      · rw [continues]
        dsimp only
        obtain ⟨nextUrl, nextBuilt, nextAsked⟩ := buildUrl_continues
          ⟨request.operationId, client.baseUrl, .pageLimit, toString next, none, accepted⟩ first
          rfl rfl
        rw [ih fuel nextBuilt nextAsked (by omega) (by omega), Option.map_some, succ,
          List.range'_succ (n := remaining + 1)]

end Run

/-- A page-limit read continues exactly while entries remain, and the caller that follows its
cursors requests every page once and in order. -/
theorem pageLimit_lossless
    (joinedQuery : String → String → Option (List (String × String)))
    (client : HttpMistClient) (request : MistRequest) (operation : MistOperation)
    (bounded : validateRequestBounds request = .ok ())
    (found : client.catalog.operation request.operationId = some operation)
    (paged : operation.pagination = .pageLimit) :
    (∀ (body : MistResponseBody) (page limit total : UInt64),
      ((∃ cursor, deriveNextCursor joinedQuery client request.operationId body
          (some ⟨some page, some limit, some total⟩) = some cursor) ↔
        0 < limit.toNat ∧ page.toNat * limit.toNat < total.toNat) ∧
      ∀ cursor, deriveNextCursor joinedQuery client request.operationId body
          (some ⟨some page, some limit, some total⟩) = some cursor →
        cursor.operationId = request.operationId ∧ cursor.origin = client.baseUrl ∧
          cursor.mode = .pageLimit ∧ cursor.value = toString (page.toNat + 1)) ∧
    ∀ (bodies : UInt64 → MistResponseBody) (limit total : UInt64) (start : Url) (fuel : Nat),
      0 < limit.toNat → 0 < total.toNat →
      client.buildUrl request.operationId request.path request.query none = .ok start →
      requestedPage start = some 1 → pageCount limit.toNat total.toNat ≤ fuel →
      followPages joinedQuery client request bodies limit total fuel none =
        some (List.range' 1 (pageCount limit.toNat total.toNat)) := by
  have named : (request.operationId.isEmpty || request.operationId.utf8ByteSize > 256) = false := by
    apply Bool.eq_false_of_not_eq_true
    intro unnamed
    simp [validateRequestBounds, requestBoundsProblem, unnamed, throw, throwThe,
      MonadExceptOf.throw, bind, Except.bind] at bounded
  constructor
  · intro body page limit total
    rcases deriveNextCursor_pageLimit joinedQuery found paged named body page limit total with
      ⟨stops, last⟩ | ⟨more, next, succ, accepted, continues⟩
    · rw [stops]
      simp [last]
    · rw [continues]
      refine ⟨⟨fun _ => more, fun _ => ⟨_, rfl⟩⟩, ?_⟩
      rintro cursor ⟨⟩
      refine ⟨rfl, rfl, rfl, ?_⟩
      rw [← succ]
      rfl
  · intro bodies limit total start fuel positive entries first asked enough
    have pages : 0 < pageCount limit.toNat total.toNat := by
      rw [lt_pageCount_iff total.toNat 0 positive, Nat.zero_mul]
      exact entries
    have one : (1 : UInt64).toNat = 1 := rfl
    have rest : (1 : UInt64).toNat + (pageCount limit.toNat total.toNat - 1) =
        pageCount limit.toNat total.toNat := by omega
    have run := followPages_from joinedQuery bodies found paged named positive first
      (pageCount limit.toNat total.toNat - 1) fuel first asked rest (by omega)
    rw [one, Nat.sub_add_cancel pages] at run
    exact run

/-- This operation lists the sites of an org page by page. -/
def listOrgSites : MistOperation where
  operationKey := "GET /api/v1/orgs/{org_id}/sites"
  operationId := "listOrgSites"
  tool := "mist_list_org_sites"
  method := "GET"
  path := "/api/v1/orgs/{org_id}/sites"
  scope := "org"
  summary := ""
  openapiTags := []
  capability := .ordinaryRead
  action := .ordinaryRead
  classificationReason := ""
  classificationSourceFingerprint := ""
  parameters := []
  targetSelectors := [.org]
  requestMediaTypes := []
  requestSchemas := ∅
  requestBodyRequired := false
  responseMediaTypes := []
  responses := ∅
  pagination := .pageLimit
  verification := .none
  followUpOperationId := none
  verificationPredicate := none
  verificationReason := none
  transport := "http"
  sourceFingerprint := ""

/-- This client knows only the list of sites. -/
def sitesClient : HttpMistClient where
  baseUrl := "https://api.mist.com/"
  catalog :=
    ⟨⟨"", "", "", "", ""⟩, .object [], [listOrgSites],
      ⟨"", 0, 0, 0, 0, [], ⟨0, 0, 0, 0, 0⟩⟩, SortedMap.ofList [("listOrgSites", 0)]⟩

def sitesRequest : MistRequest where
  operationId := "listOrgSites"
  path := SortedMap.ofList [("org_id", "7f1a2b3c")]
  query := ∅
  json := none
  cursor := none

/-- Twenty-five sites in pages of ten are read with three requests. -/
theorem pageLimit_lossless_sites :
    followPages (fun _ _ => none) sitesClient sitesRequest (fun _ => .empty) 10 25 3 none =
      some [1, 2, 3] :=
  (pageLimit_lossless (fun _ _ => none) sitesClient sitesRequest listOrgSites (by decide) rfl
    rfl).2 (fun _ => .empty) 10 25
    ⟨"https://api.mist.com/",
      ["api".toList, "v1".toList, "orgs".toList, "7f1a2b3c".toList, "sites".toList], []⟩ 3
    (by decide) (by decide) rfl rfl (by decide)

end Pages

end RustMist
