import RustMist.Proof.Client.Retries
import RustMist.Proof.Read.Admission
import RustMist.Proof.Sites.Discovery

/-! The query and the path of a validated request in the URL that is built for it. -/

namespace RustMist

open Effects Effects.Program

section Pairs

/-- This is the text of a value in a query; the other values have none. -/
def queryText : Json → Option String
  | .string text => some text
  | .number number => some (String.ofList (Json.Text.renderNumber number))
  | .bool flag => some (if flag then "true" else "false")
  | _ => none

def queryPair (entry : String × Json) : Option (String × String) :=
  (queryText entry.2).map fun text => (entry.1, text)

variable {operationId : String} {entries : List (String × Json)} {pairs : List (String × String)}

theorem queryPairs_eq (built : queryPairs operationId entries = .ok pairs) :
    pairs = entries.filterMap queryPair := by
  induction entries generalizing pairs with
  | nil => exact (Except.ok.inj built).symm
  | cons entry rest ih =>
      obtain ⟨key, value⟩ := entry
      cases tail : queryPairs operationId rest with
      | error error => cases value <;> simp [queryPairs, tail, Except.map] at built
      | ok more =>
          have later := ih tail
          cases value <;> simp_all [queryPairs, Except.map, List.filterMap_cons, queryPair, queryText]

theorem names_filterMap (entries : List (String × Json)) :
    (entries.filterMap queryPair).map Prod.fst =
      (entries.filter fun entry => (queryText entry.2).isSome).map Prod.fst := by
  induction entries with
  | nil => rfl
  | cons entry rest ih =>
      cases text : queryText entry.2 with
      | none => simp [queryPair, text, ih]
      | some value => simp [queryPair, text, ih]

theorem names_sublist (built : queryPairs operationId entries = .ok pairs) :
    (pairs.map Prod.fst).Sublist (IndexMap.keys entries) := by
  rw [queryPairs_eq built, names_filterMap]
  exact List.filter_sublist.map _

/-- A name that occurs once among the entries occurs in the query exactly when its value has a
text. -/
theorem count_name_eq_one_iff (distinct : (IndexMap.keys entries).Nodup)
    (built : queryPairs operationId entries = .ok pairs) {name : String} {value : Json}
    (member : (name, value) ∈ entries) :
    (pairs.map Prod.fst).count name = 1 ↔ (queryText value).isSome = true := by
  have once : (pairs.map Prod.fst).Nodup := (names_sublist built).nodup distinct
  have listed : name ∈ pairs.map Prod.fst ↔ (queryText value).isSome = true := by
    rw [queryPairs_eq built, names_filterMap]
    constructor
    · intro present
      obtain ⟨⟨_, other⟩, kept, rfl⟩ := List.mem_map.mp present
      obtain ⟨inside, text⟩ := List.mem_filter.mp kept
      have same := (IndexMap.get_of_mem distinct member).symm.trans
        (IndexMap.get_of_mem distinct inside)
      rw [Option.some.inj same]
      exact text
    · intro text
      exact List.mem_map.mpr ⟨(name, value), List.mem_filter.mpr ⟨member, text⟩, rfl⟩
  rw [← listed]
  constructor
  · intro counted
    exact List.count_pos_iff.mp (by omega)
  · exact List.count_eq_one_of_mem once

theorem filter_filterMap (key : String) (entries : List (String × Json)) :
    (entries.filterMap queryPair).filter (fun pair => pair.1 ≠ key) =
      (entries.filter fun entry => entry.1 ≠ key).filterMap queryPair := by
  induction entries with
  | nil => rfl
  | cons entry rest ih =>
      by_cases same : entry.1 = key
      · cases text : queryText entry.2 with
        | none => simp_all [queryPair]
        | some value => simp_all [queryPair]
      · cases text : queryText entry.2 with
        | none => simp_all [queryPair]
        | some value => simp_all [queryPair]

end Pairs

section Cursors

/-- A cursor names the parameter that it continues. -/
theorem cursorQueryKey_eq (cursor : MistCursor) :
    ∃ key, cursorQueryKey cursor.mode = some key ∧
      (key = "search_after" ∧ cursor.mode = .searchAfter ∨
        key = "page" ∧ cursor.mode = .pageLimit) := by
  have accepted := cursor.accepted
  cases mode : cursor.mode with
  | none =>
      rw [mode, cursorProblem] at accepted
      split at accepted
      · cases accepted
      · rw [if_pos rfl] at accepted
        cases accepted
  | pageLimit => exact ⟨"page", rfl, .inr ⟨rfl, rfl⟩⟩
  | searchAfter => exact ⟨"search_after", rfl, .inl ⟨rfl, rfl⟩⟩

theorem effectiveQuery_some {cursor : MistCursor} {key : String}
    (named : cursorQueryKey cursor.mode = some key) (query : SortedMap String Json) :
    effectiveQuery query (some cursor) = .ok (query.insert key (.string cursor.value)) := by
  rw [effectiveQuery, named]

theorem validateFor_ok_iff {cursor : MistCursor} {operation : MistOperation} {origin : String} :
    cursor.validateFor operation origin = .ok () ↔
      cursor.operationId = operation.operationId ∧ cursor.origin = origin ∧
        cursor.mode = operation.pagination := by
  unfold MistCursor.validateFor
  split
  · simp_all
  · split
    · simp_all
    · split <;> simp_all

/-- The effective query differs from the query in the parameter of the pagination only. -/
theorem effectiveQuery_filter {query effective : SortedMap String Json} {cursor : Option MistCursor}
    {mode : PaginationMode} {key : String} (named : cursorQueryKey mode = some key)
    (same : ∀ found, cursor = some found → found.mode = mode)
    (effect : effectiveQuery query cursor = .ok effective) :
    effective.entries.filter (fun entry => entry.1 ≠ key) =
      query.entries.filter fun entry => entry.1 ≠ key := by
  cases cursor with
  | none => rw [← Except.ok.inj effect]
  | some cursor =>
      rw [← same cursor rfl] at named
      rw [effectiveQuery_some named] at effect
      rw [← Except.ok.inj effect]
      exact SortedMap.filter_insertEntry key _ _

end Cursors

section Declared

/-- These are the query parameters that an operation declares. -/
def queryNames (operation : MistOperation) : List String :=
  (declaredParameters operation .query).map MistParameter.name

theorem queryNames_sealed (operation : MistOperation) :
    queryNames (sealed operation) = queryNames operation := rfl

/-- Every parameter of a URL is declared and occurs once. -/
def DeclaredOnce (operation : MistOperation) (url : Url) : Prop :=
  ∀ name ∈ url.query.map Prod.fst,
    name ∈ queryNames operation ∧ (url.query.map Prod.fst).count name = 1

/-- Two URLs differ in one parameter only. -/
def SameApart (key : String) (first second : Url) : Prop :=
  first.origin = second.origin ∧ first.segments = second.segments ∧
    (first.query.filter fun pair => pair.1 ≠ key) = second.query.filter fun pair => pair.1 ≠ key

theorem supplied_declared [Platform] {request : MistRequest} {operation : MistOperation}
    {catalog : Catalog} (passed : validateParameters request operation catalog = .ok ()) :
    ∀ name ∈ request.query.keys, name ∈ queryNames operation := by
  unfold validateParameters at passed
  obtain ⟨_, _, query⟩ := bind_eq_ok_iff.mp passed
  unfold validateParameterSet at query
  dsimp only at query
  split at query
  · cases query
  · rename_i none'
    intro name member
    have known := List.find?_eq_none.mp none' name member
    rwa [decide_eq_true_eq, not_not] at known

theorem searchAfter_declared {operation : MistOperation} (valid : ValidOperation operation)
    (mode : operation.pagination = .searchAfter) : "search_after" ∈ queryNames operation := by
  have inferred := valid.pagination
  rw [mode, paginationForParameters] at inferred
  by_contra absent
  have absent' : "search_after" ∉ (operation.parameters.filter fun parameter =>
    parameter.location = "query").map (·.name) := absent
  simp only [if_neg absent'] at inferred
  split at inferred <;> cases inferred

/-- The inferred mode declares its key, but for the page of an operation with a limit only. -/
theorem key_declared_iff {operation : MistOperation} (valid : ValidOperation operation)
    {key : String} (named : cursorQueryKey operation.pagination = some key) :
    key ∈ queryNames operation ↔
      (operation.pagination = .pageLimit → "page" ∈ queryNames operation) := by
  cases mode : operation.pagination with
  | none => rw [mode] at named; cases named
  | pageLimit =>
      rw [mode] at named
      obtain rfl : "page" = key := Option.some.inj named
      simp
  | searchAfter =>
      rw [mode] at named
      obtain rfl : "search_after" = key := Option.some.inj named
      simp [searchAfter_declared valid mode]

variable {client : HttpMistClient} {operation : MistOperation} {operationId : String}
  {path : SortedMap String String} {query : SortedMap String Json} {cursor : Option MistCursor}
  {url : Url} {key : String}

/-- The parameters of a URL are declared when the key of its cursor is. -/
theorem declaredOnce_iff (declared : ∀ name ∈ query.keys, name ∈ queryNames operation)
    (named : ∀ found, cursor = some found → cursorQueryKey found.mode = some key)
    (built : client.buildUrl operationId path query cursor = .ok url) :
    DeclaredOnce operation url ↔ (cursor ≠ none → key ∈ queryNames operation) := by
  obtain ⟨_, expanded, effective, pairs, _, _, effect, paired, rfl⟩ := buildUrl_eq_ok built
  have names := names_sublist paired
  have once : (pairs.map Prod.fst).Nodup := names.nodup effective.nodup_keys
  cases cursor with
  | none =>
      rw [← Except.ok.inj effect] at names
      simp only [ne_eq, not_true_eq_false, false_implies, iff_true]
      intro name member
      exact ⟨declared name (names.subset member), List.count_eq_one_of_mem once member⟩
  | some cursor =>
      rw [effectiveQuery_some (named cursor rfl)] at effect
      obtain rfl := Except.ok.inj effect
      constructor
      · intro faithful _
        have found : IndexMap.get key pairs = some cursor.value := by
          refine queryPairs_string paired ?_
          change (query.insert key (.string cursor.value)).get key = _
          rw [SortedMap.get_insert, if_pos rfl]
        exact (faithful key (IndexMap.mem_keys_of_get found)).1
      · intro known name member
        refine ⟨?_, List.count_eq_one_of_mem once member⟩
        have inside : name ∈ (query.insert key (.string cursor.value)).keys := names.subset member
        rcases SortedMap.mem_keys_insert.mp inside with rfl | supplied
        · exact known nofun
        · exact declared name supplied

/-- Two cursors of one mode make URLs that differ in the key of the mode only. -/
theorem sameApart_of_built {mode : PaginationMode} {cursor' : Option MistCursor} {first : Url}
    (named : cursorQueryKey mode = some key)
    (same : ∀ found, cursor = some found → found.mode = mode)
    (same' : ∀ found, cursor' = some found → found.mode = mode)
    (original : client.buildUrl operationId path query cursor' = .ok first)
    (built : client.buildUrl operationId path query cursor = .ok url) :
    SameApart key first url := by
  obtain ⟨_, expanded, effective, pairs, found, expansion, effect, paired, rfl⟩ :=
    buildUrl_eq_ok built
  obtain ⟨_, expanded', effective', pairs', found', expansion', effect', paired', rfl⟩ :=
    buildUrl_eq_ok original
  obtain rfl := Option.some.inj (found.symm.trans found')
  obtain rfl := Except.ok.inj (expansion.symm.trans expansion')
  refine ⟨rfl, rfl, ?_⟩
  dsimp only
  rw [queryPairs_eq paired, queryPairs_eq paired', filter_filterMap, filter_filterMap,
    effectiveQuery_filter named same effect, effectiveQuery_filter named same' effect']

/-- A continuation sends declared parameters once, and it differs from the original request in
the parameter of the pagination only. -/
structure FaithfulContinuation (operation : MistOperation) (original : Except MistError Url)
    (url : Url) : Prop where
  declared : DeclaredOnce operation url
  originally : ∀ first, original = .ok first → DeclaredOnce operation first
  apart : ∀ first key, original = .ok first → cursorQueryKey operation.pagination = some key →
    SameApart key first url

/-- A page-limit continuation is faithful exactly when its operation declares a page. -/
theorem continuation_faithful_iff [Platform] (json : String) (fingerprints : Fingerprints)
    (client : HttpMistClient) (accepted : Catalog.parse json fingerprints = .ok client.catalog)
    (origin : String) (request : MistRequest)
    (valid : request.validate client.catalog origin = .ok request) (operation : MistOperation)
    (found : client.catalog.operation request.operationId = some operation) (cursor : MistCursor)
    (bound : cursor.validateFor operation origin = .ok ()) (url : Url)
    (built : client.buildUrl request.operationId request.path request.query (some cursor) =
      .ok url) :
    FaithfulContinuation operation
        (client.buildUrl request.operationId request.path request.query request.cursor) url ↔
      (operation.pagination = .pageLimit → "page" ∈ queryNames operation) := by
  obtain ⟨-, operation', checks⟩ := validate_eq_ok_iff.mp valid
  obtain rfl := Option.some.inj (found.symm.trans checks.catalogued)
  have loaded := Catalog.parse_loaded accepted
  have record := loaded.valid operation ((loaded.found _ _).mp found).1
  have declared := supplied_declared checks.parameters
  have mode : cursor.mode = operation.pagination := (validateFor_ok_iff.mp bound).2.2
  have mode' : ∀ found, request.cursor = some found → found.mode = operation.pagination := by
    intro earlier present
    have judged := checks.cursor
    rw [present] at judged
    exact (validateFor_ok_iff.mp judged).2.2
  obtain ⟨key, named, _⟩ := cursorQueryKey_eq cursor
  rw [mode] at named
  have keyed : ∀ found, some cursor = some found → cursorQueryKey found.mode = some key := by
    rintro _ ⟨⟩
    rw [mode]
    exact named
  have keyed' : ∀ found, request.cursor = some found → cursorQueryKey found.mode = some key := by
    intro earlier present
    rw [mode' earlier present]
    exact named
  have judged := declaredOnce_iff declared keyed built
  rw [key_declared_iff record named] at judged
  constructor
  · intro faithful
    exact judged.mp faithful.declared nofun
  · intro paged
    refine ⟨judged.mpr fun _ => paged, ?_, ?_⟩
    · intro first original
      exact (declaredOnce_iff declared keyed' original).mpr fun _ =>
        (key_declared_iff record named).mpr paged
    · intro first key' original named'
      obtain rfl := Option.some.inj (named.symm.trans named')
      refine sameApart_of_built named ?_ mode' original built
      rintro _ ⟨⟩
      exact mode

end Declared

section Agreement

/-- These values are sent in a query. -/
def isScalar : Json → Bool
  | .string _ => true
  | .number _ => true
  | .bool _ => true
  | _ => false

theorem isSome_queryText (value : Json) : (queryText value).isSome = isScalar value := by
  cases value <;> rfl

/-- The path with some of its parameters replaced. -/
def substituted (path : String) (entries : List (String × String)) : String :=
  entries.foldl (fun expanded entry => replaceAll (placeholder entry.1) entry.2 expanded) path

/-- The placeholder of every parameter occurs where it is replaced. -/
def PlaceholdersOccur (path : String) (entries : List (String × String)) : Prop :=
  ∀ before name value after, entries = before ++ (name, value) :: after →
    containsText (placeholder name) (substituted path before) = true

theorem placeholdersOccur_cons {path name value : String} {rest : List (String × String)} :
    PlaceholdersOccur path ((name, value) :: rest) ↔
      containsText (placeholder name) path = true ∧
        PlaceholdersOccur (replaceAll (placeholder name) value path) rest := by
  constructor
  · intro occur
    refine ⟨occur [] name value rest rfl, ?_⟩
    rintro before other text after rfl
    exact occur ((name, value) :: before) other text after rfl
  · rintro ⟨first, later⟩ before other text after same
    cases before with
    | nil =>
        obtain ⟨⟨rfl, rfl⟩, rfl⟩ := List.cons.inj same
        exact first
    | cons entry before =>
        obtain ⟨rfl, rfl⟩ := List.cons.inj same
        exact later before other text after rfl

theorem expandPath_ok_iff {operationId path : String} {entries : List (String × String)} :
    (∃ expanded, expandPath operationId path entries = .ok expanded) ↔
      PlaceholdersOccur path entries := by
  induction entries generalizing path with
  | nil =>
      refine iff_of_true ⟨path, rfl⟩ ?_
      intro before name value after same
      simp at same
  | cons entry rest ih =>
      obtain ⟨name, value⟩ := entry
      rw [placeholdersOccur_cons, expandPath]
      split
      · rename_i occurs
        rw [ih]
        simp [occurs]
      · rename_i absent
        simp [absent]

variable {client : HttpMistClient} {request : MistRequest}

/-- The parameter under which a request carries its cursor. -/
def cursorKey (request : MistRequest) : Option String :=
  request.cursor.bind fun cursor => cursorQueryKey cursor.mode

/-- Every supplied parameter but that of the cursor has a value that is sent. -/
def ScalarQuery (request : MistRequest) : Prop :=
  ∀ name value, (name, value) ∈ request.query.entries → cursorKey request ≠ some name →
    isScalar value = true

/-- The URL of a request carries each supplied parameter once. -/
def CarriesQuery (request : MistRequest) (url : Url) : Prop :=
  ∀ name ∈ request.query.keys, (url.query.map Prod.fst).count name = 1

/-- The supplied parameters are part of the effective query; the cursor stands for its own. -/
theorem effectiveQuery_ok (request : MistRequest) :
    ∃ effective, effectiveQuery request.query request.cursor = .ok effective ∧
      ∀ name, effective.get name =
        if cursorKey request = some name then
          request.cursor.map fun cursor => .string cursor.value
        else request.query.get name := by
  cases present : request.cursor with
  | none =>
      refine ⟨request.query, rfl, fun name => ?_⟩
      simp [cursorKey, present]
  | some cursor =>
      obtain ⟨key, named, _⟩ := cursorQueryKey_eq cursor
      refine ⟨_, effectiveQuery_some named request.query, fun name => ?_⟩
      have own : cursorKey request = some key := by
        rw [cursorKey, present, Option.bind_some, named]
      rw [SortedMap.get_insert, own, Option.map_some]
      by_cases same : name = key
      · rw [if_pos same, if_pos (congrArg some same.symm)]
      · rw [if_neg same, if_neg (fun equal => same (Option.some.inj equal).symm)]

theorem buildUrl_refused {operation : MistOperation} {expanded : String}
    {effective : SortedMap String Json} {error : MistError}
    (found : client.catalog.operation request.operationId = some operation)
    (expansion : expandPath request.operationId operation.path request.path.entries = .ok expanded)
    (effect : effectiveQuery request.query request.cursor = .ok effective)
    (refused : queryPairs request.operationId effective.entries = .error error) :
    client.buildUrl request.operationId request.path request.query request.cursor =
      .error error := by
  unfold HttpMistClient.buildUrl
  rw [found]
  dsimp only
  rw [bind_of_ok expansion, bind_of_ok effect, refused]
  rfl

/-- A request agrees with the builder when its placeholders occur and its values are sent. -/
theorem buildUrl_carries_iff {operation : MistOperation}
    (found : client.catalog.operation request.operationId = some operation) :
    (∃ url, client.buildUrl request.operationId request.path request.query request.cursor =
        .ok url ∧ CarriesQuery request url) ↔
      PlaceholdersOccur operation.path request.path.entries ∧ ScalarQuery request := by
  obtain ⟨effective, effect, values⟩ := effectiveQuery_ok request
  have distinct : (IndexMap.keys effective.entries).Nodup := effective.nodup_keys
  rw [← expandPath_ok_iff]
  constructor
  · rintro ⟨url, built, carries⟩
    obtain ⟨operation', expanded, effective', pairs, found', expansion, effect', paired, rfl⟩ :=
      buildUrl_eq_ok built
    obtain rfl := Option.some.inj (found.symm.trans found')
    obtain rfl := Except.ok.inj (effect.symm.trans effect')
    refine ⟨⟨expanded, expansion⟩, ?_⟩
    intro name value member other
    have supplied := SortedMap.mem_entries_iff.mp member
    have kept : effective.get name = some value := by
      rw [values, if_neg other, supplied]
    have once := carries name (IndexMap.mem_keys_of_get supplied)
    rw [← isSome_queryText,
      ← count_name_eq_one_iff distinct paired (SortedMap.mem_entries_iff.mpr kept)]
    exact once
  · rintro ⟨⟨expanded, expansion⟩, scalar⟩
    have sent : ∀ name value, (name, value) ∈ effective.entries →
        isScalar value = true := by
      intro name value member
      have kept := SortedMap.mem_entries_iff.mp member
      rw [values] at kept
      split at kept
      · obtain ⟨cursor, _, rfl⟩ := Option.map_eq_some_iff.mp kept
        rfl
      · rename_i other
        exact scalar name value (SortedMap.mem_entries_iff.mpr kept) other
    obtain ⟨pairs, paired⟩ := (queryPairs_ok_iff request.operationId effective.entries).mpr (by
      rintro ⟨name, value⟩ member
      have text := sent name value member
      cases value <;> first | rfl | cases text)
    refine ⟨_, buildUrl_of_parts found expansion effect paired, ?_⟩
    intro name member
    have known : effective.get name ≠ none := by
      rw [values]
      split
      · rename_i own
        unfold cursorKey at own
        obtain ⟨cursor, present, _⟩ := Option.bind_eq_some_iff.mp own
        simp [present]
      · exact fun absent => IndexMap.get_eq_none_iff.mp absent member
    obtain ⟨value, kept⟩ := Option.ne_none_iff_exists'.mp known
    have listed := SortedMap.mem_entries_iff.mpr kept
    rw [count_name_eq_one_iff distinct paired listed, isSome_queryText]
    exact sent name value listed

section Calls

theorem httpMethod_ok {operation : MistOperation} (valid : ValidOperation operation)
    (operationId : String) :
    ∃ method, HttpMistRetryClient.httpMethod operationId operation.method = .ok method := by
  have listed := valid.method
  simp only [List.mem_cons, List.not_mem_nil, or_false] at listed
  rcases listed with named | named | named | named | named <;> rw [named] <;> exact ⟨_, rfl⟩

variable [Platform]

section Builds

variable {joinedQuery : String → String → Option (List (String × String))}
  {client : HttpMistRetryClient} {request : MistRequest} {operation : MistOperation}
  {method : HttpMethod} {url : Url} {history : HttpHistory}
  {outcome : Except CallFailure MistResponse}

/-- An admitted call whose URL is built hands the URL over first. -/
theorem sendCall_builds
    (found : client.catalog.operation request.operationId = some operation)
    (known : HttpMistRetryClient.httpMethod request.operationId operation.method = .ok method)
    (built : client.buildUrl request.operationId request.path request.query request.cursor =
      .ok url)
    (run : Completes (client.sendCall joinedQuery request) history outcome) :
    ∃ event ∈ history, event.op = .buildRequest method url := by
  unfold HttpMistRetryClient.sendCall at run
  rw [built] at run
  dsimp only at run
  rw [found] at run
  dsimp only at run
  rw [known] at run
  dsimp only at run
  rw [completes_bind_iff] at run
  obtain ⟨_, first, second, rfl, loop, _⟩ := run
  rw [HttpMistRetryClient.sendLoop] at loop
  obtain ⟨answer, rest, rfl, _⟩ := (completes_perform_iff _ _ _ _).mp loop
  exact ⟨_, List.mem_append_left _ List.mem_cons_self, rfl⟩

/-- A call that is charged hands its URL over. -/
theorem executeAs_builds {priority : CallPriority}
    (found : client.catalog.operation request.operationId = some operation)
    (known : HttpMistRetryClient.httpMethod request.operationId operation.method = .ok method)
    (built : client.buildUrl request.operationId request.path request.query request.cursor =
      .ok url)
    (run : Completes (client.executeAs joinedQuery request priority) history outcome)
    (charged : chargeCount history = 1) :
    ∃ event ∈ history, event.op = .buildRequest method url := by
  obtain ⟨answer, rest, rfl, later⟩ := (completes_perform_iff _ _ _ _).mp run
  cases answer with
  | error spent =>
      obtain ⟨status, rest, rfl, ended⟩ := (completes_perform_iff _ _ _ _).mp later
      obtain ⟨rfl, rfl⟩ := (completes_pure_iff _ _ _).mp ended
      cases charged
  | ok status =>
      obtain ⟨event, member, same⟩ := sendCall_builds found known built later
      exact ⟨event, List.mem_cons_of_mem _ member, same⟩

/-- A call whose URL is not built has been charged. -/
theorem executeAs_refused {priority : CallPriority} {error : MistError} (status : BudgetStatus)
    (refused : client.buildUrl request.operationId request.path request.query request.cursor =
      .error error) :
    Completes (client.executeAs joinedQuery request priority) [⟨.tryAcquire priority, .ok status⟩]
      (.error (.mist error)) := by
  have ends : Completes (client.sendCall joinedQuery request) [] (.error (.mist error)) := by
    unfold HttpMistRetryClient.sendCall
    rw [refused]
    exact .start _
  exact .answered ends

end Builds

/-- The builder accepts what the validator has accepted: the URL carries the whole query, and a
call that is charged hands a URL over. -/
structure BuilderAgrees (client : HttpMistClient) (request : MistRequest) : Prop where
  carried : ∃ url, client.buildUrl request.operationId request.path request.query request.cursor =
    .ok url ∧ CarriesQuery request url
  charged : ∀ joinedQuery retries wait priority history outcome,
    Completes (HttpMistRetryClient.executeAs ⟨client, retries, wait⟩ joinedQuery request priority)
      history outcome → chargeCount history = 1 →
        ∃ event ∈ history, ∃ method url, event.op = .buildRequest method url

/-- The builder agrees with the validator on scalar queries and on paths with placeholders. -/
theorem builder_agrees_iff (json : String) (fingerprints : Fingerprints) (client : HttpMistClient)
    (accepted : Catalog.parse json fingerprints = .ok client.catalog) (origin : String)
    (request : MistRequest) (valid : request.validate client.catalog origin = .ok request) :
    ∃ operation, client.catalog.operation request.operationId = some operation ∧
      (BuilderAgrees client request ↔
        PlaceholdersOccur operation.path request.path.entries ∧ ScalarQuery request) := by
  obtain ⟨-, operation, checks⟩ := validate_eq_ok_iff.mp valid
  have found := checks.catalogued
  have loaded := Catalog.parse_loaded accepted
  have record := loaded.valid operation ((loaded.found _ _).mp found).1
  refine ⟨operation, found, ?_⟩
  rw [← buildUrl_carries_iff found]
  constructor
  · exact BuilderAgrees.carried
  · rintro ⟨url, built, carries⟩
    refine ⟨⟨url, built, carries⟩, ?_⟩
    intro joinedQuery retries wait priority history outcome run charged
    obtain ⟨method, known⟩ := httpMethod_ok record request.operationId
    obtain ⟨event, member, same⟩ := executeAs_builds found known built run charged
    exact ⟨event, member, method, url, same⟩

end Calls

end Agreement

end RustMist

namespace RustMist.Network

open Effects Effects.Program

section Queries

/-- The catalog of these requests is accepted. -/
def queryCatalog : Catalog := paddedCatalog queryOperations

theorem queryCatalog_accepted :
    Catalog.fromJson (serdeToString (paddedDocument queryOperations).toJson) = .ok queryCatalog :=
  paddable_queryOperations.fromJson

theorem operation_alarms :
    queryCatalog.operation alarmCount.operationId = some (sealed alarmCount) :=
  paddable_queryOperations.operation (List.mem_cons_of_mem _ List.mem_cons_self)

theorem operation_commands :
    queryCatalog.operation registrationCommands.operationId = some (sealed registrationCommands) :=
  paddable_queryOperations.operation List.mem_cons_self

def queryClient : HttpMistClient := ⟨origin, queryCatalog⟩

/-- This request asks for the alarms of an organization in pages of one hundred. -/
def alarmRequest : MistRequest where
  operationId := alarmCount.operationId
  path := SortedMap.ofList [("org_id", orgId)]
  query := SortedMap.ofList [("limit", Json.ofNat 100)]
  json := none
  cursor := none

def secondPage (operationId : String)
    (accepted : cursorProblem operationId .pageLimit "2" = none) : MistCursor :=
  ⟨operationId, origin, .pageLimit, "2", none, accepted⟩

theorem secondAlarms_accepted : cursorProblem alarmCount.operationId .pageLimit "2" = none := by
  decide

def secondAlarms : MistCursor := secondPage alarmCount.operationId secondAlarms_accepted

theorem validate_alarms : alarmRequest.validate queryCatalog origin = .ok alarmRequest := by
  have bounds : validateRequestBounds alarmRequest = .ok () := by decide
  have parameters : validateParameters alarmRequest alarmCount queryCatalog = .ok () := by
    decide
  exact validate_bare operation_alarms bounds parameters rfl rfl rfl

def alarmPath : List (List Char) :=
  UrlPath.setPath ("/api/v1/orgs/" ++ orgId ++ "/alarms/count").toList

theorem alarms_url :
    queryClient.buildUrl alarmRequest.operationId alarmRequest.path alarmRequest.query
      (some secondAlarms) = .ok ⟨origin, alarmPath, [("limit", "100"), ("page", "2")]⟩ := by
  have expansion : expandPath alarmRequest.operationId alarmCount.path alarmRequest.path.entries =
      .ok ("/api/v1/orgs/" ++ orgId ++ "/alarms/count") := by decide
  have paired : queryPairs alarmRequest.operationId
      (alarmRequest.query.insert "page" (.string "2")).entries =
        .ok [("limit", "100"), ("page", "2")] := by decide
  exact buildUrl_of_parts operation_alarms expansion rfl paired

/-- The continuation of an operation that declares no page sends a page, which the validator
refuses in a query. -/
theorem alarms_continue_undeclared :
    Catalog.fromJson (serdeToString (paddedDocument queryOperations).toJson) =
        .ok queryClient.catalog ∧
      alarmRequest.validate queryClient.catalog origin = .ok alarmRequest ∧
      queryClient.catalog.operation alarmRequest.operationId = some (sealed alarmCount) ∧
      secondAlarms.validateFor (sealed alarmCount) origin = .ok () ∧
      (∀ value, validateParameters { alarmRequest with query := alarmRequest.query.insert "page" value }
        (sealed alarmCount) queryClient.catalog ≠ .ok ()) ∧
      ∃ url, queryClient.buildUrl alarmRequest.operationId alarmRequest.path alarmRequest.query
        (some secondAlarms) = .ok url ∧
        ¬FaithfulContinuation (sealed alarmCount)
          (queryClient.buildUrl alarmRequest.operationId alarmRequest.path alarmRequest.query
            alarmRequest.cursor) url := by
  have absent : "page" ∉ queryNames (sealed alarmCount) := by
    have names : queryNames alarmCount = ["limit"] := by decide
    rw [queryNames_sealed, names]
    decide
  refine ⟨queryCatalog_accepted, validate_alarms, operation_alarms, rfl, ?_, _, alarms_url, ?_⟩
  · intro value passed
    exact absent (supplied_declared passed "page" (SortedMap.mem_keys_insert.mpr (.inl rfl)))
  · intro faithful
    have sent : "page" ∈ [("limit", "100"), ("page", "2")].map Prod.fst := by decide
    exact absent (faithful.declared "page" sent).1

theorem secondSites_accepted : cursorProblem siteListing.operationId .pageLimit "2" = none := by
  decide

def secondSites : MistCursor := secondPage siteListing.operationId secondSites_accepted

def siteClient : HttpMistClient := ⟨origin, siteCatalog⟩

def sitePath : List (List Char) := UrlPath.setPath ("/api/v1/orgs/" ++ orgId ++ "/sites").toList

theorem sites_url :
    siteClient.buildUrl siteListing.operationId (listOrgSitesRequest orgId 1).path
      (listOrgSitesRequest orgId 1).query (some secondSites) =
        .ok ⟨origin, sitePath, [("limit", "100"), ("page", "2")]⟩ := by
  have expansion : expandPath siteListing.operationId siteListing.path
      (listOrgSitesRequest orgId 1).path.entries =
        .ok ("/api/v1/orgs/" ++ orgId ++ "/sites") := by decide
  have paired : queryPairs siteListing.operationId
      ((listOrgSitesRequest orgId 1).query.insert "page" (.string "2")).entries =
        .ok [("limit", "100"), ("page", "2")] := by decide
  exact buildUrl_of_parts operation_sites expansion rfl paired

theorem continuation_faithful_iff_sites :
    FaithfulContinuation (sealed siteListing)
        (siteClient.buildUrl (listOrgSitesRequest orgId 1).operationId
          (listOrgSitesRequest orgId 1).path (listOrgSitesRequest orgId 1).query
          (listOrgSitesRequest orgId 1).cursor)
        ⟨origin, sitePath, [("limit", "100"), ("page", "2")]⟩ ↔
      ((sealed siteListing).pagination = .pageLimit → "page" ∈ queryNames (sealed siteListing)) :=
  continuation_faithful_iff _ .verify siteClient siteCatalog_accepted origin
    (listOrgSitesRequest orgId 1) (validate_page List.mem_cons_self (by decide))
    (sealed siteListing) operation_sites secondSites rfl _ sites_url

/-- This request names the assets of the commands in a list. -/
def commandsRequest : MistRequest where
  operationId := registrationCommands.operationId
  path := SortedMap.ofList [("org_id", orgId)]
  query := SortedMap.ofList [("asset_ids", .array [.string "asset"])]
  json := none
  cursor := none

theorem validate_commands : commandsRequest.validate queryCatalog origin = .ok commandsRequest := by
  have bounds : validateRequestBounds commandsRequest = .ok () := by decide
  have parameters : validateParameters commandsRequest registrationCommands queryCatalog =
      .ok () := by decide
  exact validate_bare operation_commands bounds parameters rfl rfl rfl

def commandsRefusal : MistError :=
  .invalidRequest registrationCommands.operationId
    "query parameter asset_ids must be string, number, or bool"

theorem commands_refused :
    queryClient.buildUrl commandsRequest.operationId commandsRequest.path commandsRequest.query
      commandsRequest.cursor = .error commandsRefusal := by
  have expansion : expandPath commandsRequest.operationId registrationCommands.path
      commandsRequest.path.entries =
        .ok ("/api/v1/orgs/" ++ orgId ++ "/128routers/register_cmd") := by decide
  have refused : queryPairs commandsRequest.operationId commandsRequest.query.entries =
      .error commandsRefusal := by decide
  exact buildUrl_refused operation_commands expansion rfl refused

/-- This client sends the request to the origin and never retries. -/
def queryRetryClient : HttpMistRetryClient := ⟨queryClient, 0, 0⟩

/-- A validated list is charged for and then refused. -/
theorem commands_charged_and_refused :
    Catalog.fromJson (serdeToString (paddedDocument queryOperations).toJson) =
        .ok queryClient.catalog ∧
      commandsRequest.validate queryClient.catalog origin = .ok commandsRequest ∧
      Completes (queryRetryClient.executeAs (fun _ _ => none) commandsRequest .standard)
        [⟨.tryAcquire .standard, .ok grantedStatus⟩] (.error (.mist commandsRefusal)) ∧
      ¬BuilderAgrees queryClient commandsRequest := by
  refine ⟨queryCatalog_accepted, validate_commands, ?_, ?_⟩
  · exact executeAs_refused grantedStatus commands_refused
  · rintro ⟨⟨url, built, _⟩, _⟩
    rw [commands_refused] at built
    cases built

theorem builder_agrees_iff_alarms :
    ∃ operation, queryClient.catalog.operation alarmRequest.operationId = some operation ∧
      (BuilderAgrees queryClient alarmRequest ↔
        PlaceholdersOccur operation.path alarmRequest.path.entries ∧ ScalarQuery alarmRequest) :=
  builder_agrees_iff _ .verify queryClient queryCatalog_accepted origin alarmRequest
    validate_alarms

end Queries

end RustMist.Network
