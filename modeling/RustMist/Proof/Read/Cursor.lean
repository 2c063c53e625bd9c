import RustMist.Proof.Catalog.Document
import RustMist.Proof.Client.Queries
import RustMist.Proof.Calls.Targets
import RustMist.Proof.Read.Outcome

/-! The way of a continuation cursor to the caller and back. -/

namespace RustMist

open Effects Effects.Program

section Records

theorem reads_target : Reads MistTarget.read fun target => .string target.subject := by
  intro target
  have subject : readString (.string target.subject) = .ok target.subject := reads_string _
  have parsed := target.parse_subject
  simp only [MistTarget.read, subject, Bind.bind, Except.bind, parsed]

theorem reads_entries : Reads (readMap .ok) valueMapToJson := by
  intro map
  have same : IndexMap.mapValues (fun value : Json => value) map.entries = map.entries :=
    List.map_id map.entries
  have read := reads_map reads_value map
  rw [writeMap, same] at read
  exact read

theorem reads_context : Reads MistCursorContext.read MistCursorContext.toJson := by
  intro context
  have record : readRecord MistCursorContext.fields context.toJson = .ok
    [("path", stringMapToJson context.path), ("query", valueMapToJson context.query),
      ("target", writeOption (fun target : MistTarget => .string target.subject)
        context.target)] := rfl
  have path : readMap readString (stringMapToJson context.path) = .ok context.path :=
    reads_map reads_string context.path
  have query := reads_entries context.query
  have target := reads_option reads_target (fun _ => rfl) context.target
  rw [MistCursorContext.read, bind_of_ok record]
  change (readMap readString (stringMapToJson context.path) >>= fun path =>
    readMap .ok (valueMapToJson context.query) >>= fun query =>
      readOption MistTarget.read (writeOption _ context.target) >>= fun target =>
        Except.ok (⟨path, query, target⟩ : MistCursorContext)) = _
  rw [bind_of_ok path, bind_of_ok query, bind_of_ok target]

theorem reads_mode : Reads (readVariant PaginationMode.variants) PaginationMode.toJson := by
  intro mode
  cases mode <;> rfl

theorem reads_wire : Reads MistCursorWire.read MistCursorWire.toJson := by
  intro wire
  obtain ⟨operationId, origin, mode, value, context⟩ := wire
  have mode' := reads_mode mode
  cases context with
  | none =>
      change (readVariant PaginationMode.variants mode.toJson >>= fun mode =>
        Except.ok (⟨operationId, origin, mode, value, none⟩ : MistCursorWire)) = _
      rw [bind_of_ok mode']
  | some context =>
      have inner : readOption MistCursorContext.read context.toJson = .ok (some context) := by
        have object : ¬context.toJson.isNull = true := Bool.false_ne_true
        rw [readOption, if_neg object, reads_context context]
        rfl
      change (readVariant PaginationMode.variants mode.toJson >>= fun mode =>
        readOption MistCursorContext.read context.toJson >>= fun context =>
          Except.ok (⟨operationId, origin, mode, value, context⟩ : MistCursorWire)) = _
      rw [bind_of_ok mode', bind_of_ok inner]

end Records

section Bounds

theorem validateItemBounds_ok_iff {values : List Json} {depth : Nat} :
    validateItemBounds values depth = .ok () ↔
      ∀ value ∈ values, validateValueBounds value depth = .ok () := by
  induction values with
  | nil => simp [validateItemBounds]
  | cons value rest ih =>
      rw [validateItemBounds, List.forall_mem_cons, ← ih]
      cases validateValueBounds value depth <;> simp

theorem validateMemberBounds_ok {members : List (String × Json)} {depth : Nat}
    (bounded : validateMemberBounds members depth = .ok ()) :
    ∀ member ∈ members, validateValueBounds member.2 depth = .ok () := by
  induction members with
  | nil => exact fun member absurd' => absurd absurd' List.not_mem_nil
  | cons member rest ih =>
      obtain ⟨name, value⟩ := member
      rw [validateMemberBounds, validateMemberBound] at bounded
      split at bounded
      · cases bounded
      · rename_i inner
        split at inner
        · cases inner
        · exact List.forall_mem_cons.mpr ⟨inner, ih bounded⟩

theorem level_of_bounds {value : Json} {depth : Nat}
    (bounded : validateValueBounds value depth = .ok ()) : depth ≤ 32 := by
  unfold validateValueBounds at bounded
  split at bounded
  · cases bounded
  · omega

/-- A value within the bounds of a request is nested at most 33 levels deep. -/
theorem depth_of_bounds {value : Json} {depth : Nat}
    (bounded : validateValueBounds value depth = .ok ()) : depth + value.depth ≤ 33 := by
  have level := level_of_bounds bounded
  induction value using Json.inductionOn generalizing depth with
  | null => exact Nat.le_succ_of_le level
  | bool _ => exact Nat.le_succ_of_le level
  | number _ => exact Nat.le_succ_of_le level
  | string _ => exact Nat.le_succ_of_le level
  | array values ih =>
      rw [validateValueBounds, if_neg (by omega)] at bounded
      split at bounded
      · cases bounded
      · have items := validateItemBounds_ok_iff.mp bounded
        have deep : (Json.array values).depth ≤ 32 - depth + 1 := by
          rw [Json.depth_array_le_iff]
          intro value member
          have inner := items value member
          have below := ih value member inner (level_of_bounds inner)
          omega
        omega
  | object members ih =>
      rw [validateValueBounds, if_neg (by omega)] at bounded
      split at bounded
      · cases bounded
      · have items := validateMemberBounds_ok bounded
        have deep : (Json.object members).depth ≤ 32 - depth + 1 := by
          rw [Json.depth_object_le_iff]
          intro member present
          have inner := items member present
          have below := ih member present inner (level_of_bounds inner)
          omega
        omega

theorem query_depth {request : MistRequest} (bounded : validateRequestBounds request = .ok ()) :
    ∀ entry ∈ request.query.entries, entry.2.depth ≤ 33 := by
  unfold validateRequestBounds at bounded
  split at bounded
  · cases bounded
  · rename_i checked
    have items : validateItemBounds request.query.values 0 = .ok () := by
      simp only [requestBoundsProblem, throw, throwThe, MonadExceptOf.throw] at checked
      by_cases unnamed : (request.operationId.isEmpty ||
          decide (request.operationId.utf8ByteSize > 256)) = true
      · rw [if_pos unnamed] at checked
        cases checked
      · by_cases long : request.path.size > 8
        · rw [if_neg unnamed, if_pos long] at checked
          cases checked
        · by_cases wide : request.query.size > 64
          · rw [if_neg unnamed, if_neg long, if_pos wide] at checked
            cases checked
          · rw [if_neg unnamed, if_neg long, if_neg wide] at checked
            obtain ⟨_, _, named⟩ := bind_eq_ok_iff.mp checked
            obtain ⟨_, _, rest⟩ := bind_eq_ok_iff.mp named
            cases body : request.json with
            | none =>
                rw [body] at rest
                exact rest
            | some json =>
                rw [body] at rest
                obtain ⟨_, _, last⟩ := bind_eq_ok_iff.mp rest
                exact last
    intro entry member
    have inner := validateItemBounds_ok_iff.mp items entry.2 (List.mem_map_of_mem member)
    have deep := depth_of_bounds inner
    omega

end Bounds

section Texts

/-- The query that a cursor carries along. -/
def carriedQuery (cursor : MistCursor) : List (String × Json) :=
  match cursor.context with
  | some context => context.query.entries
  | none => []

theorem cursorJson_eq_none {cursor : MistCursor} (absent : cursor.context = none) :
    cursor.toJson = .object [("operation_id", .string cursor.operationId),
      ("origin", .string cursor.origin), ("mode", cursor.mode.toJson),
      ("value", .string cursor.value)] := by
  rw [MistCursor.toJson, MistCursor.wire, MistCursorWire.toJson, absent]
  rfl

theorem cursorJson_eq_some {cursor : MistCursor} {context : MistCursorContext}
    (present : cursor.context = some context) :
    cursor.toJson = .object [("operation_id", .string cursor.operationId),
      ("origin", .string cursor.origin), ("mode", cursor.mode.toJson),
      ("value", .string cursor.value), ("context", context.toJson)] := by
  rw [MistCursor.toJson, MistCursor.wire, MistCursorWire.toJson, present]
  rfl

theorem contextJson_wellFormed {context : MistCursorContext}
    (formed : ∀ entry ∈ context.query.entries, entry.2.wellFormed = true) :
    context.toJson.wellFormed = true := by
  have path : (stringMapToJson context.path).wellFormed = true :=
    writeMap_wellFormed fun _ _ => rfl
  have query : (valueMapToJson context.query).wellFormed = true :=
    (Json.wellFormed_object_iff _).mpr ⟨context.query.nodup_keys, formed⟩
  have target : (Json.ofOption (context.target.map fun target =>
      .string target.subject)).wellFormed = true := by
    cases context.target <;> rfl
  have distinct : MistCursorContext.fields.Nodup := by decide
  rw [MistCursorContext.toJson, Json.wellFormed_object_iff]
  constructor
  · exact distinct
  · simp [path, query, target]

theorem cursorJson_wellFormed {cursor : MistCursor}
    (formed : ∀ entry ∈ carriedQuery cursor, entry.2.wellFormed = true) :
    cursor.toJson.wellFormed = true := by
  have mode : cursor.mode.toJson.wellFormed = true := by cases cursor.mode <;> rfl
  cases present : cursor.context with
  | none =>
      have distinct : (MistCursorWire.fields.take 4).Nodup := by decide
      rw [cursorJson_eq_none present, Json.wellFormed_object_iff]
      constructor
      · exact distinct
      · simp [mode]
  | some context =>
      rw [carriedQuery, present] at formed
      have inner := contextJson_wellFormed formed
      have distinct : MistCursorWire.fields.Nodup := by decide
      rw [cursorJson_eq_some present, Json.wellFormed_object_iff]
      constructor
      · exact distinct
      · simp [mode, inner]

theorem depth_string (value : String) : (Json.string value).depth = 0 := rfl

theorem contextJson_depth {context : MistCursorContext} {bound : Nat}
    (shallow : ∀ entry ∈ context.query.entries, entry.2.depth ≤ bound) :
    context.toJson.depth ≤ bound + 2 := by
  have path : (stringMapToJson context.path).depth ≤ bound + 1 := by
    refine Json.depth_object_le_iff.mpr fun member present => ?_
    obtain ⟨entry, _, rfl⟩ := List.mem_map.mp present
    exact Nat.zero_le _
  have query : (valueMapToJson context.query).depth ≤ bound + 1 :=
    Json.depth_object_le_iff.mpr shallow
  have target : (Json.ofOption (context.target.map fun target =>
      .string target.subject)).depth ≤ bound + 1 := by
    cases context.target <;> exact Nat.zero_le _
  rw [MistCursorContext.toJson, Json.depth_object_le_iff]
  simp [path, query, target]

/-- The text of a cursor is nested three levels deeper than its query. -/
theorem cursorJson_depth {cursor : MistCursor} {bound : Nat}
    (shallow : ∀ entry ∈ carriedQuery cursor, entry.2.depth ≤ bound) :
    cursor.toJson.depth ≤ bound + 3 := by
  have mode : cursor.mode.toJson.depth = 0 := by cases cursor.mode <;> rfl
  cases present : cursor.context with
  | none =>
      rw [cursorJson_eq_none present, Json.depth_object_le_iff]
      simp [mode, depth_string]
  | some context =>
      rw [carriedQuery, present] at shallow
      have inner := contextJson_depth shallow
      rw [cursorJson_eq_some present, Json.depth_object_le_iff]
      simp [mode, inner, depth_string]

variable [Platform] {cursor : MistCursor}

theorem validateEncodedSize_ok_iff : cursor.validateEncodedSize = .ok () ↔
    (serdeToString cursor.toJson).utf8ByteSize * 2 ≤ 262144 := by
  unfold MistCursor.validateEncodedSize
  split
  · rename_i large
    simp only [reduceCtorEq, false_iff]
    omega
  · rename_i small
    simp only [true_iff]
    omega

/-- There are two digits for each byte of the text. -/
theorem utf8ByteSize_encode (cursor : MistCursor) :
    cursor.encode.utf8ByteSize = 2 * (serdeToString cursor.toJson).utf8ByteSize := by
  rw [MistCursor.encode, Hex.utf8ByteSize_encode, Utf8.length_toUTF8]

theorem readCursor_text (formed : cursor.toJson.wellFormed = true) :
    readCursor (serdeToString cursor.toJson).toUTF8.toList = some cursor.wire := by
  have read : MistCursorWire.read cursor.toJson = .ok cursor.wire := reads_wire cursor.wire
  rw [readCursor, Utf8.fromUTF8_toUTF8]
  dsimp only
  rw [Platform.fromStr_toString _ formed]
  dsimp only
  rw [read]
  rfl

/-- The checks that follow the reading accept a cursor whose text fits. -/
theorem tryFrom_wire (normal : urlParse cursor.origin = some cursor.origin)
    (fits : cursor.validateEncodedSize = .ok ()) : MistCursor.tryFrom cursor.wire = .ok cursor := by
  obtain ⟨operationId, origin, mode, value, context, accepted⟩ := cursor
  have normal' : urlParse origin = some origin := normal
  rw [MistCursor.tryFrom, MistCursor.wire]
  dsimp only
  rw [normal']
  dsimp only
  rw [MistCursor.new_of_accepted origin accepted]
  dsimp only
  rw [fits]

end Texts

section Decoding

variable [ServerPlatform] {cursor : MistCursor}

/-- A cursor whose text fits is decoded from its digits. -/
theorem decodeCursor_encode (unread : ∀ json, serdeFromStr "" ≠ .ok json)
    (normal : urlParse cursor.origin = some cursor.origin)
    (formed : cursor.toJson.wellFormed = true) (fits : cursor.validateEncodedSize = .ok ()) :
    decodeCursor cursor.encode = some cursor := by
  have size := utf8ByteSize_encode cursor
  have small := validateEncodedSize_ok_iff.mp fits
  have nonempty : cursor.encode.isEmpty = false := by
    apply Bool.eq_false_of_not_eq_true
    intro empty
    rw [String.isEmpty_iff] at empty
    rw [empty] at size
    have text : serdeToString cursor.toJson = "" := by
      rw [← String.utf8ByteSize_eq_zero_iff]
      have zero : ("" : String).utf8ByteSize = 0 := rfl
      omega
    have read := Platform.fromStr_toString cursor.toJson formed
    rw [text] at read
    exact unread _ read
  have digits : cursor.encode.toList.all (fun byte => (Hex.value byte).isSome) = true := by
    rw [MistCursor.encode, Hex.encode, String.toList_ofList, List.all_eq_true]
    exact fun char member => Hex.isSome_value_of_mem member
  have short : ¬cursor.encode.utf8ByteSize > 262144 := by omega
  have even : ¬cursor.encode.utf8ByteSize % 2 ≠ 0 := by omega
  have decoded : Hex.decode cursor.encode =
      some (serdeToString cursor.toJson).toUTF8.toList := Hex.decode_encode _
  rw [decodeCursor, nonempty, digits, decide_eq_false short, decide_eq_false even, decoded,
    Option.bind_some, readCursor_text formed, Option.bind_some, tryFrom_wire normal fits]
  rfl

/-- This is the continuation that a result hands to its caller. -/
def emittedCursor (result : CallToolResult) : Option String :=
  match result.first with
  | .other => none
  | .text text =>
      match serdeFromStr text with
      | .error _ => none
      | .ok json => (json.get "next_cursor").bind Json.asString

/-- A result that is not an error hands over the cursor of its envelope. -/
theorem emittedCursor_toolResult {envelope : ReadEnvelope}
    (formed : envelope.data.wellFormed = true)
    (returned : (toolResult (.ok envelope.toJson)).isError ≠ some true) :
    emittedCursor (toolResult (.ok envelope.toJson)) = envelope.nextCursor := by
  rcases toolResult_ok envelope.toJson (envelope_wellFormed envelope formed) with
    failed | ⟨text, first, parsed⟩
  · exact absurd failed returned
  · have member : envelope.toJson.get "next_cursor" =
        some (Json.ofOption (envelope.nextCursor.map Json.string)) := rfl
    rw [emittedCursor, first]
    dsimp only
    rw [parsed]
    dsimp only
    rw [member]
    cases envelope.nextCursor <;> rfl

theorem attachContext_cursor {response accepted : MistResponse} {path : PathValues}
    {query : QueryValues} {target : Option MistTarget} {cursor : MistCursor}
    (attached : attachContext response path query target = .ok accepted)
    (present : accepted.cursor = some cursor) :
    ∃ source, response.cursor = some source ∧
      cursor = { source with context := some ⟨path, query, target⟩ } ∧
      cursor.validateEncodedSize = .ok () := by
  unfold attachContext at attached
  split at attached
  · rename_i absent
    rw [← Except.ok.inj attached, absent] at present
    cases present
  · rename_i source given
    split at attached
    · rename_i carried checked
      unfold MistCursor.withRequestContext at checked
      obtain ⟨_, fits, same⟩ := bind_eq_ok_iff.mp checked
      rw [← Except.ok.inj attached] at present
      obtain rfl := Option.some.inj present
      obtain rfl := Except.ok.inj same
      exact ⟨source, given, rfl, fits⟩
    · cases attached

/-- A derived target gives back the target of the context. -/
theorem derivedTarget_of_admitted {handler : MistHandler} {read : CatalogRead}
    {caller : Option CallerCtx} {target : Option MistTarget}
    (admitted : admitRead handler read caller = .ok target) :
    derivedTarget handler.catalog read.operationId read.path = target := by
  obtain ⟨operation, catalogued, _, _, derived, _⟩ := admitRead_ok admitted
  rw [derivedTarget, catalogued, Option.bind_some, derived.targetFor_eq]

/-- The dispatcher resolves a decoded cursor to the path and the query that it carries. -/
theorem resolveArgs_of_decoded {handler : MistHandler} {operationId encoded : String}
    {cursor : MistCursor} {context : MistCursorContext}
    (decoded : decodeCursor encoded = some cursor) (carried : cursor.context = some context)
    (derived : derivedTarget handler.catalog operationId context.path = context.target) :
    resolveArgs handler ⟨operationId, none, none, some encoded⟩ =
      .ok (context.path, context.query, some cursor) := by
  have requested : cursor.requestContext = some context := carried
  simp only [resolveArgs, Option.isSome_none, Bool.or_self, Bool.and_false, Bool.false_eq_true,
    if_false, decoded, requested, derived, ne_eq, not_true_eq_false]

end Decoding

section Continued

variable [Platform]

/-- The parameters are judged without the cursor. -/
theorem validateParameterValues_cursor (request : MistRequest) (cursor : Option MistCursor)
    (catalog : Catalog) (location : ParameterLocation) (parameters : List MistParameter) :
    validateParameterValues { request with cursor := cursor } catalog location parameters =
      validateParameterValues request catalog location parameters := by
  have supplied (name : String) : suppliedValue { request with cursor := cursor } name location =
      suppliedValue request name location := by cases location <;> rfl
  induction parameters with
  | nil => rfl
  | cons parameter rest ih =>
      rw [validateParameterValues, validateParameterValues, ih, supplied]
      rfl

theorem validateParameters_cursor (request : MistRequest) (cursor : Option MistCursor)
    (operation : MistOperation) (catalog : Catalog) :
    validateParameters { request with cursor := cursor } operation catalog =
      validateParameters request operation catalog := by
  simp only [validateParameters, validateParameterSet, validateParameterValues_cursor]
  rfl

/-- A valid request stays valid with another cursor of its operation and origin. -/
theorem ValidRequest.continued {request : MistRequest} {catalog : Catalog} {origin : String}
    {operation : MistOperation} (valid : ValidRequest request catalog origin operation)
    {cursor : MistCursor} (bound : cursor.validateFor operation origin = .ok ()) :
    ValidRequest { request with cursor := some cursor } catalog origin operation where
  bounds := valid.bounds
  catalogued := valid.catalogued
  parameters := by
    rw [validateParameters_cursor]
    exact valid.parameters
  body := valid.body
  cursor := bound

end Continued

section RoundTrip

variable [ServerPlatform]

/-- The depth from which on the reader of JSON texts gives up. -/
def recursionLimit : Nat := 128

/-- A cursor that was emitted for a read comes back as it was and continues the read. -/
structure CursorReturns (handler : MistHandler) (read : CatalogRead) (operation : MistOperation)
    (target : Option MistTarget) (source : MistCursor) (encoded : String) (cursor : MistCursor) :
    Prop where
  emitted : encoded = cursor.encode
  even : encoded.utf8ByteSize % 2 = 0
  fits : encoded.utf8ByteSize ≤ 262144
  shallow : cursor.toJson.depth < recursionLimit
  decoded : decodeCursor encoded = some cursor
  /-- The bindings are those of the read and of the continuation that the client derived. -/
  operationId : cursor.operationId = operation.operationId
  origin : cursor.origin = handler.origin
  mode : cursor.mode = source.mode
  value : cursor.value = source.value
  context : cursor.context = some ⟨read.path, read.query, target⟩
  /-- The dispatcher resolves the cursor to the path and the query of the read. -/
  resolved : resolveArgs handler ⟨read.operationId, none, none, some encoded⟩ =
    .ok (read.path, read.query, some cursor)
  continues : cursor.validateFor operation handler.origin = .ok ()
  valid : ({ read.request with cursor := some cursor }).validate handler.catalog handler.origin =
    .ok { read.request with cursor := some cursor }

/-- Every continuation that a successful read emits comes back as the same cursor. -/
theorem cursor_round_trip (handler : MistHandler)
    (normal : urlParse handler.origin = some handler.origin)
    (unread : ∀ json, serdeFromStr "" ≠ .ok json) (read : CatalogRead)
    (formed : ∀ entry ∈ read.query.entries, entry.2.wellFormed = true) (caller : Option CallerCtx)
    (history : MistHistory) (result : CallToolResult) (encoded : String)
    (run : Completes (dispatchCataloguedRead handler read caller) history result)
    (returned : result.isError ≠ some true) (emitted : emittedCursor result = some encoded) :
    ∃ operation target response source cursor,
      handler.catalog.operation read.operationId = some operation ∧
      targetFor operation.targetSelectors read.path = .ok target ∧
      (⟨.response, .ok response⟩ : MistEvent) ∈ history ∧ response.cursor = some source ∧
      CursorReturns handler read operation target source encoded cursor := by
  obtain ⟨target, response, accepted, whole⟩ := dispatchCataloguedRead_completes run returned
  obtain ⟨before, budget, rfl, rfl⟩ := whole.answered
  have data : (ReadEnvelope.fromResponse accepted target budget
      read.redactOutput).data.wellFormed = true := by
    rw [ReadEnvelope.fromResponse]
    dsimp only
    split
    · exact ServerPlatform.redactJsonValue_wellFormed _ (envelopeData_wellFormed accepted.body)
    · exact envelopeData_wellFormed accepted.body
  rw [emittedCursor_toolResult data returned] at emitted
  obtain ⟨cursor, carried, rfl⟩ := Option.map_eq_some_iff.mp emitted
  obtain ⟨source, given, same, fits⟩ :=
    attachContext_cursor (acceptResponse_attached whole.passed) carried
  obtain ⟨answers, judged, _⟩ := acceptResponse_ok whole.passed
  obtain ⟨-, operation, catalogued, bound⟩ := response_validate_ok judged
  rw [given] at bound
  obtain ⟨named, located, paged⟩ := validateFor_ok_iff.mp bound
  rw [answers] at catalogued
  obtain ⟨-, operation', checks⟩ := validate_eq_ok_iff.mp whole.valid
  obtain rfl := Option.some.inj (catalogued.symm.trans checks.catalogued)
  obtain ⟨operation', catalogued', _, _, derived, _⟩ := admitRead_ok whole.admitted
  obtain rfl := Option.some.inj (catalogued.symm.trans catalogued')
  have target' := derivedTarget_of_admitted whole.admitted
  have located' : cursor.origin = handler.origin := by rw [same]; exact located
  have context : cursor.context = some ⟨read.path, read.query, target⟩ := by rw [same]; rfl
  have continues : cursor.validateFor operation handler.origin = .ok () := by
    rw [same]
    exact bound
  have query : carriedQuery cursor = read.query.entries := by rw [carriedQuery, context]
  have decoded : decodeCursor cursor.encode = some cursor :=
    decodeCursor_encode unread (by rw [located', normal])
      (cursorJson_wellFormed (by rw [query]; exact formed)) fits
  have size := utf8ByteSize_encode cursor
  have small := validateEncodedSize_ok_iff.mp fits
  have shallow : cursor.toJson.depth ≤ 33 + 3 :=
    cursorJson_depth (by rw [query]; exact query_depth checks.bounds)
  have resolved : resolveArgs handler ⟨read.operationId, none, none, some cursor.encode⟩ =
      .ok (read.path, read.query, some cursor) := resolveArgs_of_decoded decoded context target'
  refine ⟨operation, target, response, source, cursor, catalogued, derived.targetFor_eq, by simp,
    given, ?_⟩
  exact {
    emitted := rfl
    even := by omega
    fits := by omega
    shallow := Nat.lt_of_le_of_lt shallow (by decide)
    decoded := decoded
    operationId := by rw [same]; exact named
    origin := located'
    mode := by rw [same]
    value := by rw [same]
    context := context
    resolved := resolved
    continues := continues
    valid := (checks.continued continues).validate }

end RoundTrip

end RustMist

namespace RustMist.Network

open Effects Effects.Program

section Continuation

/-- This server knows the list of sites only. -/
def siteHandler : MistHandler := { handler with catalog := siteCatalog }

def siteRead : CatalogRead where
  tool := "invoke_mist_read"
  operationId := siteListing.operationId
  path := (listOrgSitesRequest orgId 1).path
  query := (listOrgSitesRequest orgId 1).query
  cursor := none
  capability := .ordinaryRead
  redactOutput := true

theorem admitRead_sites : admitRead siteHandler siteRead none = .ok (some target) := by
  have named : siteRead.operationId = siteListing.operationId := rfl
  have found : siteHandler.catalog.operation siteListing.operationId =
      some (sealed siteListing) := operation_sites
  have derived : targetFor (sealed siteListing).targetSelectors siteRead.path =
      .ok (some target) := by
    change targetFor [.org] ((∅ : PathValues).insert "org_id" orgId) = _
    have accepted : MistTarget.org orgId = .ok target := MistTarget.org_ok_iff.mpr ⟨rfl, rfl⟩
    simp only [targetFor, SortedMap.get_insert, if_true, accepted]
  rw [admitRead, named, found]
  dsimp only
  rw [derived]
  rfl

theorem emptyPage_formed : (Json.array []).wellFormed = true := rfl

/-- An empty page that claims to be followed by another. -/
def firstPage : MistResponse := continuedResponse ⟨.array [], emptyPage_formed⟩ (some secondSites)

/-- The continuation with the context of the read. -/
def carriedSites : MistCursor :=
  { secondSites with context := some ⟨siteRead.path, siteRead.query, some target⟩ }

theorem carriedSites_size : (serdeToString carriedSites.toJson).utf8ByteSize ≤ 2000 := by
  have letters : (Json.Text.render carriedSites.toJson).length ≤ 500 := by decide +kernel
  have bytes := Utf8.byteSize_ofList_le (Json.Text.render carriedSites.toJson)
  change (String.ofList (Json.Text.render carriedSites.toJson)).utf8ByteSize ≤ 2000
  omega

theorem carriedSites_fits : carriedSites.validateEncodedSize = .ok () := by
  have size := carriedSites_size
  rw [validateEncodedSize_ok_iff]
  omega

def carriedPage : MistResponse := { firstPage with cursor := some carriedSites }

theorem accept_firstPage : acceptResponse siteHandler siteRead.request (some target) firstPage =
    .ok carriedPage := by
  have bounds : validateResponseBounds firstPage = .ok () := by decide +kernel
  have meets : responseBodyProblem (.json ⟨.array [], emptyPage_formed⟩)
      (SortedMap.ofList [("application/json", arraySchema)]) siteCatalog = .ok () := by
    decide +kernel
  have named : firstPage.operationId = siteRead.request.operationId := rfl
  have valid : firstPage.validate siteHandler.catalog siteHandler.origin = .ok firstPage :=
    validate_response_page bounds meets rfl
  have success : isSuccess firstPage.status = true := isSuccess_page _ _
  have given : firstPage.cursor = some secondSites := rfl
  have carried : secondSites.withRequestContext siteRead.request.path siteRead.request.query
      (some target) = .ok carriedSites := by
    rw [MistCursor.withRequestContext]
    exact bind_of_ok carriedSites_fits
  rw [acceptResponse, if_neg (not_not_intro named), valid]
  dsimp only
  rw [success, attachContext, given]
  dsimp only
  rw [carried]
  rfl

theorem formed_siteRead : ∀ entry ∈ siteRead.query.entries, entry.2.wellFormed = true := by
  decide

def siteEnvelope : ReadEnvelope := ReadEnvelope.fromResponse carriedPage (some target) none true

def siteReadEvents : MistHistory :=
  [⟨.executeAs siteRead.request .standard, ()⟩, ⟨.response, .ok firstPage⟩, ⟨.budgetStatus, none⟩]

theorem limit_sites : validatePageLimit siteRead.query = .ok () := by
  have supplied : siteRead.query.get "limit" = some (Json.ofNat pageLimit) := by
    simp [siteRead, listOrgSitesRequest]
  rw [validatePageLimit, supplied]
  exact if_pos (by decide)

theorem siteRead_completes : Completes (dispatchCataloguedRead siteHandler siteRead none)
    siteReadEvents (toolResult (.ok siteEnvelope.toJson)) := by
  have valid : siteRead.request.validate siteHandler.catalog siteHandler.origin =
      .ok siteRead.request := validate_page List.mem_cons_self (by decide)
  rw [dispatchCataloguedRead_sends admitRead_sites rfl List.mem_cons_self limit_sites valid]
  exact sendRead_returns none accept_firstPage

/-- The members of the envelope around its continuation. -/
def membersWith (encoded : String) : List (String × Json) :=
  [("operation_id", .string siteListing.operationId), ("target", .string target.subject),
    ("status", Json.ofNat 200), ("content_type", .string "application/json"),
    ("data", .array []), ("next_cursor", .string encoded), ("truncated", .bool false)]

theorem siteEnvelope_toJson : siteEnvelope.toJson = .object (membersWith carriedSites.encode) := rfl

/-- The other members take less than three hundred letters. -/
theorem length_membersWith (encoded : String) :
    Json.Text.memberLengths (membersWith encoded) ≤ 6 * encoded.toList.length + 300 := by
  have front : Json.Text.memberLengths ((membersWith "").take 5) ≤ 200 := by decide +kernel
  have back : Json.Text.memberLengths ((membersWith "").drop 6) ≤ 50 := by decide
  have name : (Json.Text.renderString "next_cursor").length = 13 := by decide
  have text := Json.Text.length_renderString_le encoded
  have split : Json.Text.memberLengths (membersWith encoded) =
      Json.Text.memberLengths ((membersWith "").take 5) +
        ((Json.Text.renderMember ("next_cursor", .string encoded)).length + 1 +
          Json.Text.memberLengths ((membersWith "").drop 6)) := by
    simp only [membersWith, Json.Text.memberLengths, List.take, List.drop, List.map, List.sum_cons,
      List.sum_nil]
    omega
  have member : (Json.Text.renderMember ("next_cursor", .string encoded)).length =
      (Json.Text.renderString "next_cursor").length +
        ((Json.Text.renderString encoded).length + 1) := by
    rw [Json.Text.renderMember, List.length_append, List.length_cons, Json.Text.render]
  omega

theorem length_carriedSites : carriedSites.encode.toList.length ≤ 4000 := by
  have size := carriedSites_size
  rw [MistCursor.encode, Hex.encode, String.toList_ofList, Hex.length_encodeChars,
    Utf8.length_toUTF8]
  omega

theorem siteRead_returned : (toolResult (.ok siteEnvelope.toJson)).isError ≠ some true := by
  have members := length_membersWith carriedSites.encode
  have digits := length_carriedSites
  have rest := Json.Text.length_renderMembers (membersWith carriedSites.encode)
  have bytes := Utf8.byteSize_ofList_le (Json.Text.render siteEnvelope.toJson)
  have small : ¬(Json.Text.write siteEnvelope.toJson).utf8ByteSize > resultLimits.maxTextBytes := by
    have limit : resultLimits.maxTextBytes = 524288 := rfl
    rw [siteEnvelope_toJson, Json.Text.render, List.length_cons] at bytes
    rw [limit, Json.Text.write, siteEnvelope_toJson, Json.Text.render]
    omega
  change (Reference.result (.ok siteEnvelope.toJson) resultLimits).isError ≠ some true
  rw [Reference.result, if_neg small]
  decide

theorem urlParse_reference (text : String) : urlParse text = some text := rfl

/-- No text that is empty is read. -/
theorem readText_empty (json : Json) : serdeFromStr "" ≠ .ok json := by
  have absent : (Json.Text.read "").isNone = true := by decide
  intro read
  change Reference.readText "" = .ok json at read
  rw [Reference.readText, Option.isNone_iff_eq_none.mp absent] at read
  cases read

theorem cursor_round_trip_sites :
    ∃ operation target response source cursor,
      siteHandler.catalog.operation siteRead.operationId = some operation ∧
      targetFor operation.targetSelectors siteRead.path = .ok target ∧
      (⟨.response, .ok response⟩ : MistEvent) ∈ siteReadEvents ∧ response.cursor = some source ∧
      CursorReturns siteHandler siteRead operation target source carriedSites.encode cursor :=
  cursor_round_trip siteHandler (urlParse_reference _) readText_empty siteRead formed_siteRead none siteReadEvents
    (toolResult (.ok siteEnvelope.toJson)) carriedSites.encode siteRead_completes siteRead_returned
    ((emittedCursor_toolResult rfl siteRead_returned).trans rfl)

end Continuation

end RustMist.Network
