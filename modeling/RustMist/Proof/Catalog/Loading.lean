import RustMist.Construction.Core.CatalogDocument

/-! What the loader guarantees of a catalog, and which documents it accepts. -/

namespace RustMist

section Checks

variable {α β ε : Type}

theorem bind_eq_ok_iff {first : Except ε α} {next : α → Except ε β} {result : β} :
    (first >>= next) = .ok result ↔ ∃ value, first = .ok value ∧ next value = .ok result := by
  cases first with
  | error error => simp [Bind.bind, Except.bind]
  | ok value => simp [Bind.bind, Except.bind]

theorem bind_of_ok {first : Except ε α} {value : α} (found : first = .ok value)
    {next : α → Except ε β} : (first >>= next) = next value := by
  rw [found]
  rfl

theorem exists_ok_iff {first : Except ε Unit} : (∃ value, first = .ok value) ↔ first = .ok () :=
  ⟨fun ⟨_, found⟩ => found, fun found => ⟨(), found⟩⟩

theorem require_eq_ok_iff {condition : Bool} {error : CatalogError} {result : Unit} :
    require condition error = .ok result ↔ condition = true := by
  cases condition <;> simp [require]

/-- The checks of a record on its own. -/
structure ValidOperation (operation : MistOperation) : Prop where
  path : safePath operation.path = true
  key : operation.operationKey = operation.method ++ " " ++ operation.path
  scope : scopeForPath operation.path = some operation.scope
  tool : toolName operation.operationId = .ok operation.tool
  method : operation.method ∈ ["GET", "POST", "PUT", "PATCH", "DELETE"]
  action : operation.capability = operation.action
  reason : operation.classificationReason.isEmpty = false
  classified : isLowerHexDigest operation.classificationSourceFingerprint = true
  allowed : methodAllowsAction operation.method operation.action = true
  targets : operation.targetSelectors = targetsForPath operation.path
  media : canonicalRequestMedia operation.requestSchemas = .ok operation.requestMediaTypes
  body : (operation.requestBodyRequired && operation.requestMediaTypes.isEmpty) = false
  transport : transportForMedia operation.requestMediaTypes = .ok operation.transport
  pagination : operation.pagination = paginationForParameters operation.parameters
  responseMedia : responseMedia operation.responses = operation.responseMediaTypes
  parameters : (operation.parameters.all fun parameter => parameter.schema.isObject) = true
  schemas : operation.requestSchemas.values.all Json.isObject = true
  responses : (operation.responses.values.all fun media => media.values.all Json.isObject) = true
  fingerprint : isLowerHexDigest operation.sourceFingerprint = true

/-- A record passes when it is valid and stands after the previous one. -/
theorem validateOperation_eq_ok_iff {operation : MistOperation} {previousKey : Option String}
    {result : Unit} : validateOperation operation previousKey = .ok result ↔
      (∀ previous, previousKey = some previous → previous < operation.operationKey) ∧
        ValidOperation operation := by
  have order : (!previousKey.any (operation.operationKey ≤ ·)) = true ↔
      ∀ previous, previousKey = some previous → previous < operation.operationKey := by
    cases previousKey <;> simp
  unfold validateOperation
  simp only [bind_eq_ok_iff, require_eq_ok_iff, exists_const, order, decide_eq_true_eq,
    Bool.not_eq_true']
  constructor
  · rintro ⟨above, path, key, scope, tool, named, rfl, method, action, reason, classified, allowed,
      targets, media, canonical, rfl, body, transport, encoded, rfl, pagination, answers,
      parameters, schemas, responses, fingerprint⟩
    exact ⟨above, path, key, scope, named, method, action, reason, classified, allowed, targets,
      canonical, body, encoded, pagination, answers, parameters, schemas, responses, fingerprint⟩
  · rintro ⟨above, valid⟩
    exact ⟨above, valid.path, valid.key, valid.scope, _, valid.tool, rfl, valid.method,
      valid.action, valid.reason, valid.classified, valid.allowed, valid.targets, _, valid.media,
      rfl, valid.body, _, valid.transport, rfl, valid.pagination, valid.responseMedia,
      valid.parameters, valid.schemas, valid.responses, valid.fingerprint⟩

end Checks

variable [Platform]

section States

/-- What the loop knows of the operations that it has passed. -/
structure LoadState.Passed (state : LoadState) (passed : List MistOperation) : Prop where
  ids : ∀ id, id ∈ state.ids ↔ id ∈ passed.map MistOperation.operationId
  keys : ∀ key, key ∈ state.keys ↔ key ∈ passed.map MistOperation.operationKey
  tools : ∀ tool, tool ∈ state.tools ↔ tool ∈ passed.map MistOperation.tool
  previous : state.previousKey = passed.getLast?.map MistOperation.operationKey
  indexed : ∀ id index, state.operationIndex.get id = some index ↔
    passed[index]?.map MistOperation.operationId = some id

omit [Platform] in
theorem LoadState.passed_start : LoadState.start.Passed [] where
  ids _ := Iff.rfl
  keys _ := Iff.rfl
  tools _ := Iff.rfl
  previous := rfl
  indexed id index := by
    constructor
    · intro found
      cases found
    · intro found
      simp at found

variable {raw : Option Json} {state state' : LoadState} {passed rest : List MistOperation}
  {operation : MistOperation}

omit [Platform] in
theorem LoadState.Passed.advance (known : state.Passed passed)
    (fresh : operation.operationId ∉ passed.map MistOperation.operationId) :
    (state.advance passed.length operation).Passed (passed ++ [operation]) where
  ids id := by simp [LoadState.advance, known.ids, or_comm]
  keys key := by simp [LoadState.advance, known.keys, or_comm]
  tools tool := by simp [LoadState.advance, known.tools, or_comm]
  previous := by simp [LoadState.advance]
  indexed id index := by
    simp only [LoadState.advance, SortedMap.get_insert]
    by_cases same : id = operation.operationId
    · subst same
      rw [if_pos rfl]
      constructor
      · intro found
        obtain rfl := Option.some.inj found
        simp
      · intro found
        rcases Nat.lt_trichotomy index passed.length with below | rfl | above
        · rw [List.getElem?_append_left below] at found
          obtain ⟨other, present, named⟩ := Option.map_eq_some_iff.mp found
          exact absurd (named ▸ List.mem_map_of_mem (List.mem_of_getElem? present)) fresh
        · rfl
        · rw [List.getElem?_eq_none (by simp; omega)] at found
          cases found
    · rw [if_neg same, known.indexed]
      rcases Nat.lt_trichotomy index passed.length with below | rfl | above
      · rw [List.getElem?_append_left below]
      · simp [Ne.symm same]
      · rw [List.getElem?_eq_none (by omega), List.getElem?_eq_none (by simp; omega)]

/-- The fingerprint of a record is checked where the raw document is given. -/
def FingerprintHolds (raw : Option Json) (index : Nat) (operation : MistOperation) : Prop :=
  ∀ document, raw = some document → checkFingerprint document index operation = .ok ()

/-- One round accepts a new and valid record that stands after the previous one. -/
theorem loadOperation_eq_ok_iff {index : Nat} (known : state.Passed passed) :
    loadOperation raw state index operation = .ok state' ↔
      (operation.operationId ∉ passed.map MistOperation.operationId ∧
        operation.operationKey ∉ passed.map MistOperation.operationKey ∧
        operation.tool ∉ passed.map MistOperation.tool) ∧
      (∀ previous, passed.getLast? = some previous →
        previous.operationKey < operation.operationKey) ∧
      ValidOperation operation ∧ FingerprintHolds raw index operation ∧
      state' = state.advance index operation := by
  have order : (∀ previous, state.previousKey = some previous →
      previous < operation.operationKey) ↔
        ∀ previous, passed.getLast? = some previous →
          previous.operationKey < operation.operationKey := by
    rw [known.previous]
    simp
  unfold loadOperation FingerprintHolds
  simp only [bind_eq_ok_iff, require_eq_ok_iff, exists_const, Bool.and_eq_true, decide_eq_true_eq,
    known.ids, known.keys, known.tools, validateOperation_eq_ok_iff, order, and_assoc]
  have last : (Except.ok (state.advance index operation) : Except CatalogError LoadState) =
      .ok state' ↔ state' = state.advance index operation := by
    rw [Except.ok.injEq, eq_comm]
  cases raw with
  | none => simp [bind_eq_ok_iff, last]
  | some document => simp [bind_eq_ok_iff, last, exists_ok_iff]

/-- The records of a catalog differ in identifier, key and tool and stand in the order of their
keys. -/
structure DistinctOperations (operations : List MistOperation) : Prop where
  ids : (operations.map MistOperation.operationId).Nodup
  keys : (operations.map MistOperation.operationKey).Nodup
  tools : (operations.map MistOperation.tool).Nodup
  ordered : (operations.map MistOperation.operationKey).Pairwise (· < ·)

omit [Platform] in
theorem DistinctOperations.nil : DistinctOperations [] :=
  ⟨List.nodup_nil, List.nodup_nil, List.nodup_nil, .nil⟩

omit [Platform] in
/-- A new record after the last one keeps the records distinct. -/
theorem DistinctOperations.snoc (distinct : DistinctOperations passed)
    (fresh : operation.operationId ∉ passed.map MistOperation.operationId ∧
      operation.operationKey ∉ passed.map MistOperation.operationKey ∧
      operation.tool ∉ passed.map MistOperation.tool)
    (above : ∀ previous, passed.getLast? = some previous →
      previous.operationKey < operation.operationKey) :
    DistinctOperations (passed ++ [operation]) where
  ids := by
    rw [List.map_append, List.nodup_append_comm]
    exact List.nodup_cons.mpr ⟨fresh.1, distinct.ids⟩
  keys := by
    rw [List.map_append, List.nodup_append_comm]
    exact List.nodup_cons.mpr ⟨fresh.2.1, distinct.keys⟩
  tools := by
    rw [List.map_append, List.nodup_append_comm]
    exact List.nodup_cons.mpr ⟨fresh.2.2, distinct.tools⟩
  ordered := by
    rw [List.map_append, List.pairwise_append]
    refine ⟨distinct.ordered, List.pairwise_singleton _ _, ?_⟩
    intro key member other last
    rw [List.map_singleton, List.mem_singleton] at last
    subst last
    rcases List.eq_nil_or_concat passed with rfl | ⟨before, previous, rfl⟩
    · exact absurd member List.not_mem_nil
    · have below : previous.operationKey < operation.operationKey := above previous (by simp)
      have ordered := distinct.ordered
      rw [List.concat_eq_append, List.map_append] at member ordered
      rcases List.mem_append.mp member with earlier | same
      · exact lt_trans ((List.pairwise_append.mp ordered).2.2 key earlier _ List.mem_cons_self) below
      · rw [List.map_singleton, List.mem_singleton] at same
        rw [same]
        exact below

/-- The loop accepts the rest of the records when each meets the conditions of its round. -/
theorem loadOperations_passed (known : state.Passed passed)
    (loaded : loadOperations raw state passed.length rest = .ok state') :
    state'.Passed (passed ++ rest) ∧ (∀ operation ∈ rest, ValidOperation operation) ∧
      (DistinctOperations passed → DistinctOperations (passed ++ rest)) := by
  induction rest generalizing state passed with
  | nil =>
      obtain rfl := Except.ok.inj loaded
      simp [known]
  | cons operation rest ih =>
      obtain ⟨next, round, later⟩ := bind_eq_ok_iff.mp loaded
      obtain ⟨fresh, above, valid, _, rfl⟩ := (loadOperation_eq_ok_iff known).mp round
      have length : passed.length + 1 = (passed ++ [operation]).length := by simp
      rw [length] at later
      obtain ⟨after, others, distinct⟩ := ih (known.advance fresh.1) later
      rw [List.append_assoc, List.singleton_append] at after distinct
      refine ⟨after, ?_, fun before => distinct (before.snoc fresh above)⟩
      intro other member
      rcases List.mem_cons.mp member with rfl | member
      · exact valid
      · exact others other member

/-- The state after the records from an index on. -/
def LoadState.through (state : LoadState) (index : Nat) : List MistOperation → LoadState
  | [] => state
  | operation :: rest => (state.advance index operation).through (index + 1) rest

/-- The loop accepts valid records with unique identifiers and tools in the order of their keys. -/
theorem loadOperations_accepts (known : state.Passed passed)
    (valid : ∀ operation ∈ rest, ValidOperation operation)
    (sorted : ((passed ++ rest).map MistOperation.operationKey).Pairwise (· < ·))
    (ids : ((passed ++ rest).map MistOperation.operationId).Nodup)
    (tools : ((passed ++ rest).map MistOperation.tool).Nodup)
    (fingerprints : ∀ index operation, rest[index]? = some operation →
      FingerprintHolds raw (passed.length + index) operation) :
    loadOperations raw state passed.length rest = .ok (state.through passed.length rest) := by
  induction rest generalizing state passed with
  | nil => rfl
  | cons operation rest ih =>
      rw [List.map_append, List.map_cons] at sorted ids tools
      have above := (List.pairwise_append.mp sorted).2.2
      have freshId := List.disjoint_of_nodup_append ids
      have freshTool := List.disjoint_of_nodup_append tools
      have fresh : operation.operationId ∉ passed.map MistOperation.operationId :=
        fun member => freshId member List.mem_cons_self
      have round : loadOperation raw state passed.length operation =
          .ok (state.advance passed.length operation) := by
        refine (loadOperation_eq_ok_iff known).mpr ⟨⟨fresh, fun member => ?_, fun member => ?_⟩,
          fun previous last => ?_, valid operation List.mem_cons_self, ?_, rfl⟩
        · exact lt_irrefl _ (above _ member _ List.mem_cons_self)
        · exact freshTool member List.mem_cons_self
        · exact above _ (List.mem_map_of_mem (List.mem_of_getLast? last)) _ List.mem_cons_self
        · simpa using fingerprints 0 operation rfl
      have length : passed.length + 1 = (passed ++ [operation]).length := by simp
      have loaded := ih (known.advance fresh)
        (fun other member => valid other (List.mem_cons_of_mem _ member))
        (by simpa using sorted) (by simpa using ids) (by simpa using tools)
        (fun index other found => by
          rw [List.length_append, List.length_singleton, Nat.add_assoc, Nat.add_comm 1 index]
          exact fingerprints (index + 1) other found)
      refine bind_eq_ok_iff.mpr ⟨_, round, ?_⟩
      rw [LoadState.through, length]
      exact loaded

end States

section Documents

variable {catalog : Catalog} {document : CatalogDocument} {raw : Option Json}

/-- The index of a list of records under their identifiers. -/
def indexOf (operations : List MistOperation) : SortedMap String Nat :=
  SortedMap.ofList (operations.zipIdx.map fun entry => (entry.1.operationId, entry.2))

omit [Platform] in
theorem LoadState.through_index (state : LoadState) (index : Nat)
    (operations : List MistOperation) :
    (state.through index operations).operationIndex =
      ((operations.zipIdx index).map fun entry => (entry.1.operationId, entry.2)).foldl
        (fun map entry => map.insert entry.1 entry.2) state.operationIndex := by
  induction operations generalizing state index with
  | nil => rfl
  | cons operation rest ih => exact ih (state.advance index operation) (index + 1)

/-- A document is accepted when its records pass the loop and their verification policies hold. -/
theorem Catalog.parseDocument_accepts
    (valid : ∀ operation ∈ document.operations, ValidOperation operation)
    (sorted : (document.operations.map MistOperation.operationKey).Pairwise (· < ·))
    (ids : (document.operations.map MistOperation.operationId).Nodup)
    (tools : (document.operations.map MistOperation.tool).Nodup)
    (fingerprints : ∀ index operation, document.operations[index]? = some operation →
      FingerprintHolds raw index operation)
    (verified : validateVerification document.operations (indexOf document.operations) = .ok ()) :
    Catalog.parseDocument document raw = .ok {
      source := document.source
      components := document.components
      operations := document.operations
      audit := document.audit
      operationIndex := indexOf document.operations } := by
  have loaded := loadOperations_accepts LoadState.passed_start valid sorted ids tools
    (fun index operation found => by
      rw [List.length_nil, Nat.zero_add]
      exact fingerprints index operation found)
  have index := LoadState.through_index LoadState.start 0 document.operations
  unfold Catalog.parseDocument
  refine bind_eq_ok_iff.mpr ⟨_, loaded, ?_⟩
  change (validateVerification _ (LoadState.start.through 0 document.operations).operationIndex >>=
    _) = _
  rw [index]
  exact bind_eq_ok_iff.mpr ⟨(), verified, by rw [List.length_nil, index]; rfl⟩

/-- An accepted catalog holds valid records and finds each by its identifier. -/
structure Catalog.Loaded (catalog : Catalog) : Prop where
  valid : ∀ operation ∈ catalog.operations, ValidOperation operation
  distinct : (catalog.operations.map MistOperation.operationId).Nodup
  found : ∀ id operation, catalog.operation id = some operation ↔
    operation ∈ catalog.operations ∧ operation.operationId = id

omit [Platform] in
/-- Unique identifiers make the index find exactly the listed records. -/
theorem operation_eq_some_iff {operations : List MistOperation} {index : SortedMap String Nat}
    (indexed : ∀ id position, index.get id = some position ↔
      operations[position]?.map MistOperation.operationId = some id) {id : String}
    {operation : MistOperation} :
    ((index.get id).bind fun position => operations[position]?) = some operation ↔
      operation ∈ operations ∧ operation.operationId = id := by
  rw [Option.bind_eq_some_iff]
  constructor
  · rintro ⟨position, found, present⟩
    refine ⟨List.mem_of_getElem? present, ?_⟩
    have named := (indexed id position).mp found
    rw [present] at named
    exact Option.some.inj named
  · rintro ⟨member, rfl⟩
    obtain ⟨position, present⟩ := List.mem_iff_getElem?.mp member
    exact ⟨position, (indexed _ _).mpr (by rw [present]; rfl), present⟩

/-- What the loader has checked of the records together. -/
structure Catalog.Checked (catalog : Catalog) : Prop where
  loaded : catalog.Loaded
  distinct : DistinctOperations catalog.operations
  verified : ∀ operation ∈ catalog.operations,
    validateVerificationOf catalog.operations catalog.operationIndex operation = .ok ()

omit [Platform] in
theorem forM_eq_ok_iff {α ε : Type} {check : α → Except ε Unit} {values : List α} :
    values.forM check = .ok () ↔ ∀ value ∈ values, check value = .ok () := by
  induction values with
  | nil => exact ⟨fun _ _ member => absurd member List.not_mem_nil, fun _ => rfl⟩
  | cons value rest ih =>
      change (check value >>= fun _ => rest.forM check) = .ok () ↔ _
      rw [List.forall_mem_cons, ← ih]
      constructor
      · intro passed
        obtain ⟨_, first, later⟩ := bind_eq_ok_iff.mp passed
        exact ⟨first, later⟩
      · exact fun passed => bind_eq_ok_iff.mpr ⟨(), passed.1, passed.2⟩

theorem Catalog.parseDocument_checked (parsed : Catalog.parseDocument document raw = .ok catalog) :
    catalog.Checked := by
  unfold Catalog.parseDocument at parsed
  obtain ⟨state, loaded, rest⟩ := bind_eq_ok_iff.mp parsed
  obtain ⟨_, verified, last⟩ := bind_eq_ok_iff.mp rest
  obtain rfl := Except.ok.inj last
  obtain ⟨known, valid, distinct⟩ := loadOperations_passed LoadState.passed_start loaded
  have apart := distinct .nil
  exact ⟨⟨valid, apart.ids, fun id operation => operation_eq_some_iff known.indexed⟩, apart,
    forM_eq_ok_iff.mp verified⟩

/-- Every catalog that is read from a text is checked. -/
theorem Catalog.parse_checked {json : String} {fingerprints : Fingerprints}
    (parsed : Catalog.parse json fingerprints = .ok catalog) : catalog.Checked := by
  unfold Catalog.parse at parsed
  split at parsed
  · cases parsed
  · split at parsed
    · cases parsed
    · obtain ⟨_, _, accepted⟩ := bind_eq_ok_iff.mp parsed
      exact Catalog.parseDocument_checked accepted

theorem Catalog.parse_loaded {json : String} {fingerprints : Fingerprints}
    (parsed : Catalog.parse json fingerprints = .ok catalog) : catalog.Loaded :=
  (Catalog.parse_checked parsed).loaded

end Documents

end RustMist
