import RustMist.Construction.Core.ValidatorCache
import RustMist.Proof.Catalog.Reference
import RustMist.Proof.Plan.Staging

/-! The verdicts that the kept validators give. -/

namespace RustMist

open Effects Effects.Program

section Positions

variable [Platform]

/-- The parts of a request that are judged before the value of a declared parameter. -/
structure Reaches (request : MistRequest) (operation : MistOperation) (catalog : Catalog)
    (location : ParameterLocation) (before : List MistParameter) : Prop where
  bounds : validateRequestBounds request = .ok ()
  path : location = .query → validateParameterSet request operation catalog .path = .ok ()
  known : ∀ name ∈ suppliedNames request location,
    name ∈ (declaredParameters operation location).map (·.name)
  passed : validateParameterValues request catalog location before = .ok ()

/-- The positions of the schemas that a validation judges by, each with the schema's root. -/
inductive Judges (catalog : Catalog) : Validation → ValidatorKey → Json → Prop where
  | parameter {request : MistRequest} {origin : String} {operation : MistOperation}
      {location : ParameterLocation} {before after : List MistParameter} {declared : MistParameter}
      (found : catalog.operation request.operationId = some operation)
      (parted : declaredParameters operation location = before ++ declared :: after)
      (reached : Reaches request operation catalog location before)
      (supplied : (suppliedValue request declared.name location).isSome = true) :
      Judges catalog (.request request origin)
        ⟨operation.operationKey, .requestParameter location.name declared.name⟩
        (validationRoot catalog declared.schema .request)
  | body {request : MistRequest} {origin : String} {operation : MistOperation} {schema : Json}
      (found : catalog.operation request.operationId = some operation)
      (declared : operation.requestSchemas.get "application/json" = some schema) :
      Judges catalog (.request request origin) ⟨operation.operationKey, .requestBody⟩
        (validationRoot catalog schema .request)
  | response {response : MistResponse} {origin : String} {operation : MistOperation}
      {responses : SortedMap String Json} {media : String} {schema : Json}
      (found : catalog.operation response.operationId = some operation)
      (status : operation.responses.get (toString response.status.toNat) = some responses)
      (declared : (media, schema) ∈ responses.entries) :
      Judges catalog (.response response origin)
        ⟨response.operationId, .responseBody (toString response.status.toNat) media⟩
        (validationRoot catalog schema .response)

/-- The condition: a declaration that a request reaches repeats the schema of the earlier
declarations of its name. -/
def RepeatsAgree (catalog : Catalog) : Validation → Prop
  | .response _ _ => True
  | .request request _ => ∀ operation location before declared after,
      catalog.operation request.operationId = some operation →
      declaredParameters operation location = before ++ declared :: after →
      Reaches request operation catalog location before →
      (suppliedValue request declared.name location).isSome = true →
      ∀ earlier ∈ before, earlier.name = declared.name → earlier.schema = declared.schema

/-- Validations in any order and interleaving return the verdicts of fresh validators, and none
reads a validator that was compiled for another schema. -/
def TransparentCache {ι : Type} [DecidableEq ι] (catalog : Catalog) (validations : ι → Validation) :
    Prop :=
  ∀ trace pool cache,
    Interleaved cacheWorld (fun thread => (validations thread).program catalog) [] trace pool cache →
    (∀ thread verdict, pool thread = .pure verdict →
      verdict = (validations thread).verdict catalog) ∧
    ∀ entry ∈ trace, Memo.Sound Validator.root entry.2

end Positions

section Verdicts

variable [Platform] {guard : Memo.Op ValidatorKey Json Validator → Prop}

/-- A guard permits a fetch when it permits the read and what a miss inserts. -/
def Permits (guard : Memo.Op ValidatorKey Json Validator → Prop) (key : ValidatorKey)
    (root : Json) : Prop :=
  guard (.read key root) ∧ ∀ validator, validator.root = root → guard (.insert key validator)

theorem compileValidator_eq_some_iff (root : Json) (validator : Validator) :
    compileValidator root = some validator ↔ validator.root = root := by
  obtain ⟨source, iterErrors, compiled⟩ := validator
  unfold compileValidator
  constructor
  · intro found
    split at found
    · exact (congrArg Validator.root (Option.some.inj found)).symm
    · cases found
  · rintro rfl
    split
    · rename_i iterErrors' compiled'
      obtain rfl : iterErrors' = iterErrors := Option.some.inj (compiled'.symm.trans compiled)
      rfl
    · rename_i failed
      exact absurd (compiled.symm.trans failed) nofun

/-- A compiled validator lists the violations that the compiler's validator lists. -/
theorem compileValidator_map (root : Json) :
    (compileValidator root).map Validator.iterErrors = validatorFor root := by
  unfold compileValidator
  split
  · rename_i compiled
    exact compiled.symm
  · rename_i failed
    exact failed.symm

theorem schemaMatches_meets {catalog : Catalog} {operation : String} {slot : SchemaSlot}
    {schema value : Json} {direction : Direction}
    (permits : Permits guard ⟨operation, slot⟩ (validationRoot catalog schema direction)) :
    Memo.Meets Validator.root guard
      (Cached.schemaMatches catalog operation slot schema value direction)
      (schemaMatches catalog schema value direction) := by
  apply (Memo.fetch_meets compileValidator_eq_some_iff permits.1 permits.2).bind
  rw [schemaMatches, ← compileValidator_map, Option.map_map]
  exact .pure _

theorem validateSchema_meets {request : MistRequest} {catalog : Catalog} {operation : String}
    {slot : SchemaSlot} {schema value : Json}
    (permits : Permits guard ⟨operation, slot⟩ (validationRoot catalog schema .request)) :
    Memo.Meets Validator.root guard
      (Cached.validateSchema request catalog operation slot schema value)
      (validateSchema request catalog schema value) := by
  apply (schemaMatches_meets permits).bind
  unfold validateSchema
  cases schemaMatches catalog schema value .request with
  | none => exact .pure _
  | some outcome =>
      cases outcome with
      | error details => exact .pure _
      | ok passed => exact .pure _

omit guard in
/-- The values are judged one after the other. -/
theorem validateParameterValues_cons (request : MistRequest) (catalog : Catalog)
    (location : ParameterLocation) (declared : MistParameter) (rest : List MistParameter) :
    validateParameterValues request catalog location (declared :: rest) =
      (do validateParameterValues request catalog location [declared]
          validateParameterValues request catalog location rest) := by
  rw [validateParameterValues, validateParameterValues, validateParameterValues]
  cases suppliedValue request declared.name location with
  | some value =>
      dsimp only
      cases validateSchema request catalog declared.schema value <;> rfl
  | none =>
      dsimp only
      by_cases required : declared.required = true
      · rw [if_pos required, if_pos required]
        rfl
      · rw [if_neg required, if_neg required]
        rfl

theorem validateParameterValue_meets {request : MistRequest} {operation : MistOperation}
    {catalog : Catalog} {location : ParameterLocation} {declared : MistParameter}
    (permits : (suppliedValue request declared.name location).isSome = true →
      Permits guard ⟨operation.operationKey, .requestParameter location.name declared.name⟩
        (validationRoot catalog declared.schema .request)) :
    Memo.Meets Validator.root guard
      (Cached.validateParameterValue request operation catalog location declared)
      (validateParameterValues request catalog location [declared]) := by
  rw [validateParameterValues, validateParameterValues]
  unfold Cached.validateParameterValue
  cases value : suppliedValue request declared.name location with
  | some supplied =>
      rw [value] at permits
      have judged : Memo.Meets Validator.root guard
          (Cached.validateSchema request catalog operation.operationKey
            (.requestParameter location.name declared.name) declared.schema supplied)
          (validateSchema request catalog declared.schema supplied) :=
        validateSchema_meets (permits rfl)
      dsimp only
      cases verdict : validateSchema request catalog declared.schema supplied with
      | error problem => rwa [verdict] at judged
      | ok passed => rwa [verdict] at judged
  | none =>
      by_cases required : declared.required = true
      · simp only [if_pos required]
        exact .pure _
      · simp only [if_neg required]
        exact .pure _

/-- The permission is needed only for the declarations that are reached. -/
theorem validateParameterValues_meets {request : MistRequest} {operation : MistOperation}
    {catalog : Catalog} {location : ParameterLocation} {parameters : List MistParameter}
    (permits : ∀ before declared after, parameters = before ++ declared :: after →
      validateParameterValues request catalog location before = .ok () →
      (suppliedValue request declared.name location).isSome = true →
      Permits guard ⟨operation.operationKey, .requestParameter location.name declared.name⟩
        (validationRoot catalog declared.schema .request)) :
    Memo.Meets Validator.root guard
      (Cached.validateParameterValues request operation catalog location parameters)
      (validateParameterValues request catalog location parameters) := by
  induction parameters with
  | nil => exact .pure _
  | cons declared rest ih =>
      rw [validateParameterValues_cons]
      apply (validateParameterValue_meets (permits [] declared rest rfl rfl)).bind
      cases verdict : validateParameterValues request catalog location [declared] with
      | error problem => exact .pure _
      | ok passed =>
          apply ih
          intro before later after same reached
          apply permits (declared :: before) later after (by rw [same, List.cons_append])
          rw [validateParameterValues_cons, verdict]
          exact reached

theorem validateParameterSet_meets {request : MistRequest} {operation : MistOperation}
    {catalog : Catalog} {location : ParameterLocation}
    (permits : ∀ before declared after,
      declaredParameters operation location = before ++ declared :: after →
      (∀ name ∈ suppliedNames request location,
        name ∈ (declaredParameters operation location).map (·.name)) →
      validateParameterValues request catalog location before = .ok () →
      (suppliedValue request declared.name location).isSome = true →
      Permits guard ⟨operation.operationKey, .requestParameter location.name declared.name⟩
        (validationRoot catalog declared.schema .request)) :
    Memo.Meets Validator.root guard
      (Cached.validateParameterSet request operation catalog location)
      (validateParameterSet request operation catalog location) := by
  unfold Cached.validateParameterSet validateParameterSet
  dsimp only
  cases extra : (suppliedNames request location).find? fun name =>
      name ∉ (declaredParameters operation location).map (·.name) with
  | some name => exact .pure _
  | none =>
      have known : ∀ name ∈ suppliedNames request location,
          name ∈ (declaredParameters operation location).map (·.name) := by
        intro name member
        simpa using List.find?_eq_none.mp extra name member
      exact validateParameterValues_meets fun before declared after parted =>
        permits before declared after parted known

/-- A validation that judges by permitted positions finds its verdict. -/
theorem validateParameters_meets {request : MistRequest} {origin : String}
    {operation : MistOperation} {catalog : Catalog}
    (found : catalog.operation request.operationId = some operation)
    (bounds : validateRequestBounds request = .ok ())
    (permits : ∀ key root, Judges catalog (.request request origin) key root →
      Permits guard key root) :
    Memo.Meets Validator.root guard (Cached.validateParameters request operation catalog)
      (validateParameters request operation catalog) := by
  have path : Memo.Meets Validator.root guard
      (Cached.validateParameterSet request operation catalog .path)
      (validateParameterSet request operation catalog .path) := by
    apply validateParameterSet_meets
    intro before declared after parted known passed supplied
    exact permits _ _ (.parameter found parted ⟨bounds, nofun, known, passed⟩ supplied)
  apply path.bind
  unfold validateParameters
  cases verdict : validateParameterSet request operation catalog .path with
  | error problem => exact .pure _
  | ok passed =>
      apply validateParameterSet_meets
      intro before declared after parted known reached supplied
      exact permits _ _ (.parameter found parted ⟨bounds, fun _ => verdict, known, reached⟩ supplied)

theorem validateJsonBody_meets {request : MistRequest} {origin : String}
    {operation : MistOperation} {catalog : Catalog}
    (found : catalog.operation request.operationId = some operation)
    (permits : ∀ key root, Judges catalog (.request request origin) key root →
      Permits guard key root) :
    Memo.Meets Validator.root guard (Cached.validateJsonBody request operation catalog)
      (validateJsonBody request operation catalog) := by
  unfold Cached.validateJsonBody validateJsonBody
  cases request.json with
  | none =>
      by_cases required : operation.requestBodyRequired = true
      · simp only [if_pos required]
        exact .pure _
      · simp only [if_neg required]
        exact .pure _
  | some json =>
      cases declared : operation.requestSchemas.get "application/json" with
      | none => exact .pure _
      | some schema => exact validateSchema_meets (permits _ _ (.body found declared))

theorem validateRequest_meets {request : MistRequest} {origin : String} {catalog : Catalog}
    (permits : ∀ key root, Judges catalog (.request request origin) key root →
      Permits guard key root) :
    Memo.Meets Validator.root guard (Cached.validateRequest request catalog origin)
      (request.validate catalog origin) := by
  unfold Cached.validateRequest MistRequest.validate
  cases bounds : validateRequestBounds request with
  | error problem => exact .pure _
  | ok within =>
      cases found : catalog.operation request.operationId with
      | none => exact .pure _
      | some operation =>
          apply (validateParameters_meets found bounds permits).bind
          dsimp only
          cases validateParameters request operation catalog with
          | error problem => exact .pure _
          | ok passed =>
              apply (validateJsonBody_meets found permits).bind
              cases validateJsonBody request operation catalog with
              | error problem => exact .pure _
              | ok judged =>
                  dsimp only
                  cases validateCursor request.cursor operation origin <;> exact .pure _

theorem matchResponseSchemas_meets {response : MistResponse} {catalog : Catalog} {value : Json}
    {allErrors : List String} {schemas : List (String × Json)}
    (permits : ∀ entry ∈ schemas,
      Permits guard
        ⟨response.operationId, .responseBody (toString response.status.toNat) entry.1⟩
        (validationRoot catalog entry.2 .response)) :
    Memo.Meets Validator.root guard
      (Cached.matchResponseSchemas response catalog value allErrors schemas)
      (matchResponseSchemas catalog value allErrors schemas) := by
  induction schemas generalizing allErrors with
  | nil =>
      unfold Cached.matchResponseSchemas matchResponseSchemas
      by_cases silent : allErrors.isEmpty = true
      · rw [if_pos silent, if_pos silent]
        exact .pure _
      · rw [if_neg silent, if_neg silent]
        exact .pure _
  | cons entry rest ih =>
      have later := fun other member => permits other (List.mem_cons_of_mem entry member)
      unfold Cached.matchResponseSchemas matchResponseSchemas
      apply (schemaMatches_meets (permits entry List.mem_cons_self)).bind
      cases schemaMatches catalog entry.2 value .response with
      | none => exact ih later
      | some outcome =>
          cases outcome with
          | error details => exact ih later
          | ok passed => exact .pure _

theorem responseBodyProblem_meets {response : MistResponse} {responses : SortedMap String Json}
    {catalog : Catalog}
    (permits : ∀ entry ∈ responses.entries,
      Permits guard
        ⟨response.operationId, .responseBody (toString response.status.toNat) entry.1⟩
        (validationRoot catalog entry.2 .response)) :
    Memo.Meets Validator.root guard (Cached.responseBodyProblem response responses catalog)
      (responseBodyProblem response.body responses catalog) := by
  unfold Cached.responseBodyProblem responseBodyProblem
  split
  · cases response.body <;> exact .pure _
  · cases response.body with
    | empty => exact .pure _
    | json value =>
        dsimp only
        split
        · exact .pure _
        · exact matchResponseSchemas_meets fun entry member =>
            permits entry (List.mem_filter.mp member).1
    | text value =>
        dsimp only
        split <;> exact .pure _
    | binary value =>
        dsimp only
        split <;> exact .pure _

theorem validateResponse_meets {response : MistResponse} {origin : String} {catalog : Catalog}
    (permits : ∀ key root, Judges catalog (.response response origin) key root →
      Permits guard key root) :
    Memo.Meets Validator.root guard (Cached.validateResponse response catalog origin)
      (response.validate catalog origin) := by
  unfold Cached.validateResponse MistResponse.validate
  cases found : catalog.operation response.operationId with
  | none => exact .pure _
  | some operation =>
      dsimp only
      cases status : operation.responses.get (toString response.status.toNat) with
      | none => exact .pure _
      | some responses =>
          dsimp only
          cases validateResponseBounds response with
          | error problem => exact .pure _
          | ok within =>
              have body : Memo.Meets Validator.root guard
                  (Cached.validateResponseBody response responses catalog)
                  (validateResponseBody response responses catalog) := by
                apply (responseBodyProblem_meets fun entry member =>
                  permits _ _ (.response found status member)).bind
                unfold validateResponseBody
                cases responseBodyProblem response.body responses catalog <;> exact .pure _
              apply body.bind
              cases validateResponseBody response responses catalog with
              | error problem => exact .pure _
              | ok judged =>
                  dsimp only
                  cases validateCursor response.cursor operation origin <;> exact .pure _

/-- A validation that judges by permitted positions finds its verdict. -/
theorem Validation.meets {catalog : Catalog} {validation : Validation}
    (permits : ∀ key root, Judges catalog validation key root → Permits guard key root) :
    Memo.Meets Validator.root guard (validation.program catalog) (validation.verdict catalog) := by
  cases validation with
  | request sent origin => exact (validateRequest_meets permits).bind (.pure _)
  | response received origin => exact (validateResponse_meets permits).bind (.pure _)

end Verdicts

section Sound

variable [Platform] {json : String} {fingerprints : Fingerprints} {catalog : Catalog}

def keyedOperation (catalog : Catalog) (key : String) : Option MistOperation :=
  IndexMap.get key (catalog.operations.map fun operation => (operation.operationKey, operation))

/-- The root of the first schema that the catalog declares at a position. -/
def positionRoot (catalog : Catalog) (key : ValidatorKey) : Option Json :=
  match key.slot with
  | .requestBody =>
      (keyedOperation catalog key.operation).bind fun operation =>
        (operation.requestSchemas.get "application/json").map fun schema =>
          validationRoot catalog schema .request
  | .requestParameter location name =>
      (keyedOperation catalog key.operation).bind fun operation =>
        ((operation.parameters.filter fun parameter => parameter.location = location).find?
            fun parameter => parameter.name = name).map fun parameter =>
          validationRoot catalog parameter.schema .request
  | .responseBody status media =>
      (catalog.operation key.operation).bind fun operation =>
        (operation.responses.get status).bind fun responses =>
          (responses.get media).map fun schema => validationRoot catalog schema .response

/-- An accepted catalog finds an operation by its key. -/
theorem keyedOperation_found (accepted : Catalog.parse json fingerprints = .ok catalog)
    {operationId : String} {operation : MistOperation}
    (found : catalog.operation operationId = some operation) :
    keyedOperation catalog operation.operationKey = some operation := by
  have checked := Catalog.parse_checked accepted
  apply IndexMap.get_of_mem
  · rw [IndexMap.keys, List.map_map]
    exact checked.distinct.keys
  · exact List.mem_map_of_mem ((checked.loaded.found _ _).mp found).1

/-- Under the condition every position has one schema. -/
theorem positionRoot_judged (accepted : Catalog.parse json fingerprints = .ok catalog)
    {validation : Validation} (agree : RepeatsAgree catalog validation) {key : ValidatorKey}
    {root : Json} (judges : Judges catalog validation key root) :
    positionRoot catalog key = some root := by
  cases judges with
  | @parameter request origin operation location before after declared found parted reached supplied =>
      have parameters : operation.parameters.filter
          (fun parameter => parameter.location = location.name) = before ++ declared :: after :=
        parted
      simp only [positionRoot, keyedOperation_found accepted found, Option.bind_some, parameters,
        List.find?_append]
      cases first : before.find? fun parameter => parameter.name = declared.name with
      | none => simp
      | some earlier =>
          have named : earlier.name = declared.name := by simpa using List.find?_some first
          rw [Option.some_or, Option.map_some,
            agree operation location before declared after found parted reached supplied earlier
              (List.mem_of_find?_eq_some first) named]
  | body found declared =>
      simp only [positionRoot, keyedOperation_found accepted found, Option.bind_some, declared,
        Option.map_some]
  | response found status declared =>
      simp only [positionRoot, found, Option.bind_some, status, SortedMap.get_of_mem declared,
        Option.map_some]

theorem transparent_of_agree (accepted : Catalog.parse json fingerprints = .ok catalog)
    {ι : Type} [DecidableEq ι] {validations : ι → Validation}
    (agree : ∀ thread, RepeatsAgree catalog (validations thread)) :
    TransparentCache catalog validations := by
  have meets : ∀ thread, Memo.Meets Validator.root
      (Memo.Assigned Validator.root (positionRoot catalog))
      ((validations thread).program catalog) ((validations thread).verdict catalog) := by
    intro thread
    apply Validation.meets
    intro key root judges
    have assigned := positionRoot_judged accepted (agree thread) judges
    refine ⟨assigned, ?_⟩
    rintro validator rfl
    exact assigned
  intro trace pool cache run
  have sound := Memo.sound_of_assigned meets run
  refine ⟨?_, sound⟩
  intro thread verdict returned
  have own := run.thread_run thread
  rw [returned] at own
  exact (meets thread).returned own fun event member => sound _ (Trace.mem_ofThread.mp member)

/-- The declarations of one name at one place of an operation repeat one schema. -/
def DeclarationsAgree (catalog : Catalog) : Prop :=
  ∀ operation ∈ catalog.operations, ∀ location, ∀ first ∈ declaredParameters operation location,
    ∀ second ∈ declaredParameters operation location,
      first.name = second.name → first.schema = second.schema

theorem DeclarationsAgree.repeats (agree : DeclarationsAgree catalog) (validation : Validation) :
    RepeatsAgree catalog validation := by
  cases validation with
  | response received origin => trivial
  | request sent origin =>
      intro operation location before declared after found parted _ _ earlier member named
      obtain ⟨index, _, stored⟩ := Option.bind_eq_some_iff.mp found
      apply agree operation (List.mem_of_getElem? stored) location earlier ?_ declared ?_ named
      · rw [parted]
        exact List.mem_append_left _ member
      · rw [parted]
        exact List.mem_append_right _ List.mem_cons_self

/-- Over such a catalog the kept validators return for every request what its validation with fresh
ones returns. -/
theorem validate_transfers (accepted : Catalog.parse json fingerprints = .ok catalog)
    (agree : DeclarationsAgree catalog) {ι : Type} [DecidableEq ι] (validations : ι → Validation)
    {trace pool cache} (run : Interleaved cacheWorld
      (fun thread => (validations thread).program catalog) [] trace pool cache)
    {thread : ι} {request : MistRequest} {origin : String}
    (validated : validations thread = .request request origin) {verdict : Verdict}
    (returned : pool thread = .pure verdict) :
    verdict = (request.validate catalog origin).map .inl := by
  have same := (transparent_of_agree accepted (fun thread => agree.repeats (validations thread))
    _ _ _ run).1 thread verdict returned
  rwa [validated] at same

end Sound

section Exact

variable [Platform] {request : MistRequest} {operation : MistOperation} {catalog : Catalog}
  {location : ParameterLocation} {declared : MistParameter}

omit [Platform] in
theorem validationRoot_injective {first second : Json}
    (same : validationRoot catalog first .request = validationRoot catalog second .request) :
    first = second := by
  simpa [validationRoot] using same

/-- Every position is permitted where nothing is guarded. -/
theorem permits_true {key : ValidatorKey} {root : Json} :
    Permits (fun _ => True) key root := ⟨trivial, fun _ _ => trivial⟩

/-- A supplied value is judged by a fetched validator. -/
theorem validateParameterValue_fetches {history : History cacheSignature}
    {verdict : Except MistError Unit}
    (run : Completes (Cached.validateParameterValue request operation catalog location declared)
      history verdict)
    (supplied : (suppliedValue request declared.name location).isSome = true) :
    ∃ first second result, history = first ++ second ∧
      Completes (cachedValidator operation.operationKey
        (.requestParameter location.name declared.name)
        (validationRoot catalog declared.schema .request)) first result ∧
      (verdict = .ok () → ∃ validator, result = some validator) := by
  obtain ⟨value, given⟩ := Option.isSome_iff_exists.mp supplied
  unfold Cached.validateParameterValue at run
  rw [given] at run
  obtain ⟨outcome, early, late, rfl, matched, rest⟩ := (completes_bind_iff _ _ _ _).mp run
  obtain ⟨result, first, second, rfl, fetched, judged⟩ := (completes_bind_iff _ _ _ _).mp matched
  refine ⟨first, second ++ late, result, List.append_assoc _ _ _, fetched, ?_⟩
  rintro rfl
  cases result with
  | some validator => exact ⟨validator, rfl⟩
  | none =>
      obtain ⟨-, rfl⟩ := (completes_pure_iff _ _ _).mp judged
      exact absurd ((completes_pure_iff _ _ _).mp rest).2 nofun

/-- Sound reads tell that a schema judged before at the same position is the declared one. -/
theorem agree_of_values {before after : List MistParameter} {history : History cacheSignature}
    {verdict : Except MistError Unit} {cache cache' : cacheWorld.State} {schema : Json}
    (run : Completes (Cached.validateParameterValues request operation catalog location
      (before ++ declared :: after)) history verdict)
    (answered : cacheWorld.Answers cache history cache')
    (sound : Memo.AllSound Validator.root history)
    (passed : validateParameterValues request catalog location before = .ok ())
    (supplied : (suppliedValue request declared.name location).isSome = true)
    (known : (∃ found, IndexMap.get ⟨operation.operationKey,
          .requestParameter location.name declared.name⟩ cache = some found ∧
        found.root = validationRoot catalog schema .request) ∨
      ∃ earlier ∈ before, earlier.name = declared.name ∧ earlier.schema = schema) :
    schema = declared.schema := by
  induction before generalizing history cache with
  | nil =>
      obtain ⟨found, here, root⟩ : ∃ found, IndexMap.get ⟨operation.operationKey,
          .requestParameter location.name declared.name⟩ cache = some found ∧
          found.root = validationRoot catalog schema .request := by
        rcases known with found | ⟨earlier, member, _⟩
        · exact found
        · exact absurd member List.not_mem_nil
      obtain ⟨value, early, late, rfl, judged, _⟩ := (completes_bind_iff _ _ _ _).mp run
      obtain ⟨first, second, result, rfl, fetched, _⟩ :=
        validateParameterValue_fetches judged supplied
      obtain ⟨_, answered, _⟩ := answered.split
      obtain ⟨_, answered, _⟩ := answered.split
      have read := Memo.fetch_reads fetched answered sound.left.left here
      exact validationRoot_injective (root.symm.trans read)
  | cons head before ih =>
      rw [validateParameterValues_cons] at passed
      obtain ⟨_, first, later⟩ := bind_eq_ok_iff.mp passed
      obtain ⟨value, early, late, rfl, judged, rest⟩ := (completes_bind_iff _ _ _ _).mp run
      obtain ⟨middle, answered, answered'⟩ := answered.split
      obtain rfl : value = .ok () :=
        ((validateParameterValue_meets fun _ => permits_true).returned judged sound.left).trans first
      apply ih rest answered' sound.right later
      rcases known with ⟨found, here, root⟩ | ⟨earlier, member, named, same⟩
      · exact .inl ⟨found, Memo.kept answered here, root⟩
      · rcases List.mem_cons.mp member with rfl | member
        · left
          rw [← named] at supplied ⊢
          obtain ⟨first, second, result, rfl, fetched, some⟩ :=
            validateParameterValue_fetches judged supplied
          obtain ⟨validator, rfl⟩ := some rfl
          obtain ⟨between, answered, answered'⟩ := answered.split
          obtain ⟨found, here, root⟩ := Memo.fetch_leaves compileValidator_eq_some_iff fetched
            answered sound.left.left
          exact ⟨found, Memo.kept answered' here, same ▸ root⟩
        · exact .inr ⟨earlier, member, named, same⟩

/-- A request that reaches a declaration judges the values of its location. -/
theorem validateRequest_judges {origin : String} {before : List MistParameter}
    {history : History cacheSignature} {verdict : Except MistError MistRequest}
    {cache cache' : cacheWorld.State}
    (run : Completes (Cached.validateRequest request catalog origin) history verdict)
    (answered : cacheWorld.Answers cache history cache')
    (sound : Memo.AllSound Validator.root history)
    (found : catalog.operation request.operationId = some operation)
    (reached : Reaches request operation catalog location before) :
    ∃ own verdict middle last, Completes (Cached.validateParameterValues request operation catalog
        location (declaredParameters operation location)) own verdict ∧
      cacheWorld.Answers middle own last ∧ Memo.AllSound Validator.root own := by
  have values {place : ParameterLocation} {own : History cacheSignature}
      {outcome : Except MistError Unit}
      (known : ∀ name ∈ suppliedNames request place,
        name ∈ (declaredParameters operation place).map (·.name))
      (run : Completes (Cached.validateParameterSet request operation catalog place) own outcome) :
      Completes (Cached.validateParameterValues request operation catalog place
        (declaredParameters operation place)) own outcome := by
    have none : ((suppliedNames request place).find? fun name =>
        name ∉ (declaredParameters operation place).map (·.name)) = none := by
      simpa using known
    unfold Cached.validateParameterSet at run
    simpa only [none] using run
  unfold Cached.validateRequest at run
  simp only [reached.bounds, found] at run
  obtain ⟨_, early, late, rfl, parameters, _⟩ := (completes_bind_iff _ _ _ _).mp run
  obtain ⟨_, answered, _⟩ := answered.split
  have within := sound.left
  obtain ⟨outcome, first, second, rfl, path, query⟩ := (completes_bind_iff _ _ _ _).mp parameters
  obtain ⟨middle, answered, answered'⟩ := answered.split
  cases location with
  | path => exact ⟨first, outcome, _, _, values reached.known path, answered, within.left⟩
  | query =>
      obtain rfl : outcome = .ok () :=
        ((validateParameterSet_meets fun _ _ _ _ _ _ _ => permits_true).returned path
          within.left).trans (reached.path rfl)
      exact ⟨second, _, _, _, values reached.known query, answered', within.right⟩

theorem agree_of_transparent {validation : Validation}
    (transparent : TransparentCache catalog fun _ : Unit => validation) :
    RepeatsAgree catalog validation := by
  cases validation with
  | response received origin => trivial
  | request sent origin =>
      intro operation location before declared after found parted reached supplied earlier member
        named
      obtain ⟨history, run, answered⟩ :=
        Memo.execute_completes ((Validation.request sent origin).program catalog) []
      have initial : Interleaved cacheWorld
          (fun _ : Unit => (Validation.request sent origin).program catalog) [] [] _ [] := .start
      obtain ⟨pool, interleaved, _⟩ := initial.extend run answered
      have sound : Memo.AllSound Validator.root history := by
        intro event present
        refine (transparent _ _ _ interleaved).2 ((), event) ?_
        exact List.mem_append_right _ (List.mem_map_of_mem present)
      obtain ⟨_, first, second, rfl, validated, _⟩ := (completes_bind_iff _ _ _ _).mp run
      obtain ⟨_, answered, _⟩ := answered.split
      obtain ⟨own, _, _, _, values, judged, within⟩ :=
        validateRequest_judges validated answered sound.left found reached
      rw [parted] at values
      exact agree_of_values values judged within reached.passed supplied
        (.inr ⟨earlier, member, named, rfl⟩)

/-- The kept validators judge like fresh ones exactly where a repeated declaration that a request
reaches repeats its schema. -/
theorem caching_transparent_iff (json : String) (fingerprints : Fingerprints) (catalog : Catalog)
    (accepted : Catalog.parse json fingerprints = .ok catalog) (allowed : Validation → Prop) :
    (∀ (ι : Type) (_ : DecidableEq ι) (validations : ι → Validation),
      (∀ thread, allowed (validations thread)) → TransparentCache catalog validations) ↔
    ∀ validation, allowed validation → RepeatsAgree catalog validation := by
  constructor
  · intro transparent validation permitted
    exact agree_of_transparent (transparent Unit inferInstance _ fun _ => permitted)
  · intro agree ι _ validations permitted
    exact transparent_of_agree accepted fun thread => agree _ (permitted thread)

end Exact

end RustMist

namespace RustMist.Network

open Effects Effects.Program

section Sealed

variable {request : MistRequest} {operation : MistOperation} {catalog : Catalog}

/-- The seal of an operation does not touch its parameters. -/
theorem cachedParameterValues_sealed (location : ParameterLocation)
    (parameters : List MistParameter) :
    Cached.validateParameterValues request (sealed operation) catalog location parameters =
      Cached.validateParameterValues request operation catalog location parameters := by
  induction parameters with
  | nil => rfl
  | cons declared rest ih =>
      rw [Cached.validateParameterValues, Cached.validateParameterValues, ih]
      rfl

theorem cachedParameters_sealed : Cached.validateParameters request (sealed operation) catalog =
    Cached.validateParameters request operation catalog := by
  have same (location : ParameterLocation) : declaredParameters (sealed operation) location =
    declaredParameters operation location := rfl
  simp only [Cached.validateParameters, Cached.validateParameterSet, same,
    cachedParameterValues_sealed]

/-- A request without a body passes once its parameters do. -/
theorem bare_completes {origin : String} {history : History cacheSignature}
    (found : catalog.operation request.operationId = some (sealed operation))
    (bounds : validateRequestBounds request = .ok ())
    (run : Completes (Cached.validateParameters request operation catalog) history (.ok ()))
    (bare : request.json = none) (optional : operation.requestBodyRequired = false)
    (first : request.cursor = none) :
    Completes (Cached.validateRequest request catalog origin) history (.ok request) := by
  have body : Cached.validateJsonBody request (sealed operation) catalog = .pure (.ok ()) := by
    have same : (sealed operation).requestBodyRequired = operation.requestBodyRequired := rfl
    simp [Cached.validateJsonBody, bare, same, optional]
  rw [← cachedParameters_sealed] at run
  simp only [Cached.validateRequest, bounds, found]
  rw [← List.append_nil history]
  apply Run.bind run
  simp only [body, pure_bind, validateCursor, first]
  exact .start _

end Sealed

section Searches

/-- The catalog of this search is accepted. -/
def searchCatalog : Catalog := paddedCatalog searchOperations

theorem searchCatalog_accepted :
    Catalog.fromJson (serdeToString (paddedDocument searchOperations).toJson) =
      .ok searchCatalog :=
  paddable_searchOperations.fromJson

theorem operation_search :
    searchCatalog.operation deviceSearch.operationId = some (sealed deviceSearch) :=
  paddable_searchOperations.operation List.mem_cons_self

/-- The first schema of the query admits its value, the second does not. -/
def searchRequest : MistRequest where
  operationId := deviceSearch.operationId
  path := SortedMap.ofList [("org_id", orgId)]
  query := SortedMap.ofList [("version", Json.ofNat 1)]
  json := none
  cursor := none

theorem search_bounds : validateRequestBounds searchRequest = .ok () := by decide

/-- The second schema refuses the request. -/
theorem search_refused : ∃ problem, searchRequest.validate searchCatalog origin = .error problem := by
  have parameters : (validateParameters searchRequest deviceSearch searchCatalog).isOk = false := by
    decide
  rw [← validateParameters_sealed] at parameters
  have refused : ∀ result, searchRequest.validate searchCatalog origin ≠ .ok result := by
    intro result accepted
    unfold MistRequest.validate at accepted
    obtain ⟨_, _, accepted⟩ := bind_eq_ok_iff.mp accepted
    have found : searchCatalog.operation searchRequest.operationId = some (sealed deviceSearch) :=
      operation_search
    rw [found] at accepted
    obtain ⟨_, passed, _⟩ := bind_eq_ok_iff.mp accepted
    rw [passed] at parameters
    cases parameters
  cases verdict : searchRequest.validate searchCatalog origin with
  | error problem => exact ⟨problem, rfl⟩
  | ok result => exact absurd verdict (refused result)

/-- The validator of the first schema is read for the second. -/
theorem search_passed : (Memo.execute (Cached.validateParameters searchRequest deviceSearch
    searchCatalog) []).1.isOk = true := by
  decide

theorem search_accepted : ∃ history cache,
    Completes (Cached.validateRequest searchRequest searchCatalog origin) history
        (.ok searchRequest) ∧ cacheWorld.Answers [] history cache := by
  obtain ⟨history, run, answered⟩ := Memo.execute_completes
    (Cached.validateParameters searchRequest deviceSearch searchCatalog) []
  have passed := search_passed
  generalize Memo.execute (Cached.validateParameters searchRequest deviceSearch searchCatalog) [] =
    executed at passed run answered
  obtain ⟨verdict, cache⟩ := executed
  cases verdict with
  | error problem => cases passed
  | ok value => exact ⟨history, cache, bare_completes operation_search search_bounds run rfl rfl rfl,
      answered⟩

/-- A request that the second schema refuses is accepted with the validator of the first. -/
theorem search_confuses_schemas :
    Catalog.fromJson (serdeToString (paddedDocument searchOperations).toJson) =
        .ok searchCatalog ∧
      (∃ problem, (Validation.request searchRequest origin).verdict searchCatalog =
        .error problem) ∧
      (∃ history cache, Completes ((Validation.request searchRequest origin).program searchCatalog)
          history (.ok (.inl searchRequest)) ∧ cacheWorld.Answers [] history cache) ∧
      ¬TransparentCache searchCatalog fun _ : Unit => .request searchRequest origin := by
  obtain ⟨problem, refused⟩ := search_refused
  obtain ⟨history, cache, run, answered⟩ := search_accepted
  have verdict : (Validation.request searchRequest origin).verdict searchCatalog =
      .error problem := by
    rw [Validation.verdict, refused]
    rfl
  have whole : Completes ((Validation.request searchRequest origin).program searchCatalog) history
      (.ok (.inl searchRequest)) := by
    rw [← List.append_nil history]
    exact Run.bind run (.start _)
  refine ⟨searchCatalog_accepted, ⟨problem, verdict⟩, ⟨history, cache, whole, answered⟩, ?_⟩
  intro transparent
  have initial : Interleaved cacheWorld
      (fun _ : Unit => (Validation.request searchRequest origin).program searchCatalog) [] [] _ [] :=
    .start
  obtain ⟨pool, interleaved, returned, _⟩ := initial.extend whole answered
  have same := (transparent _ _ _ interleaved).1 () _ returned
  rw [verdict] at same
  cases same

theorem caching_transparent_iff_search :
    (∀ (ι : Type) (_ : DecidableEq ι) (validations : ι → Validation),
      (∀ thread, validations thread = .request searchRequest origin) →
        TransparentCache searchCatalog validations) ↔
      ∀ validation, validation = .request searchRequest origin →
        RepeatsAgree searchCatalog validation :=
  caching_transparent_iff _ .verify searchCatalog searchCatalog_accepted
    fun validation => validation = .request searchRequest origin

end Searches

end RustMist.Network
