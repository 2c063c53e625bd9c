import RustMist.Construction.Server.Similarity
import RustMist.Proof.Read.Distance
import RustMist.Proof.Plan.Staging

/-! When the search for similar operations panics. -/

namespace RustMist.Similarity

section Panics

variable {toLowercase : String → String} {a b : String}

/-- The distance is always computed, and it vanishes for texts that are equal in lower case. -/
theorem levenshteinDistance_total (toLowercase : String → String) (a b : String) :
    ∃ distance, levenshteinDistance toLowercase a b = some distance ∧
      (distance = 0 ↔ toLowercase a = toLowercase b) := by
  refine ⟨_, levenshteinDistance_eq toLowercase a b, ?_⟩
  rw [EditDistance.distance_eq_zero_iff, String.toList_inj]

/-- The last five bytes of a text are whole letters, or the text is shorter. -/
def HasSuffix (text : String) : Prop :=
  text.utf8ByteSize < 5 ∨ Utf8.IsBoundary (text.utf8ByteSize - 5) text.toList

theorem suffix_total_iff {text : String} : (∃ tail, suffix text = some tail) ↔ HasSuffix text := by
  rw [suffix, HasSuffix]
  split
  · rename_i long
    rw [← Utf8.isSome_dropBytes_iff, sliceFrom]
    simp only [Option.map_eq_some_iff]
    constructor
    · rintro ⟨_, rest, found, _⟩
      exact .inr ⟨rest, found⟩
    · rintro (short | ⟨rest, found⟩)
      · omega
      · exact ⟨_, rest, found, rfl⟩
  · rename_i short
    exact iff_of_true ⟨text, rfl⟩ (.inl (by omega))

theorem tokenSimilarityBoost_total_iff :
    (∃ boost, tokenSimilarityBoost toLowercase a b = some boost) ↔
      HasSuffix (toLowercase a) ∧ HasSuffix (toLowercase b) := by
  rw [← suffix_total_iff, ← suffix_total_iff]
  constructor
  · rintro ⟨boost, found⟩
    simp only [tokenSimilarityBoost, Option.bind_eq_bind, Option.bind_eq_some_iff] at found
    obtain ⟨tail, first, tail', second, _⟩ := found
    exact ⟨⟨tail, first⟩, tail', second⟩
  · rintro ⟨⟨tail, first⟩, tail', second⟩
    obtain ⟨distance, measured, _⟩ := levenshteinDistance_total toLowercase tail tail'
    simp only [tokenSimilarityBoost, first, second, measured, Option.bind_eq_bind, Option.bind_some]
    exact ⟨_, rfl⟩

variable {Score : Type} {scoreOf : ScoreParts → Score} {zero : Score}
  {withinRatio : Nat → Nat → Bool} {orderedBefore : Score × String → Score × String → Bool}

/-- A score is computed for two different texts when both have their last five bytes. -/
theorem similarityScore_total_iff (different : toLowercase a ≠ toLowercase b) :
    (∃ score, similarityScore toLowercase scoreOf zero a b = some score) ↔
      HasSuffix (toLowercase a) ∧ HasSuffix (toLowercase b) := by
  have long : max a.utf8ByteSize b.utf8ByteSize ≠ 0 := by
    intro empty
    apply different
    have first : a = "" := String.utf8ByteSize_eq_zero_iff.mp (by omega)
    have second : b = "" := String.utf8ByteSize_eq_zero_iff.mp (by omega)
    rw [first, second]
  obtain ⟨distance, measured, _⟩ := levenshteinDistance_total toLowercase a b
  rw [← tokenSimilarityBoost_total_iff, similarityScore, measured]
  simp only [Option.bind_eq_bind, Option.bind_some, if_neg long]
  constructor
  · rintro ⟨score, found⟩
    obtain ⟨boost, computed, _⟩ := Option.bind_eq_some_iff.mp found
    exact ⟨boost, computed⟩
  · rintro ⟨boost, computed⟩
    rw [computed]
    exact ⟨_, rfl⟩

/-- The operations are compared until one comparison panics. -/
theorem candidates_total_iff {unknownId : String} {operations : List MistOperation} :
    (∃ found, candidates toLowercase scoreOf zero withinRatio unknownId operations = some found) ↔
      ∀ operation ∈ operations, toLowercase unknownId ≠ toLowercase operation.operationId →
        HasSuffix (toLowercase unknownId) ∧ HasSuffix (toLowercase operation.operationId) := by
  induction operations with
  | nil => exact iff_of_true ⟨[], rfl⟩ (by simp)
  | cons operation rest ih =>
      obtain ⟨distance, measured, meaning⟩ :=
        levenshteinDistance_total toLowercase unknownId operation.operationId
      rw [List.forall_mem_cons, ← ih, candidates, measured]
      simp only [Option.bind_eq_bind, Option.bind_some]
      split
      · rename_i same
        exact (and_iff_right fun different => absurd (meaning.mp same) different).symm
      · rename_i apart
        have different := fun same => apart (meaning.mpr same)
        have scoring : (∃ score, similarityScore toLowercase scoreOf zero unknownId
            operation.operationId = some score) ↔ _ := similarityScore_total_iff different
        rw [forall_prop_of_true different, ← scoring]
        constructor
        · rintro ⟨found, computed⟩
          obtain ⟨score, scored, later⟩ := Option.bind_eq_some_iff.mp computed
          obtain ⟨others, more, _⟩ := Option.bind_eq_some_iff.mp later
          exact ⟨⟨score, scored⟩, others, more⟩
        · rintro ⟨⟨score, scored⟩, others, more⟩
          rw [scored, Option.bind_some, more, Option.bind_some]
          split <;> exact ⟨_, rfl⟩

/-- The search fails as soon as one operation differs from an identifier that is cut in a letter. -/
theorem findSimilarOperations_none {catalog : Catalog} {unknownId : String}
    (cut : ¬HasSuffix (toLowercase unknownId)) {operation : MistOperation}
    (member : operation ∈ catalog.operations)
    (different : toLowercase unknownId ≠ toLowercase operation.operationId) :
    findSimilarOperations toLowercase scoreOf zero withinRatio orderedBefore catalog unknownId =
      none := by
  rw [← Option.not_isSome_iff_eq_none, Option.isSome_iff_exists]
  rintro ⟨suggestions, computed⟩
  obtain ⟨found, searched, _⟩ := Option.bind_eq_some_iff.mp computed
  exact cut (candidates_total_iff.mp ⟨found, searched⟩ operation member different).1

theorem findSimilarOperations_isSome_iff {catalog : Catalog} {unknownId : String} :
    (∃ suggestions, findSimilarOperations toLowercase scoreOf zero withinRatio orderedBefore catalog
        unknownId = some suggestions) ↔
      ∃ found, candidates toLowercase scoreOf zero withinRatio unknownId catalog.operations =
        some found := by
  rw [findSimilarOperations]
  constructor
  · rintro ⟨suggestions, computed⟩
    obtain ⟨found, searched, _⟩ := Option.bind_eq_some_iff.mp computed
    exact ⟨found, searched⟩
  · rintro ⟨found, searched⟩
    rw [searched]
    exact ⟨_, rfl⟩

end Panics

/-- The search completes exactly when the last five bytes of the unknown identifier and of every
operation that differs from it are whole letters in lower case. -/
theorem findSimilarOperations_total_iff (toLowercase : String → String) {Score : Type}
    (scoreOf : ScoreParts → Score) (zero : Score) (withinRatio : Nat → Nat → Bool)
    (orderedBefore : Score × String → Score × String → Bool) (catalog : Catalog)
    (unknownId : String) :
    (∃ suggestions, findSimilarOperations toLowercase scoreOf zero withinRatio orderedBefore catalog
        unknownId = some suggestions) ↔
      ∀ operation ∈ catalog.operations,
        toLowercase unknownId ≠ toLowercase operation.operationId →
          HasSuffix (toLowercase unknownId) ∧ HasSuffix (toLowercase operation.operationId) := by
  rw [findSimilarOperations_isSome_iff]
  exact candidates_total_iff

end RustMist.Similarity

namespace RustMist

/-- A read of an unknown operation is refused with suggestions exactly when the last five bytes of
the identifier and of every operation that differs from it are whole letters in lower case. -/
theorem admitRead_unknown_iff [ServerPlatform] {handler : MistHandler} {read : CatalogRead}
    {caller : Option CallerCtx} (unknown : handler.catalog.operation read.operationId = none) :
    (∃ suggestions, admitRead handler read caller = .error (.unknownOperation
        (unknownOperationMessage handler.catalog read.operationId read.capability suggestions))) ↔
      ∀ operation ∈ handler.catalog.operations,
        ServerPlatform.toLowercase read.operationId ≠
          ServerPlatform.toLowercase operation.operationId →
        Similarity.HasSuffix (ServerPlatform.toLowercase read.operationId) ∧
          Similarity.HasSuffix (ServerPlatform.toLowercase operation.operationId) := by
  have total : (∃ suggestions, findSimilarOperations handler.catalog read.operationId =
      some suggestions) ↔ _ :=
    Similarity.findSimilarOperations_isSome_iff.trans Similarity.candidates_total_iff
  rw [← total, admitRead, unknown]
  constructor
  · rintro ⟨suggestions, refused⟩
    cases found : findSimilarOperations handler.catalog read.operationId with
    | none => simp [unknownOperation, found] at refused
    | some suggestions => exact ⟨suggestions, rfl⟩
  · rintro ⟨suggestions, found⟩
    exact ⟨suggestions, by simp only [unknownOperation, found]⟩

end RustMist

namespace RustMist.Network

/-- The last five bytes of this identifier start within its first letter. -/
def accentedId : String := "éabcd"

theorem accentedId_cut : ¬Similarity.HasSuffix accentedId.toLower := by
  rintro (short | inside)
  · revert short
    decide +kernel
  · obtain ⟨rest, found⟩ := Utf8.isSome_dropBytes_iff.mpr inside
    have cut : Utf8.dropBytes (accentedId.toLower.utf8ByteSize - 5) accentedId.toLower.toList =
        none := by decide +kernel
    rw [cut] at found
    cases found

theorem mem_operations : sealed getOrgNetwork ∈ paddedOperations networkOperations :=
  mem_paddedOperations.mpr (.inr ⟨getOrgNetwork, List.mem_cons_self, rfl⟩)

/-- An identifier with an accent near its end makes the search panic. -/
theorem accented_search_panics :
    Catalog.fromJson (serdeToString (paddedDocument networkOperations).toJson) = .ok catalog ∧
      catalog.operation accentedId = none ∧
      Similarity.findSimilarOperations String.toLower Similarity.ScoreParts.distance 0
        (fun distance length => 100 * distance ≤ 65 * length)
        (fun first second => first.1 ≤ second.1) catalog accentedId = none := by
  have absent : ∀ operation ∈ networkOperations, operation.operationId ≠ accentedId := by
    decide
  have different : accentedId.toLower ≠ getOrgNetwork.operationId.toLower := by
    decide +kernel
  exact ⟨catalog_accepted, paddable_networkOperations.unknown (by decide) absent,
    Similarity.findSimilarOperations_none accentedId_cut mem_operations different⟩

end RustMist.Network
