import RustMist.Construction.Core.Catalog

/-! The tool names that are derived from operation identifiers. -/

namespace RustMist

section Names

/-- A letter and then letters and digits. -/
structure SafeOperationId (operationId : String) : Prop where
  first : ∃ letter, operationId.toList.head? = some letter ∧ letter.isAlpha = true
  rest : ∀ letter ∈ operationId.toList, letter.isAlphanum = true

/-- A word of a tool name. -/
def IsToolWord (word : List Char) : Prop :=
  word ≠ [] ∧ ∀ letter ∈ word, letter.isLower = true ∨ letter.isDigit = true

/-- A name of words between single underscores, in which no letter is lost, repeated or moved. -/
structure NamedAfter (operationId name : String) : Prop where
  words : ∃ words : List (List Char), (∀ word ∈ words, IsToolWord word) ∧
    name.toList = "mist_".toList ++ ['_'].intercalate words
  letters : (name.toList.drop "mist_".length).filter (fun letter => letter ≠ '_') =
    operationId.toList.map Char.toLower

end Names

section Words

/-- The words together are the text. -/
theorem flatten_toolWords (previous : Option Char) (word text : List Char) :
    (toolWords previous word text).flatten = word ++ text := by
  induction text generalizing previous word with
  | nil =>
      rw [toolWords]
      split
      · rename_i empty
        rw [List.isEmpty_iff.mp empty]
        rfl
      · simp
  | cons letter rest ih =>
      rw [toolWords]
      split
      · rw [List.flatten_cons, ih, List.singleton_append]
      · rw [ih, List.append_assoc, List.singleton_append]

/-- A word is only ended when it has letters. -/
theorem toolWords_nonempty {previous : Option Char} {word text : List Char}
    (started : word = [] → previous = none) : [] ∉ toolWords previous word text := by
  induction text generalizing previous word with
  | nil =>
      rw [toolWords]
      split
      · exact List.not_mem_nil
      · rename_i present
        simpa using Ne.symm present
  | cons letter rest ih =>
      rw [toolWords]
      split
      · rename_i boundary
        rw [List.mem_cons, not_or]
        constructor
        · intro empty
          rw [started empty.symm] at boundary
          simp at boundary
        · exact ih (by simp)
      · exact ih (by simp)

theorem replaceAll_lower {pattern replacement : String} (nonempty : pattern.toList ≠ [])
    (same : pattern.toList.map Char.toLower = replacement.toList.map Char.toLower)
    (text : String) :
    (replaceAll pattern replacement text).toList.map Char.toLower =
      text.toList.map Char.toLower := by
  rw [replaceAll, String.toList_ofList]
  exact Pattern.map_replace nonempty Char.toLower same text.toList

/-- The text with its special spellings made regular. -/
def regularSpelling (operationId : String) : String :=
  replaceAll "AOSCX" "Aoscx" (replaceAll "IOT" "Iot" (replaceAll "IoT" "Iot"
    (replaceAll "WIFI" "Wifi" (replaceAll "WiFi" "Wifi" (replaceAll "OAUTH2" "Oauth2"
      (replaceAll "OAuth2" "Oauth2" operationId))))))

/-- A regular spelling changes the case of letters only. -/
theorem regularSpelling_lower (operationId : String) :
    (regularSpelling operationId).toList.map Char.toLower =
      operationId.toList.map Char.toLower := by
  unfold regularSpelling
  rw [replaceAll_lower (by decide) (by decide), replaceAll_lower (by decide) (by decide),
    replaceAll_lower (by decide) (by decide), replaceAll_lower (by decide) (by decide),
    replaceAll_lower (by decide) (by decide), replaceAll_lower (by decide) (by decide),
    replaceAll_lower (by decide) (by decide)]

/-- The words of an identifier in small letters. -/
def lowerWords (operationId : String) : List (List Char) :=
  (toolWords none [] (regularSpelling operationId).toList).map fun word => word.map Char.toLower

theorem flatten_lowerWords (operationId : String) :
    (lowerWords operationId).flatten = operationId.toList.map Char.toLower := by
  rw [lowerWords, ← List.map_flatten, flatten_toolWords, List.nil_append, regularSpelling_lower]

theorem lower_of_alphanum {letter : Char} (safe : letter.isAlphanum = true) :
    letter.toLower.isLower = true ∨ letter.toLower.isDigit = true := by
  have small : letter.toNat < 128 := by
    delta Char.isAlphanum Char.isAlpha Char.isUpper Char.isLower Char.isDigit at safe
    simp only [Bool.or_eq_true, Bool.and_eq_true, decide_eq_true_eq, UInt32.le_iff_toNat_le] at safe
    change letter.val.toNat < 128
    have bounds : ('Z'.val.toNat < 128 ∧ 'z'.val.toNat < 128) ∧ '9'.val.toNat < 128 := by decide
    omega
  have table : ∀ code < 128, (Char.ofNat code).isAlphanum = true →
      (Char.ofNat code).toLower.isLower = true ∨ (Char.ofNat code).toLower.isDigit = true := by
    decide
  rw [← Char.ofNat_toNat letter] at safe ⊢
  exact table letter.toNat small safe

theorem lowerWords_words {operationId : String} (safe : SafeOperationId operationId) :
    ∀ word ∈ lowerWords operationId, IsToolWord word := by
  intro word member
  constructor
  · rintro rfl
    obtain ⟨source, present, empty⟩ := List.mem_map.mp member
    rw [List.map_eq_nil_iff.mp empty] at present
    exact toolWords_nonempty (fun _ => rfl) present
  · intro letter inside
    have whole : letter ∈ operationId.toList.map Char.toLower := by
      rw [← flatten_lowerWords]
      exact List.mem_flatten.mpr ⟨word, member, inside⟩
    obtain ⟨source, present, rfl⟩ := List.mem_map.mp whole
    exact lower_of_alphanum (safe.rest source present)

end Words

section Results

/-- The name that the words of an identifier make. -/
def joinedName (operationId : String) : String :=
  "mist_" ++ "_".intercalate ((lowerWords operationId).map String.ofList)

theorem toList_joinedName (operationId : String) :
    (joinedName operationId).toList =
      "mist_".toList ++ ['_'].intercalate (lowerWords operationId) := by
  rw [joinedName, String.toList_append, String.toList_intercalate, List.map_map]
  have same : String.toList ∘ String.ofList = id := funext fun letters => String.toList_ofList
  rw [same, List.map_id]
  rfl

/-- The underscores of the joined words are the added ones. -/
theorem filter_intercalate {words : List (List Char)} (plain : ∀ word ∈ words, '_' ∉ word) :
    (['_'].intercalate words).filter (fun letter => letter ≠ '_') = words.flatten := by
  induction words with
  | nil => rfl
  | cons word rest ih =>
      have kept : word.filter (fun letter => letter ≠ '_') = word := by
        apply List.filter_eq_self.mpr
        intro letter member
        rw [decide_eq_true_eq]
        rintro rfl
        exact plain word List.mem_cons_self member
      cases rest with
      | nil =>
          have single : ['_'].intercalate [word] = word := by simp [List.intercalate]
          rw [single, kept, List.flatten_singleton]
      | cons next rest =>
          have dropped : ['_'].filter (fun letter => letter ≠ '_') = [] := by decide
          have later := ih fun other member => plain other (List.mem_cons_of_mem _ member)
          rw [List.intercalate_cons_cons, List.filter_append, List.filter_append, kept, later,
            dropped, List.append_nil]
          rfl

theorem underscore_notMem {word : List Char} (safe : IsToolWord word) : '_' ∉ word := by
  intro member
  exact absurd (safe.2 '_' member) (by decide)

/-- The joined words pass the check of the derived name. -/
theorem safe_joinedName {operationId : String} (safe : SafeOperationId operationId) :
    ((joinedName operationId).toList.all fun letter =>
      letter.isLower || letter.isDigit || letter = '_') = true := by
  rw [List.all_eq_true]
  intro letter member
  rw [toList_joinedName, List.mem_append] at member
  rcases member with start | inside
  · have start' : ("mist_".toList.all fun letter =>
        letter.isLower || letter.isDigit || letter = '_') = true := by decide
    exact List.all_eq_true.mp start' letter start
  · by_cases underscore : letter = '_'
    · simp [underscore]
    · have kept : letter ∈ (lowerWords operationId).flatten := by
        rw [← filter_intercalate fun word present =>
          underscore_notMem (lowerWords_words safe word present)]
        exact List.mem_filter.mpr ⟨inside, decide_eq_true underscore⟩
      obtain ⟨word, present, within⟩ := List.mem_flatten.mp kept
      rcases (lowerWords_words safe word present).2 letter within with lower | digit
      · simp [lower]
      · simp [digit]

theorem refusedId_iff {operationId : String} :
    (operationId.isEmpty || !operationId.toList.head?.any Char.isAlpha ||
      !operationId.toList.all Char.isAlphanum) = true ↔ ¬SafeOperationId operationId := by
  rw [Bool.or_eq_true, Bool.or_eq_true, Bool.not_eq_true', Bool.not_eq_true']
  constructor
  · intro refused safe
    obtain ⟨⟨letter, first, alpha⟩, rest⟩ := safe
    rcases refused with (empty | head) | tail
    · rw [String.isEmpty_iff.mp empty] at first
      cases first
    · rw [first] at head
      simp [alpha] at head
    · rw [List.all_eq_true.mpr rest] at tail
      cases tail
  · intro broken
    by_contra accepted
    rw [not_or, not_or, Bool.not_eq_false, Bool.not_eq_false] at accepted
    obtain ⟨⟨_, head⟩, rest⟩ := accepted
    obtain ⟨letter, first, alpha⟩ := (Option.any_eq_true _ _).mp head
    exact broken ⟨⟨letter, first, alpha⟩, List.all_eq_true.mp rest⟩

/-- The name of a safe identifier is made of its words; no other identifier has a name. -/
theorem toolName_eq_ok_iff {operationId name : String} :
    toolName operationId = .ok name ↔
      SafeOperationId operationId ∧ name = joinedName operationId := by
  have joined : "mist_" ++ "_".intercalate ((toolWords none []
      (regularSpelling operationId).toList).map fun word =>
        String.ofList (word.map Char.toLower)) = joinedName operationId := by
    rw [joinedName, lowerWords, List.map_map]
    rfl
  have guard : (operationId.isEmpty || !operationId.toList.head?.any Char.isAlpha ||
      !operationId.toList.all Char.isAlphanum) = true ↔ ¬SafeOperationId operationId :=
    refusedId_iff
  have spelled : replaceAll "AOSCX" "Aoscx" (replaceAll "IOT" "Iot" (replaceAll "IoT" "Iot"
      (replaceAll "WIFI" "Wifi" (replaceAll "WiFi" "Wifi" (replaceAll "OAUTH2" "Oauth2"
        (replaceAll "OAuth2" "Oauth2" operationId)))))) = regularSpelling operationId := rfl
  unfold toolName
  simp only [spelled, joined]
  by_cases safe : SafeOperationId operationId
  · rw [if_neg (fun refused => guard.mp refused safe), if_pos (safe_joinedName safe),
      Except.ok.injEq, eq_comm]
    exact (and_iff_right safe).symm
  · rw [if_pos (guard.mpr safe)]
    constructor
    · intro accepted
      cases accepted
    · exact fun accepted => absurd accepted.1 safe

theorem namedAfter_joinedName {operationId : String} (safe : SafeOperationId operationId) :
    NamedAfter operationId (joinedName operationId) where
  words := ⟨lowerWords operationId, lowerWords_words safe, toList_joinedName operationId⟩
  letters := by
    have start : "mist_".length = "mist_".toList.length := rfl
    rw [toList_joinedName, start, List.drop_left, ← flatten_lowerWords]
    exact filter_intercalate fun word present =>
      underscore_notMem (lowerWords_words safe word present)

/-- Exactly the safe identifiers have a name, which keeps their letters; two identifiers with one
name differ in letter case only. -/
theorem toolName_conserves :
    (∀ operationId, (∃ name, toolName operationId = .ok name) ↔ SafeOperationId operationId) ∧
    (∀ operationId name, toolName operationId = .ok name → NamedAfter operationId name) ∧
    ∀ first second name, toolName first = .ok name → toolName second = .ok name →
      first.toList.map Char.toLower = second.toList.map Char.toLower := by
  have named : ∀ operationId name, toolName operationId = .ok name →
      NamedAfter operationId name := by
    intro operationId name derived
    obtain ⟨safe, rfl⟩ := toolName_eq_ok_iff.mp derived
    exact namedAfter_joinedName safe
  refine ⟨?_, named, ?_⟩
  · intro operationId
    simp only [toolName_eq_ok_iff]
    exact ⟨fun ⟨_, safe, _⟩ => safe, fun safe => ⟨_, safe, rfl⟩⟩
  · intro first second name derived derived'
    rw [← (named first name derived).letters, (named second name derived').letters]

end Results

end RustMist
