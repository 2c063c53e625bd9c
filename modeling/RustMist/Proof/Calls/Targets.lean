import RustMist.Library.Hex
import RustMist.Construction.Core.Grant

/-! The subjects that name the targets of Mist. -/

namespace RustMist

section Identifiers

/-- Five groups of small hexadecimal digits, of which one is not zero. -/
structure UuidGroups where
  groups : List (List Char)
  lengths : groups.map List.length = [8, 4, 4, 4, 12]
  digits : ∀ group ∈ groups, ∀ letter ∈ group, Hex.isLowerDigit letter = true
  nonNil : ∃ group ∈ groups, ∃ letter ∈ group, letter ≠ '0'

/-- The groups are joined by hyphens. -/
def UuidGroups.text (uuid : UuidGroups) : String := String.ofList (['-'].intercalate uuid.groups)

/-- The scan of a group that holds no place of a hyphen. -/
theorem scan_group {index : Nat} {containsNonzero : Bool} {group rest : List Char}
    (plain : ∀ place < group.length, ¬(index + place = 8 ∨ index + place = 13 ∨
      index + place = 18 ∨ index + place = 23)) :
    isCanonicalUuidFrom index containsNonzero (group ++ rest) =
      (group.all Hex.isLowerDigit &&
        isCanonicalUuidFrom (index + group.length)
          (containsNonzero || group.any fun letter => letter ≠ '0') rest) := by
  induction group generalizing index containsNonzero with
  | nil => simp
  | cons letter group ih =>
      have here := plain 0 (by simp)
      rw [Nat.add_zero] at here
      have later : ∀ place < group.length, ¬(index + 1 + place = 8 ∨ index + 1 + place = 13 ∨
          index + 1 + place = 18 ∨ index + 1 + place = 23) := by
        intro place inside
        have apart := plain (place + 1) (by simpa using inside)
        omega
      rw [List.cons_append, isCanonicalUuidFrom, if_neg here, ih later, List.length_cons,
        List.all_cons, List.any_cons]
      have place : index + 1 + group.length = index + (group.length + 1) := by omega
      rw [place, Bool.or_assoc]
      have refused : (!letter.isDigit && !('a' ≤ letter && letter ≤ 'f')) =
          !Hex.isLowerDigit letter := by
        rw [Hex.isLowerDigit, Bool.not_or]
      rw [refused]
      cases Hex.isLowerDigit letter <;> simp

theorem scan_hyphen {index : Nat} {containsNonzero : Bool} {letter : Char} {rest : List Char}
    (place : index = 8 ∨ index = 13 ∨ index = 18 ∨ index = 23) :
    isCanonicalUuidFrom index containsNonzero (letter :: rest) =
      (letter = '-' && isCanonicalUuidFrom (index + 1) containsNonzero rest) := by
  rw [isCanonicalUuidFrom, if_pos place]
  by_cases hyphen : letter = '-' <;> simp [hyphen]

/-- The scan goes over five groups and the letters between them. -/
theorem scan_groups {first second third fourth last : List Char} {one two three four : Char}
    (lengths : [first, second, third, fourth, last].map List.length = [8, 4, 4, 4, 12]) :
    isCanonicalUuidFrom 0 false
        (first ++ one :: (second ++ two :: (third ++ three :: (fourth ++ four :: last)))) = true ↔
      (∀ letter ∈ [one, two, three, four], letter = '-') ∧
        (∀ group ∈ [first, second, third, fourth, last], ∀ letter ∈ group,
          Hex.isLowerDigit letter = true) ∧
        ∃ group ∈ [first, second, third, fourth, last], ∃ letter ∈ group, letter ≠ '0' := by
  simp only [List.map_cons, List.map_nil, List.cons.injEq, and_true] at lengths
  obtain ⟨size, size', size'', size₃, size₄⟩ := lengths
  rw [scan_group (by omega), size, scan_hyphen (by omega), scan_group (by omega), size',
    scan_hyphen (by omega), scan_group (by omega), size'', scan_hyphen (by omega),
    scan_group (by omega), size₃, scan_hyphen (by omega), ← List.append_nil last,
    scan_group (by omega), isCanonicalUuidFrom]
  simp only [List.append_nil, Bool.and_eq_true, Bool.or_eq_true, Bool.false_or, List.all_eq_true, List.any_eq_true,
    decide_eq_true_eq, List.forall_mem_cons, List.exists_mem_cons_iff, List.not_mem_nil,
    false_and, exists_false, or_false, or_assoc]
  constructor
  · rintro ⟨digits, rfl, digits', rfl, digits'', rfl, digits₃, rfl, digits₄, nonzero⟩
    exact ⟨⟨rfl, rfl, rfl, rfl, nofun⟩, ⟨digits, digits', digits'', digits₃, digits₄, nofun⟩, nonzero⟩
  · rintro ⟨⟨rfl, rfl, rfl, rfl, _⟩, ⟨digits, digits', digits'', digits₃, digits₄, _⟩, nonzero⟩
    exact ⟨digits, rfl, digits', rfl, digits'', rfl, digits₃, rfl, digits₄, nonzero⟩

/-- A long enough list has a letter after its first ones. -/
theorem split_group {letters : List Char} (size : Nat) (long : size < letters.length) :
    ∃ group letter rest, letters = group ++ letter :: rest ∧ group.length = size := by
  refine ⟨letters.take size, letters[size], letters.drop (size + 1), ?_, by simp; omega⟩
  rw [← List.drop_eq_getElem_cons long, List.take_append_drop]

theorem letter_of_scan {index : Nat} {containsNonzero : Bool} {letters : List Char}
    (canonical : isCanonicalUuidFrom index containsNonzero letters = true) :
    ∀ letter ∈ letters, letter = '-' ∨ Hex.isLowerDigit letter = true := by
  induction letters generalizing index containsNonzero with
  | nil => exact fun letter member => absurd member List.not_mem_nil
  | cons letter rest ih =>
      rw [List.forall_mem_cons]
      by_cases place : index = 8 ∨ index = 13 ∨ index = 18 ∨ index = 23
      · rw [scan_hyphen place, Bool.and_eq_true, decide_eq_true_eq] at canonical
        exact ⟨.inl canonical.1, ih canonical.2⟩
      · rw [← List.singleton_append, scan_group (by simpa using place), Bool.and_eq_true] at canonical
        exact ⟨.inr (by simpa using canonical.1), ih canonical.2⟩

/-- A scanned text has as many bytes as letters. -/
theorem size_of_scan {id : String} (scanned : isCanonicalUuidFrom 0 false id.toList = true) :
    id.utf8ByteSize = id.toList.length := by
  have small : ∀ letter ∈ id.toList, letter.val ≤ 127 := by
    intro letter member
    rcases letter_of_scan scanned letter member with rfl | digit
    · decide
    · exact Hex.val_le_of_isLowerDigit digit
  have size := Utf8.byteSize_ofList_of_small small
  rwa [String.ofList_toList] at size

/-- A canonical identifier is the text of five groups of digits. -/
theorem isCanonicalUuid_iff {id : String} :
    isCanonicalUuid id = true ↔ ∃ uuid : UuidGroups, uuid.text = id := by
  rw [isCanonicalUuid, Bool.and_eq_true, decide_eq_true_eq]
  constructor
  · intro ⟨size, scanned⟩
    rw [size_of_scan scanned] at size
    obtain ⟨first, one, rest, parted, length⟩ := split_group 8 (by rw [size]; decide)
    have size' : rest.length = 27 := by
      rw [parted, List.length_append, List.length_cons] at size
      omega
    obtain ⟨second, two, rest', rfl, length'⟩ := split_group 4 (by rw [size']; decide)
    have size'' : rest'.length = 22 := by
      rw [List.length_append, List.length_cons] at size'
      omega
    obtain ⟨third, three, rest'', rfl, length''⟩ := split_group 4 (by rw [size'']; decide)
    have size₃ : rest''.length = 17 := by
      rw [List.length_append, List.length_cons] at size''
      omega
    obtain ⟨fourth, four, last, rfl, length₃⟩ := split_group 4 (by rw [size₃]; decide)
    have length₄ : last.length = 12 := by
      rw [List.length_append, List.length_cons] at size₃
      omega
    have lengths : [first, second, third, fourth, last].map List.length = [8, 4, 4, 4, 12] := by
      simp [length, length', length'', length₃, length₄]
    rw [parted, scan_groups lengths] at scanned
    obtain ⟨hyphens, digits, nonNil⟩ := scanned
    simp only [List.forall_mem_cons] at hyphens
    obtain ⟨rfl, rfl, rfl, rfl, _⟩ := hyphens
    refine ⟨⟨_, lengths, digits, nonNil⟩, ?_⟩
    rw [UuidGroups.text, ← String.ofList_toList (s := id), parted]
    simp [List.intercalate]
  · rintro ⟨⟨groups, lengths, digits, nonNil⟩, rfl⟩
    obtain ⟨first, rest, rfl, _, rest_lengths⟩ := List.map_eq_cons_iff.mp lengths
    obtain ⟨second, rest, rfl, _, rest_lengths⟩ := List.map_eq_cons_iff.mp rest_lengths
    obtain ⟨third, rest, rfl, _, rest_lengths⟩ := List.map_eq_cons_iff.mp rest_lengths
    obtain ⟨fourth, rest, rfl, _, rest_lengths⟩ := List.map_eq_cons_iff.mp rest_lengths
    obtain ⟨last, rest, rfl, _, rest_lengths⟩ := List.map_eq_cons_iff.mp rest_lengths
    obtain rfl := List.map_eq_nil_iff.mp rest_lengths
    have letters : (UuidGroups.text ⟨_, lengths, digits, nonNil⟩).toList =
        first ++ '-' :: (second ++ '-' :: (third ++ '-' :: (fourth ++ '-' :: last))) := by
      simp [UuidGroups.text, List.intercalate]
    have scanned : isCanonicalUuidFrom 0 false
        (UuidGroups.text ⟨_, lengths, digits, nonNil⟩).toList = true := by
      rw [letters, scan_groups lengths]
      exact ⟨by simp, digits, nonNil⟩
    refine ⟨?_, scanned⟩
    rw [size_of_scan scanned, letters]
    simp only [List.map_cons, List.map_nil, List.cons.injEq, and_true] at lengths
    simp only [List.length_append, List.length_cons]
    omega

end Identifiers

section Subjects

theorem MistTarget.slash_not_mem (target : MistTarget) : '/' ∉ target.id.toList := by
  have canonical := target.canonical
  rw [isCanonicalUuid, Bool.and_eq_true] at canonical
  intro member
  have letter := letter_of_scan canonical.2 '/' member
  exact absurd letter (by decide)

theorem splitOnce_slash {kind : String} (free : '/' ∉ kind.toList) (id : String) :
    MistTarget.splitOnce '/' (kind ++ "/" ++ id) = some (kind, id) := by
  have letters : (kind ++ "/" ++ id).toList = kind.toList ++ '/' :: id.toList := by simp
  have plain : ∀ letter ∈ kind.toList, decide (letter ≠ '/') = true := by
    intro letter member
    rw [decide_eq_true_eq]
    rintro rfl
    exact free member
  have stops : decide (('/' : Char) ≠ '/') = false := by decide
  rw [MistTarget.splitOnce, letters, if_pos (by simp), List.takeWhile_append_of_pos plain,
    List.dropWhile_append_of_pos plain, List.takeWhile_cons, List.dropWhile_cons, stops]
  simp

/-- The parts of a split text make the text. -/
theorem text_of_splitOnce {text kind id : String}
    (split : MistTarget.splitOnce '/' text = some (kind, id)) : text = kind ++ "/" ++ id := by
  by_cases present : '/' ∈ text.toList
  · obtain ⟨before, after, parts, free⟩ := List.eq_append_cons_of_mem present
    have joined : text = String.ofList before ++ "/" ++ String.ofList after := by
      apply String.toList_injective
      simp [parts]
    rw [joined, splitOnce_slash (by simpa using free)] at split
    obtain ⟨rfl, rfl⟩ := Prod.mk.inj (Option.some.inj split)
    exact joined
  · rw [MistTarget.splitOnce, if_neg present] at split
    cases split

/-- A target is read back from its subject. -/
theorem MistTarget.parse_subject (target : MistTarget) :
    MistTarget.parse target.subject = .ok target := by
  have free := target.slash_not_mem
  cases kind : target.kind with
  | org =>
      have plain : '/' ∉ "org".toList := by decide
      have split := splitOnce_slash plain target.id
      have subject : target.subject = "org" ++ "/" ++ target.id := by
        rw [MistTarget.subject, kind]
        rfl
      rw [MistTarget.parse, subject, split]
      dsimp only
      rw [if_neg free, if_pos rfl]
      exact MistTarget.org_ok_iff.mpr ⟨kind, rfl⟩
  | site =>
      have plain : '/' ∉ "site".toList := by decide
      have split := splitOnce_slash plain target.id
      have subject : target.subject = "site" ++ "/" ++ target.id := by
        rw [MistTarget.subject, kind]
        rfl
      have other : ("site" : String) ≠ "org" := by decide
      rw [MistTarget.parse, subject, split]
      dsimp only
      rw [if_neg free, if_neg other, if_pos rfl]
      exact MistTarget.site_ok_iff.mpr ⟨kind, rfl⟩

/-- A text is parsed to a target exactly when it is the target's subject. -/
theorem MistTarget.parse_eq_ok_iff {subject : String} {target : MistTarget} :
    MistTarget.parse subject = .ok target ↔ target.subject = subject := by
  constructor
  · intro parsed
    unfold MistTarget.parse at parsed
    split at parsed
    · cases parsed
    · rename_i kind id split
      rw [text_of_splitOnce split]
      split at parsed
      · cases parsed
      · split at parsed
        · rename_i org
          obtain ⟨kind', rfl⟩ := MistTarget.org_ok_iff.mp parsed
          rw [MistTarget.subject, kind', org]
          rfl
        · split at parsed
          · rename_i site
            obtain ⟨kind', rfl⟩ := MistTarget.site_ok_iff.mp parsed
            rw [MistTarget.subject, kind', site]
            rfl
          · cases parsed
  · rintro rfl
    exact target.parse_subject

/-- The accepted subjects are the two kinds of canonical identifiers, each target has one spelling,
and a grant allows the literal subjects of its targets. -/
theorem target_spellings :
    (∀ subject, (∃ target, MistTarget.parse subject = .ok target) ↔
      ∃ uuid : UuidGroups, subject = "org/" ++ uuid.text ∨ subject = "site/" ++ uuid.text) ∧
    (∀ subject target, MistTarget.parse subject = .ok target ↔ target.subject = subject) ∧
    ∀ (grant : MistGrant) (subject : String), grant.allowsSubject subject = true ↔
      ∃ target ∈ grant.subjects, target.subject = subject := by
  refine ⟨?_, fun _ _ => MistTarget.parse_eq_ok_iff, ?_⟩
  · intro subject
    simp only [MistTarget.parse_eq_ok_iff]
    constructor
    · rintro ⟨⟨kind, id, canonical⟩, rfl⟩
      obtain ⟨uuid, rfl⟩ := isCanonicalUuid_iff.mp canonical
      cases kind with
      | org => exact ⟨uuid, .inl rfl⟩
      | site => exact ⟨uuid, .inr rfl⟩
    · rintro ⟨uuid, rfl | rfl⟩
      · exact ⟨⟨.org, uuid.text, isCanonicalUuid_iff.mpr ⟨uuid, rfl⟩⟩, rfl⟩
      · exact ⟨⟨.site, uuid.text, isCanonicalUuid_iff.mpr ⟨uuid, rfl⟩⟩, rfl⟩
  · intro grant subject
    unfold MistGrant.allowsSubject
    constructor
    · intro allowed
      split at allowed
      · rename_i target parsed
        rw [MistGrant.allowsTarget, List.any_eq_true] at allowed
        obtain ⟨granted, member, same⟩ := allowed
        rw [of_decide_eq_true same] at member
        exact ⟨target, member, MistTarget.parse_eq_ok_iff.mp parsed⟩
      · cases allowed
    · rintro ⟨target, member, rfl⟩
      rw [target.parse_subject]
      exact List.any_eq_true.mpr ⟨target, member, decide_eq_true rfl⟩

end Subjects

end RustMist
