import Mathlib.Tactic.IntervalCases
import RustMist.Library.UrlPath

/-! The segments of a path that is put together from pieces. -/

namespace UrlPath

section Characters

/-- A plain character stands for itself in a segment. -/
def isPlain (character : Char) : Bool := !isEncoded character && !isSeparator character

/-- The text of a character in the segments of a path. -/
def readChar (character : Char) : List Char :=
  if isSeparator character || isIgnored character then [] else encodeChar character

theorem encodeChar_of_plain {character : Char} (plain : isPlain character = true) :
    encodeChar character = [character] := by
  rw [isPlain, Bool.and_eq_true, Bool.not_eq_true'] at plain
  rw [encodeChar, if_neg (by simp [plain.1])]

/-- The characters that are dropped are among those that are encoded. -/
theorem isEncoded_of_ignored {character : Char} (ignored : isIgnored character = true) :
    isEncoded character = true := by
  rw [isIgnored, Bool.or_eq_true, Bool.or_eq_true, beq_iff_eq, beq_iff_eq, beq_iff_eq] at ignored
  rcases ignored with (rfl | rfl) | rfl <;> decide

theorem readChar_of_plain {character : Char} (plain : isPlain character = true) :
    readChar character = [character] := by
  have parts := plain
  rw [isPlain, Bool.and_eq_true, Bool.not_eq_true', Bool.not_eq_true'] at parts
  have kept : isIgnored character = false := by
    by_contra ignored
    rw [isEncoded_of_ignored (by simpa using ignored)] at parts
    exact Bool.noConfusion parts.1
  rw [readChar, parts.2, kept, Bool.or_self, if_neg Bool.false_ne_true, encodeChar_of_plain plain]

theorem isPlain_hexDigit {value : Nat} (small : value < 16) :
    isPlain (upperHexDigit value) = true := by
  interval_cases value <;> decide

theorem isPlain_of_mem_encodeByte {byte : UInt8} {character : Char}
    (member : character ∈ encodeByte byte) : isPlain character = true := by
  have bound := byte.toNat_lt
  rw [encodeByte, List.mem_cons, List.mem_cons, List.mem_singleton] at member
  rcases member with rfl | rfl | rfl
  · decide
  · exact isPlain_hexDigit (by omega)
  · exact isPlain_hexDigit (by omega)

theorem isPlain_of_mem_escape {character letter : Char} (member : letter ∈ escape character) :
    isPlain letter = true := by
  obtain ⟨byte, _, inside⟩ := List.mem_flatMap.mp member
  exact isPlain_of_mem_encodeByte inside

/-- What is read of a character is plain. -/
theorem isPlain_of_mem_encodeChar {character letter : Char}
    (kept : isSeparator character = false) (member : letter ∈ encodeChar character) :
    isPlain letter = true := by
  rw [encodeChar] at member
  split at member
  · exact isPlain_of_mem_escape member
  · rename_i unencoded
    obtain rfl := List.mem_singleton.mp member
    rw [isPlain, kept]
    simpa using unencoded

end Characters

section Dots

def isDotSegment (segment : List Char) : Bool := isSingleDot segment || isDoubleDot segment

/-- In such a text a percent sign only starts the escape of a dot. -/
def onlyDotEscapes : List Char → Bool
  | [] => true
  | character :: rest =>
      (character != '%' || [['2', 'e'], ['2', 'E']].contains (rest.take 2)) && onlyDotEscapes rest

/-- These are all dot segments. -/
def dotSegments : List (List Char) :=
  dotForms ++ dotForms.flatMap fun first => dotForms.map fun second => first ++ second

theorem isDotSegment_iff {segment : List Char} :
    isDotSegment segment = true ↔ segment ∈ dotSegments := by
  simp only [isDotSegment, isSingleDot, isDoubleDot, dotSegments, Bool.or_eq_true,
    List.contains_iff_mem, List.any_eq_true, beq_iff_eq, List.mem_append, List.mem_flatMap,
    List.mem_map, @eq_comm _ segment]

theorem onlyDotEscapes_of_isDotSegment {segment : List Char} (dots : isDotSegment segment = true) :
    onlyDotEscapes segment = true := by
  have all : ∀ segment ∈ dotSegments, onlyDotEscapes segment = true := by decide
  exact all segment (isDotSegment_iff.mp dots)

theorem ne_nil_of_isDotSegment {segment : List Char} (dots : isDotSegment segment = true) :
    segment ≠ [] := by
  have all : ∀ segment ∈ dotSegments, segment ≠ [] := by decide
  exact all segment (isDotSegment_iff.mp dots)

/-- A dot segment is its own encoding. -/
theorem encode_of_isDotSegment {segment : List Char} (dots : isDotSegment segment = true) :
    segment.flatMap encodeChar = segment := by
  have all : ∀ segment ∈ dotSegments, segment.flatMap encodeChar = segment := by decide
  exact all segment (isDotSegment_iff.mp dots)

/-- The first byte of an encoded character is not that of a dot. -/
theorem utf8EncodeChar_of_encoded {character : Char} (encoded : isEncoded character = true) :
    ∃ byte rest, String.utf8EncodeChar character = byte :: rest ∧ byte.toNat ≠ 46 := by
  have other : character.val.toNat ≠ 46 := by
    intro dot
    obtain rfl : character = '.' := Char.ext (UInt32.toNat_inj.mp dot)
    exact absurd encoded (by decide)
  have first (value : Nat) (bound : value < 256) (apart : value ≠ 46) :
      (UInt8.ofNat value).toNat ≠ 46 := by
    rwa [UInt8.toNat_ofNat', Nat.mod_eq_of_lt bound]
  unfold String.utf8EncodeChar
  dsimp only
  split
  · exact ⟨_, _, rfl, first _ (by omega) other⟩
  · split
    · exact ⟨_, _, rfl, first _ (by omega) (by omega)⟩
    · split
      · exact ⟨_, _, rfl, first _ (by omega) (by omega)⟩
      · exact ⟨_, _, rfl, first _ (by omega) (by omega)⟩

theorem hexDigits_ne_dot : ∀ value : Fin 256, value.val ≠ 46 →
    [['2', 'e'], ['2', 'E']].contains
      [upperHexDigit (value.val / 16), upperHexDigit (value.val % 16)] = false := by
  decide +kernel

/-- The escape of an encoded character is not the escape of a dot. -/
theorem escape_of_encoded {character : Char} (encoded : isEncoded character = true) :
    ∃ rest, escape character = '%' :: rest ∧
      ∀ more, [['2', 'e'], ['2', 'E']].contains ((rest ++ more).take 2) = false := by
  obtain ⟨byte, bytes, whole, other⟩ := utf8EncodeChar_of_encoded encoded
  rw [escape, whole, List.flatMap_cons, encodeByte]
  exact ⟨_, rfl, fun more => hexDigits_ne_dot ⟨byte.toNat, byte.toNat_lt⟩ other⟩

/-- A text whose encoding is a dot segment is this dot segment. -/
theorem encode_eq_of_onlyDotEscapes {text : List Char}
    (dots : onlyDotEscapes (text.flatMap encodeChar) = true) : text.flatMap encodeChar = text := by
  induction text with
  | nil => rfl
  | cons character rest ih =>
      rw [List.flatMap_cons] at dots ⊢
      by_cases encoded : isEncoded character = true
      · obtain ⟨tail, whole, other⟩ := escape_of_encoded encoded
        rw [encodeChar, if_pos encoded, whole, List.cons_append, onlyDotEscapes, other,
          Bool.or_false, Bool.and_eq_true] at dots
        exact absurd dots.1 (by decide)
      · rw [encodeChar, if_neg encoded] at dots ⊢
        rw [List.singleton_append, onlyDotEscapes, Bool.and_eq_true] at dots
        rw [List.singleton_append, ih dots.2]

theorem isDotSegment_encode (text : List Char) :
    isDotSegment (text.flatMap encodeChar) = isDotSegment text := by
  rw [Bool.eq_iff_iff]
  constructor
  · intro dots
    rwa [encode_eq_of_onlyDotEscapes (onlyDotEscapes_of_isDotSegment dots)] at dots
  · intro dots
    rwa [encode_of_isDotSegment dots]

end Dots

section Segments

/-- These are the segments of a path before the dot segments are removed. -/
def rawSegments (segment : List Char) : List Char → List (List Char)
  | [] => [segment]
  | character :: rest =>
      if isSeparator character then segment :: rawSegments [] rest
      else rawSegments (segment ++ readChar character) rest

def closeAll (segments : List (List Char)) : List (List Char) → List (List Char)
  | [] => segments
  | [segment] => closeSegment segments segment true
  | segment :: rest => closeAll (closeSegment segments segment false) rest

theorem rawSegments_ne_nil (segment text : List Char) : rawSegments segment text ≠ [] := by
  induction text generalizing segment with
  | nil => exact List.cons_ne_nil _ _
  | cons character rest ih =>
      rw [rawSegments]
      split
      · exact List.cons_ne_nil _ _
      · exact ih _

theorem closeAll_cons {rest : List (List Char)} (more : rest ≠ [])
    (segments : List (List Char)) (segment : List Char) :
    closeAll segments (segment :: rest) = closeAll (closeSegment segments segment false) rest := by
  cases rest with
  | nil => exact absurd rfl more
  | cons next rest => rfl

/-- A path is read by its segments. -/
theorem readPath_eq_closeAll (segments : List (List Char)) (segment text : List Char) :
    readPath segments segment text = closeAll segments (rawSegments segment text) := by
  induction text generalizing segments segment with
  | nil => rfl
  | cons character rest ih =>
      rw [readPath, rawSegments]
      by_cases separates : isSeparator character = true
      · rw [if_pos separates, if_pos separates, ih, closeAll_cons (rawSegments_ne_nil _ _)]
      · rw [if_neg separates, if_neg separates, readChar]
        by_cases ignored : isIgnored character = true
        · rw [if_pos ignored, ignored, Bool.or_true, if_pos rfl, List.append_nil]
          exact ih _ _
        · rw [if_neg ignored, if_neg (by simp [separates, ignored])]
          exact ih _ _

/-- The letters that are read of a text stand in its raw segments. -/
theorem flatten_rawSegments (segment text : List Char) :
    (rawSegments segment text).flatten = segment ++ text.flatMap readChar := by
  induction text generalizing segment with
  | nil => simp [rawSegments]
  | cons character rest ih =>
      rw [rawSegments, List.flatMap_cons]
      split
      · rename_i separates
        rw [List.flatten_cons, ih, readChar, separates, Bool.true_or, if_pos rfl]
      · rw [ih, List.append_assoc]

/-- The raw segments of pieces without separators are what is read of the pieces. -/
theorem rawSegments_intercalate {piece : List Char} {pieces : List (List Char)}
    (plain : ∀ other ∈ piece :: pieces, ∀ character ∈ other, isSeparator character = false)
    (segment : List Char) :
    rawSegments segment (['/'].intercalate (piece :: pieces)) =
      (segment ++ piece.flatMap readChar) :: pieces.map fun other => other.flatMap readChar := by
  have append (segment text tail : List Char)
      (free : ∀ character ∈ text, isSeparator character = false) :
      rawSegments segment (text ++ tail) = rawSegments (segment ++ text.flatMap readChar) tail := by
    induction text generalizing segment with
    | nil => simp
    | cons character text ih =>
        have here := free character List.mem_cons_self
        rw [List.cons_append, rawSegments, here, if_neg Bool.false_ne_true,
          ih _ fun other member => free other (List.mem_cons_of_mem _ member), List.flatMap_cons,
          List.append_assoc]
  induction pieces generalizing piece segment with
  | nil =>
      rw [List.intercalate_singleton, ← List.append_nil piece,
        append _ _ _ (plain piece List.mem_cons_self), List.append_nil]
      rfl
  | cons next pieces ih =>
      rw [List.intercalate_cons_cons, List.append_assoc,
        append _ _ _ (plain piece List.mem_cons_self), List.singleton_append, rawSegments, if_pos (by decide),
        ih fun other member => plain other (List.mem_cons_of_mem _ member)]
      simp

section Closing

variable {segments : List (List Char)} {segment : List Char}

theorem closeSegment_of_not_dot (plain : isDotSegment segment = false) (last : Bool) :
    closeSegment segments segment last = segments ++ [segment] := by
  rw [isDotSegment, Bool.or_eq_false_iff] at plain
  rw [closeSegment, plain.1, plain.2, if_neg Bool.false_ne_true, if_neg Bool.false_ne_true]

/-- A dot segment is lost. -/
theorem length_closeSegment_lt (segments : List (List Char)) {segment : List Char}
    (dots : isDotSegment segment = true) (last : Bool) :
    (closeSegment segments segment last).flatten.length <
      segments.flatten.length + segment.length := by
  have positive : 0 < segment.length := List.length_pos_iff.mpr (ne_nil_of_isDotSegment dots)
  have shorter : segments.dropLast.flatten.length ≤ segments.flatten.length := by
    rcases List.eq_nil_or_concat segments with rfl | ⟨front, final, rfl⟩ <;> simp
  have ending (kept : List (List Char)) :
      (kept ++ if last then [[]] else []).flatten.length = kept.flatten.length := by
    cases last <;> simp
  rw [closeSegment]
  split
  · rw [ending]
    omega
  · rw [isDotSegment, Bool.or_eq_true] at dots
    rename_i single
    rw [if_pos (by simpa [single] using dots), ending]
    omega

theorem length_closeSegment_le (segments : List (List Char)) (segment : List Char) (last : Bool) :
    (closeSegment segments segment last).flatten.length ≤
      segments.flatten.length + segment.length := by
  cases dots : isDotSegment segment with
  | true => exact Nat.le_of_lt (length_closeSegment_lt segments dots last)
  | false => rw [closeSegment_of_not_dot dots]; simp

end Closing

theorem closeAll_of_not_dot {raw : List (List Char)}
    (plain : ∀ segment ∈ raw, isDotSegment segment = false) (segments : List (List Char)) :
    closeAll segments raw = segments ++ raw := by
  induction raw generalizing segments with
  | nil => exact (List.append_nil _).symm
  | cons segment rest ih =>
      have here := plain segment List.mem_cons_self
      cases rest with
      | nil => exact closeSegment_of_not_dot here true
      | cons next rest =>
          rw [closeAll_cons (List.cons_ne_nil _ _),
            ih (fun other member => plain other (List.mem_cons_of_mem _ member)),
            closeSegment_of_not_dot here, List.append_assoc, List.singleton_append]

/-- Letters are lost as soon as one of the segments is a dot segment. -/
theorem length_closeAll (raw segments : List (List Char)) :
    (closeAll segments raw).flatten.length ≤ segments.flatten.length + raw.flatten.length ∧
      ((∃ segment ∈ raw, isDotSegment segment = true) →
        (closeAll segments raw).flatten.length < segments.flatten.length + raw.flatten.length) := by
  induction raw generalizing segments with
  | nil => simp [closeAll]
  | cons segment rest ih =>
      cases rest with
      | nil =>
          have most := length_closeSegment_le segments segment true
          refine ⟨by simpa [closeAll] using most, ?_⟩
          rintro ⟨other, member, dots⟩
          obtain rfl := List.mem_singleton.mp member
          simpa [closeAll] using length_closeSegment_lt segments dots true
      | cons next rest =>
          obtain ⟨most, less⟩ := ih (closeSegment segments segment false)
          have here := length_closeSegment_le segments segment false
          rw [closeAll_cons (List.cons_ne_nil _ _), List.flatten_cons, List.length_append]
          refine ⟨by omega, ?_⟩
          rintro ⟨other, member, dots⟩
          rcases List.mem_cons.mp member with rfl | later
          · have lost := length_closeSegment_lt segments dots false
            omega
          · have lost := less ⟨other, later, dots⟩
            omega

/-- A segment is one that was there, one that was read or the empty end of a dot segment. -/
theorem mem_closeAll {raw segments : List (List Char)} {segment : List Char}
    (member : segment ∈ closeAll segments raw) :
    segment ∈ segments ∨ segment ∈ raw ∨ segment = [] := by
  have close {segments : List (List Char)} {other : List Char} {last : Bool}
      (member : segment ∈ closeSegment segments other last) :
      segment ∈ segments ∨ segment = other ∨ segment = [] := by
    rw [closeSegment] at member
    split at member
    · rcases List.mem_append.mp member with kept | ending
      · exact .inl (List.dropLast_subset segments kept)
      · cases last <;> simp_all
    · split at member
      · rcases List.mem_append.mp member with kept | ending
        · exact .inl kept
        · cases last <;> simp_all
      · rcases List.mem_append.mp member with kept | ending
        · exact .inl kept
        · exact .inr (.inl (List.mem_singleton.mp ending))
  induction raw generalizing segments with
  | nil => exact .inl member
  | cons first rest ih =>
      cases rest with
      | nil =>
          rcases close member with kept | rfl | empty
          · exact .inl kept
          · exact .inr (.inl List.mem_cons_self)
          · exact .inr (.inr empty)
      | cons next rest =>
          rw [closeAll_cons (List.cons_ne_nil _ _)] at member
          rcases ih member with before | later | empty
          · rcases close before with kept | rfl | empty
            · exact .inl kept
            · exact .inr (.inl List.mem_cons_self)
            · exact .inr (.inr empty)
          · exact .inr (.inl (List.mem_cons_of_mem _ later))
          · exact .inr (.inr empty)

theorem rawSegments_filter (segment text : List Char) :
    rawSegments segment (text.filter fun character => !isIgnored character) =
      rawSegments segment text := by
  induction text generalizing segment with
  | nil => rfl
  | cons character rest ih =>
      cases ignored : isIgnored character with
      | true =>
          have inner : isSeparator character = false := by
            rw [isIgnored, Bool.or_eq_true, Bool.or_eq_true, beq_iff_eq, beq_iff_eq,
              beq_iff_eq] at ignored
            rcases ignored with (rfl | rfl) | rfl <;> decide
          rw [List.filter_cons_of_neg (by simp [ignored]), ih, rawSegments, inner,
            if_neg Bool.false_ne_true, readChar, ignored, Bool.or_true, if_pos rfl,
            List.append_nil]
      | false =>
          rw [List.filter_cons_of_pos (by simp [ignored]), rawSegments, rawSegments, ih, ih]

/-- A path that starts with a separator is read by the segments after it. -/
theorem setPath_slash (text : List Char) :
    setPath ('/' :: text) = closeAll [] (rawSegments [] text) := by
  rw [setPath, List.filter_cons_of_pos (by decide)]
  dsimp only
  rw [if_pos (by decide), readPath_eq_closeAll, rawSegments_filter]

/-- The segments of a path are written in plain characters. -/
theorem isPlain_of_mem_setPath {text segment : List Char} {letter : Char}
    (member : segment ∈ setPath ('/' :: text)) (inside : letter ∈ segment) :
    isPlain letter = true := by
  rw [setPath_slash] at member
  rcases mem_closeAll member with absent | raw | rfl
  · exact absurd absent List.not_mem_nil
  · have read := List.mem_flatten.mpr ⟨segment, raw, inside⟩
    rw [flatten_rawSegments, List.nil_append] at read
    obtain ⟨character, _, kept⟩ := List.mem_flatMap.mp read
    rw [readChar] at kept
    split at kept
    · exact absurd kept List.not_mem_nil
    · rename_i separates
      rw [Bool.or_eq_true, not_or, Bool.not_eq_true] at separates
      exact isPlain_of_mem_encodeChar separates.1 kept
  · exact absurd inside List.not_mem_nil

end Segments

section Parts

/-- An encoder writes every character, and where it writes plain letters it never writes fewer
than are read. -/
structure Encoder (encode : Char → List Char) : Prop where
  written : ∀ character, encode character ≠ []
  measured : ∀ character, (∀ letter ∈ encode character, isPlain letter = true) →
    readChar character = encode character ∨
      (readChar character).length < (encode character).length

/-- A part of a path is a text and the way in which it is to be written. -/
abbrev Part := List Char × (Char → List Char)

def Part.expected (part : Part) : List Char := part.1.flatMap part.2

/-- A part that is read as it is to be written. -/
structure Part.Faithful (part : Part) : Prop where
  read : ∀ character ∈ part.1, readChar character = part.2 character
  kept : isDotSegment part.1 = false

theorem length_flatMap_read {text : List Char} {encode : Char → List Char}
    (encoder : Encoder encode) (plain : ∀ letter ∈ text.flatMap encode, isPlain letter = true) :
    (text.flatMap readChar).length ≤ (text.flatMap encode).length ∧
      ((text.flatMap readChar).length = (text.flatMap encode).length →
        ∀ character ∈ text, readChar character = encode character) := by
  induction text with
  | nil => simp
  | cons character rest ih =>
      rw [List.flatMap_cons] at plain
      obtain ⟨most, equal⟩ := ih fun letter member => plain letter (List.mem_append_right _ member)
      rw [List.flatMap_cons, List.flatMap_cons, List.length_append, List.length_append,
        List.forall_mem_cons]
      rcases encoder.measured character
        (fun letter member => plain letter (List.mem_append_left _ member)) with same | shorter
      · rw [same]
        exact ⟨by omega, fun total => ⟨rfl, equal (by omega)⟩⟩
      · exact ⟨by omega, fun total => absurd total (by omega)⟩

theorem flatMap_intercalate (pieces : List (List Char)) :
    (['/'].intercalate pieces).flatMap readChar =
      (pieces.map fun piece => piece.flatMap readChar).flatten := by
  induction pieces with
  | nil => rfl
  | cons piece rest ih =>
      cases rest with
      | nil => simp
      | cons next rest =>
          rw [List.intercalate_cons_cons, List.flatMap_append, List.flatMap_append, ih]
          have nothing : ['/'].flatMap readChar = [] := by decide
          rw [nothing, List.append_nil]
          rfl

/-- A character that is read as it is written is neither a separator nor dropped. -/
theorem Encoder.free {encode : Char → List Char} (encoder : Encoder encode) {character : Char}
    (read : readChar character = encode character) :
    isSeparator character = false ∧ readChar character = encodeChar character := by
  have written := encoder.written character
  rw [← read, readChar] at written
  rw [readChar]
  split
  · rename_i dropped
    rw [if_pos dropped] at written
    exact absurd rfl written
  · rename_i kept
    rw [Bool.or_eq_true, not_or, Bool.not_eq_true] at kept
    exact ⟨kept.1, rfl⟩

variable {parts : List Part}

/-- No more letters are read of all parts than are expected, and as many only when every
character is read as it is to be written. -/
theorem length_read_parts (encoders : ∀ part ∈ parts, Encoder part.2)
    (plain : ∀ part ∈ parts, ∀ letter ∈ part.expected, isPlain letter = true) :
    (parts.map fun part => part.1.flatMap readChar).flatten.length ≤
        (parts.map Part.expected).flatten.length ∧
      ((parts.map fun part => part.1.flatMap readChar).flatten.length =
          (parts.map Part.expected).flatten.length →
        ∀ part ∈ parts, ∀ character ∈ part.1, readChar character = part.2 character) := by
  induction parts with
  | nil => simp
  | cons part rest ih =>
      obtain ⟨most, equal⟩ := ih
        (fun other member => encoders other (List.mem_cons_of_mem _ member))
        fun other member => plain other (List.mem_cons_of_mem _ member)
      obtain ⟨most', equal'⟩ := length_flatMap_read (encoders part List.mem_cons_self)
        (plain part List.mem_cons_self)
      rw [List.map_cons, List.map_cons, List.flatten_cons, List.flatten_cons,
        List.length_append, List.length_append, List.forall_mem_cons]
      have here : part.expected.length = (part.1.flatMap part.2).length := rfl
      exact ⟨by omega, fun total => ⟨equal' (by omega), equal (by omega)⟩⟩

theorem rawSegments_parts (some' : parts ≠ [])
    (free : ∀ part ∈ parts, ∀ character ∈ part.1, isSeparator character = false) :
    rawSegments [] (['/'].intercalate (parts.map Prod.fst)) =
      parts.map fun part => part.1.flatMap readChar := by
  obtain ⟨first, rest, rfl⟩ := List.exists_cons_of_ne_nil some'
  rw [List.map_cons, rawSegments_intercalate, List.nil_append, List.map_map]
  · rfl
  · intro piece member
    rw [← List.map_cons] at member
    obtain ⟨part, inside, rfl⟩ := List.mem_map.mp member
    exact free part inside

/-- The expected segments only come from parts that are read as they are to be written. -/
theorem faithful_of_setPath (some' : parts ≠ []) (encoders : ∀ part ∈ parts, Encoder part.2)
    (same : setPath ('/' :: ['/'].intercalate (parts.map Prod.fst)) = parts.map Part.expected) :
    ∀ part ∈ parts, part.Faithful := by
  have plain : ∀ part ∈ parts, ∀ letter ∈ part.expected, isPlain letter = true := by
    intro part member letter inside
    have segment : part.expected ∈ setPath ('/' :: ['/'].intercalate (parts.map Prod.fst)) := by
      rw [same]
      exact List.mem_map_of_mem member
    exact isPlain_of_mem_setPath segment inside
  obtain ⟨least, equal⟩ := length_read_parts encoders plain
  obtain ⟨most, lost⟩ :=
    length_closeAll (rawSegments [] (['/'].intercalate (parts.map Prod.fst))) []
  rw [← setPath_slash, same, flatten_rawSegments, flatMap_intercalate, List.map_map] at most lost
  simp only [List.flatten_nil, List.length_nil, Nat.zero_add, List.nil_append] at most lost
  have total := Nat.le_antisymm least most
  have read := equal total
  have free (part : Part) (member : part ∈ parts) (character : Char)
      (inside : character ∈ part.1) :=
    (encoders part member).free (read part member character inside)
  intro part member
  refine ⟨read part member, ?_⟩
  by_contra dots
  rw [Bool.not_eq_false, ← isDotSegment_encode] at dots
  have encoded : part.1.flatMap encodeChar = part.1.flatMap readChar :=
    List.flatMap_congr fun character inside => (free part member character inside).2.symm
  rw [encoded] at dots
  have shorter := lost ⟨_, ?_, dots⟩
  · exact absurd total (Nat.ne_of_gt shorter)
  · rw [rawSegments_parts some' fun other here character inside => (free other here character inside).1]
    exact List.mem_map_of_mem (f := fun part : Part => part.1.flatMap readChar) member

theorem setPath_of_faithful (some' : parts ≠ []) (encoders : ∀ part ∈ parts, Encoder part.2)
    (faithful : ∀ part ∈ parts, part.Faithful) :
    setPath ('/' :: ['/'].intercalate (parts.map Prod.fst)) = parts.map Part.expected := by
  have free (part : Part) (member : part ∈ parts) (character : Char)
      (inside : character ∈ part.1) :=
    (encoders part member).free ((faithful part member).read character inside)
  have same : (parts.map fun part => part.1.flatMap readChar) = parts.map Part.expected :=
    List.map_congr_left fun part member => List.flatMap_congr (faithful part member).read
  rw [setPath_slash,
    rawSegments_parts some' fun part member character inside =>
      (free part member character inside).1,
    closeAll_of_not_dot, List.nil_append, same]
  intro segment member
  obtain ⟨part, inside, rfl⟩ := List.mem_map.mp member
  have encoded : part.1.flatMap readChar = part.1.flatMap encodeChar :=
    List.flatMap_congr fun character here => (free part inside character here).2
  rw [encoded, isDotSegment_encode, (faithful part inside).kept]

/-- A path has the expected segments exactly when each part is read as it is to be written. -/
theorem setPath_parts_iff (some' : parts ≠ []) (encoders : ∀ part ∈ parts, Encoder part.2) :
    setPath ('/' :: ['/'].intercalate (parts.map Prod.fst)) = parts.map Part.expected ↔
      ∀ part ∈ parts, part.Faithful :=
  ⟨faithful_of_setPath some' encoders, setPath_of_faithful some' encoders⟩

end Parts

section Encoders

theorem escape_eq (character : Char) :
    ∃ first second rest, escape character = '%' :: first :: second :: rest := by
  obtain ⟨byte, bytes, whole⟩ :=
    List.exists_cons_of_ne_nil (String.utf8EncodeChar_ne_nil (c := character))
  rw [escape, whole, List.flatMap_cons, encodeByte]
  exact ⟨_, _, _, rfl⟩

theorem encodeChar_ne_nil (character : Char) : encodeChar character ≠ [] := by
  obtain ⟨first, second, rest, escaped⟩ := escape_eq character
  rw [encodeChar]
  split
  · rw [escaped]
    exact List.cons_ne_nil _ _
  · exact List.cons_ne_nil _ _

/-- A literal text is to stand as it is. -/
theorem encoder_literal : Encoder fun character => [character] where
  written := fun _ => List.cons_ne_nil _ _
  measured := fun character plain => .inl (readChar_of_plain (plain character List.mem_cons_self))

theorem read_literal_iff {character : Char} :
    readChar character = [character] ↔ isPlain character = true := by
  constructor
  · intro read
    obtain ⟨kept, encoded⟩ := encoder_literal.free read
    rw [read] at encoded
    exact isPlain_of_mem_encodeChar kept (by rw [← encoded]; exact List.mem_cons_self)
  · exact readChar_of_plain

theorem encoder_encodeChar : Encoder encodeChar where
  written := encodeChar_ne_nil
  measured := by
    intro character _
    rw [readChar]
    split
    · exact .inr (List.length_pos_iff.mpr (encodeChar_ne_nil character))
    · exact .inl rfl

/-- A separator splits a segment and a dropped character is lost. -/
def isKept (character : Char) : Bool := !isSeparator character && !isIgnored character

theorem read_encodeChar_iff {character : Char} :
    readChar character = encodeChar character ↔ isKept character = true := by
  rw [readChar, isKept, ← Bool.not_or, Bool.not_eq_true']
  split
  · rename_i dropped
    rw [dropped]
    exact iff_of_false (encodeChar_ne_nil character).symm Bool.noConfusion
  · rename_i kept
    exact iff_of_true rfl (by simpa using kept)

/-- This encoding can be read back: the characters that have a meaning in a path are escaped too. -/
def encodeComponentChar (character : Char) : List Char :=
  if isEncoded character || isSeparator character || character == '%' then escape character
  else [character]

theorem encoder_encodeComponentChar : Encoder encodeComponentChar where
  written := by
    intro character
    obtain ⟨first, second, rest, escaped⟩ := escape_eq character
    rw [encodeComponentChar]
    split
    · rw [escaped]
      exact List.cons_ne_nil _ _
    · exact List.cons_ne_nil _ _
  measured := by
    intro character _
    obtain ⟨first, second, rest, escaped⟩ := escape_eq character
    rw [readChar, encodeComponentChar, encodeChar, escaped]
    split
    · split <;> exact .inr (by simp)
    · split
      · rename_i encoded
        rw [encoded, Bool.true_or, Bool.true_or, if_pos rfl]
        exact .inl rfl
      · split
        · exact .inr (by simp)
        · exact .inl rfl

theorem read_encodeComponentChar_iff {character : Char} :
    readChar character = encodeComponentChar character ↔
      isKept character = true ∧ character ≠ '%' := by
  rw [← read_encodeChar_iff]
  constructor
  · intro read
    obtain ⟨kept, same⟩ := encoder_encodeComponentChar.free read
    refine ⟨same, ?_⟩
    rintro rfl
    exact absurd read (by decide)
  · rintro ⟨same, other⟩
    have kept := (encoder_encodeChar.free same).1
    rw [same, encodeChar, encodeComponentChar, kept, Bool.or_false, beq_eq_false_iff_ne.mpr other,
      Bool.or_false]

theorem encodeComponentChar_of_plain {character : Char} (plain : isPlain character = true)
    (other : character ≠ '%') : encodeComponentChar character = [character] := by
  rw [isPlain, Bool.and_eq_true, Bool.not_eq_true', Bool.not_eq_true'] at plain
  rw [encodeComponentChar, plain.1, plain.2, beq_eq_false_iff_ne.mpr other]
  rfl

end Encoders

end UrlPath
