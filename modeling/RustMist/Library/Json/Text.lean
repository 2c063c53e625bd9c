import RustMist.Library.Hex
import RustMist.Library.Json.Value
import Mathlib.Data.List.TakeWhile
import Mathlib.Tactic.FinCases

/-! The compact text of a JSON value and its reader. -/

namespace Json

namespace Text

section Characters

def quotationMark : Char := Char.ofNat 34

def reverseSolidus : Char := Char.ofNat 92

/-- The letter after a backslash stands for a character. -/
def escapes : List (Char × Char) :=
  [(quotationMark, quotationMark), (reverseSolidus, reverseSolidus), ('b', Char.ofNat 8),
    ('f', Char.ofNat 12), ('n', Char.ofNat 10), ('r', Char.ofNat 13), ('t', Char.ofNat 9)]

def escapeLetter (character : Char) : Option Char :=
  (escapes.find? fun escape => escape.2 = character).map Prod.fst

/-- A solidus may be escaped too. -/
def unescapeLetter (letter : Char) : Option Char :=
  if letter = '/' then some '/'
  else (escapes.find? fun escape => escape.1 = letter).map Prod.snd

/-- A control character without a letter is written with four digits. -/
def renderChar (character : Char) : List Char :=
  match escapeLetter character with
  | some letter => [reverseSolidus, letter]
  | none =>
      if character.toNat < 32 then
        [reverseSolidus, 'u', '0', '0', Hex.digit (Hex.high character.toUInt8),
          Hex.digit (Hex.low character.toUInt8)]
      else [character]

def renderString (text : String) : List Char :=
  quotationMark :: (text.toList.flatMap renderChar ++ [quotationMark])

/-- A character of a text is the closing mark or stands for a character. -/
def readChar : List Char → Option (Option Char × List Char)
  | [] => none
  | first :: rest =>
      if first = quotationMark then some (none, rest)
      else if first = reverseSolidus then
        match rest with
        | 'u' :: a :: b :: c :: d :: rest =>
            match Hex.value a, Hex.value b, Hex.value c, Hex.value d with
            | some a, some b, some c, some d =>
                -- A surrogate is not a character, so that pairs of them are refused.
                let code := 4096 * a.val + 256 * b.val + 16 * c.val + d.val
                if code.isValidChar then some (some (Char.ofNat code), rest) else none
            | _, _, _, _ => none
        | letter :: rest => (unescapeLetter letter).map fun character => (some character, rest)
        | [] => none
      else if first.toNat < 32 then none
      else some (some first, rest)

/-- The counter bounds the characters that are read. -/
def readChars : Nat → List Char → Option (List Char × List Char)
  | 0, _ => none
  | fuel + 1, text =>
      match readChar text with
      | none => none
      | some (none, rest) => some ([], rest)
      | some (some character, rest) =>
          (readChars fuel rest).map fun (characters, rest) => (character :: characters, rest)

theorem unescapeLetter_escapeLetter {character letter : Char}
    (escaped : escapeLetter character = some letter) :
    unescapeLetter letter = some character ∧ letter ≠ 'u' := by
  obtain ⟨escape, found, rfl⟩ := Option.map_eq_some_iff.mp escaped
  have same : escape.2 = character := by simpa using List.find?_some found
  have every : ∀ escape ∈ escapes, unescapeLetter escape.1 = some escape.2 ∧ escape.1 ≠ 'u' := by
    decide
  exact same ▸ every escape (List.mem_of_find?_eq_some found)

theorem readChar_renderChar (character : Char) (rest : List Char) :
    readChar (renderChar character ++ rest) = some (some character, rest) := by
  have different : reverseSolidus ≠ quotationMark := by decide
  unfold renderChar
  split
  · rename_i letter escaped
    obtain ⟨read, other⟩ := unescapeLetter_escapeLetter escaped
    simp [readChar, different, read, other]
  · rename_i plain
    have free : ∀ escape ∈ escapes, escape.2 ≠ character := by
      simpa [escapeLetter] using plain
    split
    · rename_i control
      have valid : character.toNat.isValidChar := character.valid
      have byte : character.toUInt8.toNat = character.toNat := by
        change character.toNat % 2 ^ 8 = character.toNat
        omega
      have digits : 16 * (character.toNat / 16 % 16) + character.toNat % 16 = character.toNat := by
        omega
      have zero : Hex.value '0' = some 0 := by decide
      simp [readChar, different, Hex.value_digit, Hex.high, Hex.low, byte, zero, digits, valid]
    · rename_i printable
      have notMark : character ≠ quotationMark :=
        (free (quotationMark, quotationMark) (by decide)).symm
      have notSolidus : character ≠ reverseSolidus :=
        (free (reverseSolidus, reverseSolidus) (by decide)).symm
      simp [readChar, notMark, notSolidus, printable]

theorem renderChar_ne_nil (character : Char) : 0 < (renderChar character).length := by
  unfold renderChar
  split
  · simp
  · split <;> simp

/-- The characters of a text are read back up to the closing mark. -/
theorem readChars_render (characters rest : List Char) (fuel : Nat)
    (enough : characters.length < fuel) :
    readChars fuel (characters.flatMap renderChar ++ quotationMark :: rest) =
      some (characters, rest) := by
  induction characters generalizing fuel with
  | nil =>
      obtain ⟨fuel, rfl⟩ : ∃ more, fuel = more + 1 := ⟨fuel - 1, by simp at enough; omega⟩
      rfl
  | cons character characters ih =>
      obtain ⟨fuel, rfl⟩ : ∃ more, fuel = more + 1 := ⟨fuel - 1, by simp at enough; omega⟩
      have later := ih fuel (by simpa using enough)
      simp [readChars, readChar_renderChar, later]

theorem length_le_length_flatMap (characters : List Char) :
    characters.length ≤ (characters.flatMap renderChar).length := by
  induction characters with
  | nil => simp
  | cons character characters ih =>
      have positive := renderChar_ne_nil character
      simp only [List.flatMap_cons, List.length_append, List.length_cons]
      omega

end Characters

section Numbers

def isNumberChar (character : Char) : Bool :=
  character.isDigit || character ∈ ['-', '+', '.', 'e', 'E']

def renderNumber : JsonNumber → List Char
  | .posInt value => Nat.toDigits 10 value.toNat
  | .negInt magnitude => '-' :: Nat.toDigits 10 (magnitude.val + 1)
  | .float literal => literal.text

def negativeZero : FloatText := ⟨['-', '0', '.', '0'], by decide, by decide⟩

/-- Only a float that is written in its shortest text is read. -/
def readFloat (token : List Char) : Option JsonNumber :=
  if float : isFloatText token = true ∧ isShortestText token = true then
    some (.float ⟨token, float.1, float.2⟩)
  else none

/-- The digits of an integer have no leading zeros. -/
def readDigits (digits : List Char) : Option Nat :=
  if Nat.toDigits 10 (Nat.ofDigitChars 10 digits 0) = digits then
    some (Nat.ofDigitChars 10 digits 0)
  else none

def readNumber (token : List Char) : Option JsonNumber :=
  if token.head? = some '-' then
    match readDigits token.tail with
    | some 0 => some (.float negativeZero)
    | some (magnitude + 1) =>
        if bound : magnitude < 2 ^ 63 then some (.negInt ⟨magnitude, bound⟩) else none
    | none => readFloat token
  else
    match readDigits token with
    | some value => if value < 2 ^ 64 then some (.posInt (UInt64.ofNat value)) else none
    | none => readFloat token

theorem readDigits_toDigits (value : Nat) : readDigits (Nat.toDigits 10 value) = some value := by
  simp [readDigits, Nat.ofDigitChars_ten_toDigits]

theorem isDigit_of_readDigits {digits : List Char} {value : Nat}
    (read : readDigits digits = some value) : ∀ character ∈ digits, character.isDigit = true := by
  unfold readDigits at read
  split at read
  · rename_i canonical
    intro character member
    rw [← canonical] at member
    exact Nat.isDigit_of_mem_toDigits (by omega) (by omega) member
  · cases read

/-- The text of a float does not consist of digits. -/
theorem not_isFloatText_of_digits {digits : List Char}
    (every : ∀ character ∈ digits, character.isDigit = true) :
    isFloatText digits = false ∧ isFloatText ('-' :: digits) = false := by
  have whole : digits.dropWhile Char.isDigit = [] := List.dropWhile_eq_nil_iff.mpr every
  have plain : digits.head? ≠ some '-' := by
    intro sign
    have digit := every '-' (List.mem_of_mem_head? sign)
    exact absurd digit (by decide)
  simp [isFloatText, unsigned, plain, whole, isExponent]

theorem readDigits_of_isFloatText {token : List Char} (float : isFloatText token = true) :
    readDigits token = none ∧ (token.head? = some '-' → readDigits token.tail = none) := by
  constructor
  · cases read : readDigits token with
    | none => rfl
    | some value =>
        have none := (not_isFloatText_of_digits (isDigit_of_readDigits read)).1
        rw [none] at float
        cases float
  · intro sign
    cases read : readDigits token.tail with
    | none => rfl
    | some value =>
        have none := (not_isFloatText_of_digits (isDigit_of_readDigits read)).2
        have whole : token = '-' :: token.tail := by
          cases token with
          | nil => cases sign
          | cons first rest =>
              obtain rfl : first = '-' := by simpa using sign
              rfl
        rw [whole, none] at float
        cases float

theorem head_toDigits (value : Nat) : (Nat.toDigits 10 value).head? ≠ some '-' := by
  intro sign
  have digit := Nat.isDigit_of_mem_toDigits (b := 10) (by omega) (by omega)
    (List.mem_of_mem_head? sign)
  exact absurd digit (by decide)

/-- A number is read back from its text. -/
theorem readNumber_renderNumber (number : JsonNumber) :
    readNumber (renderNumber number) = some number := by
  cases number with
  | posInt value =>
      have small := value.toNat_lt
      simp [readNumber, renderNumber, head_toDigits, readDigits_toDigits, small]
  | negInt magnitude =>
      have small := magnitude.isLt
      simp [readNumber, renderNumber, readDigits_toDigits]
  | float literal =>
      obtain ⟨whole, signed⟩ := readDigits_of_isFloatText literal.float
      rw [renderNumber, readNumber]
      split
      · rename_i sign
        simp [signed sign, readFloat, literal.float, literal.shortest]
      · simp [whole, readFloat, literal.float, literal.shortest]

theorem isNumberChar_of_isDigit {character : Char} (digit : character.isDigit = true) :
    isNumberChar character = true := by
  simp [isNumberChar, digit]

/-- Digits and then number characters are number characters. -/
theorem isNumberChar_of_dropWhile {text : List Char}
    (later : ∀ character ∈ text.dropWhile Char.isDigit, isNumberChar character = true) :
    ∀ character ∈ text, isNumberChar character = true := by
  intro character member
  rw [← List.takeWhile_append_dropWhile (p := Char.isDigit) (l := text)] at member
  rcases List.mem_append.mp member with digit | more
  · exact isNumberChar_of_isDigit (List.mem_takeWhile_imp digit)
  · exact later character more

theorem isNumberChar_of_isExponent {text : List Char} (exponent : isExponent text = true) :
    ∀ character ∈ text, isNumberChar character = true := by
  unfold isExponent at exponent
  split at exponent
  · rename_i sign more
    have digits : ∀ character ∈ more, character.isDigit = true := by
      split at exponent <;> simp_all
    have first : isNumberChar sign = true := by
      split at exponent
      · rename_i signed
        rcases signed with rfl | rfl <;> rfl
      · exact isNumberChar_of_isDigit (by simp_all)
    simp only [List.forall_mem_cons]
    exact ⟨rfl, first, fun character member => isNumberChar_of_isDigit (digits character member)⟩
  · cases exponent

theorem isNumberChar_of_isFraction {text : List Char} (fraction : isFraction text = true) :
    ∀ character ∈ text, isNumberChar character = true := by
  apply isNumberChar_of_dropWhile
  unfold isFraction at fraction
  rw [Bool.and_eq_true, Bool.or_eq_true] at fraction
  rcases fraction.2 with empty | exponent
  · rw [List.isEmpty_iff.mp empty]
    simp
  · exact isNumberChar_of_isExponent exponent

/-- The text of a float consists of number characters. -/
theorem isNumberChar_of_isFloatText {token : List Char} (float : isFloatText token = true) :
    ∀ character ∈ token, isNumberChar character = true := by
  have body : ∀ character ∈ unsigned token, isNumberChar character = true := by
    apply isNumberChar_of_dropWhile
    unfold isFloatText at float
    rw [Bool.and_eq_true] at float
    have tail := float.2
    split at tail
    · rename_i fraction same
      rw [same, List.forall_mem_cons]
      exact ⟨rfl, isNumberChar_of_isFraction tail⟩
    · exact isNumberChar_of_isExponent tail
  unfold unsigned at body
  split at body
  · rename_i sign
    cases token with
    | nil => simp
    | cons first rest =>
        obtain rfl : first = '-' := by simpa using sign
        exact List.forall_mem_cons.mpr ⟨rfl, body⟩
  · exact body

theorem isNumberChar_renderNumber (number : JsonNumber) :
    ∀ character ∈ renderNumber number, isNumberChar character = true := by
  intro character member
  cases number with
  | posInt value =>
      exact isNumberChar_of_isDigit (Nat.isDigit_of_mem_toDigits (by omega) (by omega) member)
  | negInt magnitude =>
      rcases List.mem_cons.mp member with rfl | digit
      · rfl
      · exact isNumberChar_of_isDigit (Nat.isDigit_of_mem_toDigits (by omega) (by omega) digit)
  | float literal => exact isNumberChar_of_isFloatText literal.float character member

theorem renderNumber_ne_nil (number : JsonNumber) : renderNumber number ≠ [] := by
  cases number with
  | posInt value => exact Nat.toDigits_ne_nil
  | negInt magnitude => simp [renderNumber]
  | float literal =>
      intro empty
      have float := literal.float
      rw [renderNumber] at empty
      rw [empty] at float
      exact absurd float (by decide)

end Numbers

section Values

def isBlank (character : Char) : Bool :=
  character ∈ [' ', Char.ofNat 9, Char.ofNat 10, Char.ofNat 13]

def skipBlanks (text : List Char) : List Char := text.dropWhile isBlank

mutual

def render : Json → List Char
  | .null => ['n', 'u', 'l', 'l']
  | .bool true => ['t', 'r', 'u', 'e']
  | .bool false => ['f', 'a', 'l', 's', 'e']
  | .number value => renderNumber value
  | .string value => renderString value
  | .array values => '[' :: renderItems values
  | .object members => '{' :: renderMembers members
termination_by structural json => json

def renderItems : List Json → List Char
  | [] => [']']
  | value :: rest => render value ++ if rest.isEmpty then [']'] else ',' :: renderItems rest
termination_by structural values => values

def renderMembers : List (String × Json) → List Char
  | [] => ['}']
  | member :: rest =>
      renderMember member ++ if rest.isEmpty then ['}'] else ',' :: renderMembers rest
termination_by structural members => members

def renderMember : String × Json → List Char
  | (key, value) => renderString key ++ ':' :: render value
termination_by structural member => member

end

/-- A keyword follows its first letter. -/
def readWord (word : List Char) (value : Json) (text : List Char) : Option (Json × List Char) :=
  if word.isPrefixOf text then some (value, text.drop word.length) else none

def readText (text : List Char) : Option (String × List Char) :=
  (readChars (text.length + 1) text).map fun (characters, rest) => (String.ofList characters, rest)

/-- A key stands in marks and before a colon. -/
def readKey (text : List Char) : Option (String × List Char) :=
  if text.head? = some quotationMark then do
    let (key, rest) ← readText text.tail
    if (skipBlanks rest).head? = some ':' then some (key, (skipBlanks rest).tail) else none
  else none

/-- A later member of a key takes the place of an earlier one. -/
def ofMembers (members : List (String × Json)) : Json :=
  .object (members.foldl (fun map member => IndexMap.insert member.1 member.2 map) [])

mutual

/-- The counter bounds the depth and the lengths of a value. -/
def readValue : Nat → List Char → Option (Json × List Char)
  | 0, _ => none
  | fuel + 1, text =>
      match skipBlanks text with
      | [] => none
      | first :: rest =>
          if first = 'n' then readWord ['u', 'l', 'l'] .null rest
          else if first = 't' then readWord ['r', 'u', 'e'] (.bool true) rest
          else if first = 'f' then readWord ['a', 'l', 's', 'e'] (.bool false) rest
          else if first = quotationMark then
            (readText rest).map fun (value, rest) => (.string value, rest)
          else if first = '[' then
            if (skipBlanks rest).head? = some ']' then some (.array [], (skipBlanks rest).tail)
            else (readItems fuel rest).map fun (values, rest) => (.array values, rest)
          else if first = '{' then
            if (skipBlanks rest).head? = some '}' then some (.object [], (skipBlanks rest).tail)
            else (readMembers fuel rest).map fun (members, rest) => (ofMembers members, rest)
          else
            (readNumber ((first :: rest).takeWhile isNumberChar)).map fun value =>
              (.number value, (first :: rest).dropWhile isNumberChar)

def readItems : Nat → List Char → Option (List Json × List Char)
  | 0, _ => none
  | fuel + 1, text => do
      let (value, rest) ← readValue fuel text
      match skipBlanks rest with
      | ',' :: rest => (readItems fuel rest).map fun (values, rest) => (value :: values, rest)
      | ']' :: rest => some ([value], rest)
      | _ => none

def readMembers : Nat → List Char → Option (List (String × Json) × List Char)
  | 0, _ => none
  | fuel + 1, text => do
      let (key, rest) ← readKey (skipBlanks text)
      let (value, rest) ← readValue fuel rest
      match skipBlanks rest with
      | ',' :: rest =>
          (readMembers fuel rest).map fun (members, rest) => ((key, value) :: members, rest)
      | '}' :: rest => some ([(key, value)], rest)
      | _ => none

end

end Values

section RoundTrip

theorem skipBlanks_cons {first : Char} (visible : isBlank first = false) (rest : List Char) :
    skipBlanks (first :: rest) = first :: rest := by
  simp [skipBlanks, visible]

/-- What follows a number does not continue it. -/
def Stops (rest : List Char) : Prop := rest.takeWhile isNumberChar = []

theorem stops_cons {first : Char} (other : isNumberChar first = false) (rest : List Char) :
    Stops (first :: rest) := by
  simp [Stops, other]

theorem readText_render (text : String) (rest : List Char) :
    readText (text.toList.flatMap renderChar ++ quotationMark :: rest) = some (text, rest) := by
  have short := length_le_length_flatMap text.toList
  have enough : text.toList.length <
      (text.toList.flatMap renderChar ++ quotationMark :: rest).length + 1 := by
    simp only [List.length_append]
    omega
  rw [readText, readChars_render _ _ _ enough, Option.map_some]
  simp only [String.ofList_toList]

theorem readKey_render (key : String) (rest : List Char) :
    readKey (renderString key ++ ':' :: rest) = some (key, rest) := by
  have visible : isBlank ':' = false := by decide
  simp [readKey, renderString, readText_render, skipBlanks_cons visible]

/-- The characters of a number are neither blank nor the start of another value. -/
theorem isNumberChar_ne {first other : Char} (number : isNumberChar first = true)
    (refused : isNumberChar other = false) : first ≠ other := by
  rintro rfl
  rw [refused] at number
  cases number

theorem isBlank_of_isNumberChar {first : Char} (number : isNumberChar first = true) :
    isBlank first = false := by
  have blanks : ∀ other ∈ [' ', Char.ofNat 9, Char.ofNat 10, Char.ofNat 13],
      isNumberChar other = false := by
    intro other member
    fin_cases member <;> rfl
  have absent : first ∉ [' ', Char.ofNat 9, Char.ofNat 10, Char.ofNat 13] := fun member =>
    isNumberChar_ne number (blanks first member) rfl
  simpa [isBlank] using absent

theorem readValue_renderNumber (number : JsonNumber) (rest : List Char) (fuel : Nat)
    (stops : Stops rest) :
    readValue (fuel + 1) (renderNumber number ++ rest) = some (.number number, rest) := by
  have every := isNumberChar_renderNumber number
  have token : (renderNumber number ++ rest).takeWhile isNumberChar = renderNumber number := by
    rw [List.takeWhile_append_of_pos every, stops, List.append_nil]
  have remaining : (renderNumber number ++ rest).dropWhile isNumberChar = rest := by
    have whole := List.takeWhile_append_dropWhile (p := isNumberChar)
      (l := renderNumber number ++ rest)
    rw [token] at whole
    exact List.append_cancel_left whole
  cases text : renderNumber number with
  | nil => exact absurd text (renderNumber_ne_nil number)
  | cons first more =>
      have start := every first (by simp [text])
      rw [text, List.cons_append] at token remaining
      have read := readNumber_renderNumber number
      rw [text] at read
      rw [List.cons_append, readValue, skipBlanks_cons (isBlank_of_isNumberChar start)]
      simp only [isNumberChar_ne start (by decide : isNumberChar 'n' = false),
        isNumberChar_ne start (by decide : isNumberChar 't' = false),
        isNumberChar_ne start (by decide : isNumberChar 'f' = false),
        isNumberChar_ne start (by decide : isNumberChar quotationMark = false),
        isNumberChar_ne start (by decide : isNumberChar '[' = false),
        isNumberChar_ne start (by decide : isNumberChar '{' = false),
        if_false, token, remaining, read, Option.map_some]

/-- A value starts with a visible character that does not close an array. -/
theorem render_starts (json : Json) : ∃ first rest,
    render json = first :: rest ∧ isBlank first = false ∧ first ≠ ']' := by
  cases json with
  | null => exact ⟨'n', _, rfl, by decide, by decide⟩
  | bool value => cases value <;> exact ⟨_, _, rfl, by decide, by decide⟩
  | number value =>
      cases text : renderNumber value with
      | nil => exact absurd text (renderNumber_ne_nil value)
      | cons first more =>
          have start := isNumberChar_renderNumber value first (by simp [text])
          exact ⟨first, more, text, isBlank_of_isNumberChar start,
            isNumberChar_ne start (by decide)⟩
  | string value => exact ⟨quotationMark, _, rfl, by decide, by decide⟩
  | array values => exact ⟨'[', _, rfl, by decide, by decide⟩
  | object members => exact ⟨_, _, rfl, by decide, by decide⟩

theorem render_positive (json : Json) : 0 < (render json).length := by
  obtain ⟨first, rest, text, _⟩ := render_starts json
  simp [text]

/-- The reader gives a value back when its counter covers the text. -/
def ReadsBack (json : Json) : Prop :=
  ∀ fuel rest, (render json).length ≤ fuel → Stops rest →
    readValue fuel (render json ++ rest) = some (json, rest)

theorem stops_comma (rest : List Char) : Stops (',' :: rest) := stops_cons (by decide) rest

theorem readItems_render {values : List Json} (nonempty : values ≠ [])
    (each : ∀ value ∈ values, ReadsBack value) (fuel : Nat) (rest : List Char)
    (enough : (renderItems values).length ≤ fuel) :
    readItems fuel (renderItems values ++ rest) = some (values, rest) := by
  induction values generalizing fuel with
  | nil => exact absurd rfl nonempty
  | cons value more ih =>
      have positive := render_positive value
      have first := each value List.mem_cons_self
      rw [renderItems] at enough ⊢
      cases more with
      | nil =>
          simp only [List.isEmpty_nil, if_true, List.length_append, List.length_cons] at enough
          obtain ⟨fuel, rfl⟩ : ∃ less, fuel = less + 1 := ⟨fuel - 1, by omega⟩
          have read := first fuel (']' :: rest) (by omega) (stops_cons (by decide) rest)
          have visible : isBlank ']' = false := by decide
          simp [readItems, read, skipBlanks_cons visible]
      | cons second more =>
          simp only [List.isEmpty_cons, Bool.false_eq_true, if_false, List.length_append,
            List.length_cons] at enough
          obtain ⟨fuel, rfl⟩ : ∃ less, fuel = less + 1 := ⟨fuel - 1, by omega⟩
          have read := first fuel (',' :: (renderItems (second :: more) ++ rest)) (by omega)
            (stops_comma _)
          have visible : isBlank ',' = false := by decide
          have later := ih (by simp) (fun value member => each value (List.mem_cons_of_mem _ member))
            fuel (by omega)
          simp [readItems, read, skipBlanks_cons visible, later]

theorem readMembers_render {members : List (String × Json)} (nonempty : members ≠ [])
    (each : ∀ member ∈ members, ReadsBack member.2) (fuel : Nat) (rest : List Char)
    (enough : (renderMembers members).length ≤ fuel) :
    readMembers fuel (renderMembers members ++ rest) = some (members, rest) := by
  induction members generalizing fuel with
  | nil => exact absurd rfl nonempty
  | cons member more ih =>
      obtain ⟨key, value⟩ := member
      have first := each (key, value) List.mem_cons_self
      have mark : ∀ tail, skipBlanks (renderString key ++ tail) = renderString key ++ tail :=
        fun tail => skipBlanks_cons (by decide) _
      rw [renderMembers, renderMember] at enough ⊢
      cases more with
      | nil =>
          simp only [List.isEmpty_nil, if_true, List.length_append, List.length_cons] at enough
          obtain ⟨fuel, rfl⟩ : ∃ less, fuel = less + 1 := ⟨fuel - 1, by omega⟩
          have read := first fuel ('}' :: rest) (by simp only; omega) (stops_cons (by decide) rest)
          have visible : isBlank '}' = false := by decide
          simp only at read
          simp [readMembers, mark, readKey_render, read, skipBlanks_cons visible]
      | cons second more =>
          simp only [List.isEmpty_cons, Bool.false_eq_true, if_false, List.length_append,
            List.length_cons] at enough
          obtain ⟨fuel, rfl⟩ : ∃ less, fuel = less + 1 := ⟨fuel - 1, by omega⟩
          have read := first fuel (',' :: (renderMembers (second :: more) ++ rest))
            (by simp only; omega) (stops_comma _)
          have visible : isBlank ',' = false := by decide
          have later := ih (by simp)
            (fun member present => each member (List.mem_cons_of_mem _ present)) fuel (by omega)
          simp only at read
          simp [readMembers, mark, readKey_render, read, skipBlanks_cons visible, later]

/-- Distinct keys keep their members and their order. -/
theorem ofMembers_of_nodup {members : List (String × Json)}
    (distinct : (IndexMap.keys members).Nodup) : ofMembers members = .object members := by
  have whole : ∀ map : List (String × Json), (IndexMap.keys (map ++ members)).Nodup →
      members.foldl (fun map member => IndexMap.insert member.1 member.2 map) map =
        map ++ members := by
    induction members with
    | nil => simp
    | cons member rest ih =>
        intro map distinct'
        have fresh : member.1 ∉ IndexMap.keys map := by
          intro present
          simp only [IndexMap.keys, List.map_append, List.map_cons] at distinct' present
          exact List.disjoint_of_nodup_append distinct' present List.mem_cons_self
        rw [List.foldl_cons, IndexMap.insert_of_not_mem fresh,
          ih (List.nodup_cons.mp distinct).2 _ (by simpa using distinct')]
        simp
  rw [ofMembers, whole [] (by simpa using distinct), List.nil_append]

theorem readValue_renderString (value : String) (rest : List Char) (fuel : Nat) :
    readValue (fuel + 1) (renderString value ++ rest) = some (.string value, rest) := by
  have visible : isBlank quotationMark = false := by decide
  have others : quotationMark ≠ 'n' ∧ quotationMark ≠ 't' ∧ quotationMark ≠ 'f' := by decide
  simp [readValue, renderString, skipBlanks_cons visible, others, readText_render]

theorem readValue_renderArray {values : List Json} (each : ∀ value ∈ values, ReadsBack value)
    (fuel : Nat) (rest : List Char) (enough : (renderItems values).length ≤ fuel) :
    readValue (fuel + 1) ('[' :: renderItems values ++ rest) = some (.array values, rest) := by
  have visible : isBlank '[' = false := by decide
  have other : '[' ≠ quotationMark := by decide
  cases values with
  | nil =>
      have closing : isBlank ']' = false := by decide
      simp [readValue, renderItems, skipBlanks_cons visible, other, skipBlanks_cons closing]
  | cons value more =>
      obtain ⟨first, tail, text, start, open'⟩ := render_starts value
      have begins : (skipBlanks (renderItems (value :: more) ++ rest)).head? ≠ some ']' := by
        rw [renderItems, text]
        simpa [skipBlanks_cons start] using open'
      have read := readItems_render (List.cons_ne_nil value more) each fuel rest enough
      simp [readValue, skipBlanks_cons visible, other, begins, read]

theorem readValue_renderObject {members : List (String × Json)}
    (each : ∀ member ∈ members, ReadsBack member.2) (distinct : (IndexMap.keys members).Nodup)
    (fuel : Nat) (rest : List Char) (enough : (renderMembers members).length ≤ fuel) :
    readValue (fuel + 1) ('{' :: renderMembers members ++ rest) =
      some (.object members, rest) := by
  have visible : isBlank '{' = false := by decide
  have other : '{' ≠ quotationMark := by decide
  cases members with
  | nil =>
      have closing : isBlank '}' = false := by decide
      simp [readValue, renderMembers, skipBlanks_cons visible, other, skipBlanks_cons closing]
  | cons member more =>
      obtain ⟨key, value⟩ := member
      have mark : isBlank quotationMark = false := by decide
      have begins : (skipBlanks (renderMembers ((key, value) :: more) ++ rest)).head? ≠
          some '}' := by
        rw [renderMembers, renderMember, renderString, List.cons_append, List.cons_append,
          List.cons_append, skipBlanks_cons mark, List.head?_cons]
        decide
      have read := readMembers_render (List.cons_ne_nil (key, value) more) each fuel rest enough
      simp [readValue, skipBlanks_cons visible, other, begins, read, ofMembers_of_nodup distinct]

/-- Every well-formed value is read back from its text. -/
theorem readValue_render (json : Json) (formed : json.wellFormed = true) : ReadsBack json := by
  intro fuel rest enough stops
  have positive := render_positive json
  obtain ⟨fuel, rfl⟩ : ∃ less, fuel = less + 1 := ⟨fuel - 1, by omega⟩
  induction json using inductionOn generalizing fuel rest with
  | null => rfl
  | bool value => cases value <;> rfl
  | number value => exact readValue_renderNumber value rest fuel stops
  | string value => exact readValue_renderString value rest fuel
  | array values ih =>
      rw [wellFormed_array_iff] at formed
      rw [render, List.length_cons] at enough
      apply readValue_renderArray (fun value member => ?_) fuel rest (by omega)
      intro fuel' rest' enough' stops'
      have positive' := render_positive value
      obtain ⟨fuel', rfl⟩ : ∃ less, fuel' = less + 1 := ⟨fuel' - 1, by omega⟩
      exact ih value member (formed value member) rest' stops' positive' fuel' enough'
  | object members ih =>
      rw [wellFormed_object_iff] at formed
      rw [render, List.length_cons] at enough
      apply readValue_renderObject (fun member present => ?_) formed.1 fuel rest (by omega)
      intro fuel' rest' enough' stops'
      have positive' := render_positive member.2
      obtain ⟨fuel', rfl⟩ : ∃ less, fuel' = less + 1 := ⟨fuel' - 1, by omega⟩
      exact ih member present (formed.2 member present) rest' stops' positive' fuel' enough'

end RoundTrip

section WellFormed

theorem ofMembers_wellFormed {members : List (String × Json)}
    (formed : ∀ member ∈ members, member.2.wellFormed = true) :
    (ofMembers members).wellFormed = true := by
  have whole : ∀ map : List (String × Json), (Json.object map).wellFormed = true →
      (Json.object (members.foldl (fun map member => IndexMap.insert member.1 member.2 map)
        map)).wellFormed = true := by
    induction members with
    | nil => exact fun map start => start
    | cons member rest ih =>
        intro map start
        apply ih (fun later present => formed later (List.mem_cons_of_mem _ present))
        rw [wellFormed_object_iff] at start ⊢
        refine ⟨IndexMap.nodup_insert start.1, fun entry present => ?_⟩
        rcases IndexMap.mem_insert present with rfl | earlier
        · exact formed member List.mem_cons_self
        · exact start.2 entry earlier
  exact whole [] rfl

theorem readWord_value {word text rest : List Char} {value json : Json}
    (read : readWord word value text = some (json, rest)) : json = value := by
  unfold readWord at read
  split at read
  · exact (Prod.mk.inj (Option.some.inj read)).1.symm
  · cases read

/-- Whatever is read is well formed. -/
theorem read_wellFormed (fuel : Nat) :
    (∀ text json rest, readValue fuel text = some (json, rest) → json.wellFormed = true) ∧
      (∀ text values rest, readItems fuel text = some (values, rest) →
        ∀ value ∈ values, value.wellFormed = true) ∧
      ∀ text members rest, readMembers fuel text = some (members, rest) →
        ∀ member ∈ members, member.2.wellFormed = true := by
  induction fuel with
  | zero => exact ⟨nofun, nofun, nofun⟩
  | succ fuel ih =>
      obtain ⟨ofValue, ofItems, ofEntries⟩ := ih
      refine ⟨fun text json rest read => ?_, fun text values rest read => ?_,
        fun text members rest read => ?_⟩
      · rw [readValue] at read
        split at read
        · cases read
        · rename_i first tail _
          split_ifs at read
          · rw [readWord_value read]; rfl
          · rw [readWord_value read]; rfl
          · rw [readWord_value read]; rfl
          · obtain ⟨found, _, same⟩ := Option.map_eq_some_iff.mp read
            rw [← (Prod.mk.inj same).1]; rfl
          · rw [← (Prod.mk.inj (Option.some.inj read)).1]; rfl
          · obtain ⟨found, items, same⟩ := Option.map_eq_some_iff.mp read
            rw [← (Prod.mk.inj same).1, wellFormed_array_iff]
            exact ofItems _ _ _ items
          · rw [← (Prod.mk.inj (Option.some.inj read)).1]; rfl
          · obtain ⟨found, entries, same⟩ := Option.map_eq_some_iff.mp read
            rw [← (Prod.mk.inj same).1]
            exact ofMembers_wellFormed (ofEntries _ _ _ entries)
          · obtain ⟨found, _, same⟩ := Option.map_eq_some_iff.mp read
            rw [← (Prod.mk.inj same).1]; rfl
      · rw [readItems] at read
        obtain ⟨⟨value, after⟩, first, read⟩ := Option.bind_eq_some_iff.mp read
        have formed := ofValue _ _ _ first
        dsimp only at read
        split at read
        · obtain ⟨found, items, same⟩ := Option.map_eq_some_iff.mp read
          rw [← (Prod.mk.inj same).1, List.forall_mem_cons]
          exact ⟨formed, ofItems _ _ _ items⟩
        · obtain ⟨rfl, -⟩ := Prod.mk.inj (Option.some.inj read)
          simpa using formed
        · cases read
      · rw [readMembers] at read
        obtain ⟨⟨key, after⟩, _, read⟩ := Option.bind_eq_some_iff.mp read
        obtain ⟨⟨value, after'⟩, first, read⟩ := Option.bind_eq_some_iff.mp read
        have formed := ofValue _ _ _ first
        dsimp only at read
        split at read
        · obtain ⟨found, entries, same⟩ := Option.map_eq_some_iff.mp read
          rw [← (Prod.mk.inj same).1, List.forall_mem_cons]
          exact ⟨formed, ofEntries _ _ _ entries⟩
        · obtain ⟨rfl, -⟩ := Prod.mk.inj (Option.some.inj read)
          simpa using formed
        · cases read

end WellFormed

section Lengths

theorem length_renderChar_le (character : Char) : (renderChar character).length ≤ 6 := by
  unfold renderChar
  split
  · exact Nat.le_of_ble_eq_true rfl
  · split
    · exact Nat.le_refl 6
    · exact Nat.le_of_ble_eq_true rfl

theorem length_renderString_le (text : String) :
    (renderString text).length ≤ 6 * text.toList.length + 2 := by
  have letters : (text.toList.flatMap renderChar).length ≤ 6 * text.toList.length := by
    induction text.toList with
    | nil => exact Nat.le_refl 0
    | cons letter rest ih =>
        have letter' := length_renderChar_le letter
        rw [List.flatMap_cons, List.length_append, List.length_cons]
        omega
  simp only [renderString, List.length_cons, List.length_append, List.length_nil]
  omega

/-- Every member is followed by a comma or by the closing brace. -/
def memberLengths (members : List (String × Json)) : Nat :=
  (members.map fun member => (renderMember member).length + 1).sum

theorem length_renderMembers (members : List (String × Json)) :
    (renderMembers members).length ≤ memberLengths members + 1 := by
  induction members with
  | nil => exact Nat.le_refl 1
  | cons member rest ih =>
      rw [renderMembers, List.length_append]
      have total : memberLengths (member :: rest) =
          (renderMember member).length + 1 + memberLengths rest := rfl
      split
      · simp only [List.length_cons, List.length_nil]
        omega
      · rw [List.length_cons]
        omega

end Lengths

/-- This is the text of a value, without blanks. -/
def write (json : Json) : String := String.ofList (render json)

/-- A text holds one value and blanks around it. -/
def read (text : String) : Option Json :=
  match readValue (text.toList.length + 1) text.toList with
  | some (json, rest) => if (skipBlanks rest).isEmpty then some json else none
  | none => none

theorem read_write (json : Json) (formed : json.wellFormed = true) :
    read (write json) = some json := by
  have back := readValue_render json formed ((render json).length + 1) [] (by omega) rfl
  rw [List.append_nil] at back
  simp [read, write, back, skipBlanks]

theorem wellFormed_of_read {text : String} {json : Json} (found : read text = some json) :
    json.wellFormed = true := by
  unfold read at found
  split at found
  · rename_i value rest parsed
    split at found
    · obtain rfl := Option.some.inj found
      exact (read_wellFormed _).1 _ _ _ parsed
    · cases found
  · cases found

end Text

end Json
