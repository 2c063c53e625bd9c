import RustMist.Library.Utf8
import Mathlib.Tactic.Common
import Mathlib.Data.Fin.Basic

/-! Bytes written as pairs of hexadecimal digits. -/

namespace Hex

/-- The digits are written in lower case. -/
def digit (value : Fin 16) : Char :=
  if value < 10 then Char.ofNat (48 + value) else Char.ofNat (87 + value)

/-- A digit is read in either case. -/
def value (char : Char) : Option (Fin 16) :=
  if '0' ≤ char ∧ char ≤ '9' then some (Fin.ofNat 16 (char.toNat - 48))
  else if 'a' ≤ char ∧ char ≤ 'f' then some (Fin.ofNat 16 (char.toNat - 87))
  else if 'A' ≤ char ∧ char ≤ 'F' then some (Fin.ofNat 16 (char.toNat - 55))
  else none

def high (byte : UInt8) : Fin 16 := Fin.ofNat 16 (byte.toNat / 16)

def low (byte : UInt8) : Fin 16 := Fin.ofNat 16 byte.toNat

def join (first second : Fin 16) : UInt8 := UInt8.ofNat (16 * first + second)

def encodeChars (bytes : List UInt8) : List Char :=
  bytes.flatMap fun byte => [digit (high byte), digit (low byte)]

def encode (bytes : List UInt8) : String := String.ofList (encodeChars bytes)

def decodeChars : List Char → Option (List UInt8)
  | [] => some []
  | [_] => none
  | first :: second :: rest =>
      match value first, value second, decodeChars rest with
      | some high, some low, some bytes => some (join high low :: bytes)
      | _, _, _ => none

def decode (text : String) : Option (List UInt8) := decodeChars text.toList

def isLowerDigit (char : Char) : Bool := char.isDigit || ('a' ≤ char && char ≤ 'f')

theorem value_digit (nibble : Fin 16) : value (digit nibble) = some nibble := by
  revert nibble
  decide

theorem isLowerDigit_digit (nibble : Fin 16) : isLowerDigit (digit nibble) = true := by
  revert nibble
  decide

theorem join_high_low (byte : UInt8) : join (high byte) (low byte) = byte := by
  apply UInt8.toNat_inj.mp
  have bound := byte.toNat_lt
  simp only [join, high, low, Fin.val_ofNat, UInt8.toNat_ofNat']
  omega

theorem decodeChars_encodeChars (bytes : List UInt8) :
    decodeChars (encodeChars bytes) = some bytes := by
  induction bytes with
  | nil => rfl
  | cons byte rest ih =>
      change decodeChars (digit (high byte) :: digit (low byte) :: encodeChars rest) = _
      rw [decodeChars, value_digit, value_digit, ih]
      change some (join (high byte) (low byte) :: rest) = _
      rw [join_high_low]

/-- The bytes are read back from their digits. -/
theorem decode_encode (bytes : List UInt8) : decode (encode bytes) = some bytes := by
  rw [decode, encode, String.toList_ofList, decodeChars_encodeChars]

theorem encode_injective {first second : List UInt8} (same : encode first = encode second) :
    first = second := by
  have read := decode_encode first
  rw [same, decode_encode] at read
  exact (Option.some.inj read).symm

theorem length_encodeChars (bytes : List UInt8) :
    (encodeChars bytes).length = 2 * bytes.length := by
  induction bytes with
  | nil => rfl
  | cons byte rest ih =>
      change (encodeChars rest).length + 2 = _
      rw [ih, List.length_cons]
      omega

theorem isLowerDigit_of_mem_encodeChars {bytes : List UInt8} {char : Char}
    (member : char ∈ encodeChars bytes) : isLowerDigit char = true := by
  obtain ⟨byte, _, present⟩ := List.mem_flatMap.mp member
  simp only [List.mem_cons, List.not_mem_nil, or_false] at present
  rcases present with rfl | rfl
  · exact isLowerDigit_digit _
  · exact isLowerDigit_digit _

theorem val_le_of_isLowerDigit {char : Char} (digit : isLowerDigit char = true) :
    char.val ≤ 127 := by
  simp only [isLowerDigit, Char.isDigit, Bool.or_eq_true, Bool.and_eq_true, decide_eq_true_eq,
    Char.le_def] at digit
  rcases digit with ⟨_, decimal⟩ | ⟨_, letter⟩
  · exact UInt32.le_trans decimal (by decide)
  · exact UInt32.le_trans letter (by decide)

/-- There are two digits for each byte. -/
theorem utf8ByteSize_encode (bytes : List UInt8) :
    (encode bytes).utf8ByteSize = 2 * bytes.length := by
  have small : ∀ char ∈ encodeChars bytes, char.val ≤ 127 :=
    fun char member => val_le_of_isLowerDigit (isLowerDigit_of_mem_encodeChars member)
  rw [encode, Utf8.byteSize_ofList_of_small small, length_encodeChars]

/-- Every digit that is written is read. -/
theorem isSome_value_of_mem {bytes : List UInt8} {char : Char} (member : char ∈ encodeChars bytes) :
    (value char).isSome = true := by
  obtain ⟨byte, _, present⟩ := List.mem_flatMap.mp member
  simp only [List.mem_cons, List.not_mem_nil, or_false] at present
  rcases present with rfl | rfl <;> rw [value_digit] <;> rfl

end Hex
