import Mathlib.Data.String.Basic

/-! The size of texts in bytes. -/

namespace Utf8

theorem ofList_cons (letter : Char) (rest : List Char) :
    String.ofList (letter :: rest) = String.singleton letter ++ String.ofList rest := by
  apply String.toList_injective
  simp

/-- A letter adds its own size to that of the letters after it. -/
theorem byteSize_ofList_cons (letter : Char) (rest : List Char) :
    (String.ofList (letter :: rest)).utf8ByteSize =
      letter.utf8Size + (String.ofList rest).utf8ByteSize := by
  rw [ofList_cons, String.utf8ByteSize_append, String.utf8ByteSize_singleton]

theorem byteSize_ofList_le (letters : List Char) :
    (String.ofList letters).utf8ByteSize ≤ 4 * letters.length := by
  induction letters with
  | nil => exact Nat.le_refl 0
  | cons letter rest ih =>
      have size := letter.utf8Size_le_four
      rw [byteSize_ofList_cons, List.length_cons]
      omega

/-- A text of one-byte letters has as many bytes as letters. -/
theorem byteSize_ofList_of_small {letters : List Char}
    (small : ∀ letter ∈ letters, letter.val ≤ 127) :
    (String.ofList letters).utf8ByteSize = letters.length := by
  induction letters with
  | nil => rfl
  | cons letter rest ih =>
      have size : letter.utf8Size = 1 := Char.utf8Size_eq_one_iff.mpr (small letter List.mem_cons_self)
      rw [byteSize_ofList_cons, size,
        ih fun other member => small other (List.mem_cons_of_mem _ member), List.length_cons]
      omega

section Bytes

theorem loop_toList (bytes : ByteArray) (index : Nat) (read : List UInt8) :
    ByteArray.toList.loop bytes index read = read.reverse ++ bytes.data.toList.drop index := by
  induction index, read using ByteArray.toList.loop.induct bytes with
  | case1 index read inside ih =>
      have bound : index < bytes.data.toList.length := inside
      have item : bytes.get! index = bytes.data.toList[index] := by
        change bytes.data[index]! = _
        rw [getElem!_pos bytes.data index inside, Array.getElem_toList]
      rw [ByteArray.toList.loop, if_pos inside, ih, List.drop_eq_getElem_cons bound, item]
      simp
  | case2 index read outside =>
      have beyond : bytes.data.toList.length ≤ index := Nat.le_of_not_lt outside
      rw [ByteArray.toList.loop, if_neg outside, List.drop_eq_nil_of_le beyond, List.append_nil]

theorem toList_eq (bytes : ByteArray) : bytes.toList = bytes.data.toList := by
  rw [ByteArray.toList, loop_toList]
  simp

theorem length_toUTF8 (text : String) : text.toUTF8.toList.length = text.utf8ByteSize := by
  rw [toList_eq]
  rfl

/-- A text is read back from its bytes. -/
theorem fromUTF8_toUTF8 (text : String) :
    String.fromUTF8? ⟨text.toUTF8.toList.toArray⟩ = some text := by
  have bytes : (⟨text.toUTF8.toList.toArray⟩ : ByteArray) = text.toByteArray := by
    rw [toList_eq]
    simp
  rw [bytes, String.fromUTF8?, dif_pos text.isValidUTF8]
  rfl

end Bytes

section Boundaries

/-- The letters after an offset in bytes; there are none when the offset stands within a letter or
outside the text. -/
def dropBytes : Nat → List Char → Option (List Char)
  | 0, letters => some letters
  | _ + 1, [] => none
  | offset + 1, letter :: rest =>
      if letter.utf8Size ≤ offset + 1 then dropBytes (offset + 1 - letter.utf8Size) rest else none

/-- The offset stands between two letters of the text. -/
def IsBoundary (offset : Nat) (letters : List Char) : Prop :=
  ∃ front rest, letters = front ++ rest ∧ (String.ofList front).utf8ByteSize = offset

/-- What is left after an offset stands behind letters of that size. -/
theorem dropBytes_eq_some_iff {offset : Nat} {letters rest : List Char} :
    dropBytes offset letters = some rest ↔
      ∃ front, letters = front ++ rest ∧ (String.ofList front).utf8ByteSize = offset := by
  induction letters generalizing offset with
  | nil =>
      cases offset with
      | zero =>
          constructor
          · intro same
            exact ⟨[], by simpa [dropBytes] using same, rfl⟩
          · rintro ⟨front, empty, _⟩
            rw [(List.append_eq_nil_iff.mp empty.symm).2, dropBytes]
      | succ offset =>
          constructor
          · intro same
            rw [dropBytes] at same
            cases same
          · rintro ⟨front, empty, size⟩
            rw [(List.append_eq_nil_iff.mp empty.symm).1] at size
            cases size
  | cons letter letters ih =>
      have positive : 0 < letter.utf8Size := letter.utf8Size_pos
      cases offset with
      | zero =>
          constructor
          · intro same
            exact ⟨[], by simpa [dropBytes] using same, rfl⟩
          · rintro ⟨front, split, size⟩
            cases front with
            | nil => rw [dropBytes, split, List.nil_append]
            | cons first front =>
                have wide : 0 < first.utf8Size := first.utf8Size_pos
                rw [byteSize_ofList_cons] at size
                omega
      | succ offset =>
          rw [dropBytes]
          constructor
          · intro same
            split at same
            · rename_i fits
              obtain ⟨front, rfl, size⟩ := ih.mp same
              refine ⟨letter :: front, rfl, ?_⟩
              rw [byteSize_ofList_cons, size]
              omega
            · cases same
          · rintro ⟨front, split, size⟩
            cases front with
            | nil => cases size
            | cons first front =>
                rw [List.cons_append, List.cons.injEq] at split
                obtain ⟨rfl, rfl⟩ := split
                rw [byteSize_ofList_cons] at size
                rw [if_pos (by omega)]
                exact ih.mpr ⟨front, rfl, by omega⟩

theorem isSome_dropBytes_iff {offset : Nat} {letters : List Char} :
    (∃ rest, dropBytes offset letters = some rest) ↔ IsBoundary offset letters := by
  simp only [dropBytes_eq_some_iff, IsBoundary]
  exact exists_comm

end Boundaries

end Utf8
