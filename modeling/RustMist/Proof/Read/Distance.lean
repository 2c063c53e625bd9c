import RustMist.Construction.Server.Similarity
import RustMist.Library.EditDistance

/-! The rows of the distance between two texts. -/

namespace RustMist.Similarity

open EditDistance

section Rows

variable {aChars bChars : List Char}

/-- The first entries of a row are the distances between the prefixes. -/
structure RowOf (aChars bChars : List Char) (i : Nat) (row : List Nat) (filled : Nat) : Prop where
  length : row.length = bChars.length + 1
  entry : ∀ k < filled, row[k]? = some (distance (aChars.take i) (bChars.take k))

theorem setAt_filled {i j : Nat} {row : List Nat} (holds : RowOf aChars bChars i row j)
    (inside : j < bChars.length + 1) :
    ∃ row', setAt row j (distance (aChars.take i) (bChars.take j)) = some row' ∧
      RowOf aChars bChars i row' (j + 1) := by
  have bound : j < row.length := holds.length ▸ inside
  refine ⟨row.set j _, if_pos bound, ?_, fun k below => ?_⟩
  · rw [List.length_set, holds.length]
  · by_cases last : k = j
    · subst last
      exact List.getElem?_set_self bound
    · rw [List.getElem?_set_ne (Ne.symm last)]
      exact holds.entry k (by omega)

/-- An entry is computed from the three entries around it. -/
theorem distance_entry {i j : Nat} {first second : Char} (row : aChars[i]? = some first)
    (column : bChars[j]? = some second) :
    distance (aChars.take (i + 1)) (bChars.take (j + 1)) =
      min (min (distance (aChars.take i) (bChars.take (j + 1)) + 1)
          (distance (aChars.take (i + 1)) (bChars.take j) + 1))
        (distance (aChars.take i) (bChars.take j) + if first = second then 0 else 1) := by
  rw [List.take_add_one, List.take_add_one, row, column]
  exact distance_snoc first second (aChars.take i) (bChars.take j)

/-- A row is filled without a panic with the distances of its prefixes. -/
theorem fillRow_total {i j : Nat} {prevRow : List Nat} (row : i < aChars.length)
    (before : RowOf aChars bChars i prevRow (bChars.length + 1)) (left : Nat)
    {currRow : List Nat} (columns : j + left = bChars.length)
    (holds : RowOf aChars bChars (i + 1) currRow (j + 1)) :
    ∃ row', fillRow aChars bChars (i + 1) prevRow (j + 1) left currRow = some row' ∧
      RowOf aChars bChars (i + 1) row' (bChars.length + 1) := by
  induction left generalizing j currRow with
  | zero =>
      obtain rfl : j = bChars.length := by omega
      exact ⟨currRow, rfl, holds⟩
  | succ left ih =>
      have first := List.getElem?_eq_getElem row
      have second := List.getElem?_eq_getElem (show j < bChars.length by omega)
      have above := before.entry (j + 1) (by omega)
      have back := holds.entry j (by omega)
      have diagonal := before.entry j (by omega)
      obtain ⟨currRow', set, holds'⟩ := setAt_filled holds (by omega)
      obtain ⟨row', filled, final⟩ := ih (by omega) holds'
      refine ⟨row', ?_, final⟩
      rw [distance_entry first second] at set
      rw [fillRow, Nat.add_sub_cancel, Nat.add_sub_cancel, first, second, above, back, diagonal]
      simp only [Option.bind_eq_bind, Option.bind_some]
      rw [set]
      exact filled

/-- All rows are filled without a panic, and the last one is about the whole first text. -/
theorem fillRows_total (left : Nat) {i : Nat} {prevRow currRow : List Nat}
    (rows : i + left = aChars.length) (length : currRow.length = bChars.length + 1)
    (before : RowOf aChars bChars i prevRow (bChars.length + 1)) :
    ∃ row, fillRows aChars bChars (i + 1) left prevRow currRow = some row ∧
      RowOf aChars bChars aChars.length row (bChars.length + 1) := by
  induction left generalizing i prevRow currRow with
  | zero =>
      obtain rfl : i = aChars.length := by omega
      exact ⟨prevRow, rfl, before⟩
  | succ left ih =>
      have empty : RowOf aChars bChars (i + 1) currRow 0 :=
        ⟨length, fun k below => absurd below (Nat.not_lt_zero k)⟩
      have column : distance (aChars.take (i + 1)) (bChars.take 0) = i + 1 := by
        rw [List.take_zero, distance_nil_right, List.length_take]
        omega
      obtain ⟨currRow', set, first⟩ := setAt_filled empty (Nat.zero_lt_succ _)
      rw [column] at set
      obtain ⟨row, filled, holds⟩ :=
        fillRow_total (by omega) before bChars.length (Nat.zero_add _) first
      obtain ⟨last, done, final⟩ := ih (by omega) before.length holds
      refine ⟨last, ?_, final⟩
      rw [fillRows, set]
      simp only [Option.bind_eq_bind, Option.bind_some]
      rw [filled]
      exact done

theorem range_row : RowOf aChars bChars 0 (List.range (bChars.length + 1)) (bChars.length + 1) where
  length := List.length_range
  entry k below := by
    rw [List.getElem?_range below, List.take_zero, distance_nil_left, List.length_take]
    exact congrArg some (by omega)

end Rows

section Distance

variable (toLowercase : String → String)

/-- The two rows compute the distance between the texts in lower case. -/
theorem levenshteinDistance_eq (a b : String) :
    levenshteinDistance toLowercase a b =
      some (distance (toLowercase a).toList (toLowercase b).toList) := by
  rw [levenshteinDistance]
  split
  · rename_i none
    rw [List.eq_nil_of_length_eq_zero none, distance_nil_left]
  · split
    · rename_i none
      rw [List.eq_nil_of_length_eq_zero none, distance_nil_right]
    · obtain ⟨row, filled, holds⟩ : ∃ row, fillRows (toLowercase a).toList (toLowercase b).toList 1
          (toLowercase a).toList.length _ _ = some row ∧ _ :=
        fillRows_total _ (Nat.zero_add _) List.length_replicate range_row
      have found := holds.entry (toLowercase b).toList.length (by omega)
      rw [List.take_length, List.take_length] at found
      rw [filled]
      exact found

/-- The computed distance is the least number of edits; it is a metric on the texts in lower case
and at most the length of the longer one. -/
theorem levenshteinDistance_metric (a b c : String) :
    ∃ ab bc ac : Nat, levenshteinDistance toLowercase a b = some ab ∧
      levenshteinDistance toLowercase b c = some bc ∧
      levenshteinDistance toLowercase a c = some ac ∧
      ab = distance (toLowercase a).toList (toLowercase b).toList ∧
      IsLeast {cost | Edits (toLowercase a).toList (toLowercase b).toList cost} ab ∧
      levenshteinDistance toLowercase b a = some ab ∧
      (ab = 0 ↔ toLowercase a = toLowercase b) ∧
      ac ≤ ab + bc ∧
      ab ≤ max (toLowercase a).toList.length (toLowercase b).toList.length := by
  refine ⟨_, _, _, levenshteinDistance_eq toLowercase a b, levenshteinDistance_eq toLowercase b c,
    levenshteinDistance_eq toLowercase a c, rfl, distance_isLeast _ _, ?_, ?_,
    distance_triangle _ _ _, distance_le_max _ _⟩
  · rw [levenshteinDistance_eq, distance_comm]
  · rw [distance_eq_zero_iff, String.toList_inj]

end Distance

end RustMist.Similarity
