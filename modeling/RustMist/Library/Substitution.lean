import RustMist.Library.Replace

/-! The replacement of a pattern in a text that is put together from pieces. -/

namespace Pattern

variable {α : Type} [DecidableEq α]

section Pieces

variable {pattern replacement : List α} {separator : α} (nonempty : pattern ≠ [])
  (free : separator ∉ pattern)

include nonempty free

/-- A pattern without the separator occurs in one of the pieces. -/
theorem occurs_intercalate (piece : List α) (pieces : List (List α)) :
    occurs pattern ([separator].intercalate (piece :: pieces)) =
      (piece :: pieces).any (occurs pattern) := by
  induction pieces generalizing piece with
  | nil => simp
  | cons next rest ih =>
      rw [List.intercalate_cons_cons, List.append_assoc, List.singleton_append,
        occurs_append_separator nonempty free, ih]
      rfl

/-- The pieces are rewritten one by one. -/
theorem replace_intercalate (pieces : List (List α)) :
    replace pattern replacement ([separator].intercalate pieces) =
      [separator].intercalate (pieces.map (replace pattern replacement)) := by
  induction pieces with
  | nil => rfl
  | cons piece rest ih =>
      cases rest with
      | nil => simp
      | cons next rest =>
          rw [List.intercalate_cons_cons, List.append_assoc, List.singleton_append,
            replace_append_separator nonempty free, ih]
          simp only [List.map_cons, List.intercalate_cons_cons, List.append_assoc,
            List.singleton_append]

end Pieces

/-- Lists of pieces without the separator are told apart by the text that they make. -/
theorem intercalate_injective {separator : α} {first second : List (List α)}
    (some' : first ≠ []) (some'' : second ≠ []) (free : ∀ piece ∈ first, separator ∉ piece)
    (free' : ∀ piece ∈ second, separator ∉ piece)
    (same : [separator].intercalate first = [separator].intercalate second) : first = second := by
  have split := congrArg (List.splitOn separator) same
  rwa [List.splitOn_intercalate separator free some',
    List.splitOn_intercalate separator free' some''] at split

section Whole

variable {pattern replacement : List α}

theorem replace_cons_of_prefix {symbol : α} {rest tail : List α} (nonempty : pattern ≠ [])
    (whole : pattern ++ tail = symbol :: rest) :
    replace pattern replacement (symbol :: rest) =
      replacement ++ replace pattern replacement tail := by
  have found : pattern.isPrefixOf (symbol :: rest) = true := by
    rw [List.isPrefixOf_iff_prefix]
    exact ⟨tail, whole⟩
  have positive : 0 < pattern.length := List.length_pos_iff.mpr nonempty
  have dropped : rest.drop (pattern.length - 1) = tail := by
    have after := congrArg (List.drop pattern.length) whole
    rw [List.drop_left, ← Nat.sub_add_cancel positive, List.drop_succ_cons] at after
    exact after.symm
  rw [replace_cons_of_match found, replaceFrom_skip, dropped]

/-- A text is read as a run of symbols that stay and of occurrences that are replaced. -/
theorem replace_induction {motive : List α → Prop} (nonempty : pattern ≠ []) (nil : motive [])
    (found : ∀ tail, motive tail → motive (pattern ++ tail))
    (kept : ∀ symbol rest, pattern.isPrefixOf (symbol :: rest) = false → motive rest →
      motive (symbol :: rest)) (text : List α) : motive text := by
  induction size : text.length using Nat.strong_induction_on generalizing text with
  | _ bound ih =>
      cases text with
      | nil => exact nil
      | cons symbol rest =>
          have positive : 0 < pattern.length := List.length_pos_iff.mpr nonempty
          cases same : pattern.isPrefixOf (symbol :: rest) with
          | true =>
              obtain ⟨tail, whole⟩ := List.isPrefixOf_iff_prefix.mp same
              have total := congrArg List.length whole
              rw [List.length_append] at total
              rw [← whole]
              exact found tail (ih tail.length (by omega) tail rfl)
          | false =>
              rw [List.length_cons] at size
              exact kept symbol rest same (ih rest.length (by omega) rest rfl)

theorem replace_pattern_append (nonempty : pattern ≠ []) (tail : List α) :
    replace pattern replacement (pattern ++ tail) =
      replacement ++ replace pattern replacement tail := by
  obtain ⟨symbol, rest, whole⟩ := List.exists_cons_of_ne_nil nonempty
  have split : pattern ++ tail = symbol :: (rest ++ tail) := by rw [whole, List.cons_append]
  rw [split]
  exact replace_cons_of_prefix nonempty split

theorem replace_kept {symbol : α} {rest : List α}
    (absent : pattern.isPrefixOf (symbol :: rest) = false) :
    replace pattern replacement (symbol :: rest) = symbol :: replace pattern replacement rest :=
  replace_cons_of_mismatch (by simp [absent])

/-- A symbol of the result comes from the replacement or from the text. -/
theorem mem_replace {symbol : α} {text : List α} (nonempty : pattern ≠ [])
    (member : symbol ∈ replace pattern replacement text) : symbol ∈ replacement ∨ symbol ∈ text := by
  induction text using replace_induction nonempty with
  | nil => exact .inr member
  | found tail ih =>
      rw [replace_pattern_append nonempty, List.mem_append] at member
      rcases member with new | later
      · exact .inl new
      · exact (ih later).imp_right (List.mem_append_right _)
  | kept other rest absent ih =>
      rw [replace_kept absent, List.mem_cons] at member
      rcases member with rfl | later
      · exact .inr List.mem_cons_self
      · exact (ih later).imp_right (List.mem_cons_of_mem _)

/-- Each occurrence changes the length by the same amount. -/
theorem length_replace (replacement : List α) (nonempty : pattern ≠ []) (text : List α) :
    ∃ count, (replace pattern replacement text).length + count * pattern.length =
      text.length + count * replacement.length := by
  induction text using replace_induction nonempty with
  | nil => exact ⟨0, by simp⟩
  | found tail ih =>
      obtain ⟨count, total⟩ := ih
      refine ⟨count + 1, ?_⟩
      rw [replace_pattern_append nonempty, List.length_append, List.length_append, Nat.add_mul,
        Nat.add_mul]
      omega
  | kept symbol rest absent ih =>
      obtain ⟨count, total⟩ := ih
      refine ⟨count, ?_⟩
      rw [replace_kept absent, List.length_cons, List.length_cons]
      omega

/-- A replacement leaves a text alone when there is nothing to replace or nothing to change. -/
theorem replace_eq_self_iff (nonempty : pattern ≠ []) {text : List α} :
    replace pattern replacement text = text ↔
      occurs pattern text = false ∨ replacement = pattern := by
  constructor
  · intro same
    induction text using replace_induction nonempty with
    | nil =>
        rw [occurs]
        exact .inl (by simpa using nonempty)
    | found tail ih =>
        rw [replace_pattern_append nonempty] at same
        obtain ⟨count, total⟩ := length_replace replacement nonempty tail
        have lengths := congrArg List.length same
        rw [List.length_append, List.length_append] at lengths
        have equal : replacement.length = pattern.length := by
          rcases Nat.lt_trichotomy replacement.length pattern.length with less | equal | more
          · have smaller : count * replacement.length ≤ count * pattern.length :=
              Nat.mul_le_mul_left count (Nat.le_of_lt less)
            omega
          · exact equal
          · have larger : count * pattern.length ≤ count * replacement.length :=
              Nat.mul_le_mul_left count (Nat.le_of_lt more)
            omega
        exact .inr (List.append_inj_left same equal)
    | kept symbol rest absent ih =>
        rw [replace_kept absent, List.cons_inj_right] at same
        rw [occurs, absent, Bool.false_or]
        exact ih same
  · rintro (absent | rfl)
    · exact replace_of_not_occurs absent
    · induction text using replace_induction nonempty with
      | nil => rfl
      | found tail ih => rw [replace_pattern_append nonempty, ih]
      | kept symbol rest absent ih => rw [replace_kept absent, ih]

end Whole

end Pattern
