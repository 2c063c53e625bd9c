import Mathlib.Data.List.Basic
import Mathlib.Data.List.Infix
import Mathlib.Tactic.Common

/-! The replacement of every occurrence of a pattern in a text. -/

namespace Pattern

variable {α : Type} [DecidableEq α]

def occurs (pattern : List α) : List α → Bool
  | [] => pattern.isEmpty
  | symbol :: rest => pattern.isPrefixOf (symbol :: rest) || occurs pattern rest

/-- The counter skips the symbols of an occurrence that is already replaced. -/
def replaceFrom (pattern replacement : List α) : Nat → List α → List α
  | _, [] => []
  | skip + 1, _ :: rest => replaceFrom pattern replacement skip rest
  | 0, symbol :: rest =>
      if pattern.isPrefixOf (symbol :: rest) then
        replacement ++ replaceFrom pattern replacement (pattern.length - 1) rest
      else symbol :: replaceFrom pattern replacement 0 rest

/-- The occurrences of a nonempty pattern are replaced from the left, without overlaps. -/
def replace (pattern replacement text : List α) : List α := replaceFrom pattern replacement 0 text

theorem occurs_iff_infix (pattern text : List α) : occurs pattern text = true ↔ pattern <:+: text := by
  induction text with
  | nil => simp [occurs]
  | cons symbol rest ih =>
      rw [occurs, Bool.or_eq_true, ih, List.isPrefixOf_iff_prefix, List.infix_cons_iff]

@[simp] theorem replace_nil (pattern replacement : List α) : replace pattern replacement [] = [] := rfl

theorem replace_cons_of_match {pattern replacement text : List α} {symbol : α}
    (found : pattern.isPrefixOf (symbol :: text) = true) :
    replace pattern replacement (symbol :: text) =
      replacement ++ replaceFrom pattern replacement (pattern.length - 1) text := by
  rw [replace, replaceFrom, if_pos found]

theorem replace_cons_of_mismatch {pattern replacement text : List α} {symbol : α}
    (absent : pattern.isPrefixOf (symbol :: text) ≠ true) :
    replace pattern replacement (symbol :: text) = symbol :: replace pattern replacement text := by
  rw [replace, replaceFrom, if_neg absent, replace]

theorem replaceFrom_skip (pattern replacement text : List α) (skip : Nat) :
    replaceFrom pattern replacement skip text = replace pattern replacement (text.drop skip) := by
  induction skip generalizing text with
  | zero => rfl
  | succ skip ih =>
      cases text with
      | nil => rfl
      | cons symbol rest =>
          rw [replaceFrom, List.drop_succ_cons, ih]

/-- A text without the pattern is unchanged. -/
theorem replace_of_not_occurs {pattern replacement text : List α}
    (absent : occurs pattern text = false) : replace pattern replacement text = text := by
  induction text with
  | nil => rfl
  | cons symbol rest ih =>
      rw [occurs, Bool.or_eq_false_iff] at absent
      rw [replace_cons_of_mismatch (by simp [absent.1]), ih absent.2]

/-- The pattern itself becomes the replacement. -/
theorem replace_self {pattern replacement : List α} (nonempty : pattern ≠ []) :
    replace pattern replacement pattern = replacement := by
  obtain ⟨symbol, rest, rfl⟩ := List.exists_cons_of_ne_nil nonempty
  have found : (symbol :: rest).isPrefixOf (symbol :: rest) = true := by
    rw [List.isPrefixOf_iff_prefix]
  rw [replace_cons_of_match found, replaceFrom_skip]
  simp

/-- A replacement that a map does not see is not seen in the whole text. -/
theorem map_replace {β : Type} {pattern replacement : List α} (nonempty : pattern ≠ [])
    (f : α → β) (same : pattern.map f = replacement.map f) (text : List α) :
    (replace pattern replacement text).map f = text.map f := by
  induction size : text.length using Nat.strong_induction_on generalizing text with
  | _ bound ih =>
      cases text with
      | nil => rfl
      | cons symbol rest =>
          rw [List.length_cons] at size
          cases found : pattern.isPrefixOf (symbol :: rest) with
          | true =>
              obtain ⟨tail, whole⟩ := List.isPrefixOf_iff_prefix.mp found
              have positive : 0 < pattern.length := List.length_pos_iff.mpr nonempty
              have dropped : rest.drop (pattern.length - 1) = tail := by
                have after := congrArg (List.drop pattern.length) whole
                rw [List.drop_left, ← Nat.sub_add_cancel positive, List.drop_succ_cons] at after
                exact after.symm
              have shorter : tail.length < bound := by
                rw [← dropped, List.length_drop]
                omega
              rw [replace_cons_of_match found, replaceFrom_skip, dropped, List.map_append,
                ih _ shorter tail rfl, ← same, ← List.map_append, whole]
          | false =>
              rw [replace_cons_of_mismatch (by simp [found]), List.map_cons,
                ih _ (by omega) rest rfl, List.map_cons]

theorem isPrefixOf_append_of_not_mem {pattern : List α} {separator : α}
    (free : separator ∉ pattern) (text tail : List α) :
    pattern.isPrefixOf (text ++ separator :: tail) = pattern.isPrefixOf text := by
  induction text generalizing pattern with
  | nil =>
      cases pattern with
      | nil => rfl
      | cons first pattern =>
          have different : first ≠ separator := by
            rintro rfl
            exact free List.mem_cons_self
          change (first :: pattern).isPrefixOf (separator :: tail) = false
          rw [List.isPrefixOf_cons_cons, beq_eq_false_iff_ne.mpr different, Bool.false_and]
  | cons symbol rest ih =>
      cases pattern with
      | nil => rfl
      | cons first pattern =>
          rw [List.cons_append, List.isPrefixOf_cons_cons, List.isPrefixOf_cons_cons,
            ih (fun member => free (List.mem_cons_of_mem _ member))]

theorem not_prefix_separator {pattern tail : List α} {separator : α} (nonempty : pattern ≠ [])
    (free : separator ∉ pattern) : pattern.isPrefixOf (separator :: tail) = false := by
  have same := isPrefixOf_append_of_not_mem free [] tail
  rw [List.nil_append] at same
  rw [same]
  cases pattern with
  | nil => exact absurd rfl nonempty
  | cons first pattern => rfl

theorem occurs_append_separator {pattern text tail : List α} {separator : α}
    (nonempty : pattern ≠ []) (free : separator ∉ pattern) :
    occurs pattern (text ++ separator :: tail) = (occurs pattern text || occurs pattern tail) := by
  induction text with
  | nil =>
      have empty : pattern.isEmpty = false := by simpa using nonempty
      change (pattern.isPrefixOf (separator :: tail) || occurs pattern tail) =
        (pattern.isEmpty || occurs pattern tail)
      rw [not_prefix_separator nonempty free, empty]
  | cons symbol rest ih =>
      rw [List.cons_append, occurs, occurs, ih, ← List.cons_append,
        isPrefixOf_append_of_not_mem free, Bool.or_assoc]

/-- A replacement acts on the two sides of a separator that the pattern lacks. -/
theorem replace_append_separator {pattern replacement text tail : List α} {separator : α}
    (nonempty : pattern ≠ []) (free : separator ∉ pattern) :
    replace pattern replacement (text ++ separator :: tail) =
      replace pattern replacement text ++ separator :: replace pattern replacement tail := by
  induction size : text.length using Nat.strong_induction_on generalizing text with
  | _ size ih =>
      cases text with
      | nil =>
          rw [List.nil_append,
            replace_cons_of_mismatch (by simp [not_prefix_separator nonempty free])]
          rfl
      | cons symbol rest =>
          have whole := isPrefixOf_append_of_not_mem free (symbol :: rest) tail
          cases found : pattern.isPrefixOf (symbol :: rest) with
          | true =>
              rw [found, List.cons_append] at whole
              have long : pattern.length ≤ (symbol :: rest).length :=
                (List.isPrefixOf_iff_prefix.mp found).length_le
              have positive : 0 < pattern.length := List.length_pos_iff.mpr nonempty
              rw [List.length_cons] at long size
              have within : pattern.length - 1 ≤ rest.length := by omega
              rw [List.cons_append, replace_cons_of_match whole, replace_cons_of_match found,
                replaceFrom_skip, replaceFrom_skip, List.drop_append_of_le_length within,
                ih _ (by rw [List.length_drop]; omega) rfl, List.append_assoc]
          | false =>
              rw [found, List.cons_append] at whole
              rw [List.length_cons] at size
              rw [List.cons_append, replace_cons_of_mismatch (by simp [whole]),
                replace_cons_of_mismatch (by simp [found]), ih _ (by omega) rfl,
                List.cons_append]

end Pattern
