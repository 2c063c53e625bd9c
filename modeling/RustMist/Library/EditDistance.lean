import Mathlib.Order.Bounds.Basic
import Mathlib.Order.MinMax

/-! The least number of insertions, deletions and substitutions between two lists. -/

namespace EditDistance

variable {α : Type} {first second third : List α} {cost cost' : Nat}

/-- A script of edits turns one list into another at the cost of its edits. -/
inductive Edits : List α → List α → Nat → Prop where
  | nil : Edits [] [] 0
  | keep (symbol : α) {first second : List α} {cost : Nat} (rest : Edits first second cost) :
      Edits (symbol :: first) (symbol :: second) cost
  | delete (symbol : α) {first second : List α} {cost : Nat} (rest : Edits first second cost) :
      Edits (symbol :: first) second (cost + 1)
  | insert (symbol : α) {first second : List α} {cost : Nat} (rest : Edits first second cost) :
      Edits first (symbol :: second) (cost + 1)
  | substitute (symbol other : α) {first second : List α} {cost : Nat}
      (rest : Edits first second cost) : Edits (symbol :: first) (other :: second) (cost + 1)

section Scripts

theorem Edits.refl (list : List α) : Edits list list 0 := by
  induction list with
  | nil => exact .nil
  | cons symbol rest ih => exact .keep symbol ih

/-- The edits undone in turn. -/
theorem Edits.symm (edits : Edits first second cost) : Edits second first cost := by
  induction edits with
  | nil => exact .nil
  | keep symbol _ ih => exact .keep symbol ih
  | delete symbol _ ih => exact .insert symbol ih
  | insert symbol _ ih => exact .delete symbol ih
  | substitute symbol other _ ih => exact .substitute other symbol ih

/-- Nothing is edited without cost. -/
theorem Edits.zero_iff : Edits first second 0 ↔ first = second := by
  constructor
  · intro edits
    generalize free : 0 = cost at edits
    induction edits with
    | nil => rfl
    | keep symbol _ ih => rw [ih free]
    | delete | insert | substitute => omega
  · rintro rfl
    exact .refl first

theorem Edits.append {first' second' : List α} (early : Edits first second cost)
    (late : Edits first' second' cost') : Edits (first ++ first') (second ++ second') (cost + cost') := by
  induction early with
  | nil => simpa using late
  | keep symbol _ ih => exact .keep symbol ih
  | delete symbol _ ih =>
      rw [Nat.add_right_comm]
      exact .delete symbol ih
  | insert symbol _ ih =>
      rw [Nat.add_right_comm]
      exact .insert symbol ih
  | substitute symbol other _ ih =>
      rw [Nat.add_right_comm]
      exact .substitute symbol other ih

theorem Edits.reverse (edits : Edits first second cost) :
    Edits first.reverse second.reverse cost := by
  induction edits with
  | nil => exact .nil
  | keep symbol _ ih =>
      rw [List.reverse_cons, List.reverse_cons]
      exact ih.append (.keep symbol .nil)
  | delete symbol _ ih =>
      rw [List.reverse_cons]
      simpa using ih.append (.delete symbol .nil)
  | insert symbol _ ih =>
      rw [List.reverse_cons]
      simpa using ih.append (.insert symbol .nil)
  | substitute symbol other _ ih =>
      rw [List.reverse_cons, List.reverse_cons]
      exact ih.append (.substitute symbol other .nil)

/-- Two scripts in a row are one script that costs no more. -/
theorem Edits.trans {first second third : List α} {cost cost' : Nat}
    (early : Edits first second cost) (late : Edits second third cost') :
    ∃ whole ≤ cost + cost', Edits first third whole := by
  induction size : first.length + second.length + third.length using Nat.strong_induction_on
    generalizing first second third cost cost' with
  | _ bound ih =>
      cases late with
      | @insert symbol _ third cost' late =>
          obtain ⟨whole, least, edits⟩ := ih _ (by simp at size ⊢; omega) early late rfl
          exact ⟨whole + 1, by omega, .insert symbol edits⟩
      | nil => exact ⟨cost, by omega, early⟩
      | @keep symbol second third _ late =>
          cases early with
          | keep _ early =>
              obtain ⟨whole, least, edits⟩ := ih _ (by simp at size ⊢; omega) early late rfl
              exact ⟨whole, least, .keep symbol edits⟩
          | delete other early =>
              obtain ⟨whole, least, edits⟩ :=
                ih _ (by simp at size ⊢; omega) early (.keep symbol late) rfl
              exact ⟨whole + 1, by omega, .delete other edits⟩
          | insert _ early =>
              obtain ⟨whole, least, edits⟩ := ih _ (by simp at size ⊢; omega) early late rfl
              exact ⟨whole + 1, by omega, .insert symbol edits⟩
          | substitute other _ early =>
              obtain ⟨whole, least, edits⟩ := ih _ (by simp at size ⊢; omega) early late rfl
              exact ⟨whole + 1, by omega, .substitute other symbol edits⟩
      | @delete symbol second _ cost' late =>
          cases early with
          | keep _ early =>
              obtain ⟨whole, least, edits⟩ := ih _ (by simp at size ⊢; omega) early late rfl
              exact ⟨whole + 1, by omega, .delete symbol edits⟩
          | delete other early =>
              obtain ⟨whole, least, edits⟩ :=
                ih _ (by simp at size ⊢; omega) early (.delete symbol late) rfl
              exact ⟨whole + 1, by omega, .delete other edits⟩
          | insert _ early =>
              obtain ⟨whole, least, edits⟩ := ih _ (by simp at size ⊢; omega) early late rfl
              exact ⟨whole, by omega, edits⟩
          | substitute other _ early =>
              obtain ⟨whole, least, edits⟩ := ih _ (by simp at size ⊢; omega) early late rfl
              exact ⟨whole + 1, by omega, .delete other edits⟩
      | @substitute symbol last second third cost' late =>
          cases early with
          | keep _ early =>
              obtain ⟨whole, least, edits⟩ := ih _ (by simp at size ⊢; omega) early late rfl
              exact ⟨whole + 1, by omega, .substitute symbol last edits⟩
          | delete other early =>
              obtain ⟨whole, least, edits⟩ :=
                ih _ (by simp at size ⊢; omega) early (.substitute symbol last late) rfl
              exact ⟨whole + 1, by omega, .delete other edits⟩
          | insert _ early =>
              obtain ⟨whole, least, edits⟩ := ih _ (by simp at size ⊢; omega) early late rfl
              exact ⟨whole + 1, by omega, .insert last edits⟩
          | substitute other _ early =>
              obtain ⟨whole, least, edits⟩ := ih _ (by simp at size ⊢; omega) early late rfl
              exact ⟨whole + 1, by omega, .substitute other last edits⟩

theorem edits_nil_left (second : List α) : Edits [] second second.length := by
  induction second with
  | nil => exact .nil
  | cons other second ih => exact .insert other ih

end Scripts

section Distance

variable [DecidableEq α]

/-- The first symbols are deleted, inserted, or matched with each other. -/
def distance : List α → List α → Nat
  | [], second => second.length
  | first, [] => first.length
  | symbol :: first, other :: second =>
      min (min (distance first (other :: second) + 1) (distance (symbol :: first) second + 1))
        (distance first second + if symbol = other then 0 else 1)
termination_by first second => first.length + second.length

@[simp] theorem distance_nil_left (second : List α) : distance [] second = second.length := by
  rw [distance]

@[simp] theorem distance_nil_right (first : List α) : distance first [] = first.length := by
  cases first <;> simp [distance]

theorem distance_cons (symbol other : α) (first second : List α) :
    distance (symbol :: first) (other :: second) =
      min (min (distance first (other :: second) + 1) (distance (symbol :: first) second + 1))
        (distance first second + if symbol = other then 0 else 1) := by
  rw [distance]

theorem distance_delete_le (symbol : α) (first second : List α) :
    distance (symbol :: first) second ≤ distance first second + 1 := by
  cases second with
  | nil => simp
  | cons other second =>
      rw [distance_cons]
      omega

theorem distance_insert_le (other : α) (first second : List α) :
    distance first (other :: second) ≤ distance first second + 1 := by
  cases first with
  | nil => simp
  | cons symbol first =>
      rw [distance_cons]
      omega

/-- No script costs less than the distance. -/
theorem distance_le (edits : Edits first second cost) : distance first second ≤ cost := by
  induction edits with
  | nil => simp
  | @keep symbol first second cost rest ih =>
      rw [distance_cons, if_pos rfl]
      omega
  | @delete symbol first second cost rest ih =>
      have step := distance_delete_le symbol first second
      omega
  | @insert symbol first second cost rest ih =>
      have step := distance_insert_le symbol first second
      omega
  | @substitute symbol other first second cost rest ih =>
      rw [distance_cons]
      split <;> omega

/-- Some script costs as little as the distance. -/
theorem edits_distance (first second : List α) : Edits first second (distance first second) := by
  induction first, second using distance.induct with
  | case1 second =>
      rw [distance_nil_left]
      exact edits_nil_left second
  | case2 first =>
      rw [distance_nil_right]
      exact (edits_nil_left first).symm
  | case3 symbol first other second delete insert matched' =>
      rw [distance_cons]
      rcases min_choice (min (distance first (other :: second) + 1)
        (distance (symbol :: first) second + 1))
          (distance first second + if symbol = other then 0 else 1) with edited | matched
      · rw [edited]
        rcases min_choice (distance first (other :: second) + 1)
          (distance (symbol :: first) second + 1) with deleted | inserted
        · rw [deleted]
          exact .delete symbol delete
        · rw [inserted]
          exact .insert other insert
      · rw [matched]
        by_cases same : symbol = other
        · rw [if_pos same, ← same]
          exact .keep symbol matched'
        · rw [if_neg same]
          exact .substitute symbol other matched'

/-- The distance is the least cost of a script. -/
theorem distance_isLeast (first second : List α) :
    IsLeast {cost | Edits first second cost} (distance first second) :=
  ⟨edits_distance first second, fun _ edits => distance_le edits⟩

theorem distance_comm (first second : List α) : distance first second = distance second first :=
  le_antisymm (distance_le (edits_distance second first).symm)
    (distance_le (edits_distance first second).symm)

theorem distance_eq_zero_iff : distance first second = 0 ↔ first = second := by
  constructor
  · intro zero
    have edits := edits_distance first second
    rw [zero] at edits
    exact Edits.zero_iff.mp edits
  · rintro rfl
    exact Nat.le_zero.mp (distance_le (.refl first))

theorem distance_triangle (first second third : List α) :
    distance first third ≤ distance first second + distance second third := by
  obtain ⟨whole, least, edits⟩ := (edits_distance first second).trans (edits_distance second third)
  exact (distance_le edits).trans least

theorem distance_le_max (first second : List α) :
    distance first second ≤ max first.length second.length := by
  induction first, second using distance.induct with
  | case1 second => simp
  | case2 first => simp
  | case3 symbol first other second _ _ matched =>
      rw [distance_cons, List.length_cons, List.length_cons]
      split <;> omega

theorem distance_reverse (first second : List α) :
    distance first.reverse second.reverse = distance first second := by
  apply le_antisymm (distance_le (edits_distance first second).reverse)
  have back := (edits_distance first.reverse second.reverse).reverse
  rw [List.reverse_reverse, List.reverse_reverse] at back
  exact distance_le back

/-- The last symbols are deleted, inserted, or matched with each other. -/
theorem distance_snoc (symbol other : α) (first second : List α) :
    distance (first ++ [symbol]) (second ++ [other]) =
      min (min (distance first (second ++ [other]) + 1) (distance (first ++ [symbol]) second + 1))
        (distance first second + if symbol = other then 0 else 1) := by
  rw [← distance_reverse, ← distance_reverse first (second ++ [other]),
    ← distance_reverse (first ++ [symbol]) second, ← distance_reverse first second]
  simp only [List.reverse_append, List.reverse_singleton, List.singleton_append]
  exact distance_cons symbol other first.reverse second.reverse

end Distance

end EditDistance
