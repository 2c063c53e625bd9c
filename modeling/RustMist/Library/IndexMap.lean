import Mathlib.Data.List.Basic
import Mathlib.Data.List.Nodup

/-! Maps that keep the order in which their keys were inserted. -/

namespace IndexMap

variable {κ α : Type} [DecidableEq κ]

/-- The keys of a map in insertion order. -/
def keys (entries : List (κ × α)) : List κ := entries.map Prod.fst

def get (key : κ) : List (κ × α) → Option α
  | [] => none
  | entry :: rest => if entry.1 = key then some entry.2 else get key rest

/-- An insertion replaces the value of a present key in place and appends a new key. -/
def insert (key : κ) (value : α) : List (κ × α) → List (κ × α)
  | [] => [(key, value)]
  | entry :: rest =>
      if entry.1 = key then (entry.1, value) :: rest else entry :: insert key value rest

/-- A removal moves the last entry into the freed place. -/
def swapRemove (key : κ) : List (κ × α) → List (κ × α)
  | [] => []
  | entry :: rest =>
      if entry.1 = key then
        match rest.getLast? with
        | none => []
        | some last => last :: rest.dropLast
      else entry :: swapRemove key rest

omit [DecidableEq κ] in
@[simp] theorem keys_nil : keys ([] : List (κ × α)) = [] := rfl

omit [DecidableEq κ] in
@[simp] theorem keys_cons (entry : κ × α) (rest : List (κ × α)) :
    keys (entry :: rest) = entry.1 :: keys rest := rfl

@[simp] theorem get_nil (key : κ) : get key ([] : List (κ × α)) = none := rfl

theorem get_cons (key : κ) (entry : κ × α) (rest : List (κ × α)) :
    get key (entry :: rest) = if entry.1 = key then some entry.2 else get key rest := rfl

theorem mem_of_get {key : κ} {value : α} {entries : List (κ × α)}
    (found : get key entries = some value) : (key, value) ∈ entries := by
  induction entries with
  | nil => simp at found
  | cons entry rest ih =>
      rw [get_cons] at found
      split at found
      · rename_i same
        have equal : entry.2 = value := Option.some.inj found
        rw [← same, ← equal]
        exact List.mem_cons_self
      · exact List.mem_cons_of_mem _ (ih found)

theorem mem_keys_of_get {key : κ} {value : α} {entries : List (κ × α)}
    (found : get key entries = some value) : key ∈ keys entries :=
  List.mem_map_of_mem (f := Prod.fst) (mem_of_get found)

theorem get_eq_none_iff {key : κ} {entries : List (κ × α)} :
    get key entries = none ↔ key ∉ keys entries := by
  induction entries with
  | nil => simp
  | cons entry rest ih =>
      rw [get_cons, keys_cons, List.mem_cons, not_or]
      split
      · rename_i same
        simp [same]
      · rename_i different
        simpa [Ne.symm different] using ih

/-- Distinct keys make every entry the one that a lookup finds. -/
theorem get_of_mem {key : κ} {value : α} {entries : List (κ × α)}
    (distinct : (keys entries).Nodup) (member : (key, value) ∈ entries) :
    get key entries = some value := by
  induction entries with
  | nil => simp at member
  | cons entry rest ih =>
      rw [keys_cons, List.nodup_cons] at distinct
      rw [get_cons]
      rcases List.mem_cons.mp member with rfl | later
      · simp
      · have different : entry.1 ≠ key := by
          intro same
          exact distinct.1 (same ▸ List.mem_map_of_mem (f := Prod.fst) later)
        rw [if_neg different]
        exact ih distinct.2 later

theorem insert_of_not_mem {key : κ} {value : α} {entries : List (κ × α)}
    (fresh : key ∉ keys entries) : insert key value entries = entries ++ [(key, value)] := by
  induction entries with
  | nil => rfl
  | cons entry rest ih =>
      rw [keys_cons, List.mem_cons, not_or] at fresh
      rw [insert, if_neg (Ne.symm fresh.1), ih fresh.2, List.cons_append]

theorem get_insert (key other : κ) (value : α) (entries : List (κ × α)) :
    get other (insert key value entries) =
      if other = key then some value else get other entries := by
  induction entries with
  | nil => by_cases same : other = key <;> simp [insert, get_cons, same, Ne.symm]
  | cons entry rest ih =>
      rw [insert]
      split
      · rename_i same
        subst same
        by_cases equal : other = entry.1 <;> simp [get_cons, equal, Ne.symm]
      · rename_i different
        rw [get_cons, ih, get_cons]
        by_cases equal : other = key
        · subst equal
          simp [different]
        · simp [equal]

theorem keys_insert (key : κ) (value : α) (entries : List (κ × α)) :
    keys (insert key value entries) =
      if key ∈ keys entries then keys entries else keys entries ++ [key] := by
  induction entries with
  | nil => simp [insert]
  | cons entry rest ih =>
      rw [insert]
      split
      · rename_i same
        simp [same]
      · rename_i different
        rw [keys_cons, ih]
        by_cases member : key ∈ keys rest <;> simp [member, Ne.symm different]

theorem mem_insert {key : κ} {value : α} {entry : κ × α} {entries : List (κ × α)}
    (member : entry ∈ insert key value entries) : entry = (key, value) ∨ entry ∈ entries := by
  induction entries with
  | nil => simpa [insert] using member
  | cons first rest ih =>
      rw [insert] at member
      split at member
      · rename_i same
        rcases List.mem_cons.mp member with rfl | later
        · exact .inl (by rw [same])
        · exact .inr (List.mem_cons_of_mem _ later)
      · rcases List.mem_cons.mp member with rfl | later
        · exact .inr List.mem_cons_self
        · exact (ih later).imp id (List.mem_cons_of_mem _)

theorem nodup_insert {key : κ} {value : α} {entries : List (κ × α)}
    (distinct : (keys entries).Nodup) : (keys (insert key value entries)).Nodup := by
  rw [keys_insert]
  split
  · exact distinct
  · rename_i fresh
    rw [List.nodup_append]
    refine ⟨distinct, List.nodup_singleton _, ?_⟩
    rintro first member second (_ | ⟨_, ⟨⟩⟩) rfl
    exact fresh member

/-- A removal keeps every other entry and only those. -/
theorem swapRemove_perm (key : κ) (entries : List (κ × α))
    (distinct : (keys entries).Nodup) :
    (swapRemove key entries).Perm (entries.filter fun entry => entry.1 ≠ key) := by
  induction entries with
  | nil => exact List.Perm.refl _
  | cons entry rest ih =>
      rw [keys_cons, List.nodup_cons] at distinct
      rw [swapRemove]
      split
      · rename_i same
        have unmatched : rest.filter (fun entry => entry.1 ≠ key) = rest := by
          apply List.filter_eq_self.mpr
          intro later member
          have different : later.1 ≠ key := by
            rintro equal
            exact distinct.1 (same.trans equal.symm ▸ List.mem_map_of_mem member)
          simpa using different
        rw [List.filter_cons_of_neg (by simp [same]), unmatched]
        rcases List.eq_nil_or_concat rest with rfl | ⟨before, last, rfl⟩
        · exact List.Perm.refl _
        · simp only [List.concat_eq_append, List.getLast?_append, List.getLast?_singleton,
            Option.some_or, List.dropLast_concat]
          exact (List.perm_append_singleton last before).symm
      · rename_i different
        rw [List.filter_cons_of_pos (by simpa using different)]
        exact (ih distinct.2).cons entry

theorem nodup_swapRemove {key : κ} {entries : List (κ × α)} (distinct : (keys entries).Nodup) :
    (keys (swapRemove key entries)).Nodup := by
  have same := (swapRemove_perm key entries distinct).map Prod.fst
  exact same.nodup_iff.mpr (distinct.sublist (List.filter_sublist.map Prod.fst))

theorem mem_swapRemove {key : κ} {entry : κ × α} {entries : List (κ × α)}
    (distinct : (keys entries).Nodup) :
    entry ∈ swapRemove key entries ↔ entry ∈ entries ∧ entry.1 ≠ key := by
  rw [(swapRemove_perm key entries distinct).mem_iff]
  simp

theorem get_swapRemove {key : κ} (other : κ) {entries : List (κ × α)}
    (distinct : (keys entries).Nodup) :
    get other (swapRemove key entries) = if other = key then none else get other entries := by
  split
  · rename_i same
    rw [get_eq_none_iff]
    intro present
    obtain ⟨entry, member, rfl⟩ := List.mem_map.mp present
    exact ((mem_swapRemove distinct).mp member).2 same
  · rename_i different
    apply Option.ext
    intro value
    have kept : (other, value) ∈ swapRemove key entries ↔ (other, value) ∈ entries := by
      rw [mem_swapRemove distinct]
      exact and_iff_left different
    exact ⟨fun found => get_of_mem distinct (kept.mp (mem_of_get found)),
      fun found => get_of_mem (nodup_swapRemove distinct) (kept.mpr (mem_of_get found))⟩

/-- The order of the entries does not matter to a lookup. -/
theorem get_of_perm {first second : List (κ × α)} (same : first.Perm second)
    (distinct : (keys first).Nodup) (key : κ) : get key first = get key second := by
  have distinct' : (keys second).Nodup := (same.map Prod.fst).nodup_iff.mp distinct
  apply Option.ext
  intro value
  exact ⟨fun found => get_of_mem distinct' (same.mem_iff.mp (mem_of_get found)),
    fun found => get_of_mem distinct (same.mem_iff.mpr (mem_of_get found))⟩

theorem get_filter {keep : κ × α → Bool} {entries : List (κ × α)} (distinct : (keys entries).Nodup)
    (key : κ) :
    get key (entries.filter keep) = (get key entries).filter fun value => keep (key, value) := by
  have distinct' : (keys (entries.filter keep)).Nodup :=
    distinct.sublist (List.filter_sublist.map Prod.fst)
  apply Option.ext
  intro value
  rw [Option.filter_eq_some_iff]
  constructor
  · intro found
    obtain ⟨present, kept⟩ := List.mem_filter.mp (mem_of_get found)
    exact ⟨get_of_mem distinct present, kept⟩
  · rintro ⟨found, kept⟩
    exact get_of_mem distinct' (List.mem_filter.mpr ⟨mem_of_get found, kept⟩)

/-- This map changes the value of one key in place. -/
def modify (key : κ) (change : α → α) (entries : List (κ × α)) : List (κ × α) :=
  entries.map fun entry => if entry.1 = key then (entry.1, change entry.2) else entry

theorem keys_modify (key : κ) (change : α → α) (entries : List (κ × α)) :
    keys (modify key change entries) = keys entries := by
  rw [keys, modify, List.map_map]
  apply List.map_congr_left
  intro entry _
  rw [Function.comp_apply]
  split <;> rfl

theorem get_modify (key other : κ) (change : α → α) (entries : List (κ × α)) :
    get other (modify key change entries) =
      if other = key then (get other entries).map change else get other entries := by
  induction entries with
  | nil => simp [modify]
  | cons entry rest ih =>
      rw [modify, List.map_cons, get_cons, get_cons]
      change (if _ then _ else get other (modify key change rest)) = _
      rw [ih]
      by_cases same : entry.1 = key
      · rw [if_pos same]
        by_cases sought : entry.1 = other
        · simp [sought, ← same]
        · simp [sought]
      · rw [if_neg same]
        by_cases sought : entry.1 = other
        · have different : other ≠ key := sought ▸ same
          simp [sought, different]
        · simp [sought]

section MapValues

variable {β : Type} (transform : α → β)

/-- This map transforms the values and keeps the keys. -/
def mapValues (entries : List (κ × α)) : List (κ × β) :=
  entries.map fun entry => (entry.1, transform entry.2)

omit [DecidableEq κ] in
theorem keys_mapValues (entries : List (κ × α)) :
    keys (mapValues transform entries) = keys entries := by
  rw [keys, mapValues, List.map_map]
  rfl

theorem get_mapValues (key : κ) (entries : List (κ × α)) :
    get key (mapValues transform entries) = (get key entries).map transform := by
  induction entries with
  | nil => rfl
  | cons entry rest ih =>
      change get key ((entry.1, transform entry.2) :: mapValues transform rest) = _
      rw [get_cons, get_cons, ih]
      split <;> rfl

theorem insert_mapValues (key : κ) (value : α) (entries : List (κ × α)) :
    insert key (transform value) (mapValues transform entries) =
      mapValues transform (insert key value entries) := by
  induction entries with
  | nil => rfl
  | cons entry rest ih =>
      change insert key (transform value) ((entry.1, transform entry.2) :: mapValues transform rest) = _
      rw [insert, insert, ih]
      split <;> rfl

theorem swapRemove_mapValues (key : κ) (entries : List (κ × α)) :
    swapRemove key (mapValues transform entries) = mapValues transform (swapRemove key entries) := by
  induction entries with
  | nil => rfl
  | cons entry rest ih =>
      change swapRemove key ((entry.1, transform entry.2) :: mapValues transform rest) = _
      rw [swapRemove, swapRemove, ih]
      split
      · rcases List.eq_nil_or_concat rest with rfl | ⟨before, last, rfl⟩
        · rfl
        · simp [mapValues]
      · rfl

end MapValues

end IndexMap
