import RustMist.Library.IndexMap
import Mathlib.Data.Finset.Card
import Mathlib.Data.String.Basic

/-! Maps whose entries stand in the order of their keys. -/

/-- A sorted map keeps its entries in strictly increasing key order. -/
@[ext] structure SortedMap (κ α : Type) [LinearOrder κ] where
  entries : List (κ × α)
  sorted : (IndexMap.keys entries).Pairwise (· < ·)
deriving DecidableEq

namespace SortedMap

variable {κ α : Type} [LinearOrder κ]

def empty : SortedMap κ α := ⟨[], List.Pairwise.nil⟩

instance : EmptyCollection (SortedMap κ α) := ⟨empty⟩

instance : Inhabited (SortedMap κ α) := ⟨empty⟩

def keys (map : SortedMap κ α) : List κ := IndexMap.keys map.entries

def values (map : SortedMap κ α) : List α := map.entries.map Prod.snd

def size (map : SortedMap κ α) : Nat := map.entries.length

def get (map : SortedMap κ α) (key : κ) : Option α := IndexMap.get key map.entries

def contains (map : SortedMap κ α) (key : κ) : Bool := (map.get key).isSome

def insertEntry (key : κ) (value : α) : List (κ × α) → List (κ × α)
  | [] => [(key, value)]
  | entry :: rest =>
      if key < entry.1 then (key, value) :: entry :: rest
      else if key = entry.1 then (key, value) :: rest
      else entry :: insertEntry key value rest

theorem mem_keys_insertEntry {key other : κ} {value : α} {entries : List (κ × α)} :
    other ∈ IndexMap.keys (insertEntry key value entries) ↔
      other = key ∨ other ∈ IndexMap.keys entries := by
  induction entries with
  | nil => simp [insertEntry]
  | cons entry rest ih =>
      rw [insertEntry]
      split
      · simp
      · split
        · rename_i same
          simp [same]
        · rw [IndexMap.keys_cons, List.mem_cons, ih, IndexMap.keys_cons, List.mem_cons]
          tauto

theorem sorted_insertEntry (key : κ) (value : α) (entries : List (κ × α))
    (sorted : (IndexMap.keys entries).Pairwise (· < ·)) :
    (IndexMap.keys (insertEntry key value entries)).Pairwise (· < ·) := by
  induction entries with
  | nil => simp [insertEntry]
  | cons entry rest ih =>
      rw [IndexMap.keys_cons, List.pairwise_cons] at sorted
      rw [insertEntry]
      split
      · rename_i below
        rw [IndexMap.keys_cons, List.pairwise_cons, IndexMap.keys_cons, List.pairwise_cons]
        refine ⟨fun other member => ?_, sorted⟩
        rcases List.mem_cons.mp member with rfl | later
        · exact below
        · exact lt_trans below (sorted.1 other later)
      · rename_i notBelow
        split
        · rename_i same
          rw [IndexMap.keys_cons, List.pairwise_cons]
          subst same
          exact sorted
        · rename_i different
          have above : entry.1 < key := lt_of_le_of_ne (not_lt.mp notBelow) (Ne.symm different)
          rw [IndexMap.keys_cons, List.pairwise_cons]
          refine ⟨fun other member => ?_, ih sorted.2⟩
          rcases mem_keys_insertEntry.mp member with rfl | later
          · exact above
          · exact sorted.1 other later

/-- An insertion replaces the value of a present key and keeps the order of the keys. -/
def insert (map : SortedMap κ α) (key : κ) (value : α) : SortedMap κ α :=
  ⟨insertEntry key value map.entries, sorted_insertEntry key value map.entries map.sorted⟩

/-- A list of entries is collected from left to right, so that the last value of a key stays. -/
def ofList (entries : List (κ × α)) : SortedMap κ α :=
  entries.foldl (fun map entry => map.insert entry.1 entry.2) empty

/-- A key above all others goes to the end. -/
theorem insertEntry_of_above {key : κ} {value : α} {entries : List (κ × α)}
    (above : ∀ other ∈ IndexMap.keys entries, other < key) :
    insertEntry key value entries = entries ++ [(key, value)] := by
  induction entries with
  | nil => rfl
  | cons entry rest ih =>
      have first : entry.1 < key := above entry.1 List.mem_cons_self
      rw [insertEntry, if_neg (not_lt_of_gt first), if_neg (ne_of_gt first),
        ih fun other member => above other (List.mem_cons_of_mem _ member), List.cons_append]

theorem foldl_insert_entries (map : SortedMap κ α) (rest : List (κ × α))
    (sorted : (IndexMap.keys (map.entries ++ rest)).Pairwise (· < ·)) :
    (rest.foldl (fun map entry => map.insert entry.1 entry.2) map).entries = map.entries ++ rest := by
  induction rest generalizing map with
  | nil => simp
  | cons entry rest ih =>
      have above : ∀ other ∈ IndexMap.keys map.entries, other < entry.1 := by
        rw [IndexMap.keys, List.map_append, List.pairwise_append] at sorted
        exact fun other member => sorted.2.2 other member entry.1 List.mem_cons_self
      have inserted : (map.insert entry.1 entry.2).entries = map.entries ++ [entry] :=
        insertEntry_of_above above
      rw [List.foldl_cons, ih _ (by rw [inserted]; simpa using sorted), inserted,
        List.append_assoc, List.singleton_append]

/-- A sorted map is collected from its own entries. -/
theorem ofList_entries (map : SortedMap κ α) : ofList map.entries = map := by
  apply SortedMap.ext
  exact foldl_insert_entries empty map.entries map.sorted

@[simp] theorem get_empty (key : κ) : (∅ : SortedMap κ α).get key = none := rfl

@[simp] theorem get_mk_nil (key : κ) (sorted) :
    (SortedMap.mk ([] : List (κ × α)) sorted).get key = none := rfl

theorem get_insertEntry (key other : κ) (value : α) (entries : List (κ × α)) :
    IndexMap.get other (insertEntry key value entries) =
      if other = key then some value else IndexMap.get other entries := by
  induction entries with
  | nil =>
      rw [insertEntry, IndexMap.get_cons]
      by_cases same : other = key
      · simp [same]
      · simp [same, Ne.symm same]
  | cons entry rest ih =>
      rw [insertEntry]
      split
      · by_cases same : other = key
        · simp [IndexMap.get_cons, same]
        · simp [IndexMap.get_cons, same, Ne.symm same]
      · split
        · rename_i equal
          subst equal
          by_cases same : other = entry.1
          · simp [IndexMap.get_cons, same]
          · simp [IndexMap.get_cons, same, Ne.symm same]
        · rename_i different
          rw [IndexMap.get_cons, ih, IndexMap.get_cons]
          by_cases same : other = key
          · subst same
            simp [Ne.symm different]
          · simp [same]

/-- The other entries stay as they are, and in their order. -/
theorem filter_insertEntry (key : κ) (value : α) (entries : List (κ × α)) :
    (insertEntry key value entries).filter (fun entry => entry.1 ≠ key) =
      entries.filter fun entry => entry.1 ≠ key := by
  induction entries with
  | nil => simp [insertEntry]
  | cons entry rest ih =>
      rw [insertEntry]
      split
      · simp
      · split
        · rename_i same
          simp [same]
        · rw [List.filter_cons, List.filter_cons, ih]

@[simp] theorem get_insert (map : SortedMap κ α) (key other : κ) (value : α) :
    (map.insert key value).get other = if other = key then some value else map.get other :=
  get_insertEntry key other value map.entries

theorem mem_keys_iff (map : SortedMap κ α) (key : κ) :
    key ∈ map.keys ↔ ∃ value, map.get key = some value := by
  rw [← Option.isSome_iff_exists, Option.isSome_iff_ne_none, ne_eq, get,
    IndexMap.get_eq_none_iff, not_not, keys]

theorem nodup_keys (map : SortedMap κ α) : map.keys.Nodup :=
  map.sorted.imp ne_of_lt

theorem get_of_mem {map : SortedMap κ α} {key : κ} {value : α}
    (member : (key, value) ∈ map.entries) : map.get key = some value :=
  IndexMap.get_of_mem map.nodup_keys member

theorem mem_entries_iff {map : SortedMap κ α} {key : κ} {value : α} :
    (key, value) ∈ map.entries ↔ map.get key = some value :=
  ⟨get_of_mem, IndexMap.mem_of_get⟩

theorem contains_iff {map : SortedMap κ α} {key : κ} :
    map.contains key = true ↔ key ∈ map.keys := by
  rw [contains, Option.isSome_iff_exists, mem_keys_iff]

@[simp] theorem mem_keys_insert {map : SortedMap κ α} {key other : κ} {value : α} :
    other ∈ (map.insert key value).keys ↔ other = key ∨ other ∈ map.keys :=
  mem_keys_insertEntry

/-- A map has as many entries as keys. -/
theorem size_eq_card (map : SortedMap κ α) : map.size = map.keys.toFinset.card := by
  rw [List.toFinset_card_of_nodup map.nodup_keys, keys, IndexMap.keys, List.length_map, size]

theorem get_foldl_insert (map : SortedMap κ α) (entries : List (κ × α))
    (distinct : (IndexMap.keys entries).Nodup) (key : κ) :
    (entries.foldl (fun map entry => map.insert entry.1 entry.2) map).get key =
      (IndexMap.get key entries).or (map.get key) := by
  induction entries generalizing map with
  | nil => simp
  | cons entry rest ih =>
      rw [IndexMap.keys_cons, List.nodup_cons] at distinct
      rw [List.foldl_cons, ih (map.insert entry.1 entry.2) distinct.2, get_insert, IndexMap.get_cons]
      by_cases same : entry.1 = key
      · subst same
        rw [IndexMap.get_eq_none_iff.mpr distinct.1]
        simp
      · simp [same, Ne.symm same]

theorem get_ofList {entries : List (κ × α)} (distinct : (IndexMap.keys entries).Nodup) (key : κ) :
    (ofList entries).get key = IndexMap.get key entries := by
  have found := get_foldl_insert ∅ entries distinct key
  rwa [get_empty, Option.or_none] at found

/-- A map is what its lookups find. -/
theorem eq_of_get {first second : SortedMap κ α}
    (same : ∀ key, first.get key = second.get key) : first = second := by
  have distinct (map : SortedMap κ α) : map.entries.Nodup := .of_map Prod.fst map.nodup_keys
  have ordered (map : SortedMap κ α) : map.entries.Pairwise fun entry other => entry.1 < other.1 :=
    List.pairwise_map.mp map.sorted
  have entries : first.entries.Perm second.entries := by
    rw [List.perm_ext_iff_of_nodup (distinct first) (distinct second)]
    intro entry
    rw [show entry = (entry.1, entry.2) from rfl, mem_entries_iff, mem_entries_iff, same]
  apply SortedMap.ext
  apply List.Perm.eq_of_pairwise ?_ (ordered first) (ordered second) entries
  intro entry other _ _ below above
  exact absurd (lt_trans below above) (lt_irrefl _)

section MapValues

variable {β : Type} (transform : α → β)

/-- This map transforms the values and keeps the keys. -/
def mapValues (map : SortedMap κ α) : SortedMap κ β where
  entries := IndexMap.mapValues transform map.entries
  sorted := by
    rw [IndexMap.keys_mapValues]
    exact map.sorted

theorem keys_mapValues (map : SortedMap κ α) : (map.mapValues transform).keys = map.keys :=
  IndexMap.keys_mapValues transform map.entries

theorem values_mapValues (map : SortedMap κ α) :
    (map.mapValues transform).values = map.values.map transform := by
  change (map.entries.map _).map Prod.snd = (map.entries.map Prod.snd).map transform
  rw [List.map_map, List.map_map]
  rfl

theorem get_mapValues (map : SortedMap κ α) (key : κ) :
    (map.mapValues transform).get key = (map.get key).map transform :=
  IndexMap.get_mapValues transform key map.entries

end MapValues

end SortedMap
