import RustMist.Library.Interleaving
import RustMist.Library.IndexMap

/-! Tables of computed results that several threads read and fill. -/

namespace Effects.Memo

open Program

variable {κ ω ν α β : Type}

/-- A thread reads the result at a key for the source at hand, or keeps a new result. -/
inductive Op (κ ω ν : Type) where
  | read (key : κ) (source : ω)
  | insert (key : κ) (result : ν)

/-- A read may find no result. -/
abbrev signature (κ ω ν : Type) : Signature where
  Op := Op κ ω ν
  Answer
    | .read _ _ => Option ν
    | .insert _ _ => Unit

/-- A missing result is computed from the source and kept; a failure is not kept. -/
def fetch (compute : ω → Option ν) (key : κ) (source : ω) :
    Program (signature κ ω ν) (Option ν) :=
  .perform (.read key source) fun
    | some found => .pure (some found)
    | none =>
        match compute source with
        | none => .pure none
        | some result => .perform (.insert key result) fun _ => .pure (some result)

section Table

variable [DecidableEq κ]

/-- A kept result is never replaced. -/
def keep (key : κ) (result : ν) (table : List (κ × ν)) : List (κ × ν) :=
  match IndexMap.get key table with
  | some _ => table
  | none => IndexMap.insert key result table

/-- The table answers a read by its key alone. -/
abbrev world (κ ω ν : Type) [DecidableEq κ] : World (signature κ ω ν) where
  State := List (κ × ν)
  Step table op answer table' :=
    match op, answer with
    | .read key _, found => found = IndexMap.get key table ∧ table' = table
    | .insert key result, _ => table' = keep key result table

theorem get_keep (key other : κ) (result : ν) (table : List (κ × ν)) :
    IndexMap.get other (keep key result table) =
      (IndexMap.get other table).or (if other = key then some result else none) := by
  unfold keep
  split
  · rename_i kept found
    by_cases same : other = key
    · rw [same, found, Option.some_or]
    · rw [if_neg same, Option.or_none]
  · rename_i missing
    rw [IndexMap.get_insert]
    by_cases same : other = key
    · rw [if_pos same, if_pos same, same, missing, Option.none_or]
    · rw [if_neg same, if_neg same, Option.or_none]

/-- A result stays at its key. -/
theorem kept {table table' : (world κ ω ν).State} {history : History (signature κ ω ν)}
    (answered : (world κ ω ν).Answers table history table') {key : κ} {result : ν}
    (found : IndexMap.get key table = some result) : IndexMap.get key table' = some result := by
  induction answered with
  | nil state => exact found
  | @cons first second third op answer history step later ih =>
      apply ih
      cases op with
      | read other source =>
          obtain ⟨-, rfl⟩ := step
          exact found
      | insert other result' =>
          obtain rfl : second = keep other result' first := step
          rw [get_keep, found, Option.some_or]

end Table

section Soundness

variable (origin : ν → ω)

/-- A read that finds a result finds a result of its own source. -/
def Sound (event : Event (signature κ ω ν)) : Prop :=
  match event with
  | ⟨.read _ source, answer⟩ => ∀ found, answer = some found → origin found = source
  | ⟨.insert _ _, _⟩ => True

def AllSound (past : History (signature κ ω ν)) : Prop := ∀ event ∈ past, Sound origin event

/-- As long as all reads are sound, the guard holds of each operation and the result is the
specified one. -/
def Meets (guard : Op κ ω ν → Prop) (program : Program (signature κ ω ν) α) (spec : α) : Prop :=
  ∀ past, program.Ensures (fun past op => AllSound origin past → guard op)
    (fun past value => AllSound origin past → value = spec) past

/-- The table assigns one source to the key of each operation. -/
def Assigned (assign : κ → Option ω) : Op κ ω ν → Prop
  | .read key source => assign key = some source
  | .insert key result => assign key = some (origin result)

variable {origin} {guard : Op κ ω ν → Prop}

theorem AllSound.left {early late : History (signature κ ω ν)}
    (sound : AllSound origin (early ++ late)) : AllSound origin early :=
  fun event member => sound event (List.mem_append_left late member)

theorem AllSound.right {early late : History (signature κ ω ν)}
    (sound : AllSound origin (early ++ late)) : AllSound origin late :=
  fun event member => sound event (List.mem_append_right early member)

/-- Nothing is asked of a program after an unsound read. -/
theorem ensures_of_unsound {program : Program (signature κ ω ν) α} {spec : α}
    {past : History (signature κ ω ν)} (unsound : ¬AllSound origin past) :
    program.Ensures (fun past op => AllSound origin past → guard op)
      (fun past value => AllSound origin past → value = spec) past := by
  induction program generalizing past with
  | pure value => exact fun sound => absurd sound unsound
  | perform op next ih =>
      exact ⟨fun sound => absurd sound unsound,
        fun answer => ih answer fun sound => unsound sound.left⟩

theorem Meets.pure (value : α) : Meets origin guard (Program.pure value) value :=
  fun _ _ => rfl

/-- The second part meets its specification on the specified result of the first. -/
theorem Meets.bind {program : Program (signature κ ω ν) α}
    {continue' : α → Program (signature κ ω ν) β} {spec : α} {spec' : β}
    (first : Meets origin guard program spec)
    (second : Meets origin guard (continue' spec) spec') :
    Meets origin guard (program >>= continue') spec' := by
  intro past
  apply (first past).bind
  intro history value reached
  by_cases sound : AllSound origin (past ++ history)
  · rw [reached sound]
    exact second _
  · exact ensures_of_unsound sound

/-- A run with sound reads returns the specified result. -/
theorem Meets.returned {program : Program (signature κ ω ν) α} {spec value : α}
    {history : History (signature κ ω ν)} (meets : Meets origin guard program spec)
    (run : Completes program history value) (sound : AllSound origin history) : value = spec :=
  (meets []).returned run sound

variable {compute : ω → Option ν}

/-- A fetched result is the computed one. -/
theorem fetch_meets (law : ∀ source result, compute source = some result ↔ origin result = source)
    {key : κ} {source : ω} (read : guard (.read key source))
    (insert : ∀ result, origin result = source → guard (.insert key result)) :
    Meets origin guard (fetch compute key source) (compute source) := by
  intro past
  refine ⟨fun _ => read, fun answer => ?_⟩
  cases answer with
  | some found =>
      intro sound
      have own : Sound origin (⟨.read key source, some found⟩ : Event (signature κ ω ν)) :=
        sound _ (List.mem_append_right past List.mem_cons_self)
      exact ((law source found).mpr (own found rfl)).symm
  | none =>
      cases computed : compute source with
      | none =>
          exact fun _ => rfl
      | some result =>
          exact ⟨fun _ => insert result ((law source result).mp computed), fun _ _ => rfl⟩

section Table

variable [DecidableEq κ]

/-- A completed fetch leaves a result of its source in the table. -/
theorem fetch_leaves
    (law : ∀ source result, compute source = some result ↔ origin result = source)
    {key : κ} {source : ω} {table table' : (world κ ω ν).State} {history : History (signature κ ω ν)}
    {result : ν} (run : Completes (fetch compute key source) history (some result))
    (answered : (world κ ω ν).Answers table history table') (sound : AllSound origin history) :
    ∃ found, IndexMap.get key table' = some found ∧ origin found = source := by
  obtain ⟨answer, later, rfl, passed⟩ := (completes_perform_iff _ _ _ _).mp run
  cases answered with
  | cons step answered =>
      obtain ⟨here, rfl⟩ := step
      cases answer with
      | some found =>
          have own := sound ⟨.read key source, some found⟩ List.mem_cons_self
          exact ⟨found, kept answered here.symm, own found rfl⟩
      | none =>
          cases computed : compute source with
          | none =>
              simp only [computed] at passed
              exact absurd ((completes_pure_iff _ _ _).mp passed).2 nofun
          | some fresh =>
              simp only [computed] at passed
              obtain ⟨_, rest, rfl, -⟩ := (completes_perform_iff _ _ _ _).mp passed
              cases answered with
              | cons step answered =>
                  rename_i middle
                  obtain rfl : middle = keep key fresh _ := step
                  refine ⟨fresh, kept answered ?_, (law source fresh).mp computed⟩
                  rw [get_keep, ← here, Option.none_or, if_pos rfl]

/-- A fetch of a key with a result reads the result. -/
theorem fetch_reads {key : κ} {source : ω} {table table' : (world κ ω ν).State}
    {history : History (signature κ ω ν)} {found : ν} {result : Option ν}
    (run : Completes (fetch compute key source) history result)
    (answered : (world κ ω ν).Answers table history table') (sound : AllSound origin history)
    (here : IndexMap.get key table = some found) : origin found = source := by
  obtain ⟨answer, later, rfl, -⟩ := (completes_perform_iff _ _ _ _).mp run
  cases answered with
  | cons step answered =>
      obtain ⟨read, -⟩ := step
      have own := sound ⟨.read key source, answer⟩ List.mem_cons_self
      exact own found (read.trans here)

/-- A table drives a program to its end. -/
def execute : Program (signature κ ω ν) α → List (κ × ν) → α × List (κ × ν)
  | .pure value, table => (value, table)
  | .perform (.read key _) next, table => execute (next (IndexMap.get key table)) table
  | .perform (.insert key result) next, table => execute (next ()) (keep key result table)

theorem execute_completes (program : Program (signature κ ω ν) α) (table : List (κ × ν)) :
    ∃ history, Completes program history (execute program table).1 ∧
      (world κ ω ν).Answers table history (execute program table).2 := by
  induction program generalizing table with
  | pure value => exact ⟨[], .start _, .nil _⟩
  | perform op next ih =>
      cases op with
      | read key source =>
          obtain ⟨history, run, answered⟩ := ih (IndexMap.get key table) table
          exact ⟨_, .step _ next _ run, .cons ⟨rfl, rfl⟩ answered⟩
      | insert key result =>
          obtain ⟨history, run, answered⟩ := ih () (keep key result table)
          exact ⟨_, .step _ next () run, .cons rfl answered⟩

/-- One source for each key makes all reads of all threads sound. -/
theorem sound_of_assigned {ι : Type} [DecidableEq ι] {assign : κ → Option ω}
    {threads pool : ι → Program (signature κ ω ν) α} {spec : ι → α}
    (meets : ∀ thread, Meets origin (Assigned origin assign) (threads thread) (spec thread))
    {trace : Trace ι (signature κ ω ν)} {table : List (κ × ν)}
    (run : Interleaved (world κ ω ν) threads [] trace pool table) : ∀ entry ∈ trace, Sound origin entry.2 := by
  let keeps (trace : Trace ι (signature κ ω ν)) (table : List (κ × ν)) : Prop :=
    (∀ entry ∈ trace, Sound origin entry.2) ∧
      ∀ key found, IndexMap.get key table = some found → assign key = some (origin found)
  suffices invariant : keeps trace table from invariant.1
  refine run.invariant (fun thread => meets thread []) ⟨nofun, nofun⟩ ?_
  intro trace table table' thread op answer known guarded step
  obtain ⟨sound, entries⟩ := known
  have assigned : Assigned origin assign op := by
    apply guarded
    intro event member
    exact sound _ (Trace.mem_ofThread.mp member)
  have extended (own : Sound origin ⟨op, answer⟩) :
      ∀ entry ∈ trace ++ [(thread, (⟨op, answer⟩ : Event (signature κ ω ν)))],
        Sound origin entry.2 := by
    intro entry member
    rcases List.mem_append.mp member with earlier | last
    · exact sound entry earlier
    · rw [List.mem_singleton.mp last]
      exact own
  cases op with
  | read key source =>
      obtain ⟨here, rfl⟩ := step
      refine ⟨extended fun found read => ?_, entries⟩
      have same := entries key found (here.symm.trans read)
      exact Option.some.inj (same.symm.trans assigned)
  | insert key result =>
      obtain rfl : table' = keep key result table := step
      refine ⟨extended trivial, fun other found here => ?_⟩
      rw [get_keep, Option.or_eq_some_iff] at here
      rcases here with old | ⟨-, new⟩
      · exact entries other found old
      · by_cases same : other = key
        · rw [if_pos same] at new
          rw [same, ← Option.some.inj new]
          exact assigned
        · rw [if_neg same] at new
          cases new

end Table

end Soundness

end Effects.Memo
