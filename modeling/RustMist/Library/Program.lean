import Mathlib.Tactic.Common

namespace Effects

/-- A signature lists the operations of a program and the type of each answer. -/
structure Signature where
  Op : Type
  Answer : Op → Type

/-- An event is one performed operation together with its answer. -/
structure Event (S : Signature) where
  op : S.Op
  answer : S.Answer op

/-- A history lists the events of one run, the oldest first. -/
abbrev History (S : Signature) := List (Event S)

/-- A program either returns or performs an operation and waits for the answer. -/
inductive Program (S : Signature) (α : Type) where
  | pure (value : α)
  | perform (op : S.Op) (next : S.Answer op → Program S α)

namespace Program

variable {S : Signature} {α β : Type}

def bind (program : Program S α) (continue' : α → Program S β) : Program S β :=
  match program with
  | .pure value => continue' value
  | .perform op next => .perform op fun answer => (next answer).bind continue'

instance : Monad (Program S) where
  pure := .pure
  bind := .bind

/-- This program performs one operation and returns its answer. -/
def ask (op : S.Op) : Program S (S.Answer op) := .perform op .pure

@[simp] theorem pure_eq (value : α) : (Pure.pure value : Program S α) = .pure value := rfl

@[simp] theorem pure_bind (value : α) (continue' : α → Program S β) :
    (Program.pure value >>= continue') = continue' value := rfl

@[simp] theorem perform_bind (op : S.Op) (next : S.Answer op → Program S α)
    (continue' : α → Program S β) :
    (Program.perform op next >>= continue') =
      .perform op fun answer => next answer >>= continue' := rfl

@[simp] theorem ask_bind (op : S.Op) (continue' : S.Answer op → Program S β) :
    (ask op >>= continue') = .perform op continue' := rfl

/-- A run reads a history off a program and leaves the program that remains. -/
inductive Run : Program S α → History S → Program S α → Prop where
  | start (program : Program S α) : Run program [] program
  | step (op : S.Op) (next : S.Answer op → Program S α) (answer : S.Answer op)
      {history : History S} {rest : Program S α} (later : Run (next answer) history rest) :
      Run (.perform op next) (⟨op, answer⟩ :: history) rest

/-- A completed run ends in a returned value. -/
abbrev Completes (program : Program S α) (history : History S) (value : α) : Prop :=
  Run program history (.pure value)

theorem run_pure_iff (value : α) (history : History S) (rest : Program S α) :
    Run (.pure value) history rest ↔ history = [] ∧ rest = .pure value := by
  constructor
  · rintro ⟨⟩
    exact ⟨rfl, rfl⟩
  · rintro ⟨rfl, rfl⟩
    exact .start _

theorem run_perform_iff (op : S.Op) (next : S.Answer op → Program S α)
    (history : History S) (rest : Program S α) :
    Run (.perform op next) history rest ↔
      (history = [] ∧ rest = .perform op next) ∨
        ∃ answer later, history = ⟨op, answer⟩ :: later ∧ Run (next answer) later rest := by
  constructor
  · rintro (⟨⟩ | ⟨_, _, answer, later⟩)
    · exact .inl ⟨rfl, rfl⟩
    · exact .inr ⟨answer, _, rfl, later⟩
  · rintro (⟨rfl, rfl⟩ | ⟨answer, later, rfl, run⟩)
    · exact .start _
    · exact .step op next answer run

@[simp] theorem completes_pure_iff (value result : α) (history : History S) :
    Completes (.pure value) history result ↔ history = [] ∧ result = value := by
  rw [Completes, run_pure_iff]
  constructor
  · rintro ⟨empty, same⟩
    exact ⟨empty, (Program.pure.inj same)⟩
  · rintro ⟨empty, rfl⟩
    exact ⟨empty, rfl⟩

@[simp] theorem completes_perform_iff (op : S.Op) (next : S.Answer op → Program S α)
    (history : History S) (result : α) :
    Completes (.perform op next) history result ↔
      ∃ answer later, history = ⟨op, answer⟩ :: later ∧ Completes (next answer) later result := by
  rw [Completes, run_perform_iff]
  constructor
  · rintro (⟨_, same⟩ | found)
    · cases same
    · exact found
  · exact .inr

/-- A run of a sequence stops inside the first part or completes it. -/
theorem run_bind_iff (program : Program S α) (continue' : α → Program S β)
    (history : History S) (rest : Program S β) :
    Run (program >>= continue') history rest ↔
      (∃ inner, Run program history inner ∧ rest = inner >>= continue') ∨
        ∃ value first second, history = first ++ second ∧
          Completes program first value ∧ Run (continue' value) second rest := by
  induction program generalizing history with
  | pure value =>
      constructor
      · intro run
        exact .inr ⟨value, [], history, rfl, .start _, run⟩
      · rintro (⟨inner, run, rfl⟩ | ⟨value', first, second, rfl, done, run⟩)
        · obtain ⟨rfl, rfl⟩ := (run_pure_iff _ _ _).mp run
          exact .start _
        · obtain ⟨rfl, rfl⟩ := (completes_pure_iff _ _ _).mp done
          exact run
  | perform op next ih =>
      rw [perform_bind, run_perform_iff]
      constructor
      · rintro (⟨rfl, rfl⟩ | ⟨answer, later, rfl, run⟩)
        · exact .inl ⟨.perform op next, .start _, rfl⟩
        · rcases (ih answer later).mp run with
            ⟨inner, early, rfl⟩ | ⟨value, first, second, rfl, done, late⟩
          · exact .inl ⟨inner, .step op next answer early, rfl⟩
          · exact .inr ⟨value, _ :: first, second, rfl, .step op next answer done, late⟩
      · rintro (⟨inner, run, rfl⟩ | ⟨value, first, second, rfl, done, run⟩)
        · rcases (run_perform_iff _ _ _ _).mp run with ⟨rfl, rfl⟩ | ⟨answer, later, rfl, early⟩
          · exact .inl ⟨rfl, rfl⟩
          · exact .inr ⟨answer, later, rfl, (ih answer later).mpr (.inl ⟨inner, early, rfl⟩)⟩
        · obtain ⟨answer, later, rfl, early⟩ := (completes_perform_iff _ _ _ _).mp done
          exact .inr ⟨answer, later ++ second, rfl,
            (ih answer _).mpr (.inr ⟨value, later, second, rfl, early, run⟩)⟩

/-- A completed sequence completes each part in turn. -/
theorem completes_bind_iff (program : Program S α) (continue' : α → Program S β)
    (history : History S) (result : β) :
    Completes (program >>= continue') history result ↔
      ∃ value first second, history = first ++ second ∧
        Completes program first value ∧ Completes (continue' value) second result := by
  rw [Completes, run_bind_iff]
  constructor
  · rintro (⟨inner, run, same⟩ | found)
    · cases inner with
      | pure value =>
          refine ⟨value, history, [], by simp, run, ?_⟩
          rw [pure_bind] at same
          rw [← same]
          exact .start _
      | perform op next => cases same
    · exact found
  · exact .inr

theorem completes_ask_iff (op : S.Op) (continue' : S.Answer op → Program S β)
    (history : History S) (result : β) :
    Completes (ask op >>= continue') history result ↔ ∃ answer later,
      history = ⟨op, answer⟩ :: later ∧ Completes (continue' answer) later result :=
  completes_perform_iff op continue' history result

theorem completes_ask_cons_iff {op : S.Op} {continue' : S.Answer op → Program S β}
    {answer : S.Answer op} {later : History S} {result : β} :
    Completes (ask op >>= continue') (⟨op, answer⟩ :: later) result ↔
      Completes (continue' answer) later result := by
  rw [completes_ask_iff]
  constructor
  · rintro ⟨answer', later', same, run⟩
    obtain ⟨event, rfl⟩ := List.cons.inj same
    obtain rfl : answer = answer' := by
      cases event
      rfl
    exact run
  · exact fun run => ⟨answer, later, rfl, run⟩

/-- Runs compose. -/
theorem Run.trans {first second third : Program S α} {early late : History S}
    (before : Run first early second) (after : Run second late third) :
    Run first (early ++ late) third := by
  induction before with
  | start _ => exact after
  | step op next answer _ ih => exact .step op next answer (ih after)

/-- An answered operation leads to the rest of the program. -/
theorem Run.answered {op : S.Op} {continue' : S.Answer op → Program S β} {answer : S.Answer op}
    {later : History S} {rest : Program S β} (run : Run (continue' answer) later rest) :
    Run (ask op >>= continue') (⟨op, answer⟩ :: later) rest :=
  .step op continue' answer run

theorem Run.bind {program : Program S α} {continue' : α → Program S β} {value : α}
    {first second : History S} {rest : Program S β} (done : Completes program first value)
    (run : Run (continue' value) second rest) :
    Run (program >>= continue') (first ++ second) rest :=
  (run_bind_iff _ _ _ _).mpr (.inr ⟨value, first, second, rfl, done, run⟩)

/-- A run over a joined history passes through the program at the joint. -/
theorem Run.split {first third : Program S α} {early late : History S}
    (run : Run first (early ++ late) third) :
    ∃ second, Run first early second ∧ Run second late third := by
  induction early generalizing first with
  | nil => exact ⟨first, .start _, run⟩
  | cons event early ih =>
      cases run with
      | step op next answer later =>
          obtain ⟨second, before, after⟩ := ih later
          exact ⟨second, .step op next answer before, after⟩

/-- The program before an event waits for that event's operation. -/
theorem Run.at_event {first last : Program S α} {before after : History S} {event : Event S}
    (run : Run first (before ++ event :: after) last) :
    ∃ next, Run first before (.perform event.op next) ∧ Run (next event.answer) after last := by
  obtain ⟨second, early, late⟩ := run.split
  cases late with
  | step op next answer later => exact ⟨next, early, later⟩

/-- Two completed runs that start one history are the same run. -/
theorem completes_unique {program : Program S α} {first first' second second' : History S}
    {value value' : α} (run : Completes program first value)
    (run' : Completes program first' value') (same : first ++ second = first' ++ second') :
    first = first' ∧ value = value' := by
  induction program generalizing first first' with
  | pure result =>
      obtain ⟨rfl, rfl⟩ := (completes_pure_iff _ _ _).mp run
      obtain ⟨rfl, rfl⟩ := (completes_pure_iff _ _ _).mp run'
      exact ⟨rfl, rfl⟩
  | perform op next ih =>
      obtain ⟨answer, later, rfl, more⟩ := (completes_perform_iff _ _ _ _).mp run
      obtain ⟨answer', later', rfl, more'⟩ := (completes_perform_iff _ _ _ _).mp run'
      rw [List.cons_append, List.cons_append, List.cons.injEq] at same
      obtain ⟨event, tail⟩ := same
      obtain rfl : answer = answer' := by
        cases event
        rfl
      obtain ⟨rfl, rfl⟩ := ih answer more more' tail
      exact ⟨rfl, rfl⟩

section Seek

/-- A run that meets an event of another operation passes the first operation. -/
theorem Run.seek_perform {op : S.Op} {next : S.Answer op → Program S α} {rest : Program S α}
    {before after : History S} {event : Event S}
    (run : Run (.perform op next) (before ++ event :: after) rest) (other : event.op ≠ op) :
    ∃ answer before', before = ⟨op, answer⟩ :: before' ∧
      Run (next answer) (before' ++ event :: after) rest := by
  cases before with
  | nil =>
      cases run with
      | step op next answer later => exact absurd rfl other
  | cons first before =>
      cases run with
      | step op next answer later => exact ⟨answer, before, rfl, later⟩

theorem Run.seek_ask {op : S.Op} {continue' : S.Answer op → Program S α} {rest : Program S α}
    {before after : History S} {event : Event S}
    (run : Run (ask op >>= continue') (before ++ event :: after) rest) (other : event.op ≠ op) :
    ∃ answer before', before = ⟨op, answer⟩ :: before' ∧
      Run (continue' answer) (before' ++ event :: after) rest :=
  Run.seek_perform run other

/-- A run that meets an event which the first part never performs completes the first part. -/
theorem Run.seek_bind {program : Program S α} {continue' : α → Program S β} {rest : Program S β}
    {before after : History S} {event : Event S}
    (run : Run (program >>= continue') (before ++ event :: after) rest)
    (absent : ∀ history rest, Run program history rest → event ∉ history) :
    ∃ value first second, before = first ++ second ∧ Completes program first value ∧
      Run (continue' value) (second ++ event :: after) rest := by
  rcases (run_bind_iff _ _ _ _).mp run with ⟨inner, early, _⟩ | ⟨value, first, second, same, done, late⟩
  · exact absurd (by simp) (absent _ _ early)
  · rcases List.append_eq_append_iff.mp same with ⟨more, rfl, tail⟩ | ⟨more, rfl, rfl⟩
    · cases more with
      | nil =>
          rw [List.nil_append] at tail
          subst tail
          exact ⟨value, before, [], by simp, by simpa using done, late⟩
      | cons symbol more =>
          obtain ⟨rfl, _⟩ := List.cons.inj tail
          exact absurd (by simp) (absent _ _ done)
    · exact ⟨value, first, more, rfl, done, late⟩

theorem Run.seek_pure {value : α} {rest : Program S α} {before after : History S}
    {event : Event S} (run : Run (.pure value) (before ++ event :: after) rest) : False := by
  have empty := ((run_pure_iff _ _ _).mp run).1
  simp at empty

end Seek

section Ensures

/-- The guard holds whenever an operation is performed, the goal whenever a value is returned. -/
def Ensures (guard : History S → S.Op → Prop) (goal : History S → α → Prop) :
    Program S α → History S → Prop
  | .pure value, past => goal past value
  | .perform op next, past =>
      guard past op ∧ ∀ answer, (next answer).Ensures guard goal (past ++ [⟨op, answer⟩])

variable {guard guard' : History S → S.Op → Prop} {goal goal' : History S → α → Prop}

@[simp] theorem ensures_pure_iff {value : α} {past : History S} :
    (Program.pure value).Ensures guard goal past ↔ goal past value := Iff.rfl

theorem ensures_perform_iff {op : S.Op} {next : S.Answer op → Program S α} {past : History S} :
    (Program.perform op next).Ensures guard goal past ↔
      guard past op ∧ ∀ answer, (next answer).Ensures guard goal (past ++ [⟨op, answer⟩]) := Iff.rfl

theorem ensures_ask_iff {op : S.Op} {continue' : S.Answer op → Program S α} {past : History S} :
    (ask op >>= continue').Ensures guard goal past ↔
      guard past op ∧ ∀ answer, (continue' answer).Ensures guard goal (past ++ [⟨op, answer⟩]) :=
  Iff.rfl

/-- Weaker guards and goals are kept. -/
theorem Ensures.mono {program : Program S α} {past : History S}
    (ensures : program.Ensures guard goal past)
    (weaker : ∀ history op, guard (past ++ history) op → guard' (past ++ history) op)
    (implied : ∀ history value, goal (past ++ history) value → goal' (past ++ history) value) :
    program.Ensures guard' goal' past := by
  induction program generalizing past with
  | pure value => simpa using implied [] value (by simpa using ensures)
  | perform op next ih =>
      refine ⟨by simpa using weaker [] op (by simpa using ensures.1), fun answer => ?_⟩
      refine ih answer (ensures.2 answer) (fun history op' => ?_) (fun history value => ?_)
      · simpa using weaker (⟨op, answer⟩ :: history) op'
      · simpa using implied (⟨op, answer⟩ :: history) value

/-- Two guards that are both kept are kept together. -/
theorem Ensures.both {program : Program S α} {past : History S}
    (first : program.Ensures guard goal past) (second : program.Ensures guard' goal' past) :
    program.Ensures (fun past op => guard past op ∧ guard' past op)
      (fun past value => goal past value ∧ goal' past value) past := by
  induction program generalizing past with
  | pure value => exact ⟨first, second⟩
  | perform op next ih =>
      exact ⟨⟨first.1, second.1⟩, fun answer => ih answer (first.2 answer) (second.2 answer)⟩

/-- The goal of the first part is what the second part may start from. -/
theorem Ensures.bind {program : Program S α} {continue' : α → Program S β} {past : History S}
    {final : History S → β → Prop} (first : program.Ensures guard goal past)
    (second : ∀ history value, goal (past ++ history) value →
      (continue' value).Ensures guard final (past ++ history)) :
    (program >>= continue').Ensures guard final past := by
  induction program generalizing past with
  | pure value => simpa using second [] value (by simpa using first)
  | perform op next ih =>
      refine ⟨first.1, fun answer => ih answer (first.2 answer) fun history value reached => ?_⟩
      simpa using second (⟨op, answer⟩ :: history) value (by simpa using reached)

/-- What is returned is returned by a completed run on the program's own events. -/
theorem Ensures.completes {program : Program S α} {past : History S}
    (ensures : program.Ensures guard goal past) :
    program.Ensures guard (fun history value => goal history value ∧
      ∃ own, history = past ++ own ∧ Completes program own value) past := by
  induction program generalizing past with
  | pure value => exact ⟨ensures, [], by simp, .start _⟩
  | perform op next ih =>
      refine ⟨ensures.1, fun answer => ?_⟩
      refine (ih answer (ensures.2 answer)).mono (fun _ _ => id) fun history value reached => ?_
      obtain ⟨met, own, same, run⟩ := reached
      exact ⟨met, ⟨op, answer⟩ :: own, by simpa using same, .step op next answer run⟩

/-- Every operation of every run meets the guard. -/
theorem Ensures.guard_run {program rest : Program S α} {past history : History S}
    (ensures : program.Ensures guard goal past) (run : Run program history rest) :
    rest.Ensures guard goal (past ++ history) := by
  induction run generalizing past with
  | start _ => simpa using ensures
  | step op next answer _ ih => simpa using ih (ensures.2 answer)

/-- Every event of every run meets the guard on the events before it. -/
theorem Ensures.event {program rest : Program S α} {before after : History S} {event : Event S}
    (ensures : program.Ensures guard goal [])
    (run : Run program (before ++ event :: after) rest) : guard before event.op := by
  obtain ⟨next, early, _⟩ := run.at_event
  simpa using (ensures.guard_run early).1

/-- What a guard says of an operation alone holds of every event of every run. -/
theorem Ensures.event_mem {guard : S.Op → Prop} {goal : History S → α → Prop}
    {program rest : Program S α} {past history : History S} {event : Event S}
    (ensures : program.Ensures (fun _ op => guard op) goal past) (run : Run program history rest)
    (member : event ∈ history) : guard event.op := by
  obtain ⟨before, after, rfl⟩ := List.append_of_mem member
  obtain ⟨next, early, _⟩ := run.at_event
  exact (ensures.guard_run early).1

/-- Every returned value meets the goal on the events of its run. -/
theorem Ensures.returned {program : Program S α} {history : History S} {value : α}
    (ensures : program.Ensures guard goal []) (run : Completes program history value) :
    goal history value := by
  simpa using ensures.guard_run run

/-- A program ensures a guard and a goal when all its runs do. -/
theorem ensures_of_runs {program : Program S α} {past : History S}
    (operations : ∀ history op next, Run program history (.perform op next) →
      guard (past ++ history) op)
    (returns : ∀ history value, Completes program history value → goal (past ++ history) value) :
    program.Ensures guard goal past := by
  induction program generalizing past with
  | pure value => simpa using returns [] value (.start _)
  | perform op next ih =>
      refine ⟨by simpa using operations [] op next (.start _), fun answer => ih answer ?_ ?_⟩
      · intro history op' next' run
        simpa using operations _ op' next' (.step op next answer run)
      · intro history value run
        simpa using returns _ value (.step op next answer run)

/-- What is performed and what is returned comes at the end of a run on the program's own events. -/
theorem Ensures.along {program : Program S α} {past : History S}
    (ensures : program.Ensures guard goal past) :
    program.Ensures
      (fun history op => guard history op ∧
        ∃ own next, history = past ++ own ∧ Run program own (.perform op next))
      (fun history value => goal history value ∧
        ∃ own, history = past ++ own ∧ Completes program own value) past :=
  ensures.both (ensures_of_runs (fun own _ next run => ⟨own, next, rfl, run⟩)
    fun own _ run => ⟨own, rfl, run⟩)

end Ensures

end Program

end Effects
