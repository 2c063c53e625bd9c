import RustMist.Library.Program
import Mathlib.Logic.Function.Basic

namespace Effects

open Program

/-- A world answers operations and keeps the state that the threads share. -/
structure World (S : Signature) where
  State : Type
  Step : State → (op : S.Op) → S.Answer op → State → Prop

/-- A trace lists the events of all threads, the oldest first. -/
abbrev Trace (ι : Type) (S : Signature) := List (ι × Event S)

variable {ι α : Type} {S : Signature} [DecidableEq ι]

/-- The part of a trace that one thread performed. -/
def Trace.ofThread (trace : Trace ι S) (thread : ι) : History S :=
  trace.filterMap fun entry => if entry.1 = thread then some entry.2 else none

@[simp] theorem Trace.ofThread_nil (thread : ι) :
    Trace.ofThread ([] : Trace ι S) thread = [] := rfl

theorem Trace.ofThread_append (early late : Trace ι S) (thread : ι) :
    Trace.ofThread (early ++ late) thread = early.ofThread thread ++ late.ofThread thread := by
  simp [ofThread]

@[simp] theorem Trace.ofThread_single (thread : ι) (event : Event S) :
    Trace.ofThread [(thread, event)] thread = [event] := by
  simp [ofThread]

theorem Trace.ofThread_single_of_ne {thread other : ι} (different : other ≠ thread)
    (event : Event S) : Trace.ofThread [(other, event)] thread = [] := by
  simp [ofThread, different]

theorem Trace.ofThread_map (thread : ι) (history : History S) :
    Trace.ofThread (history.map fun event => (thread, event)) thread = history := by
  induction history with
  | nil => rfl
  | cons event later ih => simpa [ofThread] using ih

theorem Trace.ofThread_map_of_ne {thread other : ι} (different : other ≠ thread)
    (history : History S) :
    Trace.ofThread (history.map fun event => (other, event)) thread = [] := by
  simp [ofThread, different]

theorem Trace.mem_ofThread {trace : Trace ι S} {thread : ι} {event : Event S} :
    event ∈ trace.ofThread thread ↔ (thread, event) ∈ trace := by
  simp only [ofThread, List.mem_filterMap]
  constructor
  · rintro ⟨⟨thread', event'⟩, member, same⟩
    by_cases equal : thread' = thread
    · simp only [equal, ↓reduceIte, Option.some.injEq] at same
      rwa [← equal, ← same]
    · simp [equal] at same
  · intro member
    exact ⟨(thread, event), member, by simp⟩

/-- Any thread may perform its next operation; the world answers it. -/
inductive Interleaved (world : World S) (threads : ι → Program S α) (initial : world.State) :
    Trace ι S → (ι → Program S α) → world.State → Prop where
  | start : Interleaved world threads initial [] threads initial
  | step {trace : Trace ι S} {pool : ι → Program S α} {state state' : world.State} {thread : ι}
      {op : S.Op} {next : S.Answer op → Program S α} {answer : S.Answer op}
      (earlier : Interleaved world threads initial trace pool state)
      (waiting : pool thread = .perform op next) (answered : world.Step state op answer state') :
      Interleaved world threads initial (trace ++ [(thread, ⟨op, answer⟩)])
        (Function.update pool thread (next answer)) state'

namespace Interleaved

variable {world : World S} {threads pool : ι → Program S α} {initial state : world.State}
  {trace : Trace ι S}

/-- Each thread of an interleaving runs its own program on its own events. -/
theorem thread_run (run : Interleaved world threads initial trace pool state) (thread : ι) :
    Run (threads thread) (trace.ofThread thread) (pool thread) := by
  induction run with
  | start => exact .start _
  | @step trace pool _ _ mover op next answer _ waiting _ ih =>
      rw [Trace.ofThread_append]
      by_cases same : mover = thread
      · subst same
        rw [Trace.ofThread_single, Function.update_self]
        rw [waiting] at ih
        exact ih.trans (.step op next answer (.start _))
      · rw [Trace.ofThread_single_of_ne same, List.append_nil,
          Function.update_of_ne (Ne.symm same)]
        exact ih

/-- The interleaving before an entry waits for that entry's operation. -/
theorem at_entry {before after : Trace ι S} {thread : ι} {event : Event S}
    (run : Interleaved world threads initial (before ++ (thread, event) :: after) pool state) :
    ∃ pool' state' state'' next, Interleaved world threads initial before pool' state' ∧
      pool' thread = .perform event.op next ∧
      world.Step state' event.op event.answer state'' := by
  generalize whole : before ++ (thread, event) :: after = trace at run
  induction run generalizing after with
  | start => simp at whole
  | @step trace pool earlier_state later_state mover op next answer earlier waiting answered ih =>
      rcases List.eq_nil_or_concat after with rfl | ⟨after', last, rfl⟩
      · obtain ⟨rfl, same⟩ := List.append_inj' whole rfl
        simp only [List.cons.injEq, Prod.mk.injEq, and_true] at same
        obtain ⟨rfl, rfl⟩ := same
        exact ⟨pool, earlier_state, later_state, next, earlier, waiting, answered⟩
      · rw [List.concat_eq_append, ← List.cons_append, ← List.append_assoc] at whole
        exact ih (List.append_inj' whole rfl).1

/-- What a thread ensures holds of the operation that it waits to perform. -/
theorem guard_waiting (run : Interleaved world threads initial trace pool state) (thread : ι)
    {guard : History S → S.Op → Prop} {goal : History S → α → Prop} {op : S.Op}
    {next : S.Answer op → Program S α} (ensures : (threads thread).Ensures guard goal [])
    (waiting : pool thread = .perform op next) : guard (trace.ofThread thread) op := by
  have reached := run.thread_run thread
  rw [waiting] at reached
  simpa using (ensures.guard_run reached).1

/-- What every thread ensures holds at every event of the interleaving. -/
theorem guard_at_entry {guard : ι → History S → S.Op → Prop} {goal : ι → History S → α → Prop}
    (ensures : ∀ thread, (threads thread).Ensures (guard thread) (goal thread) [])
    {before after : Trace ι S} {thread : ι} {event : Event S}
    (run : Interleaved world threads initial (before ++ (thread, event) :: after) pool state) :
    guard thread (before.ofThread thread) event.op := by
  obtain ⟨_, _, _, next, earlier, waiting, _⟩ := run.at_entry
  exact earlier.guard_waiting thread (ensures thread) waiting

/-- A property that one guarded step keeps holds after every interleaving. -/
theorem invariant {guard : ι → History S → S.Op → Prop} {goal : ι → History S → α → Prop}
    (ensures : ∀ thread, (threads thread).Ensures (guard thread) (goal thread) [])
    {keeps : Trace ι S → world.State → Prop} (base : keeps [] initial)
    (kept : ∀ trace state state' thread (op : S.Op) (answer : S.Answer op), keeps trace state →
      guard thread (Trace.ofThread trace thread) op → world.Step state op answer state' →
        keeps (trace ++ [(thread, ⟨op, answer⟩)]) state')
    (run : Interleaved world threads initial trace pool state) : keeps trace state := by
  induction run with
  | start => exact base
  | step earlier waiting answered ih =>
      exact kept _ _ _ _ _ _ ih (earlier.guard_waiting _ (ensures _) waiting) answered

end Interleaved

/-- Every operation of such an interleaving is performed in a state that allows it. -/
inductive GuardedRun (world : World S) (threads : ι → Program S α)
    (guard : world.State → ι → S.Op → Prop) (initial : world.State) :
    Trace ι S → (ι → Program S α) → world.State → Prop where
  | start : GuardedRun world threads guard initial [] threads initial
  | step {trace : Trace ι S} {pool : ι → Program S α} {state state' : world.State} {thread : ι}
      {op : S.Op} {next : S.Answer op → Program S α} {answer : S.Answer op}
      (earlier : GuardedRun world threads guard initial trace pool state)
      (waiting : pool thread = .perform op next) (allowed : guard state thread op)
      (answered : world.Step state op answer state') :
      GuardedRun world threads guard initial (trace ++ [(thread, ⟨op, answer⟩)])
        (Function.update pool thread (next answer)) state'

namespace GuardedRun

variable {world : World S} {threads pool : ι → Program S α} {initial state : world.State}
  {guard : world.State → ι → S.Op → Prop} {trace : Trace ι S}

theorem interleaved (run : GuardedRun world threads guard initial trace pool state) :
    Interleaved world threads initial trace pool state := by
  induction run with
  | start => exact .start
  | step _ waiting _ answered ih => exact ih.step waiting answered

/-- What every allowed operation keeps holds after a run of such operations. -/
theorem keeps {property : Trace ι S → Prop} (base : property [])
    (kept : ∀ {trace pool state state' thread op next} {answer : S.Answer op},
      Interleaved world threads initial trace pool state → pool thread = .perform op next →
        guard state thread op → world.Step state op answer state' → property trace →
          property (trace ++ [(thread, ⟨op, answer⟩)]))
    (run : GuardedRun world threads guard initial trace pool state) : property trace := by
  induction run with
  | start => exact base
  | step earlier waiting allowed answered ih =>
      exact kept earlier.interleaved waiting allowed answered ih

/-- An interleaving is such a run when all states that are reached allow what is waited for. -/
theorem of_interleaved
    (allows : ∀ {trace pool state thread op next},
      Interleaved world threads initial trace pool state → pool thread = .perform op next →
        guard state thread op)
    (run : Interleaved world threads initial trace pool state) :
    GuardedRun world threads guard initial trace pool state := by
  induction run with
  | start => exact .start
  | step earlier waiting answered ih => exact ih.step waiting (allows earlier waiting) answered

end GuardedRun

/-- The world answers the events of a history one after the other. -/
inductive World.Answers (world : World S) : world.State → History S → world.State → Prop where
  | nil (state : world.State) : Answers world state [] state
  | cons {first second third : world.State} {op : S.Op} {answer : S.Answer op}
      {history : History S} (step : world.Step first op answer second)
      (later : Answers world second history third) :
      Answers world first (⟨op, answer⟩ :: history) third

theorem World.Answers.append {world : World S} {first second third : world.State}
    {early late : History S} (before : world.Answers first early second)
    (after : world.Answers second late third) : world.Answers first (early ++ late) third := by
  induction before with
  | nil => exact after
  | cons step _ ih => exact .cons step (ih after)

/-- The world answers the parts of a history one after the other. -/
theorem World.Answers.split {world : World S} {first last : world.State} {early late : History S}
    (answered : world.Answers first (early ++ late) last) :
    ∃ middle, world.Answers first early middle ∧ world.Answers middle late last := by
  induction early generalizing first with
  | nil => exact ⟨first, .nil first, answered⟩
  | cons event early ih =>
      cases answered with
      | cons step later =>
          obtain ⟨middle, before, after⟩ := ih later
          exact ⟨middle, .cons step before, after⟩

/-- An interleaving continues with a run of one thread that the world answers. -/
theorem Interleaved.extend {world : World S} {threads pool : ι → Program S α}
    {initial state state' : world.State} {trace : Trace ι S} {thread : ι} {history : History S}
    {rest : Program S α} (run : Interleaved world threads initial trace pool state)
    (own : Run (pool thread) history rest) (answered : world.Answers state history state') :
    ∃ pool', Interleaved world threads initial
        (trace ++ history.map fun event => (thread, event)) pool' state' ∧
      pool' thread = rest ∧ ∀ other, other ≠ thread → pool' other = pool other := by
  generalize start : pool thread = program at own
  induction own generalizing trace pool state with
  | start _ =>
      cases answered
      exact ⟨pool, by simpa using run, start, fun _ _ => rfl⟩
  | step op next answer later ih =>
      cases answered with
      | cons step answered =>
          obtain ⟨pool', run', last, others⟩ := ih (run.step start step) answered
            (Function.update_self thread _ pool)
          refine ⟨pool', by simpa using run', last, fun other different => ?_⟩
          rw [others other different, Function.update_of_ne different]

end Effects
