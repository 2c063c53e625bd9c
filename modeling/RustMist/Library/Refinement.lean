import RustMist.Library.Interleaving
import RustMist.Library.Linking

/-! Interleavings that refine interleavings of more abstract programs. -/

namespace Effects

open Program

variable {ι α β γ σ ε : Type} {S T : Signature}

/-- Two worlds whose states correspond, and what is seen of the events of each. -/
structure Abstraction (S T : Signature) (ε : Type) where
  upper : World S
  lower : World T
  states : lower.State → upper.State → Prop
  shown : Event S → Option ε
  seen : Event T → Option ε

variable (abstraction : Abstraction S T ε)

/-- Such events leave every state alone and are not seen. -/
def Abstraction.Silent (history : History S) : Prop :=
  (∀ state, abstraction.upper.Answers state history state) ∧
    history.filterMap abstraction.shown = []

/-- The upper world answers the operations of a history with the lower event in view. -/
structure Abstraction.Mimics (first second : abstraction.upper.State) (history : History S)
    (event : Event T) : Prop where
  answered : abstraction.upper.Answers first history second
  same : history.filterMap abstraction.shown = (abstraction.seen event).toList

/-- Whatever the lower program does next, the upper program can do as well. -/
def Program.Tracks (goal : Program S α → β → Prop) : Program T β → Program S α → Prop
  | .pure value, upper =>
      ∃ more upper', Run upper more upper' ∧ abstraction.Silent more ∧ goal upper' value
  | .perform op next, upper => ∀ answer first first' second, abstraction.states first second →
      abstraction.lower.Step first op answer first' →
        ∃ more upper' second', Run upper more upper' ∧
          abstraction.Mimics second second' more ⟨op, answer⟩ ∧ abstraction.states first' second' ∧
            (next answer).Tracks goal upper'

variable {abstraction}

section Rules

variable {goal : Program S α → β → Prop} {goal' : Program S α → γ → Prop}
  {program : Program T β} {upper upper' : Program S α} {more : History S}

theorem Abstraction.Silent.nil : abstraction.Silent [] := ⟨fun state => .nil state, rfl⟩

theorem Abstraction.Silent.append {early late : History S} (first : abstraction.Silent early)
    (second : abstraction.Silent late) : abstraction.Silent (early ++ late) :=
  ⟨fun state => (first.1 state).append (second.1 state), by
    rw [List.filterMap_append, first.2, second.2]
    rfl⟩

theorem Abstraction.Silent.mimics {first second : abstraction.upper.State} {event : Event T}
    {late : History S} (silent : abstraction.Silent more)
    (mimics : abstraction.Mimics first second late event) :
    abstraction.Mimics first second (more ++ late) event :=
  ⟨(silent.1 first).append mimics.answered, by
    rw [List.filterMap_append, silent.2, mimics.same]
    rfl⟩

theorem tracks_pure {value : β} (reached : goal upper value) :
    (Program.pure value : Program T β).Tracks abstraction goal upper :=
  ⟨[], upper, .start _, .nil, reached⟩

/-- The upper program may go ahead while that is not seen. -/
theorem Program.Tracks.ahead (tracks : program.Tracks abstraction goal upper')
    (run : Run upper more upper') (silent : abstraction.Silent more) :
    program.Tracks abstraction goal upper := by
  cases program with
  | pure value =>
      obtain ⟨last, final, later, quiet, reached⟩ := tracks
      exact ⟨more ++ last, final, run.trans later, silent.append quiet, reached⟩
  | perform op next =>
      intro answer first first' second related step
      obtain ⟨last, final, second', later, mimics, related', tracks⟩ :=
        tracks answer first first' second related step
      exact ⟨more ++ last, final, second', run.trans later, silent.mimics mimics, related', tracks⟩

/-- What follows a program tracks what follows the upper program. -/
theorem Program.Tracks.bind {continue' : β → Program T γ}
    (tracks : program.Tracks abstraction goal upper)
    (later : ∀ upper value, goal upper value → (continue' value).Tracks abstraction goal' upper) :
    (program >>= continue').Tracks abstraction goal' upper := by
  induction program generalizing upper with
  | pure value =>
      obtain ⟨more, upper', run, silent, reached⟩ := tracks
      exact (later upper' value reached).ahead run silent
  | perform op next ih =>
      intro answer first first' second related step
      obtain ⟨more, upper', second', run, mimics, related', tracks⟩ :=
        tracks answer first first' second related step
      exact ⟨more, upper', second', run, mimics, related', ih answer tracks⟩

/-- A program whose steps are not seen and keep every correspondence tracks a program that waits. -/
theorem tracks_idle {guard : History T → T.Op → Prop} {final : History T → β → Prop}
    (idle : ∀ past op, guard past op → ∀ answer first first' second,
      abstraction.states first second → abstraction.lower.Step first op answer first' →
        abstraction.states first' second ∧ abstraction.seen ⟨op, answer⟩ = none)
    {past : History T} (ensures : program.Ensures guard final past) :
    program.Tracks abstraction (fun upper' _ => upper' = upper) upper := by
  induction program generalizing past with
  | pure value => exact tracks_pure rfl
  | perform op next ih =>
      intro answer first first' second related step
      obtain ⟨related', unseen⟩ := idle past op ensures.1 answer first first' second related step
      exact ⟨[], upper, second, .start _, ⟨.nil _, by rw [unseen]; rfl⟩, related',
        ih answer (ensures.2 answer)⟩

/-- A program tracks itself when the upper world does whatever the lower world does. -/
theorem tracks_self {abstraction : Abstraction S S ε}
    (same : abstraction.seen = abstraction.shown)
    (steps : ∀ op answer first first' second, abstraction.states first second →
      abstraction.lower.Step first op answer first' →
        ∃ second', abstraction.upper.Step second op answer second' ∧
          abstraction.states first' second') (program : Program S α) :
    program.Tracks abstraction (fun upper value => upper = .pure value) program := by
  induction program with
  | pure value => exact tracks_pure rfl
  | perform op next ih =>
      intro answer first first' second related step
      obtain ⟨second', moved, related'⟩ := steps op answer first first' second related step
      refine ⟨[⟨op, answer⟩], next answer, second', .step op next answer (.start _),
        ⟨.cons moved (.nil _), ?_⟩, related', ih answer⟩
      rw [same]
      cases shown : abstraction.shown ⟨op, answer⟩ <;> simp [shown]

end Rules

section Interleavings

variable [DecidableEq ι]

/-- What is seen of the events of a trace, each with its thread. -/
def Trace.seen (see : Event S → Option ε) (trace : Trace ι S) : List (ι × ε) :=
  trace.filterMap fun entry => (see entry.2).map fun event => (entry.1, event)

omit [DecidableEq ι] in
theorem Trace.seen_append (see : Event S → Option ε) (early late : Trace ι S) :
    Trace.seen see (early ++ late) = Trace.seen see early ++ Trace.seen see late :=
  List.filterMap_append

omit [DecidableEq ι] in
theorem Trace.seen_thread (see : Event S → Option ε) (thread : ι) (history : History S) :
    Trace.seen see (history.map fun event => (thread, event)) =
      (history.filterMap see).map fun event => (thread, event) := by
  simp [Trace.seen, List.filterMap_map, List.map_filterMap]

omit [DecidableEq ι] in
theorem Trace.mem_seen {see : Event S → Option ε} {trace : Trace ι S} {thread : ι} {shown : ε} :
    (thread, shown) ∈ Trace.seen see trace ↔
      ∃ event, (thread, event) ∈ trace ∧ see event = some shown := by
  simp [Trace.seen, List.mem_filterMap, Option.map_eq_some_iff]

variable (abstraction) in
/-- Every interleaving of the lower programs shows what an interleaving of the upper programs shows,
in the same order, when each lower program is followed by its upper program from step to step. -/
theorem Interleaved.refines
    {follows : ι → History T → History S → Program T β → Program S α → Prop}
    {lower pool : ι → Program T β} {upper : ι → Program S α}
    (begins : ∀ thread, follows thread [] [] (lower thread) (upper thread))
    (steps : ∀ thread past own op next rest (answer : T.Answer op) first first' second,
      follows thread past own (.perform op next) rest → abstraction.states first second →
        abstraction.lower.Step first op answer first' →
          ∃ more rest' second', Run rest more rest' ∧
            abstraction.Mimics second second' more ⟨op, answer⟩ ∧
            abstraction.states first' second' ∧
            follows thread (past ++ [⟨op, answer⟩]) (own ++ more) (next answer) rest')
    {first last : abstraction.lower.State} {second : abstraction.upper.State}
    (start : abstraction.states first second) {trace : Trace ι T}
    (run : Interleaved abstraction.lower lower first trace pool last) :
    ∃ trace' pool' last', Interleaved abstraction.upper upper second trace' pool' last' ∧
      abstraction.states last last' ∧ trace'.seen abstraction.shown = trace.seen abstraction.seen ∧
        ∀ thread, follows thread (trace.ofThread thread) (trace'.ofThread thread) (pool thread)
          (pool' thread) := by
  induction run with
  | start => exact ⟨[], upper, second, .start, start, rfl, begins⟩
  | @step trace pool state state' thread op next answer earlier waiting answered ih =>
      obtain ⟨trace', pool', between, run', related, same, followed⟩ := ih
      have moved := followed thread
      rw [waiting] at moved
      obtain ⟨more, rest, between', own, mimics, related', goes⟩ :=
        steps thread _ _ op next _ answer state state' between moved related answered
      obtain ⟨pool'', extended, mover, others⟩ := run'.extend own mimics.answered
      refine ⟨_, pool'', between', extended, related', ?_, fun other => ?_⟩
      · rw [Trace.seen_append, Trace.seen_append, Trace.seen_thread, same, mimics.same]
        simp only [Trace.seen, List.filterMap_cons, List.filterMap_nil]
        cases abstraction.seen ⟨op, answer⟩ <;> rfl
      · by_cases mine : other = thread
        · subst mine
          rw [Function.update_self, mover, Trace.ofThread_append, Trace.ofThread_single,
            Trace.ofThread_append, Trace.ofThread_map]
          exact goes
        · have unmoved := followed other
          rw [Function.update_of_ne mine, others other mine, Trace.ofThread_append,
            Trace.ofThread_append, Trace.ofThread_single_of_ne (Ne.symm mine),
            Trace.ofThread_map_of_ne (Ne.symm mine), List.append_nil, List.append_nil]
          exact unmoved

/-- Interleavings are refined by programs that track the lower programs. -/
theorem Interleaved.tracked {goal : ι → Program S α → β → Prop} {lower pool : ι → Program T β}
    {upper : ι → Program S α}
    (tracks : ∀ thread, (lower thread).Tracks abstraction (goal thread) (upper thread))
    {first last : abstraction.lower.State} {second : abstraction.upper.State}
    (start : abstraction.states first second) {trace : Trace ι T}
    (run : Interleaved abstraction.lower lower first trace pool last) :
    ∃ trace' pool' last', Interleaved abstraction.upper upper second trace' pool' last' ∧
      abstraction.states last last' ∧ trace'.seen abstraction.shown = trace.seen abstraction.seen ∧
        ∀ thread, (pool thread).Tracks abstraction (goal thread) (pool' thread) := by
  let follows : ι → History T → History S → Program T β → Program S α → Prop :=
    fun thread _ _ program rest => program.Tracks abstraction (goal thread) rest
  have begins : ∀ thread, follows thread [] [] (lower thread) (upper thread) := tracks
  exact Interleaved.refines abstraction begins
    (fun _ _ _ _ _ _ answer first first' second moved related answered =>
      moved answer first first' second related answered) start run

end Interleavings

end Effects
