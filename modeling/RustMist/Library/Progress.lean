import RustMist.Library.Interleaving
import Mathlib.Data.DFinsupp.WellFounded

/-! Threads that go on until all of them are done. -/

namespace Effects

open Program

variable {ι α : Type} {S : Signature}

/-- The rest of a program follows the answer to its next operation. -/
def Program.Follows (rest program : Program S α) : Prop :=
  ∃ op next answer, program = .perform op next ∧ rest = next answer

theorem Program.follows_wellFounded : WellFounded (@Program.Follows α S) := by
  refine ⟨fun program => ?_⟩
  induction program with
  | pure value =>
      refine ⟨_, fun rest follows => ?_⟩
      obtain ⟨_, _, _, same, _⟩ := follows
      cases same
  | perform op next ih =>
      refine ⟨_, fun rest follows => ?_⟩
      obtain ⟨op', next', answer, same, rfl⟩ := follows
      obtain ⟨rfl, same⟩ := Program.perform.inj same
      rw [← eq_of_heq same]
      exact ih answer

variable [DecidableEq ι]

/-- One of the threads has performed its next operation. -/
def Stepped (later earlier : ι → Program S α) : Prop :=
  ∃ thread op next answer, earlier thread = .perform op next ∧
    later = Function.update earlier thread (next answer)

/-- Finitely many threads do not go on for ever. -/
theorem stepped_wellFounded [Finite ι] : WellFounded (@Stepped ι α S _) := by
  obtain ⟨count, ⟨numbered⟩⟩ := Finite.exists_equiv_fin ι
  let _ : LinearOrder ι := LinearOrder.lift' numbered numbered.injective
  have lexical : WellFounded (Pi.Lex (fun first second : ι => first < second)
      (fun {_} => @Program.Follows α S)) := Pi.Lex.wellFounded _ fun _ => follows_wellFounded
  refine Subrelation.wf ?_ lexical
  intro later earlier stepped
  obtain ⟨thread, op, next, answer, waiting, rfl⟩ := stepped
  have others : ∀ other, other < thread →
      Function.update earlier thread (next answer) other = earlier other :=
    fun other before => Function.update_of_ne (ne_of_lt before) _ _
  exact ⟨thread, others, op, next, answer, waiting, Function.update_self _ _ _⟩

/-- No thread has anything left to do. -/
def Done (pool : ι → Program S α) : Prop := ∀ thread, ∃ value, pool thread = .pure value

/-- Some thread can perform its next operation. -/
def Able (world : World S) (pool : ι → Program S α) (state : world.State) : Prop :=
  ∃ thread op next answer state', pool thread = .perform op next ∧
    world.Step state op answer state'

/-- Threads that are able to go on as long as they are not done can be run until they are. -/
theorem Interleaved.completes [Finite ι] {world : World S} {threads : ι → Program S α}
    {initial : world.State}
    (goes : ∀ trace pool state, Interleaved world threads initial trace pool state →
      ¬Done pool → Able world pool state)
    {trace : Trace ι S} {pool : ι → Program S α} {state : world.State}
    (run : Interleaved world threads initial trace pool state) :
    ∃ more pool' state', Interleaved world threads initial (trace ++ more) pool' state' ∧
      Done pool' := by
  induction pool using WellFounded.induction (@stepped_wellFounded ι α S _ _)
    generalizing trace state with
  | h pool ih =>
      by_cases done : Done pool
      · exact ⟨[], pool, state, by rwa [List.append_nil], done⟩
      · obtain ⟨thread, op, next, answer, state', waiting, answered⟩ := goes trace pool state run done
        obtain ⟨more, pool', last, completed, done'⟩ :=
          ih _ ⟨thread, op, next, answer, waiting, rfl⟩ (run.step waiting answered)
        rw [List.append_assoc] at completed
        exact ⟨_, pool', last, completed, done'⟩

end Effects
