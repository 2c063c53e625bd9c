import RustMist.Library.Progress
import RustMist.Proof.Surface.Permits

/-! Tasks that share a client never wait for one another for ever. -/

namespace RustMist

open Effects Effects.Program

section Answers

/-- Every operation has an answer. -/
theorem answer_nonempty (op : Op) : Nonempty op.Answer := by
  cases op with
  | executeAs | proposal => exact ⟨()⟩
  | budgetStatus => exact ⟨none⟩
  | sites => exact ⟨⟨[], List.Pairwise.nil⟩⟩
  | response => exact ⟨.error (.service "")⟩
  | systemTime | random | applyIntent | resultReceipt => exact ⟨.error ""⟩
  | _ => exact ⟨.error ⟨"", ""⟩⟩

/-- The clock allows a call at any time. -/
theorem budgetCall_exists (state : SharedClient) (request : BudgetRequest) :
    ∃ call : BudgetCall, call.request = request ∧ state.latest ≤ call.elapsedAt :=
  ⟨⟨request, state.latest, state.latest, state.latest, ⟨Nat.le_refl _, Nat.le_refl _⟩⟩, rfl,
    Nat.le_refl _⟩

/-- The shared client answers every operation, but a permit only when one is free. -/
theorem sharedWorld_goes (budget : RateLimitBudget) (state : SharedClient) (op : ServiceOp)
    (free : op = .acquirePermit → 0 < state.freePermits) :
    ∃ answer state', (sharedWorld budget).Step state op answer state' := by
  cases op with
  | tool own =>
      obtain ⟨answer⟩ := answer_nonempty own
      exact ⟨answer, state, rfl⟩
  | http own =>
      cases own with
      | tryAcquire priority =>
          obtain ⟨call, same, later⟩ := budgetCall_exists state (.tryAcquire priority)
          exact ⟨_, _, call, same, later, rfl, rfl⟩
      | budgetStatus =>
          obtain ⟨call, same, later⟩ := budgetCall_exists state .status
          refine ⟨(budget.status state.window call.elapsedAt call.restartedAt).1, _, call, same, later,
            ?_, rfl⟩
          rw [RateLimitBudget.decide, same]
      | buildRequest method url => exact ⟨.ok (), state, rfl⟩
      | send method url body => exact ⟨.error "", state, rfl⟩
      | sleep delay => exact ⟨(), state, rfl⟩
  | acquirePermit => exact ⟨(), _, free rfl, rfl⟩
  | releasePermit => exact ⟨(), _, rfl⟩

end Answers

section Progress

variable {ι : Type} [DecidableEq ι] [ServerPlatform] {handler : MistHandler}
  {client : HttpMistRetryClient} {joinedQuery : String → String → Option (List (String × String))}
  {budget : RateLimitBudget} {created permits : Nat} {tasks : ι → Task} {trace : Trace ι service}
  {pool : ι → ServiceProgram (Option Unit)} {state : SharedClient}

/-- What is left of a task gives its permit back. -/
theorem pool_holds (run : Interleaved (sharedWorld budget)
      (fun task => (tasks task).program handler client joinedQuery)
      (SharedClient.new created permits) trace pool state) (task : ι) :
    (pool task).Ensures (S := service) HoldStep (fun history _ => holds history = false)
      (trace.ofThread task) := by
  have ensures : (pool task).Ensures (S := service) HoldStep
      (fun history _ => holds history = false) ([] ++ trace.ofThread task) :=
    (over_holds ((tasks task).work handler)).guard_run (run.thread_run task)
  rwa [List.nil_append] at ensures

/-- As long as the tasks are not done, one of them can go on. -/
theorem tasks_able (available : 0 < permits) (run : Interleaved (sharedWorld budget)
      (fun task => (tasks task).program handler client joinedQuery)
      (SharedClient.new created permits) trace pool state) (unfinished : ¬Done pool) :
    Able (sharedWorld budget) pool state := by
  obtain ⟨holders, _, exact', total⟩ :=
    permits_held handler client joinedQuery budget created permits tasks run
  cases holders with
  | nil =>
      -- No permit is taken, so a task that is not done gets whatever it waits for.
      obtain ⟨task, unfinished⟩ := not_forall.mp unfinished
      have free : 0 < state.freePermits := by
        rw [List.length_nil, Nat.zero_add] at total
        rwa [total]
      cases waiting : pool task with
      | pure result => exact absurd ⟨result, waiting⟩ unfinished
      | perform op next =>
          obtain ⟨answer, state', step⟩ := sharedWorld_goes budget state op fun _ => free
          exact ⟨task, op, next, answer, state', waiting, step⟩
  | cons task others =>
      -- A task with a permit is not done, and it does not wait for another permit.
      have held : holds (trace.ofThread task) = true := (exact' task).mp List.mem_cons_self
      have ensures := pool_holds run task
      cases waiting : pool task with
      | pure result =>
          rw [waiting] at ensures
          exact absurd (held.symm.trans ensures) (by decide)
      | perform op next =>
          rw [waiting] at ensures
          have other : op ≠ .acquirePermit := by
            rintro rfl
            exact absurd (held.symm.trans ensures.1) (by decide)
          obtain ⟨answer, state', step⟩ :=
            sharedWorld_goes budget state op fun same => absurd same other
          exact ⟨task, op, next, answer, state', waiting, step⟩

/-- When all tasks are done no permit is missing. -/
theorem permits_returned (run : Interleaved (sharedWorld budget)
      (fun task => (tasks task).program handler client joinedQuery)
      (SharedClient.new created permits) trace pool state) (done : Done pool) :
    state.freePermits = permits := by
  obtain ⟨holders, _, exact', total⟩ :=
    permits_held handler client joinedQuery budget created permits tasks run
  have none : holders = [] := by
    apply List.eq_nil_iff_forall_not_mem.mpr
    intro task member
    have held : holds (trace.ofThread task) = true := (exact' task).mp member
    have ensures := pool_holds run task
    obtain ⟨result, ended⟩ := done task
    rw [ended] at ensures
    exact absurd (held.symm.trans ensures) (by decide)
  rwa [none, List.length_nil, Nat.zero_add] at total

end Progress

end RustMist

namespace RustMist.Network

open Effects Effects.Program

end RustMist.Network
