import RustMist.Proof.Surface.Wire

/-! How many calls of the client are under way at once. -/

namespace RustMist

open Effects Effects.Program

section Holding

/-- Whether a task holds a permit of the semaphore after its own events. -/
def holdStep (held : Bool) (event : ServiceEvent) : Bool :=
  match event.op with
  | .acquirePermit => true
  | .releasePermit => false
  | _ => held

def holds (history : ServiceHistory) : Bool := history.foldl holdStep false

theorem holds_snoc (history : ServiceHistory) (event : ServiceEvent) :
    holds (history ++ [event]) = holdStep (holds history) event := by
  rw [holds, List.foldl_append]
  rfl

/-- A permit is acquired by a task that holds none, and it is held until it is released; whatever
the client does for a request, it does with a permit. -/
def HoldStep (past : ServiceHistory) : ServiceOp → Prop
  | .acquirePermit => holds past = false
  | .releasePermit => holds past = true
  | .http .budgetStatus => True
  | .http _ => holds past = true
  | .tool _ => True

variable [Platform] {α : Type} {client : HttpMistRetryClient}
  {joinedQuery : String → String → Option (List (String × String))}

theorem permittedCall_holds {request : MistRequest} {priority : CallPriority}
    {past : ServiceHistory} (free : holds past = false) :
    (client.permittedCall joinedQuery request priority).Ensures (S := service) HoldStep
      (fun history _ => holds history = false) past := by
  refine permittedCall_ensures (executeAs_calls []) (fun history _ => holds history = true) free
    (holds_snoc _ _)
    (fun history own op answer held => (holds_snoc history ⟨.http op, answer⟩).trans held)
    (fun history own op held _ => ?_) fun history own result held _ => ⟨held, holds_snoc _ _⟩
  cases op with
  | budgetStatus => trivial
  | _ => exact held

/-- An operation of a handler is implemented without a permit before and after. -/
theorem implement_holds {past : ServiceHistory} {op : Op}
    (pending : Option (Except MistError MistResponse)) (free : holds past = false) :
    (client.implement joinedQuery pending op).Ensures (S := service) HoldStep
      (fun history _ => holds history = false) past := by
  by_cases own : isClientOp op = true
  · cases op with
    | executeAs request priority => exact executeAs_ensures pending (permittedCall_holds free)
    | response => exact free
    | budgetStatus =>
        exact ensures_ask_iff.mpr ⟨trivial, fun status => (holds_snoc _ _).trans free⟩
    | _ => cases own
  · rw [Bool.not_eq_true] at own
    rw [implement_tool own]
    exact ensures_ask_iff.mpr ⟨trivial, fun answer => (holds_snoc _ _).trans free⟩

/-- A task ends without a permit. -/
theorem over_holds (program : MistProgram α) :
    (client.over joinedQuery program).Ensures (S := service) HoldStep
      (fun history _ => holds history = false) [] :=
  Ensures.link_keeps (fun _ memory _ free => implement_holds memory free) rfl

end Holding

section Sharing

variable {ι : Type} [DecidableEq ι]

/-- The tasks that hold a permit take up all permits that are not free. -/
def PermitsHeld (permits : Nat) (trace : Trace ι service) (state : SharedClient) : Prop :=
  ∃ holders : List ι, holders.Nodup ∧ (∀ task, task ∈ holders ↔ holds (trace.ofThread task) = true) ∧
    holders.length + state.freePermits = permits

theorem ofThread_snoc (trace : Trace ι service) (task other : ι) (event : ServiceEvent) :
    Trace.ofThread (trace ++ [(task, event)]) other =
      trace.ofThread other ++ if task = other then [event] else [] := by
  rw [Trace.ofThread_append]
  by_cases same : task = other
  · subst same
    simp
  · rw [Trace.ofThread_single_of_ne same, if_neg same]

/-- An event that concerns no permit leaves the holders alone. -/
theorem holds_other {trace : Trace ι service} {task other : ι} {event : ServiceEvent}
    (kept : ∀ held, holdStep held event = held) :
    holds (Trace.ofThread (trace ++ [(task, event)]) other) = holds (trace.ofThread other) := by
  rw [ofThread_snoc]
  split
  · rw [holds_snoc, kept]
  · rw [List.append_nil]

theorem PermitsHeld.step {budget : RateLimitBudget} {permits : Nat} {trace : Trace ι service}
    {state state' : SharedClient} {task : ι} {op : ServiceOp} {answer : op.Answer}
    (held : PermitsHeld permits trace state) (allowed : HoldStep (trace.ofThread task) op)
    (step : state.Step budget op answer state') :
    PermitsHeld permits (trace ++ [(task, ⟨op, answer⟩)]) state' := by
  obtain ⟨holders, distinct, exact', total⟩ := held
  have unchanged (kept : ∀ held, holdStep held ⟨op, answer⟩ = held)
      (same : state'.freePermits = state.freePermits) :
      PermitsHeld permits (trace ++ [(task, ⟨op, answer⟩)]) state' :=
    ⟨holders, distinct, fun other => by rw [holds_other kept, exact'], by rw [same, total]⟩
  cases op with
  | acquirePermit =>
      obtain ⟨available, rfl⟩ := step
      have fresh : task ∉ holders := by
        rw [exact', allowed]
        exact Bool.false_ne_true
      refine ⟨task :: holders, List.nodup_cons.mpr ⟨fresh, distinct⟩, fun other => ?_, ?_⟩
      · rw [ofThread_snoc, List.mem_cons, exact']
        split
        · rename_i same
          subst same
          simp [holds_snoc, holdStep]
        · rename_i different
          simp [Ne.symm different]
      · rw [List.length_cons]
        simp only
        omega
  | releasePermit =>
      obtain rfl : state' = { state with freePermits := state.freePermits + 1 } := step
      have member : task ∈ holders := (exact' task).mpr allowed
      refine ⟨holders.erase task, distinct.erase task, fun other => ?_, ?_⟩
      · rw [ofThread_snoc, distinct.mem_erase_iff, exact']
        split
        · rename_i same
          subst same
          simp [holds_snoc, holdStep]
        · rename_i different
          simp [Ne.symm different]
      · rw [List.length_erase_of_mem member]
        have positive := List.length_pos_of_mem member
        simp only
        omega
  | tool own => exact unchanged (fun _ => rfl) (congrArg SharedClient.freePermits step)
  | http own =>
      cases own with
      | tryAcquire priority =>
          obtain ⟨call, _, _, _, rfl⟩ := step
          exact unchanged (fun _ => rfl) rfl
      | budgetStatus =>
          obtain ⟨call, _, _, _, rfl⟩ := step
          exact unchanged (fun _ => rfl) rfl
      | _ => exact unchanged (fun _ => rfl) (congrArg SharedClient.freePermits step)

variable [ServerPlatform]

theorem permits_held (handler : MistHandler) (client : HttpMistRetryClient)
    (joinedQuery : String → String → Option (List (String × String))) (budget : RateLimitBudget)
    (created permits : Nat) (tasks : ι → Task) {trace : Trace ι service}
    {pool : ι → ServiceProgram (Option Unit)} {state : SharedClient}
    (run : Interleaved (sharedWorld budget)
      (fun task => (tasks task).program handler client joinedQuery)
      (SharedClient.new created permits) trace pool state) :
    PermitsHeld permits trace state :=
  Interleaved.invariant (fun task => over_holds ((tasks task).work handler))
    ⟨[], List.nodup_nil, fun task => by simp [holds], by simp [SharedClient.new]⟩
    (fun _ _ _ _ _ _ held allowed step => held.step allowed step) run

/-- However the tasks interleave, no more calls of the client are under way than there are permits,
and every request is sent by a task that holds a permit. -/
theorem permits_bound (handler : MistHandler) (client : HttpMistRetryClient)
    (joinedQuery : String → String → Option (List (String × String))) (budget : RateLimitBudget)
    (created permits : Nat) (tasks : ι → Task) {trace : Trace ι service}
    {pool : ι → ServiceProgram (Option Unit)} {state : SharedClient}
    (run : Interleaved (sharedWorld budget)
      (fun task => (tasks task).program handler client joinedQuery)
      (SharedClient.new created permits) trace pool state) :
    (∀ holders : List ι, holders.Nodup →
      (∀ task ∈ holders, holds (trace.ofThread task) = true) → holders.length ≤ permits) ∧
    ∀ before task method url body answer after,
      trace = before ++ (task, ⟨.http (.send method url body), answer⟩) :: after →
        holds (Trace.ofThread before task) = true := by
  have steps : ∀ task, ((tasks task).program handler client joinedQuery).Ensures (S := service)
      HoldStep _ [] := fun task => over_holds _
  obtain ⟨all, _, exact', total⟩ :=
    permits_held handler client joinedQuery budget created permits tasks run
  refine ⟨fun holders distinct hold => ?_, fun before task method url body answer after same => ?_⟩
  · have within : holders ⊆ all := fun task member => (exact' task).mpr (hold task member)
    have few := (distinct.subperm within).length_le
    omega
  · subst same
    exact Interleaved.guard_at_entry steps run

end Sharing

end RustMist

namespace RustMist.Network

open Effects Effects.Program

section Shared

/-- The two requests of the hour, and the look at the budget after them. -/
def firstCall : BudgetCall := ⟨.tryAcquire .standard, 0, 0, 0, ⟨Nat.le_refl _, Nat.le_refl _⟩⟩

def secondCall : BudgetCall := ⟨.tryAcquire .standard, 5, 5, 5, ⟨Nat.le_refl _, Nat.le_refl _⟩⟩

def statusCall : BudgetCall := ⟨.status, 9, 9, 9, ⟨Nat.le_refl _, Nat.le_refl _⟩⟩

def granted : SharedClient := (SharedClient.new 0 1).decide .mistDefault firstCall

def grantedAgain : SharedClient := granted.decide .mistDefault secondCall

def inspected : SharedClient := grantedAgain.decide .mistDefault statusCall

variable {state : SharedClient}

/-- A tool leaves the shared state alone. -/
theorem shared_tools (own : MistHistory) :
    (sharedWorld .mistDefault).Answers state (onTools own) state := by
  induction own with
  | nil => exact .nil _
  | cons event later ih =>
      have rests : (sharedWorld .mistDefault).Step state (.tool event.op) event.answer state := rfl
      exact .cons rests ih

/-- Neither does what a call sends and waits for change it. -/
theorem shared_sends {own : HttpHistory} (others : ∀ event ∈ own, ∀ client : SharedClient,
      (sharedWorld .mistDefault).Step client (.http event.op) event.answer client) :
    (sharedWorld .mistDefault).Answers state
      (own.map fun event => ⟨.http event.op, event.answer⟩) state := by
  induction own with
  | nil => exact .nil _
  | cons event later ih =>
      exact .cons (others event List.mem_cons_self state)
        (ih fun other member => others other (List.mem_cons_of_mem _ member))

/-- A call that the budget admits gives its permit back. -/
theorem shared_call {call : BudgetCall} {priority : CallPriority} {status : BudgetStatus}
    {own : HttpHistory} (free : state.freePermits = 1)
    (asks : call.request = .tryAcquire priority) (late : state.latest ≤ call.elapsedAt)
    (grants : (RateLimitBudget.mistDefault.decide state.window call).1.outcome = .ok status)
    (others : ∀ event ∈ own, ∀ client : SharedClient,
      (sharedWorld .mistDefault).Step client (.http event.op) event.answer client) :
    (sharedWorld .mistDefault).Answers state
      (callEvents (⟨.tryAcquire priority, .ok status⟩ :: own)) (state.decide .mistDefault call) := by
  obtain ⟨window, latest, decisions, permits⟩ := state
  obtain rfl : permits = 1 := free
  let taken : SharedClient := ⟨window, latest, decisions, 0⟩
  have acquired : (sharedWorld .mistDefault).Step ⟨window, latest, decisions, 1⟩ .acquirePermit ()
      taken := ⟨Nat.zero_lt_one, rfl⟩
  have charged : (sharedWorld .mistDefault).Step taken (.http (.tryAcquire priority)) (.ok status)
      (taken.decide .mistDefault call) := ⟨call, asks, late, grants, rfl⟩
  have released : (sharedWorld .mistDefault).Step (taken.decide .mistDefault call) .releasePermit ()
      (SharedClient.decide .mistDefault ⟨window, latest, decisions, 1⟩ call) := rfl
  exact .cons acquired (.cons charged ((shared_sends others).append (.cons released (.nil _))))

theorem shared_applies : (sharedWorld .mistDefault).Answers (SharedClient.new 0 1) createdOver
    inspected := by
  have write : (sharedWorld .mistDefault).Answers (SharedClient.new 0 1) (callEvents writeCall)
      granted := by
    refine shared_call rfl rfl (Nat.le_refl _) (by decide) ?_
    simp only [List.forall_mem_cons]
    exact ⟨fun _ => rfl, fun _ => rfl, fun _ => rfl, fun _ => rfl, fun _ => rfl,
      fun _ member => absurd member List.not_mem_nil⟩
  have read : (sharedWorld .mistDefault).Answers granted (callEvents readCall) grantedAgain := by
    refine shared_call rfl rfl (Nat.zero_le _) (by decide) ?_
    simp only [List.forall_mem_cons]
    exact ⟨fun _ => rfl, fun _ => rfl, fun _ member => absurd member List.not_mem_nil⟩
  have looked : (sharedWorld .mistDefault).Step grantedAgain (.http .budgetStatus) secondStatus
      inspected := ⟨statusCall, rfl, by decide, by decide, rfl⟩
  exact ((shared_tools _).append write).append (read.append (.cons looked (shared_tools _)))

/-- The tasks share one permit, and the apply has made its calls. -/
theorem shared_runs : ∃ pool, Interleaved (sharedWorld .mistDefault) wireProgram
    (SharedClient.new 0 1) wireTrace pool inspected ∧ pool true = .pure (some ()) := by
  have whole := shared_applies
  rw [← List.take_append_drop 1 createdOver] at whole
  obtain ⟨middle, guard, rest⟩ := whole.split
  exact wire_interleaved guard (shared_tools _) rest

theorem permits_bound_created :
    (∀ holders : List Bool, holders.Nodup →
      (∀ task ∈ holders, holds (Trace.ofThread wireTrace task) = true) → holders.length ≤ 1) ∧
    ∀ before task method url body answer after,
      wireTrace = before ++ (task, ⟨.http (.send method url body), answer⟩) :: after →
        holds (Trace.ofThread before task) = true := by
  obtain ⟨pool, run, _⟩ := shared_runs
  exact permits_bound handler writeClient (fun _ _ => none) .mistDefault 0 1 wireTasks run

end Shared

end RustMist.Network
