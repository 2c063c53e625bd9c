import RustMist.Proof.Client.Budget
import RustMist.Proof.Surface.Permits

/-! What all tasks together send for one hourly budget. -/

namespace RustMist

open Effects Effects.Program

section Counting

theorem countP_range_succ (kept : Nat → Bool) (bound : Nat) :
    (List.range (bound + 1)).countP kept =
      (List.range bound).countP kept + if kept bound = true then 1 else 0 := by
  rw [List.range_succ, List.countP_append, List.countP_singleton]

/-- Entries below a bound that occur at most so often each are no more than so many times the
numbers below the bound. -/
theorem countP_le_mul {cost bound : Nat} {entries : List Nat} (kept : Nat → Bool)
    (below : ∀ entry ∈ entries, entry < bound) (few : ∀ entry, entries.count entry ≤ cost) :
    entries.countP kept ≤ cost * (List.range bound).countP kept := by
  induction bound generalizing entries with
  | zero =>
      have empty : entries = [] := List.eq_nil_iff_forall_not_mem.mpr fun entry member =>
        Nat.not_lt_zero _ (below entry member)
      rw [empty]
      exact Nat.zero_le _
  | succ bound ih =>
      have early : (entries.filter (· != bound)).countP kept ≤
          cost * (List.range bound).countP kept := by
        refine ih (fun entry member => ?_) fun entry =>
          Nat.le_trans (List.filter_sublist.count_le entry) (few entry)
        obtain ⟨inside, different⟩ := List.mem_filter.mp member
        have bounded := below entry inside
        have other : entry ≠ bound := by simpa using different
        omega
      have last : (entries.filter (· == bound)).countP kept ≤
          cost * if kept bound = true then 1 else 0 := by
        have bounded := few bound
        rw [List.filter_beq, List.countP_replicate]
        split <;> omega
      have whole : entries.countP kept = (entries.filter (· == bound)).countP kept +
          (entries.filter (· != bound)).countP kept :=
        List.countP_eq_countP_filter_add entries kept (· == bound)
      rw [countP_range_succ, Nat.mul_add]
      omega

/-- The positions of the kept values of a list are as many as these values. -/
theorem countP_positions {α : Type} (kept : α → Bool) (values : List α) :
    (List.range values.length).countP (fun index => values[index]?.any kept) =
      values.countP kept := by
  induction values using List.reverseRecOn with
  | nil => rfl
  | append_singleton values value ih =>
      have early : (List.range values.length).countP
          (fun index => (values ++ [value])[index]?.any kept) =
            (List.range values.length).countP fun index => values[index]?.any kept := by
        apply List.countP_congr
        intro index member
        rw [List.getElem?_append_left (List.mem_range.mp member)]
      rw [List.length_append, List.length_singleton, countP_range_succ, early, ih,
        List.countP_append, List.countP_singleton, List.getElem?_append_right (Nat.le_refl _),
        Nat.sub_self]
      rfl

end Counting

section Ledger

variable {ι : Type} [DecidableEq ι]

/-- The number of decisions so far, the grant that each task uses, and the grant that each HTTP
request is charged to. -/
structure Ledger (ι : Type) where
  decided : Nat
  grant : ι → Option Nat
  charges : List (ι × Nat)

def Ledger.record (ledger : Ledger ι) : ι × ServiceEvent → Ledger ι
  | (task, ⟨.http (.tryAcquire _), .ok _⟩) =>
      { ledger with
        decided := ledger.decided + 1
        grant := Function.update ledger.grant task (some ledger.decided) }
  | (task, ⟨.http (.tryAcquire _), .error _⟩) =>
      { ledger with
        decided := ledger.decided + 1
        grant := Function.update ledger.grant task none }
  | (_, ⟨.http .budgetStatus, _⟩) => { ledger with decided := ledger.decided + 1 }
  | (task, ⟨.http (.send _ _ _), _⟩) =>
      { ledger with
        charges := ledger.charges ++ (ledger.grant task).toList.map fun grant => (task, grant) }
  | _ => ledger

def ledger (trace : Trace ι service) : Ledger ι :=
  trace.foldl Ledger.record ⟨0, fun _ => none, []⟩

theorem ledger_snoc (trace : Trace ι service) (entry : ι × ServiceEvent) :
    ledger (trace ++ [entry]) = (ledger trace).record entry := by
  rw [ledger, List.foldl_append]
  rfl

/-- These tasks sent the HTTP requests of a trace, in their order. -/
def senders (trace : Trace ι service) : List ι :=
  trace.filterMap fun
    | (task, ⟨.http (.send _ _ _), _⟩) => some task
    | _ => none

omit [DecidableEq ι] in
theorem senders_append (early late : Trace ι service) :
    senders (early ++ late) = senders early ++ senders late := List.filterMap_append

/-- The requests that a service event adds to those since the latest grant. -/
def wireSpend (count : Option Nat) : ServiceEvent → Option Nat
  | ⟨.http op, answer⟩ => spendStep count ⟨op, answer⟩
  | _ => count

theorem spent_ofThread (trace : Trace ι service) (task other : ι) (event : ServiceEvent) :
    spent (httpEvents (Trace.ofThread (trace ++ [(task, event)]) other)) =
      if task = other then wireSpend (spent (httpEvents (trace.ofThread other))) event
      else spent (httpEvents (trace.ofThread other)) := by
  rw [ofThread_snoc]
  split
  · obtain ⟨op, answer⟩ := event
    cases op with
    | http own => exact (congrArg spent (httpEvents_http _ own answer)).trans (spent_snoc _ _)
    | _ => simp [httpEvents, wireSpend]
  · rw [List.append_nil]

end Ledger

section Charges

variable [Platform] {α : Type} {client : HttpMistRetryClient}
  {joinedQuery : String → String → Option (List (String × String))}

/-- A task asks the budget with its priority, and after a grant it sends no more than the retries
allow. -/
def ChargeStep (client : HttpMistRetryClient) (priority : CallPriority) (past : ServiceHistory) :
    ServiceOp → Prop
  | .http (.tryAcquire given) => given = priority
  | .http (.send _ _ _) =>
      ∃ count, spent (httpEvents past) = some count ∧ count ≤ client.max429Retries.toNat
  | _ => True

theorem over_charges {program : MistProgram α} {priority : CallPriority} {bound : Nat}
    (within : SendsAtMost program priority bound) :
    (client.over joinedQuery program).Ensures (S := service) (ChargeStep client priority)
      (fun _ _ => True) [] := by
  refine (over_ensures program).mono (fun past op step => ?_) fun _ _ _ => trivial
  cases op with
  | http own =>
      cases own with
      | tryAcquire given =>
          obtain ⟨own, _, next, reached, _, _, request, priority', rfl, given_eq⟩ := step
          have keeps : program.Ensures (S := mist) (fun _ op => HasPriority priority op) _ [] :=
            within.ensures
          have allowed : priority' = priority := (keeps.guard_run reached).1
          exact given_eq.trans allowed
      | send method url body =>
          obtain ⟨_, _, _, _, _, _, _, _, _, _, few⟩ := step
          exact few
      | _ => trivial
  | _ => trivial

end Charges

section Accounts

variable {ι : Type} [DecidableEq ι]

/-- This decision grants a unit with this priority. -/
def Pays (decisions : List BudgetDecision) (priority : CallPriority) (grant : Nat) : Prop :=
  ∃ decision, decisions[grant]? = some decision ∧ decision.granted priority = true

theorem Pays.append {decisions : List BudgetDecision} {priority : CallPriority} {grant : Nat}
    (pays : Pays decisions priority grant) (later : List BudgetDecision) :
    Pays (decisions ++ later) priority grant := by
  obtain ⟨decision, found, granted⟩ := pays
  obtain ⟨inside, _⟩ := List.getElem?_eq_some_iff.mp found
  exact ⟨decision, by rw [List.getElem?_append_left inside, found], granted⟩

theorem Pays.lt {decisions : List BudgetDecision} {priority : CallPriority} {grant : Nat}
    (pays : Pays decisions priority grant) : grant < decisions.length := by
  obtain ⟨decision, found, _⟩ := pays
  exact (List.getElem?_eq_some_iff.mp found).1

/-- Each task uses a grant of its own, and its requests since then are charged to it. -/
structure Accounts (budget : RateLimitBudget) (retries : Nat) (priority : ι → CallPriority)
    (trace : Trace ι service) (state : SharedClient) : Prop where
  budget : BudgetInvariant budget state.decisions state.window state.latest
  decided : (ledger trace).decided = state.decisions.length
  counted : ∀ task, spent (httpEvents (trace.ofThread task)) =
    ((ledger trace).grant task).map ((ledger trace).charges.map Prod.snd).count
  own : ∀ task grant, (ledger trace).grant task = some grant →
    Pays state.decisions (priority task) grant
  distinct : ∀ first second grant, (ledger trace).grant first = some grant →
    (ledger trace).grant second = some grant → first = second
  paid : ∀ charge ∈ (ledger trace).charges, Pays state.decisions (priority charge.1) charge.2
  few : ∀ grant, ((ledger trace).charges.map Prod.snd).count grant ≤ retries + 1
  senders : (ledger trace).charges.map Prod.fst = senders trace

variable {budget : RateLimitBudget} {retries : Nat} {priority : ι → CallPriority}
  {trace : Trace ι service} {state state' : SharedClient} {task : ι}

theorem Accounts.new (created permits : Nat) :
    Accounts budget retries priority [] (SharedClient.new created permits) where
  budget := BudgetInvariant.new budget created
  decided := rfl
  counted := fun _ => rfl
  own := fun _ _ paid => by cases paid
  distinct := fun _ _ _ paid => by cases paid
  paid := fun _ member => by cases member
  few := fun _ => Nat.zero_le _
  senders := rfl

/-- A task that uses no grant has none left. -/
theorem Accounts.unpaid (accounts : Accounts budget retries priority trace state) (task : ι) :
    spent (httpEvents (trace.ofThread task)) =
      if (ledger trace).grant task = none then none
      else spent (httpEvents (trace.ofThread task)) := by
  rw [accounts.counted]
  split
  · rename_i none
    rw [none]
    rfl
  · rfl

/-- An event that concerns neither the budget nor a request keeps the accounts. -/
theorem Accounts.silent (accounts : Accounts budget retries priority trace state)
    {event : ServiceEvent} (unrecorded : ∀ ledger : Ledger ι, ledger.record (task, event) = ledger)
    (unspent : ∀ count, wireSpend count event = count)
    (unsent : RustMist.senders [(task, event)] = []) (decisions : state'.decisions = state.decisions)
    (window : state'.window = state.window) (latest : state'.latest = state.latest) :
    Accounts budget retries priority (trace ++ [(task, event)]) state' := by
  have same : ledger (trace ++ [(task, event)]) = ledger trace := by rw [ledger_snoc, unrecorded]
  constructor
  · rw [decisions, window, latest]
    exact accounts.budget
  · rw [same, decisions]
    exact accounts.decided
  · intro other
    rw [same, spent_ofThread, unspent, ite_self]
    exact accounts.counted other
  · rw [same, decisions]
    exact accounts.own
  · rw [same]
    exact accounts.distinct
  · rw [same, decisions]
    exact accounts.paid
  · rw [same]
    exact accounts.few
  · rw [same, senders_append, unsent, List.append_nil]
    exact accounts.senders

/-- A decision of the budget that grants nothing keeps the accounts. -/
theorem Accounts.ungranted (accounts : Accounts budget retries priority trace state)
    {call : BudgetCall} (after : state.latest ≤ call.elapsedAt) {event : ServiceEvent}
    (grant : ι → Option Nat)
    (recorded : (ledger trace).record (task, event) =
      { ledger trace with decided := (ledger trace).decided + 1, grant := grant })
    (unsent : RustMist.senders [(task, event)] = [])
    (kept : ∀ other, grant other = none ∨ grant other = (ledger trace).grant other)
    (spends : ∀ other, spent (httpEvents (Trace.ofThread (trace ++ [(task, event)]) other)) =
      if grant other = none then none else spent (httpEvents (trace.ofThread other))) :
    Accounts budget retries priority (trace ++ [(task, event)]) (state.decide budget call) := by
  have same : ledger (trace ++ [(task, event)]) =
      { ledger trace with decided := (ledger trace).decided + 1, grant := grant } := by
    rw [ledger_snoc, recorded]
  have old (other : ι) (index : Nat) (uses : grant other = some index) :
      (ledger trace).grant other = some index := by
    rcases kept other with none | same
    · rw [none] at uses
      cases uses
    · rw [← same, uses]
  constructor
  · exact accounts.budget.decide call after
  · rw [same]
    change _ = (state.decisions ++ [_]).length
    rw [List.length_append, ← accounts.decided]
    rfl
  · intro other
    rw [spends, same, accounts.counted]
    dsimp only
    split
    · rename_i none
      rw [none]
      rfl
    · rename_i some
      rw [(kept other).resolve_left some]
  · intro other index uses
    rw [same] at uses
    exact (accounts.own other index (old other index uses)).append _
  · intro first second index one two
    rw [same] at one two
    exact accounts.distinct first second index (old first index one) (old second index two)
  · intro charge member
    rw [same] at member
    exact (accounts.paid charge member).append _
  · rw [same]
    exact accounts.few
  · rw [same, senders_append, unsent, List.append_nil]
    exact accounts.senders

/-- No two tasks use one grant when one of them takes a grant that no task uses. -/
theorem distinct_update {grants : ι → Option Nat} {task : ι} {issued : Nat}
    (distinct : ∀ first second grant, grants first = some grant → grants second = some grant →
      first = second)
    (unused : ∀ other, grants other ≠ some issued) :
    ∀ first second grant, Function.update grants task (some issued) first = some grant →
      Function.update grants task (some issued) second = some grant → first = second := by
  intro first second grant one two
  by_cases mine : first = task <;> by_cases mine' : second = task
  · exact mine.trans mine'.symm
  · rw [mine, Function.update_self] at one
    rw [Function.update_of_ne mine', ← one] at two
    exact absurd two (unused second)
  · rw [mine', Function.update_self] at two
    rw [Function.update_of_ne mine, ← two] at one
    exact absurd one (unused first)
  · rw [Function.update_of_ne mine] at one
    rw [Function.update_of_ne mine'] at two
    exact distinct first second grant one two

/-- A grant is used by the task that asked for it. -/
theorem Accounts.granted (accounts : Accounts budget retries priority trace state)
    {call : BudgetCall} (after : state.latest ≤ call.elapsedAt) {status : BudgetStatus}
    (asked : call.request = .tryAcquire (priority task))
    (outcome : (budget.decide state.window call).1.outcome = .ok status) :
    Accounts budget retries priority
      (trace ++ [(task, ⟨.http (.tryAcquire (priority task)), .ok status⟩)])
      (state.decide budget call) := by
  have same : ledger (trace ++ [(task, ⟨.http (.tryAcquire (priority task)), .ok status⟩)]) =
      { ledger trace with
        decided := (ledger trace).decided + 1
        grant := Function.update (ledger trace).grant task (some (ledger trace).decided) } :=
    ledger_snoc _ _
  have fresh (grant : Nat) (old : grant < state.decisions.length) :
      grant ≠ (ledger trace).decided := by
    rw [accounts.decided]
    omega
  have unissued (other : ι) : (ledger trace).grant other ≠ some (ledger trace).decided :=
    fun uses => fresh _ (accounts.own other _ uses).lt rfl
  have pays : Pays (state.decide budget call).decisions (priority task)
      (ledger trace).decided := by
    refine ⟨(budget.decide state.window call).1, ?_, ?_⟩
    · rw [accounts.decided]
      exact List.getElem?_concat_length
    · have request : (budget.decide state.window call).1.request = call.request := rfl
      rw [BudgetDecision.granted, request, asked, outcome]
      simp
  constructor
  · exact accounts.budget.decide call after
  · rw [same]
    change _ = (state.decisions ++ [_]).length
    rw [List.length_append, ← accounts.decided]
    rfl
  · intro other
    rw [spent_ofThread, same]
    dsimp only
    split
    · rename_i mine
      subst mine
      have unused : ((ledger trace).charges.map Prod.snd).count (ledger trace).decided = 0 := by
        apply List.count_eq_zero.mpr
        intro member
        obtain ⟨charge, charged, index⟩ := List.mem_map.mp member
        exact fresh charge.2 (accounts.paid charge charged).lt index
      rw [Function.update_self, Option.map_some, unused]
      rfl
    · rename_i theirs
      rw [Function.update_of_ne (Ne.symm theirs)]
      exact accounts.counted other
  · intro other grant uses
    rw [same] at uses
    by_cases mine : other = task
    · subst mine
      dsimp only at uses
      rw [Function.update_self] at uses
      obtain rfl := Option.some.inj uses
      exact pays
    · dsimp only at uses
      rw [Function.update_of_ne mine] at uses
      exact (accounts.own other grant uses).append _
  · intro first second grant one two
    rw [same] at one two
    exact distinct_update accounts.distinct unissued first second grant one two
  · intro charge member
    rw [same] at member
    exact (accounts.paid charge member).append _
  · rw [same]
    exact accounts.few
  · rw [same, senders_append]
    exact (List.append_nil _).symm ▸ accounts.senders

/-- An HTTP request is charged to the grant that its task uses. -/
theorem Accounts.sent (accounts : Accounts budget retries priority trace state) {count : Nat}
    (unspent : spent (httpEvents (trace.ofThread task)) = some count) (few : count ≤ retries)
    (method : HttpMethod) (url : Url) (body : Option String)
    (answer : Except String HttpResponse) :
    Accounts budget retries priority
      (trace ++ [(task, ⟨.http (.send method url body), answer⟩)]) state := by
  rw [accounts.counted, Option.map_eq_some_iff] at unspent
  obtain ⟨grant, uses, rfl⟩ := unspent
  have same : ledger (trace ++ [(task, ⟨.http (.send method url body), answer⟩)]) =
      { ledger trace with charges := (ledger trace).charges ++ [(task, grant)] } := by
    rw [ledger_snoc]
    simp [Ledger.record, uses]
  have counts (index : Nat) :
      (((ledger trace).charges ++ [(task, grant)]).map Prod.snd).count index =
        ((ledger trace).charges.map Prod.snd).count index + if grant = index then 1 else 0 := by
    rw [List.map_append, List.count_append, List.map_singleton, List.count_singleton]
    simp
  constructor
  · exact accounts.budget
  · rw [same]
    exact accounts.decided
  · intro other
    rw [spent_ofThread, same, accounts.counted]
    dsimp only
    split
    · rename_i mine
      subst mine
      rw [uses, Option.map_some, Option.map_some, counts, if_pos rfl]
      rfl
    · rename_i theirs
      cases uses' : (ledger trace).grant other with
      | none => rfl
      | some index =>
          have different : grant ≠ index := by
            rintro rfl
            exact theirs (accounts.distinct task other grant uses uses')
          rw [Option.map_some, Option.map_some, counts, if_neg different, Nat.add_zero]
  · rw [same]
    exact accounts.own
  · rw [same]
    exact accounts.distinct
  · intro charge member
    rw [same] at member
    rcases List.mem_append.mp member with old | last
    · exact accounts.paid charge old
    · rw [List.mem_singleton.mp last]
      exact accounts.own task grant uses
  · intro index
    rw [same]
    dsimp only
    rw [counts]
    have before := accounts.few index
    split
    · rename_i charged
      subst charged
      omega
    · exact before
  · rw [same, senders_append]
    dsimp only
    rw [List.map_append, accounts.senders]
    rfl

/-- Every step of a task keeps the accounts. -/
theorem Accounts.step {client : HttpMistRetryClient} {op : ServiceOp} {answer : op.Answer}
    (accounts : Accounts budget client.max429Retries.toNat priority trace state)
    (allowed : ChargeStep client (priority task) (trace.ofThread task) op)
    (step : state.Step budget op answer state') :
    Accounts budget client.max429Retries.toNat priority (trace ++ [(task, ⟨op, answer⟩)])
      state' := by
  cases op with
  | acquirePermit =>
      obtain ⟨_, rfl⟩ := step
      exact accounts.silent (fun _ => rfl) (fun _ => rfl) rfl rfl rfl rfl
  | releasePermit =>
      obtain rfl : state' = { state with freePermits := state.freePermits + 1 } := step
      exact accounts.silent (fun _ => rfl) (fun _ => rfl) rfl rfl rfl rfl
  | tool own =>
      obtain rfl : state' = state := step
      exact accounts.silent (fun _ => rfl) (fun _ => rfl) rfl rfl rfl rfl
  | http own =>
      cases own with
      | tryAcquire given =>
          obtain rfl : given = priority task := allowed
          obtain ⟨call, asked, after, outcome, rfl⟩ := step
          cases answer with
          | ok status => exact accounts.granted after asked outcome
          | error spent =>
              refine accounts.ungranted after (Function.update (ledger trace).grant task none) rfl rfl
                (fun other => ?_) fun other => ?_
              · by_cases mine : other = task
                · rw [mine, Function.update_self]
                  exact .inl rfl
                · rw [Function.update_of_ne mine]
                  exact .inr rfl
              · rw [spent_ofThread]
                by_cases mine : task = other
                · rw [if_pos mine, mine, Function.update_self, if_pos rfl]
                  rfl
                · rw [if_neg mine, Function.update_of_ne (Ne.symm mine)]
                  exact accounts.unpaid other
      | budgetStatus =>
          obtain ⟨call, asked, after, outcome, rfl⟩ := step
          refine accounts.ungranted after (ledger trace).grant rfl rfl (fun _ => .inr rfl)
            fun other => ?_
          rw [spent_ofThread]
          exact (ite_self _).trans (accounts.unpaid other)
      | send method url body =>
          obtain rfl : state' = state := step
          obtain ⟨count, unspent, few⟩ := allowed
          exact accounts.sent unspent few method url body answer
      | buildRequest method url =>
          obtain rfl : state' = state := step
          exact accounts.silent (fun _ => rfl) (fun _ => rfl) rfl rfl rfl rfl
      | sleep wait =>
          obtain rfl : state' = state := step
          exact accounts.silent (fun _ => rfl) (fun _ => rfl) rfl rfl rfl rfl

/-- The grants of a window to calls of standard priority stay below its cap. -/
theorem grantsOf_standard_le {decisions : List BudgetDecision}
    (justified : ∀ before decision after, decisions = before ++ decision :: after →
      Justified budget before decision) (window : Nat) :
    grantsOf .standard window decisions ≤ budget.standardCap.toNat := by
  induction decisions using List.reverseRecOn with
  | nil => exact Nat.zero_le _
  | append_singleton decisions decision ih =>
      have early := ih fun before middle after split =>
        justified before middle (after ++ [decision]) (by rw [split]; simp)
      have last := (justified decisions decision [] rfl).standard
      rw [grantsOf_append, grantsOf_singleton]
      split
      · rename_i counted
        rw [Bool.and_eq_true, beq_iff_eq] at counted
        obtain ⟨granted, rfl⟩ := counted
        have below := last granted
        rw [grants] at below
        omega
      · exact early

/-- This counts the requests whose task and grant are kept. -/
def Ledger.requests (ledger : Ledger ι) (decisions : List BudgetDecision)
    (kept : ι → BudgetDecision → Bool) : Nat :=
  ledger.charges.countP fun charge => decisions[charge.2]?.any (kept charge.1)

/-- The requests of some grants are so many times these grants at most. -/
theorem Accounts.requests_le (accounts : Accounts budget retries priority trace state)
    (kept : ι → BudgetDecision → Bool) (counted : BudgetDecision → Bool)
    (covered : ∀ task decision, decision.granted (priority task) = true →
      kept task decision = true → counted decision = true) :
    (ledger trace).requests state.decisions kept ≤
      (retries + 1) * state.decisions.countP counted := by
  calc (ledger trace).requests state.decisions kept
      ≤ (ledger trace).charges.countP fun charge => state.decisions[charge.2]?.any counted := by
        apply List.countP_mono_left
        intro charge member keeps
        obtain ⟨decision, found, granted⟩ := accounts.paid charge member
        rw [found] at keeps ⊢
        exact covered charge.1 decision granted keeps
    _ = ((ledger trace).charges.map Prod.snd).countP fun index =>
          state.decisions[index]?.any counted := by
        rw [List.countP_map]
        rfl
    _ ≤ (retries + 1) * (List.range state.decisions.length).countP fun index =>
          state.decisions[index]?.any counted := by
        refine countP_le_mul _ (fun index member => ?_) accounts.few
        obtain ⟨charge, charged, rfl⟩ := List.mem_map.mp member
        exact (accounts.paid charge charged).lt
    _ = (retries + 1) * state.decisions.countP counted := by rw [countP_positions]

theorem granted_any {decision : BudgetDecision} {priority : CallPriority}
    (granted : decision.granted priority = true) :
    (decision.granted .standard || decision.granted .reserved) = true := by
  cases priority with
  | standard => rw [granted, Bool.true_or]
  | reserved => rw [granted, Bool.or_true]

end Accounts

section Sharing

variable {ι : Type} [DecidableEq ι] [ServerPlatform]

/-- However the tasks interleave, each HTTP request is charged to a unit that the budget granted to
its task with the priority of its caller. The requests that are charged to a window are no more than
the retries allow for the units of the limit, those for callers of standard priority leave the
reserve alone, and those for the units of any hour are at most twice as many. -/
theorem budget_shared (handler : MistHandler) (client : HttpMistRetryClient)
    (joinedQuery : String → String → Option (List (String × String))) (budget : RateLimitBudget)
    (created permits : Nat) (tasks : ι → Task) {trace : Trace ι service}
    {pool : ι → ServiceProgram (Option Unit)} {state : SharedClient}
    (run : Interleaved (sharedWorld budget)
      (fun task => (tasks task).program handler client joinedQuery)
      (SharedClient.new created permits) trace pool state) :
    (ledger trace).charges.map Prod.fst = senders trace ∧
    (∀ charge ∈ (ledger trace).charges,
      Pays state.decisions (tasks charge.1).priority charge.2) ∧
    (∀ window, (ledger trace).requests state.decisions (fun _ grant => grant.window == window) ≤
      (client.max429Retries.toNat + 1) * budget.hourlyLimit.toNat) ∧
    (∀ window, (ledger trace).requests state.decisions (fun task grant =>
        (tasks task).priority == .standard && grant.window == window) ≤
      (client.max429Retries.toNat + 1) *
        (budget.hourlyLimit.toNat - budget.humanReserve.toNat)) ∧
    ∀ start, (ledger trace).requests state.decisions (fun _ grant =>
        decide (start ≤ grant.finishedAt ∧ grant.finishedAt < start + rateWindow)) ≤
      (client.max429Retries.toNat + 1) * (2 * budget.hourlyLimit.toNat) := by
  have steps : ∀ task, ((tasks task).program handler client joinedQuery).Ensures (S := service)
      (ChargeStep client (tasks task).priority) (fun _ _ => True) [] :=
    fun task => over_charges ((tasks task).sends)
  have accounts : Accounts budget client.max429Retries.toNat (fun task => (tasks task).priority)
      trace state :=
    Interleaved.invariant steps (Accounts.new created permits)
      (fun trace state state' task op answer kept allowed step => kept.step allowed step) run
  refine ⟨accounts.senders, accounts.paid, fun window => ?_, fun window => ?_, fun start => ?_⟩
  · have requests := accounts.requests_le (fun _ grant => grant.window == window)
      (grantedIn window) fun task decision granted here => by
        rw [grantedIn, granted_any granted, here]
        rfl
    have bounded := Nat.le_trans (countP_grantedIn_le window state.decisions)
      (accounts.budget.bounded window)
    exact Nat.le_trans requests (Nat.mul_le_mul_left _ bounded)
  · have requests := accounts.requests_le
      (fun task grant => (tasks task).priority == .standard && grant.window == window)
      (fun decision => decision.granted .standard && decision.window == window)
      fun task decision granted kept => by
        rw [Bool.and_eq_true, beq_iff_eq] at kept
        rw [kept.1] at granted
        rw [granted, kept.2]
        rfl
    have bounded := grantsOf_standard_le accounts.budget.justified window
    rw [budget.standardCap_toNat] at bounded
    exact Nat.le_trans requests (Nat.mul_le_mul_left _ bounded)
  · have requests := accounts.requests_le
      (fun _ grant => decide (start ≤ grant.finishedAt ∧ grant.finishedAt < start + rateWindow))
      (fun decision => (decision.granted .standard || decision.granted .reserved) &&
        decide (start ≤ decision.finishedAt ∧ decision.finishedAt < start + rateWindow))
      fun task decision granted inside => by
        rw [granted_any granted, inside]
        rfl
    exact Nat.le_trans requests (Nat.mul_le_mul_left _ (accounts.budget.hour start))

end Sharing

end RustMist

namespace RustMist.Network

/-- The three requests of the apply are charged to its two units. -/
theorem budget_shared_created :
    (ledger wireTrace).charges.map Prod.fst = senders wireTrace ∧
    (∀ charge ∈ (ledger wireTrace).charges,
      Pays inspected.decisions (wireTasks charge.1).priority charge.2) ∧
    (∀ window, (ledger wireTrace).requests inspected.decisions
        (fun _ grant => grant.window == window) ≤
      (writeClient.max429Retries.toNat + 1) * RateLimitBudget.mistDefault.hourlyLimit.toNat) ∧
    (∀ window, (ledger wireTrace).requests inspected.decisions (fun task grant =>
        (wireTasks task).priority == .standard && grant.window == window) ≤
      (writeClient.max429Retries.toNat + 1) * (RateLimitBudget.mistDefault.hourlyLimit.toNat -
        RateLimitBudget.mistDefault.humanReserve.toNat)) ∧
    ∀ start, (ledger wireTrace).requests inspected.decisions (fun _ grant =>
        decide (start ≤ grant.finishedAt ∧ grant.finishedAt < start + rateWindow)) ≤
      (writeClient.max429Retries.toNat + 1) *
        (2 * RateLimitBudget.mistDefault.hourlyLimit.toNat) := by
  obtain ⟨pool, run, _⟩ := shared_runs
  exact budget_shared handler writeClient (fun _ _ => none) .mistDefault 0 1 wireTasks run

end RustMist.Network
