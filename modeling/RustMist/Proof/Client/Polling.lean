import RustMist.Construction.Core.RateLimit
import Mathlib.Data.List.Basic
import Mathlib.Tactic.Common

/-! What a reading of the budget does to the calls after it. -/

namespace RustMist

/-- The verdict of a call is whether it was granted; a reading of the status has none. -/
def BudgetDecision.verdict (decision : BudgetDecision) : Option Bool :=
  match decision.request with
  | .status => none
  | .tryAcquire priority => some (decision.granted priority)

def verdicts (decisions : List BudgetDecision) : List Bool :=
  decisions.filterMap BudgetDecision.verdict

theorem verdicts_append (first second : List BudgetDecision) :
    verdicts (first ++ second) = verdicts first ++ verdicts second := List.filterMap_append

namespace RateLimitBudget

variable (budget : RateLimitBudget)

/-- The window that a run of calls leaves. -/
def windowAfter (window : Window) : List BudgetCall → Window
  | [] => window
  | call :: rest => windowAfter (budget.decide window call).2 rest

theorem decisions_cons (window : Window) (call : BudgetCall) (rest : List BudgetCall) :
    budget.decisions window (call :: rest) =
      (budget.decide window call).1 :: budget.decisions (budget.decide window call).2 rest := rfl

theorem decisions_append (window : Window) (first second : List BudgetCall) :
    budget.decisions window (first ++ second) =
      budget.decisions window first ++ budget.decisions (budget.windowAfter window first) second := by
  induction first generalizing window with
  | nil => rfl
  | cons call rest ih =>
      rw [List.cons_append, decisions_cons, decisions_cons, windowAfter, ih, List.cons_append]

variable {budget} {window : Window} {call : BudgetCall}

theorem resetIfElapsed_open {elapsedAt restartedAt : Nat}
    (fresh : elapsedAt < window.startedAt + rateWindow) :
    resetIfElapsed window elapsedAt restartedAt = window := by
  have positive : 0 < rateWindow := by decide
  rw [resetIfElapsed, if_neg (by omega)]

theorem resetIfElapsed_elapsed {elapsedAt restartedAt : Nat}
    (elapsed : rateWindow ≤ elapsedAt - window.startedAt) :
    resetIfElapsed window elapsedAt restartedAt = ⟨restartedAt, 0⟩ := if_pos elapsed

theorem decide_status (asks : call.request = .status) :
    (budget.decide window call).2 = resetIfElapsed window call.elapsedAt call.restartedAt := by
  obtain ⟨request, elapsedAt, restartedAt, finishedAt, ordered⟩ := call
  obtain rfl : request = .status := asks
  rfl

theorem verdict_status (asks : call.request = .status) :
    (budget.decide window call).1.verdict = none := by
  obtain ⟨request, elapsedAt, restartedAt, finishedAt, ordered⟩ := call
  obtain rfl : request = .status := asks
  rfl

/-- A call looks at the window only after the reset. -/
theorem decide_congr {window' : Window}
    (same : resetIfElapsed window call.elapsedAt call.restartedAt =
      resetIfElapsed window' call.elapsedAt call.restartedAt) :
    budget.decide window call = budget.decide window' call := by
  obtain ⟨request, elapsedAt, restartedAt, finishedAt, ordered⟩ := call
  cases request with
  | status => simp only [decide, status, same]
  | tryAcquire priority => simp only [decide, tryAcquire, same]

/-- A status call has no verdict of its own. -/
theorem verdicts_status (asks : call.request = .status) (rest : List BudgetCall) :
    verdicts (budget.decisions window (call :: rest)) =
      verdicts (budget.decisions
        (resetIfElapsed window call.elapsedAt call.restartedAt) rest) := by
  rw [decisions_cons, verdicts, List.filterMap_cons_none (verdict_status asks), decide_status asks,
    verdicts]

/-- A budget without calls denies every call. -/
theorem verdict_spent (none' : budget.hourlyLimit = 0) (window window' : Window)
    (call : BudgetCall) :
    (budget.decide window call).1.verdict = (budget.decide window' call).1.verdict := by
  obtain ⟨request, elapsedAt, restartedAt, finishedAt, ordered⟩ := call
  cases request with
  | status => rfl
  | tryAcquire priority =>
      have cap : budget.cap priority = 0 := by
        cases priority with
        | standard =>
            apply UInt32.toNat_inj.mp
            change budget.standardCap.toNat = 0
            rw [standardCap, saturatingSub_toNat, none']
            exact Nat.zero_sub _
        | reserved => exact none'
      have denied (window : Window) : (budget.decide window
          ⟨.tryAcquire priority, elapsedAt, restartedAt, finishedAt, ordered⟩).1.verdict =
            some false := by
        have spent : (0 : UInt32) ≤ (resetIfElapsed window elapsedAt restartedAt).used :=
          UInt32.zero_le
        simp only [decide, tryAcquire, cap, if_pos spent]
        simp [BudgetDecision.verdict, BudgetDecision.granted]
      rw [denied, denied]

end RateLimitBudget

theorem clockOrdered_append {latest : Nat} {before after : List BudgetCall} {call : BudgetCall} :
    clockOrdered latest (before ++ call :: after) ↔
      clockOrdered latest (before ++ [call]) ∧ clockOrdered call.finishedAt after := by
  induction before generalizing latest with
  | nil => simp [clockOrdered]
  | cons first rest ih =>
      simp only [List.cons_append, clockOrdered, ih, and_assoc]

section Filling

variable {budget : RateLimitBudget}

/-- A reserved call that takes no time. -/
def reservedCall (at' : Nat) : BudgetCall :=
  ⟨.tryAcquire .reserved, at', at', at', Nat.le_refl _, Nat.le_refl _⟩

/-- Calls at one instant fill an open window up to the limit. -/
theorem windowAfter_fill {start at' : Nat} (inside : at' < start + rateWindow) (count : Nat)
    {used : UInt32} (room : used.toNat + count ≤ budget.hourlyLimit.toNat) :
    ∃ used' : UInt32, used'.toNat = used.toNat + count ∧
      budget.windowAfter ⟨start, used⟩ (List.replicate count (reservedCall at')) =
        ⟨start, used'⟩ := by
  induction count generalizing used with
  | zero => exact ⟨used, rfl, rfl⟩
  | succ count ih =>
      have word := budget.hourlyLimit.toNat_lt
      have next : (used + 1).toNat = used.toNat + 1 := by
        rw [UInt32.toNat_add]
        exact Nat.mod_eq_of_lt (by change used.toNat + 1 < 2 ^ 32; omega)
      obtain ⟨used', total, filled⟩ := ih (show (used + 1).toNat + count ≤ _ by omega)
      refine ⟨used', by omega, ?_⟩
      have kept : RateLimitBudget.resetIfElapsed ⟨start, used⟩ at' at' = ⟨start, used⟩ :=
        RateLimitBudget.resetIfElapsed_open inside
      have below : ¬budget.cap .reserved ≤ used := by
        rw [UInt32.le_iff_toNat_le]
        change ¬budget.hourlyLimit.toNat ≤ _
        omega
      have step : (budget.decide ⟨start, used⟩ (reservedCall at')).2 = ⟨start, used + 1⟩ := by
        simp only [RateLimitBudget.decide, reservedCall, RateLimitBudget.tryAcquire, kept,
          if_neg below]
      rw [List.replicate_succ, RateLimitBudget.windowAfter, step]
      exact filled

/-- A call in a full open window is denied. -/
theorem verdict_full {start at' : Nat} (inside : at' < start + rateWindow) {used : UInt32}
    (full : used.toNat = budget.hourlyLimit.toNat) :
    (budget.decide ⟨start, used⟩ (reservedCall at')).1.verdict = some false := by
  have kept : RateLimitBudget.resetIfElapsed ⟨start, used⟩ at' at' = ⟨start, used⟩ :=
    RateLimitBudget.resetIfElapsed_open inside
  have reached : budget.cap .reserved ≤ used := by
    rw [UInt32.le_iff_toNat_le, full]
    exact Nat.le_refl _
  simp only [RateLimitBudget.decide, reservedCall, RateLimitBudget.tryAcquire, kept, if_pos reached]
  rfl

/-- A call after the end of the window is granted. -/
theorem verdict_elapsed {window : Window} {at' : Nat}
    (elapsed : rateWindow ≤ at' - window.startedAt) (positive : 0 < budget.hourlyLimit.toNat) :
    (budget.decide window (reservedCall at')).1.verdict = some true := by
  have opened : RateLimitBudget.resetIfElapsed window at' at' = ⟨at', 0⟩ :=
    RateLimitBudget.resetIfElapsed_elapsed elapsed
  have below : ¬budget.cap .reserved ≤ (0 : UInt32) := by
    rw [UInt32.le_iff_toNat_le]
    change ¬budget.hourlyLimit.toNat ≤ 0
    omega
  simp only [RateLimitBudget.decide, reservedCall, RateLimitBudget.tryAcquire, opened,
    if_neg below]
  rfl

end Filling

section Polling

/-- The call starts a new window that is still open when the call ends. -/
def Disturbs (budget : RateLimitBudget) (window : Window) (call : BudgetCall) : Prop :=
  rateWindow ≤ call.elapsedAt - window.startedAt ∧
    call.finishedAt < call.restartedAt + rateWindow ∧ 0 < budget.hourlyLimit.toNat

/-- Some status calls are left out of a run, none of which disturbs it. -/
inductive Thinned (budget : RateLimitBudget) : Window → List BudgetCall → List BudgetCall → Prop where
  | nil (window : Window) : Thinned budget window [] []
  | keep {window : Window} (call : BudgetCall) {rest kept : List BudgetCall}
      (later : Thinned budget (budget.decide window call).2 rest kept) :
      Thinned budget window (call :: rest) (call :: kept)
  | leave {window : Window} (call : BudgetCall) {rest kept : List BudgetCall}
      (asks : call.request = .status) (quiet : ¬Disturbs budget window call)
      (later : Thinned budget (budget.decide window call).2 rest kept) :
      Thinned budget window (call :: rest) kept

/-- Two windows agree when they are equal or both have elapsed; without calls all windows do. -/
def Agree (budget : RateLimitBudget) (latest : Nat) (window window' : Window) : Prop :=
  window = window' ∨
    (rateWindow ≤ latest - window.startedAt ∧ rateWindow ≤ latest - window'.startedAt) ∨
      budget.hourlyLimit = 0

variable {budget : RateLimitBudget} {window window' : Window} {latest : Nat}

/-- A call in agreeing windows has one verdict and leaves agreeing windows. -/
theorem Agree.decide (agree : Agree budget latest window window') (call : BudgetCall)
    (after : latest ≤ call.elapsedAt) :
    (budget.decide window call).1.verdict = (budget.decide window' call).1.verdict ∧
      Agree budget call.finishedAt (budget.decide window call).2 (budget.decide window' call).2 := by
  rcases agree with rfl | ⟨elapsed, elapsed'⟩ | none'
  · exact ⟨rfl, .inl rfl⟩
  · have same : budget.decide window call = budget.decide window' call := by
      apply RateLimitBudget.decide_congr
      rw [RateLimitBudget.resetIfElapsed_elapsed (by omega),
        RateLimitBudget.resetIfElapsed_elapsed (by omega)]
    rw [same]
    exact ⟨rfl, .inl rfl⟩
  · exact ⟨RateLimitBudget.verdict_spent none' window window' call, .inr (.inr none')⟩

/-- A status call that does not disturb a window leaves one that agrees with it. -/
theorem Agree.status (agree : Agree budget latest window window') {call : BudgetCall}
    (after : latest ≤ call.elapsedAt) (asks : call.request = .status)
    (quiet : ¬Disturbs budget window call) :
    Agree budget call.finishedAt (budget.decide window call).2 window' := by
  have started := call.ordered
  rw [RateLimitBudget.decide_status asks]
  by_cases elapsed : rateWindow ≤ call.elapsedAt - window.startedAt
  · rw [RateLimitBudget.resetIfElapsed_elapsed elapsed]
    by_cases none' : budget.hourlyLimit = 0
    · exact .inr (.inr none')
    · have positive : 0 < budget.hourlyLimit.toNat := by
        by_contra zero
        exact none' (UInt32.toNat_inj.mp (by change budget.hourlyLimit.toNat = 0; omega))
      have long : ¬call.finishedAt < call.restartedAt + rateWindow :=
        fun short => quiet ⟨elapsed, short, positive⟩
      have elapsed' : rateWindow ≤ call.elapsedAt - window'.startedAt := by
        rcases agree with rfl | ⟨_, elapsed'⟩ | none''
        · exact elapsed
        · omega
        · exact absurd none'' none'
      refine .inr (.inl ⟨?_, by omega⟩)
      change rateWindow ≤ call.finishedAt - call.restartedAt
      omega
  · rw [RateLimitBudget.resetIfElapsed, if_neg elapsed]
    rcases agree with rfl | ⟨elapsed', _⟩ | none'
    · exact .inl rfl
    · omega
    · exact .inr (.inr none')

/-- A run and a thinned run from agreeing windows have the same verdicts. -/
theorem Thinned.verdicts_eq {calls kept : List BudgetCall} (thinned : Thinned budget window calls kept)
    (agree : Agree budget latest window window') (ordered : clockOrdered latest calls) :
    verdicts (budget.decisions window calls) = verdicts (budget.decisions window' kept) := by
  induction thinned generalizing window' latest with
  | nil => rfl
  | keep call later ih =>
      obtain ⟨same, agree'⟩ := agree.decide call ordered.1
      have tail := ih agree' ordered.2
      rw [verdicts, verdicts] at tail
      rw [RateLimitBudget.decisions_cons, RateLimitBudget.decisions_cons, verdicts, verdicts,
        List.filterMap_cons, List.filterMap_cons, same, tail]
  | leave call asks quiet later ih =>
      rw [RateLimitBudget.verdicts_status asks, ← RateLimitBudget.decide_status asks]
      exact ih (agree.status ordered.1 asks quiet) ordered.2

theorem Thinned.refl (window : Window) (calls : List BudgetCall) :
    Thinned budget window calls calls := by
  induction calls generalizing window with
  | nil => exact .nil _
  | cons call rest ih => exact .keep call (ih _)

theorem Thinned.prepend {calls kept : List BudgetCall} (before : List BudgetCall)
    (thinned : Thinned budget (budget.windowAfter window before) calls kept) :
    Thinned budget window (before ++ calls) (before ++ kept) := by
  induction before generalizing window with
  | nil => exact thinned
  | cons call rest ih => exact .keep call (ih thinned)

/-- The calls that tell a disturbed run from one without the disturbance: they fill the window
from this instant on, and the last one comes when the disturbed window has elapsed. -/
def probes (budget : RateLimitBudget) (at' last : Nat) : List BudgetCall :=
  List.replicate budget.hourlyLimit.toNat (reservedCall at') ++ [reservedCall last]

theorem verdicts_probes (budget : RateLimitBudget) {start at' : Nat} (last : Nat) (inside : at' < start + rateWindow) :
    ∃ used : UInt32, used.toNat = budget.hourlyLimit.toNat ∧
      (verdicts (budget.decisions ⟨start, 0⟩ (probes budget at' last))).getLast? =
        (budget.decide ⟨start, used⟩ (reservedCall last)).1.verdict := by
  have room : (0 : UInt32).toNat + budget.hourlyLimit.toNat ≤ budget.hourlyLimit.toNat := by
    have zero : (0 : UInt32).toNat = 0 := rfl
    omega
  obtain ⟨used, total, filled⟩ := windowAfter_fill inside budget.hourlyLimit.toNat room
  have zero : (0 : UInt32).toNat = 0 := rfl
  refine ⟨used, by omega, ?_⟩
  rw [probes, RateLimitBudget.decisions_append, filled, verdicts_append,
    RateLimitBudget.decisions_cons]
  have asked : (budget.decide ⟨start, used⟩ (reservedCall last)).1.verdict =
      some ((budget.decide ⟨start, used⟩ (reservedCall last)).1.granted .reserved) := rfl
  change (_ ++ List.filterMap _ [_]).getLast? = _
  rw [List.filterMap_cons_some asked, List.filterMap_nil, List.getLast?_append, asked]
  rfl

/-- After a disturbing call some later call has another verdict than without it. -/
theorem Disturbs.verdicts_ne {call : BudgetCall} (disturbs : Disturbs budget window call)
    (asks : call.request = .status) : ∃ after, clockOrdered call.finishedAt after ∧
      verdicts (budget.decisions window (call :: after)) ≠
        verdicts (budget.decisions window after) := by
  obtain ⟨elapsed, short, positive⟩ := disturbs
  have started := call.ordered
  have wide : 1 < rateWindow := by decide
  let at' := max call.finishedAt (call.restartedAt + 1)
  have late : call.finishedAt ≤ at' ∧ call.restartedAt < at' ∧ at' < call.restartedAt + rateWindow :=
    ⟨Nat.le_max_left _ _, Nat.le_max_right _ _, max_lt short (by omega)⟩
  have orderedFill (count : Nat) : clockOrdered at'
      (List.replicate count (reservedCall at') ++ [reservedCall (call.restartedAt + rateWindow)]) := by
    induction count with
    | zero => exact ⟨le_of_lt late.2.2, trivial⟩
    | succ count ih => exact ⟨le_refl at', ih⟩
  refine ⟨probes budget at' (call.restartedAt + rateWindow), ?_, fun same => ?_⟩
  · obtain ⟨count, more⟩ := Nat.exists_eq_succ_of_ne_zero (ne_of_gt positive)
    rw [probes, more]
    exact ⟨late.1, orderedFill count⟩
  · -- Without the call the first probe starts the window, so that the last one finds it full.
    have restart : budget.decisions window (probes budget at' (call.restartedAt + rateWindow)) =
        budget.decisions ⟨at', 0⟩ (probes budget at' (call.restartedAt + rateWindow)) := by
      obtain ⟨count, more⟩ := Nat.exists_eq_succ_of_ne_zero (ne_of_gt positive)
      rw [probes, more, List.replicate_succ, List.cons_append, RateLimitBudget.decisions_cons,
        RateLimitBudget.decisions_cons]
      have first : budget.decide window (reservedCall at') =
          budget.decide ⟨at', 0⟩ (reservedCall at') := by
        apply RateLimitBudget.decide_congr
        change RateLimitBudget.resetIfElapsed window at' at' =
          RateLimitBudget.resetIfElapsed ⟨at', 0⟩ at' at'
        rw [RateLimitBudget.resetIfElapsed_elapsed (by omega),
          RateLimitBudget.resetIfElapsed_open (show at' < at' + rateWindow by omega)]
      rw [first]
    rw [RateLimitBudget.verdicts_status asks, RateLimitBudget.resetIfElapsed_elapsed elapsed,
      restart] at same
    obtain ⟨used, _, last⟩ := verdicts_probes budget (call.restartedAt + rateWindow) late.2.2
    obtain ⟨used', full, last'⟩ := verdicts_probes budget (call.restartedAt + rateWindow)
      (show at' < at' + rateWindow by omega)
    rw [same, last', verdict_full (by omega) full, verdict_elapsed (by dsimp only; omega) positive]
      at last
    cases last

/-- In every run the status calls that do not disturb it can be left out, and a status call can be
left out of every run that goes on from it exactly when it does not disturb its window. -/
theorem status_readOnly_iff (hourlyLimit humanReserve : UInt32) (created : Nat) :
    let budget := RateLimitBudget.new hourlyLimit humanReserve
    let start : Window := ⟨created, 0⟩
    (∀ calls kept, clockOrdered created calls → Thinned budget start calls kept →
      verdicts (budget.decisions start calls) = verdicts (budget.decisions start kept)) ∧
    ∀ before call, clockOrdered created (before ++ [call]) → call.request = .status →
      ((∀ after, clockOrdered created (before ++ call :: after) →
          verdicts (budget.decisions start (before ++ call :: after)) =
            verdicts (budget.decisions start (before ++ after))) ↔
        ¬Disturbs budget (budget.windowAfter start before) call) := by
  intro budget start
  have thinned : ∀ calls kept, clockOrdered created calls → Thinned budget start calls kept →
      verdicts (budget.decisions start calls) = verdicts (budget.decisions start kept) :=
    fun calls kept ordered thinned => thinned.verdicts_eq (.inl rfl) ordered
  refine ⟨thinned, fun before call ordered asks => ⟨fun readOnly disturbs => ?_, ?_⟩⟩
  · obtain ⟨after, later, differ⟩ := disturbs.verdicts_ne asks
    have same := readOnly after (clockOrdered_append.mpr ⟨ordered, later⟩)
    rw [budget.decisions_append, budget.decisions_append, verdicts_append, verdicts_append] at same
    exact differ (List.append_cancel_left same)
  · intro quiet after ordered'
    exact thinned _ _ ordered' (.prepend before (.leave call asks quiet (.refl _ _)))

end Polling

section Runs

/-- A status call at the end of the first hour, two calls after it and the same calls without it. -/
def pollCall : BudgetCall := ⟨.status, rateWindow, rateWindow, rateWindow, by decide⟩

def pollProbes : List BudgetCall :=
  [reservedCall (rateWindow + 1), reservedCall (2 * rateWindow)]

/-- A poll moves the window, so that a later call is granted that is denied without it. -/
theorem poll_feeds_caller :
    clockOrdered 0 (pollCall :: pollProbes) ∧
      verdicts ((RateLimitBudget.new 1 0).decisions ⟨0, 0⟩ (pollCall :: pollProbes)) =
        [true, true] ∧
      verdicts ((RateLimitBudget.new 1 0).decisions ⟨0, 0⟩ pollProbes) = [true, false] := by
  refine ⟨⟨by decide, by decide, by decide, trivial⟩, by decide, by decide⟩

/-- A poll between two calls of the first hour. -/
def earlyPoll : BudgetCall := ⟨.status, 11, 11, 11, by decide⟩

/-- A poll within an hour that has begun can be left out, and one that begins an hour cannot. -/
theorem status_readOnly_iff_early :
    (∀ after, clockOrdered 0 ([reservedCall 3] ++ earlyPoll :: after) →
        verdicts ((RateLimitBudget.new 1 0).decisions ⟨0, 0⟩
          ([reservedCall 3] ++ earlyPoll :: after)) =
          verdicts ((RateLimitBudget.new 1 0).decisions ⟨0, 0⟩ ([reservedCall 3] ++ after))) ∧
      ¬∀ after, clockOrdered 0 ([reservedCall 3] ++ pollCall :: after) →
        verdicts ((RateLimitBudget.new 1 0).decisions ⟨0, 0⟩
          ([reservedCall 3] ++ pollCall :: after)) =
          verdicts ((RateLimitBudget.new 1 0).decisions ⟨0, 0⟩ ([reservedCall 3] ++ after)) := by
  have quiet : ¬Disturbs (.new 1 0) ((RateLimitBudget.new 1 0).windowAfter ⟨0, 0⟩ [reservedCall 3])
      earlyPoll := fun disturbs => absurd disturbs.1 (by decide)
  have disturbs : Disturbs (.new 1 0)
      ((RateLimitBudget.new 1 0).windowAfter ⟨0, 0⟩ [reservedCall 3]) pollCall :=
    ⟨by decide, by decide, by decide⟩
  constructor
  · exact ((status_readOnly_iff 1 0 0).2 [reservedCall 3] earlyPoll
      ⟨by decide, by decide, trivial⟩ rfl).mpr quiet
  · intro readOnly
    exact ((status_readOnly_iff 1 0 0).2 [reservedCall 3] pollCall
      ⟨by decide, by decide, trivial⟩ rfl).mp readOnly disturbs

end Runs

end RustMist
