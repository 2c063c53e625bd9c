import RustMist.Construction.Core.RateLimit
import Mathlib.Data.List.Basic
import Mathlib.Data.List.Count
import Mathlib.Tactic.Common

/-! What the hourly budget grants over a run of calls. -/

namespace RustMist

namespace RateLimitBudget

theorem standardCap_toNat (budget : RateLimitBudget) :
    budget.standardCap.toNat = budget.hourlyLimit.toNat - budget.humanReserve.toNat :=
  saturatingSub_toNat _ _

theorem cap_le_limit (budget : RateLimitBudget) (priority : CallPriority) :
    (budget.cap priority).toNat ≤ budget.hourlyLimit.toNat := by
  cases priority with
  | standard =>
      change budget.standardCap.toNat ≤ _
      rw [standardCap_toNat]
      omega
  | reserved => exact Nat.le_refl _

end RateLimitBudget

section Counting

theorem grantsOf_append (priority : CallPriority) (window : Nat)
    (first second : List BudgetDecision) :
    grantsOf priority window (first ++ second) =
      grantsOf priority window first + grantsOf priority window second := List.countP_append

theorem grants_append (window : Nat) (first second : List BudgetDecision) :
    grants window (first ++ second) = grants window first + grants window second := by
  unfold grants
  rw [grantsOf_append, grantsOf_append]
  omega

theorem grantsOf_singleton (priority : CallPriority) (window : Nat)
    (decision : BudgetDecision) :
    grantsOf priority window [decision] =
      if decision.granted priority && decision.window == window then 1 else 0 :=
  List.countP_singleton

theorem grantsOf_other {priority : CallPriority} {window : Nat} {decision : BudgetDecision}
    (other : decision.window ≠ window) : grantsOf priority window [decision] = 0 := by
  have different : (decision.window == window) = false := beq_eq_false_iff_ne.mpr other
  rw [grantsOf_singleton, different, Bool.and_false]
  rfl

theorem grants_other {window : Nat} {decision : BudgetDecision}
    (other : decision.window ≠ window) : grants window [decision] = 0 := by
  rw [grants, grantsOf_other other, grantsOf_other other]

theorem grantsOf_eq_zero {priority : CallPriority} {window : Nat}
    {decisions : List BudgetDecision}
    (others : ∀ decision ∈ decisions, decision.window ≠ window) :
    grantsOf priority window decisions = 0 := by
  apply List.countP_eq_zero.mpr
  intro decision member granted
  rw [Bool.and_eq_true, beq_iff_eq] at granted
  exact others decision member granted.2

end Counting

section Invariant

/-- A decision is justified by the grants of its window so far. -/
structure Justified (budget : RateLimitBudget) (before : List BudgetDecision)
    (decision : BudgetDecision) : Prop where
  standard : decision.granted .standard = true →
    grants decision.window before < budget.standardCap.toNat
  reserved : decision.request = .tryAcquire .reserved → decision.granted .reserved = false →
    grants decision.window before = budget.hourlyLimit.toNat ∧
      budget.humanReserve.toNat ≤ grantsOf .reserved decision.window before

/-- The later of two decisions was made in the same window or at least an hour later. -/
def Apart (first second : BudgetDecision) : Prop :=
  first.window = second.window ∨
    first.finishedAt ≤ second.window ∧ first.window + rateWindow ≤ second.window

/-- This invariant relates the window to the decisions made so far. -/
structure BudgetInvariant (budget : RateLimitBudget) (history : List BudgetDecision)
    (window : Window) (latest : Nat) : Prop where
  used : window.used.toNat = grants window.startedAt history
  standard : grantsOf .standard window.startedAt history ≤ budget.standardCap.toNat
  bounded : ∀ start, grants start history ≤ budget.hourlyLimit.toNat
  justified : ∀ before decision after, history = before ++ decision :: after →
    Justified budget before decision
  apart : history.Pairwise Apart
  earlier : ∀ decision ∈ history, decision.window = window.startedAt ∨
    decision.finishedAt ≤ window.startedAt ∧ decision.window + rateWindow ≤ window.startedAt
  within : ∀ decision ∈ history,
    decision.window ≤ decision.finishedAt ∧ decision.finishedAt ≤ latest
  started : window.startedAt ≤ latest

variable {budget : RateLimitBudget} {history : List BudgetDecision} {window : Window}
  {latest : Nat}

theorem BudgetInvariant.new (budget : RateLimitBudget) (created : Nat) :
    BudgetInvariant budget [] ⟨created, 0⟩ created where
  used := rfl
  standard := Nat.zero_le _
  bounded := fun _ => Nat.zero_le _
  justified := fun before _ _ split => by simp at split
  apart := List.Pairwise.nil
  earlier := fun _ member => by cases member
  within := fun _ member => by cases member
  started := Nat.le_refl _

/-- A reset opens a window that no decision has used. -/
theorem BudgetInvariant.reset (holds : BudgetInvariant budget history window latest)
    {elapsedAt restartedAt : Nat} (after : latest ≤ elapsedAt)
    (ordered : elapsedAt ≤ restartedAt) :
    BudgetInvariant budget history
      (RateLimitBudget.resetIfElapsed window elapsedAt restartedAt) restartedAt := by
  have started := holds.started
  have within (decision : BudgetDecision) (member : decision ∈ history) :
      decision.window ≤ decision.finishedAt ∧ decision.finishedAt ≤ restartedAt := by
    have now := holds.within decision member
    omega
  unfold RateLimitBudget.resetIfElapsed
  split
  · rename_i elapsed
    have positive : 0 < rateWindow := by decide
    have before (decision : BudgetDecision) (member : decision ∈ history) :
        decision.finishedAt ≤ restartedAt ∧ decision.window + rateWindow ≤ restartedAt := by
      have now := holds.within decision member
      rcases holds.earlier decision member with same | earlier <;> omega
    have fresh (priority : CallPriority) : grantsOf priority restartedAt history = 0 := by
      apply grantsOf_eq_zero
      intro decision member same
      have old := before decision member
      omega
    constructor
    · change 0 = grants restartedAt history
      rw [grants, fresh, fresh]
    · change grantsOf .standard restartedAt history ≤ _
      rw [fresh]
      exact Nat.zero_le _
    · exact holds.bounded
    · exact holds.justified
    · exact holds.apart
    · exact fun decision member => .inr (before decision member)
    · exact within
    · exact Nat.le_refl _
  · exact { holds with within := within, started := by omega }

/-- A decision in the open window keeps the invariant when it is justified and counted. -/
theorem BudgetInvariant.record (holds : BudgetInvariant budget history window latest)
    {decision : BudgetDecision} (used : UInt32) (here : decision.window = window.startedAt)
    (later : latest ≤ decision.finishedAt) (justified : Justified budget history decision)
    (counted : used.toNat = grants window.startedAt (history ++ [decision]))
    (limited : used.toNat ≤ budget.hourlyLimit.toNat)
    (standard : grantsOf .standard window.startedAt (history ++ [decision]) ≤
      budget.standardCap.toNat) :
    BudgetInvariant budget (history ++ [decision]) { window with used := used }
      decision.finishedAt := by
  have started := holds.started
  constructor
  · exact counted
  · exact standard
  · intro start
    by_cases same : decision.window = start
    · rw [← same, here, ← counted]
      exact limited
    · rw [grants_append, grants_other same]
      exact holds.bounded start
  · intro before middle after split
    rcases List.eq_nil_or_concat after with rfl | ⟨rest, last, rfl⟩
    · obtain ⟨rfl, last⟩ := List.append_inj' split rfl
      obtain rfl : decision = middle := List.singleton_inj.mp last
      exact justified
    · rw [List.concat_eq_append, ← List.cons_append, ← List.append_assoc] at split
      exact holds.justified before middle rest (List.append_inj' split rfl).1
  · rw [List.pairwise_append]
    refine ⟨holds.apart, List.pairwise_singleton _ _, fun first member second last => ?_⟩
    obtain rfl := List.mem_singleton.mp last
    rw [Apart, here]
    exact holds.earlier first member
  · intro other member
    rcases List.mem_append.mp member with old | last
    · exact holds.earlier other old
    · obtain rfl := List.mem_singleton.mp last
      exact .inl here
  · intro other member
    rcases List.mem_append.mp member with old | last
    · have now := holds.within other old
      omega
    · obtain rfl := List.mem_singleton.mp last
      omega
  · change window.startedAt ≤ _
    omega

end Invariant

section Step

theorem granted_error (request : BudgetRequest) (window finishedAt : Nat)
    (spent : BudgetExhausted) (priority : CallPriority) :
    BudgetDecision.granted ⟨request, window, finishedAt, .error spent⟩ priority = false :=
  Bool.and_false _

theorem granted_status (window finishedAt : Nat) (status : BudgetStatus)
    (priority : CallPriority) :
    BudgetDecision.granted ⟨.status, window, finishedAt, .ok status⟩ priority = false := by
  cases priority <;> rfl

variable {budget : RateLimitBudget} {history : List BudgetDecision} {window : Window}
  {latest : Nat}

/-- A decision that grants nothing changes no count. -/
theorem grantsOf_ungranted {decision : BudgetDecision}
    (ungranted : ∀ priority, decision.granted priority = false) (priority : CallPriority)
    (start : Nat) : grantsOf priority start (history ++ [decision]) =
      grantsOf priority start history := by
  rw [grantsOf_append, grantsOf_singleton, ungranted priority, Bool.false_and]
  rfl

theorem BudgetInvariant.ungranted (holds : BudgetInvariant budget history window latest)
    {decision : BudgetDecision} (here : decision.window = window.startedAt)
    (later : latest ≤ decision.finishedAt)
    (ungranted : ∀ priority, decision.granted priority = false)
    (justified : Justified budget history decision) :
    BudgetInvariant budget (history ++ [decision]) window decision.finishedAt := by
  have unchanged : grants window.startedAt (history ++ [decision]) =
      grants window.startedAt history := by
    rw [grants, grantsOf_ungranted ungranted, grantsOf_ungranted ungranted, grants]
  have limited := holds.bounded window.startedAt
  apply holds.record window.used here later justified
  · rw [unchanged]
    exact holds.used
  · rw [holds.used]
    exact limited
  · rw [grantsOf_ungranted ungranted]
    exact holds.standard

/-- A grant below the cap of its priority keeps the invariant. -/
theorem BudgetInvariant.granted (holds : BudgetInvariant budget history window latest)
    {finishedAt : Nat} (priority : CallPriority) (status : BudgetStatus)
    (later : latest ≤ finishedAt) (below : window.used.toNat < (budget.cap priority).toNat) :
    BudgetInvariant budget
      (history ++ [⟨.tryAcquire priority, window.startedAt, finishedAt, .ok status⟩])
      { window with used := window.used + 1 } finishedAt := by
  have used := holds.used
  have standard := holds.standard
  have capped := budget.cap_le_limit priority
  have word := budget.hourlyLimit.toNat_lt
  have next : (window.used + 1).toNat = window.used.toNat + 1 := by
    rw [UInt32.toNat_add]
    exact Nat.mod_eq_of_lt (by change window.used.toNat + 1 < 2 ^ 32; omega)
  have counted (other : CallPriority) : grantsOf other window.startedAt
      (history ++ [⟨.tryAcquire priority, window.startedAt, finishedAt, .ok status⟩]) =
      grantsOf other window.startedAt history + if priority = other then 1 else 0 := by
    rw [grantsOf_append, grantsOf_singleton]
    cases priority <;> cases other <;> simp [BudgetDecision.granted]
  have total : grants window.startedAt history =
      grantsOf .standard window.startedAt history + grantsOf .reserved window.startedAt history :=
    rfl
  apply holds.record (window.used + 1) rfl later
  · constructor
    · intro granted
      cases priority with
      | standard =>
          change grants window.startedAt history < _
          rw [← used]
          exact below
      | reserved => cases granted
    · intro asked denied
      cases priority with
      | standard => cases asked
      | reserved => cases denied
  · rw [next, grants, counted, counted]
    cases priority <;> simp <;> omega
  · omega
  · rw [counted]
    cases priority with
    | standard =>
        change window.used.toNat < budget.standardCap.toNat at below
        simp
        omega
    | reserved => simpa using standard

/-- A denial happens at the cap of the priority and keeps the invariant. -/
theorem BudgetInvariant.denied (holds : BudgetInvariant budget history window latest)
    {finishedAt : Nat} (priority : CallPriority) (later : latest ≤ finishedAt)
    (reached : (budget.cap priority).toNat ≤ window.used.toNat) :
    BudgetInvariant budget
      (history ++ [⟨.tryAcquire priority, window.startedAt, finishedAt, .error .exhausted⟩])
      window finishedAt := by
  apply holds.ungranted rfl later (granted_error _ _ _ _)
  constructor
  · intro granted
    rw [granted_error] at granted
    cases granted
  · intro asked _
    obtain rfl : priority = .reserved := BudgetRequest.tryAcquire.inj asked
    change grants window.startedAt history = _ ∧
      _ ≤ grantsOf .reserved window.startedAt history
    change budget.hourlyLimit.toNat ≤ _ at reached
    have used := holds.used
    have bounded := holds.bounded window.startedAt
    have standard := holds.standard
    have clamped := budget.clamped
    rw [budget.standardCap_toNat] at standard
    have total : grants window.startedAt history = grantsOf .standard window.startedAt history +
      grantsOf .reserved window.startedAt history := rfl
    constructor <;> omega

/-- Each call keeps the invariant. -/
theorem BudgetInvariant.decide (holds : BudgetInvariant budget history window latest)
    (call : BudgetCall) (after : latest ≤ call.elapsedAt) :
    BudgetInvariant budget (history ++ [(budget.decide window call).1])
      (budget.decide window call).2 call.finishedAt := by
  obtain ⟨request, elapsedAt, restartedAt, finishedAt, started, finished⟩ := call
  have opened := holds.reset after started
  unfold RateLimitBudget.decide
  cases request with
  | status =>
      apply opened.ungranted rfl finished (granted_status _ _ _)
      constructor
      · intro granted
        rw [granted_status] at granted
        cases granted
      · intro asked
        cases asked
  | tryAcquire priority =>
      dsimp only [RateLimitBudget.tryAcquire]
      split
      · rename_i reached
        rw [UInt32.le_iff_toNat_le] at reached
        exact opened.denied priority finished reached
      · rename_i below
        rw [UInt32.le_iff_toNat_le, Nat.not_le] at below
        exact opened.granted priority _ finished below

/-- A run of calls keeps the invariant. -/
theorem BudgetInvariant.run (holds : BudgetInvariant budget history window latest)
    (calls : List BudgetCall) (ordered : clockOrdered latest calls) :
    ∃ window' latest', BudgetInvariant budget (history ++ budget.decisions window calls) window'
      latest' := by
  induction calls generalizing history window latest with
  | nil =>
      refine ⟨window, latest, ?_⟩
      rw [RateLimitBudget.decisions, List.append_nil]
      exact holds
  | cons call rest ih =>
      have next := ih (holds.decide call ordered.1) ordered.2
      rw [List.append_assoc] at next
      exact next

end Step

section Sliding

variable {budget : RateLimitBudget} {history : List BudgetDecision} {window : Window}
  {latest : Nat}

/-- Of three grants in three windows the last finishes an hour after the first. -/
theorem apart_three {first second third : BudgetDecision} (apart : Apart first second)
    (apart' : Apart second third) (different : first.window ≠ second.window)
    (different' : second.window ≠ third.window) (within : third.window ≤ third.finishedAt) :
    first.finishedAt + rateWindow ≤ third.finishedAt := by
  rcases apart with same | ⟨before, _⟩
  · exact absurd same different
  · rcases apart' with same | ⟨_, hour⟩
    · exact absurd same different'
    · omega

/-- The grants of one hour come from at most two windows. -/
theorem two_windows (decisions : List BudgetDecision) (start : Nat)
    (apart : decisions.Pairwise Apart)
    (within : ∀ decision ∈ decisions, decision.window ≤ decision.finishedAt)
    (inside : ∀ decision ∈ decisions,
      start ≤ decision.finishedAt ∧ decision.finishedAt < start + rateWindow) :
    ∃ first second, ∀ decision ∈ decisions,
      decision.window = first ∨ decision.window = second := by
  cases decisions with
  | nil => exact ⟨0, 0, fun decision member => by cases member⟩
  | cons head rest =>
      have early := (inside head List.mem_cons_self).1
      by_cases same : ∀ decision ∈ rest, decision.window = head.window
      · refine ⟨head.window, head.window, fun decision member => .inl ?_⟩
        rcases List.mem_cons.mp member with rfl | later
        · rfl
        · exact same decision later
      · push Not at same
        obtain ⟨other, present, different⟩ := same
        refine ⟨head.window, other.window, fun decision member => ?_⟩
        by_contra neither
        rw [not_or] at neither
        rcases List.mem_cons.mp member with rfl | later
        · exact neither.1 rfl
        · have late := (inside decision (List.mem_cons_of_mem _ later)).2
          have late' := (inside other (List.mem_cons_of_mem _ present)).2
          have grown := within decision (List.mem_cons_of_mem _ later)
          have grown' := within other (List.mem_cons_of_mem _ present)
          rw [List.pairwise_cons] at apart
          have first := apart.1 other present
          have second := apart.1 decision later
          -- one of the two other windows comes first, and the last is an hour after the head
          obtain ⟨before, after, split⟩ := List.append_of_mem present
          rw [split, List.mem_append, List.mem_cons] at later
          rw [split, List.pairwise_append, List.pairwise_cons] at apart
          rcases later with earlier | rfl | afterwards
          · have between := apart.2.2.2 decision earlier other List.mem_cons_self
            have hour := apart_three second between (Ne.symm neither.1) neither.2 grown'
            omega
          · exact neither.2 rfl
          · have between := apart.2.2.1.1 decision afterwards
            have hour := apart_three first between (Ne.symm different) (Ne.symm neither.2) grown
            omega

theorem countP_le_add {α : Type} {kept first second : α → Bool} {values : List α}
    (covered : ∀ value ∈ values, kept value = true → first value = true ∨ second value = true) :
    values.countP kept ≤ values.countP first + values.countP second := by
  induction values with
  | nil => exact Nat.zero_le _
  | cons value rest ih =>
      have tail := ih fun later member => covered later (List.mem_cons_of_mem _ member)
      have head := covered value List.mem_cons_self
      have one : (if kept value = true then 1 else 0) ≤
          (if first value = true then 1 else 0) + if second value = true then 1 else 0 := by
        by_cases counted : kept value = true
        · rcases head counted with left | right
          · rw [if_pos counted, if_pos left]
            omega
          · rw [if_pos counted, if_pos right]
            omega
        · rw [if_neg counted]
          exact Nat.zero_le _
      rw [List.countP_cons, List.countP_cons, List.countP_cons]
      omega

/-- This holds of the grants of a window. -/
def grantedIn (window : Nat) (decision : BudgetDecision) : Bool :=
  (decision.granted .standard || decision.granted .reserved) && decision.window == window

theorem countP_grantedIn_le (window : Nat) (decisions : List BudgetDecision) :
    decisions.countP (grantedIn window) ≤ grants window decisions := by
  apply countP_le_add
  intro decision _ granted
  rw [grantedIn, Bool.and_eq_true, Bool.or_eq_true] at granted
  rw [Bool.and_eq_true, Bool.and_eq_true]
  exact granted.1.imp (fun standard => ⟨standard, granted.2⟩)
    (fun reserved => ⟨reserved, granted.2⟩)

/-- No hour holds more than twice the limit. -/
theorem BudgetInvariant.hour (holds : BudgetInvariant budget history window latest) (start : Nat) :
    grantsBetween start history ≤ 2 * budget.hourlyLimit.toNat := by
  let counted (decision : BudgetDecision) : Bool :=
    (decision.granted .standard || decision.granted .reserved) &&
      Decidable.decide (start ≤ decision.finishedAt ∧ decision.finishedAt < start + rateWindow)
  obtain ⟨first, second, covered⟩ := two_windows (history.filter counted) start
    (holds.apart.sublist List.filter_sublist)
    (fun decision member => (holds.within decision (List.mem_filter.mp member).1).1)
    (fun decision member => by
      have kept := (List.mem_filter.mp member).2
      rw [Bool.and_eq_true, decide_eq_true_iff] at kept
      exact kept.2)
  have split : grantsBetween start history ≤
      history.countP (grantedIn first) + history.countP (grantedIn second) := by
    apply countP_le_add
    intro decision member kept
    have granted := (Bool.and_eq_true _ _ ▸ kept).1
    rcases covered decision (List.mem_filter.mpr ⟨member, kept⟩) with same | same
    · exact .inl (by rw [grantedIn, granted, same, beq_self_eq_true]; rfl)
    · exact .inr (by rw [grantedIn, granted, same, beq_self_eq_true]; rfl)
  have one := countP_grantedIn_le first history
  have two := countP_grantedIn_le second history
  have bounded := holds.bounded first
  have bounded' := holds.bounded second
  omega

end Sliding

/-- The hourly budget bounds each window and each hour and keeps its reserve for humans. -/
theorem hourlyBudget_kept (hourlyLimit humanReserve : UInt32) (created : Nat)
    (calls : List BudgetCall) (ordered : clockOrdered created calls) :
    let decisions := (RateLimitBudget.new hourlyLimit humanReserve).decisions ⟨created, 0⟩ calls
    let reserve := min humanReserve.toNat hourlyLimit.toNat
    (∀ window, grants window decisions ≤ hourlyLimit.toNat) ∧
    (∀ before decision after, decisions = before ++ decision :: after →
      decision.granted .standard = true →
        grants decision.window before < hourlyLimit.toNat - reserve) ∧
    (∀ before decision after, decisions = before ++ decision :: after →
      decision.request = .tryAcquire .reserved → decision.granted .reserved = false →
        grants decision.window before = hourlyLimit.toNat ∧
          reserve ≤ grantsOf .reserved decision.window before) ∧
    ∀ start, grantsBetween start decisions ≤ 2 * hourlyLimit.toNat := by
  intro decisions reserve
  have holds := BudgetInvariant.new (RateLimitBudget.new hourlyLimit humanReserve) created
  obtain ⟨window, latest, kept⟩ := holds.run calls ordered
  rw [List.nil_append] at kept
  have clamped : (RateLimitBudget.new hourlyLimit humanReserve).humanReserve.toNat = reserve :=
    RateLimitBudget.min_toNat humanReserve hourlyLimit
  refine ⟨kept.bounded, fun before decision after split granted => ?_,
    fun before decision after split asked denied => ?_, kept.hour⟩
  · have below := (kept.justified before decision after split).standard granted
    rw [RateLimitBudget.standardCap_toNat, clamped] at below
    exact below
  · have reached := (kept.justified before decision after split).reserved asked denied
    rw [clamped] at reached
    exact reached

/-- Four calls in the first hour and one in the second. -/
def busyCalls : List BudgetCall :=
  [⟨.tryAcquire .standard, 4, 4, 4, by decide⟩, ⟨.tryAcquire .standard, 6, 6, 6, by decide⟩,
    ⟨.tryAcquire .reserved, 7, 7, 7, by decide⟩, ⟨.tryAcquire .reserved, 8, 8, 8, by decide⟩,
    ⟨.tryAcquire .standard, rateWindow + 9, rateWindow + 9, rateWindow + 9, by decide⟩]

/-- The decisions on them with a limit of two units, of which one is reserved. -/
def busyDecisions : List BudgetDecision := (RateLimitBudget.new 2 1).decisions ⟨0, 0⟩ busyCalls

/-- One standard call and one reserved call are granted in the first hour, and the two others are
refused. -/
theorem hourlyBudget_kept_busy :
    busyDecisions.map (fun decision => decision.granted .standard || decision.granted .reserved) =
        [true, false, true, false, true] ∧
      (∀ window, grants window busyDecisions ≤ 2) ∧
      (∀ before decision after, busyDecisions = before ++ decision :: after →
        decision.granted .standard = true → grants decision.window before < 2 - 1) ∧
      (∀ before decision after, busyDecisions = before ++ decision :: after →
        decision.request = .tryAcquire .reserved → decision.granted .reserved = false →
          grants decision.window before = 2 ∧ 1 ≤ grantsOf .reserved decision.window before) ∧
      ∀ start, grantsBetween start busyDecisions ≤ 2 * 2 :=
  ⟨by decide, hourlyBudget_kept 2 1 0 busyCalls
    ⟨Nat.zero_le _, (by decide : 4 ≤ 6), (by decide : 6 ≤ 7), (by decide : 7 ≤ 8), by decide,
      trivial⟩⟩

end RustMist
