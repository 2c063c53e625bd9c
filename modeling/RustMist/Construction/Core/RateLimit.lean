import RustMist.Construction.Core.Error
import Mathlib.Algebra.Order.Ring.Nat

/-! The hourly call budget of one Mist token. -/

namespace RustMist

/-- The rate limit of Mist resets each hour. Instants count the nanoseconds of a clock. -/
def rateWindow : Nat := 3600 * 10 ^ 9

inductive BudgetExhausted where
  | exhausted
deriving DecidableEq, Repr

structure Window where
  startedAt : Nat
  used : UInt32

/-- The reserve of a budget is part of its limit. -/
structure RateLimitBudget where
  hourlyLimit : UInt32
  humanReserve : UInt32
  clamped : humanReserve.toNat ≤ hourlyLimit.toNat

/-- This difference stops at zero. -/
def saturatingSub (first second : UInt32) : UInt32 :=
  if second ≤ first then first - second else 0

theorem saturatingSub_toNat (first second : UInt32) :
    (saturatingSub first second).toNat = first.toNat - second.toNat := by
  unfold saturatingSub
  split
  · rename_i below
    exact UInt32.toNat_sub_of_le first second below
  · rename_i above
    rw [UInt32.le_iff_toNat_le] at above
    have zero : (0 : UInt32).toNat = 0 := rfl
    omega

namespace RateLimitBudget

theorem min_toNat (first second : UInt32) :
    (min first second).toNat = min first.toNat second.toNat := by
  change (if first ≤ second then first else second).toNat = _
  split
  · rename_i below
    exact (Nat.min_eq_left (UInt32.le_iff_toNat_le.mp below)).symm
  · rename_i above
    rw [UInt32.le_iff_toNat_le] at above
    exact (Nat.min_eq_right (by omega)).symm

def new (hourlyLimit humanReserve : UInt32) : RateLimitBudget where
  hourlyLimit := hourlyLimit
  humanReserve := min humanReserve hourlyLimit
  clamped := by
    rw [min_toNat]
    exact Nat.min_le_right _ _

def mistDefault : RateLimitBudget := new 5000 250

def standardCap (budget : RateLimitBudget) : UInt32 :=
  saturatingSub budget.hourlyLimit budget.humanReserve

def statusLocked (budget : RateLimitBudget) (window : Window) : BudgetStatus where
  hourlyLimit := budget.hourlyLimit
  humanReserve := budget.humanReserve
  used := window.used
  remainingStandard := saturatingSub budget.standardCap window.used
  remainingReserved := saturatingSub budget.hourlyLimit window.used

/-- The first reading of the clock decides about the reset, and the second starts the window. -/
def resetIfElapsed (window : Window) (elapsedAt restartedAt : Nat) : Window :=
  if rateWindow ≤ elapsedAt - window.startedAt then ⟨restartedAt, 0⟩ else window

def status (budget : RateLimitBudget) (window : Window) (elapsedAt restartedAt : Nat) :
    BudgetStatus × Window :=
  let window := resetIfElapsed window elapsedAt restartedAt
  (budget.statusLocked window, window)

def cap (budget : RateLimitBudget) : CallPriority → UInt32
  | .standard => budget.standardCap
  | .reserved => budget.hourlyLimit

def tryAcquire (budget : RateLimitBudget) (priority : CallPriority) (window : Window)
    (elapsedAt restartedAt : Nat) : Except BudgetExhausted BudgetStatus × Window :=
  let window := resetIfElapsed window elapsedAt restartedAt
  if budget.cap priority ≤ window.used then (.error .exhausted, window)
  else
    let window := { window with used := window.used + 1 }
    (.ok (budget.statusLocked window), window)

end RateLimitBudget

section Runs

inductive BudgetRequest where
  | tryAcquire (priority : CallPriority)
  | status
deriving DecidableEq

/-- A call holds the lock while it reads the clock and until it finishes. -/
structure BudgetCall where
  request : BudgetRequest
  elapsedAt : Nat
  restartedAt : Nat
  finishedAt : Nat
  ordered : elapsedAt ≤ restartedAt ∧ restartedAt ≤ finishedAt

/-- A decision names the window in which the call was decided. -/
structure BudgetDecision where
  request : BudgetRequest
  window : Nat
  finishedAt : Nat
  outcome : Except BudgetExhausted BudgetStatus

namespace RateLimitBudget

def decide (budget : RateLimitBudget) (window : Window) (call : BudgetCall) :
    BudgetDecision × Window :=
  let (outcome, next) :=
    match call.request with
    | .tryAcquire priority => budget.tryAcquire priority window call.elapsedAt call.restartedAt
    | .status =>
        let (status, next) := budget.status window call.elapsedAt call.restartedAt
        (.ok status, next)
  (⟨call.request, next.startedAt, call.finishedAt, outcome⟩, next)

/-- The lock lets one call after the other decide. -/
def decisions (budget : RateLimitBudget) (window : Window) : List BudgetCall → List BudgetDecision
  | [] => []
  | call :: rest =>
      let (decision, next) := budget.decide window call
      decision :: budget.decisions next rest

end RateLimitBudget

/-- The clock of a run does not go back from one call to the next. -/
def clockOrdered : Nat → List BudgetCall → Prop
  | _, [] => True
  | latest, call :: rest => latest ≤ call.elapsedAt ∧ clockOrdered call.finishedAt rest

def BudgetDecision.granted (decision : BudgetDecision) (priority : CallPriority) : Bool :=
  decision.request = .tryAcquire priority &&
    match decision.outcome with
    | .ok _ => true
    | .error _ => false

/-- This counts the grants of one priority in the window with a given start. -/
def grantsOf (priority : CallPriority) (window : Nat) (decisions : List BudgetDecision) : Nat :=
  decisions.countP fun decision => decision.granted priority && decision.window == window

def grants (window : Nat) (decisions : List BudgetDecision) : Nat :=
  grantsOf .standard window decisions + grantsOf .reserved window decisions

/-- This counts the grants that finish in the hour that starts at an instant. -/
def grantsBetween (start : Nat) (decisions : List BudgetDecision) : Nat :=
  decisions.countP fun decision =>
    (decision.granted .standard || decision.granted .reserved) &&
      decide (start ≤ decision.finishedAt ∧ decision.finishedAt < start + rateWindow)

end Runs

end RustMist
