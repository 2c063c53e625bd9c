import Mathlib.Tactic.Common

/-! The errors that cross the client seam. -/

namespace RustMist

inductive MistError where
  | unknownOperation (operationId : String)
  | invalidRequest (operationId reason : String)
  | invalidResponse (operationId reason : String)
  | invalidCursor (reason : String)
  | rateLimited (retryAfterSecs : Option UInt64)
  | transportUnavailable
  | endpointRetired (operationId : String)
  | service (reason : String)
  | budgetExhausted (used hourlyLimit humanReserve : UInt32)
deriving DecidableEq, Repr

def MistError.toString : MistError → String
  | .unknownOperation operationId => "unknown Mist operation: " ++ operationId
  | .invalidRequest operationId reason =>
      "invalid Mist request for " ++ operationId ++ ": " ++ reason
  | .invalidResponse operationId reason =>
      "invalid Mist response for " ++ operationId ++ ": " ++ reason
  | .invalidCursor reason => "invalid Mist cursor: " ++ reason
  | .rateLimited _ => "Mist API rate-limited the request"
  | .transportUnavailable => "Mist client transport is unavailable"
  | .endpointRetired operationId =>
      "Mist API operation " ++ operationId ++ " has been retired by the vendor (HTTP 410); " ++
        "it needs a replacement operation, not a retry"
  | .service reason => "Mist API request failed: " ++ reason
  | .budgetExhausted used hourlyLimit humanReserve =>
      "Mist hourly call budget exhausted: used " ++ ToString.toString used ++ "/" ++
        ToString.toString hourlyLimit ++ " (" ++ ToString.toString humanReserve ++
        " reserved for human operators)"

/-- A call draws on the common part of the hourly budget or on the part kept for humans too. -/
inductive CallPriority where
  | standard
  | reserved
deriving DecidableEq, Repr

structure BudgetStatus where
  hourlyLimit : UInt32
  humanReserve : UInt32
  used : UInt32
  remainingStandard : UInt32
  remainingReserved : UInt32
deriving DecidableEq, Repr

end RustMist
