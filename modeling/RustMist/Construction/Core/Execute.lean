import RustMist.Library.Program
import RustMist.Construction.Core.Client
import RustMist.Construction.Core.RateLimit

/-! The dispatch of one request over HTTP, with its bounded retries. -/

namespace RustMist

open Effects

section Transport

inductive HttpMethod where
  | get
  | post
  | put
  | patch
  | delete
deriving DecidableEq

structure HttpResponse where
  status : UInt16
  /-- The headers are looked up by name. -/
  headerStr : String → Option String
  body : List UInt8

/-- The two steps in which a request is not built. -/
inductive HttpRequestError where
  | url
  | authHeader

def HttpRequestError.reason : HttpRequestError → String
  | .url => "failed to build HTTP request"
  | .authHeader => "failed to set auth header"

/-- What a client does outside itself. A wait is counted in nanoseconds. -/
inductive HttpOp where
  | tryAcquire (priority : CallPriority)
  | budgetStatus
  | buildRequest (method : HttpMethod) (url : Url)
  | send (method : HttpMethod) (url : Url) (body : Option String)
  | sleep (wait : Nat)

abbrev HttpOp.Answer : HttpOp → Type
  | .tryAcquire _ => Except BudgetExhausted BudgetStatus
  | .budgetStatus => BudgetStatus
  | .buildRequest _ _ => Except HttpRequestError Unit
  | .send _ _ _ => Except String HttpResponse
  | .sleep _ => Unit

def http : Signature := ⟨HttpOp, HttpOp.Answer⟩

abbrev HttpProgram := Program http

abbrev HttpEvent := Event http

abbrev HttpHistory := History http

/-- Perform one operation. -/
abbrev dispatch (op : HttpOp) : HttpProgram op.Answer := Program.ask (S := http) op

end Transport

/-- A client that retries carries the limits of its retries. -/
structure HttpMistRetryClient extends HttpMistClient where
  max429Retries : UInt8
  maxRetryWait : Nat

/-- A call fails with an error or stops where its arithmetic overflows. -/
inductive CallFailure where
  | mist (error : MistError)
  | overflow

section Arithmetic

def fromMillis (millis : UInt64) : Nat := millis.toNat * 10 ^ 6

def fromSecs (secs : UInt64) : Nat := secs.toNat * 10 ^ 9

def checkedPow (base : UInt64) (exponent : Nat) : Option UInt64 :=
  if base.toNat ^ exponent < 2 ^ 64 then some (UInt64.ofNat (base.toNat ^ exponent)) else none

def checkedMul (first second : UInt64) : Option UInt64 :=
  if first.toNat * second.toNat < 2 ^ 64 then some (first * second) else none

def checkedSucc (value : UInt8) : Option UInt8 :=
  if value.toNat + 1 < 2 ^ 8 then some (value + 1) else none

/-- The wait doubles with each retry. -/
def backoffMillis (retriesUsed : UInt8) : Option UInt64 :=
  (checkedPow 2 retriesUsed.toNat).bind (checkedMul 200)

theorem checkedSucc_eq_some {value next : UInt8} (found : checkedSucc value = some next) :
    next.toNat = value.toNat + 1 := by
  rw [checkedSucc] at found
  split at found
  · rename_i inside
    rw [← Option.some.inj found, UInt8.toNat_add]
    exact Nat.mod_eq_of_lt inside
  · cases found

end Arithmetic

namespace HttpMistRetryClient

variable [Platform] (client : HttpMistRetryClient)

def httpMethod (operationId : String) : String → Except MistError HttpMethod
  | "GET" => .ok .get
  | "POST" => .ok .post
  | "PUT" => .ok .put
  | "PATCH" => .ok .patch
  | "DELETE" => .ok .delete
  | other => .error (.invalidRequest operationId ("unsupported HTTP method: " ++ other))

/-- A header says how long to wait, and the backoff applies without one. -/
def retryWait (headerRetryAfter : Option UInt64) (backoff : UInt64) : Nat :=
  min ((headerRetryAfter.map fromSecs).getD (fromMillis backoff)) client.maxRetryWait

/-- The request is sent again while it is rejected with 429 and retries are left. -/
def sendLoop (method : HttpMethod) (url : Url) (body : Option String) (retriesUsed : UInt8) :
    HttpProgram (Except CallFailure HttpResponse) := do
  match ← dispatch (.buildRequest method url) with
  | .error error => pure (.error (.mist (.service error.reason)))
  | .ok () => do
      match ← dispatch (.send method url body) with
      | .error error => pure (.error (.mist (.service ("HTTP request failed: " ++ error))))
      | .ok response =>
          if response.status ≠ 429 then pure (.ok response)
          else
            let headerRetryAfter := (response.headerStr "Retry-After").bind parseU64
            if _spent : client.max429Retries ≤ retriesUsed then
              pure (.error (.mist (.rateLimited headerRetryAfter)))
            else
              -- The backoff is computed before the header is looked at.
              match backoffMillis retriesUsed with
              | none => pure (.error .overflow)
              | some backoff =>
                  match _counted : checkedSucc retriesUsed with
                  | none => pure (.error .overflow)
                  | some next => do
                      dispatch (.sleep (client.retryWait headerRetryAfter backoff))
                      sendLoop method url body next
termination_by client.max429Retries.toNat - retriesUsed.toNat
decreasing_by
  have counted := checkedSucc_eq_some _counted
  rw [UInt8.le_iff_toNat_le] at _spent
  omega

/-- The body is read as JSON, as text or as bytes. -/
def responseBody (bytes : List UInt8) : MistResponseBody :=
  if bytes.isEmpty then .empty
  else
    match String.fromUTF8? ⟨bytes.toArray⟩ with
    | none => .binary bytes
    | some text =>
        match read : serdeFromStr text with
        | .ok json => .json ⟨json, Platform.fromStr_wellFormed text json read⟩
        | .error _ => .text text

-- The query pairs of the URL that a base and a relative reference give.
variable (joinedQuery : String → String → Option (List (String × String)))

/-- What is made of a response that is not rejected. -/
def finishCall (operationId : String) (response : HttpResponse) : Except CallFailure MistResponse :=
  if response.status = 410 then .error (.mist (.endpointRetired operationId))
  else
    let body := responseBody response.body
    let page := parsePageInfo response.headerStr
    .ok {
      operationId := operationId
      status := response.status
      body := body
      cursor := deriveNextCursor joinedQuery client.toHttpMistClient operationId body page
      page := page }

/-- An admitted call builds its URL and sends its request. -/
def sendCall (request : MistRequest) : HttpProgram (Except CallFailure MistResponse) :=
  match client.buildUrl request.operationId request.path request.query request.cursor with
  | .error error => pure (.error (.mist error))
  | .ok url =>
      match client.catalog.operation request.operationId with
      | none => pure (.error (.mist (.unknownOperation request.operationId)))
      | some operation =>
          match httpMethod request.operationId operation.method with
          | .error error => pure (.error (.mist error))
          | .ok method => do
              let body := request.json.map serdeToString
              match ← client.sendLoop method url body 0 with
              | .error failure => pure (.error failure)
              | .ok response => pure (client.finishCall joinedQuery request.operationId response)

def executeAs (request : MistRequest) (priority : CallPriority) :
    HttpProgram (Except CallFailure MistResponse) := do
  match ← dispatch (.tryAcquire priority) with
  | .error _ => do
      let status ← dispatch .budgetStatus
      pure (.error (.mist (.budgetExhausted status.used status.hourlyLimit status.humanReserve)))
  | .ok _ => client.sendCall joinedQuery request

end HttpMistRetryClient

end RustMist
