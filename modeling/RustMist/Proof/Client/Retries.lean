import RustMist.Construction.Core.Execute
import RustMist.Construction.Server.Reference
import RustMist.Proof.Client.Pages

/-! What the bounded retries of a call send, charge and wait. -/

namespace RustMist

open Effects Effects.Program

section Events

def isSend (event : HttpEvent) : Bool :=
  match event.op with
  | .send _ _ _ => true
  | _ => false

/-- The budget has granted one unit. -/
def isCharge : HttpEvent → Bool
  | ⟨.tryAcquire _, .ok _⟩ => true
  | _ => false

/-- The server has answered a request with 429. -/
def isRejection : HttpEvent → Bool
  | ⟨.send _ _ _, .ok response⟩ => response.status = 429
  | _ => false

def sendCount (history : HttpHistory) : Nat := history.countP isSend

def chargeCount (history : HttpHistory) : Nat := history.countP isCharge

def rejectionCount (history : HttpHistory) : Nat := history.countP isRejection

theorem sendCount_snoc (history : HttpHistory) (event : HttpEvent) :
    sendCount (history ++ [event]) = sendCount history + if isSend event then 1 else 0 := by
  rw [sendCount, List.countP_append, List.countP_singleton, ← sendCount]

theorem chargeCount_snoc (history : HttpHistory) (event : HttpEvent) :
    chargeCount (history ++ [event]) = chargeCount history + if isCharge event then 1 else 0 := by
  rw [chargeCount, List.countP_append, List.countP_singleton, ← chargeCount]

theorem rejectionCount_snoc (history : HttpHistory) (event : HttpEvent) :
    rejectionCount (history ++ [event]) =
      rejectionCount history + if isRejection event then 1 else 0 := by
  rw [rejectionCount, List.countP_append, List.countP_singleton, ← rejectionCount]

end Events

section Backoff

/-- The backoff overflows from this retry on. -/
def firstOverflow : Nat := 57

theorem backoffMillis_eq_none_iff {retriesUsed : UInt8} :
    backoffMillis retriesUsed = none ↔ firstOverflow ≤ retriesUsed.toNat := by
  have two : (2 : UInt64).toNat = 2 := rfl
  have factor : (200 : UInt64).toNat = 200 := rfl
  rw [backoffMillis, checkedPow, two, firstOverflow]
  by_cases small : retriesUsed.toNat < 57
  · have below : 2 ^ retriesUsed.toNat ≤ 2 ^ 56 := Nat.pow_le_pow_right (by decide) (by omega)
    have word : (UInt64.ofNat (2 ^ retriesUsed.toNat)).toNat = 2 ^ retriesUsed.toNat :=
      UInt64.toNat_ofNat_of_lt' (by change 2 ^ retriesUsed.toNat < 2 ^ 64; omega)
    rw [if_pos (by omega), Option.bind_some, checkedMul, factor, word, if_pos (by omega)]
    simp only [reduceCtorEq, false_iff]
    omega
  · simp only [show 57 ≤ retriesUsed.toNat by omega, iff_true]
    by_cases inside : 2 ^ retriesUsed.toNat < 2 ^ 64
    · have above : 2 ^ 57 ≤ 2 ^ retriesUsed.toNat := Nat.pow_le_pow_right (by decide) (by omega)
      have word : (UInt64.ofNat (2 ^ retriesUsed.toNat)).toNat = 2 ^ retriesUsed.toNat :=
        UInt64.toNat_ofNat_of_lt' inside
      rw [if_pos inside, Option.bind_some, checkedMul, factor, word, if_neg (by omega)]
    · rw [if_neg inside, Option.bind_none]

end Backoff

section Loop

variable {client : HttpMistRetryClient}

/-- A call waits no longer than its client allows. -/
def WaitStep (client : HttpMistRetryClient) : HttpOp → Prop
  | .sleep wait => wait ≤ client.maxRetryWait
  | _ => True

/-- The retry at which the backoff overflows is reached. -/
def Overflows (client : HttpMistRetryClient) (history : HttpHistory) : Prop :=
  firstOverflow < client.max429Retries.toNat ∧ firstOverflow < rejectionCount history

/-- What holds at the end of a call: the requests are bounded, one unit is charged, and the
arithmetic overflows in the one case only. -/
structure RetryGoal (client : HttpMistRetryClient) (history : HttpHistory) (overflowed : Prop) :
    Prop where
  sends : sendCount history ≤ 1 + client.max429Retries.toNat
  charges : chargeCount history = 1
  overflow : overflowed ↔ Overflows client history

/-- The loop starts after one charge and as many rejections as retries. -/
structure RetryInvariant (client : HttpMistRetryClient) (past : HttpHistory)
    (retriesUsed : UInt8) : Prop where
  sends : sendCount past = retriesUsed.toNat
  charges : chargeCount past = 1
  rejections : rejectionCount past = retriesUsed.toNat
  bounded : retriesUsed.toNat ≤ client.max429Retries.toNat
  early : retriesUsed.toNat ≤ firstOverflow

section Step

variable {past : HttpHistory} {retriesUsed : UInt8}

/-- A request that is sent counts once, and an answer with 429 is one rejection more. -/
theorem RetryInvariant.counts (holds : RetryInvariant client past retriesUsed)
    (method : HttpMethod) (url : Url) (body : Option String) (built : Except HttpRequestError Unit) (answer : Except String HttpResponse) :
    let sent := past ++ [⟨.buildRequest method url, built⟩] ++ [⟨.send method url body, answer⟩]
    sendCount sent = retriesUsed.toNat + 1 ∧ chargeCount sent = 1 ∧
      rejectionCount sent = retriesUsed.toNat +
        if isRejection ⟨.send method url body, answer⟩ then 1 else 0 := by
  intro sent
  refine ⟨?_, ?_, ?_⟩
  · rw [sendCount_snoc, sendCount_snoc, holds.sends]
    rfl
  · rw [chargeCount_snoc, chargeCount_snoc, holds.charges]
    rfl
  · rw [rejectionCount_snoc, rejectionCount_snoc, holds.rejections]
    rfl

/-- A call that has sent its last request ends without an overflow. -/
theorem RetryInvariant.ends (holds : RetryInvariant client past retriesUsed)
    {sent : HttpHistory} (sends : sendCount sent ≤ retriesUsed.toNat + 1)
    (charges : chargeCount sent = 1)
    (rejections : rejectionCount sent ≤ retriesUsed.toNat ∨
      client.max429Retries.toNat ≤ retriesUsed.toNat)
    {overflowed : Prop} (fine : ¬overflowed) : RetryGoal client sent overflowed := by
  have bounded := holds.bounded
  have early := holds.early
  refine ⟨by omega, charges, iff_of_false fine ?_⟩
  rintro ⟨many, rejected⟩
  omega

variable {method : HttpMethod} {url : Url} {body : Option String}

/-- One pass of the loop ends the call, or waits and goes on with the next retry. -/
theorem sendLoop_step (holds : RetryInvariant client past retriesUsed)
    (later : ∀ next past', retriesUsed.toNat < client.max429Retries.toNat →
      next.toNat = retriesUsed.toNat + 1 → RetryInvariant client past' next →
      (client.sendLoop method url body next).Ensures (fun _ op => WaitStep client op)
        (fun history outcome => RetryGoal client history (outcome = .error .overflow)) past') :
    (client.sendLoop method url body retriesUsed).Ensures (fun _ op => WaitStep client op)
      (fun history outcome => RetryGoal client history (outcome = .error .overflow)) past := by
  rw [HttpMistRetryClient.sendLoop]
  refine ensures_ask_iff.mpr ⟨trivial, fun built => ?_⟩
  cases built with
  | error error =>
      have sends := sendCount_snoc past ⟨.buildRequest method url, .error error⟩
      have charges := chargeCount_snoc past ⟨.buildRequest method url, .error error⟩
      have rejections := rejectionCount_snoc past ⟨.buildRequest method url, .error error⟩
      rw [holds.sends] at sends
      rw [holds.charges] at charges
      rw [holds.rejections] at rejections
      exact holds.ends (sends.trans_le (Nat.le_succ _)) charges (.inl rejections.le) (by simp)
  | ok _ =>
      refine ensures_ask_iff.mpr ⟨trivial, fun answer => ?_⟩
      obtain ⟨sends, charges, rejections⟩ :=
        holds.counts method url body (.ok ()) answer
      cases answer with
      | error error => exact holds.ends sends.le charges (.inl rejections.le) (by simp)
      | ok response =>
          have judged : isRejection ⟨.send method url body, .ok response⟩ =
            decide (response.status = 429) := rfl
          rw [judged] at rejections
          dsimp only
          split
          · rename_i answered
            rw [decide_eq_false answered] at rejections
            exact holds.ends sends.le charges (.inl rejections.le) (by simp)
          · rename_i rejected
            rw [not_not] at rejected
            rw [decide_eq_true rejected, if_pos rfl] at rejections
            split
            · rename_i spent
              rw [UInt8.le_iff_toNat_le] at spent
              exact holds.ends sends.le charges (.inr spent) (by simp)
            · rename_i open'
              rw [UInt8.le_iff_toNat_le, Nat.not_le] at open'
              have early := holds.early
              split
              · rename_i overflows
                rw [backoffMillis_eq_none_iff] at overflows
                have reached : Overflows client _ := ⟨by omega, by rw [rejections]; omega⟩
                exact ⟨sends.le.trans (by omega), charges, iff_of_true rfl reached⟩
              · rename_i backoff found
                have fits : ¬firstOverflow ≤ retriesUsed.toNat := by
                  rw [← backoffMillis_eq_none_iff, found]
                  simp
                split
                · rename_i overflows
                  have word := client.max429Retries.toNat_lt
                  rw [checkedSucc, if_pos (by omega)] at overflows
                  cases overflows
                · rename_i next counted
                  have count := checkedSucc_eq_some counted
                  refine ensures_ask_iff.mpr ⟨Nat.min_le_right _ _, fun slept => ?_⟩
                  apply later next _ open' count
                  refine ⟨?_, ?_, ?_, by omega, by omega⟩
                  · rw [sendCount_snoc, sends, count]
                    rfl
                  · rw [chargeCount_snoc, charges]
                    rfl
                  · rw [rejectionCount_snoc, rejections, count]
                    rfl

/-- The loop keeps its bounds from every retry on. -/
theorem sendLoop_ensures (holds : RetryInvariant client past retriesUsed) :
    (client.sendLoop method url body retriesUsed).Ensures (fun _ op => WaitStep client op)
      (fun history outcome => RetryGoal client history (outcome = .error .overflow)) past := by
  induction left : client.max429Retries.toNat - retriesUsed.toNat generalizing past retriesUsed with
  | zero => exact sendLoop_step holds fun next past' more => by omega
  | succ left ih =>
      apply sendLoop_step holds
      intro next past' more count holds'
      exact ih holds' (by omega)

end Step

variable [Platform] {joinedQuery : String → String → Option (List (String × String))}
  {request : MistRequest} {priority : CallPriority}

/-- An admitted call keeps its bounds. -/
theorem sendCall_ensures {past : HttpHistory} (holds : RetryInvariant client past 0) :
    (client.sendCall joinedQuery request).Ensures (fun _ op => WaitStep client op)
      (fun history outcome => RetryGoal client history (outcome = .error .overflow)) past := by
  have quiet {overflowed : Prop} (fine : ¬overflowed) : RetryGoal client past overflowed :=
    holds.ends (holds.sends.le.trans (Nat.le_succ _)) holds.charges (.inl holds.rejections.le) fine
  unfold HttpMistRetryClient.sendCall
  split
  · exact quiet nofun
  · split
    · exact quiet nofun
    · split
      · exact quiet nofun
      · refine (sendLoop_ensures holds).bind fun history outcome reached => ?_
        cases outcome with
        | error failure =>
            refine ⟨reached.sends, reached.charges, ?_⟩
            rw [← reached.overflow]
            simp
        | ok response =>
            refine ⟨reached.sends, reached.charges, ?_⟩
            rw [← reached.overflow]
            simp only [reduceCtorEq, iff_false]
            unfold HttpMistRetryClient.finishCall
            split <;> nofun

/-- The budget has admitted the call. -/
def IsAdmitted (history : HttpHistory) : Prop :=
  ∃ priority status rest, history = ⟨.tryAcquire priority, .ok status⟩ :: rest

/-- A call is bounded in its requests, charges and waits, and its arithmetic does not overflow. -/
structure BoundedCall (client : HttpMistRetryClient) (history : HttpHistory)
    (outcome : Except CallFailure MistResponse) : Prop where
  sends : sendCount history ≤ 1 + client.max429Retries.toNat
  charges : IsAdmitted history → chargeCount history = 1
  refused : ¬IsAdmitted history → chargeCount history = 0 ∧ sendCount history = 0
  waits : ∀ event ∈ history, WaitStep client event.op
  fits : outcome ≠ .error .overflow

/-- The backoff is computed for a rejection after as many retries as make it overflow. -/
theorem executeAs_bounded_iff (joinedQuery : String → String → Option (List (String × String)))
    (client : HttpMistRetryClient) (request : MistRequest) (priority : CallPriority)
    (history : HttpHistory) (outcome : Except CallFailure MistResponse)
    (run : Completes (client.executeAs joinedQuery request priority) history outcome) :
    BoundedCall client history outcome ↔
      client.max429Retries.toNat ≤ 57 ∨ rejectionCount history ≤ 57 := by
  obtain ⟨answer, rest, rfl, later⟩ := (completes_perform_iff _ _ _ _).mp run
  cases answer with
  | error spent =>
      obtain ⟨status, rest, rfl, ended⟩ := (completes_perform_iff _ _ _ _).mp later
      obtain ⟨rfl, rfl⟩ := (completes_pure_iff _ _ _).mp ended
      have refused : ¬IsAdmitted [⟨.tryAcquire priority, .error spent⟩, ⟨.budgetStatus, status⟩] := by
        rintro ⟨_, _, _, same⟩
        cases same
      refine iff_of_true ⟨Nat.zero_le _, fun admitted => absurd admitted refused,
        fun _ => ⟨rfl, rfl⟩, ?_, nofun⟩ (.inr (Nat.zero_le _))
      intro event member
      rcases List.mem_cons.mp member with rfl | member
      · trivial
      · rw [List.mem_singleton.mp member]
        trivial
  | ok status =>
      have started : RetryInvariant client [⟨.tryAcquire priority, .ok status⟩] 0 :=
        ⟨rfl, rfl, rfl, Nat.zero_le _, Nat.zero_le _⟩
      have ensures : (client.sendCall joinedQuery request).Ensures _ _ _ := sendCall_ensures started
      have reached : RetryGoal client (⟨.tryAcquire priority, .ok status⟩ :: rest) _ :=
        ensures.guard_run later
      have waits : ∀ event ∈ rest, WaitStep client event.op :=
        fun event member => ensures.event_mem later member
      have admitted : IsAdmitted (⟨.tryAcquire priority, .ok status⟩ :: rest) :=
        ⟨priority, status, rest, rfl⟩
      constructor
      · intro bounded
        by_contra beyond
        rw [not_or, Nat.not_le, Nat.not_le] at beyond
        exact bounded.fits (reached.overflow.mpr beyond)
      · intro inside
        refine ⟨reached.sends, fun _ => reached.charges, fun refused => absurd admitted refused, ?_,
          fun overflowed => ?_⟩
        · intro event member
          rcases List.mem_cons.mp member with rfl | member
          · trivial
          · exact waits event member
        · obtain ⟨many, rejected⟩ := reached.overflow.mp overflowed
          unfold firstOverflow at many rejected
          omega

end Loop

section Runs

variable {client : HttpMistRetryClient} {method : HttpMethod} {url : Url} {body : Option String}
  {retriesUsed : UInt8} {response : HttpResponse}

/-- A request that is not rejected ends the loop. -/
theorem sendLoop_ends (accepted : response.status ≠ 429) :
    Completes (client.sendLoop method url body retriesUsed)
      [⟨.buildRequest method url, .ok ()⟩, ⟨.send method url body, .ok response⟩]
      (.ok response) := by
  rw [HttpMistRetryClient.sendLoop]
  apply Run.answered
  apply Run.answered
  dsimp only
  rw [if_pos accepted]
  exact .start _

theorem sendLoop_fails (reason : String) :
    Completes (client.sendLoop method url body retriesUsed)
      [⟨.buildRequest method url, .ok ()⟩, ⟨.send method url body, .error reason⟩]
      (.error (.mist (.service ("HTTP request failed: " ++ reason)))) := by
  rw [HttpMistRetryClient.sendLoop]
  apply Run.answered
  apply Run.answered
  exact .start _

/-- The wait before the next retry. -/
def waitAfter (client : HttpMistRetryClient) (response : HttpResponse) (retriesUsed : UInt8) : Nat :=
  client.retryWait ((response.headerStr "Retry-After").bind parseU64)
    ((backoffMillis retriesUsed).getD 0)

/-- A rejected request is sent again after a wait. -/
theorem sendLoop_retries (rejected : response.status = 429)
    (open' : retriesUsed.toNat < client.max429Retries.toNat)
    (early : retriesUsed.toNat < firstOverflow) {events : HttpHistory}
    {outcome : Except CallFailure HttpResponse}
    (later : Completes (client.sendLoop method url body (retriesUsed + 1)) events outcome) :
    Completes (client.sendLoop method url body retriesUsed)
      (⟨.buildRequest method url, .ok ()⟩ :: ⟨.send method url body, .ok response⟩ ::
        ⟨.sleep (waitAfter client response retriesUsed), ()⟩ :: events) outcome := by
  have unspent : ¬client.max429Retries ≤ retriesUsed := by
    rw [UInt8.le_iff_toNat_le]
    omega
  obtain ⟨backoff, found⟩ : ∃ backoff, backoffMillis retriesUsed = some backoff := by
    rw [← Option.ne_none_iff_exists', ne_eq, backoffMillis_eq_none_iff]
    omega
  have counted : checkedSucc retriesUsed = some (retriesUsed + 1) := by
    have word := client.max429Retries.toNat_lt
    exact if_pos (by omega)
  rw [HttpMistRetryClient.sendLoop, waitAfter, found]
  apply Run.answered
  apply Run.answered
  dsimp only
  rw [if_neg (not_not_intro rejected), dif_neg unspent]
  split
  · rename_i none'
    rw [counted] at none'
    cases none'
  · rename_i next' counted'
    rw [counted] at counted'
    obtain rfl := Option.some.inj counted'
    exact .answered later

/-- An admitted call makes of the response to its loop what it returns. -/
theorem executeAs_sends [Platform] {joinedQuery : String → String → Option (List (String × String))}
    {request : MistRequest} {operation : MistOperation} (priority : CallPriority)
    (built : client.buildUrl request.operationId request.path request.query request.cursor =
      .ok url)
    (found : client.catalog.operation request.operationId = some operation)
    (named : HttpMistRetryClient.httpMethod request.operationId operation.method = .ok method)
    (status : BudgetStatus) {events : HttpHistory} {outcome : Except CallFailure HttpResponse}
    (loop : Completes (client.sendLoop method url (request.json.map serdeToString) 0) events
      outcome) :
    Completes (client.executeAs joinedQuery request priority)
      (⟨.tryAcquire priority, .ok status⟩ :: events)
      (outcome.bind (client.finishCall joinedQuery request.operationId)) := by
  apply Run.answered
  dsimp only
  unfold HttpMistRetryClient.sendCall
  rw [built, found]
  dsimp only
  rw [named]
  rw [← List.append_nil events]
  refine Run.bind loop ?_
  cases outcome <;> exact .start _

/-- This server rejects every request and says nothing about the wait. -/
def rejection : HttpResponse := ⟨429, fun _ => none, []⟩

/-- The events of a loop whose requests are all rejected. -/
def rejectedEvents (client : HttpMistRetryClient) (method : HttpMethod) (url : Url)
    (body : Option String) (retriesUsed : UInt8) : Nat → HttpHistory
  | 0 => [⟨.buildRequest method url, .ok ()⟩, ⟨.send method url body, .ok rejection⟩]
  | left + 1 =>
      ⟨.buildRequest method url, .ok ()⟩ :: ⟨.send method url body, .ok rejection⟩ ::
        ⟨.sleep (waitAfter client rejection retriesUsed), ()⟩ ::
          rejectedEvents client method url body (retriesUsed + 1) left

theorem sendLoop_overflows (many : firstOverflow < client.max429Retries.toNat)
    (method : HttpMethod) (url : Url) (body : Option String) (left : Nat) {retriesUsed : UInt8}
    (reaches : retriesUsed.toNat + left = firstOverflow) :
    Completes (client.sendLoop method url body retriesUsed)
      (rejectedEvents client method url body retriesUsed left) (.error .overflow) := by
  induction left generalizing retriesUsed with
  | zero =>
      have open' : ¬client.max429Retries ≤ retriesUsed := by
        rw [UInt8.le_iff_toNat_le]
        omega
      have overflows : backoffMillis retriesUsed = none :=
        backoffMillis_eq_none_iff.mpr (by omega)
      have rejected : ¬rejection.status ≠ 429 := not_not_intro rfl
      rw [HttpMistRetryClient.sendLoop]
      apply Run.answered
      apply Run.answered
      dsimp only
      rw [if_neg rejected, dif_neg open', overflows]
      exact .start _
  | succ left ih =>
      have counted : checkedSucc retriesUsed = some (retriesUsed + 1) := by
        have word := client.max429Retries.toNat_lt
        exact if_pos (by omega)
      have next := checkedSucc_eq_some counted
      exact sendLoop_retries rfl (by omega) (by omega) (ih (by omega))

/-- A client that would retry as often as its limit can say. -/
def eagerClient : HttpMistRetryClient := ⟨sitesClient, 255, 30 * 10 ^ 9⟩

def sitesUrl : Url :=
  ⟨"https://api.mist.com/",
    ["api".toList, "v1".toList, "orgs".toList, "7f1a2b3c".toList, "sites".toList], []⟩

def grantedStatus : BudgetStatus := ⟨5000, 250, 1, 4749, 4999⟩

/-- An admitted call of this client fails as its loop fails. -/
theorem eager_fails {events : HttpHistory} {failure : CallFailure}
    (loop : Completes (eagerClient.sendLoop .get sitesUrl none 0) events (.error failure)) :
    Completes (eagerClient.executeAs (fun _ _ => none) sitesRequest .standard)
      (⟨.tryAcquire .standard, .ok grantedStatus⟩ :: events) (.error failure) := by
  have built : eagerClient.buildUrl sitesRequest.operationId sitesRequest.path sitesRequest.query
      sitesRequest.cursor = .ok sitesUrl := rfl
  have found : eagerClient.catalog.operation sitesRequest.operationId = some listOrgSites := rfl
  have named : HttpMistRetryClient.httpMethod sitesRequest.operationId listOrgSites.method =
      .ok .get := rfl
  exact executeAs_sends .standard built found named grantedStatus loop

/-- The events of a call whose requests are all rejected. -/
def rejectedCall : HttpHistory :=
  ⟨.tryAcquire .standard, .ok grantedStatus⟩ ::
    rejectedEvents eagerClient .get sitesUrl none 0 firstOverflow

/-- A client that may retry more than 57 times overflows at the 58th rejection. -/
theorem eager_call_overflows :
    Completes (eagerClient.executeAs (fun _ _ => none) sitesRequest .standard) rejectedCall
      (.error .overflow) ∧ ¬BoundedCall eagerClient rejectedCall (.error .overflow) := by
  have loop : Completes (eagerClient.sendLoop .get sitesUrl none 0)
      (rejectedEvents eagerClient .get sitesUrl none 0 firstOverflow) (.error .overflow) :=
    sendLoop_overflows (by decide) .get sitesUrl none firstOverflow (Nat.zero_add _)
  exact ⟨eager_fails loop, fun bounded => bounded.fits rfl⟩

/-- The events of a call whose request is rejected twice before the server cannot be reached. -/
def refusedCall : HttpHistory :=
  [⟨.tryAcquire .standard, .ok grantedStatus⟩,
    ⟨.buildRequest .get sitesUrl, .ok ()⟩, ⟨.send .get sitesUrl none, .ok rejection⟩,
    ⟨.sleep (waitAfter eagerClient rejection 0), ()⟩,
    ⟨.buildRequest .get sitesUrl, .ok ()⟩, ⟨.send .get sitesUrl none, .ok rejection⟩,
    ⟨.sleep (waitAfter eagerClient rejection 1), ()⟩,
    ⟨.buildRequest .get sitesUrl, .ok ()⟩, ⟨.send .get sitesUrl none, .error "unreachable"⟩]

/-- A call with two rejected requests is bounded. -/
theorem executeAs_bounded_iff_refused :
    rejectionCount refusedCall = 2 ∧ BoundedCall eagerClient refusedCall
      (.error (.mist (.service ("HTTP request failed: " ++ "unreachable")))) := by
  have loop : Completes (eagerClient.sendLoop .get sitesUrl none 0) (refusedCall.drop 1) _ :=
    sendLoop_retries rfl (by decide) (by decide)
      (sendLoop_retries rfl (by decide) (by decide) (sendLoop_fails "unreachable"))
  have rejected : rejectionCount refusedCall = 2 := by decide
  exact ⟨rejected, (executeAs_bounded_iff (fun _ _ => none) eagerClient sitesRequest .standard _ _
    (eager_fails loop)).mpr (.inr (rejected.trans_le (by decide)))⟩

end Runs

end RustMist
