import RustMist.Library.Linking
import RustMist.Proof.Client.Retries

/-! What one call of the client sends for one unit of the budget. -/

namespace RustMist

open Effects Effects.Program

section Spending

/-- The requests sent since the latest grant of the budget, if there is one. -/
def spendStep (count : Option Nat) : HttpEvent → Option Nat
  | ⟨.tryAcquire _, .ok _⟩ => some 0
  | ⟨.tryAcquire _, .error _⟩ => none
  | ⟨.send _ _ _, _⟩ => count.map Nat.succ
  | _ => count

def spent (history : HttpHistory) : Option Nat := history.foldl spendStep none

theorem spent_snoc (history : HttpHistory) (event : HttpEvent) :
    spent (history ++ [event]) = spendStep (spent history) event := by
  rw [spent, List.foldl_append]
  rfl

end Spending

variable [Platform] {client : HttpMistRetryClient} {request : MistRequest}
  {priority : CallPriority} {method : HttpMethod} {url : Url} {body : Option String}

section Steps

/-- This is the HTTP request that stands for a request. -/
structure OnWire (client : HttpMistRetryClient) (request : MistRequest) (method : HttpMethod)
    (url : Url) (body : Option String) : Prop where
  built : client.buildUrl request.operationId request.path request.query request.cursor = .ok url
  method : ∃ operation, client.catalog.operation request.operationId = some operation ∧
    HttpMistRetryClient.httpMethod request.operationId operation.method = .ok method
  body : body = request.json.map serdeToString

/-- A call asks the budget with its priority, sends its own request at most once for each retry and
once more, and waits no longer than its client allows. -/
def ExchangeStep (client : HttpMistRetryClient) (request : MistRequest) (priority : CallPriority)
    (past : HttpHistory) : HttpOp → Prop
  | .tryAcquire given => given = priority
  | .send method url body => OnWire client request method url body ∧
      ∃ count, spent past = some count ∧ count ≤ client.max429Retries.toNat
  | .sleep wait => wait ≤ client.maxRetryWait
  | _ => True

variable {past : HttpHistory} {retriesUsed : UInt8}

/-- The events of a pass that ends with a retry. -/
def retriedPass (method : HttpMethod) (url : Url) (body : Option String) (response : HttpResponse)
    (wait : Nat) : HttpHistory :=
  [⟨.buildRequest method url, .ok ()⟩, ⟨.send method url body, .ok response⟩, ⟨.sleep wait, ()⟩]

/-- This is what the passes of the loop keep. -/
structure LoopInvariant (client : HttpMistRetryClient) (method : HttpMethod) (url : Url)
    (body : Option String) (guard : HttpHistory → HttpOp → Prop)
    (keeps : UInt8 → HttpHistory → Prop) : Prop where
  builds : ∀ retries past, keeps retries past → guard past (.buildRequest method url)
  sends : ∀ retries past, keeps retries past →
    guard (past ++ [⟨.buildRequest method url, .ok ()⟩]) (.send method url body)
  waits : ∀ retries past response wait, keeps retries past → wait ≤ client.maxRetryWait →
    guard (past ++ [⟨.buildRequest method url, .ok ()⟩, ⟨.send method url body, .ok response⟩])
      (.sleep wait)
  retries : ∀ retries next past response wait, keeps retries past → response.status = 429 →
    retries.toNat < client.max429Retries.toNat → next.toNat = retries.toNat + 1 →
      keeps next (past ++ retriedPass method url body response wait)

variable {guard : HttpHistory → HttpOp → Prop} {keeps : UInt8 → HttpHistory → Prop}

omit [Platform] in
/-- One pass of the loop sends once, and it goes on only with a retry that is left. -/
theorem LoopInvariant.pass (invariant : LoopInvariant client method url body guard keeps)
    (kept : keeps retriesUsed past)
    (later : ∀ next past', retriesUsed.toNat < client.max429Retries.toNat →
      next.toNat = retriesUsed.toNat + 1 → keeps next past' →
      (client.sendLoop method url body next).Ensures guard (fun _ _ => True) past') :
    (client.sendLoop method url body retriesUsed).Ensures guard (fun _ _ => True) past := by
  rw [HttpMistRetryClient.sendLoop]
  refine ensures_ask_iff.mpr ⟨invariant.builds _ _ kept, fun built => ?_⟩
  cases built with
  | error error => trivial
  | ok _ =>
      refine ensures_ask_iff.mpr ⟨invariant.sends _ _ kept, fun answer => ?_⟩
      cases answer with
      | error error => trivial
      | ok response =>
          dsimp only
          split
          · trivial
          · rename_i rejected
            rw [not_not] at rejected
            split
            · trivial
            · rename_i unspent
              rw [UInt8.le_iff_toNat_le, Nat.not_le] at unspent
              split
              · trivial
              · split
                · trivial
                · rename_i next counted
                  have more := checkedSucc_eq_some counted
                  rw [List.append_assoc]
                  refine ensures_ask_iff.mpr
                    ⟨invariant.waits _ _ response _ kept (Nat.min_le_right _ _), fun slept => ?_⟩
                  rw [List.append_assoc]
                  exact later next _ unspent more
                    (invariant.retries _ _ _ response _ kept rejected unspent more)

omit [Platform] in
/-- The loop keeps the guard of its invariant. -/
theorem LoopInvariant.ensures (invariant : LoopInvariant client method url body guard keeps)
    (kept : keeps retriesUsed past) :
    (client.sendLoop method url body retriesUsed).Ensures guard (fun _ _ => True) past := by
  induction left : client.max429Retries.toNat - retriesUsed.toNat
    generalizing past retriesUsed with
  | zero => exact invariant.pass kept fun next past' more => by omega
  | succ left ih =>
      apply invariant.pass kept
      intro next past' more counted kept'
      exact ih kept' (by omega)

/-- The count of the requests is the one of the retries. -/
theorem exchange_loop (onWire : OnWire client request method url body) :
    LoopInvariant client method url body (ExchangeStep client request priority)
      fun retries past => spent past = some retries.toNat ∧
        retries.toNat ≤ client.max429Retries.toNat where
  builds _ _ _ := trivial
  sends retries past kept := by
    refine ⟨onWire, retries.toNat, ?_, kept.2⟩
    rw [spent_snoc, kept.1]
    rfl
  waits _ _ _ _ _ bounded := bounded
  retries retries next past response wait kept rejected unspent counted := by
    refine ⟨?_, by omega⟩
    rw [spent, retriedPass, List.foldl_append, ← spent, kept.1, counted]
    rfl

/-- All requests so far have been answered with 429. -/
def AllRejected (history : HttpHistory) : Prop :=
  ∀ event ∈ history, isSend event = true → isRejection event = true

/-- A request is sent again only after 429, and as often as the retries allow. -/
def ResendStep (client : HttpMistRetryClient) (past : HttpHistory) : HttpOp → Prop
  | .send _ _ _ => AllRejected past ∧ sendCount past ≤ client.max429Retries.toNat
  | _ => True

omit [Platform] in
theorem AllRejected.snoc (rejected : AllRejected past) {event : HttpEvent}
    (last : isSend event = true → isRejection event = true) : AllRejected (past ++ [event]) := by
  intro other member
  rcases List.mem_append.mp member with early | late
  · exact rejected other early
  · rw [List.mem_singleton.mp late]
    exact last

omit [Platform] in
theorem resend_loop : LoopInvariant client method url body (ResendStep client)
    fun retries past => AllRejected past ∧ sendCount past = retries.toNat ∧
      retries.toNat ≤ client.max429Retries.toNat where
  builds _ _ _ := trivial
  sends retries past kept := by
    obtain ⟨rejected, counted, unspent⟩ := kept
    refine ⟨rejected.snoc nofun, ?_⟩
    rw [sendCount_snoc, counted]
    exact unspent
  waits _ _ _ _ _ _ := trivial
  retries retries next past response wait kept rejected unspent more := by
    obtain ⟨before, counted, _⟩ := kept
    have answered : isRejection ⟨.send method url body, .ok response⟩ = true :=
      decide_eq_true rejected
    have built : AllRejected (past ++ [⟨.buildRequest method url, .ok ()⟩]) := before.snoc nofun
    have slept : AllRejected (((past ++ [⟨.buildRequest method url, .ok ()⟩]) ++
        [⟨.send method url body, .ok response⟩]) ++ [⟨.sleep wait, ()⟩]) :=
      (built.snoc fun _ => answered).snoc nofun
    refine ⟨by simpa [retriedPass] using slept, ?_, by omega⟩
    rw [sendCount, List.countP_append, ← sendCount, counted, more]
    rfl

variable {joinedQuery : String → String → Option (List (String × String))}

/-- A call keeps what its loop keeps when the grant has established it. -/
theorem sendCall_keeps
    (starts : ∀ method url body, OnWire client request method url body →
      LoopInvariant client method url body guard keeps) (kept : keeps 0 past) :
    (client.sendCall joinedQuery request).Ensures guard (fun _ _ => True) past := by
  unfold HttpMistRetryClient.sendCall
  split
  · trivial
  · rename_i url built
    split
    · trivial
    · rename_i operation catalogued
      split
      · trivial
      · rename_i method named
        refine ((starts method url _ ⟨built, ⟨operation, catalogued, named⟩, rfl⟩).ensures
          kept).bind fun history result _ => ?_
        cases result <;> trivial

/-- After whatever went before, a call keeps to its steps. -/
theorem executeAs_calls (past : HttpHistory) :
    (client.executeAs joinedQuery request priority).Ensures (ExchangeStep client request priority)
      (fun _ _ => True) past := by
  refine ensures_ask_iff.mpr ⟨rfl, fun admission => ?_⟩
  cases admission with
  | error error => exact ensures_ask_iff.mpr ⟨trivial, fun status => trivial⟩
  | ok status =>
      refine sendCall_keeps (fun _ _ _ => exchange_loop) ⟨?_, Nat.zero_le _⟩
      rw [spent_snoc]
      rfl

/-- A call sends again only what has been rejected, as often as the retries allow. -/
theorem executeAs_resends : (client.executeAs joinedQuery request priority).Ensures
    (ResendStep client) (fun _ _ => True) [] := by
  refine ensures_ask_iff.mpr ⟨trivial, fun admission => ?_⟩
  cases admission with
  | error error => exact ensures_ask_iff.mpr ⟨trivial, fun status => trivial⟩
  | ok status =>
      refine sendCall_keeps (fun _ _ _ _ => resend_loop) ⟨?_, rfl, Nat.zero_le _⟩
      intro event member
      rw [List.mem_singleton.mp member]
      exact nofun

end Steps

section Weights

variable {perUnit perSend perWait : Nat} {retriesUsed : UInt8}

/-- A unit of the budget, a request that is sent and a unit of waiting have a cost each. -/
def HttpOp.weight (perUnit perSend perWait : Nat) : HttpOp → Nat
  | .tryAcquire _ => perUnit
  | .send _ _ _ => perSend
  | .sleep wait => perWait * wait
  | _ => 0

/-- The cost of a pass and of a wait for each of so many retries. -/
def retryCost (client : HttpMistRetryClient) (perSend perWait retries : Nat) : Nat :=
  perSend + retries * (perSend + perWait * client.maxRetryWait)

omit [Platform] in
theorem retryCost_succ (retries : Nat) :
    (retries + 1) * (perSend + perWait * client.maxRetryWait) =
      retryCost client perSend perWait retries + perWait * client.maxRetryWait := by
  rw [retryCost, Nat.add_mul, Nat.one_mul]
  omega

omit [Platform] in
/-- What an operation costs is taken off the bound. -/
theorem atMost_dispatch {α : Type} {op : HttpOp} {next : op.Answer → HttpProgram α}
    {bound : Nat} (left : Nat) (enough : op.weight perUnit perSend perWait + left ≤ bound)
    (later : ∀ answer, (next answer).AtMost (S := http) (HttpOp.weight perUnit perSend perWait)
      (fun _ => True) left) :
    (dispatch op >>= next).AtMost (S := http) (HttpOp.weight perUnit perSend perWait) (fun _ => True)
      bound :=
  (atMost_ask_bind (S := http) trivial later).mono enough

omit [Platform] in
theorem sendLoop_costs_pass (later : ∀ next : UInt8,
      retriesUsed.toNat < client.max429Retries.toNat → next.toNat = retriesUsed.toNat + 1 →
      (client.sendLoop method url body next).AtMost (S := http) (HttpOp.weight perUnit perSend perWait)
        (fun _ => True) (retryCost client perSend perWait (client.max429Retries.toNat - next.toNat))) :
    (client.sendLoop method url body retriesUsed).AtMost (S := http)
      (HttpOp.weight perUnit perSend perWait) (fun _ => True)
      (retryCost client perSend perWait (client.max429Retries.toNat - retriesUsed.toNat)) := by
  rw [HttpMistRetryClient.sendLoop]
  refine atMost_dispatch _ (Nat.zero_add _).le fun built => ?_
  cases built with
  | error error => trivial
  | ok _ =>
      refine atMost_dispatch ((client.max429Retries.toNat - retriesUsed.toNat) *
        (perSend + perWait * client.maxRetryWait)) (Nat.le_refl _) fun answer => ?_
      cases answer with
      | error error => trivial
      | ok response =>
          dsimp only
          split
          · trivial
          · split
            · trivial
            · rename_i unspent
              rw [UInt8.le_iff_toNat_le, Nat.not_le] at unspent
              split
              · trivial
              · split
                · trivial
                · rename_i next counted
                  have more := checkedSucc_eq_some counted
                  refine atMost_dispatch _ ?_ fun slept => later next unspent more
                  obtain ⟨left, same⟩ : ∃ left, client.max429Retries.toNat - retriesUsed.toNat =
                    left + 1 := ⟨client.max429Retries.toNat - next.toNat, by omega⟩
                  have less : client.max429Retries.toNat - next.toNat = left := by omega
                  rw [same, less, retryCost_succ, Nat.add_comm]
                  exact Nat.add_le_add_left (Nat.mul_le_mul_left _ (Nat.min_le_right _ _)) _

omit [Platform] in
theorem sendLoop_costs {left : Nat} (same : client.max429Retries.toNat - retriesUsed.toNat = left) :
    (client.sendLoop method url body retriesUsed).AtMost (S := http)
      (HttpOp.weight perUnit perSend perWait) (fun _ => True) (retryCost client perSend perWait left) := by
  induction left generalizing retriesUsed with
  | zero =>
      rw [← same]
      exact sendLoop_costs_pass fun next unspent more => by omega
  | succ left ih =>
      rw [← same]
      apply sendLoop_costs_pass
      intro next unspent more
      have less : client.max429Retries.toNat - next.toNat = left := by omega
      rw [less]
      exact ih less

variable {joinedQuery : String → String → Option (List (String × String))}

theorem sendCall_costs : (client.sendCall joinedQuery request).AtMost (S := http)
    (HttpOp.weight perUnit perSend perWait) (fun _ => True)
    (retryCost client perSend perWait client.max429Retries.toNat) := by
  unfold HttpMistRetryClient.sendCall
  split
  · trivial
  · split
    · trivial
    · split
      · trivial
      · refine AtMost.bind_free (sendLoop_costs rfl) fun result => ?_
        cases result <;> trivial

/-- A call costs at most one unit and one request, and a request and a wait for each retry. -/
theorem executeAs_costs : (client.executeAs joinedQuery request priority).AtMost (S := http)
    (HttpOp.weight perUnit perSend perWait) (fun _ => True)
    (perUnit + retryCost client perSend perWait client.max429Retries.toNat) := by
  refine atMost_dispatch _ (Nat.le_refl _) fun admission => ?_
  cases admission with
  | error error => exact atMost_dispatch _ (Nat.zero_add _).le fun status => trivial
  | ok status => exact sendCall_costs

end Weights

end RustMist
