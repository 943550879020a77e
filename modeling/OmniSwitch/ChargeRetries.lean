import OmniSwitch.Lib.Embed
import OmniSwitch.Lib.History
import OmniSwitch.Services.Idempotency
import OmniSwitch.Routing.Accepted

/-!
# Retrying a charge

A client sends the same charge again, with the same `Idempotency-Key`, until it is answered.  When
a run ends in an error the interceptor forgets the key, and the next request runs the checkout
again, for a new payment and with a selection of its own.  PSPs know the requests by the key: each
charges at most once for it, and answers later requests as it answered the first.

Requests of agents, which reserve the amount with their delegation before the checkout, are left
out, and so is the presentment amount, which is computed at best effort.

Main results:

* `interception`: what the interceptor makes of a request;
* `execute_charging`: which charges a checkout makes;
* `Sound.charge`, `retries_charge_once`: one request, and every sequence of them;
* `retries_charge_twice`: retries that charge with two PSPs.
-/

namespace OmniSwitch

open Lib Prog

open PaymentCheckoutSaga

/-! ### The interceptor, alone -/

namespace Idempotency

variable {R : Type}

/-- The handler is run. -/
def CacheCmd.isHandle : CacheCmd R → Bool
  | .handle => true
  | _ => false

/-- What the client is answered. -/
def CacheCmd.response? : CacheCmd R → Option (Except AppError (Reply R))
  | .respond _ result => some result
  | _ => none

/-- What a request comes to: whether its handler was executed, the response that was sent, and the
store that is left. -/
structure Outcome (R : Type) where
  executed : Bool
  response : Option (Except AppError (Reply R))
  store : Store R

/-- The outcome of the rest of a request that runs alone. -/
def outcome (p : Rest R) (s : Store R) : Outcome R :=
  let run := p.perform (.none _) [] s
  ⟨run.1.any CacheCmd.isHandle, run.1.findSome? CacheCmd.response?, run.2.1⟩

/-- The outcome of a request that has run its handler. -/
def Outcome.executing (o : Outcome R) : Outcome R := ⟨true, o.response, o.store⟩

/-- The response that a request is answered with from the record. -/
def Store.replay (s : Store R) : Option (Reply R) :=
  match s.readRecord with
  | some ⟨.COMPLETED, some body, statusCode⟩ => some ⟨orOk (statusCode.getD 0), some body⟩
  | _ => none

/-- No response is on record. -/
def Store.Unanswered (s : Store R) : Prop :=
  ∀ entry, s.record = some entry → entry.1.response = none

/-- **What becomes of a request** with a handler that comes to `handler`, if nothing fails once it
has succeeded.

Source: `IdempotencyInterceptor.processIdempotency` -/
inductive Interception (handler : Except AppError (Reply R)) (s : Store R) : Outcome R → Prop
  | rejected {s' : Store R} (e : AppError)
      (record : s'.record = s.record ∨ s.replay = none ∧ s'.Unanswered) :
      Interception handler s ⟨false, some (.error e), s'⟩
  | replayed {s' : Store R} {reply : Reply R} (replay : s.replay = some reply)
      (record : s'.record = s.record) : Interception handler s ⟨false, some (.ok reply), s'⟩
  | failed {s' : Store R} {e : AppError} (e' : AppError) (replay : s.replay = none)
      (error : handler = .error e) (record : s'.Unanswered) :
      Interception handler s ⟨true, some (.error e'), s'⟩
  | completed {s' : Store R} {reply : Reply R} (replay : s.replay = none)
      (ok : handler = .ok reply)
      (record : s'.record = some (completed reply.received, s.now + idempotencyTtlSeconds)) :
      Interception handler s ⟨true, some (.ok reply.received), s'⟩

section

variable {s : Store R} {next : Store R → Rest R}

lemma outcome_act {operation : CacheCmd R} (hhandle : operation.isHandle = false)
    (hresponse : operation.response? = none) (s : Store R) :
    outcome (.act operation next) s = outcome (next s) (operation.apply s) := by
  simp [outcome, perform, FaultModel.none, hhandle, hresponse, Commands.apply]

/-- An operation that fails leads to where its error is caught, from the store with its effect or
without. -/
lemma outcome_attempt {operation : CacheCmd R} {caught : AppError → Rest R}
    {P : Outcome R → Prop} (fault : Option (Fault AppError))
    (hhandle : operation.isHandle = false) (hresponse : operation.response? = none)
    (hnext : fault = none → P (outcome (next s) (operation.apply s)))
    (hcaught : ∀ f s', fault = some f → s' = s ∨ s' = operation.apply s →
      P (outcome (caught f.error) s')) :
    P (outcome (attempt operation fault caught next) s) := by
  unfold attempt
  cases fault with
  | none =>
    rw [outcome_act hhandle hresponse]
    exact hnext rfl
  | some f =>
    dsimp only
    split_ifs
    · rw [outcome_act hhandle hresponse]
      exact hcaught f _ rfl (.inr rfl)
    · exact hcaught f s rfl (.inl rfl)

lemma setNX_kept (request : Nat) (s : Store R) :
    (CacheCmd.apply (.setNX request) s).now = s.now ∧
      (CacheCmd.apply (.setNX request) s).record = s.record := by
  cases hfree : s.lockFree <;> simp [CacheCmd.apply, hfree]

end

section

variable {r : Request R} {s : Store R}

lemma interception_executed (request : Nat) (hset : r.setCompleted = none)
    (hdel : r.delLock = none) {t : Store R} (hreplay : s.replay = none) (hnow : t.now = s.now)
    (ht : t.Unanswered) : Interception r.handler s (outcome (execute request r) t) := by
  unfold execute
  cases r.handler with
  | error e =>
    change Interception _ s (outcome (release request r e) t).executing
    unfold release
    refine outcome_attempt (P := fun o => Interception (.error e) s o.executing)
      r.releaseLock rfl rfl (fun _ => ?_) (fun f t' _ ht' => ?_)
    · refine outcome_attempt (P := fun o => Interception (.error e) s o.executing)
        r.releaseRecord rfl rfl (fun _ => ?_) (fun f t' _ ht' => ?_)
      · exact .failed e hreplay rfl fun entry hentry => by cases hentry
      · refine .failed f.error hreplay rfl ?_
        rcases ht' with rfl | rfl
        · exact ht
        · exact fun entry hentry => by cases hentry
    · refine .failed f.error hreplay rfl ?_
      rcases ht' with rfl | rfl <;> exact ht
  | ok reply =>
    change Interception _ s (outcome (complete request r reply.received) t).executing
    unfold complete attempt
    rw [hset, hdel]
    exact .completed hreplay rfl (by rw [← hnow]; rfl)

/-- **What the interceptor makes of a request** that no other one overlaps. -/
theorem interception (request : Nat) (r : Request R) (s : Store R)
    (hrecorded : s.replay = none → r.setCompleted = none ∧ r.delLock = none) :
    Interception r.handler s (outcome (processIdempotency request r) s) := by
  have hacquire : s.replay = none → Interception r.handler s (outcome (acquire request r) s) := by
    intro hreplay
    obtain ⟨hset, hdel⟩ := hrecorded hreplay
    have hkept := setNX_kept request s
    refine outcome_attempt r.setNX rfl rfl (fun _ => ?_) (fun f t _ ht => ?_)
    · generalize CacheCmd.apply (.setNX request) s = t at hkept
      split_ifs
      · refine outcome_attempt r.setProcessing rfl rfl (fun _ => ?_) (fun f t' _ ht' => ?_)
        · refine interception_executed request hset hdel hreplay hkept.1 ?_
          rintro _ ⟨rfl⟩
          rfl
        · refine .rejected _ ?_
          rcases ht' with rfl | rfl
          · exact .inl hkept.2
          · refine .inr ⟨hreplay, ?_⟩
            rintro _ ⟨rfl⟩
            rfl
      · exact .rejected _ (.inl hkept.2)
    · refine .rejected _ (.inl ?_)
      rcases ht with rfl | rfl
      · rfl
      · exact hkept.2
  refine outcome_attempt r.get rfl rfl (fun _ => ?_) (fun f t _ ht => ?_)
  · change Interception r.handler s (outcome _ s)
    unfold Store.replay at hacquire
    split
    · rename_i body statusCode hread
      exact .replayed (by simp only [Store.replay, hread]) rfl
    · exact .rejected _ (.inl rfl)
    · rename_i hcompleted hprocessing
      refine hacquire ?_
      split
      · rename_i body statusCode hread
        exact absurd hread (hcompleted body statusCode)
      · rfl
  · refine .rejected _ (.inl ?_)
    rcases ht with rfl | rfl <;> rfl

end

end Idempotency

/-! ### The checkout, with failures -/

/-- The PSP that a charge is sent to. -/
def Cmd.chargeRequest : Cmd → Option PSPProvider
  | .psp provider (.charge _) => some provider
  | _ => none

lemma Cmd.ledgerOutbox_apply {c : Cmd} (h : c.books = false) (db : Db) :
    (Commands.apply c db).ledgerOutbox = db.ledgerOutbox := by
  cases c with
  | transaction guard entity event hold now => exact (nomatch h)
  | saveDispute dispute =>
    change (if db.disputeConflict dispute then db else db.saveDispute dispute).ledgerOutbox = _
    split_ifs <;> rfl
  | _ => rfl

namespace PaymentCheckoutSaga

/-- The charge requests are made in the order of a list of PSPs, and nothing is booked. -/
inductive Requests : List PSPProvider → Cmd → List PSPProvider → Prop
  | charge (provider : PSPProvider) (key : String) (left : List PSPProvider) :
      Requests (provider :: left) (.psp provider (.charge key)) left
  | other {c : Cmd} (left : List PSPProvider) (books : c.books = false)
      (request : c.chargeRequest = none) : Requests left c left

/-- The transaction that books the charge of a payment. -/
def BooksCharge (id : String) (c : Cmd) : Prop :=
  ∃ entity event hold now, c = .transaction none entity event hold now ∧
    event.paymentId = id ∧ event.eventType = .PAYMENT_CHARGED

/-- The charge requests still to be made are in `left`; the payment is returned as succeeded
exactly after its charge was booked. -/
abbrev Charging (id : String) (left : List PSPProvider) (prog : App CheckoutSagaResult) : Prop :=
  prog.Settles Requests (BooksCharge id) (fun result => result.status = .SUCCEEDED) left

lemma Conclusion.charging {env : CheckoutEnv} {input : CheckoutSagaInput}
    {params : ChargeLedgerParams} {requested : Option ScaExemptionType} {p : PaymentAggregate}
    {route : Except AppError (RouteResult PspChargeResponse)} {c : Option Cmd}
    {r : Except AppError CheckoutSagaResult}
    (h : Conclusion env input params requested p route c r) :
    Charging input.paymentId [] (conclude c r) := by
  have hsave : ∀ {entity : PaymentEntity} {result : CheckoutSagaResult},
      result.status ≠ .SUCCEEDED → Charging input.paymentId []
        (conclude (some (.savePayment entity env.booking.now)) (.ok result)) :=
    fun hstatus => .inl ⟨[], .other [] rfl rfl, fun _ => hstatus⟩
  cases h with
  | unrecorded => trivial
  | booked _ _ event_eq _ _ status =>
    obtain ⟨hevent, htype, -⟩ := LedgerOutboxEvent.createChargeEntries_ok event_eq
    exact .inr ⟨⟨_, _, _, _, rfl, hevent, htype⟩, fun _ => ⟨_, rfl, status⟩⟩
  | authorised answer _ _ _ status =>
    refine hsave ?_
    rcases answer with answer | answer <;> rw [status, answer] <;> decide
  | declined _ _ status | ambiguous _ _ _ status => exact hsave (by rw [status]; decide)
  | failed => exact .inl ⟨[], .other [] rfl rfl, fun _ => trivial⟩

lemma charges_charging {id : String} {f : Unit → App CheckoutSagaResult} (key : String)
    (h : Charging id [] (f ())) (log : List (Invocation PspChargeResponse)) :
    Charging id (log.map Invocation.provider) (charges key log >>= f) := by
  induction log with
  | nil => exact h
  | cons invocation log ih =>
    exact .inl ⟨log.map Invocation.provider, .charge invocation.provider key _, fun _ => ih⟩

/-- The charge requests of a checkout that gets as far. -/
def invocations (env : CheckoutEnv) (input : CheckoutSagaInput) :
    List (Invocation PspChargeResponse) :=
  match ChargeLedgerParamsResolver.resolve env.booking.charge input.merchantId input.amount
      input.splits with
  | .error _ => []
  | .ok params => (executeWithSmartRouting env (routingContext input params)).1

lemma executeIntent_charging (env : CheckoutEnv) (input : CheckoutSagaInput)
    (isFirst : Option Bool) :
    Charging input.paymentId ((invocations env input).map Invocation.provider)
      (executeIntent env input isFirst (intent env input)) := by
  have hcourse := executeIntent_course env input isFirst
  generalize executeIntent env input isFirst (intent env input) = prog at hcourse ⊢
  cases hcourse with
  | @refused c e _ writes =>
    cases c with
    | none => trivial
    | some c =>
      obtain ⟨q, -, rfl⟩ := writes c rfl
      exact .inl ⟨_, .other _ rfl rfl, fun _ => trivial⟩
  | charged reached _ _ concluded =>
    unfold invocations
    rw [reached.resolved]
    exact .inl ⟨_, .other _ rfl rfl, fun _ => charges_charging _ concluded.charging _⟩

/-- **A checkout** makes the charge requests of one execution, and returns the payment as succeeded
exactly after its charge was booked. -/
theorem execute_charging (env : CheckoutEnv) (input : CheckoutSagaInput) :
    Charging input.paymentId ((invocations env input).map Invocation.provider)
      (execute env input) := by
  unfold execute isFirstChargeToMerchant
  have hcreate : ∀ isFirst, Charging input.paymentId
      ((invocations env input).map Invocation.provider)
      (updatePayment (intent env input) env.booking.now >>= fun _ =>
        executeIntent env input isFirst (intent env input)) :=
    fun isFirst => .inl ⟨_, .other _ rfl rfl, fun _ => executeIntent_charging env input isFirst⟩
  split
  · exact hcreate none
  · exact .inl ⟨_, .other _ rfl rfl, fun db => hcreate _⟩

end PaymentCheckoutSaga

/-! ### Requests one after the other -/

/-- Source: `PaymentController.charge` -/
def PaymentController.charge (env : CheckoutEnv) (input : CheckoutSagaInput) (manual : Bool) :
    App CheckoutSagaResult :=
  if input.idempotencyKey.isEmpty then
    throw (.http 400 "Idempotency-Key header is required" "MISSING_IDEMPOTENCY_KEY")
  else if !input.splits.isEmpty && manual then
    throw (.http 409 ("Marketplace splits require captureMethod \"automatic\" (the default) — a " ++
      "manual capture cannot be split") "SPLIT_REQUIRES_AUTOMATIC_CAPTURE")
  else PaymentCheckoutSaga.execute env input

/-- What a charge request comes to is in `CheckoutEnv.charge`.  A compensation that fails is
swallowed; it is the only save of a payment as failed or ambiguous.

Source: `PaymentCheckoutSaga.compensate_markFailed`, `compensate_markAmbiguous` -/
def sagaFaults : FaultModel Cmd where
  fallible
    | .psp _ _ => false
    | _ => true
  ignored
    | .savePayment entity _ => entity.status = .FAILED || entity.status = .AMBIGUOUS
    | _ => false

/-- A read, in the place of a compensation that failed without effect. -/
def PaymentCheckoutSaga.lostWrite : Cmd := .existsForDelegationAndMerchant "" ""

/-- The checkout as a part of what uses it, where `fault` are the operations of the database that
fail.

Source: `PaymentCheckoutSaga.execute` -/
def PaymentCheckoutSaga.executeDisturbed (env : CheckoutEnv) (fault : Cmd → Option (Fault AppError))
    (input : CheckoutSagaInput) : App CheckoutSagaResult :=
  (execute env input).disturb sagaFaults lostWrite fault

open Idempotency

/-- A charge request: the payment id drawn for it, the seconds since the request before, and what
it meets outside. -/
structure ChargeAttempt where
  paymentId : String
  elapsed : Nat := 0
  env : CheckoutEnv
  /-- A charge request that ended in an error has reached the PSP all the same. -/
  unreported : Nat → PSPProvider → Bool := fun _ _ => false
  /-- The operations of the database that fail. -/
  faults : List (Option (Fault AppError)) := []
  cache : CacheFaults := {}

namespace ChargeAttempt

/-- The handler, if it is executed: the commands it issues, the database it leaves, and what it
comes to. -/
def handled (a : ChargeAttempt) (input : CheckoutSagaInput) (manual : Bool) (db : Db) :
    List Cmd × Db × Except AppError CheckoutSagaResult :=
  (PaymentController.charge a.env { input with paymentId := a.paymentId } manual).perform
    sagaFaults a.faults db

/-- The PSPs that have received one of the charge requests. -/
def delivered (a : ChargeAttempt) (issued : List Cmd) : List PSPProvider :=
  ((issued.filterMap Cmd.chargeRequest).zipIdx.filter fun request =>
    (a.env.charge request.2 request.1).toBool || a.unreported request.2 request.1).map Prod.fst

end ChargeAttempt

open ChargeAttempt

/-- The database, the cache, the PSPs that have received a charge request for the key, and the
response to the latest request. -/
structure RetryWorld where
  db : Db
  store : Store CheckoutSagaResult
  reached : List PSPProvider := []
  response : Option (Except AppError (Reply CheckoutSagaResult)) := none

/-- The charges booked for any of these payments. -/
def Db.chargesOf (db : Db) (ids : List String) : List LedgerOutboxEvent :=
  db.ledgerOutbox.filter fun event => event.eventType = .PAYMENT_CHARGED ∧ event.paymentId ∈ ids

namespace RetryWorld

/-- The cache when the request arrives. -/
def arrival (w : RetryWorld) (a : ChargeAttempt) : Store CheckoutSagaResult :=
  { w.store with now := w.store.now + a.elapsed }

/-- A request, from its arrival to its response.

Source: `IdempotencyInterceptor.intercept`; `PaymentController.charge` -/
def charge (input : CheckoutSagaInput) (manual : Bool) (a : ChargeAttempt) (w : RetryWorld) :
    RetryWorld :=
  let (issued, db, result) := a.handled input manual w.db
  let request : Request CheckoutSagaResult :=
    ⟨a.cache, result.map fun result => ⟨201, some result⟩⟩
  let ended := outcome (processIdempotency 0 request) (w.arrival a)
  if ended.executed then
    ⟨db, ended.store, w.reached ++ a.delivered issued, ended.response⟩
  else ⟨w.db, ended.store, w.reached, ended.response⟩

/-- The PSPs that have charged the customer, where `answer` is how each answers the key. -/
def charged (w : RetryWorld) (answer : PSPProvider → PspChargeResponse) : List PSPProvider :=
  w.reached.filter fun provider => (answer provider).status = .SUCCEEDED

/-- The latest request was answered with a payment that has succeeded. -/
def returnedSucceeded (w : RetryWorld) : Bool :=
  match w.response with
  | some (.ok ⟨_, some result⟩) => result.status = .SUCCEEDED
  | _ => false

/-- Nothing has been done for the key and the payments yet. -/
structure Fresh (w : RetryWorld) (ids : List String) : Prop where
  charges : w.db.chargesOf ids = []
  record : w.store.record = none
  reached : w.reached = []
  response : w.response = none

end RetryWorld

/-! ### The condition -/

/-- Whenever the charge is routed, no other provider is routable. -/
def ChargeAttempt.RoutesOnly (a : ChargeAttempt) (input : CheckoutSagaInput)
    (provider : PSPProvider) : Prop :=
  ∀ params, ChargeLedgerParamsResolver.resolve a.env.booking.charge input.merchantId input.amount
      input.splits = .ok params →
    ∀ health ∈ a.env.executionHealth,
      SmartRouting.isRoutable (routingContext input params) health → health.provider = provider

namespace RetryWorld

/-- What a request that is not answered from the record has to meet, in the state it finds. -/
structure Repeats (input : CheckoutSagaInput)
    (answer : PSPProvider → PspChargeResponse) (a : ChargeAttempt) (w : RetryWorld) : Prop where
  /-- No other PSP is routable than the one that has charged. -/
  charged : ∀ provider ∈ w.charged answer, a.RoutesOnly input provider
  /-- Nor, if a charge request of its own ends in an error and is accepted all the same. -/
  unreported : ∀ n provider, a.unreported n provider → (answer provider).status = .SUCCEEDED →
    a.RoutesOnly input provider
  /-- The response is put on record. -/
  setCompleted : a.cache.setCompleted = none
  delLock : a.cache.delLock = none
  /-- An operation of the database that fails has no effect. -/
  faults : ∀ fault, some fault ∈ a.faults → fault.applied = false

/-- The condition on a request and the state it finds. -/
structure Safe (input : CheckoutSagaInput) (answer : PSPProvider → PspChargeResponse)
    (a : ChargeAttempt) (w : RetryWorld) : Prop where
  /-- It arrives before a response that is on record has expired. -/
  live : ∀ record expiry, w.store.record = some (record, expiry) → record.status = .COMPLETED →
    (w.arrival a).now < expiry
  repeats : (w.arrival a).replay = none → w.Repeats input answer a

end RetryWorld

/-! ### What one request does -/

namespace SmartRouting

lemma selectProvider_only {context : RoutingContext} {healthMap : List PspHealthStatus}
    {decision : RoutingDecision} {provider : PSPProvider}
    (honly : ∀ health ∈ healthMap, isRoutable context health → health.provider = provider)
    (h : selectProvider context healthMap = .ok decision) :
    decision.selectedProvider = provider ∧ decision.fallbackProviders = [] := by
  obtain ⟨ranked, hperm, hselected, hfallbacks⟩ := selectProvider_ok h
  have hranked : ∀ other ∈ ranked.map PspHealthStatus.provider, other = provider := by
    intro other hother
    obtain ⟨health, hhealth, rfl⟩ := List.mem_map.1 hother
    obtain ⟨hmem, hroutable⟩ := List.mem_filter.1 (hperm.subset hhealth)
    exact honly health hmem hroutable
  have hprovider := hranked _ hselected
  refine ⟨hprovider, ?_⟩
  rw [hfallbacks, List.filter_eq_nil_iff]
  intro other hother
  simp [hranked other hother, hprovider]

end SmartRouting

namespace ChargeAttempt

variable {a : ChargeAttempt} {input : CheckoutSagaInput} {manual : Bool}

/-- The PSPs that the request invokes. -/
def invocations (a : ChargeAttempt) (input : CheckoutSagaInput) :
    List (Invocation PspChargeResponse) :=
  PaymentCheckoutSaga.invocations a.env { input with paymentId := a.paymentId }

lemma invocations_cases (a : ChargeAttempt) (input : CheckoutSagaInput) :
    a.invocations input = [] ∨ ∃ params decision,
      ChargeLedgerParamsResolver.resolve a.env.booking.charge input.merchantId input.amount
        input.splits = .ok params ∧
      SmartRouting.selectProvider (routingContext input params) a.env.executionHealth =
        .ok decision ∧
      a.invocations input =
        (PaymentProcessor.executeWithFallback decision a.env.charge a.env.isAvailable).1 := by
  unfold invocations PaymentCheckoutSaga.invocations
  dsimp only
  split
  · exact .inl rfl
  · rename_i params hparams
    unfold executeWithSmartRouting
    split
    · exact .inl rfl
    · rename_i decision hdecision
      obtain ⟨selected, hselected, h⟩ := bind_eq_ok.1 hdecision
      obtain ⟨-, -, h⟩ := bind_eq_ok.1 h
      obtain rfl := Except.ok.inj h
      exact .inr ⟨params, selected, hparams, hselected, rfl⟩

lemma RoutesOnly.provider {provider : PSPProvider} (h : a.RoutesOnly input provider)
    {invocation : Invocation PspChargeResponse} (hmem : invocation ∈ a.invocations input) :
    invocation.provider = provider := by
  rcases a.invocations_cases input with hnone | ⟨params, decision, hparams, hselected, hlog⟩
  · rw [hnone] at hmem
    exact (nomatch hmem)
  · rw [hlog] at hmem
    obtain ⟨hprovider, hfallbacks⟩ := SmartRouting.selectProvider_only (h params hparams) hselected
    have hinitial := (executeWithFallback_trace decision a.env.charge a.env.isAvailable)
      |>.providers_initial
    rw [hfallbacks, List.filter_nil, List.append_nil, hprovider] at hinitial
    exact List.eq_of_mem_replicate (hinitial.subset (List.mem_map_of_mem hmem))

lemma invocations_answered {n n' : Nat} {x x' : Invocation PspChargeResponse}
    (hn : (a.invocations input)[n]? = some x) (hn' : (a.invocations input)[n']? = some x')
    (hok : (a.env.charge n x.provider).toBool) (hok' : (a.env.charge n' x'.provider).toBool) :
    x.provider = x'.provider := by
  rcases a.invocations_cases input with hnone | ⟨params, decision, -, -, hlog⟩
  · simp [hnone] at hn
  · rw [hlog] at hn hn'
    have hconcludes : ∀ {k : Nat} {y : Invocation PspChargeResponse},
        (PaymentProcessor.executeWithFallback decision a.env.charge a.env.isAvailable).1[k]? =
          some y → (a.env.charge k y.provider).toBool → ∃ r usedFallback,
        (PaymentProcessor.executeWithFallback decision a.env.charge a.env.isAvailable).2 =
          .ok ⟨r, y.provider, usedFallback⟩ := by
      intro k y hk hy
      obtain ⟨houtcome, hanswered⟩ := executeWithFallback_logged hk
      cases hr : a.env.charge k y.provider with
      | error e =>
        rw [hr] at hy
        exact (nomatch hy)
      | ok r => exact ⟨r, (hanswered r (houtcome.trans hr)).2⟩
    obtain ⟨r, usedFallback, hresult⟩ := hconcludes hn hok
    obtain ⟨r', usedFallback', hresult'⟩ := hconcludes hn' hok'
    exact congrArg RouteResult.provider (Except.ok.inj (hresult.symm.trans hresult'))

lemma handled_charging (a : ChargeAttempt) (input : CheckoutSagaInput) (manual : Bool) :
    Charging a.paymentId ((a.invocations input).map Invocation.provider)
      (PaymentController.charge a.env { input with paymentId := a.paymentId } manual) := by
  unfold PaymentController.charge
  split_ifs
  · trivial
  · trivial
  · exact execute_charging a.env { input with paymentId := a.paymentId }

lemma issued_prefix (a : ChargeAttempt) (input : CheckoutSagaInput) (manual : Bool) (db : Db) :
    (a.handled input manual db).1.filterMap Cmd.chargeRequest <+:
      (a.invocations input).map Invocation.provider := by
  refine (a.handled_charging input manual).issued
    (K := fun left issued => issued.filterMap Cmd.chargeRequest <+: left)
    (fun left => List.nil_prefix) ?_ ?_ a.faults db
  · intro left c left' issued hc hissued
    cases hc with
    | charge provider key => exact (List.prefix_cons_inj provider).2 hissued
    | other _ _ hrequest =>
      rw [List.filterMap_cons, hrequest]
      exact hissued
  · rintro left _ ⟨entity, event, hold, now, rfl, -, -⟩
    exact List.nil_prefix

lemma mem_delivered {db : Db} {provider : PSPProvider}
    (h : provider ∈ a.delivered (a.handled input manual db).1) :
    ∃ n x, (a.invocations input)[n]? = some x ∧ x.provider = provider ∧
      ((a.env.charge n provider).toBool ∨ a.unreported n provider) := by
  unfold delivered at h
  obtain ⟨⟨provider, n⟩, hmem, rfl⟩ := List.mem_map.1 h
  obtain ⟨hmem, hreached⟩ := List.mem_filter.1 hmem
  obtain ⟨hlt, hget⟩ := List.getElem?_eq_some_iff.1 (List.mem_zipIdx_iff_getElem?.1 hmem)
  have hlog := List.prefix_iff_getElem?.1 (a.issued_prefix input manual db) n hlt
  rw [hget, List.getElem?_map, Option.map_eq_some_iff] at hlog
  obtain ⟨x, hx, hprovider⟩ := hlog
  exact ⟨n, x, hx, hprovider, Bool.or_eq_true_iff.1 hreached⟩

lemma handled_books (input : CheckoutSagaInput) (manual : Bool)
    (hfaults : ∀ fault, some fault ∈ a.faults → fault.applied = false) (db : Db) :
    ((a.handled input manual db).2.1.ledgerOutbox = db.ledgerOutbox ∧
        ∀ result, (a.handled input manual db).2.2 = .ok result → result.status ≠ .SUCCEEDED) ∨
      ∃ event result, event.paymentId = a.paymentId ∧ event.eventType = .PAYMENT_CHARGED ∧
        (a.handled input manual db).2.1.ledgerOutbox = db.ledgerOutbox ++ [event] ∧
        (a.handled input manual db).2.2 = .ok result ∧ result.status = .SUCCEEDED := by
  have hkeeps : ∀ left c left' (db : Db), Requests left c left' →
      (Commands.apply c db).ledgerOutbox = db.ledgerOutbox := by
    intro left c left' db hc
    cases hc with
    | charge provider key => rfl
    | other _ hbooks => exact Cmd.ledgerOutbox_apply hbooks db
  have hfallible : ∀ c, BooksCharge a.paymentId c → sagaFaults.ignored c = false := by
    rintro _ ⟨entity, event, hold, now, rfl, -, -⟩
    rfl
  rcases (a.handled_charging input manual).perform
      (I := fun db db' : Db => db'.ledgerOutbox = db.ledgerOutbox) (fun _ => rfl)
      (fun _ _ _ h h' => h'.trans h) hkeeps hfallible a.faults hfaults db with
    hnone | ⟨_, db', result, ⟨entity, event, hold, now, rfl, hid, htype⟩, hdb', hrun, hresult⟩
  · exact .inl hnone
  · refine .inr ⟨event, result, hid, htype, ?_, congrArg Prod.snd hrun, hresult⟩
    rw [← hdb']
    exact congrArg (fun run => run.1.ledgerOutbox) hrun

end ChargeAttempt

/-! ### What all of them do -/

namespace RetryWorld

variable {answer : PSPProvider → PspChargeResponse} {ids : List String} {w : RetryWorld}
  {a : ChargeAttempt} {input : CheckoutSagaInput} {manual : Bool}

/-- Nothing is booked for the key yet. -/
structure Open (ids : List String) (w : RetryWorld) : Prop where
  charges : w.db.chargesOf ids = []
  record : ∀ entry result, w.store.record = some entry → entry.1.response = some result →
    result.status ≠ .SUCCEEDED
  response : w.returnedSucceeded = false

/-- A charge is booked, and on record. -/
structure Closed (ids : List String) (w : RetryWorld) : Prop where
  charges : (w.db.chargesOf ids).length = 1
  record : ∃ result statusCode expiry,
    w.store.record = some (⟨.COMPLETED, some result, statusCode⟩, expiry)

/-- The invariant of the requests. -/
structure Sound (answer : PSPProvider → PspChargeResponse) (ids : List String) (w : RetryWorld) :
    Prop where
  charged : ∀ p ∈ w.charged answer, ∀ q ∈ w.charged answer, p = q
  booked : w.Open ids ∨ w.Closed ids

lemma mem_charged {p : PSPProvider} :
    p ∈ w.charged answer ↔ p ∈ w.reached ∧ (answer p).status = .SUCCEEDED := by
  unfold charged
  rw [List.mem_filter, decide_eq_true_iff]

lemma Sound.charged_executed (h : w.Sound answer ids) (ha : w.Repeats input answer a)
    {w' : RetryWorld}
    (hreached : w'.reached = w.reached ++ a.delivered (a.handled input manual w.db).1) :
    ∀ p ∈ w'.charged answer, ∀ q ∈ w'.charged answer, p = q := by
  have hold : ∀ {p q : PSPProvider}, p ∈ w.reached → (answer p).status = .SUCCEEDED →
      q ∈ a.delivered (a.handled input manual w.db).1 → q = p := by
    intro p q hp hp' hq
    obtain ⟨n, x, hx, rfl, -⟩ := mem_delivered hq
    exact (ha.charged p (mem_charged.2 ⟨hp, hp'⟩)).provider (List.mem_of_getElem? hx)
  intro p hp q hq
  rw [mem_charged, hreached, List.mem_append] at hp hq
  obtain ⟨hp, hp'⟩ := hp
  obtain ⟨hq, hq'⟩ := hq
  rcases hp with hp | hp <;> rcases hq with hq | hq
  · exact h.charged p (mem_charged.2 ⟨hp, hp'⟩) q (mem_charged.2 ⟨hq, hq'⟩)
  · exact (hold hp hp' hq).symm
  · exact hold hq hq' hp
  · obtain ⟨n, x, hx, rfl, hreached⟩ := mem_delivered hp
    obtain ⟨n', x', hx', rfl, hreached'⟩ := mem_delivered hq
    rcases hreached with hok | hunreported
    · rcases hreached' with hok' | hunreported'
      · exact invocations_answered hx hx' hok hok'
      · exact (ha.unreported n' _ hunreported' hq').provider (List.mem_of_getElem? hx)
    · exact ((ha.unreported n _ hunreported hp').provider (List.mem_of_getElem? hx')).symm

lemma Open.of_outbox {w' : RetryWorld} (h : w.Open ids)
    (houtbox : w'.db.ledgerOutbox = w.db.ledgerOutbox)
    (hrecord : ∀ entry result, w'.store.record = some entry → entry.1.response = some result →
      result.status ≠ .SUCCEEDED)
    (hresponse : w'.returnedSucceeded = false) : w'.Open ids where
  charges := by
    rw [← h.charges]
    unfold Db.chargesOf
    rw [houtbox]
  record := hrecord
  response := hresponse

/-- A charge that is booked and on record closes the key. -/
lemma Open.closed {w' : RetryWorld} (h : w.Open ids) {event : LedgerOutboxEvent}
    (hid : event.paymentId ∈ ids) (htype : event.eventType = .PAYMENT_CHARGED)
    (houtbox : w'.db.ledgerOutbox = w.db.ledgerOutbox ++ [event])
    (hrecord : ∃ result statusCode expiry,
      w'.store.record = some (⟨.COMPLETED, some result, statusCode⟩, expiry)) : w'.Closed ids where
  charges := by
    have hcharges := h.charges
    unfold Db.chargesOf at hcharges ⊢
    rw [houtbox, List.filter_append, hcharges]
    simp [hid, htype]
  record := hrecord

/-- A closed key is answered from the record. -/
lemma Closed.replay (h : w.Closed ids) (hsafe : w.Safe input answer a) :
    (w.arrival a).replay ≠ none := by
  obtain ⟨result, statusCode, expiry, hrecord⟩ := h.record
  have hlive := hsafe.live _ expiry hrecord rfl
  have hread : (w.arrival a).readRecord = some ⟨.COMPLETED, some result, statusCode⟩ := by
    unfold Store.readRecord
    rw [show (w.arrival a).record = w.store.record from rfl, hrecord]
    simp [Option.filter, hlive]
  simp [Store.replay, hread]

lemma replay_eq_some {s : Store CheckoutSagaResult} {reply : Reply CheckoutSagaResult}
    (h : s.replay = some reply) :
    ∃ entry, s.record = some entry ∧ entry.1.response = reply.body := by
  unfold Store.replay at h
  split at h
  · rename_i body statusCode hread
    obtain rfl := Option.some.inj h
    obtain ⟨entry, hentry, hfst⟩ := Option.map_eq_some_iff.1 hread
    exact ⟨entry, (Option.filter_eq_some_iff.1 hentry).1, by rw [hfst]⟩
  · exact (nomatch h)

/-- **One request keeps the invariant**, if it meets the condition. -/
theorem Sound.charge (h : w.Sound answer ids) (hid : a.paymentId ∈ ids)
    (hsafe : w.Safe input answer a) : (w.charge input manual a).Sound answer ids := by
  have hended := interception 0 (⟨a.cache, (a.handled input manual w.db).2.2.map
    fun result => ⟨201, some result⟩⟩ : Request CheckoutSagaResult) (w.arrival a)
    fun hreplay => ⟨(hsafe.repeats hreplay).setCompleted, (hsafe.repeats hreplay).delLock⟩
  unfold RetryWorld.charge
  dsimp only
  generalize outcome (processIdempotency 0 _) (w.arrival a) = ended at hended ⊢
  cases hended with
  | @rejected s' e hrecord =>
    refine ⟨h.charged, ?_⟩
    rcases h.booked with hopen | hclosed
    · refine .inl (hopen.of_outbox rfl ?_ rfl)
      intro entry result hentry hresult
      rcases hrecord with hsame | ⟨-, hunanswered⟩
      · exact hopen.record entry result (hsame.symm.trans hentry) hresult
      · exact absurd ((hunanswered entry hentry).symm.trans hresult) nofun
    · have hsame := hrecord.resolve_right fun hnone => hclosed.replay hsafe hnone.1
      obtain ⟨result, statusCode, expiry, hresult⟩ := hclosed.record
      exact .inr ⟨hclosed.charges, result, statusCode, expiry, hsame.trans hresult⟩
  | @replayed s' reply hreplay hrecord =>
    refine ⟨h.charged, ?_⟩
    rcases h.booked with hopen | hclosed
    · obtain ⟨entry, hentry, hbody⟩ := replay_eq_some hreplay
      refine .inl (hopen.of_outbox rfl (fun entry result hentry' => ?_) ?_)
      · exact hopen.record entry result (hrecord.symm.trans hentry')
      · obtain ⟨statusCode, _ | result⟩ := reply
        · rfl
        · exact decide_eq_false (hopen.record entry result hentry hbody)
    · obtain ⟨result, statusCode, expiry, hresult⟩ := hclosed.record
      exact .inr ⟨hclosed.charges, result, statusCode, expiry, hrecord.trans hresult⟩
  | @failed s' e e' hreplay herror hrecord =>
    have hrepeats := hsafe.repeats hreplay
    have hopen := h.booked.resolve_right fun hclosed => hclosed.replay hsafe hreplay
    refine ⟨h.charged_executed hrepeats rfl, .inl ?_⟩
    rcases a.handled_books input manual hrepeats.faults w.db with
      ⟨houtbox, -⟩ | ⟨event, result, -, -, -, hok, -⟩
    · refine hopen.of_outbox houtbox (fun entry result hentry hresult => ?_) rfl
      exact absurd ((hrecord entry hentry).symm.trans hresult) nofun
    · rw [hok] at herror
      exact (nomatch herror)
  | @completed s' reply hreplay hok hrecord =>
    have hrepeats := hsafe.repeats hreplay
    have hopen := h.booked.resolve_right fun hclosed => hclosed.replay hsafe hreplay
    refine ⟨h.charged_executed hrepeats rfl, ?_⟩
    rcases a.handled_books input manual hrepeats.faults w.db with
      ⟨houtbox, hnot⟩ | ⟨event, result, hevent, htype, houtbox, hresult, -⟩
    · cases hresult : (a.handled input manual w.db).2.2 with
      | error e =>
        rw [hresult] at hok
        exact (nomatch hok)
      | ok result =>
        rw [hresult] at hok
        obtain rfl := Except.ok.inj hok
        have hstatus := hnot result hresult
        refine .inl (hopen.of_outbox houtbox (fun entry result' hentry hresult' => ?_) ?_)
        · obtain rfl := Option.some.inj (hrecord.symm.trans hentry)
          obtain rfl := Option.some.inj hresult'
          exact hstatus
        · exact decide_eq_false hstatus
    · rw [hresult] at hok
      obtain rfl := Except.ok.inj hok
      exact .inr (hopen.closed (hevent ▸ hid) htype houtbox ⟨result, _, _, hrecord⟩)

lemma Fresh.sound (h : w.Fresh ids) : w.Sound answer ids where
  charged := by
    unfold charged
    rw [h.reached]
    exact fun _ hp => (nomatch hp)
  booked := by
    refine .inl ⟨h.charges, fun entry result hentry => ?_, ?_⟩
    · exact absurd (h.record.symm.trans hentry) nofun
    · unfold returnedSucceeded
      rw [h.response]

end RetryWorld

/-- **Client retries**: of the requests that meet the condition, whatever they meet otherwise, at
most one PSP ends up having charged the customer, and a charge that is returned as succeeded was
booked once.  That the PSPs answer a key consistently is needed only for `answer` to be defined. -/
theorem retries_charge_once (answer : PSPProvider → PspChargeResponse) (input : CheckoutSagaInput)
    (manual : Bool) (attempts : List ChargeAttempt) (w : RetryWorld)
    (hfresh : w.Fresh (attempts.map paymentId))
    (hsafe : ∀ moment ∈ History.moments (RetryWorld.charge input manual) w attempts,
      moment.2.Safe input answer moment.1) :
    let w' := History.after (RetryWorld.charge input manual) w attempts
    (∀ p ∈ w'.charged answer, ∀ q ∈ w'.charged answer, p = q) ∧
      (w'.charged answer ≠ [] → w'.returnedSucceeded →
        (w'.db.chargesOf (attempts.map paymentId)).length = 1) := by
  intro w'
  have hsound : w'.Sound answer (attempts.map paymentId) := by
    refine @History.keeps _ _ (RetryWorld.charge input manual) (RetryWorld.Sound answer _)
      (fun a w => a.paymentId ∈ attempts.map paymentId ∧ w.Safe input answer a)
      (fun a w hw ha => hw.charge ha.1 ha.2) w hfresh.sound attempts ?_
    intro moment hmoment
    have hmem := List.mem_map_of_mem (f := Prod.fst) hmoment
    rw [History.map_fst_moments] at hmem
    exact ⟨List.mem_map_of_mem hmem, hsafe moment hmoment⟩
  refine ⟨hsound.charged, fun _ hreturned => ?_⟩
  rcases hsound.booked with hopen | hclosed
  · rw [hopen.response] at hreturned
    exact (nomatch hreturned)
  · exact hclosed.charges

namespace Sample

/-- Every PSP accepts. -/
def accepts : PSPProvider → PspChargeResponse :=
  fun _ => { status := .SUCCEEDED, transactionId := "tx-1" }

/-- The health of the providers while `down` is not available. -/
def healthWithout (down : PSPProvider) : List PspHealthStatus :=
  SmartRouting.registered.map fun provider =>
    { healthy provider with isAvailable := provider ≠ down }

/-- A request while one PSP is down. -/
def attemptWithout (down : PSPProvider) (paymentId eventId : String) : ChargeAttempt where
  paymentId := paymentId
  env := { checkoutEnv fun _ provider => .ok (accepts provider) with
    booking := booking eventId
    selectionHealth := healthWithout down
    executionHealth := healthWithout down }

/-- The third operation of the database fails: the transaction after the charge. -/
def uncommitted (a : ChargeAttempt) : ChargeAttempt :=
  { a with faults := [none, none, some ⟨false, .plain "ECONNRESET"⟩] }

/-- The record of the response fails. -/
def unrecorded (a : ChargeAttempt) : ChargeAttempt :=
  { a with cache := { setCompleted := some ⟨false, .plain "ECONNRESET"⟩ } }

/-- A key that was never used. -/
def unused : RetryWorld where
  db := Db.empty
  store := { now := 0 }

lemma fresh_unused (ids : List String) : unused.Fresh ids := ⟨rfl, rfl, rfl, rfl⟩

/-- What the requests leave. -/
def after (attempts : List ChargeAttempt) : RetryWorld :=
  History.after (RetryWorld.charge input false) unused attempts

/-- A retry after the lock has expired. -/
def lateRetry : ChargeAttempt :=
  { attemptWithout .STRIPE "payment-3" "event-3" with elapsed := 60 }

/-- A charge that is not committed, its retry, and a retry of that. -/
def repeated : List ChargeAttempt :=
  [uncommitted (attemptWithout .ADYEN "payment-1" "event-1"),
    attemptWithout .ADYEN "payment-2" "event-2", lateRetry]

/-- The retry of a charge that was not committed finds Stripe down. -/
def rerouted : List ChargeAttempt :=
  [uncommitted (attemptWithout .ADYEN "payment-1" "event-1"),
    attemptWithout .STRIPE "payment-2" "event-2"]

/-- The response to the first request cannot be put on record. -/
def rebooked : List ChargeAttempt :=
  [unrecorded (attemptWithout .ADYEN "payment-1" "event-1"),
    attemptWithout .ADYEN "payment-2" "event-2"]

lemma routesOnly_stripe (paymentId eventId : String) :
    (attemptWithout .ADYEN paymentId eventId).RoutesOnly input .STRIPE := by
  intro params _ health hhealth hroutable
  obtain ⟨provider, hprovider, rfl⟩ := List.mem_map.1 hhealth
  rcases List.mem_pair.1 hprovider with rfl | rfl
  · rfl
  · simp [SmartRouting.isRoutable] at hroutable

lemma safe_of_stripe {w : RetryWorld} {a : ChargeAttempt} (hrecord : w.store.record.isNone)
    (hcharged : (w.charged accepts).all (· = .STRIPE)) (ha : a.RoutesOnly input .STRIPE)
    (hunreported : ∀ n provider, a.unreported n provider = false)
    (hset : a.cache.setCompleted = none) (hdel : a.cache.delLock = none)
    (hfaults : ∀ fault, some fault ∈ a.faults → fault.applied = false) :
    w.Safe input accepts a where
  live := fun record expiry h => by
    rw [h] at hrecord
    exact (nomatch hrecord)
  repeats := fun _ =>
    { charged := fun provider hprovider =>
        of_decide_eq_true (List.all_eq_true.1 hcharged provider hprovider) ▸ ha
      unreported := fun n provider h => by
        rw [hunreported] at h
        exact (nomatch h)
      setCompleted := hset
      delLock := hdel
      faults := hfaults }

lemma safe_repeated :
    ∀ moment ∈ History.moments (RetryWorld.charge input false) unused repeated,
      moment.2.Safe input accepts moment.1 := by
  have hmoments : History.moments (RetryWorld.charge input false) unused repeated =
      [(uncommitted (attemptWithout .ADYEN "payment-1" "event-1"), unused),
        (attemptWithout .ADYEN "payment-2" "event-2", after (repeated.take 1)),
        (lateRetry, after (repeated.take 2))] := rfl
  have hlive : (after (repeated.take 2)).store.record.all fun entry =>
      ((after (repeated.take 2)).arrival lateRetry).now < entry.2 := by decide +kernel
  have hreplay : ((after (repeated.take 2)).arrival lateRetry).replay.isSome := by decide +kernel
  rw [hmoments]
  refine List.forall_mem_cons.2 ⟨?_, List.forall_mem_cons.2 ⟨?_, List.forall_mem_singleton.2 ?_⟩⟩
  · refine safe_of_stripe rfl rfl (routesOnly_stripe "payment-1" "event-1") (fun _ _ => rfl) rfl
      rfl ?_
    intro fault hfault
    simp only [uncommitted, List.mem_cons, reduceCtorEq, Option.some.injEq, List.not_mem_nil,
      or_false, false_or] at hfault
    rw [hfault]
  · exact safe_of_stripe (by decide +kernel) (by decide +kernel)
      (routesOnly_stripe "payment-2" "event-2") (fun _ _ => rfl) rfl rfl
      fun _ hfault => (nomatch hfault)
  · refine ⟨fun record expiry hrecord _ => ?_, fun hnone => ?_⟩
    · rw [hrecord] at hlive
      exact of_decide_eq_true hlive
    · rw [hnone] at hreplay
      exact (nomatch hreplay)

end Sample

open Sample

/-- The transaction fails, and the retry is routed to the same PSP; a later one is answered from the
record, wherever it would be routed. -/
theorem retries_charge_once_repeated :
    ((after repeated).charged accepts = [.STRIPE, .STRIPE] ∧ (after repeated).returnedSucceeded) ∧
      (∀ p ∈ (after repeated).charged accepts, ∀ q ∈ (after repeated).charged accepts, p = q) ∧
      ((after repeated).charged accepts ≠ [] → (after repeated).returnedSucceeded →
        ((after repeated).db.chargesOf (repeated.map paymentId)).length = 1) := by
  refine ⟨by decide +kernel, retries_charge_once accepts input false repeated unused
    (fresh_unused _) safe_repeated⟩

/-- Stripe charges, and the transaction that follows fails; the client retries.  If Stripe is down
by then, Adyen charges as well.  And if the first charge was booked, but could not be put on record,
the retry books it for a second payment. -/
theorem retries_charge_twice :
    (∀ down paymentId eventId n provider,
      (attemptWithout down paymentId eventId).env.charge n provider = .ok (accepts provider)) ∧
    (∀ ids, unused.Fresh ids) ∧
    ((after rerouted).charged accepts = [.STRIPE, .ADYEN] ∧ (after rerouted).returnedSucceeded) ∧
    (after rebooked).charged accepts = [.STRIPE, .STRIPE] ∧ (after rebooked).returnedSucceeded ∧
      ((after rebooked).db.chargesOf (rebooked.map paymentId)).length = 2 := by
  refine ⟨fun _ _ _ _ _ => rfl, fresh_unused, ?_, ?_⟩ <;> decide +kernel

end OmniSwitch
