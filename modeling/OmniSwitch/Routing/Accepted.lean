import OmniSwitch.PendingCharges
import OmniSwitch.Routing.Attribution

/-!
# Between the PSP's acceptance and the commit

Once a PSP has accepted a charge, the checkout still reads the body, reports the success to the
circuit breaker, records the routing and updates the tracker of exemptions.  Each of these may
throw, inside the `try` blocks that tell declined from ambiguous charges.  An error of theirs
carries no mark, so it counts as a refusal: the next provider is charged, or the payment is marked
as failed, or it stays as it was before the charge.

Main results:

* `Accepts.charge`: what an adapter makes of an acceptance;
* `accepted_charge_honoured_iff`: when an accepted charge is booked;
* `accepted_charge_dishonoured`: errors after which it is not.
-/

namespace OmniSwitch

open Lib Prog PaymentProcessor PspAdapter

/-! ### One attempt of an execution -/

section attempts

variable {T : Type} {decision : RoutingDecision}

/-- An attempt that was answered ends the execution with its answer.  One that failed with an
ordinary error leads to another provider, or ends the execution with an ordinary error. -/
structure AttemptAt (run : List (Invocation T) × Except AppError (RouteResult T)) (k : Nat)
    (attempt : Invocation T) : Prop where
  answered : ∀ result, attempt.outcome = .ok result → run.1.length = k + 1 ∧
    ∃ usedFallback, run.2 = .ok ⟨result, attempt.provider, usedFallback⟩
  thrown : ∀ message, attempt.outcome = .error (.plain message) →
    (∃ next, run.1[k + 1]? = some next ∧ next.provider ≠ attempt.provider) ∨
      ∃ e, run.2 = .error e ∧ ¬ isAmbiguousOutcomeError e

section

variable (operation : Nat → PSPProvider → Except AppError T) (isAvailable : PSPProvider → Bool)
  {context : RoutingContext} {healthMap : List PspHealthStatus}
  (hmap : healthMap.map PspHealthStatus.provider = SmartRouting.registered)
  (hdecision : SmartRouting.selectProvider context healthMap = .ok decision)

include hmap hdecision

variable {attempt : Invocation T}

/-- After an attempt that failed with an ordinary error, another provider is tried, if any. -/
lemma provider_ne_of_plain {k : Nat} {next : Invocation T}
    (hk : (executeWithFallback decision operation isAvailable).1[k]? = some attempt)
    (hnext : (executeWithFallback decision operation isAvailable).1[k + 1]? = some next)
    {message : String} (hplain : attempt.outcome = .error (.plain message)) :
    next.provider ≠ attempt.provider := by
  intro heq
  obtain ⟨rest, hrest⟩ :=
    (executeWithFallback_trace decision operation isAvailable).providers_initial
  have hproviders : ∀ {j : Nat} {x : Invocation T},
      (executeWithFallback decision operation isAvailable).1[j]? = some x →
      (List.replicate (attemptsAtPrimary decision operation) decision.selectedProvider ++
        decision.fallbackProviders.filter isAvailable)[j]? = some x.provider := by
    intro j x hx
    have hlt := (List.getElem?_eq_some_iff.1 hx).1
    rw [← hrest, List.getElem?_append_left (by simpa using hlt), List.getElem?_map, hx]
    rfl
  have hk' := hproviders hk
  have hnext' := hproviders hnext
  rw [heq] at hnext'
  have hdistinct : ∀ j,
      (decision.selectedProvider :: decision.fallbackProviders.filter isAvailable)[j]? =
        some attempt.provider →
      (decision.selectedProvider :: decision.fallbackProviders.filter isAvailable)[j + 1]? ≠
        some attempt.provider := by
    intro j hj hj'
    have hnodup := (SmartRouting.selected_cons_fallbacks (hmap ▸ by decide) hdecision).1.sublist
      ((List.filter_sublist (p := isAvailable)).cons_cons decision.selectedProvider)
    exact List.nodup_iff_getElem?_ne_getElem?.1 hnodup j (j + 1) (Nat.lt_succ_self j)
      (List.getElem?_eq_some_iff.1 hj').1 (hj.trans hj'.symm)
  by_cases hretry : retries (operation 0 decision.selectedProvider)
  · rw [attemptsAtPrimary, if_pos hretry] at hk' hnext'
    cases k with
    | zero =>
      -- an attempt that is retried did not fail with an ordinary error
      have hfirst : decision.selectedProvider = attempt.provider := Option.some.inj hk'
      rw [hfirst, ← (executeWithFallback_logged hk).1, hplain] at hretry
      exact (nomatch hretry)
    | succ k => exact hdistinct k hk' hnext'
  · rw [attemptsAtPrimary, if_neg hretry] at hk' hnext'
    exact hdistinct k hk' hnext'

/-- **What one attempt tells about an execution**, over the registered adapters. -/
theorem executeWithFallback_at {k : Nat}
    (hattempt : (executeWithFallback decision operation isAvailable).1[k]? = some attempt) :
    attempt.outcome = operation k attempt.provider ∧
      AttemptAt (executeWithFallback decision operation isAvailable) k
        attempt := by
  have htrace := executeWithFallback_trace decision operation isAvailable
  obtain ⟨houtcome, hanswered⟩ := executeWithFallback_logged hattempt
  refine ⟨houtcome, hanswered, fun message hplain => ?_⟩
  cases hnext : (executeWithFallback decision operation isAvailable).1[k + 1]? with
  | some next =>
    exact .inl ⟨next, rfl, provider_ne_of_plain operation isAvailable hmap hdecision hattempt hnext
      hplain⟩
  | none =>
    have hlength : (executeWithFallback decision operation isAvailable).1.length =
        k + 1 :=
      le_antisymm (List.getElem?_eq_none_iff.1 hnext) (List.getElem?_eq_some_iff.1 hattempt).1
    obtain ⟨e, he⟩ := executeWithFallback_of_last hattempt hlength hplain
    refine .inr ⟨e, he, ?_⟩
    have hadapters : ∀ provider ∈ decision.fallbackProviders,
        getAdapter provider = .ok provider := by
      intro provider hprovider
      obtain ⟨health, hhealth, -, rfl⟩ := (SmartRouting.selected_cons_fallbacks
        (hmap ▸ by decide) hdecision).2 provider (List.mem_cons_of_mem _ hprovider)
      exact SmartRouting.getAdapter_of_registered (hmap ▸ List.mem_map_of_mem hhealth)
    rw [htrace.tagged hadapters he, List.getLast?_eq_getElem?, hlength, Nat.add_sub_cancel,
      hattempt, Option.elim_some, hplain]
    exact Bool.false_ne_true

end

end attempts

/-! ### What a charge request meets -/

/-- The JSON of a response, when there is one to be read. -/
def Exchange.json {R : Type} : Exchange R → Except String Unit
  | .noResponse _ => .ok ()
  | .answered _ json => json
  | .rejected _ _ json => json

/-- What one charge request meets: the circuit breaker of its provider, and what the PSP it goes to
makes of it. -/
structure Wire where
  breaker : Breaker := {}
  stripe : Exchange StripePaymentIntent
  adyen : Exchange AdyenPayment

/-- Source: `psp-adapter.port.ts` `PSPAdapterPort.charge` -/
def PspAdapter.charge (request : PspChargeRequest) (wire : Wire) :
    PSPProvider → Except AppError PaymentCheckoutSaga.PspChargeResponse
  | .STRIPE => StripeAdapter.charge request wire.breaker wire.stripe
  | .ADYEN => AdyenAdapter.charge request wire.breaker wire.adyen
  | provider => .error (.plain s!"No PSP adapter registered for provider: {provider}")

variable {provider : PSPProvider}

namespace Wire

/-- The PSP answered with a 2xx status and a body that says `succeeded` or `Authorised`; the details
are those that the adapter reads off this body.

Source: `StripePSPAdapter.charge`; `AdyenPSPAdapter.charge` -/
inductive Accepts (request : PspChargeRequest) (wire : Wire) :
    PSPProvider → AuthorizationDetails → Prop
  | stripe {intent : StripePaymentIntent} {json : Except String Unit}
      (sent : wire.breaker.assertAvailable = .ok ()) (answer : wire.stripe = .answered intent json)
      (status : intent.status = .succeeded) :
      Accepts request wire .STRIPE (StripeAdapter.authorization request intent)
  | adyen {payment : AdyenPayment} {json : Except String Unit}
      (sent : wire.breaker.assertAvailable = .ok ()) (answer : wire.adyen = .answered payment json)
      (status : payment.resultCode = .Authorised) :
      Accepts request wire .ADYEN (AdyenAdapter.authorization request payment)

/-- The body could be read, and the success be reported to the circuit breaker. -/
def Reported (wire : Wire) (provider : PSPProvider) : Prop :=
  (match provider with
    | .STRIPE => wire.stripe.json
    | .ADYEN => wire.adyen.json
    | _ => .ok ()) = .ok () ∧ wire.breaker.recordSuccess = .ok ()

/-- Adyen's authorisation of a charge with manual capture takes no money yet. -/
def AuthorisesOnly (request : PspChargeRequest) (provider : PSPProvider) : Prop :=
  provider = .ADYEN ∧ request.captureMethod = .manual

/-- **What an adapter makes of an acceptance**: the answer, or an error without any mark. -/
theorem Accepts.charge {request : PspChargeRequest} {wire : Wire} {details : AuthorizationDetails}
    (h : wire.Accepts request provider details) :
    (wire.Reported provider ∧ ∃ response, charge request wire provider = .ok response ∧
        response.details = details ∧
        (AuthorisesOnly request provider ∧ response.status = .REQUIRES_CAPTURE ∨
          ¬ AuthorisesOnly request provider ∧ response.status = .SUCCEEDED)) ∨
      ¬ wire.Reported provider ∧
        ∃ message, charge request wire provider = .error (.plain message) := by
  cases h with
  | @stripe intent json sent answer status =>
    unfold Reported charge StripeAdapter.charge
    rw [answer]
    refine (call_answered sent "Stripe" intent json _).imp_left ?_
    rintro ⟨hreported, hcall⟩
    refine ⟨hreported, _, hcall, ?_⟩
    simp [StripeAdapter.chargeResponse, status, AuthorisesOnly]
  | @adyen payment json sent answer status =>
    unfold Reported charge AdyenAdapter.charge
    rw [answer]
    refine (call_answered sent "Adyen" payment json _).imp_left ?_
    rintro ⟨hreported, hcall⟩
    refine ⟨hreported, _, hcall, ?_⟩
    by_cases hmanual : request.captureMethod = .manual <;>
      simp [AdyenAdapter.chargeResponse, status, AuthorisesOnly, hmanual]

end Wire

/-! ### From the answer to the payment -/

namespace PaymentCheckoutSaga

section outcomes

variable {env : CheckoutEnv} {input : CheckoutSagaInput} {params : ChargeLedgerParams}
  {first : PSPProvider} {p : PaymentAggregate} {db : Db}

lemma Processing.status_row (h : Processing input first p db) :
    db.status input.paymentId = some .PROCESSING := by
  have hpersisted := congrArg (Option.map Prod.fst) h.persisted
  unfold PaymentCheckoutSaga.persisted at hpersisted
  rw [Option.map_map] at hpersisted
  exact hpersisted

lemma Processing.status_saved (h : Processing input first p db) {q : PaymentAggregate}
    (hid : q.id = p.id) (now : Date) :
    (db.savePayment q.toPersistence now).status input.paymentId = some q.status := by
  rw [← h.id, ← hid]
  exact db.status_savePayment q now

variable {requested : Option ScaExemptionType} {c : Option Cmd}
  {r : Except AppError CheckoutSagaResult}

lemma Processing.failed (h : Processing input first p db) {e : AppError}
    (hc : Conclusion env input params requested p (.error e) c r)
    (hplain : ¬ isAmbiguousOutcomeError e) :
    ((conclude c r).run db).1.status input.paymentId = some .FAILED := by
  cases hc with
  | ambiguous unknown => exact absurd unknown hplain
  | failed _ turned =>
    exact (h.status_saved turned.same.id env.booking.now).trans (congrArg some turned.status)

/-- A checkout that gets as far as the charge saves the payment as being processed, and concludes by
what the routing comes to. -/
lemma Reaches.concludes {first second : RoutingDecision}
    (h : Reaches env input db params requested first second) :
    ∃ p c r, Turned (intent env input) p .PROCESSING .undefined ∧
      p.pspProvider = .value first.selectedProvider ∧
      Conclusion env input params requested p
        (executeWithSmartRouting env (routingContext input params)).2 c r ∧
      (execute env input).run db = (conclude c r).run
        ((db.savePayment (intent env input).toPersistence env.booking.now).savePayment
          p.toPersistence env.booking.now) := by
  obtain ⟨isFirst, hread, hrun⟩ := execute_run env input db
  have hreached := ((reached_iff hread).1 h).1
  have hcourse := executeIntent_course env input isFirst
  rw [hrun]
  generalize executeIntent env input isFirst (intent env input) = prog at hcourse
  cases hcourse with
  | refused unreached => exact absurd hreached (unreached _ _ _)
  | charged reached turned pspProvider concluded =>
    obtain ⟨rfl, rfl, rfl⟩ := hreached.unique reached
    exact ⟨_, _, _, turned, pspProvider, concluded, run_charges_bind _ _ _ _⟩

/-- **A checkout that gets as far as the charge** books nothing before it. -/
theorem Reaches.run {first second : RoutingDecision}
    (h : Reaches env input db params requested first second)
    (hfresh : db.payments.get input.paymentId = none) :
    ∃ p c r db', Processing input first.selectedProvider p db' ∧
      db'.ledgerOutbox = db.ledgerOutbox ∧
      Conclusion env input params requested p
        (executeWithSmartRouting env (routingContext input params)).2 c r ∧
      (execute env input).run db = (conclude c r).run db' := by
  obtain ⟨p, c, r, turned, pspProvider, concluded, hrun⟩ := h.concludes
  exact ⟨p, c, r, _, turned.processing pspProvider (persisted_intent env hfresh), rfl, concluded,
    hrun⟩

end outcomes

/-- What a charge that a provider accepted should come to: no other provider is charged after it,
and the payment is booked or left for the resolution of its outcome. -/
structure Honoured (input : CheckoutSagaInput) (log : List (Invocation PspChargeResponse)) (k : Nat)
    (provider : PSPProvider) (db : Db) : Prop where
  sameProvider : ∀ j > k, ∀ later, log[j]? = some later → later.provider = provider
  notFailed : db.status input.paymentId ≠ some .FAILED
  concluded : (db.status input.paymentId = some .SUCCEEDED ∧
      ∃ event, event.Charges input.paymentId input.amount ∧
        db.chargeEvents input.paymentId = [event]) ∨
    db.status input.paymentId = some .AMBIGUOUS

variable {input : CheckoutSagaInput} {log : List (Invocation PspChargeResponse)}

lemma not_honoured_of_status {k : Nat} {db : Db} {status : PaymentStatus}
    (h : db.status input.paymentId = some status)
    (hne : status ≠ .SUCCEEDED ∧ status ≠ .AMBIGUOUS) : ¬ Honoured input log k provider db := by
  rintro ⟨-, -, ⟨hsucceeded, -⟩ | hambiguous⟩
  · exact hne.1 (Option.some.inj (h.symm.trans hsucceeded))
  · exact hne.2 (Option.some.inj (h.symm.trans hambiguous))

lemma Processing.honoured {first : PSPProvider} {p : PaymentAggregate} {db₀ db db' : Db}
    (h : Processing input first p db) (hfresh : db₀.Fresh input.paymentId)
    (hledger : db.ledgerOutbox = db₀.ledgerOutbox) (hcharged : Charged p db db') {k : Nat}
    (hlast : ∀ j > k, log[j]? = none) : Honoured input log k provider db' := by
  have hnone : db.chargeEvents input.paymentId = [] := by
    unfold Db.chargeEvents
    rw [hledger]
    refine List.filter_eq_nil_iff.2 fun event hevent => ?_
    simp [hfresh.ledger event hevent]
  have hstatus := hcharged.status
  obtain ⟨event, hevent, hevents⟩ := hcharged.chargeEvents
  rw [h.id] at hstatus hevent hevents
  rw [h.amount] at hevent
  rw [hnone, List.nil_append] at hevents
  refine ⟨fun j hj later hlater => ?_, ?_, .inl ⟨hstatus, event, hevent, hevents⟩⟩
  · exact (nomatch (hlast j hj).symm.trans hlater)
  · rw [hstatus]
    decide

end PaymentCheckoutSaga

open PaymentCheckoutSaga in
/-- **When an accepted charge is honoured**: exactly if its body could be read, its success be
reported, its routing be recorded and the tracker of exemptions be updated, for an acceptance that
takes the money. -/
theorem accepted_charge_honoured_iff (env : CheckoutEnv) (input : CheckoutSagaInput) (db : Db)
    (request : PspChargeRequest) (wires : Nat → Wire) (hfresh : db.Fresh input.paymentId)
    (hmap : env.executionHealth.map PspHealthStatus.provider = SmartRouting.registered)
    (hrecord : Untagged env.recordRouting)
    (hcharge : env.charge = fun n provider => charge request (wires n) provider)
    {params : ChargeLedgerParams} {requested : Option ScaExemptionType}
    {first second : RoutingDecision}
    (hreaches : Reaches env input db params requested first second) {k : Nat}
    {attempt : Invocation PspChargeResponse}
    (hattempt : (executeWithSmartRouting env (routingContext input params)).1[k]? = some attempt)
    {details : AuthorizationDetails}
    (haccepts : (wires k).Accepts request attempt.provider details) :
    Honoured input (executeWithSmartRouting env (routingContext input params)).1 k attempt.provider
        ((execute env input).run db).1 ↔
      (wires k).Reported attempt.provider ∧ env.recordRouting = .ok () ∧
        updateStreak env input details.scaExemptionIndicator requested = .ok () ∧
        ¬ Wire.AuthorisesOnly request attempt.provider := by
  obtain ⟨p, c, r, db', hp, hledger, hc, hrun⟩ := hreaches.run hfresh.payment
  have hroute := executeWithSmartRouting_of_selected hreaches.second
  have hselect := selectProvider_of_selectAdapter hreaches.second
  rw [hroute] at hattempt
  obtain ⟨houtcome, hat⟩ :=
    executeWithFallback_at env.charge env.isAvailable hmap hselect hattempt
  rw [hcharge] at houtcome
  rw [hrun]
  rcases haccepts.charge with
    ⟨hreported, response, hresponse, rfl, hstatus⟩ | ⟨hnot, message, hmessage⟩
  · obtain ⟨hlength, usedFallback, hok⟩ := hat.answered response (houtcome.trans hresponse)
    have hresult : (executeWithSmartRouting env (routingContext input params)).2 =
        env.recordRouting >>= fun _ => .ok ⟨response, attempt.provider, usedFallback⟩ := by
      rw [hroute, hok]
      rfl
    have haction : response.status ≠ .REQUIRES_ACTION := by
      rcases hstatus with ⟨-, h⟩ | ⟨-, h⟩ <;> rw [h] <;> decide
    rw [hresult] at hc
    cases hrouting : env.recordRouting with
    | error e =>
      rw [hrouting] at hc
      exact iff_of_false (not_honoured_of_status (hp.failed hc (hrecord e hrouting)) (by decide))
        (by simp)
    | ok _ =>
      rw [hrouting] at hc
      rw [← response.streak_of_ne haction]
      cases hc with
      | unrecorded _ fails =>
        refine iff_of_false (not_honoured_of_status hp.status_row (by decide)) fun h => ?_
        rcases fails with hfails | ⟨-, hfails⟩
        · exact (nomatch h.2.2.1.symm.trans hfails)
        · -- the resolver has admitted the charge
          obtain ⟨event, hevent⟩ := LedgerOutboxEvent.createChargeEntries_of_resolve
            hreaches.resolved env.booking.eventId input.paymentId input.merchantId env.booking.now
          exact (nomatch hevent.symm.trans hfails)
      | booked answer streak event_eq turned =>
        have hautomatic : ¬ Wire.AuthorisesOnly request attempt.provider := by
          rcases hstatus with ⟨-, h⟩ | ⟨h, -⟩
          · exact (nomatch answer.symm.trans h)
          · exact h
        have hcharges := LedgerOutboxEvent.createChargeEntries_ok event_eq
        rw [← hp.id, ← hp.amount] at hcharges
        refine iff_of_true (hp.honoured hfresh hledger ⟨_, _, _, _, turned.same, turned.status,
          hcharges, rfl⟩ fun j hj => ?_) ⟨hreported, rfl, streak, hautomatic⟩
        rw [hroute]
        exact List.getElem?_eq_none (hlength.trans_le hj)
      | authorised answer _ turned =>
        have hcapture : response.status = .REQUIRES_CAPTURE := answer.resolve_left haction
        have hsaved := hp.status_saved turned.same.id env.booking.now
        rw [turned.status, hcapture] at hsaved
        refine iff_of_false (not_honoured_of_status hsaved (by decide)) fun h => h.2.2.2 ?_
        rcases hstatus with ⟨hmanual, -⟩ | ⟨-, h⟩
        · exact hmanual
        · exact (nomatch hcapture.symm.trans h)
      | declined answer =>
        rcases hstatus with ⟨-, h⟩ | ⟨-, h⟩ <;> exact (nomatch answer.symm.trans h)
  · refine iff_of_false (fun h => ?_) (fun h => hnot h.1)
    rcases hat.thrown message (houtcome.trans hmessage) with ⟨next, hnext, hother⟩ | ⟨e, he, hplain⟩
    · refine hother (h.sameProvider (k + 1) (Nat.lt_succ_self k) next ?_)
      rw [hroute]
      exact hnext
    · have hresult : (executeWithSmartRouting env (routingContext input params)).2 = .error e := by
        rw [hroute, he]
        rfl
      rw [hresult] at hc
      exact not_honoured_of_status (hp.failed hc hplain) (by decide) h

namespace Sample

open PaymentCheckoutSaga

/-- The parameters that the charge is booked with. -/
def chargeParams : ChargeLedgerParams :=
  ChargeLedgerParamsResolver.paramsOf (booking "event-1").charge input.merchantId input.amount []

/-- The request of the charge. -/
def chargeRequest : PspChargeRequest := { paymentId := input.paymentId }

/-- A checkout whose charge requests meet `wire`, and whose routing records come to `recorded`. -/
def wired (wire : Wire) (recorded : Except AppError Unit) : CheckoutEnv :=
  { checkoutEnv fun _ provider => charge chargeRequest wire provider with
    recordRouting := recorded }

/-- Both PSPs accept; `breaker` is what the circuit breaker's calls come to. -/
def accepting (breaker : Breaker) : Wire where
  breaker := breaker
  stripe := .answered { id := "tx-1", status := .succeeded } (.ok ())
  adyen := .answered { pspReference := "tx-2", resultCode := .Authorised } (.ok ())

/-- Both PSPs accept while the store of the circuit breaker is down. -/
def unreportable : Wire := accepting { recordSuccess := .error "ECONNREFUSED" }

/-- The requests of the checkout: where each went, and whether its adapter returned. -/
def requests (env : CheckoutEnv) : List (PSPProvider × Bool) :=
  (executeWithSmartRouting env (routingContext input chargeParams)).1.map fun invocation =>
    (invocation.provider, invocation.outcome.toBool)

lemma fits_input : ChargeLedgerParamsResolver.Fits (booking "event-1").charge input.merchantId
    input.amount [] where
  recipients := fun _ h => (nomatch h)
  currencies := fun _ h => (nomatch h)
  within := by decide +kernel

lemma reaches_wired (wire : Wire) (recorded : Except AppError Unit) (db : Db) :
    Reaches (wired wire recorded) input db chargeParams none decision decision where
  resolved := ChargeLedgerParamsResolver.resolve_eq_ok.2 ⟨fits_input, rfl⟩
  assessed := ⟨none, _, _, rfl, rfl⟩
  first := by
    change selectAdapter context healthMap = _
    unfold selectAdapter
    rw [selectProvider_healthMap]
    rfl
  second := by
    change selectAdapter context healthMap = _
    unfold selectAdapter
    rw [selectProvider_healthMap]
    rfl

end Sample

open Sample PaymentCheckoutSaga in
/-- Stripe accepts, and nothing fails on the way to the commit. -/
theorem accepted_charge_honoured_reported :
    requests (wired (accepting {}) (.ok ())) = [(.STRIPE, true)] ∧
      Honoured input (executeWithSmartRouting (wired (accepting {}) (.ok ()))
        (routingContext input chargeParams)).1 0 .STRIPE
        ((execute (wired (accepting {}) (.ok ())) input).run Db.empty).1 := by
  have hreaches := reaches_wired (accepting {}) (.ok ()) Db.empty
  have hattempt : (executeWithSmartRouting (wired (accepting {}) (.ok ()))
      (routingContext input chargeParams)).1[0]? =
      some ⟨.STRIPE, .ok { status := .SUCCEEDED, transactionId := "tx-1" }⟩ := by
    rw [executeWithSmartRouting_of_selected hreaches.second]
    rfl
  refine ⟨by decide +kernel, ?_⟩
  exact (accepted_charge_honoured_iff (wired (accepting {}) (.ok ())) input Db.empty _ _ fresh_empty
    rfl (untagged_ok ()) rfl hreaches hattempt (.stripe rfl rfl rfl)).2
    ⟨⟨rfl, rfl⟩, rfl, rfl, by simp [Wire.AuthorisesOnly]⟩

open Sample PaymentCheckoutSaga in
/-- Stripe accepts the charge.  If the circuit breaker's store is down when the success is to be
reported, Adyen is charged as well; if the routing cannot be recorded, nothing else is tried.  In
both cases the payment is marked as failed. -/
theorem accepted_charge_dishonoured :
    ((∃ details, unreportable.Accepts chargeRequest .STRIPE details) ∧
      requests (wired unreportable (.ok ())) = [(.STRIPE, false), (.ADYEN, false)] ∧
      ((execute (wired unreportable (.ok ())) input).run Db.empty).1.status input.paymentId =
        some .FAILED ∧
      ¬ Honoured input (executeWithSmartRouting (wired unreportable (.ok ()))
        (routingContext input chargeParams)).1 0 .STRIPE
        ((execute (wired unreportable (.ok ())) input).run Db.empty).1) ∧
    (∃ details, (accepting {}).Accepts chargeRequest .STRIPE details) ∧
      requests (wired (accepting {}) (.error (.plain "ECONNREFUSED"))) = [(.STRIPE, true)] ∧
      ((execute (wired (accepting {}) (.error (.plain "ECONNREFUSED"))) input).run
        Db.empty).1.status input.paymentId = some .FAILED ∧
      ¬ Honoured input (executeWithSmartRouting
        (wired (accepting {}) (.error (.plain "ECONNREFUSED")))
        (routingContext input chargeParams)).1 0 .STRIPE
        ((execute (wired (accepting {}) (.error (.plain "ECONNREFUSED"))) input).run
          Db.empty).1 := by
  have hbreaker : ((execute (wired unreportable (.ok ())) input).run Db.empty).1.status
      input.paymentId = some .FAILED := by decide +kernel
  have hrecords : ((execute (wired (accepting {}) (.error (.plain "ECONNREFUSED"))) input).run
      Db.empty).1.status input.paymentId = some .FAILED := by decide +kernel
  exact ⟨⟨⟨_, .stripe rfl rfl rfl⟩, by decide +kernel, hbreaker,
      not_honoured_of_status hbreaker (by decide)⟩,
    ⟨_, .stripe rfl rfl rfl⟩, by decide +kernel, hrecords,
      not_honoured_of_status hrecords (by decide)⟩

end OmniSwitch
