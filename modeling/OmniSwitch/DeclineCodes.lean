import OmniSwitch.Routing.Accepted
import OmniSwitch.Subscription

/-!
# The code of a decline

`payment-checkout.saga.ts` `execute` and `compensate_markFailed`.  A decline that arrives in the
body of an answer is put on record with its code and the PSP it came from.  One that arrives as an
error has its code on the exception, which the fallback loop replaces by its own; the saga then
records `PSP_ALL_FAILED`, and the sweep of the subscriptions, which catches the error, no code at
all.  The same becomes of a decline in a body whose success cannot be reported to the circuit
breaker.

Main results:

* `decline_code_survives`: which declines keep their code, by what came over the wire.
* `decline_code_lost`: two that do not, and what is on record instead.
-/

namespace OmniSwitch

open Lib

namespace PaymentCheckoutSaga

/-- The payment is left failed, with the code and the PSP of the decline on record, and the caller
is told both. -/
def KeepsDecline (outcome : Db × Except AppError CheckoutSagaResult) (id code : String)
    (provider : PSPProvider) : Prop :=
  ∃ row result, outcome.1.payments.get id = some row ∧ outcome.2 = .ok result ∧
    (row.status, row.failureCode, row.pspProvider) = (.FAILED, some code, some provider) ∧
    (result.errorCode, result.pspProvider) = (some code, some provider)

section conclusion

variable {env : CheckoutEnv} {input : CheckoutSagaInput} {params : ChargeLedgerParams}
  {requested : Option ScaExemptionType} {p : PaymentAggregate} {c : Option Cmd}
  {r : Except AppError CheckoutSagaResult} {code : String} {provider : PSPProvider}

/-- A decline that the routing hands on is put on record with its code. -/
lemma Conclusion.keepsDecline {route : RouteResult PspChargeResponse}
    (h : Conclusion env input params requested p (.ok route) c r) (hid : p.id = input.paymentId)
    (hdeclined : route.result.status = .FAILED) (hcode : route.result.errorCode = some code)
    (db : Db) : KeepsDecline ((conclude c r).run db) input.paymentId code route.provider := by
  cases h with
  | unrecorded accepted => exact absurd hdeclined accepted
  | booked answer => exact (nomatch hdeclined.symm.trans answer)
  | authorised answer => rcases answer with h | h <;> exact (nomatch hdeclined.symm.trans h)
  | declined _ turned _ errorCode pspProvider recorded =>
    rw [hcode] at errorCode recorded
    rw [← hid, ← turned.same.id]
    refine ⟨_, _, Db.get_savePayment_self _ _ env.booking.now, rfl, ?_, ?_⟩
    · generalize (Db.payments _).get _ = stored
      cases stored <;> simp [PaymentRow.insert, PaymentRow.assign, Nullable.store,
        PaymentAggregate.toPersistence, turned.status, recorded.1, recorded.2, Nullable.ofOption]
    · rw [errorCode, pspProvider]

/-- After an error of the routing no code is handed on. -/
lemma Conclusion.not_keepsDecline {e : AppError}
    (h : Conclusion env input params requested p (.error e) c r) (hid : p.id = input.paymentId)
    (db : Db) : ¬ KeepsDecline ((conclude c r).run db) input.paymentId code provider := by
  rintro ⟨row, result, hrow, hresult, hcolumns, -⟩
  cases h with
  | @ambiguous _ q _ _ turned =>
    have hsaved := db.status_savePayment q env.booking.now
    rw [turned.same.id.trans hid, turned.status] at hsaved
    have hstatus : row.status = .AMBIGUOUS :=
      Option.some.inj ((congrArg (Option.map PaymentRow.status) hrow).symm.trans hsaved)
    rw [hstatus] at hcolumns
    nomatch hcolumns
  | failed => nomatch hresult

end conclusion

end PaymentCheckoutSaga

/-! ### Over the wire -/

/-- The PSP declined the charge with a code: in the body of an answer with a 2xx status, or as an
error with a 4xx status.  The code of an error is on the exception, where nothing reads it, so it
is any here.

Source: `StripePSPAdapter.makeRequestInner`; `AdyenPSPAdapter.makeRequestInner` -/
inductive Wire.Declines (request : PspChargeRequest) (wire : Wire) (code : String) :
    PSPProvider → Bool → Prop
  | stripe {intent : StripePaymentIntent} {json : Except String Unit}
      (sent : wire.breaker.assertAvailable = .ok ()) (answer : wire.stripe = .answered intent json)
      (status : (StripeAdapter.chargeResponse request intent).status = .FAILED)
      (errorCode : (StripeAdapter.chargeResponse request intent).errorCode = some code) :
      Declines request wire code .STRIPE true
  | adyen {payment : AdyenPayment} {json : Except String Unit}
      (sent : wire.breaker.assertAvailable = .ok ()) (answer : wire.adyen = .answered payment json)
      (status : (AdyenAdapter.chargeResponse request payment).status = .FAILED)
      (errorCode : (AdyenAdapter.chargeResponse request payment).errorCode = some code) :
      Declines request wire code .ADYEN true
  | stripeError {statusCode : Nat} {message : Option String} {json : Except String Unit}
      (answer : wire.stripe = .rejected statusCode message json)
      (client : 400 ≤ statusCode ∧ statusCode < 500) : Declines request wire code .STRIPE false
  | adyenError {statusCode : Nat} {message : Option String} {json : Except String Unit}
      (answer : wire.adyen = .rejected statusCode message json)
      (client : 400 ≤ statusCode ∧ statusCode < 500) : Declines request wire code .ADYEN false

/-- What an adapter makes of a decline: an answer with its code, or an error. -/
lemma Wire.Declines.charge {request : PspChargeRequest} {wire : Wire} {code : String}
    {provider : PSPProvider} {inBody : Bool} (h : wire.Declines request code provider inBody) :
    ((inBody ∧ wire.Reported provider) ∧ ∃ response,
        PspAdapter.charge request wire provider = .ok response ∧ response.status = .FAILED ∧
          response.errorCode = some code) ∨
      ¬ (inBody ∧ wire.Reported provider) ∧
        ∃ e, PspAdapter.charge request wire provider = .error e := by
  have hrejected : ∀ {R : Type} (name : String) (statusCode : Nat) (message : Option String)
      (json : Except String Unit) (respond : R → PaymentCheckoutSaga.PspChargeResponse),
      ∃ e, PspAdapter.call name wire.breaker true (.rejected statusCode message json) respond =
        .error e := by
    intro R name statusCode message json respond
    cases hcall : PspAdapter.call name wire.breaker true (.rejected statusCode message json)
        respond with
    | error e => exact ⟨e, rfl⟩
    | ok response =>
      obtain ⟨-, body, hbody, -⟩ := PspAdapter.call_eq_ok.1 hcall
      nomatch hbody
  cases h with
  | @stripe intent json sent answer status errorCode =>
    unfold Reported PspAdapter.charge StripeAdapter.charge
    rw [answer]
    rcases PspAdapter.call_answered sent "Stripe" intent json
      (StripeAdapter.chargeResponse request) with ⟨hreported, hcall⟩ | ⟨hnot, message, hcall⟩
    · exact .inl ⟨⟨rfl, hreported⟩, _, hcall, status, errorCode⟩
    · exact .inr ⟨fun h => hnot h.2, _, hcall⟩
  | @adyen payment json sent answer status errorCode =>
    unfold Reported PspAdapter.charge AdyenAdapter.charge
    rw [answer]
    rcases PspAdapter.call_answered sent "Adyen" payment json
      (AdyenAdapter.chargeResponse request) with ⟨hreported, hcall⟩ | ⟨hnot, message, hcall⟩
    · exact .inl ⟨⟨rfl, hreported⟩, _, hcall, status, errorCode⟩
    · exact .inr ⟨fun h => hnot h.2, _, hcall⟩
  | stripeError answer =>
    unfold PspAdapter.charge StripeAdapter.charge
    rw [answer]
    exact .inr ⟨fun h => Bool.false_ne_true h.1, hrejected _ _ _ _ _⟩
  | adyenError answer =>
    unfold PspAdapter.charge AdyenAdapter.charge
    rw [answer]
    exact .inr ⟨fun h => Bool.false_ne_true h.1, hrejected _ _ _ _ _⟩

namespace PaymentCheckoutSaga

/-- **Which declines keep their code**: the final answer is a decline with a code at some provider,
whatever was attempted before it and whatever the row of the payment held.  The code and the
provider are on record exactly if the decline is in a body that could be read, its receipt could be
reported to the circuit breaker, and the routing could be recorded. -/
theorem decline_code_survives (env : CheckoutEnv) (input : CheckoutSagaInput) (db : Db)
    (request : PspChargeRequest) (wires : Nat → Wire)
    (hcharge : env.charge = fun n provider => PspAdapter.charge request (wires n) provider)
    {params : ChargeLedgerParams} {requested : Option ScaExemptionType}
    {first second : RoutingDecision}
    (hreaches : Reaches env input db params requested first second) {n : Nat}
    {invocation : Invocation PspChargeResponse}
    (hlog : (executeWithSmartRouting env (routingContext input params)).1[n]? = some invocation)
    (hlast : (executeWithSmartRouting env (routingContext input params)).1.length = n + 1)
    {code : String} {inBody : Bool}
    (hdeclines : (wires n).Declines request code invocation.provider inBody) :
    KeepsDecline ((execute env input).run db) input.paymentId code invocation.provider ↔
      inBody ∧ (wires n).Reported invocation.provider ∧ env.recordRouting = .ok () := by
  obtain ⟨p, c, r, turned, -, hc, hrun⟩ := hreaches.concludes
  have hid : p.id = input.paymentId := turned.same.id
  rw [hrun, ← and_assoc]
  rcases hdeclines.charge with ⟨hreported, response, hresponse, hstatus, hcode⟩ | ⟨hnot, e, he⟩
  · obtain ⟨usedFallback, hroute⟩ := executeWithSmartRouting_of_logged hlog
      ((congrFun (congrFun hcharge n) _).trans hresponse)
    rw [hroute] at hc
    cases hrouting : env.recordRouting with
    | ok _ =>
      rw [hrouting] at hc
      exact iff_of_true (hc.keepsDecline hid hstatus hcode _) ⟨hreported, rfl⟩
    | error e =>
      rw [hrouting] at hc
      exact iff_of_false (hc.not_keepsDecline hid _) fun h => nomatch h.2
  · have hroute := executeWithSmartRouting_of_selected hreaches.second
    rw [hroute] at hlog hlast hc
    obtain ⟨e', he'⟩ := executeWithFallback_of_last hlog hlast
      ((executeWithFallback_logged hlog).1.trans ((congrFun (congrFun hcharge n) _).trans he))
    rw [he'] at hc
    exact iff_of_false (hc.not_keepsDecline hid _) fun h => hnot h.1

end PaymentCheckoutSaga

namespace Sample

open PaymentCheckoutSaga

/-- Stripe answers with this, and Adyen not at all. -/
def atStripeWire (exchange : Exchange StripePaymentIntent) : Wire :=
  { stripe := exchange, adyen := .noResponse "timeout" }

/-- A checkout at Stripe, whose answer is this. -/
def atStripe (exchange : Exchange StripePaymentIntent) : CheckoutEnv :=
  wired (atStripeWire exchange) (.ok ())

/-- The card is reported as stolen, in the body of an answer. -/
def stolen : Exchange StripePaymentIntent :=
  .answered { id := "tx-1", status := .requires_payment_method, errorCode := some "stolen_card" }
    (.ok ())

/-- What the columns of the payment say of the decline, after the checkout. -/
def recordedDecline (env : CheckoutEnv) :
    Option (PaymentStatus × Option String × Option PSPProvider) :=
  (((execute env input).run Db.empty).1.payments.get "payment-1").map fun row =>
    (row.status, row.failureCode, row.pspProvider)

end Sample

open Sample PaymentCheckoutSaga in
/-- The card is declined as stolen, in the body of an answer. -/
theorem decline_code_survives_stolen :
    KeepsDecline ((execute (atStripe stolen) input).run Db.empty) "payment-1" "stolen_card"
      .STRIPE := by
  have hfirst : (executeWithSmartRouting (atStripe stolen)
      (routingContext input chargeParams)).1[0]?.map Invocation.provider = some .STRIPE := by
    decide +kernel
  obtain ⟨invocation, hlog, hprovider⟩ := Option.map_eq_some_iff.1 hfirst
  have hdeclines : (atStripeWire stolen).Declines chargeRequest "stolen_card" invocation.provider
      true := by
    rw [hprovider]
    exact .stripe rfl rfl rfl rfl
  refine hprovider ▸ (decline_code_survives _ input Db.empty chargeRequest
    (fun _ => atStripeWire stolen) rfl (reaches_wired _ _ _) hlog (by decide +kernel)
    hdeclines).2 ⟨rfl, ⟨?_, rfl⟩, rfl⟩
  rw [hprovider]
  rfl

open Sample PaymentCheckoutSaga in
/-- The same decline as an error with status 402, which carries the code, and in a body when the
circuit breaker's store is down, where no other PSP is available: it is not on record, and what is
there is classified as worth a retry. -/
theorem decline_code_lost :
    (∀ wire ∈ [atStripeWire (.rejected 402 (some "Your card was declined.") (.ok ())),
        { atStripeWire stolen with breaker := { recordSuccess := .error "ECONNREFUSED" } }],
      recordedDecline { wired wire (.ok ()) with isAvailable := fun _ => false } =
        some (.FAILED, some "PSP_ALL_FAILED", some .STRIPE)) ∧
    classifyDeclineCode (some "PSP_ALL_FAILED") (some .STRIPE) = .RETRYABLE ∧
    classifyDeclineCode (some "stolen_card") (some .STRIPE) = .HARD_DECLINE := by
  refine ⟨?_, by decide, by decide⟩
  simp only [List.forall_mem_cons, List.not_mem_nil, false_implies, implies_true, and_true]
  decide +kernel

end OmniSwitch
