import OmniSwitch.Services.Checkout

/-!
# The PSP adapters

`stripe-psp.adapter.ts` and `adyen-psp.adapter.ts`: what the two adapters make of an HTTP exchange
with their PSP.  Every method asks the circuit breaker first, then makes one request, reports its
success or failure to the breaker, and maps the body it got.  What the request comes to and
whether the breaker's own calls succeed are arguments.  Of a body only what a modelled method reads
is kept; the risk signal, card checks and token data are fields here, the source digs them out of
nested objects.

Main results:

* `PspAdapter.call_eq_ok`: when a method returns, and what;
* `PspAdapter.call_answered_error`: an error after the PSP has answered carries no mark.
-/

namespace OmniSwitch

open Lib

/-! ### Requests -/

/-- What a request to a PSP comes to.  A body that arrived may fail to be read as JSON.

Source: `StripePSPAdapter.makeRequestInner` -/
inductive Exchange (R : Type) where
  /-- `fetch` threw: a timeout, or the connection failed. -/
  | noResponse (reason : String)
  /-- A response with a 2xx status. -/
  | answered (body : R) (json : Except String Unit)
  /-- A response with any other status. -/
  | rejected (statusCode : Nat) (message : Option String) (json : Except String Unit)

/-- What the calls of the circuit breaker come to; the messages are those of what they throw.

Source: `RedisCircuitBreakerService` -/
structure Breaker where
  assertAvailable : Except String Unit := .ok ()
  recordSuccess : Except String Unit := .ok ()
  recordFailure : Except String Unit := .ok ()

namespace PspAdapter

/-- An exception without the properties the routing code looks at. -/
def untagged {α : Type} : Except String α → Except AppError α
  | .ok a => .ok a
  | .error message => .error (.plain message)

variable {R α : Type}

/-- The two adapters differ in the texts of their errors, by the name of the PSP.

Source: `StripePSPAdapter.makeRequestInner`; `AdyenPSPAdapter.makeRequestInner` -/
def makeRequest (name : String) : Exchange R → Except AppError R
  | .noResponse reason =>
    .error (.psp s!"{name} request failed with no response: {reason}" true none)
  | .answered body json => do
      untagged json
      .ok body
  | .rejected statusCode message json => do
      untagged json
      .error (.psp ((truthy message).getD s!"{name} API error") false (some statusCode))

/-- The `try` block of a method; not every method reports its success. -/
def attempt (name : String) (breaker : Breaker) (recordsSuccess : Bool) (exchange : Exchange R)
    (respond : R → α) : Except AppError α := do
  let body ← makeRequest name exchange
  if recordsSuccess then untagged breaker.recordSuccess
  .ok (respond body)

/-- The body of a method.  If the report of a failure fails, its error replaces the first.

Source: `StripePSPAdapter.charge` -/
def call (name : String) (breaker : Breaker) (recordsSuccess : Bool) (exchange : Exchange R)
    (respond : R → α) : Except AppError α := do
  untagged breaker.assertAvailable
  match attempt name breaker recordsSuccess exchange respond with
  | .ok response => .ok response
  | .error e => do
      untagged breaker.recordFailure
      .error e

@[simp] lemma untagged_eq_ok {x : Except String α} {a : α} : untagged x = .ok a ↔ x = .ok a := by
  cases x <;> simp [untagged]

variable {breaker : Breaker}
variable {name : String} {recordsSuccess : Bool} {exchange : Exchange R} {respond : R → α}

/-- The `try` block gets through exactly with a body that can be read and a success that is
reported. -/
lemma attempt_eq_ok {a : α} :
    attempt name breaker recordsSuccess exchange respond = .ok a ↔
      ∃ body, exchange = .answered body (.ok ()) ∧
        (recordsSuccess → breaker.recordSuccess = .ok ()) ∧ a = respond body := by
  cases exchange with
  | noResponse reason | rejected statusCode message json => simp [attempt, makeRequest]
  | answered body json =>
    cases json with
    | error message => simp [attempt, makeRequest, untagged, bind, Except.bind]
    | ok _ =>
      cases recordsSuccess with
      | false => simp [attempt, makeRequest, untagged, bind, Except.bind, eq_comm]
      | true =>
        cases hrecord : breaker.recordSuccess <;>
          simp [attempt, makeRequest, untagged, bind, Except.bind, hrecord, eq_comm]

/-- A method returns what the body of a 2xx answer is mapped to, if the breaker lets it through and
its success could be reported. -/
lemma call_eq_ok {a : α} :
    call name breaker recordsSuccess exchange respond = .ok a ↔
      breaker.assertAvailable = .ok () ∧ ∃ body, exchange = .answered body (.ok ()) ∧
        (recordsSuccess → breaker.recordSuccess = .ok ()) ∧ a = respond body := by
  rw [← attempt_eq_ok, call, bind_eq_ok]
  simp only [untagged_eq_ok, Unique.exists_iff, PUnit.default_eq_unit]
  refine and_congr_right fun _ => ?_
  cases attempt name breaker recordsSuccess exchange respond with
  | ok response => exact Iff.rfl
  | error e => simp

/-- **Once the PSP has answered, an error says nothing about it**: it carries neither the mark of
an ambiguous outcome nor a status. -/
theorem call_answered_error {body : R} {json : Except String Unit} {e : AppError}
    (h : call name breaker recordsSuccess (.answered body json) respond = .error e) :
    ∃ message, e = .plain message := by
  unfold call at h
  cases hassert : breaker.assertAvailable with
  | error message =>
    rw [hassert] at h
    exact ⟨message, (Except.error.inj h).symm⟩
  | ok _ =>
    rw [hassert] at h
    have hattempt : ∀ e, attempt name breaker recordsSuccess (.answered body json) respond =
        .error e → ∃ message, e = .plain message := by
      intro e he
      unfold attempt makeRequest at he
      cases json with
      | error message => exact ⟨message, (Except.error.inj he).symm⟩
      | ok _ =>
        cases recordsSuccess with
        | false => exact (nomatch he)
        | true =>
          cases hrecord : breaker.recordSuccess with
          | ok _ =>
            rw [hrecord] at he
            exact (nomatch he)
          | error message =>
            rw [hrecord] at he
            exact ⟨message, (Except.error.inj he).symm⟩
    cases hresult : attempt name breaker recordsSuccess (.answered body json) respond with
    | ok response =>
      rw [hresult] at h
      exact (nomatch h)
    | error e' =>
      rw [hresult] at h
      cases hrecord : breaker.recordFailure with
      | ok _ =>
        rw [hrecord] at h
        obtain rfl := Except.error.inj h
        exact hattempt e' hresult
      | error message =>
        rw [hrecord] at h
        exact ⟨message, (Except.error.inj h).symm⟩

/-- A 2xx answer is mapped, or an error without any mark is thrown. -/
lemma call_answered (hsent : breaker.assertAvailable = .ok ()) (name : String) (body : R)
    (json : Except String Unit) (respond : R → α) :
    ((json = .ok () ∧ breaker.recordSuccess = .ok ()) ∧
        call name breaker true (.answered body json) respond = .ok (respond body)) ∨
      ¬ (json = .ok () ∧ breaker.recordSuccess = .ok ()) ∧
        ∃ message, call name breaker true (.answered body json) respond =
          .error (.plain message) := by
  cases hcall : call name breaker true (.answered body json) respond with
  | ok response =>
    obtain ⟨-, body', hbody, hreport, rfl⟩ := call_eq_ok.1 hcall
    obtain ⟨rfl, rfl⟩ := Exchange.answered.inj hbody
    exact .inl ⟨⟨rfl, hreport rfl⟩, rfl⟩
  | error e =>
    obtain ⟨message, rfl⟩ := call_answered_error hcall
    refine .inr ⟨?_, message, rfl⟩
    rintro ⟨rfl, hreport⟩
    have hok : call name breaker true (.answered body (.ok ())) respond = .ok (respond body) :=
      call_eq_ok.2 ⟨hsent, body, rfl, fun _ => hreport, rfl⟩
    exact (nomatch hcall.symm.trans hok)

end PspAdapter

/-- When the money of an authorisation is taken.

Source: `psp-adapter.port.ts` `PSPChargeRequest.captureMethod` -/
inductive CaptureMethod where
  | automatic | manual
  deriving DecidableEq, Repr

/-- The parts of a charge request that the mapping of its answer reads.

Source: `psp-adapter.port.ts` `PSPChargeRequest` -/
structure PspChargeRequest where
  paymentId : String
  captureMethod : CaptureMethod := .automatic
  scaExemptionRequested : Option ScaExemptionType := none

/-! ### Stripe -/

/-- Source: `StripePSPAdapter.charge` (`response.status`) -/
inductive StripeIntentStatus where
  | requires_payment_method | requires_confirmation | requires_action | processing
  | requires_capture | canceled | succeeded
  deriving DecidableEq, Repr

/-- A payment intent, as Stripe returns it.

Source: `StripePSPAdapter.charge` -/
structure StripePaymentIntent where
  id : String
  status : StripeIntentStatus
  redirectUrl : Option String := none
  /-- `last_payment_error`. -/
  errorCode : Option String := none
  errorMessage : Option String := none
  /-- What `extractRiskSignal` and its siblings find; Stripe reports no exemption. -/
  details : AuthorizationDetails := {}

/-- Source: `StripePSPAdapter.refund` (`response.status`) -/
inductive StripeRefundStatus where
  | succeeded | pending | requires_action | failed | canceled
  deriving DecidableEq, Repr

/-- Source: `StripePSPAdapter.refund` -/
structure StripeRefund where
  id : String
  status : StripeRefundStatus

namespace StripeAdapter

open PspAdapter PaymentCheckoutSaga PaymentLifecycle AmbiguousPayment

/-- The details of an authorisation: an exemption counts only as a charge without the customer.

Source: `StripePSPAdapter.charge` -/
def authorization (request : PspChargeRequest) (intent : StripePaymentIntent) :
    AuthorizationDetails :=
  { intent.details with
    scaExemptionIndicator :=
      if request.scaExemptionRequested = some .MIT then some .MIT else none }

/-- Source: `StripePSPAdapter.charge` -/
def chargeResponse (request : PspChargeRequest) (intent : StripePaymentIntent) :
    PspChargeResponse :=
  match intent.status with
  | .requires_action =>
    { status := .REQUIRES_ACTION, transactionId := intent.id, actionUrl := intent.redirectUrl }
  | .requires_capture =>
    { status := .REQUIRES_CAPTURE, transactionId := intent.id
      details := authorization request intent }
  | .succeeded =>
    { status := .SUCCEEDED, transactionId := intent.id
      details := authorization request intent }
  | _ =>
    { status := .FAILED, transactionId := intent.id, details := intent.details
      errorCode := intent.errorCode, errorMessage := intent.errorMessage }

/-- Source: `StripePSPAdapter.charge` -/
def charge (request : PspChargeRequest) (breaker : Breaker)
    (exchange : Exchange StripePaymentIntent) : Except AppError PspChargeResponse :=
  call "Stripe" breaker true exchange (chargeResponse request)

/-- Every status but `succeeded` is reported as pending.

Source: `StripePSPAdapter.refund` -/
def refundResponse (refund : StripeRefund) : PspRefundResponse where
  success := refund.status = .succeeded
  pspRefundId := refund.id
  status := if refund.status = .succeeded then .SUCCEEDED else .PENDING

/-- Source: `StripePSPAdapter.refund` -/
def refund (breaker : Breaker) (exchange : Exchange StripeRefund) :
    Except AppError PspRefundResponse :=
  call "Stripe" breaker true exchange refundResponse

/-- What a lookup found; every status but `succeeded` is a failure.

Source: `StripePSPAdapter.queryOutcome` -/
def outcomeResponse : Option StripePaymentIntent → PspQueryOutcomeResult
  | none => { outcome := .STILL_UNKNOWN }
  | some intent =>
    if intent.status = .succeeded then
      { outcome := .SUCCEEDED, pspTransactionId := some intent.id }
    else
      { outcome := .FAILED, pspTransactionId := some intent.id, errorCode := intent.errorCode }

/-- Source: `StripePSPAdapter.queryOutcome` -/
def queryOutcome (breaker : Breaker) (exchange : Exchange (Option StripePaymentIntent)) :
    Except AppError PspQueryOutcomeResult :=
  call "Stripe" breaker true exchange outcomeResponse

end StripeAdapter

/-! ### Adyen -/

/-- Source: `AdyenPSPAdapter.charge` (`response.resultCode`) -/
inductive AdyenResultCode where
  | Authorised | Refused | Error | Cancelled | Received | Pending | RedirectShopper
  | IdentifyShopper | ChallengeShopper | PresentToShopper
  deriving DecidableEq, Repr

/-- A payment, as Adyen returns it.

Source: `AdyenPSPAdapter.charge` -/
structure AdyenPayment where
  pspReference : String
  resultCode : AdyenResultCode
  actionUrl : Option String := none
  refusalReasonCode : Option String := none
  refusalReason : Option String := none
  /-- What `extractRiskSignal` and its siblings find, the exemption the issuer granted included. -/
  details : AuthorizationDetails := {}

namespace AdyenAdapter

open PspAdapter PaymentCheckoutSaga PaymentLifecycle AmbiguousPayment

/-- The details of an authorisation; a charge without the customer is echoed.

Source: `AdyenPSPAdapter.extractScaExemptionIndicator` -/
def authorization (request : PspChargeRequest) (payment : AdyenPayment) : AuthorizationDetails :=
  { payment.details with
    scaExemptionIndicator :=
      if request.scaExemptionRequested = some .MIT then some .MIT
      else payment.details.scaExemptionIndicator }

/-- Source: `AdyenPSPAdapter.charge` -/
def chargeResponse (request : PspChargeRequest) (payment : AdyenPayment) : PspChargeResponse :=
  match payment.resultCode with
  | .Authorised =>
    { status := if request.captureMethod = .manual then .REQUIRES_CAPTURE else .SUCCEEDED
      transactionId := payment.pspReference, details := authorization request payment }
  | .RedirectShopper | .IdentifyShopper =>
    { status := .REQUIRES_ACTION
      transactionId := (truthy (some payment.pspReference)).getD request.paymentId
      actionUrl := payment.actionUrl }
  | _ =>
    { status := .FAILED
      transactionId := (truthy (some payment.pspReference)).getD request.paymentId
      details := payment.details
      errorCode := payment.refusalReasonCode, errorMessage := payment.refusalReason }

/-- Source: `AdyenPSPAdapter.charge` -/
def charge (request : PspChargeRequest) (breaker : Breaker) (exchange : Exchange AdyenPayment) :
    Except AppError PspChargeResponse :=
  call "Adyen" breaker true exchange (chargeResponse request)

/-- A refund is only acknowledged; what becomes of it is notified later.  The body is the
reference of the acknowledgement. -/
def refund (breaker : Breaker) (exchange : Exchange String) : Except AppError PspRefundResponse :=
  call "Adyen" breaker false exchange fun pspReference =>
    { success := true, pspRefundId := pspReference, status := .PENDING }

/-- What a lookup found; every result but `Authorised` is a failure.

Source: `AdyenPSPAdapter.queryOutcome` -/
def outcomeResponse : Option AdyenPayment → PspQueryOutcomeResult
  | none => { outcome := .STILL_UNKNOWN }
  | some payment =>
    if payment.resultCode = .Authorised then
      { outcome := .SUCCEEDED, pspTransactionId := some payment.pspReference }
    else
      { outcome := .FAILED, pspTransactionId := some payment.pspReference
        errorCode := payment.refusalReasonCode }

/-- Source: `AdyenPSPAdapter.queryOutcome` -/
def queryOutcome (breaker : Breaker) (exchange : Exchange (Option AdyenPayment)) :
    Except AppError PspQueryOutcomeResult :=
  call "Adyen" breaker true exchange outcomeResponse

end AdyenAdapter

end OmniSwitch
