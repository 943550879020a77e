import OmniSwitch.Store

/-!
# Refund, capture and cancel

`payment-lifecycle.service.ts`.  Refund and capture save the payment with a compare-and-set on
the status and records they read; cancel saves it unconditionally.
-/

namespace OmniSwitch

open Lib

/-- Source: `PaymentProcessorFactory.getAdapter` -/
def getAdapter (provider : PSPProvider) : Except AppError PSPProvider :=
  match provider with
  | .STRIPE => .ok .STRIPE
  | .ADYEN => .ok .ADYEN
  | provider => .error (.plain s!"No PSP adapter registered for provider: {provider}")

lemma getAdapter_ok {provider adapter : PSPProvider} (h : getAdapter provider = .ok adapter) :
    adapter = provider := by
  unfold getAdapter at h
  split at h
  · exact (Except.ok.inj h).symm
  · exact (Except.ok.inj h).symm
  · exact (nomatch h)

namespace PaymentLifecycle

/-- Source: `psp-adapter.port.ts` `PSPRefundResponse` -/
inductive PspRefundStatus where
  | SUCCEEDED | PENDING | FAILED
  deriving DecidableEq, Repr

/-- Source: `psp-adapter.port.ts` `PSPRefundResponse` -/
structure PspRefundResponse where
  success : Bool
  pspRefundId : String
  status : PspRefundStatus
  errorCode : Option String := none
  errorMessage : Option String := none

/-- Source: `psp-adapter.port.ts` `PSPCaptureResponse` -/
structure PspCaptureResponse where
  success : Bool
  rawResponse : String := ""
  errorCode : Option String := none
  errorMessage : Option String := none

/-- Source: `psp-adapter.port.ts` `PSPCancelResponse` -/
structure PspCancelResponse where
  success : Bool
  errorCode : Option String := none
  errorMessage : Option String := none

/-- What a refund call meets outside: the ids it draws, the clock and the PSP's answer. -/
structure RefundEnv where
  refundId : String
  eventId : String
  now : Date
  answer : Except AppError PspRefundResponse
  convertTo : Money.ConvertTo := Money.convertTo

/-- What a capture call meets outside. -/
structure CaptureEnv where
  captureId : String
  eventId : String
  holdId : String
  now : Date
  answer : Except AppError PspCaptureResponse
  charge : ChargeEnv

/-- What a cancel call meets outside. -/
structure CancelEnv where
  now : Date
  answer : Except AppError PspCancelResponse

/-- Source: `PaymentLifecycleService.getOwnedPayment` -/
def getOwnedPayment (paymentId : String) : App PaymentAggregate := do
  match ← findByIdOnMaster paymentId with
  | some payment => return payment
  | none => throw (.http 404 "Payment not found" "PAYMENT_NOT_FOUND")

/-- `params.amount ? Money.of(params.amount, …) : remaining`: zero counts as absent. -/
def requestedAmount (amount : Option Rat) (currencyCode : String)
    (remaining : Except AppError Money) : Except AppError Money :=
  match amount.filter (· ≠ 0) with
  | some amount => Money.of amount currencyCode
  | none => remaining

/-! ### Refund -/

/-- What the caller of a refund asks for. -/
structure RefundParams where
  amount : Option Rat := none
  reason : Option String := none
  idempotencyKey : String

/-- The checks made before the PSP is called: where the money is, and how much goes back.

Source: `PaymentLifecycleService.refund` -/
def checkRefund (payment : PaymentAggregate) (params : RefundParams) :
    Except AppError (PSPProvider × String × Money) :=
  match payment.pspProvider.toOption, truthy payment.pspTransactionId.toOption with
  | some provider, some txId =>
    if payment.status ≠ .SUCCEEDED ∧ payment.status ≠ .PARTIALLY_REFUNDED then
      .error (.http 409 s!"Payment is in status {payment.status}, which is not refundable"
        "NOT_REFUNDABLE")
    else do
      let refundAmount ← requestedAmount params.amount payment.amount.currency.code
        payment.remainingRefundable
      let totalAfterRefund ← (← payment.totalRefunded).add refundAmount
      if ← totalAfterRefund.isGreaterThan payment.amount then
        let remaining ← payment.remainingRefundable
        .error (.http 409
          s!"Refund amount exceeds remaining refundable balance ({remaining.toString})"
          "REFUND_EXCEEDS_BALANCE")
      else
        let adapter ← getAdapter provider
        .ok (adapter, txId, refundAmount)
  | _, _ => .error (.http 409 "Payment was never charged at a PSP, nothing to refund"
      "NOT_REFUNDABLE")

/-- Source: `PaymentLifecycleService.refund` -/
def checkRefundAnswer (answer : PspRefundResponse) : Except AppError Unit :=
  if !answer.success && answer.status != .PENDING then
    .error (.http 422 (answer.errorMessage.getD "PSP declined the refund")
      (answer.errorCode.getD "REFUND_DECLINED"))
  else .ok ()

/-- Source: `PaymentLifecycleService.refund` -/
def refund (env : RefundEnv) (payment : PaymentAggregate) (params : RefundParams) :
    App PaymentAggregate := do
  let (provider, txId, refundAmount) ← checkRefund payment params
  callPsp provider (.refund txId env.refundId refundAmount params.idempotencyKey)
  let pspResult ← env.answer
  checkRefundAnswer pspResult
  let refunded ← payment.refund env.refundId refundAmount
    (params.reason.getD "requested_by_customer") (some pspResult.pspRefundId) env.now
  let event ← LedgerOutboxEvent.createRefundEntries env.convertTo env.eventId refunded.id
    refunded.merchantId refundAmount refunded.settlementConversion refunded.splits
    (refunded.splits.map fun _ => refunded.amount) env.now
  saveIfUnchanged payment.toPersistence refunded event none env.now
  return refunded

/-! ### Capture -/

/-- What the caller of a capture asks for. -/
structure CaptureParams where
  amount : Option Rat := none
  idempotencyKey : String

/-- The checks made before the PSP is called.

Source: `PaymentLifecycleService.capture` -/
def checkCapture (payment : PaymentAggregate) (params : CaptureParams) :
    Except AppError (PSPProvider × String × Money) :=
  if payment.status ≠ .REQUIRES_CAPTURE ∧ payment.status ≠ .PARTIALLY_CAPTURED then
    .error (.http 409 (s!"Payment is in status {payment.status}, expected REQUIRES_CAPTURE or " ++
      "PARTIALLY_CAPTURED") "NOT_CAPTURABLE")
  else match payment.pspProvider.toOption, truthy payment.pspTransactionId.toOption with
    | some provider, some txId => do
        let captureAmount ← requestedAmount params.amount payment.amount.currency.code
          payment.remainingCapturable
        let remaining ← payment.remainingCapturable
        if ← captureAmount.isGreaterThan remaining then
          .error (.http 409 (s!"Capture amount {captureAmount.toString} exceeds remaining " ++
            s!"capturable amount {remaining.toString}") "CAPTURE_EXCEEDS_AUTHORIZATION")
        else
          let adapter ← getAdapter provider
          .ok (adapter, txId, captureAmount)
    | _, _ => .error (.http 409 "Payment has no PSP authorization to capture" "NOT_CAPTURABLE")

/-- Source: `PaymentLifecycleService.capture` -/
def checkCaptureAnswer (answer : PspCaptureResponse) : Except AppError Unit :=
  if !answer.success then
    .error (.http 422 (answer.errorMessage.getD "PSP declined the capture")
      (answer.errorCode.getD "CAPTURE_DECLINED"))
  else .ok ()

/-- The interchange category of an authorisation that this capture completed.

Source: `PaymentLifecycleService.capture` -/
def recordInterchange (payment : PaymentAggregate) (isFullyCaptured : Bool) (now : Date) :
    PaymentAggregate :=
  match isFullyCaptured, payment.binInfo with
  | true, some bin =>
    payment.recordInterchangeQualification
      (evaluateInterchangeQualification bin.cardBrand bin.cardProduct payment.avsResult.toOption
        payment.cvvResult.toOption (((now : Rat) - payment.createdAt) / (60 * 60 * 1000)))
  | _, _ => payment

/-- Source: `PaymentLifecycleService.capture` -/
def capture (env : CaptureEnv) (payment : PaymentAggregate) (params : CaptureParams) :
    App PaymentAggregate := do
  let (provider, txId, captureAmount) ← checkCapture payment params
  callPsp provider (.capture txId captureAmount params.idempotencyKey)
  let pspResult ← env.answer
  checkCaptureAnswer pspResult
  let (captured, isFullyCaptured) ← payment.recordCapture env.captureId captureAmount txId
    (some pspResult.rawResponse) env.now
  let captured := recordInterchange captured isFullyCaptured env.now
  let ledgerParams ← ChargeLedgerParamsResolver.resolve env.charge captured.merchantId
    captureAmount []
  let captured := captured.recordConversion captureAmount ledgerParams env.now
  let event ← LedgerOutboxEvent.createChargeEntries env.eventId captured.id captured.merchantId
    captureAmount ledgerParams.platformFee ledgerParams.settlementConversion
    (ledgerParams.reserveHold.map (·.amount)) none env.now
  saveIfUnchanged payment.toPersistence captured event
    (ledgerParams.reserveHold.map fun reserve =>
      ReserveHold.create env.holdId captured.id captured.merchantId reserve env.now) env.now
  return captured

/-! ### Cancel -/

/-- Source: `PaymentLifecycleService.cancel` -/
def checkCancelAnswer (answer : PspCancelResponse) : Except AppError Unit :=
  if !answer.success then
    .error (.http 422 (answer.errorMessage.getD "PSP declined the cancellation")
      (answer.errorCode.getD "CANCEL_DECLINED"))
  else .ok ()

/-- The cancellation at the PSP of a payment that was authorised there.

Source: `PaymentLifecycleService.cancel` -/
def cancelAtPsp (env : CancelEnv) (payment : PaymentAggregate) (idempotencyKey : String) :
    App Unit :=
  match payment.pspProvider.toOption, truthy payment.pspTransactionId.toOption with
  | some provider, some txId => do
      let adapter ← getAdapter provider
      callPsp adapter (.cancel txId idempotencyKey)
      let pspResult ← env.answer
      checkCancelAnswer pspResult
  | _, _ => return ()

/-- Source: `PaymentLifecycleService.cancel` -/
def cancel (env : CancelEnv) (payment : PaymentAggregate) (idempotencyKey : String) :
    App PaymentAggregate := do
  if payment.status = .CANCELLED then
    return payment
  else if !payment.status.isValidTransition .CANCELLED then
    throw (.http 409 s!"Payment in status {payment.status} cannot be cancelled" "NOT_CANCELLABLE")
  else
    cancelAtPsp env payment idempotencyKey
    let cancelled ← payment.cancel
    updatePayment cancelled env.now
    return cancelled

/-! ### The calls as the controller makes them

The controller loads the payment, refuses a caller who does not own it, and acts on it.  A refused
caller issues no further command. -/

/-- Source: `PaymentController.refundPayment` -/
def refundCall (env : RefundEnv) (paymentId : String) (params : RefundParams) : App Unit := do
  let payment ← getOwnedPayment paymentId
  let _ ← refund env payment params

/-- Source: `PaymentController.capturePayment` -/
def captureCall (env : CaptureEnv) (paymentId : String) (params : CaptureParams) : App Unit := do
  let payment ← getOwnedPayment paymentId
  let _ ← capture env payment params

/-- Source: `PaymentController.cancelPayment` -/
def cancelCall (env : CancelEnv) (paymentId idempotencyKey : String) : App Unit := do
  let payment ← getOwnedPayment paymentId
  let _ ← cancel env payment idempotencyKey

end PaymentLifecycle

end OmniSwitch
