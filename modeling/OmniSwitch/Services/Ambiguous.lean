import OmniSwitch.Services.Lifecycle

/-!
# Booking a succeeded charge, and resolving ambiguous payments

`ambiguous-payment.service.ts`.  `bookCharge` is the tail that the checkout saga, the success
webhook and the resolution of an ambiguous payment have in common: record what the charge is
booked with, and save payment, ledger event and reserve hold in one transaction, whatever the
row holds by then.
-/

namespace OmniSwitch

open Lib

/-- What the booking of a charge meets outside. -/
structure BookingEnv where
  eventId : String
  holdId : String
  now : Date
  charge : ChargeEnv

/-- Source: `PaymentCheckoutSaga.execute`, `AmbiguousPaymentService.bookSucceeded` -/
def bookCharge (env : BookingEnv) (payment : PaymentAggregate) (params : ChargeLedgerParams) :
    App PaymentAggregate := do
  let booked := (payment.recordConversion payment.amount params env.now).finalizeSplits params
  let event ← LedgerOutboxEvent.createChargeEntries env.eventId booked.id booked.merchantId
    booked.amount params.platformFee params.settlementConversion
    (params.reserveHold.map (·.amount)) params.splits env.now
  saveInTransaction booked event
    (params.reserveHold.map fun reserve =>
      ReserveHold.create env.holdId booked.id booked.merchantId reserve env.now) env.now
  return booked

/-- The splits recorded on a payment, as they are asked for again when it is booked. -/
def PaymentAggregate.requestedSplits (p : PaymentAggregate) : List RequestedSplit :=
  (p.splits.getD []).map fun split => ⟨split.merchantId, split.amount⟩

/-- Source: `AmbiguousPaymentService.bookSucceeded` -/
def bookSucceeded (env : BookingEnv) (payment : PaymentAggregate) : App PaymentAggregate := do
  let params ← ChargeLedgerParamsResolver.resolve env.charge payment.merchantId payment.amount
    payment.requestedSplits
  bookCharge env payment params

namespace AmbiguousPayment

/-- Source: `AmbiguousPaymentService.getOwnedAmbiguous` -/
def getOwnedAmbiguous (paymentId : String) : App PaymentAggregate := do
  match ← findByIdOnMaster paymentId with
  | none => throw (.http 404 "Payment not found" "PAYMENT_NOT_FOUND")
  | some payment =>
    if payment.status ≠ .AMBIGUOUS then
      throw (.http 409 (s!"Payment {paymentId} is {payment.status} rather than AMBIGUOUS — " ++
        "nothing to resolve") "PAYMENT_NOT_AMBIGUOUS")
    else return payment

/-- Source: `AmbiguousPaymentService.resolve` -/
inductive Resolution where
  | SUCCEEDED | FAILED
  deriving DecidableEq, Repr

/-- Source: `AmbiguousPaymentService.resolve` -/
structure ResolveParams where
  paymentId : String
  outcome : Resolution
  pspTransactionId : Option String := none
  reason : String
  resolvedBy : String

/-- Source: `AmbiguousPaymentService.resolve` -/
def resolve (env : BookingEnv) (params : ResolveParams) : App Unit := do
  let payment ← getOwnedAmbiguous params.paymentId
  match params.outcome with
  | .SUCCEEDED =>
    match truthy params.pspTransactionId with
    | none => throw (.http 422 ("pspTransactionId is required when outcome is SUCCEEDED — an " ++
        "ambiguous payment never received one automatically") "PSP_TRANSACTION_ID_REQUIRED")
    | some txId =>
      let succeeded ← payment.markSucceeded txId {}
      let succeeded := succeeded.recordManualAmbiguousResolution params.resolvedBy
        params.reason env.now
      let _ ← bookSucceeded env succeeded
  | .FAILED =>
    let failed ← payment.markFailed params.reason (some "MANUALLY_RESOLVED_AMBIGUOUS") none none
    let failed := failed.recordManualAmbiguousResolution params.resolvedBy params.reason env.now
    updatePayment failed env.now

/-- Source: `psp-adapter.port.ts` `PSPQueryOutcomeResult` -/
inductive QueryOutcome where
  | SUCCEEDED | FAILED | STILL_UNKNOWN
  deriving DecidableEq, Repr

/-- Source: `psp-adapter.port.ts` `PSPQueryOutcomeResult` -/
structure PspQueryOutcomeResult where
  outcome : QueryOutcome
  pspTransactionId : Option String := none
  errorCode : Option String := none

/-- What one automatic resolution meets outside. -/
structure AutoResolveEnv where
  answer : Except AppError PspQueryOutcomeResult
  booking : BookingEnv

/-- What is done with the PSP's answer.

Source: `AmbiguousPaymentService.autoResolveOne` -/
def applyOutcome (env : BookingEnv) (fresh : PaymentAggregate) (outcome : PspQueryOutcomeResult) :
    App Unit :=
  match outcome.outcome, truthy outcome.pspTransactionId with
  | .SUCCEEDED, some txId => do
      let succeeded ← fresh.markSucceeded txId {}
      let _ ← bookSucceeded env succeeded
  | .FAILED, _ => do
      let failed ← fresh.markFailed
        "Auto-resolved via PSP query: the PSP has no record of this charge succeeding"
        (some (outcome.errorCode.getD "AUTO_RESOLVED_AMBIGUOUS")) none none
      updatePayment failed env.now
  | _, _ => updatePayment fresh.incrementAmbiguousAutoRetryCount env.now

/-- One payment of the automatic sweep.  The counters of the sweep's summary are left out. -/
def autoResolveOne (env : AutoResolveEnv) (paymentId : String) : App Unit := do
  match ← findByIdOnMaster paymentId with
  | none => return ()
  | some fresh =>
    if fresh.status ≠ .AMBIGUOUS then return ()
    else match fresh.pspProvider.toOption with
      | none => return ()
      | some provider =>
        let adapter ← getAdapter provider
        callPsp adapter (.queryOutcome fresh.idempotencyKey)
        let outcome ← env.answer
        applyOutcome env.booking fresh outcome

end AmbiguousPayment

end OmniSwitch
