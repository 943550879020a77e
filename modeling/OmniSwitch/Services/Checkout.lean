import OmniSwitch.Routing
import OmniSwitch.Services.Ambiguous

/-!
# The checkout saga

`payment-checkout.saga.ts` with `acquirer-routing.service.ts`: one payment from its creation to
what the PSP answered.  The health of the providers is read twice, for the selection that is
recorded on the payment and for the one the charge is executed with, and may differ.  The
monitoring services that a compensation calls, whose errors it swallows, and the emission of
domain events are left out.
-/

namespace OmniSwitch

open Lib

namespace PaymentCheckoutSaga

/-- Source: `psp-adapter.port.ts` `PSPChargeResponse` -/
inductive PspChargeStatus where
  | SUCCEEDED | REQUIRES_ACTION | REQUIRES_CAPTURE | FAILED
  deriving DecidableEq, Repr

/-- Source: `psp-adapter.port.ts` `PSPChargeResponse` -/
structure PspChargeResponse where
  status : PspChargeStatus
  transactionId : String
  actionUrl : Option String := none
  details : AuthorizationDetails := {}
  errorCode : Option String := none
  errorMessage : Option String := none

/-- Source: `CheckoutSagaInput` -/
structure CheckoutSagaInput where
  paymentId : String
  idempotencyKey : String
  amount : Money
  merchantId : String
  binInfo : Option BinInfo := none
  paymentMethodId : Option String := none
  preferredProvider : Option PSPProvider := none
  splits : List RequestedSplit := []
  delegationId : Option String := none
  initiatedBy : Option PaymentInitiator := none
  agentPercentOfRemainingMonthlyBudget : Option Rat := none
  isMitRenewal : Option Bool := none

/-- Source: `CheckoutSagaResult` -/
structure CheckoutSagaResult where
  paymentId : String
  status : PaymentStatus
  pspTransactionId : Option String := none
  pspProvider : Option PSPProvider := none
  actionUrl : Option String := none
  riskScore : Option Nat := none
  requiresAction : Bool
  usedFallback : Bool
  estimatedFee : Option Money := none
  errorCode : Option String := none

/-- What a checkout meets outside. -/
structure CheckoutEnv where
  booking : BookingEnv
  /-- `scaExemptionTracker.getStreak`. -/
  streak : Except AppError Nat
  /-- `scaExemptionTracker.recordLowValueExemptionUsed` and `resetStreak`. -/
  streakUpdate : Except AppError Unit
  /-- The providers' health when the adapter is selected. -/
  selectionHealth : List PspHealthStatus
  /-- The providers' health when the charge is executed. -/
  executionHealth : List PspHealthStatus
  /-- What the `n`-th charge request comes to. -/
  charge : Nat → PSPProvider → Except AppError PspChargeResponse
  isAvailable : PSPProvider → Bool
  /-- `merchantPspExposure.recordRouting`. -/
  recordRouting : Except AppError Unit

/-! ### Routing -/

/-- Source: `PaymentProcessorFactory.selectAdapter` -/
def selectAdapter (context : RoutingContext) (healthMap : List PspHealthStatus) :
    Except AppError RoutingDecision := do
  let decision ← SmartRouting.selectProvider context healthMap
  let _ ← getAdapter decision.selectedProvider
  .ok decision

variable (env : CheckoutEnv) (input : CheckoutSagaInput) (params : ChargeLedgerParams)
  (payment : PaymentAggregate)

/-- Source: `AcquirerRoutingService.executeWithSmartRouting` -/
def executeWithSmartRouting (context : RoutingContext) :
    List (Invocation PspChargeResponse) × Except AppError (RouteResult PspChargeResponse) :=
  match selectAdapter context env.executionHealth with
  | .error e => ([], .error e)
  | .ok decision =>
    let (log, result) :=
      PaymentProcessor.executeWithFallback decision env.charge env.isAvailable
    (log, do
      let result ← result
      env.recordRouting
      .ok result)

/-- The charge requests that were made, in order. -/
def charges (idempotencyKey : String) : List (Invocation PspChargeResponse) → App Unit
  | [] => return ()
  | invocation :: log => do
      callPsp invocation.provider (.charge idempotencyKey)
      charges idempotencyKey log

/-! ### Compensation -/

/-- The message of an error, as `err.message` reads it.  The framework's exceptions are built from
a body that has no `message`; theirs is the name of their class.

Source: `PaymentCheckoutSaga.execute` -/
def errorMessage : AppError → String
  | .http 404 _ _ => "Not Found Exception"
  | .http 409 _ _ => "Conflict Exception"
  | .http 422 _ _ => "Unprocessable Entity Exception"
  | .http _ _ _ => "Http Exception"
  | .plain message => message
  | .psp message _ _ => message

/-- A compensation that fails is only logged.

Source: `PaymentCheckoutSaga.compensate_markFailed` -/
def compensateMarkFailed (reason : String)
    (errorCode : Option String) (pspProvider : Option PSPProvider)
    (pspRiskSignal : Option PspRiskSignal) (now : Date) : App Unit :=
  match payment.markFailed reason errorCode pspProvider pspRiskSignal with
  | .ok failed => updatePayment failed now
  | .error _ => return ()

/-- Source: `PaymentCheckoutSaga.compensate_markAmbiguous` -/
def compensateMarkAmbiguous (reason : String) (now : Date) : App Unit :=
  match payment.markAmbiguous reason (some "PSP_TIMEOUT_AMBIGUOUS") with
  | .ok ambiguous => updatePayment ambiguous now
  | .error _ => return ()

/-! ### The steps -/

/-- Source: `PaymentCheckoutSaga.execute` -/
def isFirstChargeToMerchant : App (Option Bool) :=
  match truthy input.delegationId with
  | none => return none
  | some delegationId => do
      let hasChargedBefore ← existsForDelegationAndMerchant delegationId input.merchantId
      return some !hasChargedBefore

/-- The exemption that is asked for, when one could apply.

Source: `PaymentCheckoutSaga.execute` -/
def requestScaExemption (riskScore : Nat) : Except AppError (Option ScaExemptionEligibility) := do
  let isMitRenewal := input.isMitRenewal == some true
  let isEuropean := input.binInfo.any BinInfo.isEuropean
  if isMitRenewal || isEuropean then
    let lowValueStreakCount ←
      if !isMitRenewal && (truthy input.paymentMethodId).isSome then env.streak else .ok 0
    .ok (some (evaluateScaExemption input.amount riskScore isMitRenewal isEuropean
      lowValueStreakCount))
  else .ok none

/-- What is known of the payment before a provider is selected: its splits, its risk score and
the exemption asked for.

Source: `PaymentCheckoutSaga.execute` -/
def assess (isFirst : Option Bool) (payment : PaymentAggregate) :
    Except AppError (PaymentAggregate × Nat × Option ScaExemptionType) := do
  let payment := payment.recordSplits (toPaymentSplits (params.splits.getD []))
  let (payment, riskScore) := payment.calculateRiskScore
    ((truthy input.delegationId).map fun _ =>
      ⟨isFirst, input.agentPercentOfRemainingMonthlyBudget⟩)
  match ← requestScaExemption env input riskScore with
  | none => .ok (payment, riskScore, none)
  | some eligibility =>
    .ok (payment.recordScaExemptionRequested eligibility, riskScore, eligibility.exemption)

/-- The streak of low-value exemptions after an authorisation; it is touched only for a payment
method that is known.

Source: `PaymentCheckoutSaga.execute` -/
def updateStreak (indicator requested : Option ScaExemptionType) : Except AppError Unit :=
  if (truthy input.paymentMethodId).isSome &&
      (indicator == some .LOW_VALUE || requested == some .LOW_VALUE) then env.streakUpdate
  else .ok ()

/-- Source: `PaymentCheckoutSaga.execute` -/
def recordInterchange (details : AuthorizationDetails) : PaymentAggregate :=
  match payment.binInfo with
  | none => payment
  | some bin =>
    payment.recordInterchangeQualification
      (evaluateInterchangeQualification bin.cardBrand bin.cardProduct details.avsResult
        details.cvvResult 0)

/-- The last step: what the PSP's answer makes of the payment.

Source: `PaymentCheckoutSaga.execute` -/
def applyChargeResult (decision : RoutingDecision) (riskScore : Nat)
    (requested : Option ScaExemptionType) (payment : PaymentAggregate)
    (route : RouteResult PspChargeResponse) : App CheckoutSagaResult :=
  let result := route.result
  match result.status with
  | .SUCCEEDED => do
      let succeeded ← payment.markSucceeded result.transactionId result.details
      updateStreak env input result.details.scaExemptionIndicator requested
      let succeeded := recordInterchange succeeded result.details
      let _ ← bookCharge env.booking succeeded params
      return { paymentId := input.paymentId, status := .SUCCEEDED
               pspTransactionId := some result.transactionId, pspProvider := some route.provider
               riskScore := some riskScore, requiresAction := false
               usedFallback := route.usedFallback, estimatedFee := some decision.estimatedFee }
  | .REQUIRES_CAPTURE => do
      let authorized ← payment.requiresCapture result.transactionId result.details
      updateStreak env input result.details.scaExemptionIndicator requested
      updatePayment authorized env.booking.now
      return { paymentId := input.paymentId, status := .REQUIRES_CAPTURE
               pspTransactionId := some result.transactionId, pspProvider := some route.provider
               riskScore := some riskScore, requiresAction := false
               usedFallback := route.usedFallback, estimatedFee := some decision.estimatedFee }
  | .REQUIRES_ACTION => do
      let challenged ← payment.requiresAction riskScore (some result.transactionId)
      updateStreak env input none requested
      updatePayment challenged env.booking.now
      return { paymentId := input.paymentId, status := .REQUIRES_ACTION
               pspTransactionId := some result.transactionId, pspProvider := some route.provider
               actionUrl := result.actionUrl
               riskScore := some riskScore, requiresAction := true
               usedFallback := route.usedFallback, estimatedFee := some decision.estimatedFee }
  | .FAILED => do
      compensateMarkFailed payment ((truthy result.errorMessage).getD "PSP declined")
        result.errorCode (some route.provider) result.details.pspRiskSignal env.booking.now
      return { paymentId := input.paymentId, status := .FAILED
               pspProvider := some route.provider, riskScore := some riskScore
               requiresAction := false, usedFallback := route.usedFallback
               errorCode := result.errorCode }

/-- The charge and what follows, for a payment that is being processed.

Source: `PaymentCheckoutSaga.execute` -/
def executeCharge (context : RoutingContext)
    (params : ChargeLedgerParams) (decision : RoutingDecision) (riskScore : Nat)
    (requested : Option ScaExemptionType) (payment : PaymentAggregate) :
    App CheckoutSagaResult := do
  let (log, result) := executeWithSmartRouting env context
  charges input.idempotencyKey log
  match result with
  | .ok route => applyChargeResult env input params decision riskScore requested payment route
  | .error e =>
    if isAmbiguousOutcomeError e then
      compensateMarkAmbiguous payment (errorMessage e) env.booking.now
      return { paymentId := input.paymentId, status := .AMBIGUOUS
               pspProvider := some decision.selectedProvider, riskScore := some riskScore
               requiresAction := false, usedFallback := false
               errorCode := some "PSP_TIMEOUT_AMBIGUOUS" }
    else
      compensateMarkFailed payment (errorMessage e) (some "PSP_ALL_FAILED") none none
        env.booking.now
      throw e

/-- Source: `PaymentCheckoutSaga.execute` -/
def routingContext : RoutingContext where
  amount := input.amount
  binInfo := input.binInfo
  merchantId := input.merchantId
  preferredProvider := input.preferredProvider
  entitledProviders := params.enabledPspProviders

/-- The selection of an adapter, and the charge.

Source: `PaymentCheckoutSaga.execute` -/
def routeAndCharge
    (riskScore : Nat) (requested : Option ScaExemptionType) (payment : PaymentAggregate) :
    App CheckoutSagaResult :=
  let context := routingContext input params
  match selectAdapter context env.selectionHealth with
  | .error e => do
      compensateMarkFailed payment s!"No available PSP: {errorMessage e}" none none none
        env.booking.now
      throw e
  | .ok decision => do
      let processing ← payment.startProcessing decision.selectedProvider
      updatePayment processing env.booking.now
      executeCharge env input context params decision riskScore requested processing

/-- The payment as the saga creates it.

Source: `PaymentCheckoutSaga.execute` -/
def intent : PaymentAggregate :=
  PaymentAggregate.create input.paymentId input.amount input.idempotencyKey input.merchantId
    input.binInfo input.delegationId input.initiatedBy env.booking.now

/-- What follows once the payment has been created.

Source: `PaymentCheckoutSaga.execute` -/
def executeIntent (isFirst : Option Bool) (payment : PaymentAggregate) : App CheckoutSagaResult :=
  match ChargeLedgerParamsResolver.resolve env.booking.charge input.merchantId input.amount
      input.splits with
  | .error e => do
      compensateMarkFailed payment (errorMessage e) (some "INVALID_CHARGE_PARAMS") none none
        env.booking.now
      throw e
  | .ok params => do
      let (payment, riskScore, requested) ← assess env input params isFirst payment
      routeAndCharge env input params riskScore requested payment

/-- Source: `PaymentCheckoutSaga.execute` -/
def execute : App CheckoutSagaResult := do
  let isFirst ← isFirstChargeToMerchant input
  let payment := intent env input
  updatePayment payment env.booking.now
  executeIntent env input isFirst payment

end PaymentCheckoutSaga

end OmniSwitch
