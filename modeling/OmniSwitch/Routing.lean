import Mathlib.Data.List.Sort
import OmniSwitch.Services.Lifecycle

/-!
# Routing a charge to a PSP

`smart-routing.strategy.ts` and `payment-processor.factory.ts`: the choice of a provider from the
health of all of them, and the execution of an operation on the chosen provider with one retry
and fallbacks.  What the operation does when it is invoked for the `n`-th time, and whether a
fallback is available, are arguments; the invocations made are part of the result.
-/

namespace OmniSwitch

open Lib

/-! ### Selection -/

/-- Source: `CircuitBreakerState` -/
inductive CircuitBreakerState where
  | CLOSED | OPEN | HALF_OPEN
  deriving DecidableEq, Repr

/-- A number that nothing has checked, as the fee schedule reads it from the configuration; `NaN`
and the infinities are `none`. -/
abbrev JsNumber := Option Rat

/-- Source: `smart-routing.strategy.ts` `PSPHealthStatus` -/
structure PspHealthStatus where
  provider : PSPProvider
  circuitBreakerState : CircuitBreakerState
  successRate : Rat
  avgLatencyMs : Rat
  feePercentage : JsNumber
  fixedFeeMinorUnits : JsNumber
  supportedCurrencies : List String
  supportedCountries : List String
  isAvailable : Bool

/-- Source: `RoutingContext` -/
structure RoutingContext where
  amount : Money
  binInfo : Option BinInfo
  merchantId : String
  preferredProvider : Option PSPProvider
  entitledProviders : Option (List PSPProvider)

/-- The decision; the text of the reason and the score are left out. -/
structure RoutingDecision where
  selectedProvider : PSPProvider
  fallbackProviders : List PSPProvider
  estimatedFee : Money
  deriving DecidableEq, Repr

namespace SmartRouting

/-- `BigInt(number)`; the text of the error leaves the number out. -/
def bigInt : JsNumber → Except AppError Int
  | some x =>
    if x.den = 1 then .ok x.num
    else .error (.plain "cannot be converted to a BigInt because it is not an integer")
  | none => .error (.plain "cannot be converted to a BigInt because it is not an integer")

/-- `amount.multiply(factor)`, whose rounded product has to be a whole number.

Source: `Money.multiply` -/
def multiplyBy (amount : Money) : JsNumber → Except AppError Money
  | some factor => amount.multiply factor
  | none => .error (.plain "cannot be converted to a BigInt because it is not an integer")

/-- Source: `SmartRoutingStrategy.calculateFee` -/
def calculateFee (amount : Money) (health : PspHealthStatus) : Except AppError Money := do
  let percentageFee ← multiplyBy amount (health.feePercentage.map (· / 100))
  let currency ← Currency.of amount.currency.code
  let fixedFee ← Money.make (← bigInt health.fixedFeeMinorUnits) currency
  percentageFee.add fixedFee

/-- For an amount of zero the source's fee ratio is not a number; it counts as zero here. -/
def scoreProvider (context : RoutingContext) (health : PspHealthStatus) :
    Except AppError Int := do
  let fee ← calculateFee context.amount health
  let breaker : Rat := match health.circuitBreakerState with
    | .CLOSED => 40
    | .HALF_OPEN => 10
    | .OPEN => 0
  let latency := max 0 (15 - health.avgLatencyMs / 100)
  let feeScore := max 0 (15 - fee.amount / context.amount.amount * 100)
  let region : Rat := match context.binInfo with
    | none => 0
    | some bin =>
      if bin.isEuropean then (if health.provider = .ADYEN then 10 else 0)
      else if health.provider = .STRIPE then 5 else 0
  .ok (mathRound (breaker + health.successRate / 100 * 30 + latency + feeScore + region))

/-- Source: `SmartRoutingStrategy.filterAvailableProviders` -/
def isRoutable (context : RoutingContext) (health : PspHealthStatus) : Bool :=
  health.isAvailable && health.circuitBreakerState != .OPEN &&
    context.entitledProviders.all (·.contains health.provider) &&
    health.supportedCurrencies.contains context.amount.currency.code &&
    match truthy (context.binInfo.map BinInfo.country) with
    | none => true
    | some country =>
      health.supportedCountries.isEmpty || health.supportedCountries.contains country ||
        health.supportedCountries.contains "*"

/-- Best score first; providers of equal score stay in the order of the map. -/
def rank (scored : List (PspHealthStatus × Int)) : List PspHealthStatus :=
  (scored.insertionSort fun a b => b.2 ≤ a.2).map Prod.fst

/-- The selection by any scoring.  The health map lists each registered provider once, in the order
of registration. -/
def selectProviderBy (score : PspHealthStatus → Except AppError Int) (context : RoutingContext)
    (healthMap : List PspHealthStatus) : Except AppError RoutingDecision := do
  match context.preferredProvider.filter fun provider =>
      context.entitledProviders.any (!·.contains provider) with
  | some provider =>
    -- `PreferredProviderNotEntitledError`, as `translateRoutingError` hands it on
    .error (.http 422 s!"Merchant is not entitled to route through {provider}"
      "PREFERRED_PROVIDER_NOT_ENTITLED")
  | none =>
    let available := healthMap.filter (isRoutable context)
    let scored ← available.mapM fun health => do
      .ok (health, ← score health)
    match rank scored with
    | [] => .error (.plain (s!"No available PSP providers for currency " ++
        s!"{context.amount.currency.code} from country " ++
        (context.binInfo.map BinInfo.country).getD "UNKNOWN"))
    | best :: rest =>
      -- a preferred provider that is available goes first, the others keep their order
      let preferred := (best :: rest).find? fun health =>
        context.preferredProvider = some health.provider
      let chosen := preferred.getD best
      let fee ← calculateFee context.amount chosen
      .ok ⟨chosen.provider, ((best :: rest).map (·.provider)).filter (· ≠ chosen.provider),
        fee⟩

/-- Source: `SmartRoutingStrategy.selectProvider` -/
def selectProvider (context : RoutingContext) (healthMap : List PspHealthStatus) :
    Except AppError RoutingDecision :=
  selectProviderBy (scoreProvider context) context healthMap

end SmartRouting

/-! ### Execution -/

/-- Source: `payment-processor.factory.ts` `isAmbiguousOutcomeError` -/
def isAmbiguousOutcomeError : AppError → Bool
  | .psp _ isAmbiguousOutcome _ => isAmbiguousOutcome
  | _ => false

/-- HTTP exceptions of the application carry a `statusCode` in their body, not as a property.

Source: `payment-processor.factory.ts` `isTransientPspError` -/
def isTransientPspError : AppError → Bool
  | .psp _ _ (some statusCode) => decide (500 ≤ statusCode)
  | _ => false

/-- One invocation of the operation, with what it came to. -/
structure Invocation (T : Type) where
  provider : PSPProvider
  outcome : Except AppError T

/-- Source: `PaymentProcessorFactory.executeWithFallback` -/
structure RouteResult (T : Type) where
  result : T
  provider : PSPProvider
  usedFallback : Bool

namespace PaymentProcessor

variable {T : Type}

/-- Source: `PaymentProcessorFactory.executeWithFallback` -/
def allFailed (decision : RoutingDecision) (lastFailureWasAmbiguous : Bool) : AppError :=
  .psp (s!"All PSP providers failed. Primary: {decision.selectedProvider}. Fallbacks tried: [" ++
    ", ".intercalate (decision.fallbackProviders.map PSPProvider.toString) ++ "]")
    lastFailureWasAmbiguous none

/-- The loop over the fallbacks: skip those that are not available, stop at the first that
answers.

Source: `PaymentProcessorFactory.executeWithFallback` -/
def tryFallbacks (decision : RoutingDecision) (operation : Nat → PSPProvider → Except AppError T)
    (isAvailable : PSPProvider → Bool) (n : Nat) (lastFailureWasAmbiguous : Bool) :
    List PSPProvider → List (Invocation T) × Except AppError (RouteResult T)
  | [] => ([], .error (allFailed decision lastFailureWasAmbiguous))
  | provider :: providers =>
    match getAdapter provider with
    | .error e => ([], .error e)
    | .ok adapter =>
      if isAvailable adapter then
        match operation n adapter with
        | .ok result => ([⟨adapter, .ok result⟩], .ok ⟨result, provider, true⟩)
        | .error e =>
          let (log, result) := tryFallbacks decision operation isAvailable (n + 1)
            (isAmbiguousOutcomeError e) providers
          (⟨adapter, .error e⟩ :: log, result)
      else
        tryFallbacks decision operation isAvailable n lastFailureWasAmbiguous providers

/-- The primary, once more if the first attempt was ambiguous or met a server error, then the
fallbacks. -/
def executeWithFallback (decision : RoutingDecision)
    (operation : Nat → PSPProvider → Except AppError T) (isAvailable : PSPProvider → Bool) :
    List (Invocation T) × Except AppError (RouteResult T) :=
  let primary := decision.selectedProvider
  match operation 0 primary with
  | .ok result => ([⟨primary, .ok result⟩], .ok ⟨result, primary, false⟩)
  | .error primaryError =>
    if isAmbiguousOutcomeError primaryError || isTransientPspError primaryError then
      match operation 1 primary with
      | .ok result =>
        ([⟨primary, .error primaryError⟩, ⟨primary, .ok result⟩],
          .ok ⟨result, primary, false⟩)
      | .error retryError =>
        if isAmbiguousOutcomeError retryError then
          ([⟨primary, .error primaryError⟩, ⟨primary, .error retryError⟩],
            .error (.psp s!"{primary} outcome remains ambiguous after one retry." true none))
        else
          let (log, result) := tryFallbacks decision operation isAvailable 2
            (isAmbiguousOutcomeError retryError) decision.fallbackProviders
          (⟨primary, .error primaryError⟩ :: ⟨primary, .error retryError⟩ :: log, result)
    else
      let (log, result) := tryFallbacks decision operation isAvailable 1
        (isAmbiguousOutcomeError primaryError) decision.fallbackProviders
      (⟨primary, .error primaryError⟩ :: log, result)

end PaymentProcessor

end OmniSwitch
