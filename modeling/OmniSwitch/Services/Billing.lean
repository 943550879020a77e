import OmniSwitch.Subscription
import OmniSwitch.ChargeRetries

/-!
# The billing of subscriptions

`subscription.service.ts`, and the part of `plan.service.ts` that it uses.  A first period and the
difference to a dearer plan are charged by a checkout under a fresh id; a renewal by one whose
payment id, which is its idempotency key as well, is derived from the subscription and the end of
its period.  The checkout is the one of `Services.Checkout`, on the payments' part of the database;
its commands carry the subscription they are issued for.

A request holds a copy of the subscription while it waits for the checkout, and then saves every
column of it.  Every operation of the database may fail, by the `fault` of the request that meets
it. The verification of a card before a trial, which charges nothing, is a parameter of the request;
the events that are emitted for notifications are left out.
-/

namespace OmniSwitch

open Lib Prog PaymentCheckoutSaga

/-! ### The tables -/

/-- The tables the services share.

Source: `payment.entity.ts` and the tables beside it, `subscription.entity.ts`, `plan.entity.ts` -/
structure BillingDb where
  payments : Db
  subscriptions : Table Subscription.id
  plans : Table Plan.id

/-- An operation of the database, or a call to a PSP.

Source: `subscription.port.ts`, `plan.port.ts` -/
inductive BillingCmd where
  /-- A command of a payment service, with the subscription whose charge issues it. -/
  | payments (subscriptionId : Option String) (c : Cmd)
  | findPlan (id : String)
  | findSubscription (id : String)
  | findDue (now : Date)
  | saveSubscription (subscription : Subscription)

/-- Source: `SubscriptionTypeOrmRepository.findDue` -/
def BillingDb.findDue (db : BillingDb) (now : Date) : List Subscription :=
  (db.subscriptions.rows.filter fun subscription =>
    subscription.status ≠ .CANCELED ∧ subscription.currentPeriodEnd ≤ now).insertionSort
      fun a b => a.currentPeriodEnd ≤ b.currentPeriodEnd

/-- The effect of a command on the tables.

Source: `SubscriptionTypeOrmRepository.save` -/
def BillingCmd.apply : BillingCmd → BillingDb → BillingDb
  | .payments _ c, db => { db with payments := c.apply db.payments }
  | .saveSubscription subscription, db =>
    { db with subscriptions := db.subscriptions.put subscription }
  | _, db => db

instance : Commands BillingDb BillingCmd where
  apply := BillingCmd.apply
  observes
    | .findSubscription _ | .findDue _ => true
    | _ => false

/-- The programs of the requests. -/
abbrev Billing (α : Type) := Prog BillingDb BillingCmd AppError α

/-- Source: `psp-adapter.port.ts` `PSPVerifyPaymentMethodResponse` -/
structure PspVerifyPaymentMethodResponse where
  success : Bool
  errorMessage : Option String := none

/-- What a request meets outside. -/
structure BillingEnv where
  /-- The first reading of the clock, and the second. -/
  now : Date
  later : Date := now
  /-- What the checkout of a payment meets. -/
  checkout : String → CheckoutEnv
  /-- What the verification of the card comes to, at the PSP it is routed to. -/
  verification : Except AppError PspVerifyPaymentMethodResponse := .ok { success := true }
  /-- The operations of the database that fail. -/
  fault : BillingCmd → Option (Fault AppError) := fun _ => none

namespace BillingEnv

/-- One operation; what it comes to is read off the database it found. -/
def issue (env : BillingEnv) (c : BillingCmd) : Billing BillingDb := tryAct (env.fault c) c ret

/-- The checkout, for the subscription. -/
def execute (env : BillingEnv) (subscriptionId : String) (input : CheckoutSagaInput) :
    Billing CheckoutSagaResult :=
  (executeDisturbed (env.checkout input.paymentId)
    (fun c => env.fault (.payments (some subscriptionId) c)) input).embed
      (.payments (some subscriptionId)) BillingDb.payments

/-- `subscriptionRepository.save`. -/
def save (env : BillingEnv) (subscription : Subscription) : Billing Unit := do
  let _ ← env.issue (.saveSubscription subscription)
  return ()

end BillingEnv

/-! ### Plans -/

namespace PlanService

/-- Source: `PlanService.getOrThrow` -/
def getOrThrow (env : BillingEnv) (id : String) : Billing Plan := do
  let db ← env.issue (.findPlan id)
  match db.plans.get id with
  | none => throw (.http 404 s!"Plan {id} not found" "PLAN_NOT_FOUND")
  | some plan => return plan

/-- Source: `PlanService.getUsablePlanOrThrow` -/
def getUsablePlanOrThrow (env : BillingEnv) (id merchantId : String) : Billing Plan := do
  let plan ← getOrThrow env id
  if plan.merchantId ≠ merchantId then throw (.http 403 "Forbidden" "ACCESS_DENIED")
  else if !plan.isActive then throw (.http 404 s!"Plan {id} is deactivated" "PLAN_DEACTIVATED")
  else return plan

end PlanService

/-! ### Subscriptions -/

namespace SubscriptionService

/-- Source: `subscription.service.ts` `MAX_DUNNING_ATTEMPTS` -/
def maxDunningAttempts : Nat := 4

/-- What a new subscription is to be: of a plan, or with its own amount and interval. -/
structure CreateSubscriptionParams where
  merchantId : String
  paymentMethodId : String
  trialDays : Option Nat := none
  planId : Option String := none
  amount : Option Money := none
  interval : Option BillingInterval := none
  intervalCount : Option Nat := none

variable (uuidv5 : String → String) (env : BillingEnv) (subscription : Subscription)

/-- What is to be charged, how often, and by which plan.

Source: `SubscriptionService.createSubscription` -/
def resolvePricing (params : CreateSubscriptionParams) (subscriptionId : String) :
    Billing SubscriptionParams :=
  match truthy params.planId with
  | some planId => do
      let plan ← PlanService.getUsablePlanOrThrow env planId params.merchantId
      return { id := subscriptionId, merchantId := params.merchantId, amount := plan.amount
               interval := plan.interval, intervalCount := plan.intervalCount
               paymentMethodId := params.paymentMethodId, planId := some plan.id }
  | none =>
    match params.amount, params.interval, params.intervalCount.filter (· ≠ 0) with
    | some amount, some interval, some intervalCount =>
      return { id := subscriptionId, merchantId := params.merchantId, amount := amount
               interval := interval, intervalCount := intervalCount
               paymentMethodId := params.paymentMethodId }
    | _, _, _ =>
      throw (.http 422
        "Either planId, or amount/interval/intervalCount together, must be provided"
        "SUBSCRIPTION_MISSING_PRICING")

/-- Source: `SubscriptionService.verifyPaymentMethodOrThrow` -/
def verifyPaymentMethodOrThrow : Except AppError Unit :=
  match env.verification with
  | .error e =>
    .error (.http 422 s!"Could not verify payment method: {errorMessage e}"
      "SUBSCRIPTION_PAYMENT_METHOD_VERIFICATION_FAILED")
  | .ok verification =>
    if verification.success then .ok ()
    else .error (.http 422
      (verification.errorMessage.getD "Payment method could not be verified")
      "SUBSCRIPTION_PAYMENT_METHOD_VERIFICATION_FAILED")

/-- The checkout of the first period.

Source: `SubscriptionService.createSubscription` -/
def firstCharge (params : SubscriptionParams) (paymentId : String) : CheckoutSagaInput where
  paymentId := paymentId
  idempotencyKey := paymentId
  amount := params.amount
  merchantId := params.merchantId
  paymentMethodId := some params.paymentMethodId

/-- Source: `SubscriptionService.createSubscription` -/
def createSubscription (params : CreateSubscriptionParams)
    (subscriptionId paymentId : String) : Billing Subscription := do
  let priced ← resolvePricing env params subscriptionId
  match params.trialDays.filter (0 < ·) with
  | some trialDays =>
    verifyPaymentMethodOrThrow env
    let subscription := Subscription.startTrial priced trialDays env.now
    env.save subscription
    return subscription
  | none =>
    let result ← env.execute subscriptionId (firstCharge priced paymentId)
    if result.status ≠ .SUCCEEDED then
      throw (.http 422 ("Could not start subscription: first charge did not succeed " ++
        s!"(status={result.status})") "SUBSCRIPTION_FIRST_CHARGE_FAILED")
    else
      let subscription := Subscription.startActive priced env.now
      env.save subscription
      return subscription

/-- Source: `SubscriptionService.getOrThrow` -/
def getOrThrow (id : String) : Billing Subscription := do
  let db ← env.issue (.findSubscription id)
  match db.subscriptions.get id with
  | none => throw (.http 404 s!"Subscription {id} not found" "SUBSCRIPTION_NOT_FOUND")
  | some subscription => return subscription

/-- What a change of plan costs at once, or is credited; an error is that of a plan in another
currency.

Source: `SubscriptionService.changePlan` -/
def prorate (plan : Plan) : Except AppError (Option Money × Option Money) :=
  let prorated : Except AppError (Option Money × Option Money) := do
    match ← subscription.computeUpgradeProration plan.amount env.now with
    | some proration => .ok (some proration, none)
    | none => .ok (none, ← subscription.computeDowngradeCredit plan.amount env.later)
  match prorated with
  | .ok r => .ok r
  | .error e => .error (.http 409 (errorMessage e) "PLAN_CURRENCY_MISMATCH")

/-- The checkout of what a dearer plan costs more.

Source: `SubscriptionService.changePlan` -/
def prorationCharge (proration : Money) (paymentId : String) : CheckoutSagaInput where
  paymentId := paymentId
  idempotencyKey := paymentId
  amount := proration
  merchantId := subscription.merchantId
  paymentMethodId := some subscription.paymentMethodId
  isMitRenewal := some true

/-- Source: `SubscriptionService.changePlan` -/
def chargeProration (paymentId : String) : Option Money → Billing Unit
  | none => return ()
  | some proration => do
      let result ← env.execute subscription.id (prorationCharge subscription proration paymentId)
      if result.status ≠ .SUCCEEDED then
        throw (.http 422 (s!"Proration charge did not succeed (status={result.status}) — " ++
          "plan was not changed") "PRORATION_CHARGE_FAILED")
      else return ()

/-- The subscription on the new plan.

Source: `SubscriptionService.changePlan` -/
def changed (plan : Plan) : Option Money → Except AppError Subscription
  | none => .ok (subscription.applyPlanChange plan)
  | some credit => (subscription.applyPlanChange plan).applyDowngradeCredit credit

/-- The id of the payment is drawn at random; what was charged and what was credited is returned
with the subscription. -/
def changePlan (subscriptionId newPlanId paymentId : String) :
    Billing (Subscription × Option Money × Option Money) := do
  let subscription ← getOrThrow env subscriptionId
  if subscription.status ≠ .ACTIVE then
    throw (.http 409
      (s!"Cannot change plan for a subscription in status {subscription.status} — " ++
      "only ACTIVE subscriptions can change plans") "SUBSCRIPTION_NOT_ACTIVE")
  else
    let plan ← PlanService.getUsablePlanOrThrow env newPlanId subscription.merchantId
    let (proration, credit) ← prorate env subscription plan
    chargeProration env subscription paymentId proration
    let subscription ← changed subscription plan credit
    env.save subscription
    return (subscription, proration, credit)

/-- Source: `SubscriptionService.cancel` -/
def cancel (id : String) (atPeriodEnd : Bool) : Billing Subscription := do
  let subscription ← getOrThrow env id
  let subscription := subscription.requestCancellation env.now !atPeriodEnd
  env.save subscription
  return subscription

/-! ### The billing sweep -/

/-- `uuidv5` in the namespace of the service.  It is a hash, of which nothing is assumed here. -/
def periodPaymentId (id : String) (currentPeriodEnd : Date) : String :=
  uuidv5 s!"{id}:{currentPeriodEnd.toISOString}"

/-- The checkout of a renewal, or of the first period after a trial.

Source: `SubscriptionService.runBillingSweep` -/
def renewal (amount : Money) : CheckoutSagaInput where
  paymentId := periodPaymentId uuidv5 subscription.id subscription.currentPeriodEnd
  idempotencyKey := periodPaymentId uuidv5 subscription.id subscription.currentPeriodEnd
  amount := amount
  merchantId := subscription.merchantId
  paymentMethodId := some subscription.paymentMethodId
  isMitRenewal := some true

/-- What the sweep counts. -/
inductive SweepOutcome where
  | skipped | charged | canceled | failed
  deriving DecidableEq, Repr

/-- The result of the sweep. -/
structure SweepCounts where
  charged : Nat := 0
  canceled : Nat := 0
  failed : Nat := 0
  deriving DecidableEq, Repr

/-- The outcome is counted. -/
def SweepCounts.count (counts : SweepCounts) : SweepOutcome → SweepCounts
  | .skipped => counts
  | .charged => { counts with charged := counts.charged + 1 }
  | .canceled => { counts with canceled := counts.canceled + 1 }
  | .failed => { counts with failed := counts.failed + 1 }

/-- The next period, after a charge or a credit. -/
def advance : Except AppError (Subscription × SweepOutcome) := do
  let subscription ← subscription.consumeCredit
  .ok (subscription.recordSuccessfulCharge, .charged)

/-- Source: `SubscriptionService.runBillingSweep` -/
def recordResult (now : Date) (result : CheckoutSagaResult) :
    Except AppError (Subscription × SweepOutcome) :=
  if result.status = .SUCCEEDED then advance subscription
  else .ok (subscription.recordFailedCharge now maxDunningAttempts result.errorCode
    result.pspProvider, .failed)

/-- The charge of a period, up to where the subscription is saved: the subscription as it is then.

Source: `SubscriptionService.runBillingSweep` -/
def chargePeriod (now : Date)
    (subscription : Subscription) : Billing (Subscription × SweepOutcome) := do
  let chargeAmount ← subscription.amountDueThisPeriod
  let paymentId := periodPaymentId uuidv5 subscription.id subscription.currentPeriodEnd
  if chargeAmount.isZero then advance subscription
  else
    let db ← env.issue (.payments (some subscription.id) (.findByIdOnMaster paymentId))
    let existing ← db.payments.findById paymentId
    -- a sweep before this one may have charged the period and stopped before the save
    if existing.any (·.status = .SUCCEEDED) then advance subscription
    else
      let result ← env.execute subscription.id (renewal uuidv5 subscription chargeAmount)
      recordResult subscription now result

/-- The handler of the sweep: whatever was thrown counts as a failed charge of the subscription as
it is in memory, and if that cannot be saved, it is only logged.

Source: `SubscriptionService.runBillingSweep` -/
def countFailure (now : Date) (subscription : Subscription) : Billing SweepOutcome := do
  tryCatch (env.save (subscription.recordFailedCharge now maxDunningAttempts none none))
    fun _ => return ()
  return .failed

/-- The subscription is saved; the handler finds it as it was to be saved.

Source: `SubscriptionService.runBillingSweep` -/
def saveOrCountFailure (now : Date) (subscription : Subscription)
    (outcome : SweepOutcome) : Billing SweepOutcome :=
  tryCatch (do env.save subscription; return outcome) fun _ => countFailure env now subscription

/-- The `try` block around the billing of one subscription. -/
def attempt {α : Type} (prog : Billing α) : Billing (Except AppError α) :=
  tryCatch (do return .ok (← prog)) fun e => return .error e

/-- The sweep at one subscription.

Source: `SubscriptionService.runBillingSweep` -/
def billOne (now : Date) (subscription : Subscription) : Billing SweepOutcome :=
  match subscription.dueAction now with
  | .NONE => return .skipped
  | .CANCEL => saveOrCountFailure env now (subscription.finalizeCancellation now) .canceled
  | .CHARGE => do
      match ← attempt (chargePeriod uuidv5 env now subscription) with
      | .error _ => countFailure env now subscription
      | .ok (subscription, outcome) => saveOrCountFailure env now subscription outcome

/-- The subscriptions one after the other, each as it was when the sweep began. -/
def billEach (uuidv5 : String → String) (env : BillingEnv) (now : Date) :
    List Subscription → SweepCounts → Billing SweepCounts
  | [], counts => return counts
  | subscription :: due, counts => do
      let outcome ← billOne uuidv5 env now subscription
      billEach uuidv5 env now due (counts.count outcome)

/-- Source: `SubscriptionService.runBillingSweep` -/
def runBillingSweep (now : Date) : Billing SweepCounts := do
  let db ← env.issue (.findDue now)
  billEach uuidv5 env now (db.findDue now) {}

end SubscriptionService

/-! ### Requests -/

/-- A request, with what it meets outside and the ids it draws.

Source: `subscription.controller.ts`, `subscription-admin.controller.ts` -/
inductive BillingRequest where
  | createSubscription (env : BillingEnv) (params : SubscriptionService.CreateSubscriptionParams)
      (subscriptionId paymentId : String)
  | changePlan (env : BillingEnv) (subscriptionId newPlanId paymentId : String)
  | cancel (env : BillingEnv) (subscriptionId : String) (atPeriodEnd : Bool)
  | runBillingSweep (env : BillingEnv) (now : Date)
  /-- A request to any of the services for payments. -/
  | operation (op : Operation)

/-- The program of a request. -/
def BillingRequest.program (uuidv5 : String → String) : BillingRequest → Billing Unit
  | createSubscription env params subscriptionId paymentId => do
      let _ ← SubscriptionService.createSubscription env params subscriptionId paymentId
      return ()
  | changePlan env subscriptionId newPlanId paymentId => do
      let _ ← SubscriptionService.changePlan env subscriptionId newPlanId paymentId
      return ()
  | cancel env subscriptionId atPeriodEnd => do
      let _ ← SubscriptionService.cancel env subscriptionId atPeriodEnd
      return ()
  | runBillingSweep env now => do
      let _ ← SubscriptionService.runBillingSweep uuidv5 env now
      return ()
  | operation op => op.program.embed (.payments none) BillingDb.payments

namespace Sample

/-- A subscription of 10 dollars a month, through January 2026. -/
def monthly : Subscription where
  id := "sub_1"
  merchantId := input.merchantId
  amount := tenDollars
  interval := .month
  intervalCount := 1
  paymentMethodId := "pm_1"
  status := .ACTIVE
  currentPeriodStart := 1767225600000
  currentPeriodEnd := 1769904000000

/-- A plan of twenty dollars. -/
def dearer : Plan where
  id := "plan_2"
  merchantId := input.merchantId
  amount := ⟨2000, usd⟩
  interval := .month
  intervalCount := 1

/-- A subscription, and the dearer plan. -/
def billingDb : BillingDb where
  payments := .empty
  subscriptions := Table.empty.put monthly
  plans := Table.empty.put dearer

/-- The middle of January 2026; every PSP accepts. -/
def billingEnv : BillingEnv where
  now := 1768521600000
  checkout := fun _ => answered .SUCCEEDED

end Sample

end OmniSwitch
