import OmniSwitch.Calendar

/-!
# Subscriptions

`subscription.aggregate.ts`, `plan.aggregate.ts` and `decline-code-classifier.ts`: the schedule of a
subscription, what is due, and what becomes of the subscription when a charge succeeds, fails, or a
cancellation is asked for.

The customer, the order and the description, which are handed on to the checkout and read by nothing
here, are left out, and so are the times of creation and of the last change.
-/

namespace OmniSwitch

open Lib

/-! ### Declines -/

/-- Source: `DeclineCategory` -/
inductive DeclineCategory where
  | RETRYABLE | HARD_DECLINE
  deriving DecidableEq, Repr

/-- The codes after which a retry is useless; those of PayPal and Chase are not known.

Source: `decline-code-classifier.ts` `HARD_DECLINE_CODES` -/
def hardDeclineCodes : PSPProvider → List String
  | .STRIPE => ["stolen_card", "lost_card", "fraudulent", "pickup_card", "restricted_card",
      "expired_card"]
  | .ADYEN => ["5", "6", "14", "20", "22", "25", "26", "31", "50"]
  | .PAYPAL => []
  | .CHASE => []

/-- Source: `decline-code-classifier.ts` `classifyDeclineCode` -/
def classifyDeclineCode (errorCode : Option String) (pspProvider : Option PSPProvider) :
    DeclineCategory :=
  match truthy errorCode, pspProvider with
  | some code, some provider =>
    if code ∈ hardDeclineCodes provider then .HARD_DECLINE else .RETRYABLE
  | _, _ => .RETRYABLE

/-! ### Plans and subscriptions -/

/-- Source: `SubscriptionStatus` -/
inductive SubscriptionStatus where
  | TRIALING | ACTIVE | PAST_DUE | CANCELED
  deriving DecidableEq, Repr

/-- The name of the status, as error messages have it. -/
protected def SubscriptionStatus.toString : SubscriptionStatus → String
  | TRIALING => "TRIALING"
  | ACTIVE => "ACTIVE"
  | PAST_DUE => "PAST_DUE"
  | CANCELED => "CANCELED"

instance : ToString SubscriptionStatus := ⟨SubscriptionStatus.toString⟩

/-- Source: `BillingInterval` -/
inductive BillingInterval where
  | day | week | month | year
  deriving DecidableEq, Repr

/-- Source: `subscription.aggregate.ts` `addBillingInterval` -/
def addBillingInterval (date : Date) (interval : BillingInterval) (count : Nat) : Date :=
  match interval with
  | .day => date.setUTCDate (date.getUTCDate + count)
  | .week => date.setUTCDate (date.getUTCDate + count * 7)
  | .month => date.setUTCMonth (date.getUTCMonth + count)
  | .year => date.setUTCFullYear (date.getUTCFullYear + count)

/-- A month after 31 January there is no 31 February: the period ends on 3 March. -/
example : addBillingInterval 1769817600000 .month 1 = 1772496000000 := by decide

/-- Source: `subscription.aggregate.ts` `RETRY_SCHEDULE_DAYS` -/
def retryScheduleDays : List Nat := [1, 3, 7]

/-- Source: `Plan` -/
structure Plan where
  id : String
  merchantId : String
  amount : Money
  interval : BillingInterval
  intervalCount : Nat
  isActive : Bool := true
  deriving DecidableEq, Repr

/-- A subscription.  The pending credit is kept in minor units: it is in the currency of the amount,
the one currency column of the table.

Source: `Subscription`; `SubscriptionEntity` -/
structure Subscription where
  id : String
  merchantId : String
  amount : Money
  interval : BillingInterval
  intervalCount : Nat
  paymentMethodId : String
  status : SubscriptionStatus
  currentPeriodStart : Date
  currentPeriodEnd : Date
  cancelAtPeriodEnd : Bool := false
  failedAttempts : Nat := 0
  canceledAt : Option Date := none
  planId : Option String := none
  pendingCreditMinorUnits : Option Nat := none
  nextRetryAt : Option Date := none
  lastDeclineCode : Option String := none
  lastDeclinePspProvider : Option PSPProvider := none
  deriving DecidableEq, Repr

/-- What the billing sweep is to do with a subscription.

Source: `Subscription.dueAction` -/
inductive DueAction where
  | CHARGE | CANCEL | NONE
  deriving DecidableEq, Repr

/-- What a new subscription is made from. -/
structure SubscriptionParams where
  id : String
  merchantId : String
  amount : Money
  interval : BillingInterval
  intervalCount : Nat
  paymentMethodId : String
  planId : Option String := none

namespace Subscription

/-- Source: `Subscription.startTrial` -/
def startTrial (params : SubscriptionParams) (trialDays : Nat) (now : Date) : Subscription where
  id := params.id
  merchantId := params.merchantId
  amount := params.amount
  interval := params.interval
  intervalCount := params.intervalCount
  paymentMethodId := params.paymentMethodId
  status := .TRIALING
  currentPeriodStart := now
  currentPeriodEnd := now + trialDays * msPerDay
  planId := params.planId

/-- Source: `Subscription.startActive` -/
def startActive (params : SubscriptionParams) (now : Date) : Subscription where
  id := params.id
  merchantId := params.merchantId
  amount := params.amount
  interval := params.interval
  intervalCount := params.intervalCount
  paymentMethodId := params.paymentMethodId
  status := .ACTIVE
  currentPeriodStart := now
  currentPeriodEnd := addBillingInterval now params.interval params.intervalCount
  planId := params.planId

variable (subscription : Subscription)

/-- Source: `Subscription.dueAction` -/
def dueAction (now : Date) : DueAction :=
  if subscription.status = .CANCELED then .NONE
  else if now < subscription.currentPeriodEnd then .NONE
  else if subscription.cancelAtPeriodEnd then .CANCEL
  else if subscription.status = .PAST_DUE ∧ subscription.nextRetryAt.any (now < ·) then .NONE
  else .CHARGE

/-- Source: `Subscription.recordSuccessfulCharge` -/
def recordSuccessfulCharge : Subscription :=
  { subscription with
    currentPeriodStart := subscription.currentPeriodEnd
    currentPeriodEnd := addBillingInterval subscription.currentPeriodEnd subscription.interval
      subscription.intervalCount
    status := .ACTIVE
    failedAttempts := 0
    nextRetryAt := none
    lastDeclineCode := none
    lastDeclinePspProvider := none }

/-- Source: `Subscription.recordFailedCharge` -/
def recordFailedCharge (now : Date) (maxAttempts : Nat)
    (errorCode : Option String) (pspProvider : Option PSPProvider) : Subscription :=
  let failed := { subscription with
    failedAttempts := subscription.failedAttempts + 1
    lastDeclineCode := errorCode
    lastDeclinePspProvider := pspProvider }
  let isHardDecline := classifyDeclineCode errorCode pspProvider = .HARD_DECLINE
  if isHardDecline ∨ maxAttempts ≤ failed.failedAttempts then
    { failed with status := .CANCELED, canceledAt := some now, nextRetryAt := none }
  else
    let delayDays := retryScheduleDays.getD
      (min (failed.failedAttempts - 1) (retryScheduleDays.length - 1)) 0
    { failed with status := .PAST_DUE, nextRetryAt := some (now + delayDays * msPerDay) }

/-- Source: `Subscription.finalizeCancellation` -/
def finalizeCancellation (now : Date) : Subscription :=
  { subscription with status := .CANCELED, canceledAt := some now }

/-- Source: `Subscription.requestCancellation` -/
def requestCancellation (now : Date) (immediate : Bool) : Subscription :=
  if subscription.status = .CANCELED then subscription
  else if immediate then { subscription with status := .CANCELED, canceledAt := some now }
  else { subscription with cancelAtPeriodEnd := true }

/-! ### Plan changes and credits -/

/-- The currencies are compared before anything else.

Source: `Subscription.computeUpgradeProration` -/
def assertPlanCurrency (newAmount : Money) : Except AppError Unit :=
  if newAmount.currency.code = subscription.amount.currency.code then .ok ()
  else .error (.plain ("Cannot change to a plan in a different currency " ++
    s!"({subscription.amount.currency.code} -> {newAmount.currency.code})"))

/-- The part of the current period that is left.

Source: `Subscription.computeUpgradeProration` -/
def remainingFraction (now : Date) : Rat :=
  let totalMs : Int := subscription.currentPeriodEnd - subscription.currentPeriodStart
  let remainingMs : Int := max 0 (min totalMs (subscription.currentPeriodEnd - now))
  if 0 < totalMs then remainingMs / totalMs else 0

/-- What `dearer` costs more than `cheaper` for the rest of the period; `undefined` if nothing. -/
def difference (dearer cheaper : Money) (now : Date) : Except AppError (Option Money) := do
  let dearerValue ← dearer.multiply (subscription.remainingFraction now)
  let cheaperValue ← cheaper.multiply (subscription.remainingFraction now)
  if ← dearerValue.isGreaterThan cheaperValue then
    return some (← dearerValue.subtract cheaperValue)
  else return none

/-- Source: `Subscription.computeUpgradeProration` -/
def computeUpgradeProration (newAmount : Money) (now : Date) : Except AppError (Option Money) := do
  subscription.assertPlanCurrency newAmount
  subscription.difference newAmount subscription.amount now

/-- Source: `Subscription.computeDowngradeCredit` -/
def computeDowngradeCredit (newAmount : Money) (now : Date) : Except AppError (Option Money) := do
  subscription.assertPlanCurrency newAmount
  subscription.difference subscription.amount newAmount now

/-- Source: `Subscription.pendingCredit` -/
def pendingCredit : Option Money :=
  subscription.pendingCreditMinorUnits.map fun minorUnits =>
    ⟨minorUnits, subscription.amount.currency⟩

/-- Source: `Subscription.applyDowngradeCredit` -/
def applyDowngradeCredit (credit : Money) : Except AppError Subscription := do
  let total ← subscription.pendingCredit.elim (.ok credit) fun pending => pending.add credit
  .ok { subscription with pendingCreditMinorUnits := some total.amountMinorUnits }

/-- Source: `Subscription.amountDueThisPeriod` -/
def amountDueThisPeriod : Except AppError Money :=
  match subscription.pendingCredit with
  | none => .ok subscription.amount
  | some credit =>
    if credit.isZero then .ok subscription.amount
    else do
      if ← subscription.amount.isGreaterThan credit then subscription.amount.subtract credit
      else Money.zero subscription.amount.currency.code

/-- Source: `Subscription.consumeCredit` -/
def consumeCredit : Except AppError Subscription :=
  match subscription.pendingCredit with
  | none => .ok subscription
  | some credit =>
    if credit.isZero then .ok subscription
    else do
      let consumed :=
        if ← credit.isGreaterThan subscription.amount then subscription.amount else credit
      let remaining ← credit.subtract consumed
      .ok { subscription with
        pendingCreditMinorUnits :=
          if remaining.isZero then none else some remaining.amountMinorUnits }

lemma exists_consumeCredit : ∃ credit,
    subscription.consumeCredit = .ok { subscription with pendingCreditMinorUnits := credit } ∧
      credit.getD 0 =
        subscription.pendingCreditMinorUnits.getD 0 - subscription.amount.amountMinorUnits := by
  unfold consumeCredit
  cases hpending : subscription.pendingCreditMinorUnits with
  | none =>
    have hcredit : subscription.pendingCredit = none := by simp [pendingCredit, hpending]
    rw [hcredit]
    exact ⟨subscription.pendingCreditMinorUnits, rfl, by simp [hpending]⟩
  | some credit =>
    have hcredit : subscription.pendingCredit = some ⟨credit, subscription.amount.currency⟩ := by
      simp [pendingCredit, hpending]
    rw [hcredit]
    dsimp only [Option.getD_some]
    by_cases hzero : credit = 0
    · subst hzero
      exact ⟨subscription.pendingCreditMinorUnits, rfl, by simp [hpending]⟩
    · have hgreater : Money.isGreaterThan ⟨credit, subscription.amount.currency⟩
          subscription.amount = .ok (decide (subscription.amount.amountMinorUnits < credit)) :=
        Money.isGreaterThan_eq_ok.2 ⟨rfl, rfl⟩
      rw [if_neg (by simpa [Money.isZero] using hzero), hgreater]
      by_cases hlt : subscription.amount.amountMinorUnits < credit
      · have hsubtract : Money.subtract ⟨credit, subscription.amount.currency⟩
            subscription.amount = .ok ⟨credit - subscription.amount.amountMinorUnits,
              subscription.amount.currency⟩ :=
          Money.subtract_eq_ok.2 ⟨rfl, hlt.le, rfl⟩
        refine ⟨some (credit - subscription.amount.amountMinorUnits), ?_, rfl⟩
        simp only [bind, Except.bind, hlt, decide_true, if_true, hsubtract]
        rw [if_neg (by simp only [Money.isZero, beq_iff_eq]; omega)]
      · have hsubtract : Money.subtract ⟨credit, subscription.amount.currency⟩
            ⟨credit, subscription.amount.currency⟩ = .ok ⟨credit - credit,
              subscription.amount.currency⟩ :=
          Money.subtract_eq_ok.2 ⟨rfl, le_refl credit, rfl⟩
        refine ⟨none, ?_, ?_⟩
        · simp only [bind, Except.bind, hlt, decide_false, Bool.false_eq_true, if_false, hsubtract]
          rw [if_pos (by simp [Money.isZero])]
        · rw [Nat.sub_eq_zero_of_le (not_lt.1 hlt)]
          rfl

/-- Source: `Subscription.applyPlanChange` -/
def applyPlanChange (plan : Plan) : Subscription :=
  { subscription with
    planId := some plan.id
    amount := plan.amount
    interval := plan.interval
    intervalCount := plan.intervalCount }

end Subscription

end OmniSwitch
