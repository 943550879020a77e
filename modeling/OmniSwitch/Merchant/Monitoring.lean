import OmniSwitch.Merchant.Service
import OmniSwitch.Subscription

/-!
# Automatic flags of a merchant

`ambiguous-risk-monitoring.service.ts` and `aml-review-monitoring.service.ts`: the evaluations that
follow a charge.  Each looks at its own copy of the merchant, asks the payments, and has the
merchant service set the flag, which reads the row again.  What the payments come to is an argument;
the notifications that follow are left out.
-/

namespace OmniSwitch

open MerchantService

/-- The merchant, if it is active.

Source: `MerchantService.findByMerchantId` -/
def MerchantService.findByMerchantId (merchantId : String) :
    MerchantProg (Option MerchantEntity) := do
  let merchant ← findMerchantOnMaster (.merchantId merchantId)
  pure (merchant.filter (·.isActive))

/-! ### Ambiguous outcomes -/

namespace AmbiguousRiskMonitoringService

/-- The settings, and what the payments come to.

Source: `AmbiguousRiskMonitoringService` -/
structure Evaluation where
  merchantId : String
  now : Date
  dailyCount : Except AppError Nat
  recent : Except AppError (List Bool)
  dailyThreshold : Nat := 100
  consecutiveThreshold : Nat := 5

/-- A further incident of a flagged merchant only renews the flag.

Source: `AmbiguousRiskMonitoringService.evaluate` -/
def evaluate (evaluation : Evaluation) : MerchantProg Unit := do
  let merchant ← findByMerchantId evaluation.merchantId
  match merchant.filter (·.ambiguousRisk.autoManaged) with
  | none => pure ()
  | some merchant =>
    let flag := applyAutoAmbiguousRiskFlag { now := evaluation.now } evaluation.merchantId true
    if merchant.ambiguousRisk.value then
      discard (flag (merchant.ambiguousRisk.reason.toOption.getD
        "Repeated AMBIGUOUS incident while already flagged"))
    else
      let dailyCount ← evaluation.dailyCount
      if dailyCount > evaluation.dailyThreshold then
        discard (flag (toString dailyCount ++
          " AMBIGUOUS incidents in the trailing 24 hours (threshold: " ++
          toString evaluation.dailyThreshold ++ ")"))
      else
        let recent ← evaluation.recent
        if recent.length = evaluation.consecutiveThreshold ∧ recent.all id then
          discard (flag ("last " ++ toString evaluation.consecutiveThreshold ++
            " consecutive payments were all AMBIGUOUS"))
        else pure ()

end AmbiguousRiskMonitoringService

/-! ### Hard declines -/

namespace AmlReviewMonitoringService

/-- The decline, the settings, and what the payments come to.

Source: `AmlReviewMonitoringService` -/
structure Evaluation where
  merchantId : String
  now : Date
  errorCode : Option String
  pspProvider : Option PSPProvider
  hardDeclineCount : Except AppError Nat
  threshold : Nat := 5
  windowDays : Nat := 30

/-- Only merchants of risky industries are watched, and only hard declines count.

Source: `AmlReviewMonitoringService.evaluate` -/
def evaluate (evaluation : Evaluation) : MerchantProg Unit := do
  if classifyDeclineCode evaluation.errorCode evaluation.pspProvider ≠ .HARD_DECLINE then pure ()
  else
    let merchant ← findByMerchantId evaluation.merchantId
    let watched := merchant.filter fun merchant =>
      merchant.industryRiskCategory = .HIGH && merchant.amlReview.autoManaged
    match watched with
    | none => pure ()
    | some merchant =>
      let flag := applyAutoAmlReviewFlag { now := evaluation.now } evaluation.merchantId true
      if merchant.amlReview.value then
        discard (flag (merchant.amlReview.reason.toOption.getD
          "Repeated hard-decline while already flagged for AML review"))
      else
        let hardDeclineCount ← evaluation.hardDeclineCount
        if hardDeclineCount < evaluation.threshold then pure ()
        else
          discard (flag (toString hardDeclineCount ++ " hard-declines in the trailing " ++
            toString evaluation.windowDays ++ " days (threshold: " ++
            toString evaluation.threshold ++ ")"))

end AmlReviewMonitoringService

end OmniSwitch
