import OmniSwitch.ChargeParams

/-!
# The merchant's row

`merchant.entity.ts`: the columns that the merchant service, the MFA service and the monitoring
services read or write.  The columns of one kind that come several times (a notification route, a
flag with its origin) are one structure each.

TypeORM's `save` writes every property of the entity but those that are `undefined`, so the columns
that some operation sets to `undefined` are of type `Column`; `MerchantEntity.mergedInto` is the row
after a save.
-/

namespace OmniSwitch

open Lib

/-! ### Columns -/

/-- A property that may be `undefined` in memory, which is not the same as a `NULL` column.

Source: `MerchantService.updateSettlementCurrency` -/
inductive Column (α : Type) where
  | undefined | null
  | value (a : α)
  deriving DecidableEq, Repr

namespace Column

variable {α : Type}

/-- What a save leaves in a column. -/
def mergedInto : Column α → Column α → Column α
  | undefined, old => old
  | new, _ => new

/-- The value, if there is one. -/
def toOption : Column α → Option α
  | value a => some a
  | _ => none

end Column

/-- Source: `MerchantEntity.disputeNotificationChannel` -/
inductive NotificationChannel where
  | EMAIL | SLACK | WEBHOOK
  deriving DecidableEq, Repr

/-- A notification channel and its target.

Source: `MerchantEntity` -/
structure NotificationRoute where
  channel : NotificationChannel := .WEBHOOK
  target : Option String := none
  deriving DecidableEq, Repr

/-- A risk flag or tier, with when, why and by whom it was set, and whether it is managed
automatically.

Source: `MerchantEntity` -/
structure RiskFlag (τ : Type) where
  value : τ
  flaggedAt : Column Date := .null
  reason : Column String := .null
  flaggedBy : Column String := .null
  autoManaged : Bool := true

namespace RiskFlag

variable {τ : Type}

/-- What a save leaves of a flag. -/
def mergedInto (new old : RiskFlag τ) : RiskFlag τ :=
  { new with
    flaggedAt := new.flaggedAt.mergedInto old.flaggedAt
    reason := new.reason.mergedInto old.reason
    flaggedBy := new.flaggedBy.mergedInto old.flaggedBy }

/-- An automatic setting, which keeps the time and the reason of a flag that `stands`.

Source: `MerchantService.applyAutoAmbiguousRiskFlag` -/
def applyAuto (flag : RiskFlag τ) (value : τ) (stands : Bool) (reason : String) (now : Date) :
    RiskFlag τ :=
  { flag with
    value
    flaggedAt := if stands then .value now else .undefined
    reason := if stands then .value reason else .undefined
    flaggedBy := .undefined }

/-- An operator's setting, which ends automatic management.

Source: `MerchantService.setAmbiguousRiskFlagManual` -/
def setManual (flag : RiskFlag τ) (value : τ) (stands : Bool) (reason flaggedBy : String)
    (now : Date) : RiskFlag τ :=
  { flag with
    value
    flaggedAt := if stands then .value now else .undefined
    reason := .value reason
    flaggedBy := .value flaggedBy
    autoManaged := false }

end RiskFlag

/-- Source: `ChargebackMonitoringTier` -/
inductive ChargebackMonitoringTier where
  | NONE | MONITORING | EXCESSIVE
  deriving DecidableEq, Repr

/-- Source: `IndustryRiskCategory` -/
inductive IndustryRiskCategory where
  | LOW | MEDIUM | HIGH | UNKNOWN
  deriving DecidableEq, Repr

/-- Source: `mcc-risk-lookup.ts` `MCC_RISK_TABLE` -/
def mccRiskTable : List (String × IndustryRiskCategory) :=
  [("7995", .HIGH), ("7273", .HIGH), ("5967", .HIGH), ("6051", .HIGH), ("4829", .HIGH),
    ("5933", .HIGH), ("7841", .HIGH), ("5816", .HIGH), ("5122", .MEDIUM), ("4411", .MEDIUM),
    ("4511", .MEDIUM), ("7011", .MEDIUM), ("5912", .LOW), ("5411", .LOW), ("5812", .LOW),
    ("5311", .LOW), ("5651", .LOW), ("8011", .LOW), ("8021", .LOW)]

/-- Source: `mcc-risk-lookup.ts` `lookupIndustryRiskCategory` -/
def lookupIndustryRiskCategory (mccCode : Option String) : IndustryRiskCategory :=
  match truthy mccCode with
  | none => .UNKNOWN
  | some code => (mccRiskTable.lookup code).getD .UNKNOWN

/-- A tier of the volume-based fee schedule, as it is stored.

Source: `MerchantEntity.feeTiers` -/
structure FeeTierEntry where
  minVolumeMinorUnits : String
  bps : Nat
  deriving DecidableEq, Repr

/-- Source: `MerchantEntity.kycStatus`, `kycLegalName`, `kycTaxId`, `kycApplicationId` -/
structure KycApplication where
  status : KycStatus := .NOT_STARTED
  legalName : Option String := none
  taxId : Option String := none
  applicationId : Option String := none
  deriving DecidableEq, Repr

/-- Source: `BeneficialOwner` -/
structure BeneficialOwner where
  name : String
  ownershipPercentage : Rat
  deriving DecidableEq, Repr

/-- Source: `MerchantEntity.kybStatus`, `kybLegalName`, `kybTaxId`, `kybCountry`,
`kybBeneficialOwners`, `kybApplicationId` -/
structure KybApplication extends KycApplication where
  country : Option String := none
  beneficialOwners : Option (List BeneficialOwner) := none
  deriving DecidableEq, Repr

/-- Source: `SanctionsScreeningStatus` -/
inductive SanctionsScreeningStatus where
  | CLEAR | POTENTIAL_MATCH | HIT
  deriving DecidableEq, Repr

/-- Source: `SanctionsScreeningOutcome.confidence` -/
inductive ScreeningConfidence where
  | FULL | DEGRADED
  deriving DecidableEq, Repr

/-- Source: `MerchantEntity.sanctionsReviewResolution` -/
inductive SanctionsReviewResolution where
  | CLEARED | CONFIRMED
  deriving DecidableEq, Repr

/-- The columns of sanctions screening; a merchant without a status is `NOT_SCREENED`.

Source: `MerchantEntity.sanctionsScreeningStatus`, `sanctionsScreeningConfidence`,
`sanctionsScreenedAt`, `sanctionsMatchDetails`, `sanctionsReviewedBy`, `sanctionsReviewedAt`,
`sanctionsReviewResolution` -/
structure SanctionsRecord where
  screeningStatus : Option SanctionsScreeningStatus := none
  screeningConfidence : Option ScreeningConfidence := none
  screenedAt : Option Date := none
  matchDetails : Option String := none
  reviewedBy : Option String := none
  reviewedAt : Option Date := none
  reviewResolution : Option SanctionsReviewResolution := none
  deriving DecidableEq, Repr

/-- Source: `match-reason-code.ts` `MATCH_REASON_CODE_LABELS` -/
inductive MatchReasonCode where
  | Laundering | ExcessiveChargebacks | FraudConviction | Bankrupt | MerchantCollusion
  | IllegalTransactions
  deriving DecidableEq, Repr

/-- Source: `MerchantEntity.matchTerminatedForCause`, `matchReasonCode`, `matchReason`,
`matchTerminatedBy`, `matchTerminatedAt`, `matchReportedAt`, `matchReportId` -/
structure MatchRecord where
  terminatedForCause : Bool := false
  reasonCode : Option MatchReasonCode := none
  reason : Option String := none
  terminatedBy : Option String := none
  terminatedAt : Option Date := none
  reportedAt : Option Date := none
  reportId : Option String := none
  deriving DecidableEq, Repr

/-! ### The entity -/

/-- A merchant's row, and the copies that the operations make of it.  The identifiers, the roles and
the time of the last update, which no operation changes or reads, are left out. -/
structure MerchantEntity where
  merchantId : String
  name : String
  apiKeySecretHash : String
  hmacSecretCiphertext : String
  isActive : Bool := true
  platformFeeBps : Nat := 150
  feeTiers : Option (List FeeTierEntry) := none
  mfaSecretCiphertext : Option String := none
  mfaEnabled : Bool := false
  mfaBackupCodeHashes : List String := []
  settlementCurrency : Option String := none
  reserveBps : Nat := 0
  reserveHoldDays : Nat := 0
  riskTierAutoManaged : Bool := true
  mccCode : Option String := none
  industryRiskCategory : IndustryRiskCategory := .UNKNOWN
  accountType : MerchantAccountType := .PLATFORM
  platformMerchantId : Option String := none
  payoutReserveBps : Nat := 0
  payoutReserveHoldDays : Nat := 0
  payoutRail : PayoutRail := .STANDARD
  kyc : KycApplication := {}
  kyb : KybApplication := {}
  disputeNotification : NotificationRoute := {}
  subscriptionNotification : NotificationRoute := {}
  enabledPspProviders : List PSPProvider := [.STRIPE, .ADYEN]
  ambiguousRisk : RiskFlag Bool := { value := false }
  amlReview : RiskFlag Bool := { value := false }
  amlReviewNotification : NotificationRoute := {}
  chargebackMonitoring : RiskFlag ChargebackMonitoringTier := { value := .NONE }
  chargebackMonitoringNotification : NotificationRoute := {}
  legalName : Option String := none
  taxId : Option String := none
  country : Option String := none
  sanctions : SanctionsRecord := {}
  sanctionsNotification : NotificationRoute := {}
  termination : MatchRecord := {}
  createdAt : Date := 0

/-- What a merchant's security rests on. -/
structure Security where
  isActive : Bool
  terminatedForCause : Bool
  apiKeySecretHash : String
  hmacSecretCiphertext : String
  mfaEnabled : Bool
  mfaSecretCiphertext : Option String
  deriving DecidableEq, Repr

/-- A setting and whether it is managed automatically. -/
structure Managed (τ : Type) where
  value : τ
  autoManaged : Bool
  deriving DecidableEq, Repr

/-- What the monitoring services manage: the reserve policy, the two flags and the tier. -/
structure RiskSettings where
  reserve : Managed (Nat × Nat)
  ambiguousRisk : Managed Bool
  amlReview : Managed Bool
  chargebackMonitoring : Managed ChargebackMonitoringTier
  deriving DecidableEq, Repr

/-- The flag and who manages it. -/
def RiskFlag.managed {τ : Type} (flag : RiskFlag τ) : Managed τ := ⟨flag.value, flag.autoManaged⟩

namespace MerchantEntity

/-- The row after a copy of it has been saved.

Source: `MerchantService.updateSettlementCurrency` -/
def mergedInto (copy row : MerchantEntity) : MerchantEntity :=
  { copy with
    ambiguousRisk := copy.ambiguousRisk.mergedInto row.ambiguousRisk
    amlReview := copy.amlReview.mergedInto row.amlReview
    chargebackMonitoring := copy.chargebackMonitoring.mergedInto row.chargebackMonitoring }

/-- What security rests on in a row. -/
def security (merchant : MerchantEntity) : Security :=
  ⟨merchant.isActive, merchant.termination.terminatedForCause, merchant.apiKeySecretHash,
    merchant.hmacSecretCiphertext, merchant.mfaEnabled, merchant.mfaSecretCiphertext⟩

/-- The risk settings of a row. -/
def risk (merchant : MerchantEntity) : RiskSettings where
  reserve := ⟨(merchant.reserveBps, merchant.reserveHoldDays), merchant.riskTierAutoManaged⟩
  ambiguousRisk := merchant.ambiguousRisk.managed
  amlReview := merchant.amlReview.managed
  chargebackMonitoring := merchant.chargebackMonitoring.managed

variable (copy row : MerchantEntity)

@[simp] lemma merchantId_mergedInto : (copy.mergedInto row).merchantId = copy.merchantId := rfl

end MerchantEntity

end OmniSwitch
