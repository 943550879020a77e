import OmniSwitch.Money

/-!
# Card data, interchange and SCA exemptions

`bin-info.vo.ts`, `interchange-rate-table.ts`, `interchange-qualification.ts` and
`sca-exemption.ts`: what is known of the card from its BIN, the interchange category a captured
charge falls into, and the SCA exemption a charge may claim.  Their results are recorded on the
payment and decide nothing in its life cycle.
-/

namespace OmniSwitch

/-- Source: `bin-info.vo.ts` `CardBrand` -/
inductive CardBrand where
  | VISA | MASTERCARD | AMEX | DISCOVER | JCB | UNIONPAY | DINERS | UNKNOWN
  deriving DecidableEq, Repr

/-- Source: `bin-info.vo.ts` `CardType` -/
inductive CardType where
  | CREDIT | DEBIT | PREPAID | UNKNOWN
  deriving DecidableEq, Repr

/-- Source: `bin-info.vo.ts` `CardProduct` -/
inductive CardProduct where
  | CONSUMER | CONSUMER_REWARDS | COMMERCIAL
  deriving DecidableEq, Repr

/-- What the first digits of a card number tell. -/
structure BinInfo where
  bin : String
  country : String
  cardBrand : CardBrand
  cardType : CardType
  cardProduct : CardProduct := .CONSUMER
  issuingBank : Option String := none
  deriving DecidableEq, Repr

namespace BinInfo

/-- The card was issued where PSD2 applies. -/
def isEuropean (b : BinInfo) : Bool :=
  ["AT", "BE", "BG", "CY", "CZ", "DE", "DK", "EE", "ES", "FI", "FR", "GR", "HR", "HU", "IE",
    "IT", "LT", "LU", "LV", "MT", "NL", "PL", "PT", "RO", "SE", "SI", "SK", "GB"].contains
      b.country

/-- Source: `BinInfo.requiresSCA` -/
def requiresSCA (b : BinInfo) : Bool := b.isEuropean

end BinInfo

/-! ### Interchange -/

/-- The outcome of the address check. -/
inductive AvsResult where
  | MATCH | PARTIAL | NO_MATCH | UNAVAILABLE
  deriving DecidableEq, Repr

/-- The outcome of the check of the security code. -/
inductive CvvResult where
  | MATCH | NO_MATCH | UNAVAILABLE
  deriving DecidableEq, Repr

/-- A rate of the table: basis points and a fixed part. -/
structure InterchangeRate where
  bps : Nat
  fixedMinorUnits : Nat
  deriving DecidableEq, Repr

/-- The rate table, the flat rates of two brands and the default for the rest.

Source: `interchange-rate-table.ts` `lookupInterchangeRate` -/
def lookupInterchangeRate : CardBrand → CardProduct → InterchangeRate
  | .VISA, .CONSUMER => ⟨180, 10⟩
  | .VISA, .CONSUMER_REWARDS => ⟨210, 10⟩
  | .VISA, .COMMERCIAL => ⟨250, 10⟩
  | .MASTERCARD, .CONSUMER => ⟨175, 10⟩
  | .MASTERCARD, .CONSUMER_REWARDS => ⟨205, 10⟩
  | .MASTERCARD, .COMMERCIAL => ⟨245, 10⟩
  | .AMEX, _ => ⟨250, 10⟩
  | .DISCOVER, _ => ⟨175, 10⟩
  | _, _ => ⟨300, 10⟩

/-- Source: `interchange-rate-table.ts` `DOWNGRADE_SURCHARGE_BPS` -/
def downgradeSurchargeBps : Nat := 80

/-- Source: `interchange-qualification.ts` `SETTLEMENT_WINDOW_HOURS` -/
def settlementWindowHours : Nat := 48

/-- Why a charge misses its interchange category. -/
inductive InterchangeDowngradeReason where
  | AVS_NOT_MATCHED | CVV_NOT_MATCHED | NO_AVS_CVV_DATA | LATE_SETTLEMENT
  deriving DecidableEq, Repr

/-- The category a charge qualified for, and what is applied to it. -/
structure InterchangeQualificationResult where
  cardBrand : CardBrand
  cardProduct : CardProduct
  qualifiedBps : Nat
  qualifiedFixedMinorUnits : Nat
  downgraded : Bool
  downgradeReasons : List InterchangeDowngradeReason
  appliedBps : Nat
  appliedFixedMinorUnits : Nat
  deriving DecidableEq, Repr

/-- Source: `interchange-qualification.ts` `evaluateInterchangeQualification` -/
def evaluateInterchangeQualification (cardBrand : CardBrand) (cardProduct : CardProduct)
    (avsResult : Option AvsResult) (cvvResult : Option CvvResult) (settlementDelayHours : Rat) :
    InterchangeQualificationResult :=
  let rate := lookupInterchangeRate cardBrand cardProduct
  let checks : List InterchangeDowngradeReason :=
    if avsResult.isNone && cvvResult.isNone then [.NO_AVS_CVV_DATA]
    else
      (if avsResult.any (· != .MATCH) then [.AVS_NOT_MATCHED] else []) ++
        (if cvvResult.any (· != .MATCH) then [.CVV_NOT_MATCHED] else [])
  let reasons : List InterchangeDowngradeReason := checks ++
    (if settlementDelayHours > settlementWindowHours then [.LATE_SETTLEMENT] else [])
  let downgraded := decide (reasons.length > 0)
  { cardBrand
    cardProduct
    qualifiedBps := rate.bps
    qualifiedFixedMinorUnits := rate.fixedMinorUnits
    downgraded
    downgradeReasons := reasons
    appliedBps := if downgraded then rate.bps + downgradeSurchargeBps else rate.bps
    appliedFixedMinorUnits := rate.fixedMinorUnits }

/-! ### SCA exemptions -/

/-- Source: `sca-exemption.ts` `ScaExemptionType` -/
inductive ScaExemptionType where
  | LOW_VALUE | TRANSACTION_RISK_ANALYSIS | MIT
  deriving DecidableEq, Repr

/-- The exemption a charge may claim, if any, and why. -/
structure ScaExemptionEligibility where
  exemption : Option ScaExemptionType
  reason : String
  deriving DecidableEq, Repr

/-- Source: `sca-exemption.ts` `LOW_VALUE_EXEMPTION_STREAK_CAP` -/
def lowValueExemptionStreakCap : Nat := 5

/-- The thresholds are 30 and 250 major units and a risk score of 30.

Source: `sca-exemption.ts` `evaluateScaExemption` -/
def evaluateScaExemption (amount : Money) (riskScore : Nat) (isMitRenewal isEuropean : Bool)
    (lowValueStreakCount : Nat) : ScaExemptionEligibility :=
  if isMitRenewal then
    ⟨some .MIT,
      "Merchant-initiated recurring charge — cardholder not present for this specific charge"⟩
  else if !isEuropean then
    ⟨none, "Not a European card — the PSD2 SCA exemption question does not apply"⟩
  else if amount.amount < 30 then
    if lowValueStreakCount < lowValueExemptionStreakCap then
      ⟨some .LOW_VALUE, "Amount under the low-value threshold, consecutive exemption count " ++
        s!"({lowValueStreakCount}) under the cap ({lowValueExemptionStreakCap})"⟩
    else
      ⟨none, "Amount under the low-value threshold, but the consecutive exemption count " ++
        s!"({lowValueStreakCount}) already reached the cap ({lowValueExemptionStreakCap}) " ++
        "— a fresh challenge is due"⟩
  else if amount.amount < 250 ∧ riskScore ≤ 30 then
    ⟨some .TRANSACTION_RISK_ANALYSIS, "Amount under the TRA cap and risk score " ++
      s!"({riskScore}) at or under the TRA threshold (30)"⟩
  else
    ⟨none, "No exemption criteria met — a real SCA challenge is expected"⟩

end OmniSwitch
