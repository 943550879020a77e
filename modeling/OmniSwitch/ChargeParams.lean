import OmniSwitch.Ledger

/-!
# The parameters a charge is booked with

`charge-ledger-params-resolver.service.ts` and `tax-record.ts`.  The resolver turns the merchant's
fee, reserve and settlement configuration and the requested splits into the parameters of the
ledger event.  What it asks other services (the merchant directory, the month's volume, exchange
rates) is the argument `env`; a rate that could not be had is `none`.
-/

namespace OmniSwitch

open Lib

/-- Source: `MerchantEntity.accountType` -/
inductive MerchantAccountType where
  | PLATFORM | CONNECTED
  deriving DecidableEq, Repr

/-- Source: `MerchantEntity.feeTiers` -/
structure FeeTier where
  minVolumeMinorUnits : Nat
  bps : Nat
  deriving DecidableEq, Repr

/-- Source: `PayoutRail` -/
inductive PayoutRail where
  | STANDARD | INSTANT
  deriving DecidableEq, Repr

/-- Source: `MerchantEntity.kycStatus` -/
inductive KycStatus where
  | NOT_STARTED | PENDING_REVIEW | VERIFIED | REJECTED
  deriving DecidableEq, Repr

lemma noReserve_le : 0 ≤ 10000 := by decide

/-- The columns of a merchant that a charge or a payout reads.  The bound on the payout reserve is
checked wherever it is written.

Source: `MerchantEntity`; `CreateMerchantDto`, `UpdatePayoutReservePolicyDto` -/
structure Merchant where
  merchantId : String
  accountType : MerchantAccountType := .PLATFORM
  platformMerchantId : Option String := none
  platformFeeBps : Nat := 150
  feeTiers : Option (List FeeTier) := none
  reserveBps : Nat := 0
  reserveHoldDays : Nat := 0
  settlementCurrency : Option String := none
  enabledPspProviders : List PSPProvider := [.STRIPE, .ADYEN]
  payoutReserveBps : Nat := 0
  payoutReserveBps_le : payoutReserveBps ≤ 10000 := by decide
  payoutReserveHoldDays : Nat := 0
  payoutRail : PayoutRail := .STANDARD
  kycStatus : KycStatus := .NOT_STARTED
  deriving DecidableEq, Repr

/-- What the resolver learns from the services it calls. -/
structure ChargeEnv where
  findByMerchantId : String → Option Merchant
  /-- The month's succeeded volume, as `sumSucceededVolumeSince` answers it. -/
  volume : Nat
  /-- The rate and its provider between two currencies, `none` if the provider threw. -/
  getRate : String → String → Option (Rat × String)
  convertTo : Money.ConvertTo := Money.convertTo

/-- Source: `ChargeLedgerParams.reserveHold` -/
structure ReserveParams where
  amount : Money
  holdDays : Nat
  netAmount : Money
  deriving DecidableEq, Repr

/-- Source: `ChargeLedgerParams` -/
structure ChargeLedgerParams where
  platformFee : Money
  settlementConversion : Option AppliedConversion := none
  reserveHold : Option ReserveParams := none
  splits : Option (List ChargeSplit) := none
  enabledPspProviders : Option (List PSPProvider) := none
  deriving DecidableEq, Repr

/-- A split as the caller asks for it. -/
structure RequestedSplit where
  merchantId : String
  amount : Money
  deriving DecidableEq, Repr

namespace ChargeLedgerParamsResolver

/-- Source: `charge-ledger-params-resolver.service.ts` `DEFAULT_PLATFORM_FEE_BPS` -/
def defaultPlatformFeeBps : Nat := 150

/-- The scan of the tiers, which stops at the first threshold above the volume. -/
def tierBps (volume : Nat) (bps : Nat) : List FeeTier → Nat
  | [] => bps
  | tier :: tiers =>
    if tier.minVolumeMinorUnits ≤ volume then tierBps volume tier.bps tiers else bps

variable (env : ChargeEnv)

/-- Source: `charge-ledger-params-resolver.service.ts` `resolvePlatformFeeBps` -/
def resolvePlatformFeeBps (merchant : Option Merchant) : Nat :=
  match merchant with
  | none => defaultPlatformFeeBps
  | some merchant => tierBps env.volume merchant.platformFeeBps (merchant.feeTiers.getD [])

/-- The conversion of `amount` to a settlement currency that is set and differs from its own; a
rate that cannot be had, or a conversion that fails, leaves the amount unconverted.

Source: `charge-ledger-params-resolver.service.ts` `resolve` -/
def convert (amount : Money) (settlementCurrency : Option String) : Option AppliedConversion :=
  match truthy settlementCurrency with
  | none => none
  | some target =>
    if target = amount.currency.code then none
    else match env.getRate amount.currency.code target with
      | none => none
      | some (rate, provider) =>
        match env.convertTo amount target rate with
        | .ok convertedAmount => some ⟨convertedAmount, rate, provider⟩
        | .error _ => none

/-- Source: `charge-ledger-params-resolver.service.ts` `resolveSplitConversion` -/
def resolveSplitConversion (recipientMerchantId : String) (splitAmount : Money) :
    Option AppliedConversion :=
  convert env splitAmount
    ((env.findByMerchantId recipientMerchantId).bind Merchant.settlementCurrency)

/-- Source: `charge-ledger-params-resolver.service.ts` `resolve` -/
def isActiveRecipient (merchantId recipientMerchantId : String) : Bool :=
  match env.findByMerchantId recipientMerchantId with
  | none => false
  | some recipient =>
    recipient.accountType == .CONNECTED && recipient.platformMerchantId == some merchantId

/-- The loop that checks each recipient and adds up the splits.

Source: `charge-ledger-params-resolver.service.ts` `resolve` -/
def splitTotal (env : ChargeEnv) (merchantId : String) (total : Money) :
    List RequestedSplit → Except AppError Money
  | [] => .ok total
  | split :: splits => do
      if isActiveRecipient env merchantId split.merchantId then
        let total ← total.add split.amount
        splitTotal env merchantId total splits
      else
        .error (.http 422
          s!"{split.merchantId} is not an active connected account of {merchantId}"
          "SPLIT_RECIPIENT_INVALID")

/-- The splits' part of the parameters, and what they leave of the payout.

Source: `charge-ledger-params-resolver.service.ts` `resolve` -/
def resolveSplits (merchantId : String) (payoutAmount : Money)
    (requestedSplits : List RequestedSplit) :
    Except AppError (Option (List ChargeSplit) × Money) := do
  if requestedSplits.isEmpty then .ok (none, payoutAmount)
  else
    let zero ← Money.zero payoutAmount.currency.code
    let total ← splitTotal env merchantId zero requestedSplits
    if ← total.isGreaterThan payoutAmount then
      .error (.http 422 (s!"Split total {total.toString} exceeds the net payout amount " ++
        payoutAmount.toString) "SPLIT_EXCEEDS_NET_AMOUNT")
    else
      let remainder ← payoutAmount.subtract total
      .ok (some (requestedSplits.map fun split =>
        ⟨split.merchantId, split.amount,
          resolveSplitConversion env split.merchantId split.amount⟩), remainder)

/-- The reserve withheld from the net amount, and the payout it leaves.

Source: `charge-ledger-params-resolver.service.ts` `resolve` -/
def resolveReserve (merchant : Option Merchant) (netAmount : Money) :
    Except AppError (Option ReserveParams × Money) :=
  match merchant with
  | none => .ok (none, netAmount)
  | some merchant =>
    if merchant.reserveBps = 0 then .ok (none, netAmount)
    else do
      let reserveAmount ← netAmount.multiply (merchant.reserveBps / 10000)
      let payoutAmount ← netAmount.subtract reserveAmount
      .ok (some ⟨reserveAmount, merchant.reserveHoldDays, netAmount⟩, payoutAmount)

/-- Source: `charge-ledger-params-resolver.service.ts` `resolve` -/
def resolve (merchantId : String) (amount : Money)
    (requestedSplits : List RequestedSplit) : Except AppError ChargeLedgerParams := do
  let merchant := env.findByMerchantId merchantId
  let platformFee ← amount.multiply (resolvePlatformFeeBps env merchant / 10000)
  let netAmount ← amount.subtract platformFee
  let (reserveHold, payoutAmount) ← resolveReserve merchant netAmount
  let (splits, remainderAmount) ← resolveSplits env merchantId payoutAmount requestedSplits
  .ok {
    platformFee, reserveHold, splits
    settlementConversion := convert env remainderAmount (merchant.bind Merchant.settlementCurrency)
    enabledPspProviders := merchant.map Merchant.enabledPspProviders }

end ChargeLedgerParamsResolver

/-- Source: `charge-ledger-params-resolver.service.ts` `toPaymentSplits` -/
def toPaymentSplits (splits : List ChargeSplit) : List PaymentSplit :=
  splits.map fun split =>
    ⟨split.merchantId, split.amount, split.settlementConversion.map fun conversion =>
      ⟨conversion.convertedAmount.currency.code, conversion.rate, conversion.provider⟩⟩

/-- Source: `tax-record.ts` `buildCrossBorderTaxRecord` -/
def buildCrossBorderTaxRecord (amount : Money) (binInfo : Option BinInfo) (now : Date) :
    Option TaxRecord :=
  binInfo.map fun bin =>
    ⟨bin.country, amount.amountMinorUnits, amount.currency.code, now⟩

namespace PaymentAggregate

/-- What every booking of a charge of `amount` records when the payout was converted: the rate
and, if the card is known, the tax record.

Source: `webhook-processing.service.ts` `markSucceeded` -/
def recordConversion (p : PaymentAggregate) (amount : Money) (params : ChargeLedgerParams)
    (now : Date) : PaymentAggregate :=
  match params.settlementConversion with
  | none => p
  | some conversion =>
    let p := p.recordSettlementConversion
      ⟨conversion.convertedAmount.currency.code, conversion.rate, conversion.provider⟩
    match buildCrossBorderTaxRecord amount p.binInfo now with
    | some record => p.recordTaxRecord record
    | none => p

/-- The splits as booked replace those recorded at request time.

Source: `webhook-processing.service.ts` `markSucceeded` -/
def finalizeSplits (p : PaymentAggregate) (params : ChargeLedgerParams) : PaymentAggregate :=
  match params.splits with
  | some (split :: splits) => p.finalizeSplitConversions (toPaymentSplits (split :: splits))
  | _ => p

lemma recordConversion_sameRecords (p : PaymentAggregate) (amount : Money)
    (params : ChargeLedgerParams) (now : Date) :
    SameRecords p (p.recordConversion amount params now) ∧
      (p.recordConversion amount params now).status = p.status := by
  unfold recordConversion
  split
  · exact ⟨SameRecords.refl p, rfl⟩
  · dsimp only
    split <;> exact ⟨⟨rfl, rfl, rfl, rfl, rfl⟩, rfl⟩

lemma finalizeSplits_sameRecords (p : PaymentAggregate) (params : ChargeLedgerParams) :
    SameRecords p (p.finalizeSplits params) ∧ (p.finalizeSplits params).status = p.status := by
  unfold finalizeSplits
  split <;> exact ⟨⟨rfl, rfl, rfl, rfl, rfl⟩, rfl⟩

end PaymentAggregate

end OmniSwitch
