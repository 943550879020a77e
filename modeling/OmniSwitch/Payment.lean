import OmniSwitch.PaymentStatus
import OmniSwitch.Card

/-!
# The payment aggregate

`payment.aggregate.ts`: the payment with its captures and refunds, and the methods that change
it.  A method that throws returns an error and no payment, since every caller drops the
in-memory payment when the call fails.  The clock is the argument `now`.

Main results:

* `transition_ok`, `recordCapture_ok`, `refund_ok`: when a method succeeds, and what it leaves.
-/

namespace OmniSwitch

open Lib

/-- Source: `payment.aggregate.ts` `PSPProvider` -/
inductive PSPProvider where
  | STRIPE | ADYEN | PAYPAL | CHASE
  deriving DecidableEq, Repr

/-- The provider's name, as it appears in messages. -/
protected def PSPProvider.toString : PSPProvider → String
  | STRIPE => "STRIPE"
  | ADYEN => "ADYEN"
  | PAYPAL => "PAYPAL"
  | CHASE => "CHASE"

instance : ToString PSPProvider := ⟨PSPProvider.toString⟩

/-- Source: `PaymentInitiator` -/
inductive PaymentInitiator where
  | human | agent
  deriving DecidableEq, Repr

/-- Source: `RefundRecord` -/
structure RefundRecord where
  refundId : String
  amount : Money
  reason : String
  createdAt : Date
  pspRefundId : Option String := none
  deriving DecidableEq, Repr

/-- Source: `CaptureRecord` -/
structure CaptureRecord where
  captureId : String
  amount : Money
  createdAt : Date
  pspCaptureId : Option String := none
  deriving DecidableEq, Repr

/-- Source: `SettlementConversion` -/
structure SettlementConversion where
  currency : String
  rate : Rat
  provider : String
  deriving DecidableEq, Repr

/-- Source: `TaxRecord` -/
structure TaxRecord where
  jurisdiction : String
  collectedAmountMinorUnits : Nat
  currencyCode : String
  capturedAt : Date
  deriving DecidableEq, Repr

/-- Source: `PspRiskSignal.riskLevel` -/
inductive PspRiskLevel where
  | normal | elevated | highest
  deriving DecidableEq, Repr

/-- Source: `PspRiskSignal` -/
structure PspRiskSignal where
  riskLevel : Option PspRiskLevel
  riskScore : Option Rat
  deriving DecidableEq, Repr

/-- Source: `PaymentSplit` -/
structure PaymentSplit where
  merchantId : String
  amount : Money
  settlementConversion : Option SettlementConversion := none
  deriving DecidableEq, Repr

/-- Source: `payment.aggregate.ts` `paymentMethodType` -/
inductive PaymentMethodType where
  | card | wallet
  deriving DecidableEq, Repr

/-- What a PSP's answer to an authorisation adds to the payment besides the transaction id: the
optional arguments that `markSucceeded` and `requiresCapture` share.

Source: `PaymentAggregate.markSucceeded` -/
structure AuthorizationDetails where
  pspRawResponse : Option String := none
  pspRiskSignal : Option PspRiskSignal := none
  avsResult : Option AvsResult := none
  cvvResult : Option CvvResult := none
  scaExemptionIndicator : Option ScaExemptionType := none
  networkTokenized : Option Bool := none
  paymentMethodType : Option PaymentMethodType := none
  deriving DecidableEq, Repr

/-- The outcome of a dispute.

Source: `Dispute.resolve` -/
inductive DisputeOutcome where
  | WON | LOST
  deriving DecidableEq, Repr

/-- A JavaScript string that is absent or empty is falsy. -/
def truthy (s : Option String) : Option String := s.filter (· != "")

/-- A property that may be `undefined` or `null`.  The two read alike, but a save keeps the
stored column for `undefined` and clears it for `null`; a nullable column that is empty in the
row is loaded as `null`.

Source: `PaymentMapper` -/
inductive Nullable (α : Type) where
  | undefined
  | null
  | value (a : α)
  deriving DecidableEq, Repr

namespace Nullable

variable {α : Type}

/-- The value, if there is one. -/
def toOption : Nullable α → Option α
  | value a => some a
  | _ => none

/-- A value, or none. -/
def ofOption : Option α → Nullable α
  | some a => value a
  | none => undefined

/-- The field is set, if there is a value. -/
def set (field : Nullable α) : Option α → Nullable α
  | some a => value a
  | none => field

/-- The field is set, unless it is. -/
def setOnce (field : Nullable α) (a : α) : Nullable α :=
  match field with
  | value b => value b
  | _ => value a

end Nullable

/-- The payment aggregate.  Of the metadata only the merchant is read by the modelled code. -/
structure PaymentAggregate where
  id : String
  amount : Money
  status : PaymentStatus
  idempotencyKey : String
  merchantId : String
  binInfo : Option BinInfo := none
  pspProvider : Nullable PSPProvider := .undefined
  pspTransactionId : Nullable String := .undefined
  pspRawResponse : Nullable String := .undefined
  riskScore : Nullable Nat := .undefined
  pspRiskSignal : Nullable PspRiskSignal := .undefined
  /-- `threeDSResult.authenticated`. -/
  threeDSAuthenticated : Nullable Bool := .undefined
  refunds : List RefundRecord := []
  captures : List CaptureRecord := []
  failureReason : Nullable String := .undefined
  failureCode : Nullable String := .undefined
  createdAt : Date
  settlementConversion : Option SettlementConversion := none
  splits : Option (List PaymentSplit) := none
  ambiguousResolvedBy : Nullable String := .undefined
  ambiguousResolvedReason : Nullable String := .undefined
  ambiguousResolvedAt : Nullable Date := .undefined
  ambiguousAutoRetryCount : Nat := 0
  taxRecord : Option TaxRecord := none
  delegationId : Option String := none
  initiatedBy : PaymentInitiator := .human
  avsResult : Nullable AvsResult := .undefined
  cvvResult : Nullable CvvResult := .undefined
  interchangeQualification : Nullable InterchangeQualificationResult := .undefined
  scaExemptionRequested : Nullable ScaExemptionType := .undefined
  scaExemptionReason : Option String := none
  scaExemptionIndicator : Nullable ScaExemptionType := .undefined
  networkTokenized : Option Bool := none
  paymentMethodType : Nullable PaymentMethodType := .undefined

namespace PaymentAggregate

/-- Source: `PaymentAggregate.create` -/
def create (id : String) (amount : Money) (idempotencyKey merchantId : String)
    (binInfo : Option BinInfo) (delegationId : Option String)
    (initiatedBy : Option PaymentInitiator) (now : Date) : PaymentAggregate :=
  { id, amount, status := .PENDING, idempotencyKey, merchantId, binInfo, delegationId
    initiatedBy := initiatedBy.getD .human, createdAt := now }

/-! ### Totals -/

variable (p : PaymentAggregate)

/-- Source: `PaymentAggregate.totalRefunded` -/
def totalRefunded : Except AppError Money :=
  Money.sum p.amount.currency.code (p.refunds.map RefundRecord.amount)

/-- Source: `PaymentAggregate.remainingRefundable` -/
def remainingRefundable : Except AppError Money := do
  let total ← p.totalRefunded
  p.amount.subtract total

/-- Source: `PaymentAggregate.totalCaptured` -/
def totalCaptured : Except AppError Money :=
  Money.sum p.amount.currency.code (p.captures.map CaptureRecord.amount)

/-- Source: `PaymentAggregate.remainingCapturable` -/
def remainingCapturable : Except AppError Money := do
  let total ← p.totalCaptured
  p.amount.subtract total

/-! ### Behaviours -/

/-- The guarded change of status most methods consist of: check the transition, then update.

Source: `PaymentAggregate.transitionTo` -/
def transition (target : PaymentStatus)
    (update : PaymentAggregate → PaymentAggregate) : Except AppError PaymentAggregate := do
  p.status.assertValidTransition target
  .ok { update p with status := target }

/-- Source: `PaymentAggregate.startProcessing` -/
def startProcessing (pspProvider : PSPProvider) : Except AppError PaymentAggregate :=
  p.transition .PROCESSING fun p => { p with pspProvider := .value pspProvider }

/-- The transaction id is kept only when the PSP gave one. -/
def requiresAction (riskScore : Nat) (pspTransactionId : Option String) :
    Except AppError PaymentAggregate :=
  p.transition .REQUIRES_ACTION fun p =>
    { p with
      riskScore := .value riskScore
      pspTransactionId := p.pspTransactionId.set (truthy pspTransactionId) }

/-- Source: `PaymentAggregate.completeThreeDS` -/
def completeThreeDS (authenticated : Bool) : Except AppError PaymentAggregate :=
  p.transition .PROCESSING fun p => { p with threeDSAuthenticated := .value authenticated }

/-- Source: `PaymentAggregate.requiresCapture` -/
def requiresCapture (pspTransactionId : String)
    (details : AuthorizationDetails) : Except AppError PaymentAggregate :=
  p.transition .REQUIRES_CAPTURE fun p =>
    { p with
      pspTransactionId := .value pspTransactionId
      pspRawResponse := .ofOption details.pspRawResponse
      pspRiskSignal := .ofOption details.pspRiskSignal
      avsResult := .ofOption details.avsResult
      cvvResult := .ofOption details.cvvResult
      scaExemptionIndicator := .ofOption details.scaExemptionIndicator
      networkTokenized := details.networkTokenized <|> p.networkTokenized
      paymentMethodType := p.paymentMethodType.set details.paymentMethodType }

/-- Source: `PaymentAggregate.markSucceeded` -/
def markSucceeded (pspTransactionId : String)
    (details : AuthorizationDetails) : Except AppError PaymentAggregate :=
  p.transition .SUCCEEDED fun p =>
    { p with
      pspTransactionId := .value pspTransactionId
      pspRawResponse := .ofOption details.pspRawResponse
      pspRiskSignal := .ofOption details.pspRiskSignal
      avsResult := p.avsResult.set details.avsResult
      cvvResult := p.cvvResult.set details.cvvResult
      scaExemptionIndicator := p.scaExemptionIndicator.set details.scaExemptionIndicator
      networkTokenized := details.networkTokenized <|> p.networkTokenized
      paymentMethodType := p.paymentMethodType.set details.paymentMethodType }

/-- Source: `PaymentAggregate.markFailed` -/
def markFailed (reason : String) (errorCode : Option String)
    (pspProvider : Option PSPProvider) (pspRiskSignal : Option PspRiskSignal) :
    Except AppError PaymentAggregate :=
  p.transition .FAILED fun p =>
    { p with
      pspProvider := p.pspProvider.set pspProvider
      failureReason := .value reason
      failureCode := .ofOption errorCode
      pspRiskSignal := p.pspRiskSignal.set pspRiskSignal }

/-- Source: `PaymentAggregate.markAmbiguous` -/
def markAmbiguous (reason : String) (errorCode : Option String) :
    Except AppError PaymentAggregate :=
  p.transition .AMBIGUOUS fun p =>
    { p with failureReason := .value reason, failureCode := .ofOption errorCode }

/-- Source: `PaymentAggregate.recordManualAmbiguousResolution` -/
def recordManualAmbiguousResolution (resolvedBy reason : String) (now : Date) : PaymentAggregate :=
  { p with
    ambiguousResolvedBy := .value resolvedBy
    ambiguousResolvedReason := .value reason
    ambiguousResolvedAt := .value now }

/-- Source: `PaymentAggregate.incrementAmbiguousAutoRetryCount` -/
def incrementAmbiguousAutoRetryCount : PaymentAggregate :=
  { p with ambiguousAutoRetryCount := p.ambiguousAutoRetryCount + 1 }

/-- Source: `PaymentAggregate.cancel` -/
def cancel : Except AppError PaymentAggregate :=
  p.transition .CANCELLED fun p => p

/-- Source: `PaymentAggregate.markDisputed` -/
def markDisputed : Except AppError PaymentAggregate :=
  p.transition .DISPUTED fun p => p

/-- Records one capture of the authorised amount and says whether it completed it. -/
def recordCapture (captureId : String) (amount : Money)
    (pspTransactionId : String) (pspRawResponse : Option String) (now : Date) :
    Except AppError (PaymentAggregate × Bool) := do
  if p.status ≠ .REQUIRES_CAPTURE ∧ p.status ≠ .PARTIALLY_CAPTURED then
    .error (.plain s!"Cannot capture payment in status: {p.status}")
  else
    let newTotal ← (← p.totalCaptured).add amount
    if ← newTotal.isGreaterThan p.amount then
      let remaining ← p.remainingCapturable
      .error (.plain (s!"Capture amount {amount.toString} exceeds remaining capturable amount " ++
        remaining.toString))
    else
      let isFullyCaptured := newTotal.equals p.amount
      .ok ({ p with
        captures := p.captures ++ [⟨captureId, amount, now, some pspTransactionId⟩]
        pspTransactionId := .value pspTransactionId
        pspRawResponse := .ofOption pspRawResponse
        status := if isFullyCaptured then .SUCCEEDED else .PARTIALLY_CAPTURED }, isFullyCaptured)

/-- Source: `PaymentAggregate.refund` -/
def refund (p : PaymentAggregate) (refundId : String) (amount : Money) (reason : String)
    (pspRefundId : Option String) (now : Date) : Except AppError PaymentAggregate := do
  if p.status ≠ .SUCCEEDED ∧ p.status ≠ .PARTIALLY_REFUNDED then
    .error (.plain s!"Cannot refund payment in status: {p.status}")
  else
    let newTotal ← (← p.totalRefunded).add amount
    if ← newTotal.isGreaterThan p.amount then
      .error (.plain s!"Refund amount {amount.toString} exceeds remaining refundable amount")
    else
      .ok { p with
        refunds := p.refunds ++ [⟨refundId, amount, reason, now, pspRefundId⟩]
        status := if newTotal.equals p.amount then .REFUNDED else .PARTIALLY_REFUNDED }

/-- A dispute that is won restores the status from before it; one that is lost is a refund of
all that is left. -/
def resolveDispute (outcome : DisputeOutcome) (now : Date) : Except AppError PaymentAggregate := do
  match outcome with
  | .WON =>
    let total ← p.totalRefunded
    p.transition (if total.isZero then .SUCCEEDED else .PARTIALLY_REFUNDED) fun p => p
  | .LOST =>
    p.status.assertValidTransition .REFUNDED
    let remaining ← p.remainingRefundable
    .ok { p with
      refunds := p.refunds ++ [⟨s!"dispute-lost-{p.id}", remaining, "dispute_lost", now, none⟩]
      status := .REFUNDED }

/-! ### Recorded once, or refined

None of these touches the status or the records of money. -/

/-- Source: `PaymentAggregate.recordSettlementConversion` -/
def recordSettlementConversion (conversion : SettlementConversion) : PaymentAggregate :=
  { p with settlementConversion := p.settlementConversion <|> some conversion }

/-- Source: `PaymentAggregate.recordTaxRecord` -/
def recordTaxRecord (record : TaxRecord) : PaymentAggregate :=
  { p with taxRecord := p.taxRecord <|> some record }

/-- Source: `PaymentAggregate.recordSplits` -/
def recordSplits (splits : List PaymentSplit) : PaymentAggregate :=
  if splits.isEmpty then p else { p with splits := p.splits <|> some splits }

/-- Source: `PaymentAggregate.finalizeSplitConversions` -/
def finalizeSplitConversions (bookedSplits : List PaymentSplit) : PaymentAggregate :=
  { p with splits := p.splits.map fun _ => bookedSplits }

/-- Source: `PaymentAggregate.recordInterchangeQualification` -/
def recordInterchangeQualification (result : InterchangeQualificationResult) : PaymentAggregate :=
  { p with interchangeQualification := p.interchangeQualification.setOnce result }

/-- Source: `PaymentAggregate.recordScaExemptionRequested` -/
def recordScaExemptionRequested (eligibility : ScaExemptionEligibility) : PaymentAggregate :=
  match truthy p.scaExemptionReason with
  | some _ => p
  | none =>
    { p with
      scaExemptionRequested := .ofOption eligibility.exemption
      scaExemptionReason := some eligibility.reason }

/-- What an agent's charge adds to the risk score.

Source: `PaymentAggregate.calculateRiskScore` -/
structure AgentContext where
  isFirstChargeToMerchant : Option Bool := none
  percentOfRemainingMonthlyBudget : Option Rat := none

/-- Source: `PaymentAggregate.calculateRiskScore` -/
def calculateRiskScore (agentContext : Option AgentContext) : PaymentAggregate × Nat :=
  let highValue :=
    if p.amount.amount > 10000 then 30 else if p.amount.amount > 1000 then 15 else 0
  let sca := if p.binInfo.any BinInfo.requiresSCA then 20 else 0
  let novelty := if agentContext.any (·.isFirstChargeToMerchant == some true) then 15 else 0
  let budget :=
    if agentContext.any (·.percentOfRemainingMonthlyBudget.any (decide <| 50 ≤ ·)) then 15 else 0
  let score := min (highValue + sca + 10 + novelty + budget) 100
  ({ p with riskScore := .value score }, score)

/-! ### When the methods succeed -/

/-- Two states of one payment with the same amount and the same captures and refunds. -/
structure SameRecords (p q : PaymentAggregate) : Prop where
  id : q.id = p.id
  merchantId : q.merchantId = p.merchantId
  amount : q.amount = p.amount
  captures : q.captures = p.captures
  refunds : q.refunds = p.refunds

lemma SameRecords.refl : SameRecords p p := ⟨rfl, rfl, rfl, rfl, rfl⟩

variable {p : PaymentAggregate}

lemma SameRecords.trans {q r : PaymentAggregate} (h : SameRecords p q) (h' : SameRecords q r) :
    SameRecords p r :=
  ⟨h'.id.trans h.id, h'.merchantId.trans h.merchantId, h'.amount.trans h.amount,
    h'.captures.trans h.captures, h'.refunds.trans h.refunds⟩

/-- The sum of the refund records, in minor units. -/
def refundedMinorUnits (p : PaymentAggregate) : Nat :=
  (p.refunds.map (·.amount.amountMinorUnits)).sum

/-- The sum of the capture records, in minor units. -/
def capturedMinorUnits (p : PaymentAggregate) : Nat :=
  (p.captures.map (·.amount.amountMinorUnits)).sum

/-- Every capture and every refund is in the currency of the payment. -/
structure OneCurrency (p : PaymentAggregate) : Prop where
  refunds : ∀ r ∈ p.refunds, r.amount.currency = p.amount.currency
  captures : ∀ c ∈ p.captures, c.amount.currency = p.amount.currency

section sameRecords

variable {p q : PaymentAggregate}

lemma SameRecords.refunded_eq (h : SameRecords p q) :
    q.refundedMinorUnits = p.refundedMinorUnits := by
  unfold refundedMinorUnits
  rw [h.refunds]

lemma SameRecords.captured_eq (h : SameRecords p q) :
    q.capturedMinorUnits = p.capturedMinorUnits := by
  unfold capturedMinorUnits
  rw [h.captures]

lemma SameRecords.oneCurrency (h : SameRecords p q) (hp : p.OneCurrency) : q.OneCurrency where
  refunds := by
    rw [h.refunds, h.amount]
    exact hp.refunds
  captures := by
    rw [h.captures, h.amount]
    exact hp.captures

end sameRecords

lemma totalRefunded_eq_ok {total : Money} :
    p.totalRefunded = .ok total ↔
      (∀ r ∈ p.refunds, r.amount.currency = p.amount.currency) ∧
        total = ⟨p.refundedMinorUnits, p.amount.currency⟩ := by
  unfold totalRefunded refundedMinorUnits
  rw [Money.sum_eq_ok]
  simp [Function.comp_def]

lemma totalCaptured_eq_ok {total : Money} :
    p.totalCaptured = .ok total ↔
      (∀ c ∈ p.captures, c.amount.currency = p.amount.currency) ∧
        total = ⟨p.capturedMinorUnits, p.amount.currency⟩ := by
  unfold totalCaptured capturedMinorUnits
  rw [Money.sum_eq_ok]
  simp [Function.comp_def]

lemma remainingRefundable_eq_ok {remaining : Money} :
    p.remainingRefundable = .ok remaining ↔
      (∀ r ∈ p.refunds, r.amount.currency = p.amount.currency) ∧
        p.refundedMinorUnits ≤ p.amount.amountMinorUnits ∧
        remaining = ⟨p.amount.amountMinorUnits - p.refundedMinorUnits, p.amount.currency⟩ := by
  simp only [remainingRefundable, bind_eq_ok, totalRefunded_eq_ok, Money.subtract_eq_ok]
  constructor
  · rintro ⟨_, ⟨hcur, rfl⟩, -, hle, rfl⟩
    exact ⟨hcur, hle, rfl⟩
  · rintro ⟨hcur, hle, rfl⟩
    exact ⟨_, ⟨hcur, rfl⟩, rfl, hle, rfl⟩

variable {p' : PaymentAggregate}

/-- A guarded change of status whose update keeps the records: it goes along the graph, and only
the status tells the records' two states apart. -/
lemma transition_ok {target : PaymentStatus} {update : PaymentAggregate → PaymentAggregate}
    (hupdate : SameRecords p (update p)) (h : p.transition target update = .ok p') :
    p.status.isValidTransition target ∧ p'.status = target ∧ SameRecords p p' := by
  simp only [transition, bind_eq_ok, PaymentStatus.assertValidTransition_eq_ok,
    exists_and_left, exists_const, Except.ok.injEq] at h
  obtain ⟨hvalid, rfl⟩ := h
  exact ⟨hvalid, rfl, hupdate.id, hupdate.merchantId, hupdate.amount, hupdate.captures,
    hupdate.refunds⟩

lemma transition_of_isValidTransition {target : PaymentStatus}
    (h : p.status.isValidTransition target) (update : PaymentAggregate → PaymentAggregate) :
    p.transition target update = .ok { update p with status := target } := by
  unfold transition
  rw [PaymentStatus.assertValidTransition_eq_ok.2 h]
  · rfl
  · exact ()

/-- What a capture that succeeds leaves. -/
lemma recordCapture_ok {captureId txId : String} {amount : Money} {raw : Option String}
    {now : Date} {full : Bool}
    (h : p.recordCapture captureId amount txId raw now = .ok (p', full)) :
    (p.status = .REQUIRES_CAPTURE ∨ p.status = .PARTIALLY_CAPTURED) ∧
      (∀ c ∈ p.captures, c.amount.currency = p.amount.currency) ∧
      amount.currency = p.amount.currency ∧
      p.capturedMinorUnits + amount.amountMinorUnits ≤ p.amount.amountMinorUnits ∧
      full = decide (p.capturedMinorUnits + amount.amountMinorUnits = p.amount.amountMinorUnits) ∧
      p' = { p with
        captures := p.captures ++ [⟨captureId, amount, now, some txId⟩]
        pspTransactionId := .value txId
        pspRawResponse := .ofOption raw
        status := if full then .SUCCEEDED else .PARTIALLY_CAPTURED } := by
  unfold recordCapture at h
  split at h
  · cases h
  · rename_i hstatus
    simp only [bind_eq_ok, totalCaptured_eq_ok, Money.add_eq_ok, Money.isGreaterThan_eq_ok] at h
    obtain ⟨_, ⟨hcur, rfl⟩, _, ⟨hacur, rfl⟩, _, ⟨-, rfl⟩, h⟩ := h
    split at h
    · obtain ⟨_, -, h⟩ := bind_eq_ok.1 h
      cases h
    · rename_i hle
      have hle := not_lt.1 (of_decide_eq_false (Bool.eq_false_iff.2 hle))
      obtain ⟨rfl, rfl⟩ := Prod.mk.inj (Except.ok.inj h)
      refine ⟨by tauto, hcur, hacur.symm, hle, ?_, rfl⟩
      rw [Bool.eq_iff_iff, Money.equals_iff, decide_eq_true_iff]
      exact ⟨congrArg Money.amountMinorUnits, fun h => by rw [h]⟩

/-- What a refund that succeeds leaves. -/
lemma refund_ok {refundId reason : String} {amount : Money} {pspRefundId : Option String}
    {now : Date} (h : p.refund refundId amount reason pspRefundId now = .ok p') :
    (p.status = .SUCCEEDED ∨ p.status = .PARTIALLY_REFUNDED) ∧
      (∀ r ∈ p.refunds, r.amount.currency = p.amount.currency) ∧
      amount.currency = p.amount.currency ∧
      p.refundedMinorUnits + amount.amountMinorUnits ≤ p.amount.amountMinorUnits ∧
      p' = { p with
        refunds := p.refunds ++ [⟨refundId, amount, reason, now, pspRefundId⟩]
        status := if p.refundedMinorUnits + amount.amountMinorUnits = p.amount.amountMinorUnits
          then .REFUNDED else .PARTIALLY_REFUNDED } := by
  unfold refund at h
  split at h
  · cases h
  · rename_i hstatus
    simp only [bind_eq_ok, totalRefunded_eq_ok, Money.add_eq_ok, Money.isGreaterThan_eq_ok] at h
    obtain ⟨_, ⟨hcur, rfl⟩, _, ⟨hacur, rfl⟩, _, ⟨-, rfl⟩, h⟩ := h
    split at h
    · cases h
    · rename_i hle
      have hle := not_lt.1 (of_decide_eq_false (Bool.eq_false_iff.2 hle))
      obtain rfl := Except.ok.inj h
      refine ⟨by tauto, hcur, hacur.symm, hle, ?_⟩
      congr 1
      refine if_congr ?_ rfl rfl
      rw [Money.equals_iff]
      exact ⟨congrArg Money.amountMinorUnits, fun h => by rw [h]⟩

end PaymentAggregate

end OmniSwitch
