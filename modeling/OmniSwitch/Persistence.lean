import OmniSwitch.Payment

/-!
# Payment rows and their mapping

`payment.entity.ts` and `payment.mapper.ts`.  A `PaymentEntity` is what the application hands to
TypeORM for writing: a property that is `undefined` leaves its column alone, one that is `null`
clears it.  A `PaymentRow` is what the table holds.  Columns that no modelled code reads
(`customerId`, `orderId`, the descriptions, `fxSnapshot`, `updatedAt`) are left out.

Main results:

* `toDomain_insert`, `toDomain_assign`: a payment that is saved is loaded with its records.
-/

namespace OmniSwitch

open Lib

/-! ### Records inside a row -/

/-- Source: `PaymentMapper.toPersistence` (`refunds`) -/
structure RefundRow where
  refundId : String
  amountMinorUnits : Nat
  currencyCode : String
  reason : String
  createdAt : Date
  pspRefundId : Option String
  deriving DecidableEq, Repr

/-- Source: `PaymentMapper.toPersistence` (`captures`) -/
structure CaptureRow where
  captureId : String
  amountMinorUnits : Nat
  currencyCode : String
  createdAt : Date
  pspCaptureId : Option String
  deriving DecidableEq, Repr

/-- Source: `PaymentMapper.toPersistence` (`splits`) -/
structure SplitRow where
  merchantId : String
  amountMinorUnits : Nat
  currencyCode : String
  settlementConversion : Option SettlementConversion
  deriving DecidableEq, Repr

/-- Source: `PaymentMapper.toPersistence` -/
def RefundRecord.toRow (r : RefundRecord) : RefundRow :=
  ⟨r.refundId, r.amount.amountMinorUnits, r.amount.currency.code, r.reason, r.createdAt,
    r.pspRefundId⟩

/-- Source: `PaymentMapper.toDomain` -/
def RefundRow.toRecord (r : RefundRow) : Except AppError RefundRecord := do
  let amount ← Money.fromMinorUnits r.amountMinorUnits r.currencyCode
  .ok ⟨r.refundId, amount, r.reason, r.createdAt, r.pspRefundId⟩

/-- Source: `PaymentMapper.toPersistence` -/
def CaptureRecord.toRow (c : CaptureRecord) : CaptureRow :=
  ⟨c.captureId, c.amount.amountMinorUnits, c.amount.currency.code, c.createdAt, c.pspCaptureId⟩

/-- Source: `PaymentMapper.toDomain` -/
def CaptureRow.toRecord (c : CaptureRow) : Except AppError CaptureRecord := do
  let amount ← Money.fromMinorUnits c.amountMinorUnits c.currencyCode
  .ok ⟨c.captureId, amount, c.createdAt, c.pspCaptureId⟩

/-- Source: `PaymentMapper.toPersistence` -/
def PaymentSplit.toRow (s : PaymentSplit) : SplitRow :=
  ⟨s.merchantId, s.amount.amountMinorUnits, s.amount.currency.code, s.settlementConversion⟩

/-- Source: `PaymentMapper.toDomain` -/
def SplitRow.toSplit (s : SplitRow) : Except AppError PaymentSplit := do
  let amount ← Money.fromMinorUnits s.amountMinorUnits s.currencyCode
  .ok ⟨s.merchantId, amount, s.settlementConversion⟩

@[simp] lemma RefundRow.toRecord_toRow (r : RefundRecord) : r.toRow.toRecord = .ok r := by
  unfold RefundRow.toRecord RefundRecord.toRow
  rw [Money.fromMinorUnits_code]
  rfl

@[simp] lemma CaptureRow.toRecord_toRow (c : CaptureRecord) : c.toRow.toRecord = .ok c := by
  unfold CaptureRow.toRecord CaptureRecord.toRow
  rw [Money.fromMinorUnits_code]
  rfl

@[simp] lemma SplitRow.toSplit_toRow (s : PaymentSplit) : s.toRow.toSplit = .ok s := by
  unfold SplitRow.toSplit PaymentSplit.toRow
  rw [Money.fromMinorUnits_code]
  rfl

lemma mapM_map_eq_ok {α β : Type} {write : α → β} {read : β → Except AppError α}
    (h : ∀ a, read (write a) = .ok a) (l : List α) : (l.map write).mapM read = .ok l := by
  induction l with
  | nil => rfl
  | cons a l ih =>
    rw [List.map_cons, List.mapM_cons, h, ih]
    rfl

/-! ### Entities and rows -/

/-- What is handed to TypeORM for writing. -/
structure PaymentEntity where
  id : String
  merchantId : String
  amountMinorUnits : Nat
  currencyCode : String
  status : PaymentStatus
  idempotencyKey : String
  pspProvider : Nullable PSPProvider
  pspTransactionId : Nullable String
  pspRawResponse : Nullable String
  riskScore : Nullable Nat
  pspRiskSignal : Nullable PspRiskSignal
  threeDSAuthenticated : Nullable Bool
  refunds : List RefundRow
  captures : List CaptureRow
  failureReason : Nullable String
  failureCode : Nullable String
  binInfo : Nullable BinInfo
  settlementConversion : Nullable SettlementConversion
  taxRecord : Nullable TaxRecord
  splits : Nullable (List SplitRow)
  ambiguousResolvedBy : Nullable String
  ambiguousResolvedReason : Nullable String
  ambiguousResolvedAt : Nullable Date
  ambiguousAutoRetryCount : Nat
  delegationId : Nullable String
  initiatedBy : PaymentInitiator
  avsResult : Nullable AvsResult
  cvvResult : Nullable CvvResult
  interchangeQualification : Nullable InterchangeQualificationResult
  scaExemptionRequested : Nullable ScaExemptionType
  scaExemptionReason : Nullable String
  scaExemptionIndicator : Nullable ScaExemptionType
  networkTokenized : Nullable Bool
  paymentMethodType : Nullable PaymentMethodType

/-- What the `payments` table holds.

Source: `PaymentEntity` -/
structure PaymentRow where
  id : String
  merchantId : String
  amountMinorUnits : Nat
  currencyCode : String
  status : PaymentStatus
  idempotencyKey : String
  pspProvider : Option PSPProvider := none
  pspTransactionId : Option String := none
  pspRawResponse : Option String := none
  riskScore : Option Nat := none
  pspRiskSignal : Option PspRiskSignal := none
  threeDSAuthenticated : Option Bool := none
  refunds : List RefundRow := []
  captures : List CaptureRow := []
  failureReason : Option String := none
  failureCode : Option String := none
  binInfo : Option BinInfo := none
  settlementConversion : Option SettlementConversion := none
  taxRecord : Option TaxRecord := none
  splits : Option (List SplitRow) := none
  ambiguousResolvedBy : Option String := none
  ambiguousResolvedReason : Option String := none
  ambiguousResolvedAt : Option Date := none
  ambiguousAutoRetryCount : Nat := 0
  delegationId : Option String := none
  initiatedBy : PaymentInitiator := .human
  avsResult : Option AvsResult := none
  cvvResult : Option CvvResult := none
  interchangeQualification : Option InterchangeQualificationResult := none
  scaExemptionRequested : Option ScaExemptionType := none
  scaExemptionReason : Option String := none
  scaExemptionIndicator : Option ScaExemptionType := none
  networkTokenized : Option Bool := none
  paymentMethodType : Option PaymentMethodType := none
  createdAt : Date

/-- A column as TypeORM reads it. -/
def Nullable.ofColumn {α : Type} : Option α → Nullable α
  | some a => .value a
  | none => .null

@[simp] lemma Nullable.toOption_ofColumn {α : Type} (column : Option α) :
    (Nullable.ofColumn column).toOption = column := by
  cases column <;> rfl

/-- A column after a property has been written over it: `undefined` leaves it alone. -/
def Nullable.store {α : Type} (column : Option α) : Nullable α → Option α
  | .undefined => column
  | .null => none
  | .value a => some a

/-- Source: `PaymentMapper.toPersistence` -/
def PaymentAggregate.toPersistence (p : PaymentAggregate) : PaymentEntity where
  id := p.id
  merchantId := p.merchantId
  amountMinorUnits := p.amount.amountMinorUnits
  currencyCode := p.amount.currency.code
  status := p.status
  idempotencyKey := p.idempotencyKey
  pspProvider := p.pspProvider
  pspTransactionId := p.pspTransactionId
  pspRawResponse := p.pspRawResponse
  riskScore := p.riskScore
  pspRiskSignal := p.pspRiskSignal
  threeDSAuthenticated := p.threeDSAuthenticated
  refunds := p.refunds.map RefundRecord.toRow
  captures := p.captures.map CaptureRecord.toRow
  failureReason := p.failureReason
  failureCode := p.failureCode
  binInfo := .ofOption p.binInfo
  settlementConversion := .ofOption p.settlementConversion
  taxRecord := .ofOption p.taxRecord
  splits := .ofOption (p.splits.map (·.map PaymentSplit.toRow))
  ambiguousResolvedBy := p.ambiguousResolvedBy
  ambiguousResolvedReason := p.ambiguousResolvedReason
  ambiguousResolvedAt := p.ambiguousResolvedAt
  ambiguousAutoRetryCount := p.ambiguousAutoRetryCount
  delegationId := .ofOption p.delegationId
  initiatedBy := p.initiatedBy
  avsResult := p.avsResult
  cvvResult := p.cvvResult
  interchangeQualification := p.interchangeQualification
  scaExemptionRequested := p.scaExemptionRequested
  scaExemptionReason := .ofOption p.scaExemptionReason
  scaExemptionIndicator := p.scaExemptionIndicator
  networkTokenized := .ofOption p.networkTokenized
  paymentMethodType := p.paymentMethodType

namespace PaymentRow

/-- The splits are read. -/
def readSplits : Option (List SplitRow) → Except AppError (Option (List PaymentSplit))
  | none => .ok none
  | some rows => do
      let splits ← rows.mapM SplitRow.toSplit
      .ok (some splits)

variable (row : PaymentRow) (e : PaymentEntity)

/-- Source: `PaymentMapper.toDomain` -/
def toDomain : Except AppError PaymentAggregate := do
  let amount ← Money.fromMinorUnits row.amountMinorUnits row.currencyCode
  let refunds ← row.refunds.mapM RefundRow.toRecord
  let captures ← row.captures.mapM CaptureRow.toRecord
  let splits ← readSplits row.splits
  .ok {
    id := row.id
    amount
    status := row.status
    idempotencyKey := row.idempotencyKey
    merchantId := row.merchantId
    binInfo := row.binInfo
    pspProvider := .ofColumn row.pspProvider
    pspTransactionId := .ofColumn row.pspTransactionId
    pspRawResponse := .ofColumn row.pspRawResponse
    riskScore := .ofColumn row.riskScore
    pspRiskSignal := .ofColumn row.pspRiskSignal
    threeDSAuthenticated := .ofColumn row.threeDSAuthenticated
    refunds
    captures
    failureReason := .ofColumn row.failureReason
    failureCode := .ofColumn row.failureCode
    createdAt := row.createdAt
    settlementConversion := row.settlementConversion
    splits
    ambiguousResolvedBy := .ofColumn row.ambiguousResolvedBy
    ambiguousResolvedReason := .ofColumn row.ambiguousResolvedReason
    ambiguousResolvedAt := .ofColumn row.ambiguousResolvedAt
    ambiguousAutoRetryCount := row.ambiguousAutoRetryCount
    taxRecord := row.taxRecord
    delegationId := row.delegationId
    initiatedBy := row.initiatedBy
    avsResult := .ofColumn row.avsResult
    cvvResult := .ofColumn row.cvvResult
    interchangeQualification := .ofColumn row.interchangeQualification
    scaExemptionRequested := .ofColumn row.scaExemptionRequested
    scaExemptionReason := row.scaExemptionReason
    scaExemptionIndicator := .ofColumn row.scaExemptionIndicator
    networkTokenized := row.networkTokenized
    paymentMethodType := .ofColumn row.paymentMethodType }

/-- The row after an entity has been saved over it.

Source: `PaymentTypeOrmRepository.update` -/
def assign : PaymentRow where
  id := e.id
  merchantId := e.merchantId
  amountMinorUnits := e.amountMinorUnits
  currencyCode := e.currencyCode
  status := e.status
  idempotencyKey := e.idempotencyKey
  pspProvider := e.pspProvider.store row.pspProvider
  pspTransactionId := e.pspTransactionId.store row.pspTransactionId
  pspRawResponse := e.pspRawResponse.store row.pspRawResponse
  riskScore := e.riskScore.store row.riskScore
  pspRiskSignal := e.pspRiskSignal.store row.pspRiskSignal
  threeDSAuthenticated := e.threeDSAuthenticated.store row.threeDSAuthenticated
  refunds := e.refunds
  captures := e.captures
  failureReason := e.failureReason.store row.failureReason
  failureCode := e.failureCode.store row.failureCode
  binInfo := e.binInfo.store row.binInfo
  settlementConversion := e.settlementConversion.store row.settlementConversion
  taxRecord := e.taxRecord.store row.taxRecord
  splits := e.splits.store row.splits
  ambiguousResolvedBy := e.ambiguousResolvedBy.store row.ambiguousResolvedBy
  ambiguousResolvedReason := e.ambiguousResolvedReason.store row.ambiguousResolvedReason
  ambiguousResolvedAt := e.ambiguousResolvedAt.store row.ambiguousResolvedAt
  ambiguousAutoRetryCount := e.ambiguousAutoRetryCount
  delegationId := e.delegationId.store row.delegationId
  initiatedBy := e.initiatedBy
  avsResult := e.avsResult.store row.avsResult
  cvvResult := e.cvvResult.store row.cvvResult
  interchangeQualification := e.interchangeQualification.store row.interchangeQualification
  scaExemptionRequested := e.scaExemptionRequested.store row.scaExemptionRequested
  scaExemptionReason := e.scaExemptionReason.store row.scaExemptionReason
  scaExemptionIndicator := e.scaExemptionIndicator.store row.scaExemptionIndicator
  networkTokenized := e.networkTokenized.store row.networkTokenized
  paymentMethodType := e.paymentMethodType.store row.paymentMethodType
  createdAt := row.createdAt

/-- The row an entity is inserted as: every column its properties do not set is empty, and the
database fills in the creation time.

Source: `PaymentTypeOrmRepository.save` -/
def insert (now : Date) : PaymentRow :=
  assign { id := e.id, merchantId := e.merchantId, amountMinorUnits := e.amountMinorUnits
           currencyCode := e.currencyCode, status := e.status
           idempotencyKey := e.idempotencyKey, createdAt := now } e

@[simp] lemma id_assign : (row.assign e).id = e.id := rfl

@[simp] lemma id_insert (now : Date) : (insert e now).id = e.id := rfl

/-! ### Loading and saving -/

/-- The columns that a loaded payment's status, amount and records come from. -/
structure Loads (row : PaymentRow) (p : PaymentAggregate) : Prop where
  id : p.id = row.id
  merchantId : p.merchantId = row.merchantId
  status : p.status = row.status
  amount : Money.fromMinorUnits row.amountMinorUnits row.currencyCode = .ok p.amount
  refunds : row.refunds.mapM RefundRow.toRecord = .ok p.refunds
  captures : row.captures.mapM CaptureRow.toRecord = .ok p.captures
  splits : readSplits row.splits = .ok p.splits
  pspProvider : p.pspProvider = .ofColumn row.pspProvider
  pspTransactionId : p.pspTransactionId = .ofColumn row.pspTransactionId

/-- What a row that loads is loaded as. -/
lemma toDomain_ok {row : PaymentRow} {p : PaymentAggregate} (h : row.toDomain = .ok p) :
    Loads row p := by
  simp only [toDomain, bind_eq_ok] at h
  obtain ⟨amount, hamount, refunds, hrefunds, captures, hcaptures, splits, hsplits, h⟩ := h
  obtain rfl := Except.ok.inj h
  exact ⟨rfl, rfl, rfl, hamount, hrefunds, hcaptures, hsplits, rfl, rfl⟩

lemma readSplits_store {column : Option (List SplitRow)} {old : Option (List PaymentSplit)}
    (hold : readSplits column = .ok old) (splits : Option (List PaymentSplit)) :
    readSplits ((Nullable.ofOption (splits.map (·.map PaymentSplit.toRow))).store column) =
      .ok (splits <|> old) := by
  cases splits with
  | none => exact hold
  | some splits =>
    change (do let r ← (splits.map PaymentSplit.toRow).mapM SplitRow.toSplit; .ok (some r)) = _
    rw [mapM_map_eq_ok SplitRow.toSplit_toRow]
    rfl

/-- A payment saved over a row whose splits could be read is loaded again with the same status
and records. -/
lemma toDomain_assign {row : PaymentRow} {old : Option (List PaymentSplit)}
    (hold : readSplits row.splits = .ok old) (p : PaymentAggregate) :
    ∃ q, (row.assign p.toPersistence).toDomain = .ok q ∧
      PaymentAggregate.SameRecords p q ∧ q.status = p.status := by
  have hamount := Money.fromMinorUnits_code p.amount.amountMinorUnits p.amount.currency
  have hrefunds := mapM_map_eq_ok RefundRow.toRecord_toRow p.refunds
  have hcaptures := mapM_map_eq_ok CaptureRow.toRecord_toRow p.captures
  simp only [toDomain, assign, PaymentAggregate.toPersistence, hamount, hrefunds, hcaptures,
    readSplits_store hold p.splits]
  exact ⟨_, rfl, ⟨rfl, rfl, rfl, rfl, rfl⟩, rfl⟩

/-- A new row is loaded with the status and the records of the payment. -/
lemma toDomain_insert (p : PaymentAggregate) (now : Date) :
    ∃ q, (insert p.toPersistence now).toDomain = .ok q ∧
      PaymentAggregate.SameRecords p q ∧ q.status = p.status :=
  toDomain_assign (show readSplits none = .ok none from rfl) p

end PaymentRow

end OmniSwitch
