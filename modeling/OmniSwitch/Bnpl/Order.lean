import OmniSwitch.Services.Booking

/-!
# Orders paid through Klarna

`bnpl-order.aggregate.ts`, `bnpl-fee.ts` and the two ledger events of `ledger-outbox.aggregate.ts`
that belong to such an order.  The customer, the description and the time of creation, which nothing
reads, are left out of the order.

Main results:

* `BnplOrder.refund_eq_ok`: a refund is put on record exactly when it is within what is left;
* `BnplOrder.Recorded.withRefund`: the status keeps saying what the refunds come to;
* `createBnplCaptureEntries_eq_ok`: a capture is booked when the fees fit into its amount.
-/

namespace OmniSwitch

open Lib

/-- Source: `bnpl-order.aggregate.ts` `BnplOrderStatus` -/
inductive BnplOrderStatus where
  | PENDING_AUTHORIZATION | AUTHORIZED | REJECTED | CAPTURED | REFUNDED | PARTIALLY_REFUNDED
  deriving DecidableEq, Repr

namespace BnplOrderStatus

/-- The status as it appears in messages. -/
def text : BnplOrderStatus → String
  | PENDING_AUTHORIZATION => "PENDING_AUTHORIZATION"
  | AUTHORIZED => "AUTHORIZED"
  | REJECTED => "REJECTED"
  | CAPTURED => "CAPTURED"
  | REFUNDED => "REFUNDED"
  | PARTIALLY_REFUNDED => "PARTIALLY_REFUNDED"

/-- The statuses of an order that was captured, and perhaps refunded. -/
def isCaptured : BnplOrderStatus → Bool
  | CAPTURED | REFUNDED | PARTIALLY_REFUNDED => true
  | _ => false

end BnplOrderStatus

/-- Source: `bnpl-order.aggregate.ts` `BnplRefundRecord` -/
structure BnplRefundRecord where
  refundId : String
  amount : Money
  reason : String
  createdAt : Date
  providerRefundId : Option String
  deriving DecidableEq, Repr

/-- Source: `bnpl-order.aggregate.ts` `BnplOrder` -/
structure BnplOrder where
  id : String
  merchantId : String
  amount : Money
  idempotencyKey : String
  status : BnplOrderStatus
  providerOrderId : Option String := none
  providerCaptureId : Option String := none
  failureReason : Option String := none
  refunds : List BnplRefundRecord := []
  capturedAt : Option Date := none
  deriving DecidableEq, Repr

variable {amount : Money}

namespace BnplOrder

/-- Source: `BnplOrder.create` -/
def create (id merchantId : String) (amount : Money) (idempotencyKey : String) : BnplOrder where
  id := id
  merchantId := merchantId
  amount := amount
  idempotencyKey := idempotencyKey
  status := .PENDING_AUTHORIZATION

/-- What a transition throws in a status it does not start from. -/
def cannot (order : BnplOrder) (transition : String) : AppError :=
  .plain s!"BNPL order {order.id} is {order.status.text}, cannot {transition}"

/-- Source: `BnplOrder.authorize` -/
def authorize (order : BnplOrder) (providerOrderId : String) : Except AppError BnplOrder :=
  if order.status ≠ .PENDING_AUTHORIZATION then .error (order.cannot "authorize")
  else .ok { order with status := .AUTHORIZED, providerOrderId := some providerOrderId }

/-- Source: `BnplOrder.reject` -/
def reject (order : BnplOrder) (reason : String) : Except AppError BnplOrder :=
  if order.status ≠ .PENDING_AUTHORIZATION then .error (order.cannot "reject")
  else .ok { order with status := .REJECTED, failureReason := some reason }

/-- Source: `BnplOrder.capture` -/
def capture (order : BnplOrder) (providerCaptureId : String) (now : Date) :
    Except AppError BnplOrder :=
  if order.status ≠ .AUTHORIZED then .error (order.cannot "capture")
  else .ok { order with
    status := .CAPTURED, providerCaptureId := some providerCaptureId, capturedAt := some now }

/-- Source: `BnplOrder.refund` -/
def refund (order : BnplOrder) (refundId : String) (amount : Money) (reason : String)
    (providerRefundId : String) (now : Date) : Except AppError BnplOrder := do
  if order.status ≠ .CAPTURED ∧ order.status ≠ .PARTIALLY_REFUNDED then
    throw (order.cannot "refund")
  let alreadyRefunded ← Money.sum order.amount.currency.code (order.refunds.map (·.amount))
  let totalRefunded ← alreadyRefunded.add amount
  if ← totalRefunded.isGreaterThan order.amount then
    throw (.plain s!"BNPL order {order.id}: refund would exceed the original order amount")
  .ok { order with
    refunds := order.refunds ++ [⟨refundId, amount, reason, now, some providerRefundId⟩]
    status := if totalRefunded.equals order.amount then .REFUNDED else .PARTIALLY_REFUNDED }

variable (order : BnplOrder)

/-- The status in which the order can be refunded. -/
def Refundable : Prop :=
  order.status = .CAPTURED ∨ order.status = .PARTIALLY_REFUNDED

instance (order : BnplOrder) : Decidable order.Refundable := instDecidableOr

lemma Refundable.isCaptured {order : BnplOrder} (h : order.Refundable) :
    order.status.isCaptured = true := by
  rcases h with h | h <;> rw [h] <;> rfl

/-- What is refunded of the order, in minor units. -/
def refunded : Nat := (order.refunds.map (·.amount.amountMinorUnits)).sum

/-- The refund can be put on record: it is in the order's currency and within what is left of it.

Source: `BnplOrder.refund` -/
def Within (amount : Money) : Prop :=
  amount.currency = order.amount.currency ∧
    order.refunded + amount.amountMinorUnits ≤ order.amount.amountMinorUnits

instance (order : BnplOrder) (amount : Money) : Decidable (order.Within amount) :=
  instDecidableAnd

/-- The status of a captured order says what its refunds come to. -/
structure Recorded (order : BnplOrder) : Prop where
  currency : ∀ r ∈ order.refunds, r.amount.currency = order.amount.currency
  within_amount : order.refunded ≤ order.amount.amountMinorUnits
  status_eq : order.status =
    if order.refunds = [] then .CAPTURED
    else if order.refunded = order.amount.amountMinorUnits then .REFUNDED
    else .PARTIALLY_REFUNDED

lemma Recorded.isCaptured {order : BnplOrder} (h : order.Recorded) :
    order.status.isCaptured = true := by
  rw [h.status_eq]
  split_ifs <;> rfl

/-- The order with one more refund on record. -/
def withRefund (record : BnplRefundRecord) : BnplOrder :=
  { order with
    refunds := order.refunds ++ [record]
    status :=
      if order.refunded + record.amount.amountMinorUnits = order.amount.amountMinorUnits then
        .REFUNDED
      else .PARTIALLY_REFUNDED }

lemma refunded_withRefund (record : BnplRefundRecord) :
    (order.withRefund record).refunded = order.refunded + record.amount.amountMinorUnits := by
  simp [refunded, withRefund]

/-- A refund within what is left leaves the status right. -/
lemma Recorded.withRefund {order : BnplOrder} (h : order.Recorded) {record : BnplRefundRecord}
    (hwithin : order.Within record.amount) : (order.withRefund record).Recorded where
  currency := by
    exact List.forall_mem_append.2 ⟨h.currency, List.forall_mem_singleton.2 hwithin.1⟩
  within_amount := by
    rw [refunded_withRefund]
    exact hwithin.2
  status_eq := by
    rw [refunded_withRefund, if_neg (show (order.withRefund record).refunds ≠ [] by
      simp [BnplOrder.withRefund])]
    rfl

/-- A refund of a captured order is put on record exactly when it is within what is left. -/
lemma refund_eq_ok {order order' : BnplOrder} (h : order.Recorded)
    (hrefundable : order.Refundable) {refundId reason providerRefundId : String} {now : Date} :
    order.refund refundId amount reason providerRefundId now = .ok order' ↔
      order.Within amount ∧
        order' = order.withRefund ⟨refundId, amount, reason, now, some providerRefundId⟩ := by
  have hsum : Money.sum order.amount.currency.code (order.refunds.map (·.amount)) =
      .ok ⟨order.refunded, order.amount.currency⟩ := by
    refine Money.sum_eq_ok.2 ⟨?_, ?_⟩
    · intro m hm
      obtain ⟨r, hr, rfl⟩ := List.mem_map.1 hm
      exact h.currency r hr
    · rw [refunded, List.map_map]
      rfl
  unfold refund
  rw [if_neg (show ¬ (order.status ≠ .CAPTURED ∧ order.status ≠ .PARTIALLY_REFUNDED) by
    rcases hrefundable with h | h <;> simp [h]), hsum]
  constructor
  · intro hok
    obtain ⟨-, ⟨⟩, hok⟩ := bind_eq_ok.1 hok
    obtain ⟨total, hadd, hok⟩ := bind_eq_ok.1 hok
    obtain ⟨hcurrency, rfl⟩ := Money.add_eq_ok.1 hadd
    obtain ⟨exceeds, hexceeds, hok⟩ := bind_eq_ok.1 hok
    obtain ⟨-, rfl⟩ := Money.isGreaterThan_eq_ok.1 hexceeds
    by_cases hle : order.amount.amountMinorUnits < order.refunded + amount.amountMinorUnits
    · simp [hle] at hok
    · refine ⟨⟨hcurrency.symm, by omega⟩, ?_⟩
      simp only [hle, decide_false, Bool.false_eq_true, if_false] at hok
      rw [← Except.ok.inj hok]
      simp [withRefund, Money.equals]
  · rintro ⟨⟨hcurrency, hle⟩, rfl⟩
    refine bind_eq_ok.2 ⟨_, rfl, bind_eq_ok.2 ⟨_, Money.add_eq_ok.2 ⟨hcurrency.symm, rfl⟩,
      bind_eq_ok.2 ⟨_, Money.isGreaterThan_eq_ok.2 ⟨rfl, rfl⟩, ?_⟩⟩⟩
    have hnot : ¬ order.amount.amountMinorUnits < order.refunded + amount.amountMinorUnits := by
      omega
    simp [hnot, withRefund, Money.equals]

end BnplOrder

/-! ### Fees -/

/-- Source: `bnpl-fee.ts` `KLARNA_MERCHANT_FEE_BPS` -/
def klarnaMerchantFeeBps : Nat := 399

/-- So many basis points of an amount.

Source: `BnplService.createOrder` -/
def Money.share (amount : Money) (bps : Nat) : Except AppError Money :=
  amount.multiply ((bps : Rat) / 10000)

/-- Source: `bnpl-fee.ts` `calculateBnplProviderFee` -/
def calculateBnplProviderFee (amount : Money) : Except AppError Money :=
  amount.share klarnaMerchantFeeBps

/-- So many basis points of a number of minor units. -/
def bpsOf (minorUnits bps : Nat) : Nat := (mathRound (minorUnits * ((bps : Rat) / 10000))).toNat

/-- A share of an amount is always an amount of money. -/
lemma Money.share_eq_ok (amount : Money) (bps : Nat) :
    amount.share bps = .ok ⟨bpsOf amount.amountMinorUnits bps, amount.currency⟩ := by
  have hnonneg : 0 ≤ (bps : Rat) / 10000 := by positivity
  exact amount.multiply_of_nonneg hnonneg

/-- The platform's and Klarna's fees together are no more than the amount.

Source: `BnplService.createOrder` -/
def FeesFit (amount : Money) (platformFeeBps : Nat) : Prop :=
  bpsOf amount.amountMinorUnits platformFeeBps +
    bpsOf amount.amountMinorUnits klarnaMerchantFeeBps ≤ amount.amountMinorUnits

instance (amount : Money) (platformFeeBps : Nat) : Decidable (FeesFit amount platformFeeBps) :=
  Nat.decLe _ _

/-! ### Ledger events -/

namespace LedgerOutboxEvent

open LedgerEntry

/-- Source: `LedgerOutboxEvent.createBnplCaptureEntries` -/
def createBnplCaptureEntries (id bnplOrderId merchantId : String)
    (amount platformFee providerFee : Money) (now : Date) : Except AppError LedgerOutboxEvent := do
  let netAmount ← (← amount.subtract platformFee).subtract providerFee
  create id bnplOrderId .BNPL_CAPTURED
    [⟨"BNPL_SETTLEMENT_ACCOUNT", .BNPL_SETTLEMENT, .DEBIT, amount⟩,
      ⟨"PLATFORM_FEE_ACCOUNT", .FEE, .CREDIT, platformFee⟩,
      ⟨"KLARNA_FEE_ACCOUNT", .BNPL_PROVIDER_FEE, .CREDIT, providerFee⟩,
      ⟨merchantId, .MERCHANT, .CREDIT, netAmount⟩] now

/-- Source: `LedgerOutboxEvent.createBnplRefundEntries` -/
def createBnplRefundEntries (id bnplOrderId merchantId : String) (refundAmount : Money)
    (now : Date) : Except AppError LedgerOutboxEvent :=
  create id bnplOrderId .BNPL_REFUNDED
    [⟨"BNPL_SETTLEMENT_ACCOUNT", .BNPL_SETTLEMENT, .CREDIT, refundAmount⟩,
      ⟨merchantId, .MERCHANT, .DEBIT, refundAmount⟩] now

/-- The amounts an event books against Klarna. -/
def bnplSettled (event : LedgerOutboxEvent) : List Money :=
  (event.entries.filter (·.accountType = .BNPL_SETTLEMENT)).map (·.amount)

/-- An event of an order that books an amount against Klarna. -/
structure BooksBnpl (event : LedgerOutboxEvent) (id orderId : String) (eventType : LedgerEventType)
    (amount : Money) : Prop where
  id_eq : event.id = id
  order : event.paymentId = orderId
  type : event.eventType = eventType
  settled : event.bnplSettled = [amount]

/-- A capture whose fees fit into the amount can be booked. -/
lemma createBnplCaptureEntries_eq_ok {platformFee providerFee : Nat}
    (hfit : platformFee + providerFee ≤ amount.amountMinorUnits)
    (id bnplOrderId merchantId : String) (now : Date) :
    ∃ event, createBnplCaptureEntries id bnplOrderId merchantId amount
        ⟨platformFee, amount.currency⟩ ⟨providerFee, amount.currency⟩ now = .ok event ∧
      event.BooksBnpl id bnplOrderId .BNPL_CAPTURED amount := by
  have hfirst : amount.subtract ⟨platformFee, amount.currency⟩ = _ :=
    Money.subtract_eq_ok.2 ⟨rfl, Nat.le_of_add_right_le hfit, rfl⟩
  have hsecond : (⟨amount.amountMinorUnits - platformFee, amount.currency⟩ : Money).subtract
      ⟨providerFee, amount.currency⟩ = _ :=
    Money.subtract_eq_ok.2 ⟨rfl, Nat.le_sub_of_add_le' hfit, rfl⟩
  -- the three credits come to the amount
  have hnets := (nets_credit "PLATFORM_FEE_ACCOUNT" .FEE ⟨platformFee, amount.currency⟩).append
    ((nets_credit "KLARNA_FEE_ACCOUNT" .BNPL_PROVIDER_FEE ⟨providerFee, amount.currency⟩).append
      (nets_credit merchantId .MERCHANT
        ⟨amount.amountMinorUnits - platformFee - providerFee, amount.currency⟩))
  rw [show platformFee + (providerFee + (amount.amountMinorUnits - platformFee - providerFee)) =
    amount.amountMinorUnits by omega] at hnets
  unfold createBnplCaptureEntries
  refine ⟨_, bind_eq_ok.2 ⟨_, hfirst, bind_eq_ok.2 ⟨_, hsecond, create_eq_ok
    (hnets.validate "BNPL_SETTLEMENT_ACCOUNT" .BNPL_SETTLEMENT)⟩⟩, rfl, rfl, rfl, rfl⟩

lemma createBnplCaptureEntries_ok {id bnplOrderId merchantId : String}
    {platformFee providerFee : Money} {now : Date} {event : LedgerOutboxEvent}
    (h : createBnplCaptureEntries id bnplOrderId merchantId amount platformFee providerFee now =
      .ok event) : event.BooksBnpl id bnplOrderId .BNPL_CAPTURED amount := by
  obtain ⟨_, -, h⟩ := bind_eq_ok.1 h
  obtain ⟨_, -, h⟩ := bind_eq_ok.1 h
  unfold create at h
  split at h
  · obtain rfl := Except.ok.inj h
    exact ⟨rfl, rfl, rfl, rfl⟩
  · nomatch h

end LedgerOutboxEvent

end OmniSwitch
