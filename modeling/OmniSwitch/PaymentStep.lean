import Mathlib.Data.Int.ConditionallyCompleteOrder
import OmniSwitch.Ledger
import OmniSwitch.Lib.Account

/-!
# What a committed write can do to a payment

Every service reads a payment, derives another from it and writes that, with a ledger event or
without.  `PaymentStep p ev p'` lists the ways in which this happens; the services are shown to
take no others.

Main results:

* `PaymentStep.refines`: a step of a payment is a step of its account.
-/

namespace OmniSwitch

open Lib

namespace PaymentStatus

/-- Nothing was captured in such a status. -/
def uncaptured : PaymentStatus → Bool
  | PENDING | PROCESSING | REQUIRES_ACTION | REQUIRES_CAPTURE | FAILED | AMBIGUOUS
  | CANCELLED => true
  | _ => false

/-- The whole amount has been collected in this status. -/
def collected : PaymentStatus → Bool
  | SUCCEEDED | PARTIALLY_REFUNDED | REFUNDED | DISPUTED => true
  | _ => false

/-- A status that is reached with nothing captured is left behind with nothing captured. -/
lemma uncaptured_of_isValidTransition {s t : PaymentStatus} (h : s.isValidTransition t)
    (ht : t.uncaptured) : s.uncaptured := by
  revert h ht
  cases s <;> cases t <;> decide

lemma not_uncaptured_of_collected {s : PaymentStatus} (h : s.collected) : ¬ s.uncaptured := by
  revert h
  cases s <;> decide

/-- The step from one persisted status to the next: along the graph, or the confirmation of a
challenged payment, which passes through `PROCESSING` in memory only. -/
def Follows (s t : PaymentStatus) : Prop :=
  s = t ∨ s.isValidTransition t ∨ s = .REQUIRES_ACTION ∧ t = .SUCCEEDED

end PaymentStatus

/-- What a committed write can do to a payment, with the ledger event it books.

Source: `PaymentAggregate` -/
inductive PaymentStep : PaymentAggregate → Option LedgerOutboxEvent → PaymentAggregate → Prop
  /-- The status moves among those before any capture, or among those after the charge. -/
  | move {p p' : PaymentAggregate} (same : p.SameRecords p')
      (edge : p.status = p'.status ∨ p.status.isValidTransition p'.status)
      (side : p.status.uncaptured ∧ p'.status.uncaptured ∨
        p.status.collected ∧ p'.status.collected) :
      PaymentStep p none p'
  /-- The whole amount is charged at once. -/
  | charge {p p' : PaymentAggregate} {event : LedgerOutboxEvent} (same : p.SameRecords p')
      (pending : p.status = .PROCESSING ∨ p.status = .REQUIRES_ACTION ∨ p.status = .AMBIGUOUS)
      (status : p'.status = .SUCCEEDED) (books : event.Charges p.id p.amount) :
      PaymentStep p (some event) p'
  /-- A capture is recorded. -/
  | capture {p p' : PaymentAggregate} {event : LedgerOutboxEvent} (c : CaptureRecord)
      (same : PaymentAggregate.SameRecords { p with captures := p.captures ++ [c] } p')
      (currency : c.amount.currency = p.amount.currency)
      (le : p.capturedMinorUnits + c.amount.amountMinorUnits ≤ p.amount.amountMinorUnits)
      (pending : p.status = .REQUIRES_CAPTURE ∨ p.status = .PARTIALLY_CAPTURED)
      (status : p'.status =
        if p.capturedMinorUnits + c.amount.amountMinorUnits = p.amount.amountMinorUnits
        then .SUCCEEDED else .PARTIALLY_CAPTURED)
      (books : event.Charges p.id c.amount) :
      PaymentStep p (some event) p'
  /-- A refund is recorded. -/
  | refund {p p' : PaymentAggregate} {event : LedgerOutboxEvent} (r : RefundRecord)
      (same : PaymentAggregate.SameRecords { p with refunds := p.refunds ++ [r] } p')
      (currency : r.amount.currency = p.amount.currency)
      (le : p.refundedMinorUnits + r.amount.amountMinorUnits ≤ p.amount.amountMinorUnits)
      (charged : p.status = .SUCCEEDED ∨ p.status = .PARTIALLY_REFUNDED)
      (status : p'.status =
        if p.refundedMinorUnits + r.amount.amountMinorUnits = p.amount.amountMinorUnits
        then .REFUNDED else .PARTIALLY_REFUNDED)
      (books : event.Refunds p.id r.amount) :
      PaymentStep p (some event) p'
  /-- A lost dispute is recorded as a refund of all that is left; the event's amount is that of
  the dispute. -/
  | lose {p p' : PaymentAggregate} {event : LedgerOutboxEvent} (r : RefundRecord)
      (amount : Money)
      (same : PaymentAggregate.SameRecords { p with refunds := p.refunds ++ [r] } p')
      (all : p.refundedMinorUnits ≤ p.amount.amountMinorUnits ∧
        r.amount = ⟨p.amount.amountMinorUnits - p.refundedMinorUnits, p.amount.currency⟩)
      (disputed : p.status = .DISPUTED) (status : p'.status = .REFUNDED)
      (books : event.Refunds p.id amount) :
      PaymentStep p (some event) p'

namespace PaymentAggregate

/-- What has been collected on a payment, by its status. -/
def collectedMinorUnits (p : PaymentAggregate) : Nat :=
  match p.status with
  | .SUCCEEDED | .PARTIALLY_REFUNDED | .REFUNDED | .DISPUTED => p.amount.amountMinorUnits
  | .REQUIRES_CAPTURE | .PARTIALLY_CAPTURED => p.capturedMinorUnits
  | _ => 0

/-- The records of a payment agree with its status. -/
structure Consistent (p : PaymentAggregate) : Prop where
  currencies : p.OneCurrency
  captured_le : p.capturedMinorUnits ≤ p.amount.amountMinorUnits
  refunded_le : p.refundedMinorUnits ≤ p.collectedMinorUnits
  no_captures : p.status.uncaptured → p.captures = []

variable {p : PaymentAggregate}

lemma collectedMinorUnits_of_collected (h : p.status.collected) :
    p.collectedMinorUnits = p.amount.amountMinorUnits := by
  unfold collectedMinorUnits
  revert h
  cases p.status <;> simp [PaymentStatus.collected]

lemma collectedMinorUnits_of_uncaptured (h : p.status.uncaptured) (hcaptures : p.captures = []) :
    p.collectedMinorUnits = 0 := by
  have hzero : p.capturedMinorUnits = 0 := by simp [capturedMinorUnits, hcaptures]
  unfold collectedMinorUnits
  revert h
  cases p.status <;> simp [PaymentStatus.uncaptured, hzero]

lemma Consistent.collected_le (h : p.Consistent) :
    p.collectedMinorUnits ≤ p.amount.amountMinorUnits := by
  have hle := h.captured_le
  unfold collectedMinorUnits
  cases p.status <;> simp [hle]

/-- The account of a payment. -/
def account (p : PaymentAggregate) (h : p.Consistent) : Account Int where
  limit := p.amount.amountMinorUnits
  collected := p.collectedMinorUnits
  returned := p.refundedMinorUnits
  returned_nonneg := Int.natCast_nonneg _
  returned_le := Int.ofNat_le.2 h.refunded_le
  collected_le := Int.ofNat_le.2 h.collected_le

lemma Consistent.of_same {q : PaymentAggregate} (hp : p.Consistent) (h : p.SameRecords q)
    (hstatus : q.status = p.status) : q.Consistent where
  currencies := h.oneCurrency hp.currencies
  captured_le := by
    rw [h.captured_eq, h.amount]
    exact hp.captured_le
  refunded_le := by
    rw [h.refunded_eq, collectedMinorUnits, hstatus, h.amount, h.captured_eq]
    exact hp.refunded_le
  no_captures := by
    rw [hstatus, h.captures]
    exact hp.no_captures

section append

variable (p : PaymentAggregate)

@[simp] lemma capturedMinorUnits_append (c : CaptureRecord) :
    capturedMinorUnits { p with captures := p.captures ++ [c] } =
      p.capturedMinorUnits + c.amount.amountMinorUnits := by
  simp [capturedMinorUnits]

@[simp] lemma refundedMinorUnits_append (r : RefundRecord) :
    refundedMinorUnits { p with refunds := p.refunds ++ [r] } =
      p.refundedMinorUnits + r.amount.amountMinorUnits := by
  simp [refundedMinorUnits]

variable {p}

lemma OneCurrency.append_capture (h : p.OneCurrency) {c : CaptureRecord}
    (hc : c.amount.currency = p.amount.currency) :
    OneCurrency { p with captures := p.captures ++ [c] } where
  refunds := h.refunds
  captures := List.forall_mem_append.2 ⟨h.captures, List.forall_mem_singleton.2 hc⟩

lemma OneCurrency.append_refund (h : p.OneCurrency) {r : RefundRecord}
    (hr : r.amount.currency = p.amount.currency) :
    OneCurrency { p with refunds := p.refunds ++ [r] } where
  captures := h.captures
  refunds := List.forall_mem_append.2 ⟨h.refunds, List.forall_mem_singleton.2 hr⟩

lemma SameRecords.append_capture {q : PaymentAggregate} (h : p.SameRecords q) (c : CaptureRecord) :
    SameRecords { p with captures := p.captures ++ [c] } { q with captures := q.captures ++ [c] } :=
  ⟨h.id, h.merchantId, h.amount, congrArg (· ++ [c]) h.captures, h.refunds⟩

lemma SameRecords.append_refund {q : PaymentAggregate} (h : p.SameRecords q) (r : RefundRecord) :
    SameRecords { p with refunds := p.refunds ++ [r] } { q with refunds := q.refunds ++ [r] } :=
  ⟨h.id, h.merchantId, h.amount, h.captures, congrArg (· ++ [r]) h.refunds⟩

end append

end PaymentAggregate

namespace PaymentStep

open PaymentAggregate

variable {p p' : PaymentAggregate} {event : LedgerOutboxEvent} {ev : Option LedgerOutboxEvent}

/-! ### Along the graph, with no record lost -/

lemma same_payment (h : PaymentStep p ev p') : p'.id = p.id ∧ p'.amount = p.amount := by
  cases h with
  | move same
  | charge same | capture _ same | refund _ same | lose _ _ same => exact ⟨same.id, same.amount⟩

lemma same_merchant (h : PaymentStep p ev p') : p'.merchantId = p.merchantId := by
  cases h with
  | move same
  | charge same | capture _ same | refund _ same | lose _ _ same => exact same.merchantId

lemma event_paymentId (h : PaymentStep p (some event) p') : event.paymentId = p.id := by
  cases h with
  | charge _ _ _ books | capture _ _ _ _ _ _ books => exact books.paymentId
  | refund _ _ _ _ _ _ books | lose _ _ _ _ _ _ books => exact books.paymentId

lemma charge_of_pending (h : PaymentStep p (some event) p')
    (hp : p.status = .PROCESSING ∨ p.status = .REQUIRES_ACTION ∨ p.status = .AMBIGUOUS) :
    p'.status = .SUCCEEDED ∧ event.Charges p'.id p'.amount := by
  obtain ⟨hid, hamount⟩ := h.same_payment
  cases h with
  | charge _ _ status books =>
    rw [hid, hamount]
    exact ⟨status, books⟩
  | capture _ _ _ _ pending => rcases hp with h | h | h <;> simp [h] at pending
  | refund _ _ _ _ charged => rcases hp with h | h | h <;> simp [h] at charged
  | lose _ _ _ _ disputed => rcases hp with h | h | h <;> simp [h] at disputed

/-- It follows the graph of the statuses. -/
lemma follows (h : PaymentStep p ev p') : p.status.Follows p'.status := by
  cases h with
  | move _ edge => exact edge.imp_right Or.inl
  | charge _ pending status =>
    rw [status]
    rcases pending with h | h | h <;> rw [h]
    · exact .inr (.inl rfl)
    · exact .inr (.inr ⟨rfl, rfl⟩)
    · exact .inr (.inl rfl)
  | capture _ _ _ _ pending status =>
    rw [status]
    rcases pending with h | h <;> rw [h] <;> split_ifs
    · exact .inr (.inl rfl)
    · exact .inr (.inl rfl)
    · exact .inr (.inl rfl)
    · exact .inl rfl
  | refund _ _ _ _ charged status =>
    rw [status]
    rcases charged with h | h <;> rw [h] <;> split_ifs
    · exact .inr (.inl rfl)
    · exact .inr (.inl rfl)
    · exact .inr (.inl rfl)
    · exact .inl rfl
  | lose _ _ _ _ disputed status =>
    rw [disputed, status]
    exact .inr (.inl rfl)

lemma keeps_records (h : PaymentStep p ev p') :
    p.captures <+: p'.captures ∧ p.refunds <+: p'.refunds := by
  cases h with
  | move same | charge same =>
    rw [same.captures, same.refunds]
    exact ⟨List.prefix_rfl, List.prefix_rfl⟩
  | capture _ same =>
    rw [same.captures, same.refunds]
    exact ⟨List.prefix_append _ _, List.prefix_rfl⟩
  | refund _ same | lose _ _ same =>
    rw [same.captures, same.refunds]
    exact ⟨List.prefix_rfl, List.prefix_append _ _⟩

lemma congr_left {q : PaymentAggregate} (hsame : q.SameRecords p) (hstatus : p.status = q.status)
    (h : PaymentStep p ev p') : PaymentStep q ev p' := by
  cases h with
  | move same edge side =>
    rw [hstatus] at edge side
    exact .move (hsame.trans same) edge side
  | charge same pending status books =>
    rw [hstatus] at pending
    rw [hsame.id, hsame.amount] at books
    exact .charge (hsame.trans same) pending status books
  | capture c same currency le pending status books =>
    rw [hstatus] at pending
    rw [hsame.captured_eq, hsame.amount] at status le
    rw [hsame.amount] at currency
    rw [hsame.id] at books
    exact .capture c ((hsame.append_capture c).trans same) currency le pending status books
  | refund r same currency le charged status books =>
    rw [hstatus] at charged
    rw [hsame.refunded_eq, hsame.amount] at status le
    rw [hsame.amount] at currency
    rw [hsame.id] at books
    exact .refund r ((hsame.append_refund r).trans same) currency le charged status books
  | lose r amount same all disputed status books =>
    rw [hstatus] at disputed
    rw [hsame.refunded_eq, hsame.amount] at all
    rw [hsame.id] at books
    exact .lose r amount ((hsame.append_refund r).trans same) all disputed status books

lemma of_transition {target : PaymentStatus} (htarget : target.uncaptured)
    (h : p.status.isValidTransition target ∧ p'.status = target ∧ p.SameRecords p') :
    PaymentStep p none p' := by
  obtain ⟨hvalid, rfl, hsame⟩ := h
  exact .move hsame (.inr hvalid)
    (.inl ⟨PaymentStatus.uncaptured_of_isValidTransition hvalid htarget, htarget⟩)

/-! ### Consistency -/

lemma collected_of_move (hp : p.Consistent) (same : p.SameRecords p')
    (side : p.status.uncaptured ∧ p'.status.uncaptured ∨ p.status.collected ∧ p'.status.collected) :
    p'.collectedMinorUnits = p.collectedMinorUnits := by
  rcases side with ⟨h, h'⟩ | ⟨h, h'⟩
  · have hnone := hp.no_captures h
    rw [collectedMinorUnits_of_uncaptured h hnone,
      collectedMinorUnits_of_uncaptured h' (same.captures.trans hnone)]
  · rw [collectedMinorUnits_of_collected h, collectedMinorUnits_of_collected h', same.amount]

/-- Until the authorisation is captured in full, what is collected is what is captured; and when
it is, the two agree still. -/
lemma collected_of_capture {c : CaptureRecord}
    (same : PaymentAggregate.SameRecords { p with captures := p.captures ++ [c] } p')
    (status : p'.status =
      if p.capturedMinorUnits + c.amount.amountMinorUnits = p.amount.amountMinorUnits
      then .SUCCEEDED else .PARTIALLY_CAPTURED) :
    p'.collectedMinorUnits = p.capturedMinorUnits + c.amount.amountMinorUnits := by
  unfold collectedMinorUnits
  rw [status]
  split_ifs with hfull
  · rw [same.amount, hfull]
  · exact same.captured_eq.trans (capturedMinorUnits_append p c)

lemma collected_of_capturing
    (pending : p.status = .REQUIRES_CAPTURE ∨ p.status = .PARTIALLY_CAPTURED) :
    p.collectedMinorUnits = p.capturedMinorUnits := by
  unfold collectedMinorUnits
  rcases pending with h | h <;> rw [h]

/-- A refund, or the loss of a dispute, gives back part of a payment that was collected in full. -/
lemma consistent_giveBack {r : RefundRecord} (hp : p.Consistent)
    (same : PaymentAggregate.SameRecords { p with refunds := p.refunds ++ [r] } p')
    (currency : r.amount.currency = p.amount.currency)
    (le : p.refundedMinorUnits + r.amount.amountMinorUnits ≤ p.amount.amountMinorUnits)
    (status : p'.status.collected) : p'.Consistent where
  currencies := same.oneCurrency (hp.currencies.append_refund currency)
  captured_le := by
    rw [same.captured_eq, same.amount]
    exact hp.captured_le
  refunded_le := by
    rw [same.refunded_eq, refundedMinorUnits_append, collectedMinorUnits_of_collected status,
      same.amount]
    exact le
  no_captures := fun h => absurd h (PaymentStatus.not_uncaptured_of_collected status)

/-- A step keeps a payment consistent. -/
lemma consistent (h : PaymentStep p ev p') (hp : p.Consistent) : p'.Consistent := by
  cases h with
  | move same edge side =>
    refine ⟨same.oneCurrency hp.currencies, ?_, ?_, ?_⟩
    · rw [same.captured_eq, same.amount]
      exact hp.captured_le
    · rw [same.refunded_eq, collected_of_move hp same side]
      exact hp.refunded_le
    · intro h'
      rw [same.captures]
      rcases side with ⟨h, -⟩ | ⟨-, hcollected⟩
      · exact hp.no_captures h
      · exact absurd h' (PaymentStatus.not_uncaptured_of_collected hcollected)
  | charge same pending status =>
    refine ⟨same.oneCurrency hp.currencies, ?_, ?_, ?_⟩
    · rw [same.captured_eq, same.amount]
      exact hp.captured_le
    · rw [same.refunded_eq, collectedMinorUnits_of_collected (by rw [status]; rfl), same.amount]
      exact hp.refunded_le.trans hp.collected_le
    · intro h'
      rw [status] at h'
      exact absurd h' (by decide)
  | capture c same currency le pending status =>
    refine ⟨same.oneCurrency (hp.currencies.append_capture currency), ?_, ?_, ?_⟩
    · rw [same.captured_eq, capturedMinorUnits_append, same.amount]
      exact le
    · rw [same.refunded_eq, collected_of_capture same status]
      have hle := hp.refunded_le
      rw [collected_of_capturing pending] at hle
      exact hle.trans (Nat.le_add_right _ _)
    · intro h'
      rw [status] at h'
      split_ifs at h' <;> exact absurd h' (by decide)
  | refund _ same currency le charged status =>
    refine consistent_giveBack hp same currency le ?_
    rw [status]
    split_ifs <;> rfl
  | lose r amount same all disputed status =>
    refine consistent_giveBack hp same ?_ ?_ ?_
    · rw [all.2]
    · rw [all.2]
      exact (Nat.add_sub_cancel' all.1).le
    · rw [status]
      rfl

/-! ### Refinement -/

/-- What an event, if there is one, settles in the currency of the payment. -/
def movement (p : PaymentAggregate) (ev : Option LedgerOutboxEvent) : Int :=
  ev.elim 0 (·.settled p.amount.currency)

lemma movement_charge {amount : Money} (books : event.Charges p.id amount)
    (currency : amount.currency = p.amount.currency) :
    movement p (some event) = amount.amountMinorUnits := by
  change event.settled p.amount.currency = _
  rw [← currency, books.settled]
  exact one_mul _

lemma movement_refund {amount : Money} (books : event.Refunds p.id amount)
    (currency : amount.currency = p.amount.currency) :
    movement p (some event) = -amount.amountMinorUnits := by
  change event.settled p.amount.currency = _
  rw [← currency, books.settled]
  exact neg_one_mul _

lemma account_giveBack {r : RefundRecord} {n : Int} (hp : p.Consistent) (hp' : p'.Consistent)
    (same : PaymentAggregate.SameRecords { p with refunds := p.refunds ++ [r] } p')
    (hcollected : p.status.collected) (hcollected' : p'.status.collected)
    (hn : n = -r.amount.amountMinorUnits) :
    Account.Step (p.account hp) n (p'.account hp') := by
  rw [hn]
  refine .giveBack ?_ ?_ ?_
  · exact congrArg (fun m : Money => (m.amountMinorUnits : Int)) same.amount
  · change (p'.collectedMinorUnits : Int) = p.collectedMinorUnits
    rw [collectedMinorUnits_of_collected hcollected, collectedMinorUnits_of_collected hcollected',
      same.amount]
  · change (p'.refundedMinorUnits : Int) = p.refundedMinorUnits + r.amount.amountMinorUnits
    rw [same.refunded_eq, refundedMinorUnits_append, Nat.cast_add]

/-- **Refinement**: a step of the payment is a step of its account, labelled with what the event
settles, as long as the event of a lost dispute is for what is left. -/
theorem refines (h : PaymentStep p ev p') (hp : p.Consistent)
    (hlose : p.status = .DISPUTED → ∀ event, ev = some event → event.Refunds p.id
      ⟨p.amount.amountMinorUnits - p.refundedMinorUnits, p.amount.currency⟩) :
    Account.Step (p.account hp) (movement p ev) (p'.account (h.consistent hp)) := by
  have hp' := h.consistent hp
  cases h with
  | move same edge side =>
    refine .collect ?_ ?_ ?_
    · exact congrArg (fun m : Money => (m.amountMinorUnits : Int)) same.amount
    · change (p'.collectedMinorUnits : Int) = p.collectedMinorUnits + 0
      rw [collected_of_move hp same side, add_zero]
    · exact congrArg Nat.cast same.refunded_eq
  | charge same pending status books =>
    have huncaptured : p.status.uncaptured := by rcases pending with h | h | h <;> rw [h] <;> rfl
    rw [movement_charge books rfl]
    refine .collect ?_ ?_ ?_
    · exact congrArg (fun m : Money => (m.amountMinorUnits : Int)) same.amount
    · change (p'.collectedMinorUnits : Int) =
        p.collectedMinorUnits + p.amount.amountMinorUnits
      rw [collectedMinorUnits_of_collected (by rw [status]; rfl), same.amount,
        collectedMinorUnits_of_uncaptured huncaptured (hp.no_captures huncaptured),
        Nat.cast_zero, zero_add]
    · exact congrArg Nat.cast same.refunded_eq
  | capture c same currency le pending status books =>
    rw [movement_charge books currency]
    refine .collect ?_ ?_ ?_
    · exact congrArg (fun m : Money => (m.amountMinorUnits : Int)) same.amount
    · change (p'.collectedMinorUnits : Int) =
        p.collectedMinorUnits + c.amount.amountMinorUnits
      rw [collected_of_capture same status, collected_of_capturing pending, Nat.cast_add]
    · exact congrArg Nat.cast same.refunded_eq
  | refund _ same currency le charged status books =>
    refine account_giveBack hp hp' same ?_ ?_ (movement_refund books currency)
    · rcases charged with h | h <;> rw [h] <;> rfl
    · rw [status]
      split_ifs <;> rfl
  | lose _ _ same all disputed status =>
    refine account_giveBack hp hp' same ?_ ?_ ?_
    · rw [disputed]
      rfl
    · rw [status]
      rfl
    · rw [all.2]
      exact movement_refund (hlose disputed _ rfl) rfl

end PaymentStep

end OmniSwitch
