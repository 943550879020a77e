import OmniSwitch.Bnpl.Service

/-!
# Orders, ledger and Klarna

Calls of `createOrder` and `refundOrder` in any interleaving.  Klarna is asked before the order is
saved and the event is booked, so what it accepted may be ahead of both; here is what the orders,
the outbox and Klarna have in common all the same, what each call relies on, and what each step
keeps.

Main results:

* `BnplStage.total_le`: Klarna refunds no more than it captured;
* `BnplCall.Relies.trans`: what a call relies on holds across any number of steps of the others;
* `BnplStep.save`, `BnplStep.captureOrder`, `BnplStep.refundOrder`, `BnplStep.saveWithPayment`: each
  step keeps the three together and keeps off what the other calls rely on.
-/

namespace OmniSwitch

open Lib Lib.Prog KlarnaOperation RefundOrderCall

namespace BnplDb

/-! ### What belongs to an order, and to a call -/

/-- The captures Klarna accepted for an order. -/
def capturesOf (db : BnplDb) (id : String) : List KlarnaOperation :=
  db.captures.filter (·.request.orderId = id)

/-- The refunds Klarna accepted for an order. -/
def refundsOf (db : BnplDb) (id : String) : List KlarnaOperation :=
  db.refunds.filter (·.request.orderId = id)

/-- The events that book the capture of an order. -/
def capturedOf (db : BnplDb) (id : String) : List LedgerOutboxEvent :=
  db.outbox.filter fun event => event.paymentId = id ∧ event.eventType = .BNPL_CAPTURED

/-- The refunds Klarna accepted under an idempotency key. -/
def refundedBy (db : BnplDb) (key : String) : List KlarnaOperation :=
  db.refunds.filter (·.request.idempotencyKey = key)

/-- The events under an identifier. -/
def bookedBy (db : BnplDb) (eventId : String) : List LedgerOutboxEvent :=
  db.outbox.filter (·.id = eventId)

end BnplDb

/-- The total of operations in a currency, in minor units. -/
def KlarnaOperation.total (currency : Currency) (ops : List KlarnaOperation) : Nat :=
  ((ops.filter (·.request.amount.currency = currency)).map
    (·.request.amount.amountMinorUnits)).sum

/-- What an operation and a record have in common. -/
def KlarnaOperation.entry (op : KlarnaOperation) : Money × Option String :=
  (op.request.amount, some op.reference)

/-- What an operation and a record have in common. -/
def BnplRefundRecord.entry (record : BnplRefundRecord) : Money × Option String :=
  (record.amount, record.providerRefundId)

/-! ### What Klarna has accepted for an order -/

/-- The refunds Klarna accepted are the ones on record, or one more that is within the rest. -/
def BnplOrder.Tracks (order : BnplOrder) (refunds : List KlarnaOperation) : Prop :=
  refunds.map entry = order.refunds.map BnplRefundRecord.entry ∨
    ∃ earlier op, refunds = earlier ++ [op] ∧
      earlier.map entry = order.refunds.map BnplRefundRecord.entry ∧
      order.Within op.request.amount

/-- What Klarna has accepted for a captured order, against what is on record. -/
structure BnplOrder.Standing (order : BnplOrder) (captures refunds : List KlarnaOperation) :
    Prop where
  recorded : order.Recorded
  captured : ∃ op, captures = [op] ∧ op.request.amount = order.amount ∧
    order.providerCaptureId = some op.reference
  refunded : order.Tracks refunds

/-- The order is not captured, or not even there. -/
def Unpaid (row : Option BnplOrder) : Prop :=
  ∀ order, row = some order → order.status.isCaptured = false

/-- Klarna refunds captured orders only, and those as they stand. -/
structure BnplStage (row : Option BnplOrder) (captures refunds : List KlarnaOperation) : Prop where
  unpaid : Unpaid row → refunds = []
  standing : ∀ order, row = some order → order.status.isCaptured = true →
    order.Standing captures refunds

variable {order : BnplOrder}
variable {captures refunds : List KlarnaOperation}

/-- An order that stands as recorded is at a stage. -/
lemma BnplOrder.Standing.stage (h : order.Standing captures refunds) :
    BnplStage (some order) captures refunds where
  unpaid := fun hunpaid => nomatch h.recorded.isCaptured.symm.trans (hunpaid order rfl)
  standing := by
    rintro _ ⟨rfl⟩ -
    exact h

variable {ops : List KlarnaOperation}

/-- Refunds at Klarna that match the record come to what is recorded. -/
lemma BnplOrder.Recorded.total_eq (h : order.Recorded)
    (hops : ops.map entry = order.refunds.map BnplRefundRecord.entry) :
    (∀ op ∈ ops, op.request.amount.currency = order.amount.currency) ∧
      (ops.map (·.request.amount.amountMinorUnits)).sum = order.refunded := by
  have hamounts : ops.map (·.request.amount) = order.refunds.map (·.amount) := by
    have := congrArg (List.map Prod.fst) hops
    rwa [List.map_map, List.map_map] at this
  constructor
  · intro op hop
    have hmem : op.request.amount ∈ order.refunds.map (·.amount) := by
      rw [← hamounts]
      exact List.mem_map_of_mem hop
    obtain ⟨r, hr, heq⟩ := List.mem_map.1 hmem
    rw [← heq]
    exact h.currency r hr
  · have := congrArg (fun amounts => (List.map Money.amountMinorUnits amounts).sum) hamounts
    simp only [List.map_map] at this
    exact this

/-- The total of operations that share a currency. -/
lemma KlarnaOperation.total_of_currency {c : Currency}
    (h : ∀ op ∈ ops, op.request.amount.currency = c) (currency : Currency) :
    total currency ops =
      if c = currency then (ops.map (·.request.amount.amountMinorUnits)).sum else 0 := by
  unfold total
  by_cases hc : c = currency
  · rw [if_pos hc, List.filter_eq_self.2 fun op hop => decide_eq_true ((h op hop).trans hc)]
  · rw [if_neg hc, List.filter_eq_nil_iff.2 fun op hop heq =>
      hc ((h op hop).symm.trans (of_decide_eq_true heq))]
    rfl

/-- Klarna never refunds more than it captured. -/
lemma BnplStage.total_le {row : Option BnplOrder} (h : BnplStage row captures refunds)
    (currency : Currency) : total currency refunds ≤ total currency captures := by
  by_cases hrow : Unpaid row
  · rw [h.unpaid hrow]
    exact Nat.zero_le _
  · obtain ⟨order, rfl, hcaptured⟩ :
        ∃ order, row = some order ∧ order.status.isCaptured = true := by
      simpa [Unpaid] using hrow
    obtain ⟨hrecorded, ⟨capture, rfl, hamount, -⟩, hrefunded⟩ := h.standing order rfl hcaptured
    have hcapture : ∀ op ∈ [capture], op.request.amount.currency = order.amount.currency := by
      simp [hamount]
    -- what Klarna accepted is in the order's currency, and within its amount
    obtain ⟨hcurrency, hle⟩ :
        (∀ op ∈ refunds, op.request.amount.currency = order.amount.currency) ∧
          (refunds.map (·.request.amount.amountMinorUnits)).sum ≤
            order.amount.amountMinorUnits := by
      rcases hrefunded with heq | ⟨earlier, op, rfl, heq, hwithin⟩
      · obtain ⟨hcurrency, hsum⟩ := hrecorded.total_eq heq
        exact ⟨hcurrency, hsum.trans_le hrecorded.within_amount⟩
      · obtain ⟨hcurrency, hsum⟩ := hrecorded.total_eq heq
        refine ⟨?_, ?_⟩
        · simpa [hwithin.1, or_imp, forall_and] using hcurrency
        · rw [List.map_append, List.sum_append, hsum]
          simpa using hwithin.2
    rw [total_of_currency hcurrency, total_of_currency hcapture]
    split_ifs
    · simpa [hamount] using hle
    · exact Nat.le_refl _

/-! ### What the calls rely on -/

/-- Every order stays, with its refunds on record, and a captured one stays captured as it was. -/
def BnplDb.Extends (s s' : BnplDb) : Prop :=
  ∀ id order, s.orders.get id = some order → ∃ order', s'.orders.get id = some order' ∧
    order.refunds <+: order'.refunds ∧
    (order.status.isCaptured = true → order'.status.isCaptured = true ∧
      order'.amount = order.amount ∧ order'.providerCaptureId = order.providerCaptureId)

/-- Klarna has accepted the call's refund, which is not on record yet. -/
def RefundOrderCall.Pending (call : RefundOrderCall) (db : BnplDb) : Prop :=
  ∃ order earlier op, db.orders.get call.id = some order ∧
    db.refundsOf call.id = earlier ++ [op] ∧ op.request.idempotencyKey = call.refundKey ∧
    earlier.length = order.refunds.length

/-- What a call relies on: an order that is not captured is left to the call that creates it, and
while a refund is pending its order is left to the call that asked for it. -/
def BnplCall.Relies : BnplCall → BnplDb → BnplDb → Prop
  | createOrder call, s, s' =>
    (Unpaid (s.orders.get call.orderId) →
      s'.orders.get call.orderId = s.orders.get call.orderId) ∧
    s'.capturesOf call.orderId = s.capturesOf call.orderId ∧
    s'.capturedOf call.orderId = s.capturedOf call.orderId
  | refundOrder call, s, s' =>
    s'.refundedBy call.refundKey = s.refundedBy call.refundKey ∧
    s'.bookedBy call.eventId = s.bookedBy call.eventId ∧
    (call.Pending s → s'.orders.get call.id = s.orders.get call.id ∧
      s'.refundsOf call.id = s.refundsOf call.id)

/-- Orders that are left as they are extend themselves. -/
lemma BnplDb.Extends.of_orders {s s' : BnplDb} (h : s'.orders = s.orders) : s.Extends s' :=
  fun _ order hget => ⟨order, h ▸ hget, List.prefix_rfl, fun hc => ⟨hc, rfl, rfl⟩⟩

lemma BnplDb.Extends.trans {a b c : BnplDb} (hab : a.Extends b) (hbc : b.Extends c) :
    a.Extends c := by
  intro id order h
  obtain ⟨order', h', hkept, hcaptured⟩ := hab id order h
  obtain ⟨order'', h'', hkept', hcaptured'⟩ := hbc id order' h'
  refine ⟨order'', h'', hkept.trans hkept', fun hc => ?_⟩
  obtain ⟨hc', hamount, hcapture⟩ := hcaptured hc
  obtain ⟨hc'', hamount', hcapture'⟩ := hcaptured' hc'
  exact ⟨hc'', hamount'.trans hamount, hcapture'.trans hcapture⟩

variable {s : BnplDb}

namespace BnplCall

lemma Relies.refl (call : BnplCall) (s : BnplDb) : call.Relies s s := by
  cases call with
  | createOrder call => exact ⟨fun _ => rfl, rfl, rfl⟩
  | refundOrder call => exact ⟨rfl, rfl, fun _ => ⟨rfl, rfl⟩⟩

lemma Relies.trans {call : BnplCall} {a b c : BnplDb} (hab : call.Relies a b)
    (hbc : call.Relies b c) : call.Relies a c := by
  cases call with
  | createOrder call =>
    obtain ⟨hrow, hcaptures, hbooked⟩ := hab
    obtain ⟨hrow', hcaptures', hbooked'⟩ := hbc
    refine ⟨fun hunpaid => ?_, hcaptures'.trans hcaptures, hbooked'.trans hbooked⟩
    have heq := hrow hunpaid
    exact (hrow' (heq ▸ hunpaid)).trans heq
  | refundOrder call =>
    obtain ⟨hrefunded, hbooked, hpending⟩ := hab
    obtain ⟨hrefunded', hbooked', hpending'⟩ := hbc
    refine ⟨hrefunded'.trans hrefunded, hbooked'.trans hbooked, fun h => ?_⟩
    obtain ⟨horder, hrefunds⟩ := hpending h
    obtain ⟨order, earlier, op, hget, hsplit, hkey, hlength⟩ := h
    obtain ⟨horder', hrefunds'⟩ := hpending' ⟨order, earlier, op, horder.trans hget,
      hrefunds.trans hsplit, hkey, hlength⟩
    exact ⟨horder'.trans horder, hrefunds'.trans hrefunds⟩

/-- The identifier of the event a call books. -/
def eventId : BnplCall → String
  | createOrder call => call.eventId
  | refundOrder call => call.eventId

/-- Two calls draw different identifiers.

Source: `BnplService` -/
def Apart (a b : BnplCall) : Prop :=
  a.eventId ≠ b.eventId ∧ match a, b with
    | createOrder a, createOrder b => a.orderId ≠ b.orderId
    | refundOrder a, refundOrder b => a.refundKey ≠ b.refundKey
    | _, _ => True

lemma Apart.symm {a b : BnplCall} (h : a.Apart b) : b.Apart a := by
  refine ⟨h.1.symm, ?_⟩
  cases a <;> cases b <;> first | exact h.2.symm | trivial

end BnplCall

/-- Orders, outbox and Klarna fit together, and all of it comes from the calls. -/
structure BnplDb.Agrees (calls : List BnplCall) (db : BnplDb) : Prop where
  unique : ∀ r ∈ db.orders.rows, ∀ r' ∈ db.orders.rows,
    r.idempotencyKey = r'.idempotencyKey → r.id = r'.id
  stage : ∀ id, BnplStage (db.orders.get id) (db.capturesOf id) (db.refundsOf id)
  captured : ∀ op ∈ db.captures, ∃ call, .createOrder call ∈ calls ∧
    op.request.orderId = call.orderId ∧ op.request.amount = call.amount
  refunded : ∀ op ∈ db.refunds, ∃ call, .refundOrder call ∈ calls ∧
    op.request.orderId = call.id ∧ op.request.amount = call.amount ∧
    op.request.idempotencyKey = call.refundKey
  booked : ∀ event ∈ db.outbox,
    (∃ call, .createOrder call ∈ calls ∧
      event.BooksBnpl call.eventId call.orderId .BNPL_CAPTURED call.amount) ∨
    ∃ call, .refundOrder call ∈ calls ∧
      event.BooksBnpl call.eventId call.id .BNPL_REFUNDED call.amount

/-- Before the first call everything agrees. -/
lemma BnplDb.agrees_empty (calls : List BnplCall) : BnplDb.empty.Agrees calls where
  unique := fun _ hr => absurd hr List.not_mem_nil
  stage := fun _ => ⟨fun _ => rfl, fun _ h => nomatch h⟩
  captured := fun _ hop => absurd hop List.not_mem_nil
  refunded := fun _ hop => absurd hop List.not_mem_nil
  booked := fun _ hevent => absurd hevent List.not_mem_nil

section calls

variable {calls : List BnplCall} {i : Nat}

/-- What call `i` does to the others: orders are extended, and what they rely on stays. -/
def BnplGuarantee (calls : List BnplCall) (i : Nat) (s s' : BnplDb) : Prop :=
  s.Extends s' ∧ ∀ j call, j ≠ i → calls[j]? = some call → call.Relies s s'

/-- What call `i` may count on while the others run. -/
def BnplRely (calls : List BnplCall) (i : Nat) (s s' : BnplDb) : Prop :=
  s.Extends s' ∧ ∀ call, calls[i]? = some call → call.Relies s s'

/-- A step of call `i` keeps everything together, and keeps off what the others rely on. -/
def BnplStep (calls : List BnplCall) (i : Nat) (s s' : BnplDb) : Prop :=
  s'.Agrees calls ∧ BnplGuarantee calls i s s'

/-- Two calls at different positions draw different identifiers. -/
lemma apart_of_ne (hfresh : calls.Pairwise BnplCall.Apart) {j : Nat} {a b : BnplCall}
    (ha : calls[i]? = some a) (hb : calls[j]? = some b) (hij : i ≠ j) : a.Apart b := by
  obtain ⟨hi, rfl⟩ := List.getElem?_eq_some_iff.1 ha
  obtain ⟨hj, rfl⟩ := List.getElem?_eq_some_iff.1 hb
  rw [List.pairwise_iff_getElem] at hfresh
  rcases Nat.lt_or_gt_of_ne hij with h | h
  · exact hfresh i j hi hj h
  · exact (hfresh j i hj hi h).symm

lemma BnplStep.refl (h : s.Agrees calls) : BnplStep calls i s s :=
  ⟨h, .of_orders rfl, fun _ call _ _ => .refl call s⟩

/-- An order is saved: it stands as it should, keeps what was on record, and nobody else relies on
the old one. -/
lemma BnplStep.save (h : s.Agrees calls) (hconflict : s.conflicts order = false)
    (hstage : BnplStage (some order) (s.capturesOf order.id) (s.refundsOf order.id))
    (hold : ∀ old, s.orders.get order.id = some old → old.refunds <+: order.refunds ∧
      (old.status.isCaptured = true → order.status.isCaptured = true ∧
        order.amount = old.amount ∧ order.providerCaptureId = old.providerCaptureId))
    (hcreates : ∀ j call, j ≠ i → calls[j]? = some (.createOrder call) →
      call.orderId = order.id → ¬ Unpaid (s.orders.get order.id))
    (hrefunds : ∀ j call, j ≠ i → calls[j]? = some (.refundOrder call) → call.id = order.id →
      ¬ call.Pending s) :
    BnplStep calls i s { s with orders := s.orders.put order } := by
  have hget := s.orders.get_put order
  refine ⟨⟨?_, ?_, h.captured, h.refunded, h.booked⟩, ?_, ?_⟩
  · -- the new row has a key of its own
    have hnew : ∀ r ∈ s.orders.rows,
        r.idempotencyKey = order.idempotencyKey → r.id = order.id := by
      intro r hr hkey
      by_contra hid
      have := List.any_eq_false.1 hconflict r hr
      exact this (decide_eq_true ⟨hkey, hid⟩)
    intro r hr r' hr' hkey
    rcases Table.mem_put hr with hthere | heq <;> rcases Table.mem_put hr' with hthere' | heq'
    · exact h.unique r hthere r' hthere' hkey
    · rw [heq'] at hkey ⊢
      exact hnew r hthere hkey
    · rw [heq] at hkey ⊢
      exact (hnew r' hthere' hkey.symm).symm
    · rw [heq, heq']
  · intro id
    change BnplStage ((s.orders.put order).get id) (s.capturesOf id) (s.refundsOf id)
    rw [hget]
    by_cases hid : id = order.id
    · rw [if_pos hid, hid]
      exact hstage
    · rw [if_neg hid]
      exact h.stage id
  · intro id old hid
    by_cases hne : id = order.id
    · subst hne
      obtain ⟨hkept, hcaptured⟩ := hold old hid
      exact ⟨order, s.orders.get_put_self order, hkept, hcaptured⟩
    · exact ⟨old, (s.orders.get_put_of_ne hne).trans hid, List.prefix_rfl,
        fun hc => ⟨hc, rfl, rfl⟩⟩
  · intro j call hj hcall
    cases call with
    | createOrder call =>
      refine ⟨fun hunpaid => s.orders.get_put_of_ne fun hid => ?_, rfl, rfl⟩
      exact hcreates j call hj hcall hid (hid ▸ hunpaid)
    | refundOrder call =>
      refine ⟨rfl, rfl, fun hpending => ⟨s.orders.get_put_of_ne fun hid => ?_, rfl⟩⟩
      exact hrefunds j call hj hcall hid hpending

/-- Klarna is asked to capture an order: only the call that creates the order does so. -/
lemma BnplStep.captureOrder (hfresh : calls.Pairwise BnplCall.Apart) {call : CreateOrderCall}
    (h : s.Agrees calls) (hi : calls[i]? = some (.createOrder call))
    (hunpaid : Unpaid (s.orders.get call.orderId)) (providerOrderId : String)
    (answer : KlarnaAnswer) :
    BnplStep calls i s { s with
      captures :=
        s.captures ++ BnplCmd.accepted (call.captureRequest providerOrderId) answer } := by
  have hother : ∀ id, id ≠ call.orderId →
      (s.captures ++ BnplCmd.accepted (call.captureRequest providerOrderId) answer).filter
        (·.request.orderId = id) = s.capturesOf id := by
    intro id hid
    have hfilter : (BnplCmd.accepted (call.captureRequest providerOrderId) answer).filter
        (·.request.orderId = id) = [] := by
      cases answer with
      | success reference => exact List.filter_cons_of_neg fun h => hid (of_decide_eq_true h).symm
      | failure errorMessage => rfl
    rw [List.filter_append, hfilter, List.append_nil]
    rfl
  refine ⟨⟨h.unique, fun id => ?_, ?_, h.refunded, h.booked⟩, .of_orders rfl, ?_⟩
  · by_cases hid : id = call.orderId
    · subst hid
      refine ⟨(h.stage _).unpaid, fun order hget hcaptured => ?_⟩
      exact nomatch hcaptured.symm.trans (hunpaid order hget)
    · change BnplStage (s.orders.get id) (List.filter _ _) (s.refundsOf id)
      rw [hother id hid]
      exact h.stage id
  · refine List.forall_mem_append.2 ⟨h.captured, ?_⟩
    cases answer with
    | success reference =>
      exact List.forall_mem_singleton.2 ⟨call, List.mem_of_getElem? hi, rfl, rfl⟩
    | failure errorMessage => exact List.forall_mem_nil _
  · intro j other hj hother'
    cases other with
    | createOrder other =>
      have hne := (apart_of_ne hfresh hother' hi hj).2
      exact ⟨fun _ => rfl, hother _ hne, rfl⟩
    | refundOrder other => exact ⟨rfl, rfl, fun _ => ⟨rfl, rfl⟩⟩

/-- The refund as Klarna keeps it. -/
def RefundOrderCall.operation (call : RefundOrderCall) (order : BnplOrder) (reference : String) :
    KlarnaOperation :=
  ⟨call.refundRequest order, reference⟩

/-- Klarna accepts a refund of a captured order, within what is left of it and with none pending. -/
lemma BnplStep.refundOrder (hfresh : calls.Pairwise BnplCall.Apart) {call : RefundOrderCall}
    (h : s.Agrees calls) (hi : calls[i]? = some (.refundOrder call))
    (hget : s.orders.get call.id = some order) (hcaptured : order.status.isCaptured = true)
    (hnone : (s.refundsOf call.id).length = order.refunds.length)
    (hwithin : order.Within call.amount) (reference : String) :
    BnplStep calls i s
      { s with refunds := s.refunds ++ [call.operation order reference] } := by
  have hother : ∀ id, id ≠ call.id → (s.refunds ++ [call.operation order reference]).filter
      (·.request.orderId = id) = s.refundsOf id := by
    intro id hid
    rw [List.filter_append]
    simp [operation, refundRequest, BnplDb.refundsOf, Ne.symm hid]
  have hself : (s.refunds ++ [call.operation order reference]).filter
      (·.request.orderId = call.id) =
        s.refundsOf call.id ++ [call.operation order reference] := by
    rw [List.filter_append]
    simp [operation, refundRequest, BnplDb.refundsOf]
  refine ⟨⟨h.unique, fun id => ?_, h.captured, ?_, h.booked⟩, .of_orders rfl, ?_⟩
  · change BnplStage (s.orders.get id) (s.capturesOf id) (List.filter _ _)
    by_cases hid : id = call.id
    · subst hid
      obtain ⟨hrecorded, hcapture, hrefunded⟩ := (h.stage _).standing order hget hcaptured
      rw [hself, hget]
      refine BnplOrder.Standing.stage ⟨hrecorded, hcapture, .inr ⟨_, _, rfl, ?_, hwithin⟩⟩
      -- with as many refunds on record as accepted, none is pending
      rcases hrefunded with heq | ⟨earlier, op, hsplit, heq, -⟩
      · exact heq
      · have hlength := congrArg List.length heq
        rw [hsplit, List.length_append, List.length_singleton] at hnone
        rw [List.length_map, List.length_map] at hlength
        omega
    · rw [hother id hid]
      exact h.stage id
  · exact List.forall_mem_append.2 ⟨h.refunded, List.forall_mem_singleton.2
      ⟨call, List.mem_of_getElem? hi, rfl, rfl, rfl⟩⟩
  · intro j other hj hother'
    cases other with
    | createOrder other => exact ⟨fun _ => rfl, rfl, rfl⟩
    | refundOrder other =>
      have hne : other.refundKey ≠ call.refundKey := (apart_of_ne hfresh hother' hi hj).2
      refine ⟨?_, rfl, fun hpending => ⟨rfl, hother _ fun hid => ?_⟩⟩
      · change List.filter _ _ = _
        rw [List.filter_append]
        simp [operation, refundRequest, BnplDb.refundedBy, Ne.symm hne]
      · obtain ⟨order', earlier, op, hget', hsplit, -, hlength⟩ := hpending
        rw [hid] at hget' hsplit
        cases hget.symm.trans hget'
        rw [hsplit, List.length_append, List.length_singleton] at hnone
        omega

/-- An event is booked under the identifier the call drew for it. -/
lemma BnplStep.saveWithPayment (hfresh : calls.Pairwise BnplCall.Apart) {call : BnplCall}
    (h : s.Agrees calls) (hi : calls[i]? = some call) {event : LedgerOutboxEvent}
    (hid : event.id = call.eventId) (hbooked : (∃ c, .createOrder c ∈ calls ∧
        event.BooksBnpl c.eventId c.orderId .BNPL_CAPTURED c.amount) ∨
      ∃ c, .refundOrder c ∈ calls ∧ event.BooksBnpl c.eventId c.id .BNPL_REFUNDED c.amount)
    (hown : event.eventType = .BNPL_CAPTURED →
      ∃ c, call = .createOrder c ∧ event.paymentId = c.orderId) :
    BnplStep calls i s { s with outbox := s.outbox ++ [event] } := by
  refine ⟨⟨h.unique, h.stage, h.captured, h.refunded, ?_⟩, .of_orders rfl, ?_⟩
  · exact List.forall_mem_append.2 ⟨h.booked, List.forall_mem_singleton.2 hbooked⟩
  · intro j other hj hother
    have hapart := apart_of_ne hfresh hother hi hj
    cases other with
    | createOrder other =>
      refine ⟨fun _ => rfl, rfl, ?_⟩
      have hnot : ¬ (event.paymentId = other.orderId ∧ event.eventType = .BNPL_CAPTURED) := by
        rintro ⟨hpayment, htype⟩
        obtain ⟨c, rfl, hc⟩ := hown htype
        exact hapart.2 (hpayment.symm.trans hc)
      change List.filter _ _ = _
      rw [List.filter_append]
      simp [BnplDb.capturedOf, hnot]
    | refundOrder other =>
      refine ⟨rfl, ?_, fun _ => ⟨rfl, rfl⟩⟩
      have hnot : event.id ≠ other.eventId := fun heq => hapart.1 (heq.symm.trans hid)
      change List.filter _ _ = _
      rw [List.filter_append]
      simp [BnplDb.bookedBy, hnot]

end calls

end OmniSwitch
