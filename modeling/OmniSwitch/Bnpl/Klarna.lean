import OmniSwitch.Bnpl.Agreement

/-!
# What Klarna accepted is booked

A call of `createOrder` or `refundOrder` is followed step by step while the others interfere, with
what it relies on and what it guarantees.  Klarna is asked before anything is saved, so the result
needs that nothing fails after Klarna has accepted, and that refunds of one order do not overlap.

Main results:

* `CreateOrderCall.createOrder_holds`, `RefundOrderCall.refundOrder_holds`: what each call leaves,
  however the others interfere;
* `klarna_agrees`: orders, outbox and Klarna agree in every interleaving that meets the conditions;
* `klarna_disagrees`: fees above the amount, a refund above what is left, and two refunds at once.
-/

namespace OmniSwitch

open Lib Lib.Prog BnplProg

/-! ### Conditions -/

/-- Once Klarna has accepted the capture, nothing fails: the fees fit into the amount, the answer
arrives, and the order and the event are saved. -/
structure CreateOrderCall.Lasting (call : CreateOrderCall) : Prop where
  fees : ∀ platformFeeBps ∈ call.merchant, FeesFit call.amount platformFeeBps
  answered : ∀ f ∈ call.fault .captureOrder, f.applied = false
  saved : call.fault .saveCaptured = none
  booked : call.fault .saveWithPayment = none

/-- Once Klarna has accepted the refund, its answer arrives, and order and event are saved. -/
structure RefundOrderCall.Lasting (call : RefundOrderCall) : Prop where
  answered : ∀ f ∈ call.fault .refundOrder, f.applied = false
  saved : call.fault .saveRefunded = none
  booked : call.fault .saveWithPayment = none

/-- Nothing fails after Klarna has accepted the call's operation, if it does. -/
def BnplCall.Lasting : BnplCall → Prop
  | createOrder call => ∀ reference, call.captureResult = .success reference → call.Lasting
  | refundOrder call => ∀ reference, call.refundResult = .success reference → call.Lasting

/-- A refund that Klarna accepts is within what is left of the order, the order is as the call has
read it, and all refunds that Klarna has accepted for it are on record. -/
def BnplCmd.Unraced (seen : Option BnplDb) : BnplCmd → BnplDb → Prop
  | refundOrder request (.success _), s =>
    s.orders.get request.orderId = seen.bind (·.orders.get request.orderId) ∧
      ∀ order ∈ s.orders.get request.orderId,
        (s.refundsOf request.orderId).length = order.refunds.length ∧ order.Within request.amount
  | _, _ => True

/-! ### What a call leaves -/

/-- Klarna accepted no capture and none is booked, or the call ended well, with one capture, one
event for it and a captured order. -/
def CreateOrderCall.Settled {α : Type} (call : CreateOrderCall) (db : BnplDb)
    (r : Except AppError α) : Prop :=
  (db.capturesOf call.orderId = [] ∧ db.capturedOf call.orderId = []) ∨
    (r.isOk = true ∧ ∃ op event order, db.capturesOf call.orderId = [op] ∧
      op.request.amount = call.amount ∧ db.capturedOf call.orderId = [event] ∧
      event.BooksBnpl call.eventId call.orderId .BNPL_CAPTURED call.amount ∧
      db.orders.get call.orderId = some order ∧ order.status.isCaptured = true ∧
      order.amount = call.amount ∧ order.providerCaptureId = some op.reference)

/-- Klarna accepted no refund and none is booked, or the call ended well, with one refund, one event
for it and a record of it in the order. -/
def RefundOrderCall.Settled {α : Type} (call : RefundOrderCall) (db : BnplDb)
    (r : Except AppError α) : Prop :=
  (db.refundedBy call.refundKey = [] ∧ db.bookedBy call.eventId = []) ∨
    (r.isOk = true ∧ ∃ op event order, db.refundedBy call.refundKey = [op] ∧
      op.request.orderId = call.id ∧ op.request.amount = call.amount ∧
      db.bookedBy call.eventId = [event] ∧
      event.BooksBnpl call.eventId call.id .BNPL_REFUNDED call.amount ∧
      db.orders.get call.id = some order ∧
      ⟨call.refundId, call.amount, call.reason, call.now, some op.reference⟩ ∈ order.refunds)

/-- What either call leaves. -/
def BnplCall.Settled {α : Type} : BnplCall → BnplDb → Except AppError α → Prop
  | createOrder call => call.Settled
  | refundOrder call => call.Settled

/-! ### The steps of a call -/

variable {order : BnplOrder} {s : BnplDb}

section steps

variable {calls : List BnplCall} {i : Nat} {α : Type} {Q : BnplDb → Except AppError α → Prop}
  {floor : BnplDb} {seen : Option BnplDb}

/-- Call `i` keeps what the others rely on, and ends as `Q` has it. -/
abbrev BnplHolds (calls : List BnplCall) (i : Nat) {α : Type}
    (Q : BnplDb → Except AppError α → Prop) (floor : BnplDb) (seen : Option BnplDb)
    (p : BnplProg α) : Prop :=
  Holds (fun s => s) Commands.apply (BnplDb.Agrees calls) (BnplRely calls i)
    (BnplGuarantee calls i) BnplCmd.Unraced (fun s _ a => Q s (.ok a)) (fun s _ e => Q s (.error e))
    floor seen p

variable {fault : Option (Fault AppError)}
variable {f : BnplDb → BnplProg α}

/-- The rule for a command that may fail, with or without effect. -/
lemma holds_issue {c : BnplCmd}
    (hlost : ∀ failure ∈ fault, failure.applied = false → ∀ e, Q floor (.error e))
    (hact : ∀ s, s.Agrees calls → BnplRely calls i floor s → c.Unraced seen s →
      BnplStep calls i s (Commands.apply c s) ∧
        (∀ failure ∈ fault, failure.applied = true → ∀ e, Q (Commands.apply c s) (.error e)) ∧
        (fault = none → BnplHolds calls i Q (Commands.apply c s) (observe c s seen) (f s))) :
    BnplHolds calls i Q floor seen (issue fault c >>= f) := by
  unfold issue
  rw [tryAct_bind]
  unfold tryAct
  cases fault with
  | none =>
    intro s hI hR hcond
    obtain ⟨⟨hI', hG⟩, -, hnext⟩ := hact s hI hR hcond
    exact ⟨hI', hG, hnext rfl⟩
  | some failure =>
    dsimp only
    cases happlied : failure.applied with
    | false => exact hlost failure rfl happlied _
    | true =>
      intro s hI hR hcond
      obtain ⟨⟨hI', hG⟩, hfail, -⟩ := hact s hI hR hcond
      exact ⟨hI', hG, hfail failure rfl happlied _⟩

/-- The rule for a command that changes nothing. -/
lemma holds_read {c : BnplCmd} (hread : ∀ s : BnplDb, Commands.apply c s = s)
    (hlost : ∀ e, Q floor (.error e))
    (hact : ∀ s, s.Agrees calls → BnplRely calls i floor s →
      (∀ e, Q s (.error e)) ∧ BnplHolds calls i Q s (observe c s seen) (f s)) :
    BnplHolds calls i Q floor seen (issue fault c >>= f) := by
  refine holds_issue (fun _ _ _ => hlost) fun s hI hR _ => ?_
  obtain ⟨herror, hnext⟩ := hact s hI hR
  rw [hread s]
  exact ⟨.refl hI, fun _ _ _ => herror, fun _ => hnext⟩

/-- The rule for a save, which a conflict of keys may refuse. -/
lemma holds_save {f : Unit → BnplProg α}
    (hlost : ∀ failure ∈ fault, failure.applied = false → ∀ e, Q floor (.error e))
    (hconflict : ∀ s, s.Agrees calls → BnplRely calls i floor s → s.conflicts order = true →
      ∀ e, Q s (.error e))
    (hact : ∀ s, s.Agrees calls → BnplRely calls i floor s → s.conflicts order = false →
      BnplStep calls i s { s with orders := s.orders.put order } ∧
        (∀ failure ∈ fault, failure.applied = true → ∀ e,
          Q { s with orders := s.orders.put order } (.error e)) ∧
        (fault = none →
          BnplHolds calls i Q { s with orders := s.orders.put order } seen (f ()))) :
    BnplHolds calls i Q floor seen (save fault order >>= f) := by
  unfold save
  rw [bind_assoc]
  refine holds_issue hlost fun s hI hR _ => ?_
  cases hc : s.conflicts order with
  | true =>
    rw [show Commands.apply (BnplCmd.save order) s = s from if_pos hc]
    exact ⟨.refl hI, fun _ _ _ => hconflict s hI hR hc, fun _ => hconflict s hI hR hc _⟩
  | false =>
    obtain ⟨hstep, hfail, hnext⟩ := hact s hI hR hc
    rw [show Commands.apply (BnplCmd.save order) s = { s with orders := s.orders.put order } from
      if_neg (by rw [hc]; decide)]
    exact ⟨hstep, hfail, hnext⟩

lemma holds_of_ok {β : Type} {x : Except AppError β} {b : β} (hx : x = .ok b)
    {f : β → BnplProg α} (h : BnplHolds calls i Q floor seen (f b)) :
    BnplHolds calls i Q floor seen (liftM x >>= f) := by
  rw [hx]
  exact h

/-- A save under the key an order already has meets no conflict. -/
lemma BnplDb.Agrees.conflicts_eq_false (h : s.Agrees calls) {old : BnplOrder}
    (hold : s.orders.get order.id = some old) (hkey : old.idempotencyKey = order.idempotencyKey) :
    s.conflicts order = false := by
  refine List.any_eq_false.2 fun row hrow hconflict => ?_
  obtain ⟨hrowkey, hne⟩ := of_decide_eq_true hconflict
  exact hne ((h.unique row hrow old (Table.mem_of_get hold) (hrowkey.trans hkey.symm)).trans
    (Table.key_of_get hold))

end steps

/-! ### `createOrder` -/

variable {booked : List LedgerOutboxEvent} {s' floor : BnplDb} {reference : String}
  {seen : Option BnplDb}

namespace CreateOrderCall

variable {calls : List BnplCall} {i : Nat} {call : CreateOrderCall}

/-- How far the call has come: its order, what Klarna captured for it, and what of that is booked.
-/
structure At (call : CreateOrderCall) (row : Option BnplOrder) (captures : List KlarnaOperation)
    (booked : List LedgerOutboxEvent) (db : BnplDb) : Prop where
  row : db.orders.get call.orderId = row
  captures : db.capturesOf call.orderId = captures
  booked : db.capturedOf call.orderId = booked

variable {row : Option BnplOrder}

lemma At.rely {captures : List KlarnaOperation} (h : call.At row captures booked s)
    (hrow : Unpaid row) (hi : calls[i]? = some (.createOrder call))
    (hrely : BnplRely calls i s s') : call.At row captures booked s' := by
  obtain ⟨hsame, hcaptures, hbooked⟩ := hrely.2 _ hi
  exact ⟨(hsame (h.row ▸ hrow)).trans h.row, hcaptures.trans h.captures, hbooked.trans h.booked⟩

lemma At.settled (h : call.At row [] [] s) {α : Type} (r : Except AppError α) : call.Settled s r :=
  .inl ⟨h.captures, h.booked⟩

lemma unpaid_none : Unpaid none := fun _ h => nomatch h

lemma unpaid_some (h : order.status.isCaptured = false) : Unpaid (some order) := by
  rintro _ ⟨rfl⟩
  exact h

/-- The order as it is saved after Klarna has captured it. -/
def captured (call : CreateOrderCall) (providerOrderId providerCaptureId : String) : BnplOrder :=
  { call.authorized providerOrderId with
    status := .CAPTURED, providerCaptureId := some providerCaptureId, capturedAt := some call.now }

/-- Klarna has captured the order, which is saved as such; what is booked of it. -/
structure Captured (call : CreateOrderCall) (reference : String) (booked : List LedgerOutboxEvent)
    (db : BnplDb) : Prop where
  row : ∃ order, db.orders.get call.orderId = some order ∧ order.status.isCaptured = true ∧
    order.amount = call.amount ∧ order.providerCaptureId = some reference
  captures : ∃ op, db.capturesOf call.orderId = [op] ∧ op.request.amount = call.amount ∧
    op.reference = reference
  booked : db.capturedOf call.orderId = booked

lemma Captured.rely (h : call.Captured reference booked s)
    (hi : calls[i]? = some (.createOrder call)) (hrely : BnplRely calls i s s') :
    call.Captured reference booked s' := by
  obtain ⟨-, hcaptures, hbooked⟩ := hrely.2 _ hi
  obtain ⟨order, hget, hcaptured, hamount, hreference⟩ := h.row
  obtain ⟨order', hget', -, hkeeps⟩ := hrely.1 _ order hget
  obtain ⟨hcaptured', hamount', hreference'⟩ := hkeeps hcaptured
  obtain ⟨op, hop, hrest⟩ := h.captures
  exact ⟨⟨order', hget', hcaptured', hamount'.trans hamount, hreference'.trans hreference⟩,
    ⟨op, hcaptures.trans hop, hrest⟩, hbooked.trans h.booked⟩

variable (hfresh : calls.Pairwise BnplCall.Apart) (hi : calls[i]? = some (.createOrder call))
include hfresh hi

lemma At.save (h : call.At none [] [] s) (hI : s.Agrees calls)
    (hid : order.id = call.orderId) (hstatus : order.status.isCaptured = false)
    (hconflict : s.conflicts order = false) :
    BnplStep calls i s { s with orders := s.orders.put order } ∧
      call.At (some order) [] [] { s with orders := s.orders.put order } := by
  have hnone : s.orders.get order.id = none := hid ▸ h.row
  refine ⟨.save hI hconflict ⟨fun _ => ?_, ?_⟩ ?_ ?_ ?_, ?_, h.captures, h.booked⟩
  · exact (hI.stage order.id).unpaid (hnone ▸ unpaid_none)
  · rintro _ ⟨rfl⟩ hcaptured
    exact nomatch hcaptured.symm.trans hstatus
  · intro old hold
    exact nomatch hnone.symm.trans hold
  · intro j other hj hother horder
    exact absurd (horder.trans hid) (apart_of_ne hfresh hother hi hj).2
  · rintro j other hj hother hother_id ⟨old, _, _, hget, -⟩
    rw [hother_id] at hget
    exact nomatch hnone.symm.trans hget
  · rw [← hid]
    exact s.orders.get_put_self order

/-- The captured order is saved. -/
lemma At.saveCaptured {providerOrderId : String}
    (h : call.At (some (call.authorized providerOrderId))
      [⟨call.captureRequest providerOrderId, reference⟩] [] s) (hI : s.Agrees calls)
    (hconflict : s.conflicts (call.captured providerOrderId reference) = false) :
    BnplStep calls i s
        { s with orders := s.orders.put (call.captured providerOrderId reference) } ∧
      call.Captured reference []
        { s with orders := s.orders.put (call.captured providerOrderId reference) } := by
  have hunpaid : Unpaid (s.orders.get call.orderId) := by
    rw [h.row]
    exact unpaid_some rfl
  have hrefunds := (hI.stage call.orderId).unpaid hunpaid
  have hself := s.orders.get_put_self (call.captured providerOrderId reference)
  refine ⟨.save hI hconflict (BnplOrder.Standing.stage ⟨⟨?_, Nat.zero_le _, rfl⟩, ?_, .inl ?_⟩)
    ?_ ?_ ?_, ⟨_, hself, rfl, rfl, rfl⟩, ⟨_, h.captures, rfl, rfl⟩, h.booked⟩
  · exact fun r hr => absurd hr List.not_mem_nil
  · exact ⟨_, h.captures, rfl, rfl⟩
  · exact congrArg (List.map KlarnaOperation.entry) hrefunds
  · intro old hold
    obtain rfl := Option.some.inj (h.row.symm.trans hold)
    exact ⟨List.prefix_rfl, fun hcaptured => nomatch hcaptured⟩
  · intro j other hj hother horder
    exact absurd horder (apart_of_ne hfresh hother hi hj).2
  · rintro j other hj hother hid ⟨_, earlier, op, -, hsplit, -⟩
    rw [hid] at hsplit
    exact absurd (hsplit.symm.trans hrefunds) (by simp)

lemma book_holds {event : LedgerOutboxEvent}
    (hbooks : event.BooksBnpl call.eventId call.orderId .BNPL_CAPTURED call.amount)
    (h : call.Captured reference [] floor) :
    BnplHolds calls i call.Settled floor seen
      (issue none (.saveWithPayment event) >>= fun _ => pure order) := by
  refine holds_issue (fun _ hf => nomatch hf) fun s hI hR _ => ?_
  obtain ⟨⟨row, hrow, hcaptured, hamount, hreference⟩, ⟨op, hop, hopamount, hopreference⟩,
    hbooked⟩ := h.rely hi hR
  refine ⟨.saveWithPayment hfresh hI hi hbooks.id_eq
    (.inl ⟨call, List.mem_of_getElem? hi, hbooks⟩) fun _ => ⟨call, rfl, hbooks.order⟩,
    fun _ hf => (nomatch hf), fun _ => .inr ⟨rfl, op, event, row, hop, hopamount, ?_, hbooks, hrow,
      hcaptured, hamount, hopreference ▸ hreference⟩⟩
  change List.filter _ (s.outbox ++ [event]) = [event]
  rw [List.filter_append]
  have hself : event.paymentId = call.orderId ∧ event.eventType = .BNPL_CAPTURED :=
    ⟨hbooks.order, hbooks.type⟩
  rw [show List.filter _ s.outbox = [] from hbooked]
  simp [hself]

variable {platformFeeBps : Nat}

lemma settle_holds (hlasting : call.Lasting)
    (hmerchant : call.merchant = some platformFeeBps) (providerOrderId reference : String)
    (h : call.At (some (call.authorized providerOrderId))
      [⟨call.captureRequest providerOrderId, reference⟩] [] floor) :
    BnplHolds calls i call.Settled floor seen
      (call.settle platformFeeBps (call.authorized providerOrderId) reference) := by
  have hunpaid : Unpaid (some (call.authorized providerOrderId)) := unpaid_some rfl
  obtain ⟨event, hevent, hbooks⟩ := LedgerOutboxEvent.createBnplCaptureEntries_eq_ok
    (hlasting.fees platformFeeBps hmerchant) call.eventId call.orderId call.merchantId call.now
  unfold settle
  refine holds_of_ok (b := call.captured providerOrderId reference) rfl ?_
  refine holds_of_ok (call.amount.share_eq_ok platformFeeBps) ?_
  refine holds_of_ok (call.amount.share_eq_ok klarnaMerchantFeeBps) ?_
  refine holds_of_ok hevent ?_
  rw [hlasting.saved, hlasting.booked]
  -- neither write can fail any more, so that no error has to be answered for
  refine holds_save (fun _ hf => nomatch hf) (fun s hI hR hconflict => ?_)
    fun s hI hR hconflict => ?_
  · have hat := h.rely hunpaid hi hR
    exact nomatch hconflict.symm.trans (hI.conflicts_eq_false hat.row rfl)
  · have hat := h.rely hunpaid hi hR
    obtain ⟨hstep, hcaptured⟩ := hat.saveCaptured hfresh hi hI hconflict
    refine ⟨hstep, fun _ hf => (nomatch hf), fun _ => ?_⟩
    exact book_holds hfresh hi hbooks hcaptured

lemma conclude_holds (hlasting : (BnplCall.createOrder call).Lasting)
    (hmerchant : call.merchant = some platformFeeBps) (h : call.At none [] [] floor) :
    BnplHolds calls i call.Settled floor seen (call.conclude platformFeeBps
      (BnplOrder.create call.orderId call.merchantId call.amount call.idempotencyKey)) := by
  unfold conclude
  split
  · rename_i errorMessage _
    refine holds_of_ok rfl (holds_save (fun _ _ _ _ => h.settled _) (fun s hI hR _ _ => ?_)
      fun s hI hR hconflict => ?_)
    · exact (h.rely unpaid_none hi hR).settled _
    · obtain ⟨hstep, hat⟩ := (h.rely unpaid_none hi hR).save hfresh hi hI rfl rfl hconflict
      exact ⟨hstep, fun _ _ _ _ => hat.settled _, fun _ => hat.settled _⟩
  · rename_i providerOrderId _
    refine holds_of_ok (b := call.authorized providerOrderId) rfl (holds_save
      (fun _ _ _ _ => h.settled _) (fun s hI hR _ _ => ?_) fun s hI hR hconflict => ?_)
    · exact (h.rely unpaid_none hi hR).settled _
    · obtain ⟨hstep, hat⟩ := (h.rely unpaid_none hi hR).save hfresh hi hI rfl rfl hconflict
      refine ⟨hstep, fun _ _ _ _ => hat.settled _, fun _ => ?_⟩
      have hunpaid : Unpaid (some (call.authorized providerOrderId)) := unpaid_some rfl
      cases hresult : call.captureResult with
      | failure errorMessage =>
        refine holds_read (fun s => congrArg (BnplDb.mk s.orders s.outbox · s.refunds)
          (List.append_nil _)) (fun _ => hat.settled _) fun s' _ hR' => ?_
        have hat' := hat.rely hunpaid hi hR'
        exact ⟨fun _ => hat'.settled _, hat'.settled _⟩
      | success reference =>
        have hlasting' := hlasting reference hresult
        refine holds_issue (fun _ _ _ _ => hat.settled _) fun s' hI' hR' _ => ?_
        have hat' := hat.rely hunpaid hi hR'
        refine ⟨.captureOrder hfresh hI' hi (hat'.row ▸ hunpaid) providerOrderId _,
          fun failure hf happlied _ => ?_, fun _ => ?_⟩
        · exact nomatch happlied.symm.trans (hlasting'.answered failure hf)
        · refine settle_holds hfresh hi hlasting' hmerchant providerOrderId reference
            ⟨hat'.row, ?_, hat'.booked⟩
          change List.filter _ (s'.captures ++ [_]) = _
          rw [List.filter_append, show List.filter _ s'.captures = [] from hat'.captures]
          simp [captureRequest]

/-- **The call leaves what it has to**, however the others interfere. -/
theorem createOrder_holds (hlasting : (BnplCall.createOrder call).Lasting)
    (h : call.At none [] [] floor) :
    BnplHolds calls i call.Settled floor seen call.createOrder := by
  unfold createOrder
  refine holds_read (fun _ => rfl) (fun _ => h.settled _) fun s _ hR => ?_
  have hat := h.rely unpaid_none hi hR
  refine ⟨fun _ => hat.settled _, ?_⟩
  split
  · exact hat.settled _
  · refine holds_read (fun _ => rfl) (fun _ => hat.settled _) fun s' _ hR' => ?_
    have hat' := hat.rely unpaid_none hi hR'
    refine ⟨fun _ => hat'.settled _, ?_⟩
    split
    · exact hat'.settled _
    · rename_i platformFeeBps hmerchant
      refine holds_read (fun _ => rfl) (fun _ => hat'.settled _) fun s'' _ hR'' => ?_
      have hat'' := hat'.rely unpaid_none hi hR''
      exact ⟨fun _ => hat''.settled _, conclude_holds hfresh hi hlasting hmerchant hat''⟩

end CreateOrderCall

/-! ### `refundOrder` -/

namespace RefundOrderCall

variable {calls : List BnplCall} {i : Nat} {call : RefundOrderCall}

/-- How far the call has come: what Klarna refunded for it, and what is booked of that. -/
structure At (call : RefundOrderCall) (refunded : List KlarnaOperation)
    (booked : List LedgerOutboxEvent) (db : BnplDb) : Prop where
  refunded : db.refundedBy call.refundKey = refunded
  booked : db.bookedBy call.eventId = booked

lemma At.rely {refunded : List KlarnaOperation} (h : call.At refunded booked s)
    (hi : calls[i]? = some (.refundOrder call)) (hrely : BnplRely calls i s s') :
    call.At refunded booked s' := by
  obtain ⟨hrefunded, hbooked, -⟩ := hrely.2 _ hi
  exact ⟨hrefunded.trans h.refunded, hbooked.trans h.booked⟩

lemma At.settled (h : call.At [] [] s) {α : Type} (r : Except AppError α) :
    call.Settled s r :=
  .inl ⟨h.refunded, h.booked⟩

/-- Klarna has accepted the refund of the order, which is as the call has read it. -/
structure Asked (call : RefundOrderCall) (order : BnplOrder) (reference : String) (db : BnplDb) :
    Prop where
  row : db.orders.get call.id = some order
  refunds : ∃ earlier, db.refundsOf call.id = earlier ++ [call.operation order reference] ∧
    earlier.length = order.refunds.length
  at_refunded : call.At [call.operation order reference] [] db

lemma Asked.rely (h : call.Asked order reference s) (hi : calls[i]? = some (.refundOrder call))
    (hrely : BnplRely calls i s s') : call.Asked order reference s' := by
  obtain ⟨earlier, hsplit, hlength⟩ := h.refunds
  obtain ⟨horder, hrefunds⟩ :=
    (hrely.2 _ hi).2.2 ⟨order, earlier, _, h.row, hsplit, rfl, hlength⟩
  exact ⟨horder.trans h.row, ⟨earlier, hrefunds.trans hsplit, hlength⟩, h.at_refunded.rely hi hrely⟩

/-- The refund as it is put on record. -/
def record (call : RefundOrderCall) (reference : String) : BnplRefundRecord :=
  ⟨call.refundId, call.amount, call.reason, call.now, some reference⟩

/-- Klarna's refund is on record; what is booked of it. -/
structure OnRecord (call : RefundOrderCall) (op : KlarnaOperation)
    (booked : List LedgerOutboxEvent) (db : BnplDb) : Prop where
  order : ∃ order, db.orders.get call.id = some order ∧ call.record op.reference ∈ order.refunds
  at_refunded : call.At [op] booked db

variable {op : KlarnaOperation}

lemma OnRecord.rely (h : call.OnRecord op booked s) (hi : calls[i]? = some (.refundOrder call))
    (hrely : BnplRely calls i s s') : call.OnRecord op booked s' := by
  obtain ⟨order, hget, hmem⟩ := h.order
  obtain ⟨order', hget', hkept, -⟩ := hrely.1 _ order hget
  exact ⟨⟨order', hget', hkept.subset hmem⟩, h.at_refunded.rely hi hrely⟩

/-- The refund Klarna accepted is within what is left, and can be put on record. -/
lemma Asked.standing (h : call.Asked order reference s) (hI : s.Agrees calls)
    (hcaptured : order.status.isCaptured = true) :
    order.Recorded ∧ order.Within call.amount ∧
      (order.withRefund (call.record reference)).Standing (s.capturesOf call.id)
        (s.refundsOf call.id) := by
  obtain ⟨earlier, hsplit, hlength⟩ := h.refunds
  obtain ⟨hrecorded, hcapture, hrefunded⟩ := (hI.stage _).standing order h.row hcaptured
  rw [hsplit] at hrefunded
  rcases hrefunded with heq | ⟨earlier', op, hsplit', heq, hwithin⟩
  · have := congrArg List.length heq
    simp only [List.length_map, List.length_append, List.length_singleton] at this
    omega
  · obtain ⟨rfl, hop⟩ := List.append_inj' hsplit' rfl
    obtain rfl := List.singleton_inj.1 hop
    refine ⟨hrecorded, hwithin, hrecorded.withRefund hwithin, hcapture, .inl ?_⟩
    rw [hsplit, List.map_append, heq, BnplOrder.withRefund, List.map_append]
    rfl

variable (hfresh : calls.Pairwise BnplCall.Apart) (hi : calls[i]? = some (.refundOrder call))
include hfresh hi

/-- The refunded order is saved. -/
lemma Asked.save (h : call.Asked order reference s)
    (hI : s.Agrees calls) (hcaptured : order.status.isCaptured = true)
    (hconflict : s.conflicts (order.withRefund (call.record reference)) = false) :
    BnplStep calls i s
        { s with orders := s.orders.put (order.withRefund (call.record reference)) } ∧
      call.OnRecord (call.operation order reference) []
        { s with orders := s.orders.put (order.withRefund (call.record reference)) } := by
  have hrow : order.id = call.id := Table.key_of_get h.row
  have hid : (order.withRefund (call.record reference)).id = call.id := hrow
  obtain ⟨-, -, hstanding⟩ := h.standing hI hcaptured
  obtain ⟨earlier, hsplit, hlength⟩ := h.refunds
  have hself := s.orders.get_put_self (order.withRefund (call.record reference))
  rw [hid] at hself
  refine ⟨.save hI hconflict (hid ▸ hstanding.stage) ?_ ?_ ?_, ⟨_, hself, ?_⟩,
    h.at_refunded.refunded, h.at_refunded.booked⟩
  · intro old hold
    rw [hid] at hold
    obtain rfl := Option.some.inj (h.row.symm.trans hold)
    exact ⟨List.prefix_append _ _, fun _ => ⟨hstanding.recorded.isCaptured, rfl, rfl⟩⟩
  · intro j other hj hother horder hunpaid
    rw [hid] at hunpaid
    exact nomatch hcaptured.symm.trans (hunpaid order h.row)
  · rintro j other hj hother hother_id ⟨_, earlier', op, -, hsplit', hkey, -⟩
    rw [hother_id, hid, hsplit] at hsplit'
    obtain ⟨-, hop⟩ := List.append_inj' hsplit' rfl
    obtain rfl := List.singleton_inj.1 hop
    exact (apart_of_ne hfresh hother hi hj).2 hkey.symm
  · exact List.mem_append_right _ List.mem_cons_self

lemma book_holds {event : LedgerOutboxEvent}
    (hbooks : event.BooksBnpl call.eventId call.id .BNPL_REFUNDED call.amount)
    (horder : op.request.orderId = call.id) (hamount : op.request.amount = call.amount)
    (h : call.OnRecord op [] floor) :
    BnplHolds calls i call.Settled floor seen
      (issue none (.saveWithPayment event) >>= fun _ => pure order) := by
  refine holds_issue (fun _ hf => nomatch hf) fun s hI hR _ => ?_
  obtain ⟨⟨row, hrow, hmem⟩, hrefunded, hbooked⟩ := h.rely hi hR
  have htype : event.eventType ≠ .BNPL_CAPTURED := by
    rw [hbooks.type]
    decide
  refine ⟨.saveWithPayment hfresh hI hi hbooks.id_eq
    (.inr ⟨call, List.mem_of_getElem? hi, hbooks⟩) fun hcaptured => absurd hcaptured htype,
    fun _ hf => (nomatch hf), fun _ => .inr ⟨rfl, op, event, row, hrefunded, horder, hamount, ?_,
      hbooks, hrow, hmem⟩⟩
  change List.filter _ (s.outbox ++ [event]) = [event]
  rw [List.filter_append, show List.filter _ s.outbox = [] from hbooked]
  simp [hbooks.id_eq]

lemma settle_holds (hlasting : call.Lasting)
    (hrefundable : order.Refundable) (hI : floor.Agrees calls)
    (h : call.Asked order reference floor) :
    BnplHolds calls i call.Settled floor seen (call.settle order reference) := by
  have hcaptured := hrefundable.isCaptured
  have hid : order.id = call.id := Table.key_of_get h.row
  obtain ⟨hrecorded, hwithin, -⟩ := h.standing hI hcaptured
  have hbalanced : LedgerEntry.validateDoubleEntry
      [⟨"BNPL_SETTLEMENT_ACCOUNT", .BNPL_SETTLEMENT, .CREDIT, call.amount⟩,
        ⟨order.merchantId, .MERCHANT, .DEBIT, call.amount⟩] = .ok () := by
    refine LedgerEntry.validateDoubleEntry_of_balanced fun code => ?_
    by_cases h : call.amount.currency.code = code <;> simp [LedgerEntry.total, h]
  unfold settle
  refine holds_of_ok ((BnplOrder.refund_eq_ok hrecorded hrefundable).2 ⟨hwithin, rfl⟩) ?_
  refine holds_of_ok (LedgerOutboxEvent.create_eq_ok hbalanced) ?_
  rw [hlasting.saved, hlasting.booked]
  refine holds_save (fun _ hf => by cases hf) (fun s hI hR hconflict => ?_)
    fun s hI hR hconflict => ?_
  · have hasked := h.rely hi hR
    have hold : s.orders.get order.id = some order := hid ▸ hasked.row
    cases hconflict.symm.trans (hI.conflicts_eq_false hold rfl)
  · obtain ⟨hstep, hrecord⟩ := (h.rely hi hR).save hfresh hi hI hcaptured hconflict
    exact ⟨hstep, fun _ hf => (by cases hf), fun _ =>
      book_holds hfresh hi ⟨rfl, hid, rfl, rfl⟩ rfl rfl hrecord⟩

/-- **The call leaves what it has to**, however the others interfere. -/
theorem refundOrder_holds (hlasting : (BnplCall.refundOrder call).Lasting)
    (h : call.At [] [] floor) :
    BnplHolds calls i call.Settled floor seen call.refundOrder := by
  unfold refundOrder
  refine holds_read (fun _ => rfl) (fun _ => h.settled _) fun s _ hR => ?_
  have hat := h.rely hi hR
  refine ⟨fun _ => hat.settled _, ?_⟩
  split
  · exact hat.settled _
  · rename_i order hread
    split_ifs with hrefundable
    · cases hresult : call.refundResult with
      | failure errorMessage =>
        refine holds_read (fun s => congrArg (BnplDb.mk s.orders s.outbox s.captures)
          (List.append_nil _)) (fun _ => hat.settled _) fun s' _ hR' => ?_
        have hat' := hat.rely hi hR'
        exact ⟨fun _ => hat'.settled _, hat'.settled _⟩
      | success reference =>
        have hlasting' := hlasting reference hresult
        refine holds_issue (fun _ _ _ _ => hat.settled _) fun s' hI' hR' hunraced => ?_
        have hat' := hat.rely hi hR'
        -- the order is as the call has read it
        have hget : s'.orders.get call.id = some order := hunraced.1.trans hread
        obtain ⟨hnone, hwithin⟩ := hunraced.2 order hget
        have hstep := BnplStep.refundOrder hfresh hI' hi hget hrefundable.isCaptured hnone hwithin
          reference
        refine ⟨hstep, fun failure hf happlied _ => ?_, fun _ => ?_⟩
        · exact nomatch happlied.symm.trans (hlasting'.answered failure hf)
        · refine settle_holds hfresh hi hlasting' hrefundable hstep.1
            ⟨hget, ⟨s'.refundsOf call.id, ?_, hnone⟩, ?_, hat'.booked⟩
          · change List.filter _ (s'.refunds ++ [_]) = _
            rw [List.filter_append]
            simp [BnplDb.refundsOf, operation, refundRequest]
          · change List.filter _ (s'.refunds ++ [_]) = _
            rw [List.filter_append, show List.filter _ s'.refunds = [] from hat'.refunded]
            simp [operation, refundRequest]
    · exact hat.settled _

end RefundOrderCall

/-! ### In any interleaving -/

/-- What a call has left is not undone by the others. -/
lemma BnplCall.Settled.rely {call : BnplCall} {r : Except AppError Unit} (h : call.Settled s r)
    (hi : calls[i]? = some call) (hrely : BnplRely calls i s s') : call.Settled s' r := by
  cases call with
  | createOrder call =>
    rcases h with
      ⟨hcaptures, hbooked⟩ | ⟨hok, op, event, order, hop, hamount, hbooked, hbooks, hrow⟩
    · obtain ⟨-, hcaptures', hbooked'⟩ := hrely.2 _ hi
      exact .inl ⟨hcaptures'.trans hcaptures, hbooked'.trans hbooked⟩
    · have hcaptured : call.Captured op.reference [event] s :=
        ⟨⟨order, hrow⟩, ⟨op, hop, hamount, rfl⟩, hbooked⟩
      obtain ⟨⟨order', hrow'⟩, -, hbooked'⟩ := hcaptured.rely hi hrely
      have hop' := (hrely.2 _ hi).2.1.trans hop
      exact .inr ⟨hok, op, event, order', hop', hamount, hbooked', hbooks, hrow'⟩
  | refundOrder call =>
    rcases h with h | ⟨hok, op, event, order, hop, horder, hamount, hbooked, hbooks, hrow⟩
    · obtain ⟨hrefunded, hbooked⟩ := (⟨h.1, h.2⟩ : call.At [] [] s).rely hi hrely
      exact .inl ⟨hrefunded, hbooked⟩
    · have hrecord : call.OnRecord op [event] s := ⟨⟨order, hrow⟩, hop, hbooked⟩
      obtain ⟨⟨order', hrow'⟩, hop', hbooked'⟩ := hrecord.rely hi hrely
      exact .inr ⟨hok, op, event, order', hop', horder, hamount, hbooked', hbooks, hrow'⟩

lemma holds_program {call : BnplCall} {α : Type} {p : BnplProg α}
    (h : BnplHolds calls i call.Settled floor seen p) :
    BnplHolds calls i call.Settled floor seen (do let _ ← p) := by
  refine (holds_bind p _).2 (h.imp (fun _ _ _ h => h) (fun s _ a ha => ?_) fun s _ e he => ?_)
  · cases call <;> exact ha
  · cases call <;> exact he

lemma BnplCall.program_holds (hfresh : calls.Pairwise BnplCall.Apart)
    (hlasting : ∀ call ∈ calls, call.Lasting) {call : BnplCall} (hi : calls[i]? = some call) :
    BnplHolds calls i call.Settled .empty none call.program := by
  have hcall := hlasting call (List.mem_of_getElem? hi)
  cases call with
  | createOrder call =>
    exact holds_program (call.createOrder_holds hfresh hi hcall ⟨rfl, rfl, rfl⟩)
  | refundOrder call => exact holds_program (call.refundOrder_holds hfresh hi hcall ⟨rfl, rfl⟩)

/-- **Orders and ledger agree with Klarna** in every interleaving of calls whose identifiers differ,
none of which fails after Klarna has accepted its operation, if each accepted refund is within what
is left of an order that is as the call has read it and has no other refund pending: what Klarna
refunds never exceeds what it paid, no refund on record is lost, and a call that has ended left one
event and a matching order for the one operation that Klarna accepted, or failed before Klarna
accepted any. -/
theorem klarna_agrees (calls : List BnplCall) (hfresh : calls.Pairwise BnplCall.Apart)
    (hlasting : ∀ call ∈ calls, call.Lasting) (schedule : List Nat)
    (hunraced : ∀ e ∈ ((bnplPool calls).exec schedule).1, e.cmd.Unraced e.seen e.pre) :
    let run := (bnplPool calls).exec schedule
    (∀ e ∈ run.1, e.post.Agrees calls ∧ e.pre.Extends e.post ∧
      ∀ id currency, KlarnaOperation.total currency (e.post.refundsOf id) ≤
        KlarnaOperation.total currency (e.post.capturesOf id)) ∧
      ∀ i call r, calls[i]? = some call → run.2.ended i = some r → call.Settled run.2.state r := by
  intro run
  let Settled (r : Except AppError Unit) (i : Nat) (s : BnplDb) : Prop :=
    ∀ call, calls[i]? = some call → call.Settled s r
  have hrefl : ∀ i s, BnplRely calls i s s := fun i s =>
    ⟨.of_orders rfl, fun call _ => .refl call s⟩
  have hstart : Pool.Holding (fun s => s) (fun _ => Commands.apply) (fun s (_ : Unit) => s)
      (BnplDb.Agrees calls) (BnplRely calls) (BnplGuarantee calls) BnplCmd.Unraced
      (Settled (.ok ())) (fun i s e => Settled (.error e) i s) (bnplPool calls) () := by
    refine Pool.holding_start hrefl ?_ fun i p hp => ?_
    · exact BnplDb.agrees_empty calls
    rw [List.getElem?_map] at hp
    obtain ⟨call, hi, rfl⟩ := Option.map_eq_some_iff.1 hp
    have hsettled : ∀ s r, call.Settled s r → Settled r i s := by
      intro s r hr call' hi'
      obtain rfl := Option.some.inj (hi.symm.trans hi')
      exact hr
    exact (BnplCall.program_holds hfresh hlasting hi).imp (fun _ _ _ h => h)
      (fun s _ _ hr => hsettled s _ hr) fun s _ _ hr => hsettled s _ hr
  obtain ⟨hevents, hend⟩ := Pool.exec_holding hrefl hstart (fun _ _ _ _ => ())
    (fun i a b c hab hbc =>
      ⟨hab.1.trans hbc.1, fun call hi => (hab.2 call hi).trans (hbc.2 call hi)⟩)
    (fun i j hij s s' hG => ⟨hG.1, fun call hj => hG.2 j call hij.symm hj⟩) (fun _ _ => rfl)
    (fun _ _ _ _ => rfl) schedule hunraced
  refine ⟨fun e he => ?_, fun i call r hi hended => ?_⟩
  · obtain ⟨-, -, -, hpost, hG⟩ := hevents e he
    exact ⟨hpost, hG.1, fun id currency => (hpost.stage id).total_le currency⟩
  · obtain ⟨floor, hR, ⟨rfl, hsettled⟩ | ⟨e, rfl, hsettled⟩⟩ := hend.ended hended
    · exact (hsettled call hi).rely hi hR
    · exact (hsettled call hi).rely hi hR

instance (seen : Option BnplDb) (c : BnplCmd) (s : BnplDb) : Decidable (c.Unraced seen s) := by
  unfold BnplCmd.Unraced
  split <;> infer_instance

namespace Sample

/-- An order of ten dollars from a merchant with a fee of so many basis points; nothing fails. -/
def placing (platformFeeBps : Nat) : CreateOrderCall where
  merchantId := "m1"
  amount := tenDollars
  idempotencyKey := "k1"
  merchant := some platformFeeBps
  orderId := "o1"
  captureKey := "c1"
  eventId := "e1"
  now := 1
  orderResult := .AUTHORIZED "klarna_1"
  captureResult := .success "capture_1"
  fault := fun _ => none

/-- A refund of that order, which Klarna accepts; nothing fails. -/
def refunding (name : String) (cents : Nat) : RefundOrderCall where
  id := "o1"
  amount := ⟨cents, usd⟩
  reason := "returned"
  refundKey := name
  refundId := name
  eventId := name
  now := 2
  refundResult := .success name
  fault := fun _ => none

/-- An order and two refunds of it. -/
def refundedTwice (cents : Nat) : List BnplCall :=
  [.createOrder (placing 150), .refundOrder (refunding "r1" cents),
    .refundOrder (refunding "r2" cents)]

/-- The three calls one after the other. -/
def threeInTurn : List Nat := List.replicate 7 0 ++ List.replicate 4 1 ++ List.replicate 4 2

/-- After an order whose fees are above its amount. -/
def overpriced : Pool BnplDb BnplCmd AppError :=
  ((bnplPool [.createOrder (placing 9700)]).exec (List.replicate 7 0)).2

/-- After a refund above the amount of the order. -/
def overrefunded : Pool BnplDb BnplCmd AppError :=
  ((bnplPool (refundedTwice 1500)).exec (List.replicate 7 0 ++ List.replicate 4 1)).2

/-- After two refunds, both of which read the order before either is asked for. -/
def crossed : Pool BnplDb BnplCmd AppError :=
  ((bnplPool (refundedTwice 400)).exec
    (List.replicate 7 0 ++ [1, 2] ++ List.replicate 3 1 ++ List.replicate 3 2)).2

end Sample

open Sample

/-- An order, refunded in two halves one after the other. -/
theorem klarna_agrees_refunded :
    ((bnplPool (refundedTwice 500)).exec threeInTurn).2.ended 2 = some (.ok ()) ∧
      (BnplCall.refundOrder (refunding "r2" 500)).Settled
        ((bnplPool (refundedTwice 500)).exec threeInTurn).2.state
        (.ok () : Except AppError Unit) := by
  have hended : ((bnplPool (refundedTwice 500)).exec threeInTurn).2.ended 2 = some (.ok ()) := by
    decide +kernel
  refine ⟨hended, (klarna_agrees (refundedTwice 500) ?_ ?_ _ ?_).2 2 _ _ rfl hended⟩
  · simp [refundedTwice, BnplCall.Apart, BnplCall.eventId, placing, refunding]
  · simp only [refundedTwice, List.forall_mem_cons, List.not_mem_nil, false_imp_iff, implies_true,
      and_true]
    refine ⟨fun _ _ => ⟨?_, nofun, rfl, rfl⟩, fun _ _ => ⟨nofun, rfl, rfl⟩,
      fun _ _ => ⟨nofun, rfl, rfl⟩⟩
    decide +kernel
  · decide +kernel

/-- Fees above the amount make the call fail after Klarna has captured the order, a refund above
what is left makes it fail after Klarna has refunded it, and of two refunds at once one record is
lost. -/
theorem klarna_disagrees :
    (overpriced.ended 0 = some (.error (.plain
        "Subtraction would result in negative money: 0.30 USD - 0.40 USD")) ∧
      (overpriced.state.capturesOf "o1").length = 1 ∧ overpriced.state.outbox = [] ∧
      (overpriced.state.orders.get "o1").map (·.status) = some .AUTHORIZED) ∧
    (overrefunded.ended 1 = some (.error (.plain
        "BNPL order o1: refund would exceed the original order amount")) ∧
      KlarnaOperation.total usd (overrefunded.state.refundsOf "o1") = 1500 ∧
      KlarnaOperation.total usd (overrefunded.state.capturesOf "o1") = 1000 ∧
      overrefunded.state.bookedBy "r1" = []) ∧
    (crossed.ended 1 = some (.ok ()) ∧ crossed.ended 2 = some (.ok ()) ∧
      (crossed.state.refundsOf "o1").length = 2 ∧
      (crossed.state.orders.get "o1").map (·.refunds.map (·.refundId)) = some ["r2"]) := by
  refine ⟨⟨?_, ?_, ?_, ?_⟩, ⟨?_, ?_, ?_, ?_⟩, ?_, ?_, ?_, ?_⟩ <;> decide +kernel

end OmniSwitch
