import OmniSwitch.Adapters
import OmniSwitch.Lib.History
import OmniSwitch.Routing.Fallback

/-!
# Refunds that the PSP rejects

A refund is booked when the PSP's answer comes back, unless the answer says that it failed.
Stripe's adapter reports every refund that is not yet `succeeded` as pending, the ones that are
`failed` or `canceled` included; Adyen only acknowledges a refund, and its later notification is
logged.  So a refund that the PSP rejects, at once or later, stays on the payment and in the
ledger.

Main results:

* `refunds_count_accepted`: every refund that is counted was accepted, if no rejection is reported;
* `rejected_refund_counted`: rejections that are.
-/

namespace OmniSwitch

open Lib Prog PaymentLifecycle WebhookProcessing LedgerOutboxEvent

/-! ### Requests -/

/-- What one refund request meets. -/
structure RefundWire where
  breaker : Breaker := {}
  stripe : Exchange StripeRefund
  adyen : Exchange String

/-- The adapter of the payment's provider.

Source: `psp-adapter.port.ts` `PSPAdapterPort.refund` -/
def PspAdapter.refund (wire : RefundWire) : Option PSPProvider → Except AppError PspRefundResponse
  | some .STRIPE => StripeAdapter.refund wire.breaker wire.stripe
  | some .ADYEN => AdyenAdapter.refund wire.breaker wire.adyen
  | _ => .error (.plain "No PSP adapter registered")

namespace RefundWire

/-- The refund that the PSP's answer says it has failed or canceled. -/
def rejects (wire : RefundWire) (provider : PSPProvider) : Option String :=
  match provider, wire.breaker.assertAvailable, wire.stripe with
  | .STRIPE, .ok _, .answered refund _ =>
    if refund.status = .failed ∨ refund.status = .canceled then some refund.id else none
  | _, _, _ => none

/-- The adapter hands back this refund.

Source: `StripePSPAdapter.refund`; `AdyenPSPAdapter.refund` -/
inductive Returns (wire : RefundWire) : PSPProvider → String → Prop
  | stripe {refund : StripeRefund} (sent : wire.breaker.assertAvailable = .ok ())
      (answer : wire.stripe = .answered refund (.ok ()))
      (reported : wire.breaker.recordSuccess = .ok ()) : Returns wire .STRIPE refund.id
  | adyen {reference : String} (sent : wire.breaker.assertAvailable = .ok ())
      (answer : wire.adyen = .answered reference (.ok ())) : Returns wire .ADYEN reference

lemma returns_of_refund {wire : RefundWire} {provider : PSPProvider}
    {response : PspRefundResponse}
    (h : PspAdapter.refund wire (some provider) = .ok response) :
    wire.Returns provider response.pspRefundId := by
  cases provider with
  | STRIPE =>
    obtain ⟨sent, refund, answer, reported, rfl⟩ := PspAdapter.call_eq_ok.1 h
    exact .stripe sent answer (reported rfl)
  | ADYEN =>
    obtain ⟨sent, reference, answer, -, rfl⟩ := PspAdapter.call_eq_ok.1 h
    exact .adyen sent answer
  | PAYPAL => exact (nomatch h)
  | CHASE => exact (nomatch h)

end RefundWire

/-! ### Histories -/

/-- A refund call, or Adyen's notification of what became of a refund.

Source: `PaymentController.refundPayment`; `WebhookProcessingService.handleAdyenNotification` -/
inductive RefundEvent where
  | call (refundId eventId : String) (now : Date) (wire : RefundWire) (params : RefundParams)
  | notified (env : WebhookEnv) (item : AdyenNotificationItem)

/-- The database, and the references of the refunds that the PSP has reported as failed or
canceled. -/
structure RefundBook where
  db : Db
  rejected : List String

namespace RefundEvent

/-- What a refund call for the payment `p` meets outside. -/
def env (refundId eventId : String) (now : Date) (wire : RefundWire) (p : PaymentAggregate) :
    RefundEnv :=
  { refundId, eventId, now, answer := PspAdapter.refund wire p.pspProvider.toOption }

/-- The handling of an event for the payment `id`. -/
def program (id : String) : RefundEvent → App Unit
  | call refundId eventId now wire params => do
      let payment ← getOwnedPayment id
      let _ ← refund (env refundId eventId now wire payment) payment params
  | notified env item => handleAdyenItem env { item with eventCode := "REFUND" }

/-- What the PSP reports with an event: the answer to a call that gets as far as the PSP, or the
notification. -/
def reported (id : String) (db : Db) : RefundEvent → List String
  | call _ _ _ wire params =>
    match db.findById id with
    | .ok (some p) =>
      match checkRefund p params with
      | .ok (provider, _, _) => (wire.rejects provider).toList
      | .error _ => []
    | _ => []
  | notified _ item => if item.success = "true" then [] else [item.pspReference]

/-- What an event leaves. -/
def apply (id : String) (event : RefundEvent) (book : RefundBook) : RefundBook where
  db := ((event.program id).run book.db).1
  rejected := book.rejected ++ event.reported id book.db

/-- No refund that is on record is rejected, and what comes back to a call has not been rejected. -/
def Unrejected (id : String) (event : RefundEvent) (book : RefundBook) : Prop :=
  ∀ p, book.db.Holds p → p.id = id →
    (∀ r ∈ p.refunds, ∀ reference ∈ event.reported id book.db,
      r.pspRefundId ≠ some reference) ∧
    match event with
    | call _ _ _ wire params => ∀ provider txId amount reference,
        checkRefund p params = .ok (provider, txId, amount) → wire.Returns provider reference →
          reference ∉ book.rejected ∧ wire.rejects provider ≠ some reference
    | notified _ _ => True

end RefundEvent

open RefundEvent

/-- The refunds on record that were not rejected. -/
def PaymentAggregate.accepted (p : PaymentAggregate) (rejected : List String) : List RefundRecord :=
  p.refunds.filter fun r => r.pspRefundId.all (· ∉ rejected)

namespace RefundBook

/-- The payment's total and the ledger's settlement credits count only refunds that were not
rejected. -/
def CountsAccepted (book : RefundBook) (id : String) : Prop :=
  ∃ p, book.db.Holds p ∧ p.id = id ∧
    p.totalRefunded = Money.sum p.amount.currency.code
      ((p.accepted book.rejected).map RefundRecord.amount) ∧
    bookedBy book.db.ledgerOutbox id .PAYMENT_REFUNDED .CREDIT
        p.amount.currency =
      ((p.accepted book.rejected).map (·.amount.amountMinorUnits)).sum

/-- No refund on record was rejected, and the ledger has them all. -/
def Sound (id : String) (book : RefundBook) : Prop :=
  ∃ p, book.db.Holds p ∧ p.id = id ∧
    (∀ r ∈ p.refunds, ∀ reference ∈ book.rejected, r.pspRefundId ≠ some reference) ∧
    bookedBy book.db.ledgerOutbox id .PAYMENT_REFUNDED .CREDIT
      p.amount.currency = p.refundedMinorUnits

lemma Sound.countsAccepted {id : String} {book : RefundBook} (h : book.Sound id) :
    book.CountsAccepted id := by
  obtain ⟨p, hp, hid, hrejected, hbooked⟩ := h
  have hall : p.accepted book.rejected = p.refunds := by
    refine List.filter_eq_self.2 fun r hr => ?_
    cases hreference : r.pspRefundId with
    | none => rfl
    | some reference =>
      simp only [Option.all_some, decide_eq_true_eq]
      exact fun hmem => hrejected r hr reference hmem hreference
  refine ⟨p, hp, hid, ?_, ?_⟩
  · rw [hall]
    rfl
  · rw [hall]
    exact hbooked

end RefundBook

/-! ### One event -/

lemma PaymentLifecycle.pspProvider_of_checkRefund {p : PaymentAggregate} {params : RefundParams}
    {provider : PSPProvider} {txId : String} {amount : Money}
    (h : checkRefund p params = .ok (provider, txId, amount)) :
    p.pspProvider.toOption = some provider := by
  unfold checkRefund at h
  split at h
  · rename_i provider' txId' hprovider htx
    rw [hprovider]
    split_ifs at h
    simp only [bind_eq_ok] at h
    obtain ⟨_, -, _, -, _, -, exceeds, -, h⟩ := h
    split_ifs at h
    · simp only [bind_eq_ok] at h
      obtain ⟨_, -, h⟩ := h
      cases h
    · obtain ⟨adapter, hadapter, h⟩ := bind_eq_ok.1 h
      obtain rfl := (Prod.mk.inj (Except.ok.inj h)).1
      rw [getAdapter_ok hadapter]
  · cases h

section step

variable {id : String} {book : RefundBook} {event : RefundEvent}

lemma RefundBook.Sound.unchanged (h : book.Sound id) (hcond : event.Unrejected id book)
    (hdb : ((event.program id).run book.db).1 = book.db) : (event.apply id book).Sound id := by
  obtain ⟨p, hp, hid, hrejected, hbooked⟩ := h
  unfold apply RefundBook.Sound
  rw [hdb]
  refine ⟨p, hp, hid, fun r hr reference hmem => ?_, hbooked⟩
  rcases List.mem_append.1 hmem with hmem | hmem
  · exact hrejected r hr reference hmem
  · exact (hcond p hp hid).1 r hr reference hmem

lemma RefundBook.sound_commit {db : Db} {p p' : PaymentAggregate} {r : RefundRecord}
    {event : LedgerOutboxEvent} {rejected : List String} (hp : db.Holds p) (hid : p'.id = p.id)
    (hamount : p'.amount = p.amount) (hrefunds : p'.refunds = p.refunds ++ [r])
    (hcurrency : r.amount.currency = p.amount.currency) (hevent : event.Refunds p.id r.amount)
    (hrejected : ∀ r' ∈ p'.refunds, ∀ reference ∈ rejected, r'.pspRefundId ≠ some reference)
    (hbooked : bookedBy db.ledgerOutbox p.id .PAYMENT_REFUNDED .CREDIT
      p.amount.currency = p.refundedMinorUnits) (now : Date) :
    RefundBook.Sound p.id ⟨db.commit p'.toPersistence event none now, rejected⟩ := by
  obtain ⟨q, hq, hsame, -⟩ := Db.Reflects.save ⟨p, hp, .refl p, rfl⟩ hid now
  refine ⟨q, hq, hsame.id.trans hid, ?_, ?_⟩
  · rw [hsame.refunds]
    exact hrejected
  · change bookedBy (db.ledgerOutbox ++ [event]) p.id _ _ _ = _
    rw [hsame.amount, hamount, ← hcurrency, bookedBy_append hevent, hcurrency,
      hbooked]
    unfold PaymentAggregate.refundedMinorUnits
    rw [hsame.refunds, hrefunds, List.map_append, List.sum_append]
    rfl

lemma RefundBook.Sound.call (h : book.Sound id) {refundId eventId : String} {now : Date}
    {wire : RefundWire} {params : RefundParams}
    (hcond : (call refundId eventId now wire params).Unrejected id book) :
    ((call refundId eventId now wire params).apply id book).Sound id := by
  obtain ⟨p, hp, rfl, hrejected, hbooked⟩ := h
  have hprogram : (((call refundId eventId now wire params).program p.id).run
      book.db).1 =
      ((refund (env refundId eventId now wire p) p params).run book.db).1 := by
    unfold program getOwnedPayment
    dsimp only
    rw [Prog.bind_assoc, run_findByIdOnMaster_bind, Db.findById_of_holds hp]
    exact congrArg Prod.fst (run_discard _ _)
  rcases (refund_books (env refundId eventId now wire p) p params).run book.db with
    hrun | ⟨_, ⟨provider, amount, response, p', event, hrefund, rfl⟩, hrun⟩
  · exact RefundBook.Sound.unchanged ⟨p, hp, rfl, hrejected, hbooked⟩ hcond (hprogram.trans hrun)
  · change _ = Cmd.apply _ book.db at hrun
    rw [Cmd.apply_transaction_some] at hrun
    split_ifs at hrun with hunchanged
    · obtain ⟨txId, hchecked⟩ := hrefund.checked
      have hreturns : wire.Returns provider response.pspRefundId := by
        refine RefundWire.returns_of_refund ?_
        rw [← pspProvider_of_checkRefund hchecked]
        exact hrefund.answered
      have hreported : (call refundId eventId now wire params).reported p.id book.db =
          (wire.rejects provider).toList := by
        unfold reported
        rw [Db.findById_of_holds hp]
        dsimp only
        rw [hchecked]
      obtain ⟨hrecord, hanswer⟩ := hcond p hp rfl
      obtain ⟨hnew, hnow⟩ := hanswer provider txId amount _ hchecked hreturns
      obtain ⟨-, -, hcurrency, -, hp'⟩ := PaymentAggregate.refund_ok hrefund.refunded
      unfold apply
      rw [hprogram, hrun]
      have hrefunds := congrArg PaymentAggregate.refunds hp'
      refine RefundBook.sound_commit hp (by rw [hp']) (by rw [hp']) hrefunds hcurrency
        hrefund.booked ?_ hbooked _
      rw [hrefunds]
      intro r hr reference hmem
      rw [hreported] at hrecord hmem
      rcases List.mem_append.1 hr with hr | hr <;> rcases List.mem_append.1 hmem with hmem | hmem
      · exact hrejected r hr reference hmem
      · exact hrecord r hr reference hmem
      · obtain rfl := List.mem_singleton.1 hr
        rintro ⟨rfl⟩
        exact hnew hmem
      · obtain rfl := List.mem_singleton.1 hr
        rintro ⟨rfl⟩
        exact hnow (Option.mem_toList.1 hmem)
    · exact RefundBook.Sound.unchanged ⟨p, hp, rfl, hrejected, hbooked⟩ hcond
        (hprogram.trans hrun)

/-- An event that reports no rejection keeps it. -/
lemma RefundBook.Sound.apply (h : book.Sound id) (hcond : event.Unrejected id book) :
    (event.apply id book).Sound id := by
  cases event with
  | call refundId eventId now wire params => exact h.call hcond
  | notified env item =>
    refine h.unchanged hcond ?_
    unfold program handleAdyenItem
    dsimp only
    split_ifs <;> rfl

end step

/-- **Rejected refunds are not counted**, from a payment without refunds on: in every history of
refund calls and notifications in which no refund that is on record is rejected and no answer that
comes back is a rejection. -/
theorem refunds_count_accepted (db : Db) (p : PaymentAggregate) (history : List RefundEvent)
    (hp : db.Holds p) (hrefunds : p.refunds = [])
    (hledger : ∀ event ∈ db.ledgerOutbox, event.paymentId = p.id →
      event.eventType ≠ .PAYMENT_REFUNDED)
    (hcond : ∀ moment ∈ History.moments (apply p.id) ⟨db, []⟩ history,
      moment.1.Unrejected p.id moment.2) :
    (History.after (apply p.id) ⟨db, []⟩ history).CountsAccepted p.id := by
  have hstart : RefundBook.Sound p.id ⟨db, []⟩ := by
    refine ⟨p, hp, rfl, fun r _ reference h => (nomatch h), ?_⟩
    have hnone : (db.ledgerOutbox.filter fun e =>
        e.paymentId = p.id ∧ e.eventType = .PAYMENT_REFUNDED) = [] := by
      refine List.filter_eq_nil_iff.2 fun event hevent => ?_
      simpa using hledger event hevent
    unfold bookedBy PaymentAggregate.refundedMinorUnits
    rw [hnone, hrefunds]
    rfl
  exact (History.keeps (apply p.id) (fun _ _ => RefundBook.Sound.apply) hstart history
    hcond).countsAccepted

/-- A call whose answer is no rejection meets the condition while nothing has been rejected. -/
lemma RefundEvent.unrejected_call {id : String} {book : RefundBook} {wire : RefundWire}
    (hnone : book.rejected = []) (hwire : ∀ provider, wire.rejects provider = none)
    (refundId eventId : String) (now : Date) (params : RefundParams) :
    (call refundId eventId now wire params).Unrejected id book ∧
      ((call refundId eventId now wire params).apply id book).rejected = [] := by
  have hreported : (call refundId eventId now wire params).reported id book.db = [] := by
    unfold reported
    dsimp only
    split
    · split
      · rw [hwire]
        rfl
      · rfl
    · rfl
  refine ⟨fun p hp hid => ⟨?_, ?_⟩, ?_⟩
  · rw [hreported]
    exact fun r _ reference h => (nomatch h)
  · intro provider txId amount reference _ _
    rw [hnone, hwire]
    exact ⟨List.not_mem_nil, nofun⟩
  · unfold apply
    rw [hreported, hnone]
    rfl

namespace Sample

open PaymentCheckoutSaga

/-- The database after a checkout that was charged at once by this provider. -/
def chargedAt (provider : PSPProvider) : Db :=
  ((execute (answered .SUCCEEDED) { input with preferredProvider := some provider }).run
    Db.empty).1

/-- A refund of `amount` that either PSP answers, Stripe with this status. -/
def refundOf (amount : Rat) (status : StripeRefundStatus) : RefundEvent :=
  .call "refund-1" "event-2" 0
    { stripe := .answered ⟨"psp-refund-1", status⟩ (.ok ())
      adyen := .answered "psp-refund-1" (.ok ()) }
    { amount := some amount, idempotencyKey := "key-2" }

/-- The ways a PSP rejects a refund of all: Stripe at once, Adyen after it has acknowledged it. -/
def rejection : PSPProvider → List RefundEvent
  | .STRIPE => [refundOf 10 .failed]
  | _ => [refundOf 10 .succeeded, .notified (webhookEnv "event-3")
      { eventCode := "REFUND", pspReference := "psp-refund-1", success := "false" }]

/-- The payment's total of refunds, and the total of those that were not rejected. -/
def refunded (book : RefundBook) : Option (Option Nat × Option Nat) :=
  (book.db.findById input.paymentId).toOption.join.map fun p =>
    (p.totalRefunded.toOption.map Money.amountMinorUnits,
      (Money.sum p.amount.currency.code
        ((p.accepted book.rejected).map RefundRecord.amount)).toOption.map Money.amountMinorUnits)

/-- The settlement credits of the payment's refunds. -/
def credited (book : RefundBook) : Nat :=
  bookedBy book.db.ledgerOutbox input.paymentId .PAYMENT_REFUNDED .CREDIT usd

/-- The state after the rejection of a refund by this provider. -/
def afterRejection (provider : PSPProvider) : RefundBook :=
  History.after (apply input.paymentId) ⟨chargedAt provider, []⟩ (rejection provider)

end Sample

open Sample

/-- A charge that is refunded in two parts, which Stripe answers with `pending` and `succeeded`. -/
theorem refunds_count_accepted_pending :
    status (History.after (apply "payment-1") ⟨chargedAt .STRIPE, []⟩
        [refundOf 4 .pending, refundOf 6 .succeeded]).db = some .REFUNDED ∧
      (History.after (apply "payment-1") ⟨chargedAt .STRIPE, []⟩
        [refundOf 4 .pending, refundOf 6 .succeeded]).CountsAccepted "payment-1" := by
  have hload : ((chargedAt .STRIPE).findById "payment-1").toOption.join.any fun p =>
      decide (p.refunds = []) := by decide +kernel
  obtain ⟨p, hfind, hrefunds⟩ := Db.exists_of_any hload
  obtain ⟨hid, hp⟩ := Db.holds_of_findById hfind
  refine ⟨by decide +kernel, ?_⟩
  rw [← hid]
  refine refunds_count_accepted (chargedAt .STRIPE) p _ hp (of_decide_eq_true hrefunds) ?_ ?_
  · rw [hid]
    decide +kernel
  · have hnone : ∀ amount status, status ≠ .failed ∧ status ≠ .canceled →
        ∀ book : RefundBook, book.rejected = [] →
          (refundOf amount status).Unrejected p.id book ∧
            ((refundOf amount status).apply p.id book).rejected = [] := by
      intro amount status hstatus book hbook
      refine unrejected_call hbook (fun provider => ?_) _ _ _ _
      cases provider <;> simp [RefundWire.rejects, hstatus]
    have hfirst := hnone 4 .pending (by decide) ⟨chargedAt .STRIPE, []⟩ rfl
    have hsecond := hnone 6 .succeeded (by decide) _ hfirst.2
    simp only [History.moments, List.forall_mem_cons]
    exact ⟨hfirst.1, hsecond.1, List.forall_mem_nil _⟩

lemma not_countsAccepted_of_refunded {book : RefundBook}
    (h : refunded book = some (some 1000, some 0)) : ¬ book.CountsAccepted "payment-1" := by
  rintro ⟨p, hp, hid, htotal, -⟩
  unfold refunded at h
  rw [show input.paymentId = p.id from hid.symm, Db.findById_of_holds hp] at h
  obtain ⟨hall, haccepted⟩ := Prod.mk.inj (Option.some.inj h)
  rw [htotal, haccepted] at hall
  exact absurd hall (by decide)

/-- Stripe's answer says that the refund has failed, or Adyen acknowledges it and reports its
failure later: it stays on the payment and in the ledger. -/
theorem rejected_refund_counted :
    ((afterRejection .STRIPE).rejected = ["psp-refund-1"] ∧
      refunded (afterRejection .STRIPE) = some (some 1000, some 0) ∧
      credited (afterRejection .STRIPE) = 1000 ∧
      ¬ (afterRejection .STRIPE).CountsAccepted "payment-1") ∧
    (afterRejection .ADYEN).rejected = ["psp-refund-1"] ∧
      refunded (afterRejection .ADYEN) = some (some 1000, some 0) ∧
      credited (afterRejection .ADYEN) = 1000 ∧
      ¬ (afterRejection .ADYEN).CountsAccepted "payment-1" := by
  have hstripe : refunded (afterRejection .STRIPE) = some (some 1000, some 0) := by
    decide +kernel
  have hadyen : refunded (afterRejection .ADYEN) = some (some 1000, some 0) := by
    decide +kernel
  exact ⟨⟨by decide +kernel, hstripe, by decide +kernel, not_countsAccepted_of_refunded hstripe⟩,
    by decide +kernel, hadyen, by decide +kernel, not_countsAccepted_of_refunded hadyen⟩

end OmniSwitch
