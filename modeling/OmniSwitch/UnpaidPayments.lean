import OmniSwitch.Routing.Attribution
import OmniSwitch.Settlement

/-!
# Payments that no PSP has accepted

Once its checkout has ended, a payment is moved on by the operations on payments only.  One that is
unpaid, with no transaction that could report otherwise, can be cancelled and nothing else.

Main results:

* `Operation.keeps_unpaid`: an operation leaves an unpaid payment unpaid;
* `unaccepted_never_settled`: no sequence of operations settles anything for it.
-/

namespace OmniSwitch

open Lib Prog PaymentStatus LedgerOutboxEvent PaymentCheckoutSaga

/-- No charge of the payment has been accepted, or none is known of. -/
def PaymentStatus.unpaid : PaymentStatus → Bool
  | PENDING | PROCESSING | FAILED | CANCELLED => true
  | _ => false

/-- No charge of the payment has been accepted, and there is no transaction to report one. -/
def Db.Unpaid (db : Db) (id : String) : Prop :=
  ∀ row ∈ persisted db id, row.1.unpaid ∧ row.2.2 = none

/-! ### Writes -/

namespace Db

variable {db : Db} {id : String} {p q : PaymentAggregate}

/-- A payment is saved: the one in question only where it was and stays unpaid. -/
lemma Unpaid.savePayment (h : db.Unpaid id) (hq : db.Holds q) (hid : p.id = q.id)
    (hp : q.status.unpaid → q.pspTransactionId.toOption = none →
      p.status.unpaid ∧ p.pspTransactionId.store none = none) (now : Date) :
    (db.savePayment p.toPersistence now).Unpaid id := by
  by_cases hqid : q.id = id
  · subst hqid
    have hrow := persisted_of_holds hq
    have hsaved := persisted_savePayment db p now
    obtain ⟨hstatus, htx⟩ := h _ hrow
    rw [hid, hrow, Option.bind_some, Option.bind_some, htx] at hsaved
    intro row hmem
    obtain rfl := Option.some.inj (hsaved.symm.trans hmem)
    exact hp hstatus htx
  · unfold Unpaid
    rwa [persisted_savePayment_of_ne db (fun h => hqid (hid.symm.trans h)) now]

end Db

lemma PaymentAggregate.Awaits.not_unpaid {p : PaymentAggregate} (h : p.Awaits)
    (hunpaid : p.status.unpaid) : p.pspTransactionId.toOption ≠ none := by
  rcases h with ⟨-, htx⟩ | hambiguous
  · exact Option.isSome_iff_ne_none.1 htx
  · rw [hambiguous] at hunpaid
    exact nomatch hunpaid

/-- Of an unpaid payment only a cancellation is written. -/
lemma Written.keeps_unpaid {charges : String → Prop} {db db' : Db} (h : Written charges db db')
    {id : String} (hunpaid : db.Unpaid id) : db'.Unpaid id := by
  cases h with
  | charged hold now holds awaits _ step | missed now holds awaits step =>
    exact hunpaid.savePayment holds step.same_payment.1
      (fun hstatus htx => absurd htx (awaits.not_unpaid hstatus)) now
  | @cancelled q _ now holds _ step status transaction =>
    refine hunpaid.savePayment holds step.same_payment.1 (fun _ htx => ?_) now
    rw [status, transaction, ← htx]
    cases q.pspTransactionId <;> exact ⟨rfl, rfl⟩
  | moved hold now holds movable step =>
    refine hunpaid.savePayment holds step.same_payment.1 (fun hstatus _ => ?_) now
    rcases movable with (h | h) | h | h <;> rw [h] at hstatus <;> exact nomatch hstatus
  | disputed now holds charged _ step _ records =>
    have hsaved := hunpaid.savePayment holds step.same_payment.1 (fun hstatus _ => ?_) now
    · obtain rfl | ⟨d, -, -, rfl⟩ := records <;> exact hsaved
    · rcases charged with h | h <;> rw [h] at hstatus <;> exact nomatch hstatus
  | closed => exact hunpaid
  | resolved _ _ _ holds _ status closes =>
    obtain ⟨p, -, ⟨now, step, rfl⟩ | ⟨event, hold, now, step, -, rfl⟩⟩ := closes <;>
      exact hunpaid.savePayment holds step.same_payment.1
        (fun hstatus _ => nomatch status ▸ hstatus) now

/-- **What no PSP has accepted, no operation can make paid.** -/
theorem Operation.keeps_unpaid (op : Operation) {db : Db} {id : String} (h : db.Unpaid id) :
    (op.apply db).Unpaid id :=
  op.keeps_of_written (fun hwritten hunpaid => hwritten.keeps_unpaid hunpaid) h

/-! ### Whole runs -/

namespace PaymentCheckoutSaga

/-- **A charge that is not on record is never booked**: after a checkout that stores none, and no
transaction, no sequence of operations pays the payment or settles anything. -/
theorem unaccepted_never_settled (env : CheckoutEnv) (input : CheckoutSagaInput)
    (ops : List Operation) (db : Db) (hfresh : db.Fresh input.paymentId)
    (hunpaid : ((execute env input).run db).1.Unpaid input.paymentId) :
    ∀ db' ∈ runs ((execute env input).run db).1 (ops.map Operation.program),
      db'.Unpaid input.paymentId ∧
        settledBy db'.ledgerOutbox input.paymentId input.amount.currency = 0 := by
  intro db' hdb'
  have hstays : db'.Unpaid input.paymentId := by
    refine forall_mem_runs (I := (·.Unpaid input.paymentId)) (fun p hp s hs => ?_) hunpaid db' hdb'
    obtain ⟨op, -, rfl⟩ := List.mem_map.1 hp
    exact op.keeps_unpaid hs
  obtain ⟨p, hid, hamount, haccounts, -⟩ := tracks_of_mem_runs env input ops db hfresh db' hdb'
  obtain ⟨q, hq, hsame, hstatus⟩ := haccounts.reflects
  have hrow := persisted_of_holds hq
  rw [hsame.id, hid, hstatus] at hrow
  have hcollected : p.collectedMinorUnits = 0 := by
    have hunpaid := (hstays _ hrow).1
    unfold PaymentAggregate.collectedMinorUnits
    cases hp : p.status <;> simp_all [unpaid]
  -- no more is returned than was collected
  have hnonneg := (p.account haccounts.consistent).balance_nonneg
  rw [← hid, ← hamount, haccounts.settled]
  simp only [Account.balance, PaymentAggregate.account, hcollected] at hnonneg ⊢
  exact ⟨hid ▸ hstays, by omega⟩

open Sample in
/-- After a declined checkout a success is notified, and the payment cancelled and refunded. -/
theorem unaccepted_never_settled_declined :
    (runs ((execute (answered .FAILED) input).run Db.empty).1
      (([.stripeEvent (webhookEnv "event-2") paymentSucceeded,
        .cancel ⟨0, .ok { success := true }⟩ "payment-1" "key-2",
        .refund (refundEnv "refund-1") "payment-1" ⟨some 4, none, "key-3"⟩] : List Operation).map
          Operation.program)).map (·.status "payment-1") = List.replicate 4 (some .FAILED) ∧
    ∀ db' ∈ runs ((execute (answered .FAILED) input).run Db.empty).1
        (([.stripeEvent (webhookEnv "event-2") paymentSucceeded,
          .cancel ⟨0, .ok { success := true }⟩ "payment-1" "key-2",
          .refund (refundEnv "refund-1") "payment-1" ⟨some 4, none, "key-3"⟩] :
            List Operation).map Operation.program),
      db'.Unpaid "payment-1" ∧ settledBy db'.ledgerOutbox "payment-1" usd = 0 :=
  ⟨by decide +kernel, unaccepted_never_settled (answered .FAILED) input _ _ fresh_empty
    (by unfold Db.Unpaid; decide +kernel)⟩

end PaymentCheckoutSaga

end OmniSwitch
