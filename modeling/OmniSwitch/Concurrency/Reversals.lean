import OmniSwitch.Concurrency.Statuses

/-!
# Money is reversed at most once

A refund saves under the lock.  A dispute notification and the resolution of a dispute save the
payment they read whatever its row holds by then, and a lost dispute books the amount of the
dispute, not what the payment has left.

Main results:

* `reversed_at_most_once`: in every interleaving whose saves find the row as it was read, and in
  which the disputes that are lost are recorded for no more than is left, no more is credited than
  was debited.
* `reversed_twice`: two deliveries of one loss, and the loss of a dispute that was won before.
-/

namespace OmniSwitch

open Lib Prog Statuses OptimisticLock LedgerOutboxEvent WebhookProcessing DisputeService

/-! ### Payments that the ledger covers -/

namespace Db

/-- The database has `p`, whose records are consistent, and the ledger has at least its balance. -/
structure Backs (db : Db) (p : PaymentAggregate) : Prop where
  reflects : db.Reflects p
  consistent : p.Consistent
  settled : (p.account consistent).balance ≤
    settledBy db.ledgerOutbox p.id p.amount.currency

section backs

variable {db db' : Db} {p p' q q' : PaymentAggregate} {event : LedgerOutboxEvent}
  {ev : Option LedgerOutboxEvent}

lemma Backs.congr (h : db.Backs p) (hpayments : db'.payments = db.payments)
    (hledger : db'.ledgerOutbox = db.ledgerOutbox) : db'.Backs p := by
  refine ⟨?_, h.consistent, hledger ▸ h.settled⟩
  obtain ⟨q, ⟨row, hrow, hload⟩, hsame⟩ := h.reflects
  exact ⟨q, ⟨row, hpayments ▸ hrow, hload⟩, hsame⟩

/-- The balance a lost dispute leaves is nothing, and its event takes no more than was left. -/
lemma balance_of_lost (hp : p.Consistent) (hp' : p'.Consistent) (hdisputed : p.status = .DISPUTED)
    (hstep : PaymentStep p (some event) p')
    (hfits : p.refundedMinorUnits + event.credited p.amount.currency ≤ p.amount.amountMinorUnits) :
    (p'.account hp').balance ≤ (p.account hp).balance + event.settled p.amount.currency := by
  cases hstep with
  | charge _ pending | capture _ _ _ _ pending => simp [hdisputed] at pending
  | refund _ _ _ _ charged => simp [hdisputed] at charged
  | lose r amount same all disputed status books =>
    have hrefunded : p'.refundedMinorUnits = p.amount.amountMinorUnits := by
      rw [same.refunded_eq, PaymentAggregate.refundedMinorUnits_append, all.2]
      exact Nat.add_sub_of_le all.1
    have hcollected : p'.collectedMinorUnits = p.amount.amountMinorUnits := by
      rw [PaymentAggregate.collectedMinorUnits_of_collected (by rw [status]; rfl)]
      exact congrArg Money.amountMinorUnits same.amount
    have hleft : p.collectedMinorUnits = p.amount.amountMinorUnits :=
      PaymentAggregate.collectedMinorUnits_of_collected (by rw [disputed]; rfl)
    have hdebit : LedgerEntry.total .DEBIT p.amount.currency.code
        (LedgerEntry.settlement event.entries) = 0 := by
      rw [books.settlement]
      rfl
    change (p'.collectedMinorUnits : Int) - p'.refundedMinorUnits ≤
      (p.collectedMinorUnits - p.refundedMinorUnits) + ((LedgerEntry.total .DEBIT
        p.amount.currency.code (LedgerEntry.settlement event.entries) : Int) -
        event.credited p.amount.currency)
    rw [hrefunded, hcollected, hleft, hdebit]
    omega

/-- A step that is saved with its event keeps the ledger ahead, as long as a lost dispute takes no
more than was left. -/
lemma Backs.stores (h : db.Backs p) (hstep : PaymentStep p ev p')
    (hfits : p.status = .DISPUTED → ∀ event, ev = some event →
      p.refundedMinorUnits + event.credited p.amount.currency ≤ p.amount.amountMinorUnits)
    (hstores : db.Stores p' ev db') : db'.Backs p' := by
  cases hstores with
  | save now =>
    refine ⟨h.reflects.save hstep.same_payment.1 now, hstep.consistent h.consistent, ?_⟩
    rw [(hstep.refines h.consistent nofun).balance, hstep.same_payment.1, hstep.same_payment.2]
    exact (add_zero _).trans_le h.settled
  | @commit event hold now =>
    refine ⟨h.reflects.save hstep.same_payment.1 now, hstep.consistent h.consistent, ?_⟩
    have hbalance : (p'.account (hstep.consistent h.consistent)).balance ≤
        (p.account h.consistent).balance + event.settled p.amount.currency := by
      by_cases hdisputed : p.status = .DISPUTED
      · exact balance_of_lost h.consistent _ hdisputed hstep (hfits hdisputed event rfl)
      · exact (hstep.refines h.consistent fun hd => absurd hd hdisputed).balance.le
    rw [hstep.same_payment.1, hstep.same_payment.2]
    change _ ≤ settledBy (db.ledgerOutbox ++ [event]) _ _
    rw [settledBy_append_event, if_pos hstep.event_paymentId]
    exact hbalance.trans (Int.add_le_add_right h.settled _)

lemma Backs.stores_of_ne (h : db.Backs p) (hstep : PaymentStep q ev q') (hid : q.id ≠ p.id)
    (hstores : db.Stores q' ev db') : db'.Backs p := by
  have hne : q'.id ≠ p.id := hstep.same_payment.1 ▸ hid
  cases hstores with
  | save now => exact ⟨h.reflects.save_of_ne hne now, h.consistent, h.settled⟩
  | commit hold now =>
    refine ⟨h.reflects.save_of_ne hne now, h.consistent, ?_⟩
    change _ ≤ settledBy (db.ledgerOutbox ++ [_]) _ _
    rw [settledBy_append_event, if_neg (hstep.event_paymentId ▸ hid), add_zero]
    exact h.settled

lemma Backs.refundsBooked_le (h : db.Backs p) :
    refundsBooked db p.id p.amount ≤
      debitedBy db.ledgerOutbox p.id p.amount.currency := by
  have hsum := bookedBy_add_settledBy_le db.ledgerOutbox p.id .PAYMENT_REFUNDED
    p.amount.currency
  have hbalance := (p.account h.consistent).balance_nonneg
  have hsettled := h.settled
  unfold refundsBooked
  omega

end backs

end Db

/-- The disputes that the operation reports as lost.

Source: `WebhookProcessingService.handleStripeEvent`,
`WebhookProcessingService.handleAdyenNotification` -/
def Operation.loses : Operation → List String
  | .stripeEvent _ event =>
    if event.type = "charge.dispute.closed" ∧ event.status = some "lost" then [event.objectId]
    else []
  | .adyenNotification items => items.filterMap fun item =>
    if item.2.eventCode = "CHARGEBACK" then truthy item.2.originalReference else none
  | .resolveDispute _ key .LOST => [key]
  | _ => []

/-! ### One step of an interleaving -/

namespace Reversals

/-- A payment that is disputed has at least as much left, on record, as each of the disputes `lost`
was recorded for. -/
def fits (id : String) (lost : List String) (db : Db) : Bool :=
  (db.findById id).toOption.join.all fun q => q.status ≠ .DISPUTED || lost.all fun key =>
    (db.findDispute key).all fun d => d.paymentId ≠ id ||
      q.refundedMinorUnits + d.amount.amountMinorUnits ≤ q.amount.amountMinorUnits

/-- A command that saves the payment without the lock finds the row as its program read it, and the
disputes that are lost within what is left; a dispute that is saved replaces no dispute of another
payment or amount. -/
def AsRead (id : String) (lost : List String) (seen : Option Db) (c : Cmd) (db : Db) : Bool :=
  match c with
  | .savePayment entity _ => entity.id ≠ id || stillAsRead id seen db
  | .transaction none entity _ _ _ =>
    entity.id ≠ id || (stillAsRead id seen db && fits id lost db)
  | .saveDispute d => db.disputeConflict d || (db.findDispute d.pspDisputeId).all fun d' =>
    d'.paymentId = d.paymentId ∧ d'.amount = d.amount
  | _ => true

/-- The payment of `p`, as it is by now, is covered. -/
def Inv (p : PaymentAggregate) (db : Db) : Prop :=
  ∃ q, q.id = p.id ∧ q.merchantId = p.merchantId ∧ q.amount = p.amount ∧ db.Backs q

/-- The disputes on record stay there, each for its payment and amount. -/
def KeepsDisputes (db db' : Db) : Prop :=
  ∀ key d, db.findDispute key = some d →
    ∃ d', db'.findDispute key = some d' ∧ d'.paymentId = d.paymentId ∧ d'.amount = d.amount

lemma KeepsDisputes.refl (db : Db) : KeepsDisputes db db := fun _ d hd => ⟨d, hd, rfl, rfl⟩

lemma KeepsDisputes.trans {a b c : Db} (h : KeepsDisputes a b) (h' : KeepsDisputes b c) :
    KeepsDisputes a c := by
  intro key d hd
  obtain ⟨d', hd', hpayment, hamount⟩ := h key d hd
  obtain ⟨d'', hd'', hpayment', hamount'⟩ := h' key d' hd'
  exact ⟨d'', hd'', hpayment'.trans hpayment, hamount'.trans hamount⟩

section

variable {p₀ p p' q : PaymentAggregate} {db db₀ : Db} {event : LedgerOutboxEvent} {id : String}
  {lost : List String} {seen : Option Db} {c : Cmd}

/-- A command under the condition keeps the disputes. -/
lemma keepsDisputes_apply (hcond : AsRead id lost seen c db) : KeepsDisputes db (c.apply db) := by
  cases c with
  | saveDispute d =>
    rw [Cmd.apply]
    split_ifs with hconflict
    · exact .refl db
    intro key e he
    by_cases hkey : key = d.pspDisputeId
    · subst hkey
      obtain ⟨hpayment, hamount⟩ : e.paymentId = d.paymentId ∧ e.amount = d.amount := by
        simpa [AsRead, hconflict, he] using hcond
      exact ⟨d, Db.findDispute_saveDispute_self db d, hpayment.symm, hamount.symm⟩
    · exact ⟨e, by rwa [Db.findDispute_saveDispute_of_ne hkey], rfl, rfl⟩
  | transaction guard entity event hold now =>
    rw [Cmd.apply]
    split_ifs <;> exact .refl db
  | _ => exact .refl db

/-- A step of a payment that was read is a step of the payment on record, where the row has the
columns that were read. -/
lemma step_of_columns (hseen : Inv p₀ db₀) (hp : db₀.Holds p) (hid : p.id = p₀.id)
    (hI : Inv p₀ db)
    (hcolumns : ∀ q, db.Holds q → q.id = p.id →
      q.status = p.status ∧ q.captures = p.captures ∧ q.refunds = p.refunds)
    {ev : Option LedgerOutboxEvent} (hstep : PaymentStep p ev p') :
    ∃ q, q.id = p₀.id ∧ q.merchantId = p₀.merchantId ∧ q.amount = p₀.amount ∧ db.Backs q ∧
      PaymentStep q ev p' := by
  obtain ⟨q₀, hq₀id, hq₀merchant, hq₀amount, hbacks₀⟩ := hseen
  obtain ⟨hsame₀, -⟩ := hbacks₀.reflects.of_holds hp (hid.trans hq₀id.symm)
  obtain ⟨q, hqid, hqmerchant, hqamount, hbacks⟩ := hI
  obtain ⟨r, hr, hsame, hstatus⟩ := hbacks.reflects
  obtain ⟨hstatus', hcaptures, hrefunds⟩ :=
    hcolumns r hr (hsame.id.trans (hqid.trans hid.symm))
  refine ⟨q, hqid, hqmerchant, hqamount, hbacks, hstep.congr_left ?_ ?_⟩
  · exact ⟨hid.trans hqid.symm, (hsame₀.merchantId.trans hq₀merchant).trans hqmerchant.symm,
      (hsame₀.amount.trans hq₀amount).trans hqamount.symm,
      hcaptures.symm.trans hsame.captures, hrefunds.symm.trans hsame.refunds⟩
  · exact hstatus'.symm.trans hstatus

/-- A step that is stored keeps the payment covered, where the row has the columns that were read
and the event of a lost dispute credits no more than the payment on record has left. -/
lemma Inv.stores {ev : Option LedgerOutboxEvent} {db' : Db} (hI : Inv p₀ db) (hseen : Inv p₀ db₀)
    (hp : db₀.Holds p) (hid : p.id = p₀.id)
    (hcolumns : ∀ q, db.Holds q → q.id = p.id →
      q.status = p.status ∧ q.captures = p.captures ∧ q.refunds = p.refunds)
    (hstep : PaymentStep p ev p')
    (hfits : p.status = .DISPUTED → ∀ event, ev = some event → ∀ q, db.Holds q → q.id = p₀.id →
      q.refundedMinorUnits + event.credited q.amount.currency ≤ q.amount.amountMinorUnits)
    (hstores : db.Stores p' ev db') : Inv p₀ db' := by
  obtain ⟨q, hqid, hqmerchant, hqamount, hbacks, hstep'⟩ :=
    step_of_columns hseen hp hid hI hcolumns hstep
  refine ⟨p', hstep'.same_payment.1.trans hqid, hstep'.same_merchant.trans hqmerchant,
    hstep'.same_payment.2.trans hqamount,
    hbacks.stores hstep' (fun hdisputed event hev => ?_) hstores⟩
  obtain ⟨r, hr, hsame, hstatus⟩ := hbacks.reflects
  have hrid : r.id = p₀.id := hsame.id.trans hqid
  have hfits := hfits ((hcolumns r hr (hrid.trans hid.symm)).1.symm.trans
    (hstatus.trans hdisputed)) event hev r hr hrid
  rw [← hsame.refunded_eq, ← hsame.amount]
  exact hfits

/-- What is written of another payment leaves this one covered. -/
lemma Inv.of_ne (hI : Inv p₀ db) (hid : p.id ≠ p₀.id)
    (hwrites : Saves p c ∨ Books p c ∨ BooksIfUnchanged p c) : Inv p₀ (c.apply db) := by
  obtain ⟨q, hqid, hqmerchant, hqamount, hbacks⟩ := hI
  refine ⟨q, hqid, hqmerchant, hqamount, ?_⟩
  rw [← hqid] at hid
  rcases hwrites with ⟨p', now, hstep, rfl⟩ | ⟨p', event, hold, now, hstep, rfl⟩ |
    ⟨-, p', event, hold, now, hstep, rfl⟩
  · exact hbacks.stores_of_ne hstep hid (.save now)
  · exact hbacks.stores_of_ne hstep hid (.commit hold now)
  · rw [Cmd.apply_transaction_some]
    split_ifs
    · exact hbacks.stores_of_ne hstep hid (.commit hold now)
    · exact hbacks

/-- What is saved of the payment as it was read, without an event. -/
lemma Inv.saves (hI : Inv p₀ db) (hseen : Inv p₀ db₀) (hp : db₀.Holds p) (hid : p.id = p₀.id)
    (hc : Saves p c) (hcond : AsRead p₀.id lost (some db₀) c db) : Inv p₀ (c.apply db) := by
  obtain ⟨p', now, hstep, rfl⟩ := hc
  have hread : stillAsRead p₀.id (some db₀) db := by
    simpa [AsRead, show p'.toPersistence.id = p₀.id from hstep.same_payment.1.trans hid] using hcond
  exact hI.stores hseen hp hid (fun q hq hqid => eq_of_stillAsRead hp hq hqid (hid ▸ hread)) hstep
    nofun (.save now)

/-- What is booked of it outside the lock. -/
lemma Inv.books (hI : Inv p₀ db) (hseen : Inv p₀ db₀) (hp : db₀.Holds p) (hid : p.id = p₀.id)
    (hstep : PaymentStep p (some event) p') {hold : Option ReserveHold} {now : Date}
    (hcond : AsRead p₀.id lost (some db₀) (.transaction none p'.toPersistence event hold now) db)
    (hfits : p.status = .DISPUTED → fits p₀.id lost db → ∀ q, db.Holds q → q.id = p₀.id →
      q.status = p.status →
      q.refundedMinorUnits + event.credited q.amount.currency ≤ q.amount.amountMinorUnits) :
    Inv p₀ (db.commit p'.toPersistence event hold now) := by
  obtain ⟨hread, hlost⟩ : stillAsRead p₀.id (some db₀) db ∧ fits p₀.id lost db := by
    simpa [AsRead, show p'.toPersistence.id = p₀.id from hstep.same_payment.1.trans hid] using hcond
  have hcolumns : ∀ q, db.Holds q → q.id = p.id →
      q.status = p.status ∧ q.captures = p.captures ∧ q.refunds = p.refunds :=
    fun q hq hqid => eq_of_stillAsRead hp hq hqid (hid ▸ hread)
  refine hI.stores hseen hp hid hcolumns hstep (fun hdisputed ev hev q hq hqid => ?_)
    (.commit hold now)
  exact Option.some.inj hev ▸
    hfits hdisputed hlost q hq hqid (hcolumns q hq (hqid.trans hid.symm)).1

/-- A command of the operations that resolve no dispute. -/
lemma Inv.step (hI : Inv p₀ db) (hseen : ∀ db, seen = some db → Inv p₀ db)
    (hc : Effects (·.status ≠ .DISPUTED) seen c) (hcond : AsRead p₀.id lost seen c db) :
    Inv p₀ (c.apply db) := by
  rcases hc with hother | ⟨db₀, p, rfl, hp, hwrites⟩
  · obtain ⟨q, hqid, hqmerchant, hqamount, hbacks⟩ := hI
    exact ⟨q, hqid, hqmerchant, hqamount, hbacks.congr (hother db).1 (hother db).2⟩
  have hseen := hseen db₀ rfl
  by_cases hid : p.id = p₀.id
  · rcases hwrites with hsaves | ⟨hne, p', event, hold, now, hstep, rfl⟩ |
      ⟨hmovable, p', event, hold, now, hstep, rfl⟩
    · exact hI.saves hseen hp hid hsaves hcond
    · exact hI.books hseen hp hid hstep hcond fun hdisputed => absurd hdisputed hne
    · rw [Cmd.apply_transaction_some]
      split_ifs with hun
      · refine hI.stores hseen hp hid (fun q hq hqid => Db.columns_of_unchanged hq hqid hun) hstep
          (fun hdisputed => ?_) (.commit hold now)
        rcases hmovable with (h | h) | h | h <;> simp [h] at hdisputed
      · exact hI
  · exact hI.of_ne hid (hwrites.imp_right (Or.imp_left And.right))

/-- The event of a lost dispute credits what the dispute is for, which fits. -/
lemma credited_of_lost {key : String} {d d' : Dispute} (hkey : key ∈ lost)
    (hfind : db.findDispute key = some d') (hpayment : d'.paymentId = p₀.id)
    (hamount : d'.amount = d.amount) (hbooks : event.Refunds p.id d.amount)
    (hlost : fits p₀.id lost db) (hq : db.Holds q) (hid : q.id = p₀.id)
    (hdisputed : q.status = .DISPUTED) :
    q.refundedMinorUnits + event.credited q.amount.currency ≤ q.amount.amountMinorUnits := by
  have hcredited : event.credited q.amount.currency ≤ d.amount.amountMinorUnits := by
    unfold LedgerOutboxEvent.credited
    rw [hbooks.settlement]
    unfold LedgerEntry.total
    by_cases hcode : d.amount.currency.code = q.amount.currency.code <;> simp [hcode]
  have hfits : q.refundedMinorUnits + d'.amount.amountMinorUnits ≤ q.amount.amountMinorUnits := by
    have hload : (db.findById p₀.id).toOption.join = some q := by
      rw [← hid, Db.findById_of_holds hq]
      rfl
    have hall := hlost
    simp only [fits, hload, Option.all_some, hdisputed, ne_eq, not_true_eq_false, decide_false,
      Bool.false_or, List.all_eq_true] at hall
    simpa [hfind, hpayment] using hall key hkey
  rw [hamount] at hfits
  omega

/-- The write that closes a dispute: where it books a loss, the dispute is on record. -/
lemma Inv.closes (key : String) {d : Dispute} (hI : Inv p₀ db) (hseen : Inv p₀ db₀)
    (hp : db₀.Holds p) (hdisputed : p.status = .DISPUTED) (hc : Closes p d c)
    (hrecord : p.id = p₀.id → (∀ entity now, c ≠ .savePayment entity now) →
      key ∈ lost ∧ ∃ d', db.findDispute key = some d' ∧ d'.paymentId = p₀.id ∧ d'.amount = d.amount)
    (hcond : AsRead p₀.id lost (some db₀) c db) : Inv p₀ (c.apply db) := by
  by_cases hid : p.id = p₀.id
  · obtain ⟨p', -, ⟨now, hstep, rfl⟩ | ⟨event, hold, now, hstep, hbooks, rfl⟩⟩ := hc
    · exact hI.saves hseen hp hid ⟨p', now, hstep, rfl⟩ hcond
    · obtain ⟨hkey, d', hfind, hpayment, hamount⟩ := hrecord hid fun _ _ h => by cases h
      rw [Cmd.apply_transaction_none]
      refine hI.books hseen hp hid hstep hcond fun _ hfits q hq hqid hsame => ?_
      exact credited_of_lost hkey hfind hpayment hamount hbooks hfits hq hqid
        (hsame.trans hdisputed)
  · exact hI.of_ne hid hc.writes

end

/-! ### The operations -/

section operations

variable {p₀ : PaymentAggregate} {lost : List String} {last : Db} {seen : Option Db}

variable (p₀ lost) in
/-- The program keeps the payment covered and the disputes on record, under the condition. -/
abbrev Safe (last : Db) (seen : Option Db) (prog : App Unit) : Prop :=
  Prog.Safe (Inv p₀) KeepsDisputes (fun seen c db => AsRead p₀.id lost seen c db)
    (fun _ seen _ => ∀ db, seen = some db → Inv p₀ db) last seen prog

/-- The programs that resolve no dispute are safe. -/
lemma safe_of_sat {prog : App Unit} (hseen : ∀ db, seen = some db → Inv p₀ db)
    (h : Sat (Effects (·.status ≠ .DISPUTED)) (fun _ _ => True) seen prog) :
    Safe p₀ lost last seen prog := by
  refine Sat.holds (P := Inv p₀) (fun _ h => h) (fun _ c db hI hseen hc hcond => ?_) hseen h
  have hstep : Inv p₀ (c.apply db) := Inv.step hI hseen hc hcond
  exact ⟨hstep, keepsDisputes_apply hcond⟩

/-- A handler that ends a pending payment. -/
lemma safe_settles {prog : App Unit} (hseen : ∀ db, seen = some db → Inv p₀ db)
    (h : prog.Transacts (OfLoaded Settles)) : Safe p₀ lost last seen prog :=
  safe_of_sat hseen (sat_settles (fun _ => not_disputed_of_pending) h)

/-- The save of a dispute touches no payment. -/
lemma safe_saveDispute (d : Dispute) (hseen : ∀ db, seen = some db → Inv p₀ db) :
    Safe p₀ lost last seen (saveDispute d) :=
  safe_of_sat hseen (sat_saveDispute.2 ⟨effects_saveDispute d, fun _ _ => trivial⟩)

/-- The resolution of a dispute: if it is lost, the dispute has been on record since it was looked
up. -/
lemma safe_resolveByPspDisputeId (env : ResolveEnv) (key : String) (outcome : DisputeOutcome)
    (hlost : outcome = .LOST → key ∈ lost) (hseen : ∀ db, seen = some db → Inv p₀ db) :
    Safe p₀ lost last seen (resolveByPspDisputeId env key outcome) := by
  unfold Safe resolveByPspDisputeId
  refine (holds_bind _ _).2 fun db₁ hI₁ _ _ => ⟨hI₁, .refl db₁, ?_⟩
  dsimp only
  cases hfind : db₁.findDispute key with
  | none => exact hseen
  | some d =>
    change Safe p₀ lost db₁ seen (if d.status = .WON ∨ d.status = .LOST then pure () else _)
    split_ifs
    · exact hseen
    refine (holds_bind _ _).2 fun db₂ hI₂ hkeeps₂ _ => ⟨hI₂, .refl db₂, ?_⟩
    have hseen₂ : ∀ db, some db₂ = some db → Inv p₀ db := fun db h => Option.some.inj h ▸ hI₂
    refine (holds_liftM _).2 fun p? hload => ?_
    split
    · refine (holds_bind _ _).2 ((holds_liftM _).2 fun d' _ => ?_)
      exact safe_saveDispute d' hseen₂
    · rename_i p hp
      obtain ⟨rfl, hstatus⟩ := Option.filter_eq_some_iff.1 hp
      have hstatus : p.status = .DISPUTED := of_decide_eq_true hstatus
      obtain ⟨hpid, hholds⟩ := Db.holds_of_findById hload
      refine (holds_bind _ _).2 ((holds_liftM _).2 fun d' _ => ?_)
      refine (holds_bind _ _).2 ((holds_liftM _).2 fun resolved hresolved => ?_)
      refine (holds_bind _ _).2 ?_
      cases outcome with
      | WON =>
        intro db₃ hI₃ _ hcond
        refine ⟨hI₃.closes key hI₂ hholds hstatus (closes_of_won hstatus hresolved d env.now)
          (fun _ hsaves => ?_) hcond, keepsDisputes_apply hcond, safe_saveDispute d' hseen₂⟩
        exact absurd rfl (hsaves _ _)
      | LOST =>
        refine (holds_bind _ _).2 ((holds_liftM _).2 fun event hevent => ?_)
        intro db₃ hI₃ hkeeps₃ hcond
        have hcloses : Closes p d _ :=
          closes_of_lost hstatus hresolved (createRefundEntries_ok hevent) none env.now
        obtain ⟨d₃, hfind₃, hpayment, hamount⟩ := hkeeps₂.trans hkeeps₃ key d hfind
        refine ⟨hI₃.closes key hI₂ hholds hstatus hcloses (fun hid _ => ?_) hcond,
          keepsDisputes_apply hcond, safe_saveDispute d' hseen₂⟩
        exact ⟨hlost rfl, d₃, hfind₃, hpayment.trans (hpid.symm.trans hid), hamount⟩

/-- The items of a notification, each of which may find what the ones before it have read. -/
lemma safe_adyenNotification (items : List (WebhookEnv × AdyenNotificationItem))
    (hlost : ∀ key ∈ (Operation.adyenNotification items).loses, key ∈ lost)
    (hseen : ∀ db, seen = some db → Inv p₀ db) :
    Safe p₀ lost last seen (handleAdyenNotification items) := by
  induction items generalizing last seen with
  | nil => exact hseen
  | cons item items ih =>
    have hitem : Safe p₀ lost last seen (handleAdyenItem item.1 item.2) := by
      refine handleAdyenItem_elim hseen
        (fun _ _ _ _ => safe_of_sat hseen (sat_markDisputed _ _ _ _ _ seen))
        (fun key outcome hreported => safe_resolveByPspDisputeId _ key outcome (fun h => ?_) hseen)
        (fun _ _ => safe_settles hseen (markFailed_transacts _ _ _ _))
        fun _ _ => safe_settles hseen (markSucceeded_transacts _ _ _)
      obtain ⟨hcode, hreference⟩ := hreported h
      exact hlost key (List.mem_filterMap.2
        ⟨item, List.mem_cons_self, by rw [if_pos hcode, hreference]⟩)
    refine (holds_bind _ _).2 (hitem.mono fun last' seen' _ hseen' =>
      ih (fun key hkey => ?_) hseen')
    obtain ⟨other, hother, hkey⟩ := List.mem_filterMap.1 hkey
    exact hlost key (List.mem_filterMap.2 ⟨other, List.mem_cons_of_mem item hother, hkey⟩)

/-- Every operation is safe, once the disputes it reports as lost are among those of the
condition. -/
lemma safe_operation (op : Operation) (hlost : ∀ key ∈ op.loses, key ∈ lost) :
    Safe p₀ lost last none op.program := by
  have hseen : ∀ db, (none : Option Db) = some db → Inv p₀ db := nofun
  cases op with
  | refund env id params =>
    exact safe_of_sat hseen (sat_transacts (PaymentLifecycle.refundCall_transacts env id params)
      fun _ _ hc => .inr (.inr hc))
  | capture env id params =>
    exact safe_of_sat hseen (sat_transacts (PaymentLifecycle.captureCall_transacts env id params)
      fun _ _ hc => .inr (.inr hc))
  | cancel env id key =>
    exact safe_of_sat hseen (sat_transacts (PaymentLifecycle.cancelCall_transacts env id key)
      fun _ _ hc => .inl hc.2.saves.2)
  | stripeEvent env event =>
    refine handleStripeEvent_elim hseen
      (fun _ _ _ _ => safe_of_sat hseen (sat_markDisputed _ _ _ _ _ none))
      (fun outcome hreported => safe_resolveByPspDisputeId _ _ outcome (fun h => ?_) hseen)
      (fun _ _ => safe_settles hseen (markFailed_transacts _ _ _ _))
      fun _ => safe_settles hseen (markSucceeded_transacts _ _ _)
    refine hlost event.objectId ?_
    rw [Operation.loses, if_pos (hreported h)]
    exact List.mem_singleton_self event.objectId
  | adyenNotification items => exact safe_adyenNotification items hlost hseen
  | resolveAmbiguous env params =>
    exact safe_settles hseen (AmbiguousPayment.resolve_transacts env params)
  | autoResolve env id =>
    exact safe_settles hseen (AmbiguousPayment.autoResolveOne_transacts env id)
  | resolveDispute env key outcome =>
    refine safe_resolveByPspDisputeId env key outcome (fun houtcome => hlost key ?_) hseen
    rw [houtcome]
    exact List.mem_singleton_self key

end operations

end Reversals

/-- **Money is reversed at most once**: in every interleaving of refunds, dispute notifications,
resolutions of disputes and the other operations, in which the saves outside the lock find the row
as it was read and the disputes that are lost are recorded for no more than is left.  An operation
that fails at some step is one that the schedule does not name again. -/
theorem reversed_at_most_once (db : Db) (p : PaymentAggregate) (ops : List Operation)
    (schedule : List Nat) (hstart : db.Backs p)
    (hread : ∀ e ∈ ((operationPool db ops).exec schedule).1,
      Reversals.AsRead p.id (ops.flatMap Operation.loses) e.seen e.cmd e.pre) :
    ∀ db' ∈ db :: ((operationPool db ops).exec schedule).1.map (·.post),
      refundsBooked db' p.id p.amount ≤
        debitedBy db'.ledgerOutbox p.id p.amount.currency := by
  have hinv : Reversals.Inv p db := ⟨p, rfl, rfl, rfl, hstart⟩
  have hsafe : ∀ prog ∈ ops.map Operation.program, Prog.Safe (Reversals.Inv p)
      Reversals.KeepsDisputes (fun seen c db => Reversals.AsRead p.id
        (ops.flatMap Operation.loses) seen c db) (fun _ _ _ => True) db none prog := by
    intro prog hprog
    obtain ⟨op, hop, rfl⟩ := List.mem_map.1 hprog
    exact (Reversals.safe_operation op fun key hkey =>
      List.mem_flatMap.2 ⟨op, hop, hkey⟩).mono fun _ _ _ _ => trivial
  obtain ⟨hevents, -⟩ := Pool.exec_safe .refl (fun _ _ _ => .trans)
    (Pool.safe_start .refl hinv hsafe) schedule hread
  have hbound : ∀ db', Reversals.Inv p db' → refundsBooked db' p.id p.amount ≤
      debitedBy db'.ledgerOutbox p.id p.amount.currency := by
    rintro db' ⟨q, hqid, -, hqamount, hbacks⟩
    rw [← hqid, ← hqamount]
    exact hbacks.refundsBooked_le
  rw [List.forall_mem_cons, List.forall_mem_map]
  exact ⟨hbound db hinv, fun e he => hbound e.post (hevents e he).2.1⟩

namespace Sample

/-- A refund of four dollars, a dispute, and its loss, which is delivered twice. -/
def refundAndLoss : List Operation :=
  refundAndDispute ++ [.stripeEvent (webhookEnv "event-3") disputeLost,
    .stripeEvent (webhookEnv "event-4") disputeLost]

/-- A dispute that is won, a refund of four dollars, another dispute, and the loss of the
first. -/
def staleDispute : List Operation :=
  [.stripeEvent (webhookEnv "event-2") disputeCreated,
    .resolveDispute { eventId := "event-3", now := 0 } "dp-1" .WON,
    .refund (refundEnv "refund-1") "payment-1" ⟨some 4, none, "key-2"⟩,
    .stripeEvent { webhookEnv "event-4" with record := ⟨"dispute-2", 0, {}, .ok none, true⟩ }
      { disputeCreated with objectId := "dp-2" },
    .stripeEvent (webhookEnv "event-5") disputeLost]

/-- What is refunded and what is debited at the end of a run. -/
def reversed (ops : List Operation) (schedule : List Nat) : Nat × Nat :=
  let db := ((operationPool chargedDb ops).exec schedule).2.state
  (refundsBooked db "payment-1" tenDollars,
    debitedBy db.ledgerOutbox "payment-1" tenDollars.currency)

end Sample

open Sample

/-- A refund and a dispute are both read before either writes; the dispute is lost, and its loss
is delivered again. -/
theorem reversed_at_most_once_lost :
    reversed refundAndLoss [0, 1, 0, 1, 0, 1, 1, 1, 2, 2, 2, 2, 3, 3] = (1000, 1000) ∧
    ∀ db' ∈ chargedDb :: ((operationPool chargedDb refundAndLoss).exec
        [0, 1, 0, 1, 0, 1, 1, 1, 2, 2, 2, 2, 3, 3]).1.map (·.post),
      refundsBooked db' "payment-1" tenDollars ≤
        debitedBy db'.ledgerOutbox "payment-1" tenDollars.currency := by
  refine ⟨by decide +kernel, ?_⟩
  obtain ⟨p, hid, hamount, haccounts, -⟩ := fresh_empty.tracks (answered .SUCCEEDED)
  have hbound := reversed_at_most_once chargedDb p refundAndLoss
    [0, 1, 0, 1, 0, 1, 1, 1, 2, 2, 2, 2, 3, 3] ⟨haccounts.reflects, haccounts.consistent,
      haccounts.settled.ge⟩ (by rw [hid]; decide +kernel)
  rw [hid, hamount] at hbound
  exact hbound

/-- Two deliveries of one lost dispute both read it open: ten dollars are credited twice.  And a
won dispute whose resolution stopped before the dispute was closed is lost after a refund of four
dollars and another dispute of the six that were left: its ten dollars are credited on top. -/
theorem reversed_twice :
    reversed refundAndLoss [1, 1, 1, 1, 1, 2, 3, 2, 3, 2, 3] = (2000, 1000) ∧
    reversed staleDispute [0, 0, 0, 0, 0, 1, 1, 1, 2, 2, 2, 3, 3, 3, 3, 3, 4, 4, 4] =
      (1400, 1000) := by
  decide +kernel

end OmniSwitch
