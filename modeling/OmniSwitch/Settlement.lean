import OmniSwitch.Operations

/-!
# The ledger agrees with the payments

One payment over its whole life, without concurrent writers: whatever is done to it, the
settlement entries booked for it add up to what its status and records say.  The webhooks look
payments and disputes up on a replica, so that this needs the replica to have caught up.

Main results:

* `settlement_agrees`: the settlement entries of a payment are what its status says was collected,
  less its refunds, in every state of every sequence of operations after its checkout.
* `settlement_within_amount`: they never exceed its amount, nor fall below nothing.
* `settlement_doubled`: a success that is notified again before the replica has caught up.
-/

namespace OmniSwitch

open Lib Prog PaymentCheckoutSaga LedgerOutboxEvent

variable {db : Db} {p q : PaymentAggregate} {d : Dispute}

namespace Db

/-! ### Agreement, and the writes that keep it -/

/-- The database has a payment with the status and records of `p`. -/
def Reflects (db : Db) (p : PaymentAggregate) : Prop :=
  ∃ q, db.Holds q ∧ p.SameRecords q ∧ q.status = p.status

/-- The database has `p`, whose records are consistent, and the ledger has its balance. -/
structure Accounts (db : Db) (p : PaymentAggregate) : Prop where
  reflects : db.Reflects p
  consistent : p.Consistent
  settled : settledBy db.ledgerOutbox p.id p.amount.currency =
    (p.account consistent).balance

/-- The payment is saved, in one transaction with its event if there is one. -/
inductive Stores (db : Db) (p : PaymentAggregate) : Option LedgerOutboxEvent → Db → Prop
  | save (now : Date) : Stores db p none (db.savePayment p.toPersistence now)
  | commit {event : LedgerOutboxEvent} (hold : Option ReserveHold) (now : Date) :
    Stores db p (some event) (db.commit p.toPersistence event hold now)

lemma Reflects.save {p' : PaymentAggregate} (h : db.Reflects p) (hid : p'.id = p.id)
    (now : Date) : (db.savePayment p'.toPersistence now).Reflects p' := by
  obtain ⟨q, ⟨row, hrow, hq⟩, hsame, -⟩ := h
  refine holds_savePayment now fun row' hrow' => ?_
  rw [hid, ← hsame.id, hrow] at hrow'
  exact ⟨q, Option.some.inj hrow' ▸ hq⟩

lemma Reflects.save_of_ne (h : db.Reflects p) (hid : q.id ≠ p.id) (now : Date) :
    (db.savePayment q.toPersistence now).Reflects p := by
  obtain ⟨p₀, ⟨row, hrow, hp₀⟩, hsame, hstatus⟩ := h
  refine ⟨p₀, ⟨row, ?_, hp₀⟩, hsame, hstatus⟩
  rw [get_savePayment_of_ne _ _ _ (by rw [hsame.id]; exact hid.symm)]
  exact hrow

lemma Reflects.of_holds (h : db.Reflects p) (hq : db.Holds q) (hid : q.id = p.id) :
    p.SameRecords q ∧ q.status = p.status := by
  obtain ⟨q', hq', hsame, hstatus⟩ := h
  obtain rfl := hq.unique hq' (hid.trans hsame.id.symm)
  exact ⟨hsame, hstatus⟩

section accounts

variable {db db' : Db} {p p' q q' : PaymentAggregate} {ev : Option LedgerOutboxEvent}

/-- A step that is saved with its event keeps the agreement, as long as the event of a lost dispute
is for what is left. -/
lemma Accounts.stores (h : db.Accounts p) (hstep : PaymentStep p ev p')
    (hlose : p.status = .DISPUTED → ∀ event, ev = some event → event.Refunds p.id
      ⟨p.amount.amountMinorUnits - p.refundedMinorUnits, p.amount.currency⟩)
    (hstores : db.Stores p' ev db') : db'.Accounts p' := by
  have hbalance := (hstep.refines h.consistent hlose).balance
  rw [← h.settled, ← hstep.same_payment.1, ← hstep.same_payment.2] at hbalance
  cases hstores with
  | save now =>
    exact ⟨h.reflects.save hstep.same_payment.1 now, hstep.consistent h.consistent,
      (hbalance.trans (add_zero _)).symm⟩
  | commit hold now =>
    refine ⟨h.reflects.save hstep.same_payment.1 now, hstep.consistent h.consistent, ?_⟩
    rw [hbalance]
    change settledBy (db.ledgerOutbox ++ [_]) _ _ = _
    rw [settledBy_append_event, if_pos (hstep.event_paymentId.trans hstep.same_payment.1.symm),
      hstep.same_payment.2]
    rfl

lemma Accounts.stores_of_ne (h : db.Accounts p) (hstep : PaymentStep q ev q') (hid : q.id ≠ p.id)
    (hstores : db.Stores q' ev db') : db'.Accounts p := by
  have hne : q'.id ≠ p.id := hstep.same_payment.1 ▸ hid
  cases hstores with
  | save now => exact ⟨h.reflects.save_of_ne hne now, h.consistent, h.settled⟩
  | commit hold now =>
    refine ⟨h.reflects.save_of_ne hne now, h.consistent, ?_⟩
    change settledBy (db.ledgerOutbox ++ [_]) _ _ = _
    rw [settledBy_append_event, if_neg (hstep.event_paymentId ▸ hid), add_zero]
    exact h.settled

end accounts

/-! ### Disputes -/

/-- An open dispute of `p` is the only one, `p` is disputed, and it is for all that is left. -/
structure OpenDisputes (db : Db) (p : PaymentAggregate) : Prop where
  disputed : ∀ key d, db.findDispute key = some d → d.paymentId = p.id → d.isOpen →
    p.status = .DISPUTED ∧
      d.amount = ⟨p.amount.amountMinorUnits - p.refundedMinorUnits, p.amount.currency⟩
  unique : ∀ key key' d d', db.findDispute key = some d → db.findDispute key' = some d' →
    d.paymentId = p.id → d'.paymentId = p.id → d.isOpen → d'.isOpen → key = key'

lemma openDisputes_of_none
    (h : ∀ key d, db.findDispute key = some d → d.paymentId = p.id → ¬ d.isOpen) :
    db.OpenDisputes p where
  disputed := fun key d hd hid hopen => absurd hopen (h key d hd hid)
  unique := fun key _ d _ hd _ hid _ hopen _ => absurd hopen (h key d hd hid)

/-- A payment that is not disputed has no open dispute, and keeps having none as long as the
disputes stay as they are. -/
lemma OpenDisputes.of_not_disputed {db' : Db} {p' : PaymentAggregate} (h : db.OpenDisputes p)
    (hstatus : p.status ≠ .DISPUTED) (hid : p'.id = p.id) (hdisputes : db'.disputes = db.disputes) :
    db'.OpenDisputes p' := by
  refine openDisputes_of_none fun key d hd hd' hopen => hstatus ?_
  unfold findDispute at hd
  rw [hdisputes] at hd
  exact (h.disputed key d hd (hd'.trans hid) hopen).1

lemma OpenDisputes.of_disputes {db' : Db} (h : db.OpenDisputes p)
    (hdisputes : db'.disputes = db.disputes) : db'.OpenDisputes p := by
  have hfind : ∀ key, db'.findDispute key = db.findDispute key := by
    intro key
    unfold findDispute
    rw [hdisputes]
  constructor
  · intro key d hd
    exact h.disputed key d (hfind key ▸ hd)
  · intro key key' d d' hd hd'
    exact h.unique key key' d d' (hfind key ▸ hd) (hfind key' ▸ hd')

lemma OpenDisputes.saveDispute_of_ne (h : db.OpenDisputes p) (hne : d.paymentId ≠ p.id) :
    (db.saveDispute d).OpenDisputes p := by
  have hfind : ∀ key e, (db.saveDispute d).findDispute key = some e → e.paymentId = p.id →
      db.findDispute key = some e := by
    intro key e he hid
    by_cases hkey : key = d.pspDisputeId
    · rw [hkey, findDispute_saveDispute_self] at he
      exact absurd (Option.some.inj he ▸ hid) hne
    · rwa [findDispute_saveDispute_of_ne hkey] at he
  constructor
  · intro key e he hid
    exact h.disputed key e (hfind key e he hid) hid
  · intro key key' e e' he he' hid hid'
    exact h.unique key key' e e' (hfind key e he hid) (hfind key' e' he' hid') hid hid'

/-- The first dispute that is opened, for what is left of a payment that is disputed. -/
lemma openDisputes_saveDispute
    (hnone : ∀ key e, db.findDispute key = some e → e.paymentId = p.id → ¬ e.isOpen)
    (hstatus : p.status = .DISPUTED)
    (hamount : d.amount = ⟨p.amount.amountMinorUnits - p.refundedMinorUnits, p.amount.currency⟩) :
    (db.saveDispute d).OpenDisputes p := by
  have honly : ∀ key e, (db.saveDispute d).findDispute key = some e → e.paymentId = p.id →
      e.isOpen → key = d.pspDisputeId ∧ e = d := by
    intro key e he hid hopen
    by_cases hkey : key = d.pspDisputeId
    · rw [hkey, findDispute_saveDispute_self] at he
      exact ⟨hkey, (Option.some.inj he).symm⟩
    · rw [findDispute_saveDispute_of_ne hkey] at he
      exact absurd hopen (hnone key e he hid)
  constructor
  · intro key e he hid hopen
    rw [(honly key e he hid hopen).2]
    exact ⟨hstatus, hamount⟩
  · intro key key' e e' he he' hid hid' hopen hopen'
    rw [(honly key e he hid hopen).1, (honly key' e' he' hid' hopen').1]

lemma Accounts.saveDispute (h : db.Accounts p) (d : Dispute) :
    (db.saveDispute d).Accounts p := ⟨h.reflects, h.consistent, h.settled⟩

/-! ### The invariant of one payment -/

/-- The payment `id` of `amount`: on record, in agreement with the ledger, and with its disputes. -/
def Tracks (db : Db) (id : String) (amount : Money) : Prop :=
  ∃ p, p.id = id ∧ p.amount = amount ∧ db.Accounts p ∧ db.OpenDisputes p

section tracks

variable {db db' : Db} {id : String} {amount : Money} {q q' : PaymentAggregate}
  {ev : Option LedgerOutboxEvent}

lemma Tracks.stores (h : db.Tracks id amount) (hq : db.Holds q) (hstatus : q.status ≠ .DISPUTED)
    (hstep : PaymentStep q ev q') (hstores : db.Stores q' ev db') : db'.Tracks id amount := by
  obtain ⟨p, rfl, rfl, haccounts, hdisputes⟩ := h
  have hkept : db'.disputes = db.disputes := by cases hstores <;> rfl
  by_cases hid : q.id = p.id
  · obtain ⟨hsame, hsame'⟩ := haccounts.reflects.of_holds hq hid
    have hstep := hstep.congr_left hsame hsame'
    have hstatus : p.status ≠ .DISPUTED := hsame' ▸ hstatus
    exact ⟨q', hstep.same_payment.1, hstep.same_payment.2,
      haccounts.stores hstep (fun hd => absurd hd hstatus) hstores,
      hdisputes.of_not_disputed hstatus hstep.same_payment.1 hkept⟩
  · exact ⟨p, rfl, rfl, haccounts.stores_of_ne hstep hid hstores, hdisputes.of_disputes hkept⟩

end tracks

end Db

/-! ### The operations keep the invariant -/

section operations

variable {db : Db} {id : String} {amount : Money}

lemma not_disputed_of_movable (h : Movable p) : p.status ≠ .DISPUTED := by
  rcases h with (h | h) | h | h <;> rw [h] <;> decide

lemma not_disputed_of_pending (h : Pending p) : p.status ≠ .DISPUTED := by
  rcases h with h | h | h <;> rw [h] <;> decide

lemma not_disputed_of_uncaptured (h : p.status.uncaptured) :
    p.status ≠ .DISPUTED := by
  rintro hd
  rw [hd] at h
  exact absurd h (by decide)

/-- The payment's side of a resolution keeps the agreement if the dispute is for what is left. -/
lemma Db.Accounts.closes {c : Cmd} (h : db.Accounts p) (hc : DisputeService.Closes q d c)
    (hsame : p.SameRecords q) (hstatus : q.status = p.status) (hamount : d.amount =
      ⟨p.amount.amountMinorUnits - p.refundedMinorUnits, p.amount.currency⟩) :
    ∃ p', p'.id = p.id ∧ p'.amount = p.amount ∧ (c.apply db).Accounts p' := by
  obtain ⟨p', -, ⟨now, hstep, rfl⟩ | ⟨event, hold, now, hstep, hbooks, rfl⟩⟩ := hc
  · have hstep := hstep.congr_left hsame hstatus
    exact ⟨p', hstep.same_payment.1, hstep.same_payment.2, h.stores hstep nofun (.save now)⟩
  · have hstep := hstep.congr_left hsame hstatus
    rw [hsame.id, hamount] at hbooks
    exact ⟨p', hstep.same_payment.1, hstep.same_payment.2,
      h.stores hstep (fun _ _ hev => Option.some.inj hev ▸ hbooks) (.commit hold now)⟩

lemma Db.Accounts.closes_of_ne {c : Cmd} (h : db.Accounts p) (hc : DisputeService.Closes q d c)
    (hid : q.id ≠ p.id) :
    (c.apply db).Accounts p := by
  obtain ⟨q', -, ⟨now, hstep, rfl⟩ | ⟨event, hold, now, hstep, -, rfl⟩⟩ := hc
  · exact h.stores_of_ne hstep hid (.save now)
  · exact h.stores_of_ne hstep hid (.commit hold now)

lemma Db.Tracks.disputed {q' : PaymentAggregate} (h : db.Tracks id amount) (hq : db.Holds q)
    (hstatus : q.status ≠ .DISPUTED) (hstep : PaymentStep q none q')
    (hdisputed : q'.status = .DISPUTED) {remaining : Money}
    (hremaining : q.remainingRefundable = .ok remaining) (hpayment : d.paymentId = q.id)
    (hamount : d.amount = remaining) (now : Date) :
    ((db.savePayment q'.toPersistence now).saveDispute d).Tracks id amount := by
  obtain ⟨p, rfl, rfl, haccounts, hdisputes⟩ := h
  by_cases hid : q.id = p.id
  · obtain ⟨hsame, hsame'⟩ := haccounts.reflects.of_holds hq hid
    have hstep' := hstep.congr_left hsame hsame'
    refine ⟨q', hstep'.same_payment.1, hstep'.same_payment.2,
      (haccounts.stores hstep' nofun (.save now)).saveDispute d,
      Db.openDisputes_saveDispute ?_ hdisputed ?_⟩
    · intro key e he hid' hopen
      exact (hsame' ▸ hstatus)
        (hdisputes.disputed key e he (hid'.trans hstep'.same_payment.1) hopen).1
    · cases hstep with
      | move same =>
        rw [hamount, same.amount, same.refunded_eq]
        exact (PaymentAggregate.remainingRefundable_eq_ok.1 hremaining).2.2
  · have hdisputes : (db.savePayment q'.toPersistence now).OpenDisputes p :=
      hdisputes.of_disputes rfl
    exact ⟨p, rfl, rfl, (haccounts.stores_of_ne hstep hid (.save now)).saveDispute d,
      hdisputes.saveDispute_of_ne (hpayment ▸ hid)⟩

/-- The resolution of a dispute: of the payment's only open dispute, which is for what is left, or
of another payment's. -/
lemma Db.Tracks.resolved {c : Cmd} (h : db.Tracks id amount)
    (hfind : db.findDispute d.pspDisputeId = some d) (hopen : d.isOpen) (hq : db.Holds q)
    (hid : q.id = d.paymentId) (hc : DisputeService.Closes q d c) (outcome : DisputeOutcome) :
    ((c.apply db).saveDispute { d with status := Dispute.outcomeStatus outcome }).Tracks id
      amount := by
  obtain ⟨p, rfl, rfl, haccounts, hdisputes⟩ := h
  have hdisputes' : (c.apply db).OpenDisputes p := hdisputes.of_disputes (hc.disputes db)
  by_cases hpid : q.id = p.id
  · obtain ⟨hsame, hsame'⟩ := haccounts.reflects.of_holds hq hpid
    have hdp : d.paymentId = p.id := hid.symm.trans hpid
    obtain ⟨p', hid', hamount', haccounts'⟩ := haccounts.closes hc hsame hsame'
      (hdisputes.disputed _ d hfind hdp hopen).2
    refine ⟨p', hid', hamount', haccounts'.saveDispute _, Db.openDisputes_of_none ?_⟩
    intro key e he hpayment hopen'
    by_cases hkey : key = d.pspDisputeId
    · rw [hkey, Db.findDispute_saveDispute_self] at he
      obtain rfl := Option.some.inj he
      cases outcome <;> simp [Dispute.isOpen, Dispute.outcomeStatus] at hopen'
    · replace he := (Db.findDispute_saveDispute_of_ne (by exact hkey)).symm.trans he
      unfold Db.findDispute at he
      rw [hc.disputes db] at he
      exact hkey (hdisputes.unique key _ e d he hfind (hpayment.trans hid') hdp hopen' hopen)
  · exact ⟨p, rfl, rfl, (haccounts.closes_of_ne hc hpid).saveDispute _,
      hdisputes'.saveDispute_of_ne (hid ▸ hpid)⟩

/-- Every operation keeps the accounts. -/
lemma Operation.keeps (op : Operation) (h : db.Tracks id amount) :
    (op.apply db).Tracks id amount := by
  refine op.keeps_of_written (I := fun db => db.Tracks id amount) (fun hwritten h => ?_) h
  cases hwritten with
  | charged hold now holds awaits _ step =>
    exact h.stores holds (not_disputed_of_pending awaits.pending) step (.commit hold now)
  | missed now holds awaits step =>
    exact h.stores holds (not_disputed_of_pending awaits.pending) step (.save now)
  | cancelled now holds edge step =>
    exact h.stores holds (not_disputed_of_uncaptured
      (PaymentStatus.uncaptured_of_isValidTransition edge rfl)) step (.save now)
  | moved hold now holds movable step =>
    exact h.stores holds (not_disputed_of_movable movable) step (.commit hold now)
  | disputed now holds charged remaining step status records =>
    have hstatus := not_disputed_of_movable (.inr charged)
    obtain rfl | ⟨d, hpayment, hamount, rfl⟩ := records
    · exact h.stores holds hstatus step (.save now)
    · exact h.disputed holds hstatus step status remaining hpayment hamount now
  | @closed d outcome found isOpen undisputed =>
    obtain ⟨p, rfl, rfl, haccounts, hdisputes⟩ := h
    refine ⟨p, rfl, rfl, haccounts.saveDispute _, hdisputes.saveDispute_of_ne fun hid => ?_⟩
    obtain ⟨q, ⟨row, hrow, hload⟩, hsame, hsame'⟩ := haccounts.reflects
    refine undisputed row (by rw [show d.paymentId = p.id from hid, ← hsame.id]; exact hrow) ?_
    rw [← (PaymentRow.toDomain_ok hload).status, hsame']
    exact (hdisputes.disputed _ d found hid isOpen).1
  | resolved outcome found isOpen holds paymentId _ closes =>
    exact h.resolved found isOpen holds paymentId closes outcome

end operations

/-! ### Whole runs -/

/-- Nothing has been recorded for this payment id. -/
structure Db.Fresh (db : Db) (id : String) : Prop where
  payment : db.payments.get id = none
  ledger : ∀ event ∈ db.ledgerOutbox, event.paymentId ≠ id
  disputes : ∀ key d, db.findDispute key = some d → d.paymentId ≠ id

lemma consistent_intent (env : CheckoutEnv)
    (input : CheckoutSagaInput) :
    (intent env input).Consistent where
  currencies := ⟨fun _ h => (nomatch h), fun _ h => (nomatch h)⟩
  captured_le := Nat.zero_le _
  refunded_le := Nat.zero_le _
  no_captures := fun _ => rfl

/-- They agree when the payment is created. -/
lemma Db.Fresh.accounts {input : CheckoutSagaInput}
    (h : db.Fresh input.paymentId) (env : CheckoutEnv) :
    (db.savePayment (intent env input).toPersistence env.booking.now).Accounts
      (intent env input) where
  reflects := by
    refine Db.holds_savePayment env.booking.now fun row hrow => ?_
    exact absurd (h.payment.symm.trans hrow) (by simp)
  consistent := consistent_intent env input
  settled := by
    change settledBy db.ledgerOutbox input.paymentId _ = _
    unfold settledBy
    rw [List.filter_eq_nil_iff.2 fun event hevent => by simpa using h.ledger event hevent]
    rfl

lemma Db.Fresh.tracks {input : CheckoutSagaInput}
    (h : db.Fresh input.paymentId) (env : CheckoutEnv) :
    (((execute env input).run db).1).Tracks input.paymentId input.amount := by
  obtain ⟨isFirst, -, hrun⟩ := execute_run env input db
  rw [hrun]
  -- carried along the saga's writes: the payment written last is the one on record
  let J : Db → Option PaymentAggregate → Prop := fun db' x => ∃ p, x = some p ∧
    p.id = input.paymentId ∧ p.amount = input.amount ∧ db'.Accounts p ∧
      db'.disputes = db.disputes
  have hJ : ∀ db' x c y, J db' x → Writes env
      (intent env input) x c y → J (Commands.apply c db') y := by
    rintro db' x c y ⟨p, rfl, hid, hamount, haccounts, hdisputes⟩ ⟨hc, -⟩
    cases hc with
    | save now hstep =>
      exact ⟨_, rfl, hstep.same_payment.1.trans hid, hstep.same_payment.2.trans hamount,
        haccounts.stores hstep nofun (.save now), hdisputes⟩
    | book hold now hpending hstep =>
      exact ⟨_, rfl, hstep.same_payment.1.trans hid, hstep.same_payment.2.trans hamount,
        haccounts.stores hstep (fun hd => absurd hd (not_disputed_of_pending hpending))
          (.commit hold now), hdisputes⟩
  obtain ⟨y, p, -, hid, hamount, haccounts, hdisputes⟩ :=
    (executeIntent_advances isFirst).run hJ
      ⟨_, rfl, rfl, rfl, h.accounts env, rfl⟩
  refine ⟨p, hid, hamount, haccounts, Db.openDisputes_of_none fun key d hd hdp => ?_⟩
  unfold Db.findDispute at hd
  rw [hdisputes] at hd
  exact absurd (hdp.trans hid) (h.disputes key d hd)

/-- The payment `id` of `amount` can be loaded, its totals exist, and the settlement entries booked
for it in its currency, debits less credits, are what its status says was collected, less its
refunds. -/
def Db.Agrees (db : Db) (id : String) (amount : Money) : Prop :=
  ∃ p captured refunded, db.findById id = .ok (some p) ∧ p.amount = amount ∧
    p.totalCaptured = .ok captured ∧ p.totalRefunded = .ok refunded ∧
    settledBy db.ledgerOutbox id amount.currency =
      (match p.status with
        | .SUCCEEDED | .PARTIALLY_REFUNDED | .REFUNDED | .DISPUTED =>
          (amount.amountMinorUnits : Int)
        | .REQUIRES_CAPTURE | .PARTIALLY_CAPTURED => captured.amountMinorUnits
        | _ => 0) - refunded.amountMinorUnits

lemma Db.Tracks.agrees {id : String} {amount : Money} (h : db.Tracks id amount) :
    db.Agrees id amount := by
  obtain ⟨p, rfl, rfl, haccounts, -⟩ := h
  obtain ⟨q, hq, hsame, hstatus⟩ := haccounts.reflects
  have hcons := haccounts.consistent.of_same hsame hstatus
  refine ⟨q, ⟨q.capturedMinorUnits, q.amount.currency⟩, ⟨q.refundedMinorUnits, q.amount.currency⟩,
    ?_, hsame.amount, ?_, ?_, ?_⟩
  · rw [← hsame.id]
    exact Db.findById_of_holds hq
  · exact PaymentAggregate.totalCaptured_eq_ok.2 ⟨hcons.currencies.captures, rfl⟩
  · exact PaymentAggregate.totalRefunded_eq_ok.2 ⟨hcons.currencies.refunds, rfl⟩
  · rw [haccounts.settled]
    change (p.collectedMinorUnits : Int) - p.refundedMinorUnits = _
    rw [hstatus, ← hsame.refunded_eq]
    unfold PaymentAggregate.collectedMinorUnits
    rw [← hsame.captured_eq]
    cases p.status <;> rfl

/-- A checkout for a fresh id starts to track its payment, and every operation keeps tracking it. -/
lemma tracks_of_mem_runs (env : CheckoutEnv)
    (input : CheckoutSagaInput) (ops : List Operation) (db : Db)
    (hfresh : db.Fresh input.paymentId) :
    ∀ db' ∈ Prog.runs ((execute env input).run db).1
        (ops.map Operation.program),
      db'.Tracks input.paymentId input.amount := by
  have hkeep : ∀ prog ∈ ops.map Operation.program, ∀ s : Db,
      s.Tracks input.paymentId input.amount →
        (prog.run s).1.Tracks input.paymentId input.amount := by
    intro prog hprog s hs
    obtain ⟨op, -, rfl⟩ := List.mem_map.1 hprog
    exact op.keeps hs
  exact forall_mem_runs hkeep (hfresh.tracks env)

section runs

variable (env : CheckoutEnv) (input : CheckoutSagaInput)
  (steps : List (Operation × (Cmd → Db → Db))) (db : Db) (hfresh : db.Fresh input.paymentId)
  (hcurrent : CurrentAll (steps.map Operation.lagging) ((execute env input).run db).1)

include hfresh hcurrent

/-- Where the lookups see the last commit, it makes no difference that a replica answers them. -/
lemma tracks_of_current :
    ∀ db' ∈ Prog.runs ((execute env input).run db).1
        ((steps.map Operation.lagging).map fun step => step.1.through step.2),
      db'.Tracks input.paymentId input.amount := by
  rw [hcurrent.runs_through]
  have hprograms : (steps.map Operation.lagging).map Prod.fst =
      (steps.map Prod.fst).map Operation.program := by
    rw [List.map_map, List.map_map]
    rfl
  rw [hprograms]
  exact tracks_of_mem_runs env input (steps.map Prod.fst) db hfresh

/-- **No payment is settled beyond its amount**, nor below nothing, in any state of any sequence of
operations after its checkout whose lookups see the last commit. -/
theorem settlement_within_amount :
    ∀ db' ∈ Prog.runs ((execute env input).run db).1
        ((steps.map Operation.lagging).map fun step => step.1.through step.2),
      0 ≤ settledBy db'.ledgerOutbox input.paymentId input.amount.currency ∧
      settledBy db'.ledgerOutbox input.paymentId input.amount.currency ≤
        input.amount.amountMinorUnits := by
  intro db' hdb'
  obtain ⟨p, hid, hamount, haccounts, -⟩ :=
    tracks_of_current env input steps db hfresh hcurrent db' hdb'
  rw [← hid, ← hamount, haccounts.settled]
  exact ⟨Account.balance_nonneg _, Account.balance_le_limit _⟩

/-- **The ledger agrees with the payment** in every state of every sequence of operations after a
checkout for a fresh id, as long as their lookups see the last commit. -/
theorem settlement_agrees :
    ∀ db' ∈ Prog.runs ((execute env input).run db).1
        ((steps.map Operation.lagging).map fun step => step.1.through step.2),
      db'.Agrees input.paymentId input.amount := by
  intro db' hdb'
  exact (tracks_of_current env input steps db hfresh hcurrent db' hdb').agrees

end runs

/-! ### A payment of ten dollars -/

namespace Sample

open PaymentCheckoutSaga PaymentLifecycle WebhookProcessing

/-- A merchant without a record: the default fee, no conversion, no reserve. -/
def booking (eventId : String) : BookingEnv :=
  ⟨eventId, "hold-1", 0, ⟨fun _ => none, 0, fun _ _ => none, Money.convertTo⟩⟩

/-- A provider that is healthy. -/
def healthy (provider : PSPProvider) : PspHealthStatus where
  provider := provider
  circuitBreakerState := .CLOSED
  successRate := 100
  avgLatencyMs := 100
  feePercentage := some 2
  fixedFeeMinorUnits := some 30
  supportedCurrencies := ["USD"]
  supportedCountries := []
  isAvailable := true

/-- A checkout in which both providers are healthy and the charges come to `charge`. -/
def checkoutEnv (charge : Nat → PSPProvider → Except AppError PspChargeResponse) :
    CheckoutEnv where
  booking := booking "event-1"
  streak := .ok 0
  streakUpdate := .ok ()
  selectionHealth := [healthy .STRIPE, healthy .ADYEN]
  executionHealth := [healthy .STRIPE, healthy .ADYEN]
  charge := charge
  isAvailable := fun _ => true
  recordRouting := .ok ()

/-- A charge of ten dollars. -/
def input : CheckoutSagaInput where
  paymentId := "payment-1"
  idempotencyKey := "key-1"
  amount := tenDollars
  merchantId := "merchant-1"

/-- The PSP answers with the status that is given. -/
def answered (status : PspChargeStatus) : CheckoutEnv :=
  checkoutEnv fun _ _ => .ok { status := status, transactionId := "tx-1" }

/-- What a webhook finds. -/
def webhookEnv (eventId : String) : WebhookEnv where
  booking := booking eventId
  record := ⟨"dispute-1", 0, {}, .ok none, true⟩
  resolve := { eventId, now := 0 }

/-- A refund that succeeds. -/
def refundEnv (refundId : String) : RefundEnv :=
  { refundId, eventId := refundId, now := 0,
    answer := .ok ⟨true, refundId, .SUCCEEDED, none, none⟩ }

/-- A dispute is notified. -/
def disputeCreated : StripeEvent where
  type := "charge.dispute.created"
  objectId := "dp-1"
  paymentIntent := some "tx-1"

/-- The dispute is lost. -/
def disputeLost : StripeEvent where
  type := "charge.dispute.closed"
  objectId := "dp-1"
  status := some "lost"

/-- The success of the payment is notified. -/
def paymentSucceeded : StripeEvent where
  type := "payment_intent.succeeded"
  objectId := "tx-1"

/-- The database after a checkout that was charged at once. -/
def chargedDb : Db := ((execute (answered .SUCCEEDED) input).run Db.empty).1

/-- The status of the payment. -/
def status (db : Db) : Option PaymentStatus :=
  (db.payments.get input.paymentId).map PaymentRow.status

/-- A refund of four dollars, a dispute of the rest and its loss, on a replica without lag. -/
def lossAfterRefund : List (Operation × (Cmd → Db → Db)) :=
  [(.refund (refundEnv "refund-1") "payment-1" ⟨some 4, none, "key-2"⟩, fun _ db => db),
    (.stripeEvent (webhookEnv "event-2") disputeCreated, fun _ db => db),
    (.stripeEvent (webhookEnv "event-3") disputeLost, fun _ db => db)]

/-- The database after a checkout that a challenge interrupts. -/
def challenged : Db := ((execute (answered .REQUIRES_ACTION) input).run Db.empty).1

/-- The success of the charge is notified twice; `replica` answers the lookup of the second. -/
def notifications (replica : Cmd → Db → Db) : List (Operation × (Cmd → Db → Db)) :=
  [(.stripeEvent (webhookEnv "event-2") paymentSucceeded, fun _ db => db),
    (.stripeEvent (webhookEnv "event-3") paymentSucceeded, replica)]

/-- The database after both. -/
def notifiedTwice (replica : Cmd → Db → Db) : Db :=
  (Prog.runs challenged (((notifications replica).map Operation.lagging).map fun step =>
    step.1.through step.2)).getLast?.getD challenged

lemma fresh_empty : Db.empty.Fresh input.paymentId :=
  ⟨rfl, fun _ h => (nomatch h), fun _ _ h => (nomatch h)⟩

end Sample

open Sample in
/-- The success of a challenge is notified, and notified again when the replica has caught up. -/
theorem settlement_within_amount_notified :
    settledBy (notifiedTwice fun _ db => db).ledgerOutbox "payment-1" usd ≤ 1000 := by
  refine (settlement_within_amount (answered .REQUIRES_ACTION) input
    (notifications fun _ db => db) Db.empty fresh_empty (currentAll_of_forall ?_ _) _ ?_).2
  · simp [notifications, Operation.lagging, Cmd.sees_last]
  · exact List.mem_of_getLast? rfl

open Sample in
/-- A charge, a partial refund, a dispute of the rest and its loss. -/
theorem settlement_agrees_disputed :
    (Prog.runs ((execute (answered .SUCCEEDED) input).run Db.empty).1
      ((lossAfterRefund.map Operation.lagging).map fun step => step.1.through step.2)).map status =
        [some .SUCCEEDED, some .PARTIALLY_REFUNDED, some .DISPUTED, some .REFUNDED] ∧
      ∀ db' ∈ Prog.runs ((execute (answered .SUCCEEDED) input).run Db.empty).1
          ((lossAfterRefund.map Operation.lagging).map fun step => step.1.through step.2),
        db'.Agrees input.paymentId input.amount := by
  refine ⟨by decide +kernel, settlement_agrees (answered .SUCCEEDED) input lossAfterRefund Db.empty
    fresh_empty (currentAll_of_forall ?_ _)⟩
  simp [lossAfterRefund, Operation.lagging, Cmd.sees_last]

open Sample in
/-- The second notification finds the payment challenged as it was before the first, on a replica
that has not caught up: ten dollars are booked twice. -/
theorem settlement_doubled :
    settledBy (notifiedTwice fun _ _ => challenged).ledgerOutbox "payment-1" usd = 2000 ∧
      ¬ (notifiedTwice fun _ _ => challenged).Agrees input.paymentId input.amount := by
  have hsettled : settledBy (notifiedTwice fun _ _ => challenged).ledgerOutbox "payment-1" usd =
      2000 := by decide +kernel
  have hstatus : (((notifiedTwice fun _ _ => challenged).findById "payment-1").toOption.join.all
      (·.status = .SUCCEEDED)) := by decide +kernel
  refine ⟨hsettled, ?_⟩
  rintro ⟨p, captured, refunded, hfind, -, -, -, hagrees⟩
  have hsucceeded : p.status = .SUCCEEDED := by
    rw [show input.paymentId = "payment-1" from rfl] at hfind
    simpa [hfind, Except.toOption] using hstatus
  rw [hsucceeded] at hagrees
  have hbound : (2000 : Int) = 1000 - refunded.amountMinorUnits := hsettled.symm.trans hagrees
  omega

end OmniSwitch
