import OmniSwitch.Settlement

/-!
# Disputed payments and their disputes

A dispute notification writes the payment first and the dispute record after it, each with its own
check of what is there already.  A payment that is disputed needs an open record: only the
resolution of one moves it on.

Main results:

* `disputes_covered`: a disputed payment has an open dispute;
* `disputed_without_open_dispute`: a redelivery, and an interrupted one, after which it has none.
-/

namespace OmniSwitch

open Lib Prog WebhookProcessing PaymentLifecycle DisputeService

namespace Db

/-- Every payment that is disputed has a dispute that is open. -/
def Covered (db : Db) : Prop :=
  ∀ row ∈ db.payments.rows, row.status = .DISPUTED →
    ∃ d ∈ db.disputes.rows, d.paymentId = row.id ∧ d.isOpen

instance (db : Db) : Decidable db.Covered :=
  inferInstanceAs (Decidable (∀ row ∈ db.payments.rows, row.status = .DISPUTED →
    ∃ d ∈ db.disputes.rows, d.paymentId = row.id ∧ d.isOpen))

lemma covered_iff {db : Db} :
    db.Covered ↔ ∀ id row, db.payments.get id = some row → row.status = .DISPUTED →
      ∃ key d, db.findDispute key = some d ∧ d.paymentId = id ∧ d.isOpen := by
  constructor
  · intro h id row hrow hstatus
    obtain ⟨d, hd, hid, hopen⟩ := h row (List.mem_of_find?_eq_some hrow) hstatus
    exact ⟨_, d, Table.get_of_mem hd, hid.trans (Table.key_of_get hrow), hopen⟩
  · intro h row hrow hstatus
    obtain ⟨key, d, hd, hid, hopen⟩ := h _ row (Table.get_of_mem hrow) hstatus
    exact ⟨d, List.mem_of_find?_eq_some hd, hid, hopen⟩

section covered

variable {db : Db} {p : PaymentAggregate}

lemma Covered.save (h : db.Covered) (hstatus : p.status ≠ .DISPUTED) (now : Date) :
    (db.savePayment p.toPersistence now).Covered := by
  rw [covered_iff] at h ⊢
  intro id row hrow hdisputed
  by_cases hid : id = p.id
  · obtain ⟨row', hrow', -, hstatus', -⟩ := db.row_savePayment p now
    obtain rfl := Option.some.inj (hrow.symm.trans (hid ▸ hrow'))
    exact absurd (hstatus'.symm.trans hdisputed) hstatus
  · rw [db.get_savePayment_of_ne p.toPersistence now hid] at hrow
    exact h id row hrow hdisputed

lemma Covered.dispute (h : db.Covered) (now : Date) {key : String} {d : Dispute}
    (hd : db.findDispute key = some d) (hid : d.paymentId = p.id) (hopen : d.isOpen) :
    (db.savePayment p.toPersistence now).Covered := by
  rw [covered_iff] at h ⊢
  intro id row hrow hdisputed
  by_cases hp : id = p.id
  · exact ⟨key, d, hd, hid.trans hp.symm, hopen⟩
  · rw [db.get_savePayment_of_ne p.toPersistence now hp] at hrow
    exact h id row hrow hdisputed

lemma Covered.record (h : db.Covered) (now : Date) {d : Dispute}
    (hnew : db.findDispute d.pspDisputeId = none) (hid : d.paymentId = p.id) (hopen : d.isOpen) :
    ((db.savePayment p.toPersistence now).saveDispute d).Covered := by
  rw [covered_iff] at h ⊢
  intro id row hrow hdisputed
  by_cases hp : id = p.id
  · exact ⟨_, d, findDispute_saveDispute_self _ d, hid.trans hp.symm, hopen⟩
  · have hrow' := (db.get_savePayment_of_ne p.toPersistence now hp).symm.trans hrow
    obtain ⟨key, e, he, heid, heopen⟩ := h id row hrow' hdisputed
    have hkey : key ≠ d.pspDisputeId := by
      rintro rfl
      exact (nomatch hnew.symm.trans he)
    exact ⟨key, e, (findDispute_saveDispute_of_ne hkey).trans he, heid, heopen⟩

lemma Covered.close (h : db.Covered) {d d' : Dispute}
    (hd : db.findDispute d.pspDisputeId = some d) (hkey : d'.pspDisputeId = d.pspDisputeId)
    (hundisputed : ∀ row, db.payments.get d.paymentId = some row → row.status ≠ .DISPUTED) :
    (db.saveDispute d').Covered := by
  rw [covered_iff] at h ⊢
  intro id row hrow hdisputed
  obtain ⟨key, e, he, heid, heopen⟩ := h id row hrow hdisputed
  have hne : key ≠ d'.pspDisputeId := by
    rintro rfl
    rw [hkey] at he
    obtain rfl := Option.some.inj (hd.symm.trans he)
    exact hundisputed row (heid ▸ hrow) hdisputed
  exact ⟨key, e, (findDispute_saveDispute_of_ne hne).trans he, heid, heopen⟩

end covered

end Db

/-! ### Operations -/

/-- A dispute notification, the resolution of a dispute, or a refund.

Source: `WebhookProcessingService.markDisputed`; `DisputeService.resolveByPspDisputeId`;
`PaymentLifecycleService.refund` -/
inductive DisputeOperation where
  | notified (env : WebhookEnv) (provider : PSPProvider)
      (pspTransactionId pspDisputeId : String) (reason : Option String)
  | resolved (env : ResolveEnv) (pspDisputeId : String) (outcome : DisputeOutcome)
  | refund (env : RefundEnv) (paymentId : String)
      (params : RefundParams)

namespace DisputeOperation

/-- The program of an operation. -/
def program : DisputeOperation → App Unit
  | notified env provider txId id reason =>
    markDisputed env provider txId id reason
  | resolved env id outcome => resolveByPspDisputeId env id outcome
  | refund env id params => refundCall env id params

/-- A notification that would dispute a payment finds no record of its dispute, and the merchant's
tier can be read, or it finds an open record of that payment. -/
def opensRecord : DisputeOperation → Db → Bool
  | notified env _ txId id _, db =>
    match db.findByPspTransactionId txId with
    | .ok (some p) =>
      (p.status ≠ .SUCCEEDED && p.status ≠ .PARTIALLY_REFUNDED) ||
        match db.findDispute id with
        | none => env.record.tier.toBool
        | some d => d.isOpen && d.paymentId = p.id
    | _ => true
  | _, _ => true

end DisputeOperation

open DisputeOperation

section steps

variable {db : Db}

lemma PaymentStep.not_disputed {p p' : PaymentAggregate} {event : LedgerOutboxEvent}
    (h : PaymentStep p (some event) p') : p'.status ≠ .DISPUTED := by
  cases h with
  | charge _ _ status => simp [status]
  | capture _ _ _ _ _ status | refund _ _ _ _ _ status => rw [status]; split_ifs <;> decide
  | lose _ _ _ _ _ status => simp [status]

/-- The step of a notification: the payment it disputes is covered by the record it makes or
finds. -/
lemma Db.Covered.markDisputed (h : db.Covered) (env : WebhookEnv)
    (provider : PSPProvider) (txId id : String) (reason : Option String)
    (hopens : (notified env provider txId id reason).opensRecord db) :
    ((markDisputed env provider txId id reason).run db).1.Covered := by
  rcases markDisputed_ends env provider txId id reason db with ⟨-, hrun⟩ | ⟨e, hrun⟩ |
    ⟨p, c, amount, hload, hcharged, -, ⟨p', now, hstep, -, rfl⟩, hrun⟩ <;> rw [hrun]
  · exact h
  · exact h
  have hid := hstep.same_payment.1
  rw [Cmd.apply_savePayment]
  simp only [opensRecord, hload] at hopens
  have hcharged : (decide (p.status ≠ .SUCCEEDED) && decide (p.status ≠ .PARTIALLY_REFUNDED)) =
      false := by
    rcases hcharged with hstatus | hstatus <;> simp [hstatus]
  rw [hcharged, Bool.false_or] at hopens
  cases hfind : db.findDispute id with
  | none =>
    rw [hfind] at hopens
    rcases recordDispute_ends env.record (disputeParams provider id reason p amount)
        (db.savePayment p'.toPersistence now) with
      ⟨hsome, -⟩ | ⟨⟨e, htier⟩ | ⟨e, hfails⟩, -⟩ | ⟨-, d, hd, hrun⟩
    · exact (nomatch hfind ▸ hsome)
    · rw [htier] at hopens
      exact (nomatch hopens)
    · -- the payment has just been saved, over a row that was loaded
      obtain ⟨q, hq, hsame, -⟩ := Db.holds_savePayment (p := p') now fun row hrow => by
        obtain ⟨row', hrow', hload'⟩ := Db.holds_of_findByPspTransactionId hload
        rw [hid, hrow'] at hrow
        exact ⟨p, Option.some.inj hrow ▸ hload'⟩
      have hfound := Db.findById_of_holds hq
      rw [show q.id = p.id from hsame.id.trans hid] at hfound
      exact (nomatch hfails.symm.trans hfound)
    · rw [hrun]
      exact h.record now (hd.pspDisputeId ▸ hfind) (hd.paymentId.trans hid.symm) hd.isOpen
  | some d =>
    rw [hfind] at hopens
    obtain ⟨hopen, hpayment⟩ : d.isOpen ∧ d.paymentId = p.id := by simpa using hopens
    rcases recordDispute_ends env.record (disputeParams provider id reason p amount)
        (db.savePayment p'.toPersistence now) with ⟨-, hrun⟩ | ⟨-, e, hrun⟩ | ⟨hnone, -⟩
    · rw [hrun]
      exact h.dispute now hfind (hpayment.trans hid.symm) hopen
    · rw [hrun]
      exact h.dispute now hfind (hpayment.trans hid.symm) hopen
    · exact (nomatch hfind.symm.trans hnone)

lemma Db.Covered.resolveByPspDisputeId (h : db.Covered) (env : ResolveEnv)
    (id : String) (outcome : DisputeOutcome) :
    ((resolveByPspDisputeId env id outcome).run db).1.Covered := by
  rcases resolveByPspDisputeId_run env id outcome db with
    hrun | ⟨d, hfind, -, ⟨hnot, hrun⟩ | ⟨p, c, -, hid, -, hc, hrun⟩⟩ <;> rw [hrun]
  · exact h
  · rw [show id = d.pspDisputeId from (Table.key_of_get hfind).symm] at hfind
    exact h.close hfind rfl hnot
  · have hfind' : (c.apply db).findDispute d.pspDisputeId = some d := by
      unfold Db.findDispute
      rw [hc.disputes, show d.pspDisputeId = id from Table.key_of_get hfind]
      exact hfind
    have hmoved : (c.apply db).Covered ∧
        ∀ row, (c.apply db).payments.get d.paymentId = some row → row.status ≠ .DISPUTED := by
      obtain ⟨p', hstatus, hwrites⟩ := hc
      have hrow : ∀ now row, p'.id = p.id →
          (db.savePayment p'.toPersistence now).payments.get d.paymentId = some row →
            row.status ≠ .DISPUTED := by
        intro now row hid' hrow
        obtain ⟨row', hrow', -, hstatus', -⟩ := db.row_savePayment p' now
        rw [hid', hid, hrow] at hrow'
        rw [Option.some.inj hrow', hstatus']
        exact hstatus
      rcases hwrites with ⟨now, hstep, rfl⟩ | ⟨event, hold, now, hstep, -, rfl⟩ <;>
        exact ⟨h.save hstatus now, fun row => hrow now row hstep.same_payment.1⟩
    exact hmoved.1.close hfind' rfl hmoved.2

/-- An operation that opens the record of its dispute keeps the payments covered. -/
lemma DisputeOperation.covered (op : DisputeOperation) (h : db.Covered)
    (hopens : op.opensRecord db) : (op.program.run db).1.Covered := by
  cases op with
  | notified env provider txId id reason => exact h.markDisputed env provider txId id reason hopens
  | resolved env id outcome => exact h.resolveByPspDisputeId env id outcome
  | refund env id params =>
    change ((refundCall env id params).run db).1.Covered
    rcases (refundCall_transacts env id params).run db with
      hrun | ⟨c, ⟨p, -, -, p', event, hold, now, hstep, rfl⟩, hrun⟩ <;> rw [hrun]
    · exact h
    · change Db.Covered (Cmd.apply _ db)
      rw [Cmd.apply_transaction_some]
      split_ifs
      · exact h.save hstep.not_disputed now
      · exact h

end steps

/-- **Disputed payments stay covered**: in every state of every run of notifications, resolutions
and refunds in which each notification opens a record in the state it meets. -/
theorem disputes_covered (ops : List DisputeOperation) (db : Db) (h : db.Covered)
    (hopens : ∀ step ∈ ops.zip (Prog.runs db (ops.map program)),
      step.1.opensRecord step.2) :
    ∀ db' ∈ Prog.runs db (ops.map program), db'.Covered := by
  induction ops generalizing db with
  | nil =>
    intro db' hdb'
    obtain rfl := List.mem_singleton.1 hdb'
    exact h
  | cons op ops ih =>
    rw [List.map_cons, Prog.runs, List.zip_cons_cons, List.forall_mem_cons] at hopens
    rw [List.map_cons, Prog.runs, List.forall_mem_cons]
    exact ⟨h, ih _ (op.covered h hopens.1) hopens.2⟩

namespace Sample

/-- A dispute of the payment is notified. -/
def notification : DisputeOperation := .notified (webhookEnv "event-2") .STRIPE "tx-1" "dp-1" none

/-- The dispute is won. -/
def won : DisputeOperation := .resolved { eventId := "event-3", now := 0 } "dp-1" .WON

/-- A notification whose record fails: the merchant's tier cannot be read. -/
def failingNotification : DisputeOperation :=
  .notified { webhookEnv "event-2" with
    record := ⟨"dispute-1", 0, {}, .error (.plain "Connection terminated"), true⟩ } .STRIPE "tx-1"
    "dp-1" none

/-- The status of the payment and of the disputes in each state of a run. -/
def disputeStates (ops : List DisputeOperation) :
    List (Option PaymentStatus × List DisputeStatus) :=
  (Prog.runs chargedDb (ops.map program)).map fun db =>
    (status db, db.disputes.rows.map Dispute.status)

end Sample

open Sample

/-- A dispute that is notified twice, and won. -/
theorem disputes_covered_won :
    disputeStates [notification, notification, won] =
        [(some .SUCCEEDED, []), (some .DISPUTED, [.NEEDS_RESPONSE]),
          (some .DISPUTED, [.NEEDS_RESPONSE]), (some .SUCCEEDED, [.WON])] ∧
      ∀ db' ∈ Prog.runs chargedDb
          ([notification, notification, won].map program), db'.Covered :=
  ⟨by decide +kernel, disputes_covered _ chargedDb (by decide +kernel) (by decide +kernel)⟩

/-- The notification of a dispute is redelivered after the dispute was won: the payment is disputed
again, and its only dispute is closed.  And a notification whose record fails leaves a disputed
payment with no dispute; redelivered, it finds the payment disputed and records nothing. -/
theorem disputed_without_open_dispute :
    (disputeStates [notification, won, notification] =
        [(some .SUCCEEDED, []), (some .DISPUTED, [.NEEDS_RESPONSE]), (some .SUCCEEDED, [.WON]),
          (some .DISPUTED, [.WON])] ∧
      ¬ ∀ db' ∈ Prog.runs chargedDb
          ([notification, won, notification].map program), db'.Covered) ∧
    disputeStates [failingNotification, notification] =
        [(some .SUCCEEDED, []), (some .DISPUTED, []), (some .DISPUTED, [])] ∧
      ¬ ∀ db' ∈ Prog.runs chargedDb
          ([failingNotification, notification].map program), db'.Covered := by
  decide +kernel

end OmniSwitch
