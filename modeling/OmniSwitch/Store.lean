import OmniSwitch.Persistence
import OmniSwitch.ChargeParams
import OmniSwitch.Dispute
import OmniSwitch.Lib.Contract
import OmniSwitch.Lib.Table

/-!
# The database and the commands issued to it

The tables the payment services share, and the commands they issue: the reads and writes of the
repositories, each transaction as one command, and the calls to PSPs, which leave the tables
alone.  What a PSP answers is an argument of the services.

Main results:

* `holds_savePayment`: a payment that is saved is stored;
* `commits_saveInTransaction`, `commits_saveIfUnchanged`: what a transaction writes.
-/

namespace OmniSwitch

open Lib

/-- Source: `ReserveHoldStatus` -/
inductive ReserveHoldStatus where
  | HELD | RELEASED
  deriving DecidableEq, Repr

/-- Source: `ReserveHold` -/
structure ReserveHold where
  id : String
  paymentId : String
  merchantId : String
  amount : Money
  netAmount : Money
  status : ReserveHoldStatus
  releaseEligibleAt : Date
  createdAt : Date
  deriving DecidableEq, Repr

/-- Source: `ReserveHold.create` -/
def ReserveHold.create (id paymentId merchantId : String) (params : ReserveParams) (now : Date) :
    ReserveHold where
  id := id
  paymentId := paymentId
  merchantId := merchantId
  amount := params.amount
  netAmount := params.netAmount
  status := .HELD
  releaseEligibleAt := now + params.holdDays * 24 * 60 * 60 * 1000
  createdAt := now

/-- The tables the payment services share.  Disputes are kept under the id the PSP gave them,
which has a unique index and never changes.

Source: `payment.entity.ts`, `ledger-outbox.entity.ts`, `dispute.entity.ts`,
`reserve-hold.entity.ts` -/
structure Db where
  payments : Table PaymentRow.id
  ledgerOutbox : List LedgerOutboxEvent
  disputes : Table Dispute.pspDisputeId
  reserveHolds : List ReserveHold

/-- Nothing is stored. -/
def Db.empty : Db := ⟨.empty, [], .empty, []⟩

/-- A call to a PSP, with the arguments that identify it there.

Source: `psp-adapter.port.ts` `PSPAdapterPort` -/
inductive PspCall where
  | charge (idempotencyKey : String)
  | refund (pspTransactionId refundId : String) (amount : Money) (idempotencyKey : String)
  | capture (pspTransactionId : String) (amount : Money) (idempotencyKey : String)
  | cancel (pspTransactionId idempotencyKey : String)
  | queryOutcome (idempotencyKey : String)
  | submitDisputeEvidence (pspDisputeId evidence : String)
  deriving DecidableEq, Repr

/-- What a service does to the database or at a PSP in one atomic step.

Source: `payment-repository.port.ts`, `ledger-outbox.port.ts`, `dispute.port.ts` -/
inductive Cmd where
  | findByIdOnMaster (id : String)
  | findByPspTransactionId (pspTransactionId : String)
  | existsForDelegationAndMerchant (delegationId merchantId : String)
  | findByPspDisputeId (pspDisputeId : String)
  | psp (provider : PSPProvider) (call : PspCall)
  /-- `paymentRepository.save` and `paymentRepository.update`. -/
  | savePayment (entity : PaymentEntity) (now : Date)
  /-- One transaction: the payment's row, if `guard` is given only as long as it is unchanged,
  the ledger event and the reserve hold. -/
  | transaction (guard : Option PaymentEntity) (entity : PaymentEntity)
      (event : LedgerOutboxEvent) (hold : Option ReserveHold) (now : Date)
  | saveDispute (dispute : Dispute)

namespace Db

/-- Source: `PaymentTypeOrmRepository.save` -/
def savePayment (db : Db) (entity : PaymentEntity) (now : Date) : Db :=
  { db with
    payments := db.payments.upsert entity.id (·.assign entity) (PaymentRow.insert entity now)
      (fun row _ => row.id_assign entity) (PaymentRow.id_insert entity now) }

/-- The condition of the update: the row is there, with the status, refunds and captures of
`before`.

Source: `PaymentLifecycleService.saveIfUnchanged` -/
def unchanged (db : Db) (before : PaymentEntity) : Bool :=
  (db.payments.get before.id).any fun row =>
    row.status = before.status ∧ row.refunds = before.refunds ∧ row.captures = before.captures

/-- The whole effect of a transaction that commits. -/
def commit (db : Db) (entity : PaymentEntity) (event : LedgerOutboxEvent)
    (hold : Option ReserveHold) (now : Date) : Db :=
  { db.savePayment entity now with
    ledgerOutbox := db.ledgerOutbox ++ [event]
    reserveHolds := db.reserveHolds ++ hold.toList }

/-- `psp_dispute_id` has a unique index: another dispute with it makes a save fail.

Source: `DisputeEntity` -/
def disputeConflict (db : Db) (dispute : Dispute) : Bool :=
  (db.disputes.get dispute.pspDisputeId).any (·.id ≠ dispute.id)

/-- Source: `DisputeTypeOrmRepository.save` -/
def saveDispute (db : Db) (dispute : Dispute) : Db :=
  { db with disputes := db.disputes.put dispute }

/-- The database asked is a replica's, which may be some commits behind (`Cmd.sees`).

Source: `DisputeTypeOrmRepository.findByPspDisputeId` -/
def findDispute (db : Db) (pspDisputeId : String) : Option Dispute :=
  db.disputes.get pspDisputeId

/-- A row is loaded, if there is one. -/
def load : Option PaymentRow → Except AppError (Option PaymentAggregate)
  | none => .ok none
  | some row => do
      let p ← row.toDomain
      .ok (some p)

/-- Source: `PaymentTypeOrmRepository.findByIdOnMaster` -/
def findById (db : Db) (id : String) : Except AppError (Option PaymentAggregate) :=
  load (db.payments.get id)

/-- The database asked is a replica's, which may be some commits behind (`Cmd.sees`).

Source: `PaymentTypeOrmRepository.findByPspTransactionId` -/
def findByPspTransactionId (db : Db) (txId : String) :
    Except AppError (Option PaymentAggregate) :=
  load (db.payments.find? (·.pspTransactionId = some txId))

end Db

/-- The effect of a command on the tables.

Source: `payment-lifecycle.service.ts`, `payment-typeorm.repository.ts` -/
def Cmd.apply : Cmd → Db → Db
  | .savePayment entity now, db => db.savePayment entity now
  | .transaction guard entity event hold now, db =>
    if guard.all db.unchanged then db.commit entity event hold now else db
  | .saveDispute dispute, db => if db.disputeConflict dispute then db else db.saveDispute dispute
  | _, db => db

@[simp] lemma Cmd.apply_savePayment (entity : PaymentEntity) (now : Date) (db : Db) :
    (Cmd.savePayment entity now).apply db = db.savePayment entity now := rfl

@[simp] lemma Cmd.apply_transaction_none (entity : PaymentEntity) (event : LedgerOutboxEvent)
    (hold : Option ReserveHold) (now : Date) (db : Db) :
    (Cmd.transaction none entity event hold now).apply db = db.commit entity event hold now := rfl

lemma Cmd.apply_transaction_some (before entity : PaymentEntity) (event : LedgerOutboxEvent)
    (hold : Option ReserveHold) (now : Date) (db : Db) :
    (Cmd.transaction (some before) entity event hold now).apply db =
      if db.unchanged before then db.commit entity event hold now else db := rfl

/-- The command loads a payment. -/
def Cmd.loadsPayment : Cmd → Bool
  | .findByIdOnMaster _ => true
  | .findByPspTransactionId _ => true
  | _ => false

/-- The commands that book something in the ledger. -/
def Cmd.books : Cmd → Bool
  | .transaction _ _ _ _ _ => true
  | _ => false

instance : Commands Db Cmd where
  apply := Cmd.apply
  observes := Cmd.loadsPayment

/-- The programs of the services. -/
abbrev App (α : Type) := Prog Db Cmd AppError α

/-- What a command finds when `replica` answers the lookups that the source sends to a replica.  All
other commands go to the master and find the last commit.

Source: `app.module.ts` (`replication`), `PaymentTypeOrmRepository.findByPspTransactionId`,
`DisputeTypeOrmRepository.findByPspDisputeId` -/
def Cmd.sees (replica : Cmd → Db → Db) : Cmd → Db → Db
  | .findByPspTransactionId txId, db => replica (.findByPspTransactionId txId) db
  | .findByPspDisputeId pspDisputeId, db => replica (.findByPspDisputeId pspDisputeId) db
  | _, db => db

lemma Cmd.sees_last (c : Cmd) (db : Db) : Cmd.sees (fun _ db => db) c db = db := by
  cases c <;> rfl

/-! ### The ports -/

/-- Source: `payment-repository.port.ts` `findByIdOnMaster` -/
def findByIdOnMaster (id : String) : App (Option PaymentAggregate) :=
  .act (.findByIdOnMaster id) fun db => .ofExcept (db.findById id)

/-- Source: `payment-repository.port.ts` `findByPspTransactionId` -/
def findByPspTransactionId (txId : String) : App (Option PaymentAggregate) :=
  .act (.findByPspTransactionId txId) fun db => .ofExcept (db.findByPspTransactionId txId)

/-- Source: `payment-repository.port.ts` `existsForDelegationAndMerchant` -/
def existsForDelegationAndMerchant (delegationId merchantId : String) : App Bool :=
  .act (.existsForDelegationAndMerchant delegationId merchantId) fun db =>
    .ret (db.payments.rows.any fun row =>
      row.delegationId = some delegationId ∧ row.merchantId = merchantId)

/-- Source: `dispute.port.ts` `findByPspDisputeId` -/
def findByPspDisputeId (pspDisputeId : String) : App (Option Dispute) :=
  .act (.findByPspDisputeId pspDisputeId) fun db => .ret (db.findDispute pspDisputeId)

/-- A call to a PSP; what it answers is known to the caller. -/
def callPsp (provider : PSPProvider) (call : PspCall) : App Unit :=
  .act (.psp provider call) fun _ => .ret ()

/-- Source: `payment-repository.port.ts` `update` -/
def updatePayment (payment : PaymentAggregate) (now : Date) : App Unit :=
  .act (.savePayment payment.toPersistence now) fun _ => .ret ()

/-- A transaction that saves the payment's row whatever it holds by then.

Source: `webhook-processing.service.ts` `markSucceeded` -/
def saveInTransaction (payment : PaymentAggregate) (event : LedgerOutboxEvent)
    (hold : Option ReserveHold) (now : Date) : App Unit :=
  .act (.transaction none payment.toPersistence event hold now) fun _ => .ret ()

/-- A transaction that saves the payment's row only if it is still as it was read. -/
def saveIfUnchanged (before : PaymentEntity) (payment : PaymentAggregate)
    (event : LedgerOutboxEvent) (hold : Option ReserveHold) (now : Date) : App Unit :=
  .act (.transaction (some before) payment.toPersistence event hold now) fun db =>
    if db.unchanged before then .ret ()
    else .fail (.http 409 "Payment was modified by a concurrent request, please retry"
      "CONCURRENT_MODIFICATION")

/-- Source: `dispute.port.ts` `save` -/
def saveDispute (dispute : Dispute) : App Unit :=
  .act (.saveDispute dispute) fun db =>
    if db.disputeConflict dispute then
      .fail (.plain "duplicate key value violates unique constraint")
    else .ret ()

/-! ### What the commands do to the rows -/

variable {p : PaymentAggregate} {db : Db} {id : String}

namespace Db

/-- The payment is stored. -/
def Holds (db : Db) (p : PaymentAggregate) : Prop :=
  ∃ row, db.payments.get p.id = some row ∧ row.toDomain = .ok p

lemma load_ok {row : Option PaymentRow} (h : load row = .ok (some p)) :
    ∃ r, row = some r ∧ r.toDomain = .ok p := by
  cases row with
  | none => exact absurd (Except.ok.inj h) (by simp)
  | some r =>
    obtain ⟨q, hq, h⟩ := bind_eq_ok.1 h
    obtain rfl := Option.some.inj (Except.ok.inj h)
    exact ⟨r, rfl, hq⟩

lemma holds_of_findById (h : db.findById id = .ok (some p)) : p.id = id ∧ db.Holds p := by
  obtain ⟨row, hrow, hp⟩ := load_ok h
  have hid : p.id = id := (PaymentRow.toDomain_ok hp).id.trans (Table.key_of_get hrow)
  exact ⟨hid, row, hid ▸ hrow, hp⟩

lemma findById_of_holds (h : db.Holds p) :
    db.findById p.id = .ok (some p) := by
  obtain ⟨row, hrow, hp⟩ := h
  unfold findById
  rw [hrow]
  exact bind_eq_ok.2 ⟨p, hp, rfl⟩

lemma holds_of_findByPspTransactionId {txId : String}
    (h : db.findByPspTransactionId txId = .ok (some p)) : db.Holds p := by
  obtain ⟨row, hrow, hp⟩ := load_ok h
  exact ⟨row, (PaymentRow.toDomain_ok hp).id ▸ Table.get_of_find? hrow, hp⟩

lemma exists_of_any {load : Except AppError (Option PaymentAggregate)}
    {P : PaymentAggregate → Bool} (h : load.toOption.join.any P) :
    ∃ p, load = .ok (some p) ∧ P p := by
  cases load with
  | error e => exact (nomatch h)
  | ok p? =>
    cases p? with
    | none => exact (nomatch h)
    | some p => exact ⟨p, rfl, h⟩

variable {q : PaymentAggregate}

lemma Holds.unique (hp : db.Holds p) (hq : db.Holds q) (hid : p.id = q.id) : p = q := by
  obtain ⟨row, hrow, hp⟩ := hp
  obtain ⟨row', hrow', hq⟩ := hq
  rw [hid, hrow'] at hrow
  obtain rfl := Option.some.inj hrow
  exact Except.ok.inj (hp.symm.trans hq)

lemma unchanged_iff {before : PaymentEntity} :
    db.unchanged before ↔ ∃ row, db.payments.get before.id = some row ∧
      row.status = before.status ∧ row.refunds = before.refunds ∧
        row.captures = before.captures := by
  unfold unchanged
  cases db.payments.get before.id <;> simp

/-- If the row still is as `p` was read from it, the payment in it has the status and records of
`p`. -/
lemma columns_of_unchanged (hq : db.Holds q) (hid : q.id = p.id)
    (h : db.unchanged p.toPersistence) :
    q.status = p.status ∧ q.captures = p.captures ∧ q.refunds = p.refunds := by
  obtain ⟨row, hrow, hload⟩ := hq
  have hloads := PaymentRow.toDomain_ok hload
  obtain ⟨row', hrow', hstatus, hrefunds, hcaptures⟩ := unchanged_iff.1 h
  rw [show p.toPersistence.id = q.id from hid.symm, hrow] at hrow'
  obtain rfl := Option.some.inj hrow'
  refine ⟨hloads.status.trans hstatus, ?_, ?_⟩
  · have hread := hloads.captures
    rw [hcaptures] at hread
    exact Except.ok.inj (hread.symm.trans (mapM_map_eq_ok CaptureRow.toRecord_toRow p.captures))
  · have hread := hloads.refunds
    rw [hrefunds] at hread
    exact Except.ok.inj (hread.symm.trans (mapM_map_eq_ok RefundRow.toRecord_toRow p.refunds))

lemma get_savePayment_self (db : Db) (entity : PaymentEntity) (now : Date) :
    (db.savePayment entity now).payments.get entity.id =
      some (((db.payments.get entity.id).map (·.assign entity)).getD
        (PaymentRow.insert entity now)) :=
  Table.get_upsert_self (fun row _ => row.id_assign entity) (PaymentRow.id_insert entity now)
    db.payments

lemma get_savePayment_of_ne (db : Db) (entity : PaymentEntity) (now : Date)
    (hid : id ≠ entity.id) :
    (db.savePayment entity now).payments.get id = db.payments.get id :=
  Table.get_upsert_of_ne (fun row _ => row.id_assign entity) (PaymentRow.id_insert entity now)
    db.payments hid

/-- The columns of a payment's row that say what it is worth: after a save they are those of the
payment saved. -/
lemma row_savePayment (db : Db) (p : PaymentAggregate) (now : Date) :
    ∃ row, (db.savePayment p.toPersistence now).payments.get p.id = some row ∧
      row.id = p.id ∧ row.status = p.status ∧
      row.refunds = p.refunds.map RefundRecord.toRow ∧
      row.captures = p.captures.map CaptureRecord.toRow ∧
      row.amountMinorUnits = p.amount.amountMinorUnits ∧
      row.currencyCode = p.amount.currency.code := by
  refine ⟨_, get_savePayment_self db p.toPersistence now, ?_⟩
  cases db.payments.get p.toPersistence.id <;> exact ⟨rfl, rfl, rfl, rfl, rfl, rfl⟩

/-- A payment saved over nothing, or over a row that could be loaded, is loaded again with the
same status and records. -/
lemma holds_savePayment (now : Date)
    (h : ∀ row, db.payments.get p.id = some row → ∃ q, row.toDomain = .ok q) :
    ∃ q, (db.savePayment p.toPersistence now).Holds q ∧
      PaymentAggregate.SameRecords p q ∧ q.status = p.status := by
  have hget := get_savePayment_self db p.toPersistence now
  change _ = some (((db.payments.get p.id).map _).getD _) at hget
  cases hrow : db.payments.get p.id with
  | none =>
    rw [hrow] at hget
    obtain ⟨q, hq, hsame, hstatus⟩ := PaymentRow.toDomain_insert p now
    exact ⟨q, ⟨_, hsame.id ▸ hget, hq⟩, hsame, hstatus⟩
  | some row =>
    rw [hrow] at hget
    obtain ⟨old, hold⟩ := h row hrow
    obtain ⟨q, hq, hsame, hstatus⟩ :=
      PaymentRow.toDomain_assign (PaymentRow.toDomain_ok hold).splits p
    exact ⟨q, ⟨_, hsame.id ▸ hget, hq⟩, hsame, hstatus⟩

lemma findDispute_saveDispute_self (db : Db) (d : Dispute) :
    (db.saveDispute d).findDispute d.pspDisputeId = some d :=
  Table.get_put_self db.disputes d

lemma findDispute_saveDispute_of_ne {d : Dispute} {key : String} (h : key ≠ d.pspDisputeId) :
    (db.saveDispute d).findDispute key = db.findDispute key :=
  Table.get_put_of_ne db.disputes h

end Db

/-! ### The ports alone -/

section run

variable {α : Type}

lemma run_findByIdOnMaster_bind (id : String) (f : Option PaymentAggregate → App α) (db : Db) :
    (findByIdOnMaster id >>= f).run db = match db.findById id with
      | .ok p? => (f p?).run db
      | .error e => (db, .error e) := by
  change ((Prog.ofExcept (db.findById id) : App _) >>= f).run db = _
  cases db.findById id <;> rfl

lemma run_findByPspTransactionId_bind (txId : String) (f : Option PaymentAggregate → App α)
    (db : Db) :
    (findByPspTransactionId txId >>= f).run db = match db.findByPspTransactionId txId with
      | .ok p? => (f p?).run db
      | .error e => (db, .error e) := by
  change ((Prog.ofExcept (db.findByPspTransactionId txId) : App _) >>= f).run db = _
  cases db.findByPspTransactionId txId <;> rfl

lemma run_findByPspDisputeId_bind (id : String) (f : Option Dispute → App α) (db : Db) :
    (findByPspDisputeId id >>= f).run db = (f (db.findDispute id)).run db := rfl

lemma run_liftM_bind {β : Type} (x : Except AppError β) (f : β → App α) (db : Db) :
    ((liftM x : App β) >>= f).run db = match x with
      | .ok a => (f a).run db
      | .error e => (db, .error e) := by
  cases x <;> rfl

lemma run_discard (prog : App α) (db : Db) :
    ((do let _ ← prog) : App Unit).run db = ((prog.run db).1, (prog.run db).2.map fun _ => ()) := by
  rw [Prog.run_bind]
  rcases prog.run db with ⟨db', (e | a)⟩ <;> rfl

lemma run_saveDispute {d : Dispute} (h : db.disputeConflict d = false) :
    (saveDispute d).run db = (db.saveDispute d, .ok ()) := by
  change ((if db.disputeConflict d then _ else _ : App Unit)).run
    (if db.disputeConflict d then db else db.saveDispute d) = _
  rw [h]
  rfl

end run

/-! ### The ports in a guarantee -/

variable {provider : PSPProvider} {call : PspCall} {now : Date}

section sat

variable {G : Option Db → Cmd → Prop} {seen : Option Db}

open Prog

@[simp] lemma sat_findByIdOnMaster {Q : Option Db → Option PaymentAggregate → Prop} :
    Sat G Q seen (findByIdOnMaster id) ↔
      G seen (.findByIdOnMaster id) ∧ ∀ db p?, db.findById id = .ok p? → Q (some db) p? := by
  simp only [findByIdOnMaster, sat_act, sat_ofExcept]
  rfl

@[simp] lemma sat_findByPspTransactionId {Q : Option Db → Option PaymentAggregate → Prop}
    {txId : String} :
    Sat G Q seen (findByPspTransactionId txId) ↔
      G seen (.findByPspTransactionId txId) ∧
        ∀ db p?, db.findByPspTransactionId txId = .ok p? → Q (some db) p? := by
  simp only [findByPspTransactionId, sat_act, sat_ofExcept]
  rfl

@[simp] lemma sat_findByPspDisputeId {Q : Option Db → Option Dispute → Prop} :
    Sat G Q seen (findByPspDisputeId id) ↔
      G seen (.findByPspDisputeId id) ∧ ∀ db : Db, Q seen (db.findDispute id) := Iff.rfl

variable {Q : Option Db → Unit → Prop}

@[simp] lemma sat_callPsp :
    Sat G Q seen (callPsp provider call) ↔ G seen (.psp provider call) ∧ (Db → Q seen ()) :=
  Iff.rfl

@[simp] lemma sat_updatePayment :
    Sat G Q seen (updatePayment p now) ↔
      G seen (.savePayment p.toPersistence now) ∧ (Db → Q seen ()) := Iff.rfl

@[simp] lemma sat_saveDispute {d : Dispute} :
    Sat G Q seen (saveDispute d) ↔
      G seen (.saveDispute d) ∧ ∀ db : Db, db.disputeConflict d = false → Q seen () := by
  refine and_congr_right fun _ => forall_congr' fun db => ?_
  dsimp only
  split_ifs with h
  · exact ⟨fun _ h' => absurd h (by simp [h']), fun _ => trivial⟩
  · exact ⟨fun hQ _ => hQ, fun hQ => hQ (by simpa using h)⟩

end sat

/-! ### The ports under a contract -/

variable {event : LedgerOutboxEvent} {hold : Option ReserveHold}

section meets

open Prog

variable {W : Type} {K : Contract Db Cmd W} {I : Db × W → Prop}
  {Cond : Option Db → Cmd → Db → Prop} {last : Db × W} {seen : Option Db}

lemma meets_findByIdOnMaster {Q : Db × W → Option Db → Option PaymentAggregate → Prop}
    (hstill : ∀ t, K.apply (.findByIdOnMaster id) t = t) (hguarantee : ∀ t, K.guarantee t t)
    (h : ∀ t p?, I t → K.rely last t → t.1.findById id = .ok p? → Q t (some t.1) p?) :
    Meets K I Cond Q last seen (findByIdOnMaster id) := by
  refine meets_act_of_still hstill hguarantee fun t hI hrely => ?_
  cases hfind : t.1.findById id with
  | ok p? => exact h t p? hI hrely hfind
  | error e => trivial

end meets

/-! ### The ports in a program that writes once -/

section commits

open Prog

variable {α : Type} {W : Cmd → Prop} {V : Db → Cmd → Prop}

@[simp] lemma quiet_callPsp {Q : Unit → Prop} :
    Quiet Q (callPsp provider call) ↔ Q () :=
  ⟨fun h => h.2 Db.empty, fun h => ⟨⟨rfl, fun _ => rfl⟩, fun _ => h⟩⟩

@[simp] lemma commits_callPsp_bind {f : Unit → App α} :
    (callPsp provider call >>= f).Commits W ↔ (f ()).Commits W := by
  constructor
  · rintro (⟨-, h⟩ | ⟨-, h⟩)
    · exact h Db.empty
    · exact (h Db.empty).commits
  · exact fun h => .inl ⟨⟨rfl, fun _ => rfl⟩, fun _ => h⟩

/-- A save commits the payment. -/
lemma commits_updatePayment (h : W (.savePayment p.toPersistence now)) :
    (updatePayment p now).Commits W :=
  .inr ⟨h, fun _ => trivial⟩

/-- So does a transaction, with its event. -/
lemma commits_saveInTransaction (h : W (.transaction none p.toPersistence event hold now)) :
    (saveInTransaction p event hold now).Commits W :=
  .inr ⟨h, fun _ => trivial⟩

/-- So does one under the lock, if the row is as it was read. -/
lemma commits_saveIfUnchanged {before : PaymentEntity}
    (h : W (.transaction (some before) p.toPersistence event hold now)) :
    (saveIfUnchanged before p event hold now).Commits W := by
  refine .inr ⟨h, fun db => ?_⟩
  dsimp only
  split_ifs <;> trivial

variable {f : Option PaymentAggregate → App α}

lemma transacts_findByIdOnMaster (h : ∀ db p?, db.findById id = .ok p? → (f p?).Commits (V db)) :
    (findByIdOnMaster id >>= f).Transacts V := by
  refine ⟨⟨rfl, fun _ => rfl⟩, fun db => ?_⟩
  exact (commits_liftM_bind (db.findById id) f).2 (h db)

lemma transacts_findByPspTransactionId {txId : String}
    (h : ∀ db p?, db.findByPspTransactionId txId = .ok p? → (f p?).Commits (V db)) :
    (findByPspTransactionId txId >>= f).Transacts V := by
  refine ⟨⟨rfl, fun _ => rfl⟩, fun db => ?_⟩
  exact (commits_liftM_bind (db.findByPspTransactionId txId) f).2 (h db)

end commits

end OmniSwitch
