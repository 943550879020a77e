import OmniSwitch.Concurrency.Charging

/-!
# Captures and refunds under the optimistic lock

Refund and capture save the payment only if its row still has the status, the refunds and the
captures they read.  Among any number of such calls, on any payments, each that commits finds the
payment as it read it, so its record and its ledger event extend what is there.

Main results:

* `locked_calls_serialize`: each call that commits extends what the one before it left;
* `charged_at_once_has_no_capture`: a payment whose ledger has more than its captures.
-/

namespace OmniSwitch

open Lib Prog

/-- A call that saves under the lock.

Source: `PaymentLifecycleService.refund`, `PaymentLifecycleService.capture` -/
inductive LockedCall where
  | refund (env : PaymentLifecycle.RefundEnv) (paymentId : String)
      (params : PaymentLifecycle.RefundParams)
  | capture (env : PaymentLifecycle.CaptureEnv) (paymentId : String)
      (params : PaymentLifecycle.CaptureParams)

/-- The program of a call. -/
def LockedCall.program : LockedCall → App Unit
  | refund env id params => PaymentLifecycle.refundCall env id params
  | capture env id params => PaymentLifecycle.captureCall env id params

lemma LockedCall.transacts (call : LockedCall) :
    call.program.Transacts (OfLoaded BooksIfUnchanged) := by
  cases call with
  | refund env id params => exact PaymentLifecycle.refundCall_transacts env id params
  | capture env id params => exact PaymentLifecycle.captureCall_transacts env id params

namespace OptimisticLock

/-- What is booked as refunded for a payment, in its currency. -/
def refundsBooked (db : Db) (id : String) (amount : Money) : Nat :=
  LedgerOutboxEvent.bookedBy db.ledgerOutbox id .PAYMENT_REFUNDED .CREDIT amount.currency

/-- The status is the one the records call for: refunds first, then captures. -/
structure StatusFits (p : PaymentAggregate) : Prop where
  refunds : p.refunds ≠ [] →
    p.status = if p.refundedMinorUnits = p.amount.amountMinorUnits
      then .REFUNDED else .PARTIALLY_REFUNDED
  captures : p.refunds = [] → p.captures ≠ [] →
    p.status = if p.capturedMinorUnits = p.amount.amountMinorUnits
      then .SUCCEEDED else .PARTIALLY_CAPTURED

/-- The payment is on record, its records and status agree, and the ledger has its captures, the
amount `atOnce` that was charged without one, and its refunds. -/
structure Ready (db : Db) (p : PaymentAggregate) (atOnce : Nat) : Prop where
  reflects : db.Reflects p
  consistent : p.Consistent
  status : StatusFits p
  charged : Charging.charged db p.id p.amount = p.capturedMinorUnits + atOnce
  refunded : refundsBooked db p.id p.amount = p.refundedMinorUnits

section

variable {db : Db} {p p' q : PaymentAggregate} {event : LedgerOutboxEvent} {atOnce : Nat}

lemma StatusFits.of_same (h : StatusFits p) (same : p.SameRecords q)
    (hstatus : q.status = p.status) : StatusFits q := by
  constructor
  · rw [same.refunds, hstatus, same.refunded_eq, same.amount]
    exact h.refunds
  · rw [same.refunds, same.captures, hstatus, same.captured_eq, same.amount]
    exact h.captures

lemma StatusFits.capture (h : StatusFits p) {c : CaptureRecord}
    (same : PaymentAggregate.SameRecords { p with captures := p.captures ++ [c] } p')
    (pending : p.status = .REQUIRES_CAPTURE ∨ p.status = .PARTIALLY_CAPTURED)
    (status : p'.status =
      if p.capturedMinorUnits + c.amount.amountMinorUnits = p.amount.amountMinorUnits
      then .SUCCEEDED else .PARTIALLY_CAPTURED) : StatusFits p' := by
  -- a payment that can be captured has no refunds yet, or its status would say so
  have hnone : p.refunds = [] := by
    by_contra hne
    have hstatus := h.refunds hne
    split_ifs at hstatus <;> rw [hstatus] at pending <;> simp at pending
  refine ⟨fun hne => absurd (same.refunds.trans hnone) hne, fun _ _ => ?_⟩
  rw [status, same.captured_eq, PaymentAggregate.capturedMinorUnits_append,
    show p'.amount = p.amount from same.amount]

lemma StatusFits.refund {r : RefundRecord}
    (same : PaymentAggregate.SameRecords { p with refunds := p.refunds ++ [r] } p')
    (status : p'.status =
      if p.refundedMinorUnits + r.amount.amountMinorUnits = p.amount.amountMinorUnits
      then .REFUNDED else .PARTIALLY_REFUNDED) : StatusFits p' := by
  refine ⟨fun _ => ?_, fun hnil => ?_⟩
  · rw [status, same.refunded_eq, PaymentAggregate.refundedMinorUnits_append,
      show p'.amount = p.amount from same.amount]
  · rw [same.refunds] at hnil
    simp at hnil

/-- One committed call: a capture or a refund extends the records, the status and the ledger
together. -/
lemma Ready.commit (h : Ready db p atOnce) (hp : Movable p)
    (hstep : PaymentStep p (some event) p') (hold : Option ReserveHold) (now : Date) :
    Ready (db.commit p'.toPersistence event hold now) p' atOnce := by
  obtain ⟨hid, hamount⟩ := hstep.same_payment
  have hreflects : (db.commit p'.toPersistence event hold now).Reflects p' :=
    h.reflects.save hid now
  have hconsistent := hstep.consistent h.consistent
  cases hstep with
  | charge _ pending => rcases hp with (hp | hp) | hp | hp <;> simp [hp] at pending
  | capture c same currency _ pending status books =>
    refine ⟨hreflects, hconsistent, h.status.capture same pending status, ?_, ?_⟩
    · have hbooked := LedgerOutboxEvent.bookedBy_append books db.ledgerOutbox
      rw [currency] at hbooked
      rw [hid, hamount, same.captured_eq, PaymentAggregate.capturedMinorUnits_append]
      refine hbooked.trans ?_
      have hcharged := h.charged
      unfold Charging.charged at hcharged
      omega
    · have hkept : refundsBooked (db.commit p'.toPersistence event hold now) p.id p.amount =
          refundsBooked db p.id p.amount :=
        LedgerOutboxEvent.bookedBy_append_of_ne (.inr (by rw [books.eventType]; decide)) _ _ _
      rw [hid, hamount, same.refunded_eq, hkept]
      exact h.refunded
  | refund r same currency _ charged status books =>
    refine ⟨hreflects, hconsistent, .refund same status, ?_, ?_⟩
    · have hkept : Charging.charged (db.commit p'.toPersistence event hold now) p.id p.amount =
          Charging.charged db p.id p.amount :=
        LedgerOutboxEvent.bookedBy_append_of_ne (.inr (by rw [books.eventType]; decide)) _ _ _
      rw [hid, hamount, same.captured_eq, hkept]
      exact h.charged
    · have hbooked := LedgerOutboxEvent.bookedBy_append books db.ledgerOutbox
      rw [currency] at hbooked
      rw [hid, hamount, same.refunded_eq, PaymentAggregate.refundedMinorUnits_append]
      refine hbooked.trans ?_
      have hrefunded := h.refunded
      unfold refundsBooked at hrefunded
      omega
  | lose _ _ _ _ disputed => rcases hp with (hp | hp) | hp | hp <;> simp [hp] at disputed

lemma Ready.commit_of_ne (h : Ready db p atOnce) (hid : q.id ≠ p.id)
    (hevent : event.paymentId = q.id) (hold : Option ReserveHold) (now : Date) :
    Ready (db.commit q.toPersistence event hold now) p atOnce := by
  have hne : event.paymentId ≠ p.id := hevent ▸ hid
  refine ⟨h.reflects.save_of_ne hid now, h.consistent, h.status, ?_, ?_⟩
  · exact (LedgerOutboxEvent.bookedBy_append_of_ne (.inl hne) _ _ _).trans h.charged
  · exact (LedgerOutboxEvent.bookedBy_append_of_ne (.inl hne) _ _ _).trans h.refunded

end

/-! ### The invariant, and the order in which rows grow -/

/-- The payment of `p`, with the records it has by now. -/
def Inv (p : PaymentAggregate) (atOnce : Nat) (db : Db) : Prop :=
  ∃ q, q.id = p.id ∧ q.merchantId = p.merchantId ∧ q.amount = p.amount ∧ Ready db q atOnce

/-- The row has kept its captures and refunds, and may have more. -/
def Grows (id : String) (db db' : Db) : Prop :=
  ∀ row, db.payments.get id = some row → ∃ row', db'.payments.get id = some row' ∧
    row.captures <+: row'.captures ∧ row.refunds <+: row'.refunds

lemma Grows.refl (id : String) (db : Db) : Grows id db db :=
  fun row hrow => ⟨row, hrow, List.prefix_rfl, List.prefix_rfl⟩

lemma Grows.trans {id : String} {a b c : Db} (h : Grows id a b) (h' : Grows id b c) :
    Grows id a c := by
  intro row hrow
  obtain ⟨row', hrow', hcaptures, hrefunds⟩ := h row hrow
  obtain ⟨row'', hrow'', hcaptures', hrefunds'⟩ := h' row' hrow'
  exact ⟨row'', hrow'', hcaptures.trans hcaptures', hrefunds.trans hrefunds'⟩

/-- What the calls may issue: no change, or a save under the lock of a payment they loaded. -/
def Allowed (seen : Option Db) (c : Cmd) : Prop :=
  (∀ db, c.apply db = db) ∨ ∃ db, seen = some db ∧ OfLoaded BooksIfUnchanged db c

variable {event : LedgerOutboxEvent}

section

variable {p₀ : PaymentAggregate} {atOnce : Nat}

lemma sameRecords_of_lock {db seen : Db} {p q : PaymentAggregate} (hseen : Inv p₀ atOnce seen)
    (hp : seen.Holds p) (hid : p.id = p₀.id) (hq : db.Reflects q) (hqid : q.id = p₀.id)
    (hqmerchant : q.merchantId = p₀.merchantId) (hqamount : q.amount = p₀.amount)
    (h : db.unchanged p.toPersistence) : q.SameRecords p ∧ p.status = q.status := by
  obtain ⟨q₀, hq₀id, hq₀merchant, hq₀amount, hready⟩ := hseen
  obtain ⟨hsame, -⟩ := hready.reflects.of_holds hp (hid.trans hq₀id.symm)
  obtain ⟨q', hq', hsame', hstatus'⟩ := hq
  obtain ⟨hlock, hcaptures, hrefunds⟩ :=
    Db.columns_of_unchanged hq' (hsame'.id.trans (hqid.trans hid.symm)) h
  exact ⟨⟨hid.trans hqid.symm, (hsame.merchantId.trans hq₀merchant).trans hqmerchant.symm,
    (hsame.amount.trans hq₀amount).trans hqamount.symm, hcaptures.symm.trans hsame'.captures,
    hrefunds.symm.trans hsame'.refunds⟩, hlock.symm.trans hstatus'⟩

/-- It extends the records that it finds. -/
lemma grows_of_lock {db : Db} {p p' : PaymentAggregate} (hstep : PaymentStep p (some event) p')
    (h : db.unchanged p.toPersistence) (hold : Option ReserveHold) (now : Date) :
    Grows p.id db (db.commit p'.toPersistence event hold now) := by
  intro row hrow
  obtain ⟨row₀, hrow₀, -, hrefunds, hcaptures⟩ := Db.unchanged_iff.1 h
  obtain rfl := Option.some.inj (hrow₀.symm.trans hrow)
  obtain ⟨row', hrow', -, -, hrefunds', hcaptures', -⟩ := db.row_savePayment p' now
  obtain ⟨hkeepc, hkeepr⟩ := hstep.keeps_records
  rw [hstep.same_payment.1] at hrow'
  refine ⟨row', hrow', ?_, ?_⟩
  · rw [hcaptures, hcaptures']
    exact hkeepc.map _
  · rw [hrefunds, hrefunds']
    exact hkeepr.map _

/-- A commit under the lock keeps the invariant. -/
lemma Inv.step {db : Db} {seen : Option Db} {c : Cmd} (hI : Inv p₀ atOnce db)
    (hseen : ∀ db, seen = some db → Inv p₀ atOnce db) (hc : Allowed seen c) :
    Inv p₀ atOnce (c.apply db) ∧ Grows p₀.id db (c.apply db) := by
  rcases hc with hsilent | ⟨db₀, hdb₀, p, hp, hmovable, p', event, hold, now, hstep, rfl⟩
  · rw [hsilent]
    exact ⟨hI, Grows.refl _ _⟩
  · rw [Cmd.apply_transaction_some]
    obtain ⟨q, hqid, hqmerchant, hqamount, hready⟩ := hI
    split_ifs with hun
    · by_cases hid : p.id = p₀.id
      · obtain ⟨hsame, hstatus⟩ := sameRecords_of_lock (hseen db₀ hdb₀) hp hid hready.reflects hqid
          hqmerchant hqamount hun
        have hstep' := hstep.congr_left hsame hstatus
        have hmovable' : Movable q := by
          unfold Movable at *
          rwa [← hstatus]
        refine ⟨⟨p', hstep'.same_payment.1.trans hqid, hstep'.same_merchant.trans hqmerchant,
          hstep'.same_payment.2.trans hqamount, hready.commit hmovable' hstep' hold now⟩, ?_⟩
        rw [← hid]
        exact grows_of_lock hstep hun hold now
      · have hne : p'.id ≠ q.id := by
          rw [hstep.same_payment.1, hqid]
          exact hid
        refine ⟨⟨q, hqid, hqmerchant, hqamount, hready.commit_of_ne hne
          (hstep.event_paymentId.trans hstep.same_payment.1.symm) hold now⟩, ?_⟩
        intro row hrow
        refine ⟨row, ?_, List.prefix_rfl, List.prefix_rfl⟩
        rw [← hqid] at hrow ⊢
        exact (db.get_savePayment_of_ne p'.toPersistence now hne.symm).trans hrow
    · exact ⟨⟨q, hqid, hqmerchant, hqamount, hready⟩, Grows.refl _ _⟩

end

/-- The row of a call's payment has the call's record. -/
def HasRecord (before entity : PaymentEntity) (row : PaymentRow) : Prop :=
  (∃ c, entity.captures = before.captures ++ [c] ∧ c ∈ row.captures) ∨
    ∃ r, entity.refunds = before.refunds ++ [r] ∧ r ∈ row.refunds

/-- What a run of calls leaves of the payment `p`: sums within the amount, the status they and the
records call for, the ledger in agreement, the record of every call that committed, and no trace
of a call that did not. -/
def Serialized (p : PaymentAggregate) (atOnce : Nat) (trace : List (Event Db Cmd)) (last : Db) :
    Prop :=
  ∃ q row, last.payments.get p.id = some row ∧ row.toDomain = .ok q ∧ q.amount = p.amount ∧
    q.capturedMinorUnits ≤ p.amount.amountMinorUnits ∧
    q.refundedMinorUnits ≤ p.amount.amountMinorUnits ∧ StatusFits q ∧
    Charging.charged last p.id p.amount = q.capturedMinorUnits + atOnce ∧
    refundsBooked last p.id p.amount = q.refundedMinorUnits ∧
    ∀ e ∈ trace, ∀ before entity event hold now,
      e.cmd = .transaction (some before) entity event hold now →
        (e.pre.unchanged before → entity.id = p.id → HasRecord before entity row) ∧
          (¬ e.pre.unchanged before → e.post = e.pre)

lemma hasRecord_of_step {p p' : PaymentAggregate} {row : PaymentRow} (hp : Movable p)
    (hstep : PaymentStep p (some event) p')
    (hcaptures : p'.toPersistence.captures <+: row.captures)
    (hrefunds : p'.toPersistence.refunds <+: row.refunds) :
    HasRecord p.toPersistence p'.toPersistence row := by
  cases hstep with
  | charge _ pending => rcases hp with (hp | hp) | hp | hp <;> simp [hp] at pending
  | capture c same =>
    have heq : p'.toPersistence.captures = p.toPersistence.captures ++ [c.toRow] := by
      change p'.captures.map _ = p.captures.map _ ++ _
      rw [same.captures, List.map_append]
      rfl
    refine .inl ⟨c.toRow, heq, hcaptures.subset ?_⟩
    rw [heq]
    exact List.mem_append_right _ (List.mem_singleton_self _)
  | refund r same =>
    have heq : p'.toPersistence.refunds = p.toPersistence.refunds ++ [r.toRow] := by
      change p'.refunds.map _ = p.refunds.map _ ++ _
      rw [same.refunds, List.map_append]
      rfl
    refine .inr ⟨r.toRow, heq, hrefunds.subset ?_⟩
    rw [heq]
    exact List.mem_append_right _ (List.mem_singleton_self _)
  | lose _ _ _ _ disputed => rcases hp with (hp | hp) | hp | hp <;> simp [hp] at disputed

/-- What the last state has of a call, from what its event did and from how rows grow. -/
lemma committed_or_unchanged {p₀ : PaymentAggregate} {atOnce : Nat} {e : Event Db Cmd}
    {last : Db} {row : PaymentRow} (hrow : last.payments.get p₀.id = some row)
    (he : Pool.SoundEvent (Inv p₀ atOnce) (Grows p₀.id) Allowed e) (hle : Grows p₀.id e.post last)
    {before entity : PaymentEntity} {hold : Option ReserveHold} {now : Date}
    (hcmd : e.cmd = .transaction (some before) entity event hold now) :
    (e.pre.unchanged before → entity.id = p₀.id → HasRecord before entity row) ∧
      (¬ e.pre.unchanged before → e.post = e.pre) := by
  have hpost : e.post = if e.pre.unchanged before then e.pre.commit entity event hold now
      else e.pre := by
    rw [he.post_eq, hcmd]
    rfl
  refine ⟨fun hun hid => ?_, fun hun => by rw [hpost, if_neg hun]⟩
  rw [hpost, if_pos hun] at hle
  rcases he.guarantee with hsilent | ⟨db, -, p, -, hp, p', event', hold', now', hstep, hcmd'⟩
  · -- a save that changes nothing cannot be one that is effective: the ledger grows
    have hlen := congrArg (fun db => db.ledgerOutbox.length) (hsilent e.pre)
    rw [hcmd, Cmd.apply_transaction_some, if_pos hun] at hlen
    simp [Db.commit] at hlen
  · rw [hcmd] at hcmd'
    obtain ⟨rfl, rfl, rfl, rfl, rfl⟩ : before = p.toPersistence ∧ entity = p'.toPersistence ∧
        event = event' ∧ hold = hold' ∧ now = now' := by simpa using hcmd'
    obtain ⟨row', hrow', -, -, hrefunds', hcaptures', -⟩ := e.pre.row_savePayment p' now
    rw [show p'.id = p₀.id from hid] at hrow'
    obtain ⟨row'', hrow'', hgrowc, hgrowr⟩ := hle row' hrow'
    obtain rfl := Option.some.inj (hrow.symm.trans hrow'')
    rw [hcaptures'] at hgrowc
    rw [hrefunds'] at hgrowr
    exact hasRecord_of_step hp hstep hgrowc hgrowr

end OptimisticLock

open OptimisticLock

/-- The calls, none of which has started. -/
def lockedPool (db : Db) (calls : List LockedCall) : Pool Db Cmd AppError :=
  ⟨db, (calls.map LockedCall.program).map Proc.start⟩

/-- **The lock serializes captures and refunds**: in every interleaving of any number of calls. -/
theorem locked_calls_serialize (db : Db) (p : PaymentAggregate) (atOnce : Nat)
    (calls : List LockedCall) (schedule : List Nat) (hready : OptimisticLock.Ready db p atOnce) :
    Serialized p atOnce ((lockedPool db calls).exec schedule).1
      ((lockedPool db calls).exec schedule).2.state := by
  have hsat : ∀ prog ∈ calls.map LockedCall.program,
      Only Allowed none prog := by
    intro prog hprog
    obtain ⟨call, -, rfl⟩ := List.mem_map.1 hprog
    exact call.transacts.sat (fun _ _ hc => .inl hc) fun db c hc => .inr ⟨db, rfl, hc⟩
  have hpool : Pool.Sound (Inv p atOnce) (Grows p.id)
      Allowed (lockedPool db calls) :=
    Pool.sound_start ⟨p, rfl, rfl, rfl, hready⟩ hsat
  obtain ⟨hevents, hend, -⟩ := Pool.exec_sound (fun _ _ _ => True)
    (Grows.refl p.id) (fun _ _ _ => Grows.trans)
    (fun seen c s hI hrem hG _ => hI.step (fun db hdb => (hrem db hdb).1) hG)
    hpool schedule fun _ _ => trivial
  obtain ⟨q, hqid, -, hqamount, hend⟩ := hend.state
  obtain ⟨q', ⟨row, hrow, hload⟩, hsame, hstatus⟩ := hend.reflects
  have hrow : ((lockedPool db calls).exec schedule).2.state.payments.get p.id = some row := by
    rw [← hqid, ← hsame.id]
    exact hrow
  refine ⟨q', row, hrow, hload, hsame.amount.trans hqamount, ?_, ?_, hend.status.of_same hsame
    hstatus, ?_, ?_, ?_⟩
  · rw [hsame.captured_eq, ← hqamount]
    exact hend.consistent.captured_le
  · rw [hsame.refunded_eq, ← hqamount]
    exact hend.consistent.refunded_le.trans hend.consistent.collected_le
  · rw [hsame.captured_eq, ← hqid, ← hqamount]
    exact hend.charged
  · rw [hsame.refunded_eq, ← hqid, ← hqamount]
    exact hend.refunded
  · intro e he before entity event hold now hcmd
    exact committed_or_unchanged hrow (hevents e he).1 (hevents e he).2.2 hcmd

namespace Sample

open PaymentLifecycle

/-- Ten dollars, authorised and not yet captured. -/
def authorized : PaymentAggregate :=
  { PaymentCheckoutSaga.intent (answered .REQUIRES_CAPTURE) input with
    status := .REQUIRES_CAPTURE
    pspProvider := .value .STRIPE
    pspTransactionId := .value "tx-1" }

/-- An authorised payment is stored. -/
def authorizedDb : Db := Db.empty.savePayment authorized.toPersistence 0

/-- A capture under the id that is given. -/
def captureEnv (captureId : String) : CaptureEnv where
  captureId := captureId
  eventId := captureId
  holdId := captureId
  now := 0
  answer := .ok { success := true }
  charge := (booking captureId).charge

lemma ready_authorized : OptimisticLock.Ready authorizedDb authorized 0 where
  reflects := Db.holds_savePayment 0 fun row hrow => (nomatch hrow)
  consistent := ⟨⟨fun _ h => (nomatch h), fun _ h => (nomatch h)⟩, by decide, by decide,
    fun _ => rfl⟩
  status := ⟨fun h => absurd rfl h, fun _ h => absurd rfl h⟩
  charged := rfl
  refunded := rfl

end Sample

open Sample

/-- Two captures of six dollars each, both read before either writes: one is committed, the other
leaves no trace. -/
theorem locked_calls_serialize_race :
    Charging.charged ((lockedPool authorizedDb
        [.capture (captureEnv "capture-1") "payment-1" ⟨some 6, "key-2"⟩,
          .capture (captureEnv "capture-2") "payment-1" ⟨some 6, "key-3"⟩]).exec
          [0, 1, 0, 1, 0, 1]).2.state "payment-1" tenDollars = 600 ∧
    Serialized authorized 0
      ((lockedPool authorizedDb
        [.capture (captureEnv "capture-1") "payment-1" ⟨some 6, "key-2"⟩,
          .capture (captureEnv "capture-2") "payment-1" ⟨some 6, "key-3"⟩]).exec
          [0, 1, 0, 1, 0, 1]).1
      ((lockedPool authorizedDb
        [.capture (captureEnv "capture-1") "payment-1" ⟨some 6, "key-2"⟩,
          .capture (captureEnv "capture-2") "payment-1" ⟨some 6, "key-3"⟩]).exec
          [0, 1, 0, 1, 0, 1]).2.state :=
  ⟨by decide +kernel, locked_calls_serialize authorizedDb authorized 0 _ _ ready_authorized⟩

/-- A payment that was charged at once has ten dollars on the ledger and no capture record, also
after a refund; and a capture of a tenth of a cent changes the status of an authorised payment
while the sums stay zero. -/
theorem charged_at_once_has_no_capture :
    (Charging.charged ((lockedPool
        ((PaymentCheckoutSaga.execute (answered .SUCCEEDED) input).run Db.empty).1
        [.refund (refundEnv "refund-1") "payment-1" ⟨some 4, none, "key-2"⟩]).exec
          [0, 0, 0]).2.state "payment-1" tenDollars = 1000 ∧
      (((lockedPool ((PaymentCheckoutSaga.execute (answered .SUCCEEDED) input).run Db.empty).1
        [.refund (refundEnv "refund-1") "payment-1" ⟨some 4, none, "key-2"⟩]).exec
          [0, 0, 0]).2.state.payments.get "payment-1").map PaymentRow.captures = some []) ∧
    ((authorizedDb.payments.get "payment-1").map fun row =>
        (row.status, row.captures.map CaptureRow.amountMinorUnits)) =
      some (.REQUIRES_CAPTURE, []) ∧
    ((((lockedPool authorizedDb
        [.capture (captureEnv "capture-1") "payment-1" ⟨some (1 / 1000), "key-2"⟩]).exec
          [0, 0, 0]).2.state.payments.get "payment-1").map fun row =>
        (row.status, row.captures.map CaptureRow.amountMinorUnits)) =
      some (.PARTIALLY_CAPTURED, [0]) := by
  decide +kernel

end OmniSwitch
