import OmniSwitch.Concurrency.OptimisticLock

/-!
# The order of persisted statuses among concurrent writers

Refund and capture save under the optimistic lock; cancel, the webhooks and the resolution of a
dispute save the payment they read whatever the row holds by then.

Main results:

* `statuses_follow_graph`: a persisted status changes along the graph;
* `cancelled_after_capture`: a cancellation that overwrites a capture.
-/

namespace OmniSwitch

open Lib Prog WebhookProcessing DisputeService

namespace Statuses

/-- What the operations may issue: nothing that touches payments, or the write of a step of a
payment they loaded. -/
def Allowed (seen : Option Db) (c : Cmd) : Prop :=
  (∀ db, (c.apply db).payments = db.payments) ∨
    ∃ db p, seen = some db ∧ db.Holds p ∧ (Saves p c ∨ Books p c ∨ BooksIfUnchanged p c)

/-- What they do issue: what touches no payment touches no ledger event either, and what is booked
without the lock is booked of a payment of `B`. -/
def Effects (B : PaymentAggregate → Prop) (seen : Option Db) (c : Cmd) : Prop :=
  (∀ db, (c.apply db).payments = db.payments ∧ (c.apply db).ledgerOutbox = db.ledgerOutbox) ∨
    ∃ db p, seen = some db ∧ db.Holds p ∧ (Saves p c ∨ B p ∧ Books p c ∨ BooksIfUnchanged p c)

variable {B : PaymentAggregate → Prop} {seen : Option Db}

/-- Such a command is allowed. -/
lemma Effects.allowed {c : Cmd} (h : Effects B seen c) : Allowed seen c := by
  rcases h with hc | ⟨db, p, hseen, hp, hsaves | hbooks | hguarded⟩
  · exact .inl fun db => (hc db).1
  · exact .inr ⟨db, p, hseen, hp, .inl hsaves⟩
  · exact .inr ⟨db, p, hseen, hp, .inr (.inl hbooks.2)⟩
  · exact .inr ⟨db, p, hseen, hp, .inr (.inr hguarded)⟩

/-! ### The operations keep to it -/

/-- A program that loads a payment and writes once keeps to it if its write does. -/
lemma sat_transacts {W : PaymentAggregate → Cmd → Prop} {prog : App Unit}
    (h : prog.Transacts (OfLoaded W))
    (hW : ∀ p c, W p c → Saves p c ∨ B p ∧ Books p c ∨ BooksIfUnchanged p c) :
    Sat (Effects B) (fun _ _ => True) seen prog := by
  refine h.sat (fun _ c hc => .inl fun db =>
    ⟨congrArg Db.payments (hc db), congrArg Db.ledgerOutbox (hc db)⟩) ?_
  rintro db c ⟨p, hp, hc⟩
  exact .inr ⟨db, p, rfl, hp, hW p c hc⟩

/-- What settles the charge of a pending payment keeps to it. -/
lemma sat_settles {prog : App Unit} (hB : ∀ p, Pending p → B p)
    (h : prog.Transacts (OfLoaded Settles)) : Sat (Effects B) (fun _ _ => True) seen prog :=
  sat_transacts h fun p _ hc => hc.2.imp_right fun hbooks => .inl ⟨hB p hc.1, hbooks⟩

lemma effects_saveDispute (d : Dispute) : Effects B seen (.saveDispute d) := by
  refine .inl fun db => ?_
  rw [show (Cmd.saveDispute d).apply db =
    if db.disputeConflict d then db else db.saveDispute d from rfl]
  split_ifs <;> exact ⟨rfl, rfl⟩

lemma sat_recordDispute (env : RecordEnv) (params : RecordParams)
    (seen : Option Db) :
    Sat (Effects B) (fun _ _ => True) seen (recordDispute env params) := by
  unfold recordDispute
  rw [sat_bind, sat_findByPspDisputeId]
  refine ⟨.inl fun _ => ⟨rfl, rfl⟩, fun db => ?_⟩
  cases db.findDispute params.pspDisputeId with
  | some _ => trivial
  | none =>
    dsimp only
    rw [sat_bind, sat_liftM]
    intro tier _
    rw [sat_bind, sat_findByIdOnMaster]
    refine ⟨.inl fun _ => ⟨rfl, rfl⟩, fun db p? _ => ?_⟩
    unfold autoContest
    rw [sat_bind]
    split_ifs
    · rw [sat_bind, sat_callPsp]
      refine ⟨.inl fun _ => ⟨rfl, rfl⟩, fun _ => ?_⟩
      rw [sat_liftM]
      intro d _
      rw [sat_saveDispute]
      exact ⟨effects_saveDispute d, fun _ _ => trivial⟩
    · rw [sat_bind, sat_callPsp]
      refine ⟨.inl fun _ => ⟨rfl, rfl⟩, fun _ => ?_⟩
      rw [sat_pure, sat_saveDispute]
      exact ⟨effects_saveDispute _, fun _ _ => trivial⟩
    · rw [sat_pure, sat_saveDispute]
      exact ⟨effects_saveDispute _, fun _ _ => trivial⟩

lemma sat_markDisputed (env : WebhookEnv) (provider : PSPProvider)
    (txId disputeId : String) (reason : Option String) (seen : Option Db) :
    Sat (Effects B) (fun _ _ => True) seen
      (markDisputed env provider txId disputeId reason) := by
  unfold markDisputed
  rw [sat_bind, sat_findByPspTransactionId]
  refine ⟨.inl fun _ => ⟨rfl, rfl⟩, fun db p? hload => ?_⟩
  cases p? with
  | none => trivial
  | some p =>
    dsimp only
    split_ifs with hdone hcharged
    · trivial
    · trivial
    · rw [sat_bind, sat_liftM]
      intro amount _
      rw [sat_bind, sat_liftM]
      intro disputed hdisputed
      rw [sat_bind, sat_updatePayment]
      refine ⟨.inr ⟨db, p, rfl, Db.holds_of_findByPspTransactionId hload, .inl ⟨_, _, ?_, rfl⟩⟩,
        fun _ => sat_recordDispute _ _ _⟩
      exact step_of_markDisputed hdisputed

lemma sat_resolveByPspDisputeId (env : ResolveEnv) (id : String)
    (outcome : DisputeOutcome) (seen : Option Db) :
    Sat (Effects fun _ => True) (fun _ _ => True) seen
      (resolveByPspDisputeId env id outcome) := by
  unfold resolveByPspDisputeId
  rw [sat_bind, sat_findByPspDisputeId]
  refine ⟨.inl fun _ => ⟨rfl, rfl⟩, fun db => ?_⟩
  cases db.findDispute id with
  | none => trivial
  | some d =>
    dsimp only
    split_ifs
    · trivial
    · rw [sat_bind, sat_findByIdOnMaster]
      refine ⟨.inl fun _ => ⟨rfl, rfl⟩, fun db p? hload => ?_⟩
      split
      · rw [sat_bind, sat_liftM]
        intro d' _
        rw [sat_saveDispute]
        exact ⟨effects_saveDispute d', fun _ _ => trivial⟩
      · rename_i p hp
        obtain ⟨rfl, hstatus⟩ := Option.filter_eq_some_iff.1 hp
        have hholds := (Db.holds_of_findById hload).2
        rw [sat_bind, sat_liftM]
        intro d' _
        rw [sat_bind, sat_liftM]
        intro resolved hresolved
        rw [sat_bind]
        have hcommits := settlePayment_commits env (of_decide_eq_true hstatus) d
          hresolved
        refine Sat.mono (fun _ _ h => h) ?_ (hcommits.sat
          (fun c hc => .inl fun db =>
            ⟨congrArg Db.payments (hc.2 db), congrArg Db.ledgerOutbox (hc.2 db)⟩)
          fun c hc => .inr ⟨db, p, rfl, hholds,
            hc.writes.imp_right (Or.imp_left fun h => ⟨trivial, h⟩)⟩)
        intro _ _ _
        rw [sat_saveDispute]
        exact ⟨effects_saveDispute d', fun _ _ => trivial⟩

lemma sat_adyenNotification
    (items : List (WebhookEnv × AdyenNotificationItem))
    (seen : Option Db) :
    Sat (Effects fun _ => True) (fun _ _ => True) seen (handleAdyenNotification items) := by
  induction items generalizing seen with
  | nil => trivial
  | cons item items ih =>
    have hitem : Sat (Effects fun _ => True) (fun _ _ => True) seen
        (handleAdyenItem item.1 item.2) :=
      handleAdyenItem_elim trivial
        (fun _ _ _ _ => sat_markDisputed _ _ _ _ _ seen)
        (fun _ _ _ => sat_resolveByPspDisputeId _ _ _ seen)
        (fun _ _ => sat_settles (fun _ _ => trivial) (markFailed_transacts _ _ _ _))
        fun _ _ => sat_settles (fun _ _ => trivial) (markSucceeded_transacts _ _ _)
    unfold handleAdyenNotification
    exact sat_bind.2 (hitem.mono (fun _ _ h => h) fun seen' _ _ => ih seen')

/-- What each operation writes. -/
lemma sat_operation (op : Operation) :
    Sat (Effects fun _ => True) (fun _ _ => True) none op.program := by
  cases op with
  | refund env id params =>
    exact sat_transacts (PaymentLifecycle.refundCall_transacts env id params)
      fun _ _ hc => .inr (.inr hc)
  | capture env id params =>
    exact sat_transacts (PaymentLifecycle.captureCall_transacts env id params)
      fun _ _ hc => .inr (.inr hc)
  | cancel env id key =>
    exact sat_transacts (PaymentLifecycle.cancelCall_transacts env id key)
      fun _ _ hc => .inl hc.2.saves.2
  | stripeEvent env event =>
    exact handleStripeEvent_elim trivial
      (fun _ _ _ _ => sat_markDisputed _ _ _ _ _ none)
      (fun _ _ => sat_resolveByPspDisputeId _ _ _ none)
      (fun _ _ => sat_settles (fun _ _ => trivial) (markFailed_transacts _ _ _ _))
      fun _ => sat_settles (fun _ _ => trivial) (markSucceeded_transacts _ _ _)
  | adyenNotification items => exact sat_adyenNotification items none
  | resolveAmbiguous env params =>
    exact sat_settles (fun _ _ => trivial) (AmbiguousPayment.resolve_transacts env params)
  | autoResolve env id =>
    exact sat_settles (fun _ _ => trivial) (AmbiguousPayment.autoResolveOne_transacts env id)
  | resolveDispute env id outcome => exact sat_resolveByPspDisputeId env id outcome none

/-! ### One step -/

/-- The columns that the lock compares. -/
def columns (row : PaymentRow) : PaymentStatus × List RefundRow × List CaptureRow :=
  (row.status, row.refunds, row.captures)

/-- The row of the payment has the columns it had when the program last read it. -/
def stillAsRead (id : String) (seen : Option Db) (db : Db) : Bool :=
  seen.any fun db₀ => (db₀.payments.get id).map columns = (db.payments.get id).map columns

/-- A command that saves the payment without the lock finds the row as its program read it, and if
it books a charge, the payment does not wait for the shopper. -/
def AsRead (id : String) (seen : Option Db) (c : Cmd) (db : Db) : Bool :=
  match c with
  | .savePayment entity _ => entity.id ≠ id || stillAsRead id seen db
  | .transaction none entity _ _ _ =>
    entity.id ≠ id || (stillAsRead id seen db &&
      (db.payments.get id).all fun row => row.status ≠ .REQUIRES_ACTION)
  | _ => true

/-- The persisted status stays or moves along the graph. -/
def Moves (id : String) (db db' : Db) : Prop :=
  ∃ q q', db.Holds q ∧ q.id = id ∧ db'.Holds q' ∧ q'.id = id ∧
    (q.status = q'.status ∨ q.status.isValidTransition q'.status)

/-- The payment has kept its captures and refunds. -/
def KeepsRecords (id : String) (db db' : Db) : Prop :=
  ∀ q, db.Holds q → q.id = id → ∃ q', db'.Holds q' ∧ q'.id = id ∧
    q.captures <+: q'.captures ∧ q.refunds <+: q'.refunds

lemma KeepsRecords.refl (id : String) (db : Db) : KeepsRecords id db db :=
  fun q hq hid => ⟨q, hq, hid, List.prefix_rfl, List.prefix_rfl⟩

lemma KeepsRecords.trans {id : String} {a b c : Db} (h : KeepsRecords id a b)
    (h' : KeepsRecords id b c) : KeepsRecords id a c := by
  intro q hq hid
  obtain ⟨q', hq', hid', hcaptures, hrefunds⟩ := h q hq hid
  obtain ⟨q'', hq'', hid'', hcaptures', hrefunds'⟩ := h' q' hq' hid'
  exact ⟨q'', hq'', hid'', hcaptures.trans hcaptures', hrefunds.trans hrefunds'⟩

section

variable {db db₀ : Db} {id : String} {p p' q : PaymentAggregate}

lemma moves_of_holds (hq : db.Holds q) (hid : q.id = id) {db' : Db} (hq' : db'.Holds q) :
    Moves id db db' ∧ KeepsRecords id db db' := by
  refine ⟨⟨q, q, hq, hid, hq', hid, .inl rfl⟩, fun r hr hrid => ?_⟩
  obtain rfl := hr.unique hq (hrid.trans hid.symm)
  exact ⟨r, hq', hid, List.prefix_rfl, List.prefix_rfl⟩

lemma moves_of_step {ev : Option LedgerOutboxEvent} (hq : db.Holds q) (hid : q.id = p.id)
    (hstatus : q.status = p.status) (hcaptures : q.captures = p.captures)
    (hrefunds : q.refunds = p.refunds) (hstep : PaymentStep p ev p')
    (hne : ev = none ∨ p.status ≠ .REQUIRES_ACTION) (now : Date) :
    Moves p.id db (db.savePayment p'.toPersistence now) ∧
      KeepsRecords p.id db (db.savePayment p'.toPersistence now) := by
  have hid' := hstep.same_payment.1
  obtain ⟨q', hq', hsame, hstatus'⟩ := Db.holds_savePayment (p := p') now fun row hrow => by
    obtain ⟨row₀, hrow₀, hload⟩ := hq
    rw [hid', ← hid, hrow₀] at hrow
    exact ⟨q, Option.some.inj hrow ▸ hload⟩
  have hq'id : q'.id = p.id := hsame.id.trans hid'
  refine ⟨⟨q, q', hq, hid, hq', hq'id, ?_⟩, fun r hr hrid => ?_⟩
  · rw [hstatus, hstatus']
    rcases hne with rfl | hne
    · cases hstep with
      | move _ edge => exact edge
    · exact hstep.follows.imp_right fun h => h.resolve_right fun h => hne h.1
  · obtain rfl := hr.unique hq (hrid.trans hid.symm)
    obtain ⟨hkeepc, hkeepr⟩ := hstep.keeps_records
    refine ⟨q', hq', hq'id, ?_, ?_⟩
    · rw [hcaptures, hsame.captures]
      exact hkeepc
    · rw [hrefunds, hsame.refunds]
      exact hkeepr

lemma holds_savePayment_of_ne (hq : db.Holds q) (hid : p.id ≠ q.id) (now : Date) :
    (db.savePayment p.toPersistence now).Holds q := by
  obtain ⟨row, hrow, hload⟩ := hq
  exact ⟨row, (db.get_savePayment_of_ne p.toPersistence now hid.symm).trans hrow, hload⟩

lemma eq_of_stillAsRead (hp : db₀.Holds p) (hq : db.Holds q) (hid : q.id = p.id)
    (h : stillAsRead p.id (some db₀) db) :
    q.status = p.status ∧ q.captures = p.captures ∧ q.refunds = p.refunds := by
  obtain ⟨row₀, hrow₀, hload₀⟩ := hp
  obtain ⟨row, hrow, hload⟩ := hq
  have hcolumns : columns row₀ = columns row := by
    have h := of_decide_eq_true h
    rw [hrow₀, ← hid, hrow] at h
    exact Option.some.inj h
  obtain ⟨hstatus, hrefunds, hcaptures⟩ : row₀.status = row.status ∧
      row₀.refunds = row.refunds ∧ row₀.captures = row.captures := by
    simpa [columns] using hcolumns
  have hloads₀ := PaymentRow.toDomain_ok hload₀
  have hloads := PaymentRow.toDomain_ok hload
  refine ⟨hloads.status.trans (hstatus.symm.trans hloads₀.status.symm), ?_, ?_⟩
  · have hread := hloads₀.captures
    rw [hcaptures] at hread
    exact Except.ok.inj (hloads.captures.symm.trans hread)
  · have hread := hloads₀.refunds
    rw [hrefunds] at hread
    exact Except.ok.inj (hloads.refunds.symm.trans hread)

/-- A command that finds the row as it was read moves it along the graph. -/
lemma step {c : Cmd} (hq : db.Holds q) (hid : q.id = id) (hc : Allowed seen c)
    (hcond : AsRead id seen c db) :
    Moves id db (c.apply db) ∧ KeepsRecords id db (c.apply db) := by
  rcases hc with hother | ⟨db₀, p, rfl, hp, hwrites⟩
  · obtain ⟨row, hrow, hload⟩ := hq
    exact moves_of_holds ⟨row, hrow, hload⟩ hid ⟨row, by rw [hother]; exact hrow, hload⟩
  by_cases hpid : p.id = id
  · subst hpid
    rcases hwrites with ⟨p', now, hstep, rfl⟩ | ⟨p', event, hold, now, hstep, rfl⟩ |
      ⟨hmovable, p', event, hold, now, hstep, rfl⟩
    · have hread : stillAsRead p.id (some db₀) db := by
        simpa [AsRead, show p'.toPersistence.id = p.id from hstep.same_payment.1] using hcond
      obtain ⟨hstatus, hcaptures, hrefunds⟩ := eq_of_stillAsRead hp hq hid hread
      exact moves_of_step hq hid hstatus hcaptures hrefunds hstep (.inl rfl) now
    · obtain ⟨hread, hne⟩ : stillAsRead p.id (some db₀) db ∧
          (db.payments.get p.id).all fun row => row.status ≠ .REQUIRES_ACTION := by
        simpa [AsRead, show p'.toPersistence.id = p.id from hstep.same_payment.1] using hcond
      obtain ⟨hstatus, hcaptures, hrefunds⟩ := eq_of_stillAsRead hp hq hid hread
      have hne : p.status ≠ .REQUIRES_ACTION := by
        obtain ⟨row, hrow, hload⟩ := hq
        rw [← hid, hrow] at hne
        rw [← hstatus, (PaymentRow.toDomain_ok hload).status]
        exact of_decide_eq_true hne
      exact moves_of_step hq hid hstatus hcaptures hrefunds hstep (.inr hne) now
    · rw [Cmd.apply_transaction_some]
      split_ifs with hun
      · obtain ⟨hstatus, hcaptures, hrefunds⟩ := Db.columns_of_unchanged hq hid hun
        refine moves_of_step hq hid hstatus hcaptures hrefunds hstep (.inr ?_) now
        intro haction
        rcases hmovable with (h | h) | h | h <;> simp [h] at haction
      · exact moves_of_holds hq hid hq
  · -- another payment's row is written, if any
    have hne : ∀ p' : PaymentAggregate, p'.id = p.id → p'.id ≠ q.id := fun p' hp' heq =>
      hpid (hp'.symm.trans (heq.trans hid))
    rcases hwrites with ⟨p', now, hstep, rfl⟩ | ⟨p', event, hold, now, hstep, rfl⟩ |
      ⟨-, p', event, hold, now, hstep, rfl⟩
    · exact moves_of_holds hq hid (holds_savePayment_of_ne hq (hne p' hstep.same_payment.1) now)
    · exact moves_of_holds hq hid (holds_savePayment_of_ne hq (hne p' hstep.same_payment.1) now)
    · rw [Cmd.apply_transaction_some]
      split_ifs
      · exact moves_of_holds hq hid (holds_savePayment_of_ne hq (hne p' hstep.same_payment.1) now)
      · exact moves_of_holds hq hid hq

end

end Statuses

open Statuses

/-- The operations, none of which has started. -/
def operationPool (db : Db) (ops : List Operation) : Pool Db Cmd AppError :=
  ⟨db, (ops.map Operation.program).map Proc.start⟩

/-- **Statuses follow the graph**: in every interleaving of operations in which the writes outside
the lock find the row as it was read, and none confirms a challenged payment. -/
theorem statuses_follow_graph (db : Db) (p : PaymentAggregate) (ops : List Operation)
    (schedule : List Nat) (hp : db.Holds p)
    (hread : ∀ e ∈ ((operationPool db ops).exec schedule).1,
      AsRead p.id e.seen e.cmd e.pre) :
    KeepsRecords p.id db ((operationPool db ops).exec schedule).2.state ∧
      ∀ e ∈ ((operationPool db ops).exec schedule).1, Moves p.id e.pre e.post ∧
        KeepsRecords p.id e.post ((operationPool db ops).exec schedule).2.state := by
  have hsat : ∀ prog ∈ ops.map Operation.program,
      Sat Allowed (fun _ _ => True) none prog := by
    intro prog hprog
    obtain ⟨op, -, rfl⟩ := List.mem_map.1 hprog
    exact Sat.mono (fun _ _ => Effects.allowed) (fun _ _ h => h)
      (sat_operation op)
  have hpool : Pool.Sound (fun db => ∃ q, db.Holds q ∧ q.id = p.id)
      (KeepsRecords p.id) Allowed (operationPool db ops) :=
    Pool.sound_start ⟨p, hp, rfl⟩ hsat
  obtain ⟨hevents, -, hle⟩ := Pool.exec_sound
    (fun seen c db => AsRead p.id seen c db) (KeepsRecords.refl p.id)
    (fun _ _ _ => KeepsRecords.trans)
    (fun seen c s hI _ hG hcond => by
      obtain ⟨q, hq, hid⟩ := hI
      obtain ⟨⟨-, q', -, -, hq', hid', -⟩, hkeeps⟩ := step hq hid hG hcond
      exact ⟨⟨q', hq', hid'⟩, hkeeps⟩) hpool schedule hread
  refine ⟨hle, fun e he => ⟨?_, (hevents e he).2.2⟩⟩
  obtain ⟨q, hq, hid⟩ := (hevents e he).1.pre
  rw [(hevents e he).1.post_eq]
  exact (step hq hid (hevents e he).1.guarantee (hread e he)).1

namespace Sample

/-- A refund, and a dispute. -/
def refundAndDispute : List Operation :=
  [.refund (refundEnv "refund-1") "payment-1" ⟨some 4, none, "key-2"⟩,
    .stripeEvent (webhookEnv "event-2") disputeCreated]

/-- A cancellation, and a capture of six dollars. -/
def cancelAndCapture : List Operation :=
  [.cancel ⟨0, .ok { success := true }⟩ "payment-1" "key-2",
    .capture (captureEnv "capture-1") "payment-1" ⟨some 6, "key-3"⟩]

/-- The webhook of a completed challenge. -/
def challengeCompleted : StripeEvent where
  type := "payment_intent.succeeded"
  objectId := "tx-1"

/-- The persisted statuses after each step of a run. -/
def statuses (pool : Pool Db Cmd AppError) (schedule : List Nat) : List (Option PaymentStatus) :=
  (pool.exec schedule).1.map fun e => status e.post

lemma holds_charged : ∃ p, p.id = input.paymentId ∧ chargedDb.Holds p := by
  have hloads : (chargedDb.findById input.paymentId).toOption.join.isSome := by decide +kernel
  cases hfind : chargedDb.findById input.paymentId with
  | error e =>
    rw [hfind] at hloads
    exact (nomatch hloads)
  | ok p? =>
    cases p? with
    | none =>
      rw [hfind] at hloads
      exact (nomatch hloads)
    | some p => exact ⟨p, Db.holds_of_findById hfind⟩

end Sample

open Sample

/-- A refund and a dispute are both read before either writes: the dispute is recorded, and the
refund finds the row changed. -/
theorem statuses_follow_graph_disputed :
    statuses (operationPool chargedDb refundAndDispute) [0, 1, 0, 1, 0, 1, 1, 1] =
      [some .SUCCEEDED, some .SUCCEEDED, some .SUCCEEDED, some .DISPUTED, some .DISPUTED,
        some .DISPUTED, some .DISPUTED, some .DISPUTED] ∧
    ∃ p : PaymentAggregate, p.id = input.paymentId ∧
      KeepsRecords p.id chargedDb
        ((operationPool chargedDb refundAndDispute).exec [0, 1, 0, 1, 0, 1, 1, 1]).2.state ∧
      ∀ e ∈ ((operationPool chargedDb refundAndDispute).exec [0, 1, 0, 1, 0, 1, 1, 1]).1,
        Moves p.id e.pre e.post ∧ KeepsRecords p.id e.post
          ((operationPool chargedDb refundAndDispute).exec [0, 1, 0, 1, 0, 1, 1, 1]).2.state := by
  refine ⟨by decide +kernel, ?_⟩
  obtain ⟨p, hid, hp⟩ := holds_charged
  refine ⟨p, hid, statuses_follow_graph chargedDb p refundAndDispute [0, 1, 0, 1, 0, 1, 1, 1] hp ?_⟩
  rw [hid]
  decide +kernel

/-- A cancellation reads the authorised payment, a capture commits, and the cancellation then
overwrites the row: the capture's status and record are gone, though it is booked.  And without
any race, the confirmation of a challenged payment goes from `REQUIRES_ACTION` to `SUCCEEDED`,
which is no edge of the graph. -/
theorem cancelled_after_capture :
    (statuses (operationPool authorizedDb cancelAndCapture) [0, 1, 1, 1, 0, 0] =
        [some .REQUIRES_CAPTURE, some .REQUIRES_CAPTURE, some .REQUIRES_CAPTURE,
          some .PARTIALLY_CAPTURED, some .PARTIALLY_CAPTURED, some .CANCELLED] ∧
      PaymentStatus.isValidTransition .PARTIALLY_CAPTURED .CANCELLED = false ∧
      ((operationPool authorizedDb cancelAndCapture).exec [0, 1, 1, 1, 0, 0]).1.map
          (fun e => (e.post.payments.get "payment-1").map fun row => row.captures.length) =
        [some 0, some 0, some 0, some 1, some 1, some 0]) ∧
    statuses (operationPool
        ((PaymentCheckoutSaga.execute (answered .REQUIRES_ACTION) input).run Db.empty).1
        [.stripeEvent (webhookEnv "event-2") challengeCompleted]) [0, 0] =
      [some .REQUIRES_ACTION, some .SUCCEEDED] ∧
    PaymentStatus.isValidTransition .REQUIRES_ACTION .SUCCEEDED = false := by
  decide +kernel

end OmniSwitch
