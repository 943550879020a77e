import OmniSwitch.Services.Guarantees

/-!
# What the operations write

Once its checkout has ended, a payment is moved on by the operations on payments only.  `Written`
lists what they write when nothing else runs: which payments an operation may charge is read off its
parameters and the state it meets.  What the operations keep is proved of each kind of write.
`DisputeService.submitEvidence` is not among them: it touches no payment and books nothing, but
saves a dispute as it was read, so that what is said of disputes is said of runs without it.

Main results:

* `Operation.writes`: an operation makes the writes of `Written` and no others;
* `Operation.keeps_of_written`: what each of these writes keeps, every operation keeps.
-/

namespace OmniSwitch

open Lib Prog WebhookProcessing PaymentLifecycle AmbiguousPayment DisputeService

/-! ### Operations -/

/-- What can be done to payments after their checkout, with what each call meets outside.

Source: `payment-lifecycle.service.ts`, `webhook-processing.service.ts`,
`ambiguous-payment.service.ts`, `dispute.service.ts` -/
inductive Operation where
  | refund (env : RefundEnv) (paymentId : String) (params : RefundParams)
  | capture (env : CaptureEnv) (paymentId : String) (params : CaptureParams)
  | cancel (env : CancelEnv) (paymentId idempotencyKey : String)
  | stripeEvent (env : WebhookEnv) (event : StripeEvent)
  | adyenNotification (items : List (WebhookEnv × AdyenNotificationItem))
  | resolveAmbiguous (env : BookingEnv) (params : ResolveParams)
  | autoResolve (env : AutoResolveEnv) (paymentId : String)
  | resolveDispute (env : ResolveEnv) (pspDisputeId : String) (outcome : DisputeOutcome)

namespace Operation

/-- The program of an operation. -/
def program : Operation → App Unit
  | refund env id params => refundCall env id params
  | capture env id params => captureCall env id params
  | cancel env id key => cancelCall env id key
  | stripeEvent env event => handleStripeEvent env event
  | adyenNotification items => handleAdyenNotification items
  | resolveAmbiguous env params => resolve env params
  | autoResolve env id => autoResolveOne env id
  | resolveDispute env id outcome => resolveByPspDisputeId env id outcome

/-- What an operation leaves. -/
def apply (op : Operation) (db : Db) : Db := (op.program.run db).1

/-- The program of an operation, and what its commands find when a replica answers its lookups. -/
def lagging (step : Operation × (Cmd → Db → Db)) : App Unit × (Cmd → Db → Db) :=
  (step.1.program, Cmd.sees step.2)

end Operation

/-! ### Outcomes that get to the payment -/

/-- The status of a payment. -/
def Db.status (db : Db) (id : String) : Option PaymentStatus :=
  (db.payments.get id).map PaymentRow.status

/-- The transaction is that of the payment `id`, which is being processed or challenged. -/
def Db.PendingAt (db : Db) (txId id : String) : Prop :=
  ∃ p, db.findByPspTransactionId txId = .ok (some p) ∧ p.id = id ∧
    (p.status = .PROCESSING ∨ p.status = .REQUIRES_ACTION)

/-- One of the items, in the state it meets, is an authorisation that gets to the payment. -/
def WebhookProcessing.ReportsSuccess (id : String) :
    List (WebhookEnv × AdyenNotificationItem) → Db → Prop
  | [], _ => False
  | (env, item) :: items, db =>
    (item.eventCode = "AUTHORISATION" ∧ item.success = "true" ∧
      db.PendingAt item.pspReference id) ∨
    ReportsSuccess id items ((handleAdyenItem env item).run db).1

/-- The operation reports a success that gets to the payment `id` while its charge is pending: a
notification while it is being processed or challenged, or a resolution while it is ambiguous.

Source: `WebhookProcessingService.markSucceeded`; `AmbiguousPaymentService.resolve`,
`AmbiguousPaymentService.autoResolveOne` -/
def Operation.ReportsSuccess (id : String) : Operation → Db → Prop
  | stripeEvent _ event, db =>
    event.type = "payment_intent.succeeded" ∧ db.PendingAt event.objectId id
  | adyenNotification items, db => WebhookProcessing.ReportsSuccess id items db
  | resolveAmbiguous _ params, db =>
    params.outcome = .SUCCEEDED ∧ params.paymentId = id ∧ db.status id = some .AMBIGUOUS
  | autoResolve env paymentId, db =>
    (∃ outcome, env.answer = .ok outcome ∧ outcome.outcome = .SUCCEEDED) ∧ paymentId = id ∧
      db.status id = some .AMBIGUOUS
  | _, _ => False

/-! ### Writes -/

/-- The outcome of the charge is open, and there is a way to learn it: by the transaction, or by
asking the PSP. -/
def Awaits (status : PaymentStatus) (txId : Option String) : Prop :=
  (status = .PROCESSING ∨ status = .REQUIRES_ACTION) ∧ txId.isSome ∨ status = .AMBIGUOUS

/-- The outcome of the payment's charge is open, and can be learned. -/
def PaymentAggregate.Awaits (p : PaymentAggregate) : Prop :=
  OmniSwitch.Awaits p.status p.pspTransactionId.toOption

/-- **What an operation writes**; `charges` says which payments it may charge. -/
inductive Written (charges : String → Prop) (db : Db) : Db → Prop
  | charged {q q' : PaymentAggregate} {event : LedgerOutboxEvent} (hold : Option ReserveHold)
      (now : Date) (holds : db.Holds q) (awaits : q.Awaits) (may : charges q.id)
      (step : PaymentStep q (some event) q') :
      Written charges db (db.commit q'.toPersistence event hold now)
  /-- The charge has failed, or nothing is learned of an ambiguous one. -/
  | missed {q q' : PaymentAggregate} (now : Date) (holds : db.Holds q) (awaits : q.Awaits)
      (step : PaymentStep q none q') :
      Written charges db (db.savePayment q'.toPersistence now)
  | cancelled {q q' : PaymentAggregate} (now : Date) (holds : db.Holds q)
      (edge : q.status.isValidTransition .CANCELLED) (step : PaymentStep q none q')
      (status : q'.status = .CANCELLED) (transaction : q'.pspTransactionId = q.pspTransactionId) :
      Written charges db (db.savePayment q'.toPersistence now)
  /-- A capture or a refund. -/
  | moved {q q' : PaymentAggregate} {event : LedgerOutboxEvent} (hold : Option ReserveHold)
      (now : Date) (holds : db.Holds q) (movable : Movable q)
      (step : PaymentStep q (some event) q') :
      Written charges db (db.commit q'.toPersistence event hold now)
  /-- The payment is disputed, and a record of the dispute added or not. -/
  | disputed {q q' : PaymentAggregate} {amount : Money} {db' : Db} (now : Date)
      (holds : db.Holds q) (charged : q.status = .SUCCEEDED ∨ q.status = .PARTIALLY_REFUNDED)
      (remaining : q.remainingRefundable = .ok amount) (step : PaymentStep q none q')
      (status : q'.status = .DISPUTED)
      (records : db' = db.savePayment q'.toPersistence now ∨ ∃ d, d.paymentId = q.id ∧
        d.amount = amount ∧ db' = (db.savePayment q'.toPersistence now).saveDispute d) :
      Written charges db db'
  /-- A dispute is closed whose payment is not disputed. -/
  | closed {d : Dispute} (outcome : DisputeOutcome)
      (found : db.findDispute d.pspDisputeId = some d) (isOpen : d.isOpen)
      (undisputed : ∀ row, db.payments.get d.paymentId = some row → row.status ≠ .DISPUTED) :
      Written charges db (db.saveDispute { d with status := Dispute.outcomeStatus outcome })
  | resolved {q : PaymentAggregate} {d : Dispute} {c : Cmd} (outcome : DisputeOutcome)
      (found : db.findDispute d.pspDisputeId = some d) (isOpen : d.isOpen) (holds : db.Holds q)
      (paymentId : q.id = d.paymentId) (status : q.status = .DISPUTED)
      (closes : Closes q d c) : Written charges db
        ((c.apply db).saveDispute { d with status := Dispute.outcomeStatus outcome })

variable {db : Db} {p : PaymentAggregate}

lemma Db.status_of_holds (h : db.Holds p) : db.status p.id = some p.status := by
  obtain ⟨row, hrow, hload⟩ := h
  unfold status
  rw [hrow, (PaymentRow.toDomain_ok hload).status]
  rfl

lemma PaymentAggregate.Awaits.pending (h : p.Awaits) : Pending p := by
  rcases h with ⟨h | h, -⟩ | h
  · exact .inl h
  · exact .inr (.inl h)
  · exact .inr (.inr h)

lemma awaits_of_pendingAt {txId : String} (h : db.findByPspTransactionId txId = .ok (some p))
    (hpending : p.status = .PROCESSING ∨ p.status = .REQUIRES_ACTION) : p.Awaits := by
  obtain ⟨row, hrow, hp⟩ := Db.load_ok h
  have htx : row.pspTransactionId = some txId := by
    simpa using List.find?_some hrow
  refine .inl ⟨hpending, ?_⟩
  rw [(PaymentRow.toDomain_ok hp).pspTransactionId, htx]
  rfl

/-! ### What each program writes -/

section writes

variable {charges : String → Prop} {prog : App Unit}

/-- The program makes such writes and no others. -/
abbrev OnlyWrites (charges : String → Prop) (db : Db) (prog : App Unit) : Prop :=
  Relation.ReflTransGen (Written charges) db (prog.run db).1

lemma writes_of_transacts {V : Db → Cmd → Prop} (hprog : prog.Transacts V)
    (hV : ∀ c, V db c → Written charges db (c.apply db) ∨ c.apply db = db) :
    OnlyWrites charges db prog := by
  unfold OnlyWrites
  rcases hprog.run db with hrun | ⟨c, hc, hrun⟩ <;> rw [hrun]
  rcases hV c hc with hwritten | hsame
  · exact .single hwritten
  · rw [show Commands.apply c db = db from hsame]

lemma markSucceeded_writes (env : WebhookEnv) (txId raw : String)
    (hcharges : ∀ id, db.PendingAt txId id → charges id) :
    OnlyWrites charges db (markSucceeded env txId raw) := by
  refine writes_of_transacts (markSucceeded_confirms env txId raw) ?_
  rintro _ ⟨q, hfind, hpending, p, event, hold, now, hstep, rfl⟩
  exact .inl (.charged hold now (Db.holds_of_findByPspTransactionId hfind)
    (awaits_of_pendingAt hfind hpending) (hcharges _ ⟨q, hfind, rfl, hpending⟩) hstep)

lemma markFailed_writes (env : WebhookEnv) (txId reason : String) (code : Option String) :
    OnlyWrites charges db (markFailed env txId reason code) := by
  refine writes_of_transacts (markFailed_fails env txId reason code) ?_
  rintro _ ⟨q, hfind, hpending, p, now, hstep, -, rfl⟩
  exact .inl (.missed now (Db.holds_of_findByPspTransactionId hfind)
    (awaits_of_pendingAt hfind hpending) hstep)

lemma markDisputed_writes (env : WebhookEnv) (provider : PSPProvider) (txId disputeId : String)
    (reason : Option String) :
    OnlyWrites charges db (markDisputed env provider txId disputeId reason) := by
  unfold OnlyWrites
  rcases markDisputed_ends env provider txId disputeId reason db with
    ⟨-, hrun⟩ | ⟨e, hrun⟩ |
    ⟨q, c, amount, hfind, hcharged, hamount, ⟨p, now, hstep, hstatus, rfl⟩, hrun⟩ <;> rw [hrun]
  refine .single (.disputed now (Db.holds_of_findByPspTransactionId hfind) hcharged hamount hstep
    hstatus ?_)
  rw [Cmd.apply_savePayment]
  rcases recordDispute_ends env.record (disputeParams provider disputeId reason q amount)
    (db.savePayment p.toPersistence now) with
    ⟨-, hrun⟩ | ⟨-, e, hrun⟩ | ⟨-, d, hd, hrun⟩ <;> rw [hrun]
  · exact .inl rfl
  · exact .inl rfl
  · exact .inr ⟨d, hd.paymentId, hd.amount, rfl⟩

lemma resolveByPspDisputeId_writes (env : ResolveEnv) (disputeId : String)
    (outcome : DisputeOutcome) :
    OnlyWrites charges db (resolveByPspDisputeId env disputeId outcome) := by
  unfold OnlyWrites
  rcases resolveByPspDisputeId_run env disputeId outcome db with
    hrun | ⟨d, hfind, hopen, ⟨hnot, hrun⟩ | ⟨q, c, hq, hid, hstatus, hc, hrun⟩⟩ <;> rw [hrun]
  · obtain rfl : d.pspDisputeId = disputeId := Table.key_of_get hfind
    exact .single (.closed outcome hfind hopen hnot)
  · obtain rfl : d.pspDisputeId = disputeId := Table.key_of_get hfind
    exact .single (.resolved outcome hfind hopen hq hid hstatus hc)

lemma books_writes (hprog : prog.Transacts (OfLoaded BooksIfUnchanged)) :
    OnlyWrites charges db prog := by
  refine writes_of_transacts hprog ?_
  rintro _ ⟨q, hq, hmovable, p, event, hold, now, hstep, rfl⟩
  rw [Cmd.apply_transaction_some]
  split_ifs
  · exact .inl (.moved hold now hq hmovable hstep)
  · exact .inr rfl

lemma resolves_writes {paymentId : String} {succeeds : Prop}
    (hprog : prog.Transacts (Resolves paymentId succeeds))
    (hcharges : ∀ id, succeeds ∧ paymentId = id ∧ db.status id = some .AMBIGUOUS → charges id) :
    OnlyWrites charges db prog := by
  refine writes_of_transacts hprog ?_
  rintro c ⟨q, hq, rfl, hstatus, hc⟩
  have hambiguous : db.status q.id = some .AMBIGUOUS := by rw [Db.status_of_holds hq, hstatus]
  rcases hc with ⟨hsucceeds, p, event, hold, now, hstep, rfl⟩ | ⟨p, now, hstep, rfl⟩
  · exact .inl (.charged hold now hq (.inr hstatus) (hcharges _ ⟨hsucceeds, rfl, hambiguous⟩) hstep)
  · exact .inl (.missed now hq (.inr hstatus) hstep)

lemma adyenNotification_writes (items : List (WebhookEnv × AdyenNotificationItem))
    (hcharges : ∀ id, WebhookProcessing.ReportsSuccess id items db → charges id) :
    OnlyWrites charges db (handleAdyenNotification items) := by
  induction items generalizing db with
  | nil => exact .refl
  | cons item items ih =>
    have hitem : OnlyWrites charges db (handleAdyenItem item.1 item.2) :=
      handleAdyenItem_elim .refl (markDisputed_writes _)
        (fun _ _ _ => resolveByPspDisputeId_writes _ _ _) (fun _ _ => markFailed_writes _ _ _ _)
        fun hcode hsuccess => markSucceeded_writes _ _ _ fun id h =>
          hcharges id (.inl ⟨hcode, hsuccess, h⟩)
    have hrest := ih fun id h => hcharges id (.inr h)
    unfold OnlyWrites at hitem hrest ⊢
    unfold handleAdyenNotification
    rw [run_bind]
    split
    · rename_i db' _ hrun
      rw [hrun] at hitem hrest
      exact hitem.trans hrest
    · rename_i db' _ hrun
      rw [hrun] at hitem
      exact hitem

end writes

/-- **Every operation makes such writes and no others.** -/
theorem Operation.writes (op : Operation) (db : Db) :
    OnlyWrites (fun id => op.ReportsSuccess id db) db op.program := by
  cases op with
  | refund env paymentId params =>
    exact books_writes (refundCall_transacts env paymentId params)
  | capture env paymentId params =>
    exact books_writes (captureCall_transacts env paymentId params)
  | cancel env paymentId key =>
    refine writes_of_transacts (cancelCall_transacts env paymentId key) ?_
    rintro _ ⟨q, hq, -, hvalid, p, now, hstep, hstatus, htx, rfl⟩
    exact .inl (.cancelled now hq hvalid hstep hstatus htx)
  | stripeEvent env event =>
    exact handleStripeEvent_elim .refl (markDisputed_writes env)
      (fun _ _ => resolveByPspDisputeId_writes env.resolve _ _)
      (fun _ _ => markFailed_writes env _ _ _)
      fun htype => markSucceeded_writes env _ _ fun _ h => ⟨htype, h⟩
  | adyenNotification items => exact adyenNotification_writes items fun _ h => h
  | resolveAmbiguous env params =>
    exact resolves_writes (resolve_resolves env params) fun _ h => h
  | autoResolve env paymentId =>
    exact resolves_writes (autoResolveOne_resolves env paymentId) fun _ h => h
  | resolveDispute env disputeId outcome => exact resolveByPspDisputeId_writes env disputeId outcome

/-- What each such write keeps, the operation keeps. -/
lemma Operation.keeps_of_written {I : Db → Prop} (op : Operation)
    (hI : ∀ {db₁ db₂}, Written (fun id => op.ReportsSuccess id db) db₁ db₂ → I db₁ → I db₂)
    (h : I db) : I (op.apply db) := by
  have hwrites := op.writes db
  unfold OnlyWrites at hwrites
  change I (op.program.run db).1
  generalize (op.program.run db).1 = db' at hwrites ⊢
  induction hwrites with
  | refl => exact h
  | tail _ hwritten ih => exact hI hwritten ih

end OmniSwitch
