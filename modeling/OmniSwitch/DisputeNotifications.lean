import OmniSwitch.Concurrency.Charging
import OmniSwitch.Lib.History

/-!
# Dispute notifications and what becomes of them

A dispute notification looks its payment up in the live table of a replica, and asks whether it is a
duplicate of the payment's status, not of the dispute's id.  The archiving job moves old payments
out of the live table.

Main results:

* `notification_recorded_iff`: which deliveries that complete leave a record of their dispute, after
  any history, whatever state the replica shows them.
* `notification_lost`: four deliveries of a charged payment that complete and record nothing.
-/

namespace OmniSwitch

open Lib Prog

/-! ### Archiving -/

/-- The columns of a payment that are copied to the archive.

Source: `run-archiving-job.ts` `archivePayments` -/
structure ArchivedPayment where
  id : String
  merchantId : String
  amountMinorUnits : Nat
  currencyCode : String
  status : PaymentStatus
  idempotencyKey : String
  pspProvider : Option PSPProvider
  pspTransactionId : Option String
  pspRawResponse : Option String
  riskScore : Option Nat
  threeDSAuthenticated : Option Bool
  refunds : List RefundRow
  captures : List CaptureRow
  failureReason : Option String
  failureCode : Option String
  binInfo : Option BinInfo
  settlementConversion : Option SettlementConversion
  splits : Option (List SplitRow)
  createdAt : Date

/-- Source: `run-archiving-job.ts` `archivePayments` -/
def PaymentRow.archived (row : PaymentRow) : ArchivedPayment where
  id := row.id
  merchantId := row.merchantId
  amountMinorUnits := row.amountMinorUnits
  currencyCode := row.currencyCode
  status := row.status
  idempotencyKey := row.idempotencyKey
  pspProvider := row.pspProvider
  pspTransactionId := row.pspTransactionId
  pspRawResponse := row.pspRawResponse
  riskScore := row.riskScore
  threeDSAuthenticated := row.threeDSAuthenticated
  refunds := row.refunds
  captures := row.captures
  failureReason := row.failureReason
  failureCode := row.failureCode
  binInfo := row.binInfo
  settlementConversion := row.settlementConversion
  splits := row.splits
  createdAt := row.createdAt

/-- What a run of the job meets: the clock, its configuration, the payments on legal hold, and those
that a reconciliation run has flagged.

Source: `run-archiving-job.ts` `archivePayments` -/
structure ArchivingRun where
  now : Date
  archiveThresholdDays : Nat := 180
  legalHold : String → Bool := fun _ => false
  mismatches : List String := []

/-- Source: `run-archiving-job.ts` `TERMINAL_PAYMENT_STATUSES` -/
def PaymentStatus.terminal : PaymentStatus → Bool
  | SUCCEEDED | FAILED | CANCELLED | REFUNDED | PARTIALLY_REFUNDED => true
  | _ => false

/-- Source: `run-archiving-job.ts` `archivePayments` -/
def ArchivingRun.eligible (run : ArchivingRun) (db : Db) (row : PaymentRow) : Bool :=
  row.createdAt + run.archiveThresholdDays * 24 * 60 * 60 * 1000 < run.now &&
    row.status.terminal && !run.legalHold row.id &&
    !(db.disputes.rows.any fun d => d.paymentId = row.id && d.isOpen) &&
    !run.mismatches.contains row.id

/-- The live database and the archive. -/
structure World where
  live : Db
  archive : List ArchivedPayment

/-- The rows that are eligible and not in the archive yet are moved, in one transaction.

Source: `run-archiving-job.ts` `archivePayments` -/
def archivePayments (run : ArchivingRun) (world : World) : World :=
  let inserted := world.live.payments.rows.filter fun row =>
    run.eligible world.live row && !(world.archive.any (·.id = row.id))
  { live := { world.live with
      payments := world.live.payments.filter fun row => !(inserted.any (·.id = row.id)) }
    archive := world.archive ++ inserted.map PaymentRow.archived }

/-! ### Histories -/

/-- A checkout, or an operation on a payment with what the replica shows to its lookups. -/
inductive Activity where
  | checkout (env : PaymentCheckoutSaga.CheckoutEnv) (input : PaymentCheckoutSaga.CheckoutSagaInput)
  | operation (op : Operation) (replica : Cmd → Db → Db)

/-- The program of an activity. -/
def Activity.program : Activity → App Unit
  | checkout env input => PaymentCheckoutSaga.checkout env input
  | operation op replica => op.program.through (Cmd.sees replica)

namespace World

/-- What may happen between two moments: activities that interleave, each of which fails where the
schedule stops naming it before its end, or a run of the archiving job. -/
inductive Event where
  | ran (activities : List Activity) (schedule : List Nat)
  | archived (run : ArchivingRun)

/-- What an event leaves. -/
def step : Event → World → World
  | .ran activities schedule, world =>
    let pool : Pool Db Cmd AppError :=
      ⟨world.live, (activities.map Activity.program).map Proc.start⟩
    { world with live := (pool.exec schedule).2.state }
  | .archived run, world => archivePayments run world

/-- What a history leaves. -/
abbrev after (world : World) (history : List Event) : World := History.after step world history

end World

open World

/-! ### Records of disputes stay -/

/-- The dispute is on record. -/
def Db.recorded (db : Db) (pspDisputeId : String) : Bool := (db.findDispute pspDisputeId).isSome

lemma Db.recorded_saveDispute (db : Db) (d : Dispute) :
    (db.saveDispute d).recorded d.pspDisputeId :=
  congrArg Option.isSome (Db.findDispute_saveDispute_self db d)

lemma Cmd.keeps_recorded (id : String) (c : Cmd) (db : Db) (h : db.recorded id) :
    (c.apply db).recorded id := by
  cases c with
  | transaction guard entity event hold now =>
    change Db.recorded (if guard.all db.unchanged then db.commit entity event hold now else db) id
    split_ifs <;> exact h
  | saveDispute d =>
    change Db.recorded (if db.disputeConflict d then db else db.saveDispute d) id
    split_ifs
    · exact h
    · by_cases hid : id = d.pspDisputeId
      · exact hid ▸ db.recorded_saveDispute d
      · unfold Db.recorded
        rw [Db.findDispute_saveDispute_of_ne hid]
        exact h
  | _ => exact h

lemma World.recorded_after {world : World} {id : String} (h : world.live.recorded id)
    (later : List Event) : (world.after later).live.recorded id := by
  have hstep : ∀ (event : Event) (world : World), world.live.recorded id → True →
      (step event world).live.recorded id := by
    intro event world hworld _
    cases event with
    | ran activities schedule =>
      exact Pool.exec_keeps (I := fun db : Db => db.recorded id) (Cmd.keeps_recorded id) hworld
        schedule
    | archived run => exact hworld
  exact History.keeps step hstep h later fun _ _ => trivial

/-! ### A delivery that completes -/

/-- The transaction is that of a live payment that can be disputed. -/
def Db.disputable (db : Db) (pspTransactionId : String) : Bool :=
  match db.findByPspTransactionId pspTransactionId with
  | .ok (some p) => p.status = .SUCCEEDED || p.status = .PARTIALLY_REFUNDED
  | _ => false

section delivery

variable {replica : Cmd → Db → Db} {db : Db} {disputeId : String}
  (hpast : ∀ c db, (replica c db).recorded disputeId → db.recorded disputeId)

lemma run_through_findByPspTransactionId (txId : String) :
    ((findByPspTransactionId txId).through (Cmd.sees replica)).run db =
      (db, (replica (.findByPspTransactionId txId) db).findByPspTransactionId txId) := by
  change (through _ (Prog.ofExcept
    ((replica (.findByPspTransactionId txId) db).findByPspTransactionId txId))).run db = _
  cases (replica (.findByPspTransactionId txId) db).findByPspTransactionId txId <;> rfl

/-- Evidence is submitted without a look at the tables. -/
lemma DisputeService.through_autoContest (env : RecordEnv) (d : Dispute) :
    (autoContest env d).through (Cmd.sees replica) = autoContest env d := by
  unfold autoContest
  split_ifs
  · rw [through_bind]
    exact congrArg (callPsp _ _ >>= ·) (funext fun _ => through_liftM _ _)
  · rfl
  · rfl

lemma DisputeService.pspDisputeId_of_autoContest {env : RecordEnv} {d d' : Dispute} {db' : Db}
    (h : (autoContest env d).run db = (db', .ok d')) : d'.pspDisputeId = d.pspDisputeId := by
  unfold autoContest at h
  split_ifs at h
  · change (liftM (d.submitEvidence _) : App Dispute).run db = _ at h
    rw [run_liftM, Prod.mk.injEq, Dispute.submitEvidence] at h
    split_ifs at h
    · simp at h
    · rw [← Except.ok.inj h.2]
  · rw [← Except.ok.inj (Prod.mk.inj h).2]
  · rw [← Except.ok.inj (Prod.mk.inj h).2]

/-- A dispute whose save does not fail is on record. -/
lemma recorded_saveDispute_of_ok {d : Dispute}
    (hdone : (((saveDispute d).through (Cmd.sees replica)).run db).2 = .ok ()) :
    (((saveDispute d).through (Cmd.sees replica)).run db).1.recorded d.pspDisputeId := by
  change (Prog.run (through _ (if db.disputeConflict d then _ else _))
    (Cmd.apply _ db)).2 = _ at hdone
  change (Prog.run (through _ (if db.disputeConflict d then _ else _))
    (Cmd.apply _ db)).1.recorded _
  rw [Cmd.apply]
  split_ifs at hdone ⊢
  · nomatch hdone
  · exact db.recorded_saveDispute d

include hpast

/-- A dispute that is recorded without an error is on record then. -/
lemma DisputeService.recorded_recordDispute (env : RecordEnv) {params : RecordParams}
    (hid : params.pspDisputeId = disputeId)
    (hdone : (((recordDispute env params).through (Cmd.sees replica)).run db).2 = .ok ()) :
    (((recordDispute env params).through (Cmd.sees replica)).run db).1.recorded disputeId := by
  subst hid
  unfold recordDispute at hdone ⊢
  rw [through_bind, run_bind] at hdone ⊢
  have hlookup : ((findByPspDisputeId params.pspDisputeId).through (Cmd.sees replica)).run db =
      (db, .ok ((replica (.findByPspDisputeId params.pspDisputeId) db).findDispute
        params.pspDisputeId)) := rfl
  rw [hlookup] at hdone ⊢
  dsimp only at hdone ⊢
  cases hfind : (replica (.findByPspDisputeId params.pspDisputeId) db).findDispute
      params.pspDisputeId with
  | some d => exact hpast _ db (congrArg Option.isSome hfind)
  | none =>
    rw [hfind] at hdone
    simp only [through_bind, through_liftM, through_autoContest] at hdone ⊢
    obtain ⟨db₁, tier, -, htier⟩ := run_bind_of_ok hdone
    rw [htier] at hdone ⊢
    obtain ⟨db₂, payment, -, hpayment⟩ := run_bind_of_ok hdone
    rw [hpayment] at hdone ⊢
    obtain ⟨db₃, d, hcontest, hsave⟩ := run_bind_of_ok hdone
    rw [hsave] at hdone ⊢
    have hd : d.pspDisputeId = params.pspDisputeId := pspDisputeId_of_autoContest hcontest
    exact hd ▸ recorded_saveDispute_of_ok hdone

namespace WebhookProcessing

variable (env : WebhookEnv) (provider : PSPProvider) (txId : String) (reason : Option String)
  (hdone : (((markDisputed env provider txId disputeId reason).through
    (Cmd.sees replica)).run db).2 = .ok ())

include hdone

/-- A delivery that completes leaves a record exactly if there was one or the payment that the
lookup is shown could be disputed. -/
lemma recorded_markDisputed_iff :
    (((markDisputed env provider txId disputeId reason).through (Cmd.sees replica)).run
        db).1.recorded disputeId ↔
      db.recorded disputeId ∨ (replica (.findByPspTransactionId txId) db).disputable txId := by
  have hkeeps : db.recorded disputeId → (((markDisputed env provider txId disputeId reason).through
      (Cmd.sees replica)).run db).1.recorded disputeId :=
    run_keeps (I := fun db : Db => db.recorded disputeId) (Cmd.keeps_recorded disputeId) _
  unfold Db.disputable
  unfold markDisputed at hdone hkeeps ⊢
  rw [through_bind] at hdone hkeeps ⊢
  obtain ⟨db₁, payment, hlookup, hrest⟩ := run_bind_of_ok hdone
  obtain ⟨rfl, hload⟩ : db = db₁ ∧
      (replica (.findByPspTransactionId txId) db).findByPspTransactionId txId = .ok payment := by
    rw [run_through_findByPspTransactionId] at hlookup
    exact Prod.mk.inj hlookup
  rw [hrest] at hdone hkeeps ⊢
  rw [hload]
  cases payment with
  | none => exact (or_iff_left Bool.false_ne_true).symm
  | some p =>
    dsimp only at hdone hkeeps ⊢
    split_ifs at hdone hkeeps ⊢ with hdisputed huncharged
    · rw [hdisputed]
      exact (or_iff_left Bool.false_ne_true).symm
    · simp only [huncharged.1, huncharged.2, decide_false, Bool.or_self]
      exact (or_iff_left Bool.false_ne_true).symm
    · have hcharged : p.status = .SUCCEEDED ∨ p.status = .PARTIALLY_REFUNDED :=
        or_iff_not_and_not.2 huncharged
      refine iff_of_true ?_ (.inr (by simpa using hcharged))
      simp only [through_bind, through_liftM] at hdone ⊢
      obtain ⟨db₁, amount, -, hamount⟩ := run_bind_of_ok hdone
      rw [hamount] at hdone ⊢
      obtain ⟨db₂, disputed, -, hdisputed⟩ := run_bind_of_ok hdone
      rw [hdisputed] at hdone ⊢
      obtain ⟨db₃, _, -, hupdate⟩ := run_bind_of_ok hdone
      rw [hupdate] at hdone ⊢
      exact DisputeService.recorded_recordDispute hpast env.record rfl hdone

end WebhookProcessing

end delivery

/-- **When a notification is recorded**: after any history of activities and archiving runs, a
delivery that completes leaves a record of its dispute, in every later state, exactly if the
record was there already or the payment that its lookup was shown for the notified transaction is in
`SUCCEEDED` or `PARTIALLY_REFUNDED`.  The replica shows no record of the dispute that has not been
committed.  Earlier deliveries of the notification, failed or not, are part of the history. -/
theorem notification_recorded_iff (start : World) (history : List Event)
    (replica : Cmd → Db → Db) (env : WebhookProcessing.WebhookEnv) (provider : PSPProvider)
    (txId disputeId : String) (reason : Option String)
    (hpast : ∀ c db, (replica c db).recorded disputeId → db.recorded disputeId)
    (hdone : (((WebhookProcessing.markDisputed env provider txId disputeId reason).through
      (Cmd.sees replica)).run (start.after history).live).2 = .ok ()) :
    (∀ later : List Event,
      (after ⟨(((WebhookProcessing.markDisputed env provider txId disputeId reason).through
        (Cmd.sees replica)).run (start.after history).live).1,
        (start.after history).archive⟩ later).live.recorded disputeId) ↔
      (start.after history).live.recorded disputeId ∨
        (replica (.findByPspTransactionId txId) (start.after history).live).disputable txId := by
  rw [← WebhookProcessing.recorded_markDisputed_iff hpast env provider txId reason hdone]
  exact ⟨fun h => h [], fun h later => recorded_after h later⟩

namespace Sample

open WebhookProcessing

/-- A checkout of ten dollars that is charged at once. -/
def charged : Event := .ran [.checkout (answered .SUCCEEDED) input] (List.replicate 9 0)

/-- A delivery of a dispute notification that stops after so many commands. -/
def delivery (disputeId : String) (commands : Nat) : Event :=
  .ran [.operation (.stripeEvent (webhookEnv "event-2")
    { disputeCreated with objectId := disputeId }) fun _ db => db] (List.replicate commands 0)

/-- The archiving job runs, the given number of days after the epoch. -/
def archiving (days : Nat) : Event := .archived { now := days * 24 * 60 * 60 * 1000 }

/-- A history that starts from nothing. -/
def history (events : List Event) : World := after ⟨Db.empty, []⟩ events

/-- A delivery after a history, on a replica: the live and the archived payments it meets, whether
it completes, and whether it leaves a record. -/
def delivered (disputeId : String) (replica : Cmd → Db → Db) (events : List Event) :
    List PaymentStatus × Nat × Bool × Bool :=
  let world := history events
  let prog := (markDisputed (webhookEnv "event-3") .STRIPE "tx-1" disputeId none).through
    (Cmd.sees replica)
  (world.live.payments.rows.map PaymentRow.status, world.archive.length,
    (prog.run world.live).2.toBool, (prog.run world.live).1.recorded disputeId)

end Sample

open Sample

/-- A delivery stops before it writes, the archiving job finds the payment too young, and the
notification is delivered again; the replica has got as far as the charge. -/
theorem notification_recorded_redelivered :
    (history [charged]).live.disputable "tx-1" ∧
    ∀ later : List Event,
      (after ⟨(((WebhookProcessing.markDisputed (webhookEnv "event-3") .STRIPE "tx-1" "dp-1"
        none).through (Cmd.sees fun _ _ => (history [charged]).live)).run
          (history [charged, delivery "dp-1" 1, archiving 180]).live).1,
        (history [charged, delivery "dp-1" 1, archiving 180]).archive⟩ later).live.recorded
          "dp-1" := by
  have hdisputable : (history [charged]).live.disputable "tx-1" := by decide +kernel
  have hnone : (history [charged]).live.recorded "dp-1" = false := by decide +kernel
  refine ⟨hdisputable, (notification_recorded_iff ⟨Db.empty, []⟩
    [charged, delivery "dp-1" 1, archiving 180] (fun _ _ => (history [charged]).live)
    (webhookEnv "event-3") .STRIPE "tx-1" "dp-1" none (fun _ _ h => absurd h (by simp [hnone]))
    ?_).2 (.inr hdisputable)⟩
  decide +kernel

/-- Deliveries that complete and record nothing, of a payment that was charged: it is disputed
already under another id; an earlier delivery stopped between its two writes; the payment has been
archived; the replica has not heard of it yet. -/
theorem notification_lost :
    delivered "dp-2" (fun _ db => db) [charged, delivery "dp-1" 9] = ([.DISPUTED], 0, true, false) ∧
    delivered "dp-1" (fun _ db => db) [charged, delivery "dp-1" 2] = ([.DISPUTED], 0, true, false) ∧
    delivered "dp-1" (fun _ db => db) [charged, archiving 181] = ([], 1, true, false) ∧
    delivered "dp-1" (fun _ _ => Db.empty) [charged] = ([.SUCCEEDED], 0, true, false) := by
  decide +kernel

end OmniSwitch
