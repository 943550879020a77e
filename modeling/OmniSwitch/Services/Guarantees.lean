import OmniSwitch.PaymentStep
import OmniSwitch.Routing.Schedule
import OmniSwitch.Services.CheckoutCourse
import OmniSwitch.Services.Webhook

/-!
# What the services may write

For each service, the one statement from which its behaviour alone and among others follows: it
loads a payment and then writes at most once, a `PaymentStep` of the payment it loaded.  The two
services that write twice, `markDisputed` and `resolveByPspDisputeId`, and the saga, which loads
nothing, are stated by their parts.

Main results:

* `refundCall_transacts`, `captureCall_transacts`, `cancelCall_transacts`: refund, capture, cancel;
* `resolve_transacts`, `autoResolveOne_transacts`: ambiguous payments;
* `markSucceeded_transacts`, `markFailed_transacts`, `markDisputed_ends`,
  `resolveByPspDisputeId_run`: notifications;
* `execute_advances`: the checkout.
-/

namespace OmniSwitch

open Lib Prog

variable (p : PaymentAggregate)

/-- The command saves a step of `p` that books nothing. -/
def Saves (c : Cmd) : Prop :=
  ∃ p' now, PaymentStep p none p' ∧ c = .savePayment p'.toPersistence now

/-- The command saves such a step that leaves the payment in a status. -/
def Marks (status : PaymentStatus) (p : PaymentAggregate) (c : Cmd) : Prop :=
  ∃ p' now, PaymentStep p none p' ∧ p'.status = status ∧ c = .savePayment p'.toPersistence now

lemma Marks.saves {status : PaymentStatus} {p : PaymentAggregate} {c : Cmd}
    (h : Marks status p c) : Saves p c := by
  obtain ⟨p', now, hstep, -, hc⟩ := h
  exact ⟨p', now, hstep, hc⟩

/-- The command saves a step of `p` with its ledger event, whatever the row holds by then. -/
def Books (c : Cmd) : Prop :=
  ∃ p' event hold now, PaymentStep p (some event) p' ∧
    c = .transaction none p'.toPersistence event hold now

/-- The payment can still be captured or reversed. -/
def Movable : Prop :=
  (p.status = .REQUIRES_CAPTURE ∨ p.status = .PARTIALLY_CAPTURED) ∨
    p.status = .SUCCEEDED ∨ p.status = .PARTIALLY_REFUNDED

/-- The command saves a capture or refund of `p` with its ledger event, if the row still is as it
was read. -/
def BooksIfUnchanged (c : Cmd) : Prop :=
  Movable p ∧ ∃ p' event hold now, PaymentStep p (some event) p' ∧
    c = .transaction (some p.toPersistence) p'.toPersistence event hold now

/-- The command saves `p` cancelled, with its transaction as it is. -/
def Cancels (c : Cmd) : Prop :=
  p.status.isValidTransition .CANCELLED ∧ ∃ p' now, PaymentStep p none p' ∧
    p'.status = .CANCELLED ∧ p'.pspTransactionId = p.pspTransactionId ∧
    c = .savePayment p'.toPersistence now

lemma Cancels.saves {p : PaymentAggregate} {c : Cmd} (h : Cancels p c) :
    p.status.uncaptured ∧ Saves p c := by
  obtain ⟨hvalid, p', now, hstep, -, -, hc⟩ := h
  exact ⟨PaymentStatus.uncaptured_of_isValidTransition hvalid rfl, p', now, hstep, hc⟩

/-- After a load, the command is `W` of a payment that was loaded. -/
def OfLoaded (W : PaymentAggregate → Cmd → Prop) (db : Db) (c : Cmd) : Prop :=
  ∃ p, db.Holds p ∧ W p c

/-! ### Booking a charge -/

/-- A payment that awaits the outcome of its charge. -/
def Pending : Prop :=
  p.status = .PROCESSING ∨ p.status = .REQUIRES_ACTION ∨ p.status = .AMBIGUOUS

section booking

variable {env : BookingEnv} {p succeeded : PaymentAggregate}

lemma bookSucceeded_commits (hp : Pending p) (same : p.SameRecords succeeded)
    (status : succeeded.status = .SUCCEEDED) :
    (bookSucceeded env succeeded).Commits (Books p) := by
  unfold bookSucceeded
  simp only [commits_liftM_bind]
  intro params _
  unfold bookCharge
  obtain ⟨hconv, hconv'⟩ := succeeded.recordConversion_sameRecords succeeded.amount params env.now
  obtain ⟨hfin, hfin'⟩ :=
    (succeeded.recordConversion succeeded.amount params env.now).finalizeSplits_sameRecords params
  have hsame := (same.trans hconv).trans hfin
  simp only [commits_liftM_bind]
  intro event hevent
  have hbooks := LedgerOutboxEvent.createChargeEntries_ok hevent
  rw [hsame.id, hsame.amount] at hbooks
  refine Commits.then_ended (commits_saveInTransaction ⟨_, _, _, _, ?_, rfl⟩) fun _ => trivial
  exact .charge hsame hp (hfin'.trans (hconv'.trans status)) hbooks

end booking

/-! ### Refund, capture and cancel -/

namespace PaymentLifecycle

/-- What a refund of `p` that gets as far as its save was made of.

Source: `PaymentLifecycleService.refund` -/
structure RefundsTo (env : RefundEnv) (params : RefundParams) (p : PaymentAggregate)
    (provider : PSPProvider) (amount : Money) (response : PspRefundResponse)
    (p' : PaymentAggregate) (event : LedgerOutboxEvent) : Prop where
  checked : ∃ txId, checkRefund p params = .ok (provider, txId, amount)
  answered : env.answer = .ok response
  refunded : p.refund env.refundId amount (params.reason.getD "requested_by_customer")
    (some response.pspRefundId) env.now = .ok p'
  booked : event.Refunds p.id amount

/-- The command saves the refund that was asked for, if the row still is as it was read. -/
def BooksRefund (env : RefundEnv) (params : RefundParams) (p : PaymentAggregate) (c : Cmd) :
    Prop :=
  ∃ provider amount response p' event, RefundsTo env params p provider amount response p' event ∧
    c = .transaction (some p.toPersistence) p'.toPersistence event none env.now

lemma refund_books (env : RefundEnv) (p : PaymentAggregate) (params : RefundParams) :
    (refund env p params).Commits (BooksRefund env params p) := by
  unfold refund
  simp only [commits_liftM_bind, commits_callPsp_bind]
  rintro ⟨provider, txId, amount⟩ hchecked response hanswer _ - refunded hrefund event hevent
  obtain ⟨-, -, -, -, hrefunded⟩ := PaymentAggregate.refund_ok hrefund
  have hbooks : event.Refunds p.id amount := by
    have h := LedgerOutboxEvent.createRefundEntries_ok hevent
    rw [hrefunded] at h
    exact h
  exact Commits.then_ended (commits_saveIfUnchanged ⟨provider, amount, response, refunded, event,
    ⟨⟨txId, hchecked⟩, hanswer, hrefund, hbooks⟩, rfl⟩) fun _ => trivial

lemma refund_commits (env : RefundEnv) (p : PaymentAggregate) (params : RefundParams) :
    (refund env p params).Commits (BooksIfUnchanged p) := by
  refine (refund_books env p params).mono ?_
  rintro _ ⟨provider, amount, response, refunded, event, h, rfl⟩
  obtain ⟨hstatus, -, hcur, hle, rfl⟩ := PaymentAggregate.refund_ok h.refunded
  refine ⟨.inr hstatus, _, _, _, _, ?_, rfl⟩
  exact .refund ⟨env.refundId, amount, _, _, _⟩ ⟨rfl, rfl, rfl, rfl, rfl⟩ hcur hle hstatus rfl
    h.booked

lemma recordInterchange_sameRecords (p : PaymentAggregate) (full : Bool) (now : Date) :
    p.SameRecords (recordInterchange p full now) ∧
      (recordInterchange p full now).status = p.status := by
  unfold recordInterchange
  split <;> exact ⟨⟨rfl, rfl, rfl, rfl, rfl⟩, rfl⟩

lemma capture_commits (env : CaptureEnv) (p : PaymentAggregate) (params : CaptureParams) :
    (capture env p params).Commits (BooksIfUnchanged p) := by
  unfold capture
  simp only [commits_liftM_bind, commits_callPsp_bind]
  rintro ⟨provider, txId, captureAmount⟩ - answer - _ - ⟨captured, full⟩ hcapture ledgerParams -
    event hevent
  obtain ⟨hstatus, -, hcur, hle, hfull, hcaptured⟩ := PaymentAggregate.recordCapture_ok hcapture
  obtain ⟨hint, hint'⟩ := recordInterchange_sameRecords captured full env.now
  obtain ⟨hconv, hconv'⟩ := (recordInterchange captured full env.now).recordConversion_sameRecords
    captureAmount ledgerParams env.now
  have hsame := hint.trans hconv
  have hid : captured.id = p.id := by rw [hcaptured]
  have hbooks : event.Charges p.id captureAmount :=
    hid ▸ hsame.id ▸ LedgerOutboxEvent.createChargeEntries_ok hevent
  refine Commits.then_ended (commits_saveIfUnchanged ⟨.inl hstatus, _, _, _, _, ?_, rfl⟩)
    fun _ => trivial
  refine .capture ⟨env.captureId, captureAmount, env.now, some txId⟩
    (PaymentAggregate.SameRecords.trans ?_ hsame) hcur hle hstatus ?_ hbooks
  · rw [hcaptured]
    exact ⟨rfl, rfl, rfl, rfl, rfl⟩
  · rw [hconv', hint', hcaptured]
    change (if full then PaymentStatus.SUCCEEDED else .PARTIALLY_CAPTURED) = _
    rw [hfull]
    simp only [decide_eq_true_eq]

lemma cancel_commits (env : CancelEnv) (p : PaymentAggregate) (key : String) :
    (cancel env p key).Commits (Cancels p) := by
  unfold cancel
  split_ifs
  · trivial
  · trivial
  · have hquiet : (cancelAtPsp env p key).Quiet fun _ => True := by
      unfold cancelAtPsp
      split <;> simp
    refine hquiet.then_commits fun _ _ => ?_
    simp only [commits_liftM_bind]
    intro cancelled hcancel
    have hok := PaymentAggregate.transition_ok (.refl p) hcancel
    have htx : cancelled.pspTransactionId = p.pspTransactionId := by
      unfold PaymentAggregate.cancel at hcancel
      rw [PaymentAggregate.transition_of_isValidTransition hok.1] at hcancel
      rw [← Except.ok.inj hcancel]
    exact Commits.then_ended (commits_updatePayment ⟨hok.1, _, _, .of_transition rfl hok, hok.2.1,
      htx, rfl⟩) fun _ => trivial

variable {W : PaymentAggregate → Cmd → Prop}

lemma getOwnedPayment_transacts {α : Type} {id : String} {f : PaymentAggregate → App α}
    (h : ∀ p, p.id = id → (f p).Commits (W p)) :
    (getOwnedPayment id >>= f).Transacts (OfLoaded fun p c => p.id = id ∧ W p c) := by
  unfold getOwnedPayment
  rw [bind_assoc]
  refine transacts_findByIdOnMaster fun db p? hp => ?_
  cases p? with
  | none => trivial
  | some p =>
    obtain ⟨hid, hholds⟩ := Db.holds_of_findById hp
    exact (h p hid).mono fun c hc => ⟨p, hholds, hid, hc⟩

lemma OfLoaded.of_owned {id : String} (db : Db) (c : Cmd)
    (h : OfLoaded (fun p c => p.id = id ∧ W p c) db c) : OfLoaded W db c := by
  obtain ⟨p, hp, -, hc⟩ := h
  exact ⟨p, hp, hc⟩

/-- **Refund.** -/
lemma refundCall_transacts (env : RefundEnv) (id : String) (params : RefundParams) :
    (refundCall env id params).Transacts (OfLoaded BooksIfUnchanged) := by
  have hcall : (refundCall env id params).Transacts _ := getOwnedPayment_transacts fun p _ =>
    (refund_commits env p params).then_ended fun _ => trivial
  exact hcall.mono OfLoaded.of_owned

/-- **Capture.** -/
lemma captureCall_transacts (env : CaptureEnv) (id : String) (params : CaptureParams) :
    (captureCall env id params).Transacts (OfLoaded BooksIfUnchanged) := by
  have hcall : (captureCall env id params).Transacts _ := getOwnedPayment_transacts fun p _ =>
    (capture_commits env p params).then_ended fun _ => trivial
  exact hcall.mono OfLoaded.of_owned

/-- **Cancel.** -/
lemma cancelCall_transacts (env : CancelEnv) (id key : String) :
    (cancelCall env id key).Transacts (OfLoaded fun p c => p.id = id ∧ Cancels p c) :=
  getOwnedPayment_transacts fun p _ => (cancel_commits env p key).then_ended fun _ => trivial

end PaymentLifecycle

/-! ### Ambiguous payments -/

/-- The command is a step of a payment whose charge is pending, written unconditionally. -/
def Settles (c : Cmd) : Prop := Pending p ∧ (Saves p c ∨ Books p c)

variable {p p' : PaymentAggregate}
variable {code : Option String} {provider : Option PSPProvider} {signal : Option PspRiskSignal}

lemma marks_of_markFailed {reason : String} (h : p.markFailed reason code provider signal = .ok p')
    (now : Date) :
    Marks .FAILED p (.savePayment p'.toPersistence now) := by
  have hok := PaymentAggregate.transition_ok ⟨rfl, rfl, rfl, rfl, rfl⟩ h
  exact ⟨p', now, .of_transition rfl hok, hok.2.1, rfl⟩

namespace AmbiguousPayment

/-- What an outcome makes of an ambiguous payment: it is charged, only if that is the outcome, or
it is saved. -/
def Decides (succeeds : Prop) (p : PaymentAggregate) (c : Cmd) : Prop :=
  succeeds ∧ Books p c ∨ Saves p c

/-- The command is an outcome of the ambiguous payment `id`. -/
def Resolves (id : String) (succeeds : Prop) (db : Db) (c : Cmd) : Prop :=
  ∃ p, db.Holds p ∧ p.id = id ∧ p.status = .AMBIGUOUS ∧ Decides succeeds p c

lemma Resolves.settles {id : String} {succeeds : Prop} (db : Db) (c : Cmd)
    (h : Resolves id succeeds db c) : OfLoaded Settles db c := by
  obtain ⟨p, hp, -, hstatus, ⟨-, hbooks⟩ | hsaves⟩ := h
  · exact ⟨p, hp, .inr (.inr hstatus), .inr hbooks⟩
  · exact ⟨p, hp, .inr (.inr hstatus), .inl hsaves⟩

lemma getOwnedAmbiguous_transacts {α : Type} {W : PaymentAggregate → Cmd → Prop} {id : String}
    {f : PaymentAggregate → App α} (h : ∀ p, p.status = .AMBIGUOUS → (f p).Commits (W p)) :
    (getOwnedAmbiguous id >>= f).Transacts fun db c =>
      ∃ p, db.Holds p ∧ p.id = id ∧ p.status = .AMBIGUOUS ∧ W p c := by
  unfold getOwnedAmbiguous
  rw [bind_assoc]
  refine transacts_findByIdOnMaster fun db p? hp => ?_
  cases p? with
  | none => trivial
  | some p =>
    obtain ⟨hid, hholds⟩ := Db.holds_of_findById hp
    dsimp only
    split_ifs with hstatus
    · trivial
    · rw [ret_bind]
      exact (h p (not_not.1 hstatus)).mono fun c hc => ⟨p, hholds, hid, not_not.1 hstatus, hc⟩

lemma resolve_resolves (env : BookingEnv) (params : ResolveParams) :
    (resolve env params).Transacts (Resolves params.paymentId (params.outcome = .SUCCEEDED)) := by
  refine getOwnedAmbiguous_transacts fun p hstatus => ?_
  cases params.outcome with
  | SUCCEEDED =>
    dsimp only
    split
    · trivial
    · simp only [commits_liftM_bind]
      intro succeeded hsucceeded
      obtain ⟨-, hstatus', hsame⟩ := PaymentAggregate.transition_ok ⟨rfl, rfl, rfl, rfl, rfl⟩
        hsucceeded
      refine Commits.then_ended ?_ fun _ => trivial
      refine (bookSucceeded_commits (.inr (.inr hstatus)) ?_ ?_).mono fun c hc =>
        .inl ⟨trivial, hc⟩
      · exact hsame.trans ⟨rfl, rfl, rfl, rfl, rfl⟩
      · exact hstatus'
  | FAILED =>
    simp only [commits_liftM_bind]
    intro failed hfailed
    obtain ⟨hvalid, hstatus', hsame⟩ :=
      PaymentAggregate.transition_ok ⟨rfl, rfl, rfl, rfl, rfl⟩ hfailed
    exact commits_updatePayment (.inr ⟨failed.recordManualAmbiguousResolution
      params.resolvedBy params.reason env.now, env.now, .of_transition rfl
        ⟨hvalid, hstatus', hsame.trans ⟨rfl, rfl, rfl, rfl, rfl⟩⟩, rfl⟩)

/-- **An operator's resolution.** -/
lemma resolve_transacts (env : BookingEnv) (params : ResolveParams) :
    (resolve env params).Transacts (OfLoaded Settles) :=
  (resolve_resolves env params).mono Resolves.settles

lemma applyOutcome_commits (env : BookingEnv) (hstatus : p.status = .AMBIGUOUS)
    (outcome : PspQueryOutcomeResult) :
    (applyOutcome env p outcome).Commits (Decides (outcome.outcome = .SUCCEEDED) p) := by
  unfold applyOutcome
  split
  · rename_i houtcome _
    simp only [commits_liftM_bind]
    intro succeeded hsucceeded
    obtain ⟨-, hstatus', hsame⟩ := PaymentAggregate.transition_ok ⟨rfl, rfl, rfl, rfl, rfl⟩
      hsucceeded
    refine Commits.then_ended ?_ fun _ => trivial
    exact (bookSucceeded_commits (.inr (.inr hstatus)) hsame hstatus').mono fun c hc =>
      .inl ⟨houtcome, hc⟩
  · simp only [commits_liftM_bind]
    intro failed hfailed
    exact commits_updatePayment (.inr (marks_of_markFailed hfailed _).saves)
  · refine commits_updatePayment (.inr ⟨p.incrementAmbiguousAutoRetryCount, env.now, ?_, rfl⟩)
    have hside : p.status.uncaptured := by
      rw [hstatus]
      rfl
    exact .move ⟨rfl, rfl, rfl, rfl, rfl⟩ (.inl rfl) (.inl ⟨hside, hside⟩)

lemma autoResolveOne_resolves (env : AutoResolveEnv) (id : String) :
    (autoResolveOne env id).Transacts (Resolves id
      (∃ outcome, env.answer = .ok outcome ∧ outcome.outcome = .SUCCEEDED)) := by
  refine transacts_findByIdOnMaster fun db p? hp => ?_
  cases p? with
  | none => trivial
  | some p =>
    obtain ⟨hid, hholds⟩ := Db.holds_of_findById hp
    dsimp only
    split_ifs with hstatus
    · trivial
    · split
      · trivial
      · simp only [commits_liftM_bind, commits_callPsp_bind]
        rintro adapter - outcome hanswer
        refine (applyOutcome_commits env.booking (not_not.1 hstatus) outcome).mono fun c hc => ?_
        exact ⟨p, hholds, hid, not_not.1 hstatus,
          hc.imp_left (And.imp_left fun h => ⟨outcome, hanswer, h⟩)⟩

/-- **The sweep's resolution.** -/
lemma autoResolveOne_transacts (env : AutoResolveEnv) (id : String) :
    (autoResolveOne env id).Transacts (OfLoaded Settles) :=
  (autoResolveOne_resolves env id).mono Resolves.settles

end AmbiguousPayment

/-! ### Disputes -/

namespace DisputeService

/-- The record of a dispute that a payment's dispute calls for: open, and for what is asked. -/
structure Opens (params : RecordParams) (d : Dispute) : Prop where
  isOpen : d.isOpen
  paymentId : d.paymentId = params.paymentId
  pspDisputeId : d.pspDisputeId = params.pspDisputeId
  amount : d.amount = params.amount

variable {d : Dispute}

lemma autoContest_run (env : RecordEnv) {params : RecordParams} (hd : Opens params d)
    (hstatus : d.status = .NEEDS_RESPONSE) (db : Db) :
    ∃ d', Opens params d' ∧ (autoContest env d).run db = (db, .ok d') := by
  unfold autoContest
  split_ifs with hcontest haccepted
  · refine ⟨{ d with evidence := some (autoContestEvidenceFor d.reason), status := .UNDER_REVIEW },
      ⟨rfl, hd.paymentId, hd.pspDisputeId, hd.amount⟩, ?_⟩
    change ((liftM (d.submitEvidence _) : App Dispute)).run db = _
    rw [run_liftM, Dispute.submitEvidence, if_neg (not_not.2 hstatus)]
  · exact ⟨d, hd, rfl⟩
  · exact ⟨d, hd, rfl⟩

/-- The ways in which recording a dispute ends: it is on record already, something it needs cannot
be had, or an open record of it is added. -/
lemma recordDispute_ends (env : RecordEnv) (params : RecordParams) (db : Db) :
    (db.findDispute params.pspDisputeId).isSome ∧
        (recordDispute env params).run db = (db, .ok ()) ∨
      ((∃ e, env.tier = .error e) ∨ ∃ e, db.findById params.paymentId = .error e) ∧
        (∃ e, (recordDispute env params).run db = (db, .error e)) ∨
      db.findDispute params.pspDisputeId = none ∧
        ∃ d, Opens params d ∧ (recordDispute env params).run db = (db.saveDispute d, .ok ()) := by
  unfold recordDispute
  rw [run_findByPspDisputeId_bind]
  cases hfind : db.findDispute params.pspDisputeId with
  | some d => exact .inl ⟨rfl, rfl⟩
  | none =>
    dsimp only
    rw [run_liftM_bind]
    cases htier : env.tier with
    | error e => exact .inr (.inl ⟨.inl ⟨e, rfl⟩, e, rfl⟩)
    | ok tier =>
      dsimp only
      rw [run_findByIdOnMaster_bind]
      cases hload : db.findById params.paymentId with
      | error e => exact .inr (.inl ⟨.inr ⟨e, rfl⟩, e, rfl⟩)
      | ok p? =>
        dsimp only
        have hnew : Opens params (Dispute.create env.disputeId params.paymentId
            params.merchantId params.pspProvider params.pspDisputeId params.amount
            params.reason (decideAutoDisposition env.policy params.amount params.reason tier)
            (p?.bind PaymentAggregate.delegationId) (p?.map PaymentAggregate.initiatedBy)
            tier env.now) := ⟨rfl, rfl, rfl, rfl⟩
        obtain ⟨d, hd, hrun⟩ := autoContest_run env hnew rfl db
        have hconflict : db.disputeConflict d = false := by
          unfold Db.disputeConflict
          rw [hd.pspDisputeId, show db.disputes.get params.pspDisputeId = none from hfind]
          rfl
        refine .inr (.inr ⟨rfl, d, hd, ?_⟩)
        rw [run_bind, hrun]
        dsimp only
        rw [run_saveDispute hconflict]

/-- The command saves the payment of a dispute that is resolved: a step out of `DISPUTED`, whose
event, if it has one, is for the amount of the dispute. -/
def Closes (p : PaymentAggregate) (d : Dispute) (c : Cmd) : Prop :=
  ∃ p', p'.status ≠ .DISPUTED ∧
    ((∃ now, PaymentStep p none p' ∧ c = .savePayment p'.toPersistence now) ∨
      ∃ event hold now, PaymentStep p (some event) p' ∧ event.Refunds p.id d.amount ∧
        c = .transaction none p'.toPersistence event hold now)

lemma Closes.disputes {c : Cmd} (h : Closes p d c) (db : Db) :
    (c.apply db).disputes = db.disputes := by
  obtain ⟨p', -, ⟨now, -, rfl⟩ | ⟨event, hold, now, -, -, rfl⟩⟩ := h <;> rfl

lemma Closes.writes {c : Cmd} (h : Closes p d c) :
    Saves p c ∨ Books p c ∨ BooksIfUnchanged p c := by
  obtain ⟨p', -, ⟨now, hstep, rfl⟩ | ⟨event, hold, now, hstep, -, rfl⟩⟩ := h
  · exact .inl ⟨p', now, hstep, rfl⟩
  · exact .inr (.inl ⟨p', event, hold, now, hstep, rfl⟩)

section closes

variable {p resolved : PaymentAggregate} {now : Date}

lemma closes_of_won (hp : p.status = .DISPUTED) (h : p.resolveDispute .WON now = .ok resolved)
    (d : Dispute) (now' : Date) : Closes p d (.savePayment resolved.toPersistence now') := by
  simp only [PaymentAggregate.resolveDispute, bind_eq_ok] at h
  obtain ⟨_, -, h⟩ := h
  obtain ⟨-, hstatus, hsame⟩ := PaymentAggregate.transition_ok (.refl p) h
  have hcases : resolved.status = .SUCCEEDED ∨ resolved.status = .PARTIALLY_REFUNDED := by
    rw [hstatus]
    split_ifs
    · exact .inl rfl
    · exact .inr rfl
  refine ⟨resolved, ?_, .inl ⟨now', .move hsame (.inr ?_) (.inr ⟨?_, ?_⟩), rfl⟩⟩
  · rcases hcases with h | h <;> rw [h] <;> decide
  · rcases hcases with h | h <;> rw [h, hp] <;> rfl
  · rw [hp]
    rfl
  · rcases hcases with h | h <;> rw [h] <;> rfl

lemma closes_of_lost (hp : p.status = .DISPUTED) (h : p.resolveDispute .LOST now = .ok resolved)
    {event : LedgerOutboxEvent} (hbooks : event.Refunds resolved.id d.amount)
    (hold : Option ReserveHold) (now' : Date) :
    Closes p d (.transaction none resolved.toPersistence event hold now') := by
  simp only [PaymentAggregate.resolveDispute, bind_eq_ok,
    PaymentAggregate.remainingRefundable_eq_ok] at h
  obtain ⟨_, -, _, ⟨-, hle, rfl⟩, h⟩ := h
  obtain rfl := Except.ok.inj h
  refine ⟨_, by simp, .inr ⟨event, hold, now', ?_, hbooks, rfl⟩⟩
  exact .lose ⟨_, ⟨p.amount.amountMinorUnits - p.refundedMinorUnits, p.amount.currency⟩, _, _, _⟩
    d.amount ⟨rfl, rfl, rfl, rfl, rfl⟩ ⟨hle, rfl⟩ hp rfl hbooks

variable {outcome : DisputeOutcome}

lemma settlePayment_commits (env : ResolveEnv) (hp : p.status = .DISPUTED) (d : Dispute)
    (h : p.resolveDispute outcome now = .ok resolved) :
    (settlePayment env d resolved outcome).Commits (Closes p d) := by
  cases outcome with
  | WON => exact commits_updatePayment (closes_of_won hp h d env.now)
  | LOST =>
    unfold settlePayment
    simp only [commits_liftM_bind]
    intro event hevent
    exact commits_saveInTransaction
      (closes_of_lost hp h (LedgerOutboxEvent.createRefundEntries_ok hevent) none env.now)

lemma settlePayment_run (env : ResolveEnv) (hp : p.status = .DISPUTED) (d : Dispute)
    (h : p.resolveDispute outcome now = .ok resolved) (db : Db) :
    (∃ e, (settlePayment env d resolved outcome).run db = (db, .error e)) ∨
      ∃ c, Closes p d c ∧ (settlePayment env d resolved outcome).run db = (c.apply db, .ok ()) := by
  cases outcome with
  | WON => exact .inr ⟨_, closes_of_won hp h d env.now, rfl⟩
  | LOST =>
    unfold settlePayment
    rw [run_liftM_bind]
    split
    · rename_i event hevent
      exact .inr ⟨_, closes_of_lost hp h (LedgerOutboxEvent.createRefundEntries_ok hevent) none
        env.now, rfl⟩
    · rename_i e _
      exact .inl ⟨e, rfl⟩

end closes

lemma disputeConflict_resolved {db : Db} (hd : db.findDispute d.pspDisputeId = some d)
    (status : DisputeStatus) :
    db.disputeConflict { d with status := status } = false := by
  unfold Db.disputeConflict
  rw [show db.disputes.get d.pspDisputeId = some d from hd]
  simp

/-- Resolving a dispute does nothing unless it is open.  The payment follows if it is disputed,
and then the dispute is closed. -/
lemma resolveByPspDisputeId_run (env : ResolveEnv) (id : String) (outcome : DisputeOutcome)
    (db : Db) :
    ((resolveByPspDisputeId env id outcome).run db).1 = db ∨
      ∃ d, db.findDispute id = some d ∧ d.isOpen ∧
        (((∀ row, db.payments.get d.paymentId = some row → row.status ≠ .DISPUTED) ∧
            ((resolveByPspDisputeId env id outcome).run db).1 =
              db.saveDispute { d with status := Dispute.outcomeStatus outcome }) ∨
          ∃ p c, db.Holds p ∧ p.id = d.paymentId ∧ p.status = .DISPUTED ∧ Closes p d c ∧
            ((resolveByPspDisputeId env id outcome).run db).1 =
              (c.apply db).saveDispute { d with status := Dispute.outcomeStatus outcome }) := by
  unfold resolveByPspDisputeId
  rw [run_findByPspDisputeId_bind]
  cases hfind : db.findDispute id with
  | none => exact .inl rfl
  | some d =>
    have hkey : d.pspDisputeId = id := Table.key_of_get hfind
    have hfind' : db.findDispute d.pspDisputeId = some d := by rw [hkey, hfind]
    dsimp only
    split_ifs with hdone
    · exact .inl rfl
    · have hopen := Dispute.isOpen_iff.2 (not_or.1 hdone)
      have hresolve : d.resolve outcome =
          .ok { d with status := Dispute.outcomeStatus outcome } := if_neg hdone
      rw [run_findByIdOnMaster_bind]
      cases hload : db.findById d.paymentId with
      | error e => exact .inl rfl
      | ok p? =>
        dsimp only
        split
        · rename_i hnone
          refine .inr ⟨d, rfl, hopen, .inl ⟨?_, ?_⟩⟩
          · intro row hrow hstatus
            unfold Db.findById at hload
            rw [hrow] at hload
            obtain ⟨p, hp, hload⟩ := bind_eq_ok.1 hload
            obtain rfl := Except.ok.inj hload
            simp [(PaymentRow.toDomain_ok hp).status, hstatus] at hnone
          · rw [run_liftM_bind, hresolve]
            dsimp only
            rw [run_saveDispute (disputeConflict_resolved hfind' _)]
        · rename_i p hsome
          obtain ⟨rfl, hstatus⟩ := Option.filter_eq_some_iff.1 hsome
          obtain ⟨hid, hholds⟩ := Db.holds_of_findById hload
          have hstatus : p.status = .DISPUTED := of_decide_eq_true hstatus
          rw [run_liftM_bind, hresolve]
          dsimp only
          rw [run_liftM_bind]
          split
          · rename_i resolved hresolved
            rw [run_bind]
            rcases settlePayment_run env hstatus d hresolved db with ⟨e, he⟩ | ⟨c, hc, hrun⟩
            · rw [he]
              exact .inl rfl
            · rw [hrun]
              dsimp only
              refine .inr ⟨d, rfl, hopen, .inr ⟨p, c, hholds, hid, hstatus, hc, ?_⟩⟩
              have hfind'' : (c.apply db).findDispute d.pspDisputeId = some d := by
                unfold Db.findDispute
                rw [hc.disputes]
                exact hfind'
              rw [run_saveDispute (disputeConflict_resolved hfind'' _)]
          · exact .inl rfl

end DisputeService

/-! ### Webhooks -/

namespace WebhookProcessing

lemma confirm_ok {txId raw : String} (h : confirm p txId raw = .ok p') :
    p.SameRecords p' ∧ p'.status = .SUCCEEDED := by
  unfold confirm at h
  split_ifs at h
  · obtain ⟨completed, hcompleted, h⟩ := bind_eq_ok.1 h
    obtain ⟨-, -, hsame⟩ := PaymentAggregate.transition_ok ⟨rfl, rfl, rfl, rfl, rfl⟩ hcompleted
    obtain ⟨-, hstatus, hsame'⟩ := PaymentAggregate.transition_ok ⟨rfl, rfl, rfl, rfl, rfl⟩ h
    exact ⟨hsame.trans hsame', hstatus⟩
  · obtain ⟨-, hstatus, hsame⟩ := PaymentAggregate.transition_ok ⟨rfl, rfl, rfl, rfl, rfl⟩ h
    exact ⟨hsame, hstatus⟩

lemma pending_of_not (h : ¬ (p.status ≠ .PROCESSING ∧ p.status ≠ .REQUIRES_ACTION)) :
    Pending p := by
  rw [not_and_or, not_not, not_not] at h
  exact h.imp_right Or.inl

/-- The command charges the payment that was found by its transaction, which was being processed or
challenged. -/
def Confirms (txId : String) (db : Db) (c : Cmd) : Prop :=
  ∃ p, db.findByPspTransactionId txId = .ok (some p) ∧
    (p.status = .PROCESSING ∨ p.status = .REQUIRES_ACTION) ∧ Books p c

variable (env : WebhookEnv)

lemma markSucceeded_confirms (txId raw : String) :
    (markSucceeded env txId raw).Transacts (Confirms txId) := by
  refine transacts_findByPspTransactionId fun db p? hp => ?_
  cases p? with
  | none => trivial
  | some p =>
    dsimp only
    split_ifs with hdone hpending
    · trivial
    · trivial
    · simp only [commits_liftM_bind]
      intro succeeded hsucceeded
      obtain ⟨hsame, hstatus⟩ := confirm_ok hsucceeded
      refine Commits.then_ended ?_ fun _ => trivial
      refine (bookSucceeded_commits (pending_of_not hpending) hsame hstatus).mono fun c hc =>
        ⟨p, hp, ?_, hc⟩
      rwa [not_and_or, not_not, not_not] at hpending

/-- **A success is notified.** -/
lemma markSucceeded_transacts (txId raw : String) :
    (markSucceeded env txId raw).Transacts (OfLoaded Settles) := by
  refine (markSucceeded_confirms env txId raw).mono ?_
  rintro db c ⟨p, hfind, hpending, hc⟩
  exact ⟨p, Db.holds_of_findByPspTransactionId hfind, hpending.imp_right .inl, .inr hc⟩

/-- The command fails the payment that was found so. -/
def FailsAt (txId : String) (db : Db) (c : Cmd) : Prop :=
  ∃ p, db.findByPspTransactionId txId = .ok (some p) ∧
    (p.status = .PROCESSING ∨ p.status = .REQUIRES_ACTION) ∧ Marks .FAILED p c

lemma markFailed_fails (txId reason : String) (code : Option String) :
    (markFailed env txId reason code).Transacts (FailsAt txId) := by
  refine transacts_findByPspTransactionId fun db p? hp => ?_
  cases p? with
  | none => trivial
  | some p =>
    dsimp only
    split_ifs with hdone hpending
    · trivial
    · trivial
    · simp only [commits_liftM_bind]
      intro failed hfailed
      rw [not_and_or, not_not, not_not] at hpending
      exact commits_updatePayment ⟨p, hp, hpending, marks_of_markFailed hfailed _⟩

/-- **A failure is notified.** -/
lemma markFailed_transacts (txId reason : String) (code : Option String) :
    (markFailed env txId reason code).Transacts (OfLoaded Settles) := by
  refine (markFailed_fails env txId reason code).mono ?_
  rintro db c ⟨p, hfind, hpending, hc⟩
  exact ⟨p, Db.holds_of_findByPspTransactionId hfind, hpending.imp_right .inl, .inl hc.saves⟩

lemma step_of_markDisputed (h : p.markDisputed = .ok p') :
    PaymentStep p none p' := by
  obtain ⟨hvalid, hstatus, hsame⟩ := PaymentAggregate.transition_ok (.refl p) h
  refine .move hsame (.inr (hstatus ▸ hvalid)) (.inr ⟨?_, by rw [hstatus]; rfl⟩)
  revert hvalid
  cases p.status <;> decide

/-- What a dispute notification asks to be recorded of a payment. -/
def disputeParams (provider : PSPProvider) (pspDisputeId : String) (reason : Option String)
    (p : PaymentAggregate) (amount : Money) : DisputeService.RecordParams :=
  ⟨p.id, p.merchantId, provider, pspDisputeId, amount, reason⟩

/-- The ways in which a dispute notification ends: it finds no payment that is charged, it fails
before it writes, or the payment is disputed and then the dispute is recorded. -/
lemma markDisputed_ends (provider : PSPProvider) (txId disputeId : String)
    (reason : Option String) (db : Db) :
    (∀ p, db.findByPspTransactionId txId = .ok (some p) →
        p.status ≠ .SUCCEEDED ∧ p.status ≠ .PARTIALLY_REFUNDED) ∧
        (markDisputed env provider txId disputeId reason).run db = (db, .ok ()) ∨
      (∃ e, (markDisputed env provider txId disputeId reason).run db = (db, .error e)) ∨
      ∃ p c amount, db.findByPspTransactionId txId = .ok (some p) ∧
        (p.status = .SUCCEEDED ∨ p.status = .PARTIALLY_REFUNDED) ∧
        p.remainingRefundable = .ok amount ∧ Marks .DISPUTED p c ∧
        (markDisputed env provider txId disputeId reason).run db =
          (DisputeService.recordDispute env.record
            (disputeParams provider disputeId reason p amount)).run (c.apply db) := by
  unfold markDisputed
  rw [run_findByPspTransactionId_bind]
  cases hload : db.findByPspTransactionId txId with
  | error e => exact .inr (.inl ⟨e, rfl⟩)
  | ok p? =>
    cases p? with
    | none => exact .inl ⟨fun p hp => (nomatch hp), rfl⟩
    | some p =>
      dsimp only
      split_ifs with hdone hcharged
      · refine .inl ⟨fun q hq => ?_, rfl⟩
        obtain rfl := Option.some.inj (Except.ok.inj hq)
        rw [hdone]
        decide
      · refine .inl ⟨fun q hq => ?_, rfl⟩
        obtain rfl := Option.some.inj (Except.ok.inj hq)
        exact hcharged
      · rw [run_liftM_bind]
        split
        · rename_i amount hamount
          rw [run_liftM_bind]
          split
          · rename_i disputed hdisputed
            obtain ⟨-, hstatus, hsame⟩ := PaymentAggregate.transition_ok (.refl p) hdisputed
            rw [not_and_or, not_not, not_not] at hcharged
            refine .inr (.inr ⟨p, _, amount, rfl, hcharged, hamount, ⟨disputed, env.booking.now,
              step_of_markDisputed hdisputed, hstatus, rfl⟩, ?_⟩)
            unfold disputeParams
            rw [← hsame.id, ← hsame.merchantId]
            rfl
          · exact .inr (.inl ⟨_, rfl⟩)
        · exact .inr (.inl ⟨_, rfl⟩)

end WebhookProcessing

/-! ### The saga -/

namespace PaymentCheckoutSaga

/-- The writes of a checkout: the intent, and from then on steps of what was written last, of
which only the last can book anything. -/
inductive Step (intent : PaymentAggregate) :
    Option PaymentAggregate → Cmd → Option PaymentAggregate → Prop
  | create (now : Date) : Step intent none (.savePayment intent.toPersistence now) (some intent)
  | save {p p' : PaymentAggregate} (now : Date) (step : PaymentStep p none p') :
      Step intent (some p) (.savePayment p'.toPersistence now) (some p')
  | book {p p' : PaymentAggregate} {event : LedgerOutboxEvent} (hold : Option ReserveHold)
      (now : Date) (pending : Pending p) (step : PaymentStep p (some event) p') :
      Step intent (some p) (.transaction none p'.toPersistence event hold now) (some p')

/-- Some charge request is answered with the money taken. -/
def Takes (env : CheckoutEnv) : Prop :=
  ∃ n provider response, env.charge n provider = .ok response ∧ response.status = .SUCCEEDED

/-- The writes of a checkout, with what it meets outside: a booking follows an answer that took the
money. -/
def Writes (env : CheckoutEnv) (intent : PaymentAggregate) (x : Option PaymentAggregate) (c : Cmd)
    (y : Option PaymentAggregate) : Prop :=
  Step intent x c y ∧ (c.books → Takes env)

section stages

variable {env : CheckoutEnv} {input : CheckoutSagaInput} {params : ChargeLedgerParams}

lemma charges_quiet (key : String) (log : List (Invocation PspChargeResponse)) :
    (charges key log).Quiet fun _ => True := by
  induction log with
  | nil => trivial
  | cons invocation log ih =>
    unfold charges
    rw [quiet_bind, quiet_callPsp]
    exact ih

lemma isFirstChargeToMerchant_quiet (input : CheckoutSagaInput) :
    (isFirstChargeToMerchant input).Quiet fun _ => True := by
  unfold isFirstChargeToMerchant
  split
  · trivial
  · exact ⟨⟨rfl, fun _ => rfl⟩, fun _ => trivial⟩

variable {context : RoutingContext}

lemma executeWithSmartRouting_answered {route : RouteResult PspChargeResponse}
    (h : (executeWithSmartRouting env context).2 = .ok route) :
    ⟨route.provider, .ok route.result⟩ ∈ (executeWithSmartRouting env context).1 ∧
      ∃ n, env.charge n route.provider = .ok route.result := by
  unfold executeWithSmartRouting at h ⊢
  split at h
  · exact (nomatch h)
  · obtain ⟨result, hresult, h⟩ := bind_eq_ok.1 h
    obtain ⟨_, -, h⟩ := bind_eq_ok.1 h
    obtain rfl := Except.ok.inj h
    have hmem := (executeWithFallback_trace _ env.charge env.isAvailable).mem_of_ok hresult
    obtain ⟨n, hn⟩ := List.getElem?_of_mem hmem
    exact ⟨hmem, n, (executeWithFallback_logged hn).1.symm⟩

/-- An answer to a charge request is what routing hands on, if its own bookkeeping does not fail. -/
lemma executeWithSmartRouting_of_logged {n : Nat} {invocation : Invocation PspChargeResponse}
    {response : PspChargeResponse}
    (hlog : (executeWithSmartRouting env context).1[n]? = some invocation)
    (hresponse : env.charge n invocation.provider = .ok response) :
    ∃ usedFallback, (executeWithSmartRouting env context).2 =
      env.recordRouting >>= fun _ => .ok ⟨response, invocation.provider, usedFallback⟩ := by
  unfold executeWithSmartRouting at hlog ⊢
  cases hselect : selectAdapter context env.executionHealth with
  | error e =>
    rw [hselect] at hlog
    exact (nomatch hlog)
  | ok decision =>
    rw [hselect] at hlog
    obtain ⟨houtcome, hanswered⟩ := executeWithFallback_logged hlog
    obtain ⟨-, usedFallback, hresult⟩ := hanswered response (houtcome.trans hresponse)
    refine ⟨usedFallback, ?_⟩
    dsimp only
    rw [hresult]
    rfl

lemma Conclusion.advances {requested : Option ScaExemptionType} {c : Option Cmd}
    {r : Except AppError CheckoutSagaResult}
    (h : Conclusion env input params requested p (executeWithSmartRouting env context).2 c r)
    (hp : Turned (intent env input) p .PROCESSING .undefined) :
    (conclude c r).Advances (Writes env (intent env input)) (some p) := by
  have hdone : ∀ (r : Except AppError CheckoutSagaResult) y,
      (liftM r : App _).Advances (Writes env (intent env input)) y := by
    intro r y
    cases r <;> trivial
  have hsave : ∀ {q target txId r}, Turned p q target txId →
      PaymentStatus.PROCESSING.isValidTransition target → target.uncaptured →
      (conclude (some (.savePayment q.toPersistence env.booking.now)) r).Advances
        (Writes env (intent env input)) (some p) := by
    intro q target txId r hturned hvalid htarget
    have hstep : PaymentStep p none q :=
      .of_transition htarget ⟨by rwa [hp.status], hturned.status, hturned.same⟩
    exact .inr ⟨some q, ⟨.save _ hstep, nofun⟩, rfl, fun _ => hdone r _⟩
  generalize hroute : (executeWithSmartRouting env context).2 = route at h
  cases h with
  | unrecorded => exact hdone _ _
  | booked answer _ event_eq turned =>
    have hbooks := LedgerOutboxEvent.createChargeEntries_ok event_eq
    obtain ⟨-, n, hanswer⟩ := executeWithSmartRouting_answered hroute
    refine .inr ⟨some _, ⟨.book _ _ (.inl hp.status) (.charge turned.same (.inl hp.status)
      turned.status ?_), fun _ => ⟨n, _, _, hanswer, answer⟩⟩, rfl, fun _ => hdone _ _⟩
    rw [hp.same.id, hp.same.amount]
    exact hbooks
  | authorised answer _ turned =>
    rcases answer with answer | answer <;> rw [answer] at turned <;> exact hsave turned rfl rfl
  | declined _ turned | ambiguous _ turned | failed _ turned => exact hsave turned rfl rfl

lemma executeIntent_advances (isFirst : Option Bool) :
    (executeIntent env input isFirst (intent env input)).Advances (Writes env (intent env input))
      (some (intent env input)) := by
  have hcourse := executeIntent_course env input isFirst
  generalize executeIntent env input isFirst (intent env input) = prog at hcourse ⊢
  cases hcourse with
  | @refused c e _ writes =>
    cases c with
    | none => trivial
    | some c =>
      obtain ⟨q, hturned, rfl⟩ := writes c rfl
      exact .inr ⟨some q, ⟨.save _ (.of_transition rfl ⟨rfl, hturned.status, hturned.same⟩), nofun⟩,
        rfl, fun _ => trivial⟩
  | charged _ turned _ concluded =>
    exact .inr ⟨some _, ⟨.save _ (.of_transition rfl ⟨rfl, turned.status, turned.same⟩), nofun⟩,
      rfl, fun _ => (charges_quiet _ _).then_advances fun _ _ => concluded.advances turned⟩

end stages

/-- **The checkout**, among others. -/
lemma execute_advances (env : CheckoutEnv) (input : CheckoutSagaInput) :
    (execute env input).Advances (Writes env (intent env input)) none := by
  refine (isFirstChargeToMerchant_quiet input).then_advances fun isFirst _ => ?_
  exact .inr ⟨some (intent env input), ⟨.create _, nofun⟩, rfl, fun _ =>
    executeIntent_advances isFirst⟩

/-- **The checkout**, alone. -/
lemma execute_run (env : CheckoutEnv) (input : CheckoutSagaInput) (db : Db) :
    ∃ isFirst, (isFirstChargeToMerchant input).run db = (db, .ok isFirst) ∧
      (execute env input).run db = (executeIntent env input isFirst (intent env input)).run
        (db.savePayment (intent env input).toPersistence env.booking.now) := by
  unfold execute isFirstChargeToMerchant
  cases truthy input.delegationId with
  | none => exact ⟨none, rfl, rfl⟩
  | some delegationId => exact ⟨_, rfl, rfl⟩

end PaymentCheckoutSaga

end OmniSwitch
