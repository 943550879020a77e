import OmniSwitch.Adapters
import OmniSwitch.Services.Booking
import OmniSwitch.Settlement

/-!
# Settling a pending charge

A payment that is `PROCESSING`, `REQUIRES_ACTION` or `AMBIGUOUS` is settled later: by the PSP's
success notification, by an operator, or by the sweep that asks the PSP for its record.  Two
questions are answered here.  Whether a success can still be booked then, when the merchant's
configuration and the recipients of the splits have changed since the charge was requested; and
whether the sweep's verdict agrees with the record it looked up, whose status both adapters reduce
to succeeded or failed.

Main results:

* `success_booked_iff`: when a success can be booked;
* `autoResolve_sound_iff`: when the verdict of the sweep agrees with the record;
* `success_unbookable`, `unfinished_record_resolved`: cases of the contrary.
-/

namespace OmniSwitch

open Lib Prog ChargeLedgerParamsResolver WebhookProcessing AmbiguousPayment

/-! ### Rows and events of one payment -/

variable {db : Db} {p : PaymentAggregate} {id : String}

namespace Db

/-- The charges that are booked for a payment. -/
def chargeEvents (db : Db) (id : String) : List LedgerOutboxEvent :=
  db.ledgerOutbox.filter fun event => event.paymentId = id ∧ event.eventType = .PAYMENT_CHARGED

lemma status_savePayment (db : Db) (p : PaymentAggregate) (now : Date) :
    (db.savePayment p.toPersistence now).status p.id = some p.status := by
  obtain ⟨row, hrow, -, hstatus, -⟩ := db.row_savePayment p now
  unfold status
  rw [hrow, Option.map_some, hstatus]

end Db

/-! ### Processing a success -/

/-- The payment is saved as succeeded, with a charge of its amount in the ledger. -/
def Charged (p : PaymentAggregate) (db db' : Db) : Prop :=
  ∃ p' event hold now, p.SameRecords p' ∧ p'.status = .SUCCEEDED ∧ event.Charges p.id p.amount ∧
    db' = db.commit p'.toPersistence event hold now

lemma Charged.status {db' : Db} (h : Charged p db db') :
    db'.status p.id = some .SUCCEEDED := by
  obtain ⟨p', event, hold, now, hsame, hstatus, -, rfl⟩ := h
  rw [← hsame.id, ← hstatus]
  exact db.status_savePayment p' now

lemma Charged.chargeEvents {db' : Db} (h : Charged p db db') :
    ∃ event, event.Charges p.id p.amount ∧
      db'.chargeEvents p.id = db.chargeEvents p.id ++ [event] := by
  obtain ⟨p', event, hold, now, -, -, hcharges, rfl⟩ := h
  refine ⟨event, hcharges, ?_⟩
  unfold Db.chargeEvents
  simp [Db.commit, List.filter_append, hcharges.paymentId, hcharges.eventType]

/-- The charge fits into the merchant's configuration as it is now.

Source: `charge-ledger-params-resolver.service.ts` `resolve` -/
abbrev PaymentAggregate.FitsNow (p : PaymentAggregate) (env : BookingEnv) : Prop :=
  Fits env.charge p.merchantId p.amount p.requestedSplits

/-- How the booking of a success ends: in an error that changes nothing, or with the charge, if it
fits. -/
def BooksIfFits (p : PaymentAggregate) (env : BookingEnv) (db : Db)
    (result : Db × Except AppError Unit) : Prop :=
  ¬ p.FitsNow env ∧ (∃ e, result = (db, .error e)) ∨
    p.FitsNow env ∧ ∃ db', result = (db', .ok ()) ∧ Charged p db db'

section success

variable {p succeeded : PaymentAggregate}

lemma WebhookProcessing.confirm_of_pending
    (h : p.status = .PROCESSING ∨ p.status = .REQUIRES_ACTION) (txId raw : String) :
    ∃ succeeded, confirm p txId raw = .ok succeeded ∧ p.SameRecords succeeded ∧
      succeeded.splits = p.splits ∧ succeeded.status = .SUCCEEDED := by
  unfold confirm PaymentAggregate.markSucceeded PaymentAggregate.completeThreeDS
  rcases h with h | h
  · rw [if_neg (by simp [h]),
      PaymentAggregate.transition_of_isValidTransition (by rw [h]; rfl)]
    exact ⟨_, rfl, ⟨rfl, rfl, rfl, rfl, rfl⟩, rfl, rfl⟩
  · rw [if_pos h, PaymentAggregate.transition_of_isValidTransition (by rw [h]; rfl)]
    exact ⟨_, rfl, ⟨rfl, rfl, rfl, rfl, rfl⟩, rfl, rfl⟩

/-- The tail of every path: a pending payment that has been marked as succeeded is booked. -/
lemma run_bookSucceeded_discard (hsame : p.SameRecords succeeded)
    (hsplits : succeeded.splits = p.splits) (hstatus : succeeded.status = .SUCCEEDED)
    (env : BookingEnv) (db : Db) :
    BooksIfFits p env db (((do let _ ← bookSucceeded env succeeded) : App Unit).run db) := by
  have hfits : succeeded.FitsNow env ↔ p.FitsNow env := by
    unfold PaymentAggregate.FitsNow PaymentAggregate.requestedSplits
    rw [hsame.merchantId, hsame.amount, hsplits]
  unfold BooksIfFits
  rw [run_discard, ← hfits, PaymentAggregate.FitsNow, ← exists_resolve_iff, bookSucceeded,
    run_liftM_bind]
  cases hresolve : resolve env.charge succeeded.merchantId succeeded.amount
    succeeded.requestedSplits with
  | error e => exact .inl ⟨by simp, e, rfl⟩
  | ok params =>
    obtain ⟨booked, event, hold, hrun, hbooked, hbookedStatus, hcharges⟩ :=
      run_bookCharge hresolve db
    rw [hsame.id, hsame.amount] at hcharges
    dsimp only
    rw [hrun]
    exact .inr ⟨⟨params, rfl⟩, _, rfl, booked, event, hold, env.now, hsame.trans hbooked,
      hbookedStatus.trans hstatus, hcharges, rfl⟩

/-- The success webhook: it books the payment it finds if that is pending and fits, and changes
nothing otherwise. -/
lemma WebhookProcessing.run_markSucceeded (env : WebhookEnv) {txId : String} (raw : String)
    (hfind : db.findByPspTransactionId txId = .ok (some p)) :
    ¬ (p.status = .PROCESSING ∨ p.status = .REQUIRES_ACTION) ∧
        (markSucceeded env txId raw).run db = (db, .ok ()) ∨
      (p.status = .PROCESSING ∨ p.status = .REQUIRES_ACTION) ∧
        BooksIfFits p env.booking db ((markSucceeded env txId raw).run db) := by
  unfold markSucceeded
  rw [run_findByPspTransactionId_bind, hfind]
  dsimp only
  by_cases hpending : p.status = .PROCESSING ∨ p.status = .REQUIRES_ACTION
  · refine .inr ⟨hpending, ?_⟩
    have hne : p.status ≠ .SUCCEEDED := by
      rcases hpending with h | h <;> simp [h]
    have hnot : ¬ (p.status ≠ .PROCESSING ∧ p.status ≠ .REQUIRES_ACTION) := by tauto
    obtain ⟨succeeded, hconfirm, hsame, hsplits, hstatus⟩ := confirm_of_pending hpending txId raw
    rw [if_neg hne, if_neg hnot, run_liftM_bind, hconfirm]
    exact run_bookSucceeded_discard hsame hsplits hstatus env.booking db
  · refine .inl ⟨hpending, ?_⟩
    have hnot : p.status ≠ .PROCESSING ∧ p.status ≠ .REQUIRES_ACTION := by tauto
    rw [if_pos hnot]
    split_ifs <;> rfl

lemma AmbiguousPayment.run_applyOutcome_succeeded (hstatus : p.status = .AMBIGUOUS)
    (env : BookingEnv) (outcome : PspQueryOutcomeResult) {txId : String}
    (houtcome : outcome.outcome = .SUCCEEDED) (htx : truthy outcome.pspTransactionId = some txId)
    (db : Db) : BooksIfFits p env db ((applyOutcome env p outcome).run db) := by
  unfold applyOutcome PaymentAggregate.markSucceeded
  rw [houtcome, htx]
  dsimp only
  rw [PaymentAggregate.transition_of_isValidTransition (by rw [hstatus]; rfl), run_liftM_bind]
  refine run_bookSucceeded_discard ?_ ?_ ?_ env db
  · exact ⟨rfl, rfl, rfl, rfl, rfl⟩
  · rfl
  · rfl

lemma AmbiguousPayment.run_getOwnedAmbiguous_bind {α : Type} (hp : db.Holds p)
    (f : PaymentAggregate → App α) :
    (getOwnedAmbiguous p.id >>= f).run db = if p.status = .AMBIGUOUS then (f p).run db
      else (db, .error (.http 409 (s!"Payment {p.id} is {p.status} rather than AMBIGUOUS — " ++
        "nothing to resolve") "PAYMENT_NOT_AMBIGUOUS")) := by
  unfold getOwnedAmbiguous
  rw [Prog.bind_assoc, run_findByIdOnMaster_bind, Db.findById_of_holds hp]
  dsimp only
  by_cases h : p.status = .AMBIGUOUS
  · rw [if_neg (not_not.2 h), if_pos h]
    rfl
  · rw [if_pos h, if_neg h]
    rfl

lemma AmbiguousPayment.run_autoResolveOne_of_ne (hp : db.Holds p)
    (hstatus : p.status ≠ .AMBIGUOUS) (env : AutoResolveEnv) :
    (autoResolveOne env p.id).run db = (db, .ok ()) := by
  unfold autoResolveOne
  rw [run_findByIdOnMaster_bind, Db.findById_of_holds hp]
  dsimp only
  rw [if_pos hstatus]
  rfl

/-- The sweep asks only for a payment that is ambiguous and whose provider has an adapter. -/
lemma AmbiguousPayment.run_autoResolveOne (hp : db.Holds p) (hstatus : p.status = .AMBIGUOUS)
    (env : AutoResolveEnv) :
    (autoResolveOne env p.id).run db = match p.pspProvider.toOption with
      | none => (db, .ok ())
      | some provider => match getAdapter provider with
        | .error e => (db, .error e)
        | .ok _ => match env.answer with
          | .error e => (db, .error e)
          | .ok outcome => (applyOutcome env.booking p outcome).run db := by
  unfold autoResolveOne
  rw [run_findByIdOnMaster_bind, Db.findById_of_holds hp]
  dsimp only
  rw [if_neg (not_not.2 hstatus)]
  cases p.pspProvider.toOption with
  | none => rfl
  | some provider =>
    dsimp only
    rw [run_liftM_bind]
    cases getAdapter provider with
    | error e => rfl
    | ok adapter =>
      change ((liftM env.answer : App _) >>= _).run db = _
      rw [run_liftM_bind]
      cases env.answer <;> rfl

end success

/-! ### Whether a success can be booked -/

/-- The ways a PSP's success reaches a pending payment: its notification, an operator's resolution,
and the sweep's lookup.

Source: `WebhookProcessingService.markSucceeded`; `AmbiguousPaymentService.resolve`,
`AmbiguousPaymentService.autoResolveOne` -/
inductive SuccessPath where
  | webhook (env : WebhookEnv) (pspTransactionId raw : String)
  | resolve (env : BookingEnv) (pspTransactionId : Option String) (reason resolvedBy : String)
  | autoResolve (env : BookingEnv) (pspTransactionId : Option String)

namespace SuccessPath

/-- The processing of a success for the payment `id`. -/
def program (id : String) : SuccessPath → App Unit
  | webhook env txId raw => markSucceeded env txId raw
  | resolve env txId reason resolvedBy =>
    AmbiguousPayment.resolve env ⟨id, .SUCCEEDED, txId, reason, resolvedBy⟩
  | autoResolve env txId =>
    autoResolveOne ⟨.ok { outcome := .SUCCEEDED, pspTransactionId := txId }, env⟩
      id

/-- What the path finds of the merchants. -/
def booking : SuccessPath → BookingEnv
  | webhook env _ _ => env.booking
  | resolve env _ _ _ => env
  | autoResolve env _ => env

/-- The success gets to the payment: a notification finds it under its transaction id and not yet
ambiguous, a resolution finds it ambiguous and comes with a transaction id. -/
def Reaches (p : PaymentAggregate) (db : Db) : SuccessPath → Prop
  | webhook _ txId _ => p.status ≠ .AMBIGUOUS ∧ db.findByPspTransactionId txId = .ok (some p)
  | resolve _ txId _ _ => p.status = .AMBIGUOUS ∧ (truthy txId).isSome
  | autoResolve _ txId => p.status = .AMBIGUOUS ∧ (truthy txId).isSome ∧
      ∃ provider, p.pspProvider.toOption = some provider ∧ getAdapter provider = .ok provider

/-- The success was processed without an error: the payment is `SUCCEEDED`, and one charge of its
full amount is booked. -/
def BookedOnce (path : SuccessPath) (p : PaymentAggregate) (db : Db) : Prop :=
  ((path.program p.id).run db).2 = .ok () ∧
    ((path.program p.id).run db).1.status p.id = some .SUCCEEDED ∧
    ∃ event, ((path.program p.id).run db).1.chargeEvents p.id = [event] ∧
      event.Charges p.id p.amount

section

variable {p : PaymentAggregate} {db : Db} {path : SuccessPath}

/-- A path books the success exactly if it gets to the payment and the charge fits, given what it
does where it gets to the payment and where it does not. -/
lemma bookedOnce_iff (hpending : Pending p) (hnone : db.chargeEvents p.id = [])
    (hreached : path.Reaches p db → BooksIfFits p path.booking db ((path.program p.id).run db))
    (hmissed : ¬ path.Reaches p db →
      ((path.program p.id).run db).1.status p.id = some p.status) :
    path.BookedOnce p db ↔ path.Reaches p db ∧ p.FitsNow path.booking := by
  by_cases hreaches : path.Reaches p db
  · rcases hreached hreaches with ⟨hfit, e, hrun⟩ | ⟨hfit, db', hrun, hcharged⟩
    · refine iff_of_false ?_ fun h => hfit h.2
      rintro ⟨hok, -⟩
      rw [hrun] at hok
      exact (nomatch hok)
    · obtain ⟨event, hevent, hevents⟩ := hcharged.chargeEvents
      refine iff_of_true ?_ ⟨hreaches, hfit⟩
      unfold BookedOnce
      rw [hrun]
      exact ⟨rfl, hcharged.status, event, by rw [hevents, hnone]; rfl, hevent⟩
  · refine iff_of_false ?_ fun h => hreaches h.1
    rintro ⟨-, hsucceeded, -⟩
    have heq := Option.some.inj ((hmissed hreaches).symm.trans hsucceeded)
    rcases hpending with h | h | h <;> simp [h] at heq

lemma status_markSucceeded_of_ne (hp : db.Holds p) (env : WebhookEnv)
    {txId : String} (raw : String) (hfind : db.findByPspTransactionId txId ≠ .ok (some p)) :
    ((markSucceeded env txId raw).run db).1.status p.id = some p.status := by
  have hstatus := Db.status_of_holds hp
  cases hq : db.findByPspTransactionId txId with
  | error e =>
    unfold markSucceeded
    rw [run_findByPspTransactionId_bind, hq]
    exact hstatus
  | ok q? =>
    cases q? with
    | none =>
      unfold markSucceeded
      rw [run_findByPspTransactionId_bind, hq]
      exact hstatus
    | some q =>
      have hne : p.id ≠ q.id := fun heq => hfind
        ((hp.unique (Db.holds_of_findByPspTransactionId hq) heq) ▸ hq)
      rcases run_markSucceeded env raw hq with
        ⟨-, hrun⟩ | ⟨-, ⟨-, e, hrun⟩ | ⟨-, db', hrun, hcharged⟩⟩
      · rw [hrun]
        exact hstatus
      · rw [hrun]
        exact hstatus
      · rw [hrun]
        obtain ⟨q', event, hold, now, hsame, -, -, rfl⟩ := hcharged
        refine Eq.trans (congrArg (Option.map PaymentRow.status) ?_) hstatus
        exact db.get_savePayment_of_ne q'.toPersistence now fun h => hne (h.trans hsame.id)

/-- When a notified success is booked. -/
lemma webhook_bookedOnce_iff (hp : db.Holds p) (hpending : Pending p)
    (hnone : db.chargeEvents p.id = []) (env : WebhookEnv) (txId raw : String) :
    (webhook env txId raw).BookedOnce p db ↔
      (webhook env txId raw).Reaches p db ∧ p.FitsNow env.booking := by
  refine bookedOnce_iff hpending hnone (fun ⟨hne, hfind⟩ => ?_) fun hmissed => ?_
  · rcases run_markSucceeded env raw hfind with ⟨hnot, -⟩ | ⟨-, hbooks⟩
    · exact absurd (hpending.imp_right fun h => h.resolve_right hne) hnot
    · exact hbooks
  · by_cases hfind : db.findByPspTransactionId txId = .ok (some p)
    · rcases run_markSucceeded env raw hfind with ⟨-, hrun⟩ | ⟨hstatus, -⟩
      · change ((markSucceeded env txId raw).run db).1.status p.id = _
        rw [hrun]
        exact Db.status_of_holds hp
      · refine absurd ⟨?_, hfind⟩ hmissed
        rcases hstatus with h | h <;> simp [h]
    · exact status_markSucceeded_of_ne hp env raw hfind

/-- When an operator's is. -/
lemma resolve_bookedOnce_iff (hp : db.Holds p) (hpending : Pending p)
    (hnone : db.chargeEvents p.id = []) (env : BookingEnv) (txId : Option String)
    (reason resolvedBy : String) :
    (resolve env txId reason resolvedBy).BookedOnce p db ↔
      (resolve env txId reason resolvedBy).Reaches p db ∧ p.FitsNow env := by
  refine bookedOnce_iff hpending hnone (fun ⟨hambiguous, hsome⟩ => ?_) fun hmissed => ?_
  · obtain ⟨id, htx⟩ := Option.isSome_iff_exists.1 hsome
    change BooksIfFits p env db ((AmbiguousPayment.resolve env _).run db)
    unfold AmbiguousPayment.resolve
    rw [run_getOwnedAmbiguous_bind hp, if_pos hambiguous]
    dsimp only
    rw [htx]
    dsimp only [PaymentAggregate.markSucceeded]
    rw [PaymentAggregate.transition_of_isValidTransition (by rw [hambiguous]; rfl), run_liftM_bind]
    refine run_bookSucceeded_discard ?_ ?_ ?_ env db
    · exact ⟨rfl, rfl, rfl, rfl, rfl⟩
    · rfl
    · rfl
  · change ((AmbiguousPayment.resolve env _).run db).1.status p.id = _
    unfold AmbiguousPayment.resolve
    rw [run_getOwnedAmbiguous_bind hp]
    split_ifs with hambiguous
    · cases htx : truthy txId with
      | none => exact Db.status_of_holds hp
      | some id => exact absurd ⟨hambiguous, by rw [htx]; rfl⟩ hmissed
    · exact Db.status_of_holds hp

/-- When the sweep's is. -/
lemma autoResolve_bookedOnce_iff (hp : db.Holds p) (hpending : Pending p)
    (hnone : db.chargeEvents p.id = []) (env : BookingEnv) (txId : Option String) :
    (autoResolve env txId).BookedOnce p db ↔
      (autoResolve env txId).Reaches p db ∧ p.FitsNow env := by
  have hkept := Db.status_of_holds hp
  refine bookedOnce_iff hpending hnone
    (fun ⟨hambiguous, hsome, provider, hprovider, hadapter⟩ => ?_)
    fun hmissed => ?_ <;> dsimp only [program]
  · obtain ⟨id, htx⟩ := Option.isSome_iff_exists.1 hsome
    rw [run_autoResolveOne hp hambiguous, hprovider]
    simp only [hadapter]
    exact run_applyOutcome_succeeded hambiguous env _ rfl htx db
  · by_cases hambiguous : p.status = .AMBIGUOUS
    · rw [run_autoResolveOne hp hambiguous]
      cases hprovider : p.pspProvider.toOption with
      | none => exact hkept
      | some provider =>
        cases hadapter : getAdapter provider with
        | error e => simpa only [hadapter] using hkept
        | ok adapter =>
          simp only [hadapter]
          unfold applyOutcome
          cases htx : truthy txId with
          | none => exact db.status_savePayment p.incrementAmbiguousAutoRetryCount env.now
          | some id =>
            refine absurd ⟨hambiguous, by rw [htx]; rfl, provider, hprovider, ?_⟩ hmissed
            cases provider <;> first | rfl | exact (nomatch hadapter)
    · rw [run_autoResolveOne_of_ne hp hambiguous]
      exact hkept

end

end SuccessPath

/-- **When a success can be booked**: exactly if it gets to the payment, every recipient of its
splits still is a connected account of the merchant, and the fee, the reserve and the splits are
within the amount. -/
theorem success_booked_iff (db : Db) (p : PaymentAggregate) (path : SuccessPath)
    (requestEnv : ChargeEnv) (hp : db.Holds p) (hpending : Pending p)
    (hnone : db.chargeEvents p.id = [])
    (haccepted : (resolve requestEnv p.merchantId p.amount
      p.requestedSplits).toBool) :
    path.BookedOnce p db ↔ path.Reaches p db ∧
      (∀ split ∈ p.requestedSplits, isActiveRecipient
        path.booking.charge p.merchantId split.merchantId) ∧
      (feeOf path.booking.charge p.merchantId p.amount).amountMinorUnits +
        (reserveOf path.booking.charge p.merchantId
          p.amount).amountMinorUnits +
        requestedTotal p.requestedSplits ≤ p.amount.amountMinorUnits := by
  have hcurrencies : ∀ split ∈ p.requestedSplits, split.amount.currency = p.amount.currency := by
    cases hresolve : resolve requestEnv p.merchantId p.amount
        p.requestedSplits with
    | error e =>
      rw [hresolve] at haccepted
      exact (nomatch haccepted)
    | ok params => exact (resolve_eq_ok.1 hresolve).1.currencies
  have hfits : p.FitsNow path.booking ↔ (∀ split ∈ p.requestedSplits,
      isActiveRecipient path.booking.charge p.merchantId
        split.merchantId) ∧ _ :=
    ⟨fun h => ⟨h.recipients, h.within⟩, fun h => ⟨h.1, hcurrencies, h.2⟩⟩
  rw [← hfits]
  cases path with
  | webhook env txId raw => exact SuccessPath.webhook_bookedOnce_iff hp hpending hnone env txId raw
  | resolve env txId reason resolvedBy =>
    exact SuccessPath.resolve_bookedOnce_iff hp hpending hnone env txId reason resolvedBy
  | autoResolve env txId => exact SuccessPath.autoResolve_bookedOnce_iff hp hpending hnone env txId

namespace Sample

/-- A connected account of the merchant, while it is active. -/
def recipient : Merchant where
  merchantId := "recipient-1"
  accountType := .CONNECTED
  platformMerchantId := some "merchant-1"
  payoutReserveBps_le := noReserve_le

/-- A booking that finds `merchants` in the directory. -/
def bookingWith (eventId : String) (merchants : List Merchant) : BookingEnv :=
  { booking eventId with
    charge := ⟨fun id => merchants.find? (·.merchantId = id), 0, fun _ _ => none, Money.convertTo⟩ }

/-- Eight of the ten dollars go to the recipient. -/
def splitInput : PaymentCheckoutSaga.CheckoutSagaInput :=
  { input with splits := [⟨"recipient-1", ⟨800, usd⟩⟩] }

/-- The charge of a split payment was challenged. -/
def challengedDb : Db :=
  ((PaymentCheckoutSaga.execute { answered .REQUIRES_ACTION with
    booking := bookingWith "event-1" [recipient] } splitInput).run Db.empty).1

/-- The PSP's notification that the challenge was met. -/
def challengeMet (merchants : List Merchant) : SuccessPath :=
  .webhook { webhookEnv "event-2" with booking := bookingWith "event-2" merchants } "tx-1" ""

/-- The merchant under review, with everything withheld. -/
def reviewed : Merchant where
  merchantId := "merchant-1"
  reserveBps := 10000
  payoutReserveBps_le := noReserve_le

end Sample

open Sample in
/-- The recipient is still active when the challenge is met. -/
theorem success_booked_challenged :
    ∃ p, challengedDb.Holds p ∧ (challengeMet [recipient]).BookedOnce p challengedDb := by
  obtain ⟨p, hfind, hprops⟩ : ∃ p, challengedDb.findByPspTransactionId "tx-1" = .ok (some p) ∧
      (p.id = "payment-1" ∧ p.status = .REQUIRES_ACTION ∧ p.amount = tenDollars ∧
        p.merchantId = "merchant-1" ∧ p.requestedSplits = splitInput.splits : Bool) :=
    Db.exists_of_any (by decide +kernel)
  obtain ⟨hid, hstatus, hamount, hmerchant, hsplits⟩ := of_decide_eq_true hprops
  have hp := Db.holds_of_findByPspTransactionId hfind
  refine ⟨p, hp, (success_booked_iff challengedDb p _ (bookingWith "event-1" [recipient]).charge hp
    (.inr (.inl hstatus)) ?_ ?_).2 ⟨⟨by simp [hstatus], hfind⟩, ?_, ?_⟩⟩
  · rw [hid]
    decide +kernel
  · rw [hmerchant, hamount, hsplits]
    decide +kernel
  · rw [hmerchant, hsplits]
    decide +kernel
  · rw [hmerchant, hamount, hsplits]
    decide +kernel

open Sample in
/-- The charge of a split payment is accepted and challenged.  Then the recipient is deactivated,
or the merchant's reserve is raised to everything: the PSP's success ends in an error, and the
payment that the customer has paid stays `REQUIRES_ACTION` with nothing booked. -/
theorem success_unbookable :
    challengedDb.status "payment-1" = some .REQUIRES_ACTION ∧
    ∀ merchants ∈ [[], [recipient, reviewed]],
      (((challengeMet merchants).program "payment-1").run challengedDb).2.toBool = false ∧
      (((challengeMet merchants).program "payment-1").run challengedDb).1.status "payment-1" =
        some .REQUIRES_ACTION ∧
      (((challengeMet merchants).program "payment-1").run challengedDb).1.chargeEvents
        "payment-1" = [] := by
  decide +kernel

/-! ### What the PSP has on record -/

/-- What the PSP's record of a charge amounts to. -/
inductive RecordKind where
  /-- The PSP knows of no charge under the key. -/
  | notFound
  /-- Refused, failed or cancelled: there is no charge, and there will be none. -/
  | refused
  | inProgress
  /-- Authorised, but not captured. -/
  | authorised
  | captured
  deriving DecidableEq, Repr

/-- What a record of Stripe says. -/
def StripeIntentStatus.kind : StripeIntentStatus → RecordKind
  | requires_payment_method | canceled => .refused
  | requires_confirmation | requires_action | processing => .inProgress
  | requires_capture => .authorised
  | succeeded => .captured

/-- What Adyen holds: its answer to the charge, and whether an authorisation has been captured
since, which the answer does not tell. -/
structure AdyenRecord where
  payment : AdyenPayment
  isCaptured : Bool

/-- What a record of Adyen says. -/
def AdyenRecord.kind (record : AdyenRecord) : RecordKind :=
  match record.payment.resultCode with
  | .Authorised => if record.isCaptured then .captured else .authorised
  | .Refused | .Error | .Cancelled => .refused
  | _ => .inProgress

/-- What the two PSPs hold under the idempotency key of a payment. -/
structure PspRecords where
  stripe : Option StripePaymentIntent := none
  adyen : Option AdyenRecord := none

/-- What becomes of the lookup: the breaker's answers, and the exchange without its body. -/
structure LookupEnv where
  breaker : Breaker := {}
  exchange : Exchange Unit := .answered () (.ok ())

/-- The exchange, with a body. -/
def Exchange.carrying {R : Type} (body : R) : Exchange Unit → Exchange R
  | noResponse reason => noResponse reason
  | answered _ json => answered body json
  | rejected statusCode message json => rejected statusCode message json

namespace PspRecords

/-- The record at the provider that the payment is on record with. -/
def kind (records : PspRecords) : Option PSPProvider → RecordKind
  | some .STRIPE => records.stripe.elim .notFound fun intent => intent.status.kind
  | some .ADYEN => records.adyen.elim .notFound AdyenRecord.kind
  | _ => .notFound

/-- What the adapter makes of the lookup.  No other provider has an adapter to ask.

Source: `StripePSPAdapter.queryOutcome`; `AdyenPSPAdapter.queryOutcome` -/
def queryOutcome (records : PspRecords) (env : LookupEnv) :
    Option PSPProvider → Except AppError PspQueryOutcomeResult
  | some .STRIPE =>
    StripeAdapter.queryOutcome env.breaker (env.exchange.carrying records.stripe)
  | some .ADYEN => AdyenAdapter.queryOutcome env.breaker
      (env.exchange.carrying (records.adyen.map AdyenRecord.payment))
  | _ => .ok { outcome := .STILL_UNKNOWN }

end PspRecords

/-- The lookup's answer arrives and is counted: 2xx, readable, and the breaker takes part. -/
def LookupEnv.Answered (env : LookupEnv) : Prop :=
  env.breaker.assertAvailable = .ok () ∧ env.exchange = .answered () (.ok ()) ∧
    env.breaker.recordSuccess = .ok ()

/-- The sweep's verdict on a payment agrees with the PSP's record: it is `FAILED` only if the
record is a final refusal, and something is booked only if the record is a captured charge. -/
def SoundlyResolved (kind : RecordKind) (id : String) (db db' : Db) : Prop :=
  (db'.status id = some .FAILED → kind = .refused) ∧
    (db'.ledgerOutbox ≠ db.ledgerOutbox → kind = .captured)

section sweep

variable {p : PaymentAggregate} {db : Db}

lemma LookupEnv.call_eq_ok {R α : Type} {env : LookupEnv} {name : String} {body : R}
    {respond : R → α} {a : α} :
    PspAdapter.call name env.breaker true (env.exchange.carrying body) respond = .ok a ↔
      env.Answered ∧ a = respond body := by
  rw [PspAdapter.call_eq_ok]
  unfold Answered
  cases env.exchange with
  | noResponse reason | rejected statusCode message json => simp [Exchange.carrying]
  | answered _ json =>
    simp only [Exchange.carrying, Exchange.answered.injEq, forall_true_left]
    constructor
    · rintro ⟨hassert, b, ⟨rfl, rfl⟩, hrecord, rfl⟩
      exact ⟨⟨hassert, ⟨trivial, rfl⟩, hrecord⟩, rfl⟩
    · rintro ⟨⟨hassert, ⟨-, rfl⟩, hrecord⟩, rfl⟩
      exact ⟨hassert, body, ⟨rfl, rfl⟩, hrecord, rfl⟩

variable (hstatus : p.status = .AMBIGUOUS)
include hstatus

/-- A run that changes neither the status nor the ledger is sound whatever the record. -/
lemma soundlyResolved_of_kept {db' : Db}
    (hkept : db'.status p.id = some p.status) (hledger : db'.ledgerOutbox = db.ledgerOutbox)
    (kind : RecordKind) : SoundlyResolved kind p.id db db' := by
  refine ⟨fun h => ?_, fun h => absurd hledger h⟩
  rw [hkept, hstatus] at h
  simp at h

lemma applyOutcome_failed_sound_iff (env : BookingEnv) {outcome : PspQueryOutcomeResult}
    (houtcome : outcome.outcome = .FAILED) (kind : RecordKind) :
    SoundlyResolved kind p.id db ((applyOutcome env p outcome).run db).1 ↔
      kind = .refused := by
  unfold applyOutcome PaymentAggregate.markFailed
  rw [houtcome]
  dsimp only
  rw [PaymentAggregate.transition_of_isValidTransition (by rw [hstatus]; rfl), run_liftM_bind]
  refine ⟨fun h => h.1 (db.status_savePayment _ env.now), ?_⟩
  rintro rfl
  exact ⟨fun _ => rfl, fun h => absurd rfl h⟩

lemma applyOutcome_unknown_sound (env : BookingEnv) (kind : RecordKind) :
    SoundlyResolved kind p.id db ((applyOutcome env p
      { outcome := .STILL_UNKNOWN }).run db).1 :=
  have hsaved := db.status_savePayment p.incrementAmbiguousAutoRetryCount env.now
  soundlyResolved_of_kept hstatus hsaved rfl kind

variable (hp : db.Holds p)
include hp

/-- A success is sound if the record is a captured charge, or nothing comes of it: it has no
transaction id, or the charge cannot be booked. -/
lemma applyOutcome_succeeded_sound_iff (env : BookingEnv) (txId : String) (kind : RecordKind) :
    SoundlyResolved kind p.id db ((applyOutcome env p
        { outcome := .SUCCEEDED, pspTransactionId := some txId }).run db).1 ↔
      kind = .captured ∨ txId = "" ∨ ¬ p.FitsNow env := by
  by_cases hempty : txId = ""
  · subst hempty
    refine ⟨fun _ => .inr (.inl rfl), fun _ => ?_⟩
    have hsaved := db.status_savePayment p.incrementAmbiguousAutoRetryCount env.now
    exact soundlyResolved_of_kept hstatus hsaved rfl kind
  · have htx : truthy (some txId) = some txId := by simp [truthy, hempty]
    rcases run_applyOutcome_succeeded hstatus env
        { outcome := .SUCCEEDED, pspTransactionId := some txId } rfl htx db with
      ⟨hfit, e, hrun⟩ | ⟨hfit, db', hrun, hcharged⟩
    · rw [hrun]
      exact ⟨fun _ => .inr (.inr hfit),
        fun _ => soundlyResolved_of_kept hstatus (Db.status_of_holds hp) rfl kind⟩
    · rw [hrun]
      constructor
      · refine fun h => .inl (h.2 ?_)
        obtain ⟨_, _, _, _, -, -, -, rfl⟩ := hcharged
        exact fun heq => absurd (congrArg List.length heq) (by simp [Db.commit])
      · rintro (rfl | h | h)
        · refine ⟨fun h => ?_, fun _ => rfl⟩
          rw [hcharged.status] at h
          simp at h
        · exact absurd h hempty
        · exact absurd hfit h

lemma sound_iff_answered (lookup : LookupEnv) (booking : BookingEnv) (name : String) {R : Type}
    (body : R) (respond : R → PspQueryOutcomeResult) (kind : RecordKind) :
    SoundlyResolved kind p.id db
        (match PspAdapter.call name lookup.breaker true (lookup.exchange.carrying body) respond with
          | .error e => ((db, .error e) : Db × Except AppError Unit)
          | .ok outcome => (applyOutcome booking p outcome).run db).1 ↔
      (lookup.Answered → SoundlyResolved kind p.id db
        ((applyOutcome booking p (respond body)).run db).1) := by
  cases hcall : PspAdapter.call name lookup.breaker true (lookup.exchange.carrying body)
      respond with
  | error e =>
    refine ⟨fun _ hanswered => ?_, fun _ => soundlyResolved_of_kept hstatus
      (Db.status_of_holds hp) rfl kind⟩
    exact (nomatch hcall.symm.trans (LookupEnv.call_eq_ok.2 ⟨hanswered, rfl⟩))
  | ok outcome =>
    obtain ⟨hanswered, rfl⟩ := LookupEnv.call_eq_ok.1 hcall
    exact ⟨fun h _ => h, fun h => h hanswered⟩

/-- When a verdict on Stripe's record is sound. -/
lemma stripe_sound_iff (env : BookingEnv) (record : Option StripePaymentIntent) :
    SoundlyResolved (record.elim .notFound fun intent => intent.status.kind) p.id db
        ((applyOutcome env p (StripeAdapter.outcomeResponse record)).run db).1 ↔
      (record.elim .notFound fun intent => intent.status.kind) ≠ .inProgress ∧
        (record.elim .notFound fun intent => intent.status.kind) ≠ .authorised := by
  cases record with
  | none => exact ⟨fun _ => ⟨nofun, nofun⟩, fun _ => applyOutcome_unknown_sound hstatus env _⟩
  | some intent =>
    simp only [Option.elim_some, StripeAdapter.outcomeResponse]
    split_ifs with hsucceeded
    · rw [applyOutcome_succeeded_sound_iff hstatus hp, hsucceeded]
      exact ⟨fun _ => ⟨nofun, nofun⟩, fun _ => .inl rfl⟩
    · rw [applyOutcome_failed_sound_iff hstatus env rfl]
      cases hkind : intent.status <;> simp [hkind, StripeIntentStatus.kind] at hsucceeded ⊢

/-- When one on Adyen's is. -/
lemma adyen_sound_iff (env : BookingEnv) (record : Option AdyenRecord) :
    SoundlyResolved (record.elim .notFound AdyenRecord.kind) p.id db
        ((applyOutcome env p
          (AdyenAdapter.outcomeResponse (record.map AdyenRecord.payment))).run db).1 ↔
      record.elim .notFound AdyenRecord.kind ≠ .inProgress ∧
        (record.elim .notFound AdyenRecord.kind = .authorised → ∃ r, record = some r ∧
          (r.payment.pspReference = "" ∨ ¬ p.FitsNow env)) := by
  cases record with
  | none => exact ⟨fun _ => ⟨nofun, nofun⟩, fun _ => applyOutcome_unknown_sound hstatus env _⟩
  | some r =>
    simp only [Option.elim_some, Option.map_some, AdyenAdapter.outcomeResponse,
      Option.some.injEq, exists_eq_left']
    split_ifs with hauthorised
    · rw [applyOutcome_succeeded_sound_iff hstatus hp]
      cases hcaptured : r.isCaptured <;> simp [AdyenRecord.kind, hauthorised, hcaptured]
    · rw [applyOutcome_failed_sound_iff hstatus env rfl]
      cases hkind : r.payment.resultCode <;> simp [hkind, AdyenRecord.kind] at hauthorised ⊢

end sweep

/-- **When the sweep is sound**: exactly if no lookup is answered whose record is still in progress,
or an authorisation that was not captured, except for one at Adyen that cannot be booked. -/
theorem autoResolve_sound_iff (db : Db) (p : PaymentAggregate) (records : PspRecords)
    (lookup : LookupEnv) (booking : BookingEnv) (hp : db.Holds p)
    (hstatus : p.status = .AMBIGUOUS) :
    SoundlyResolved (records.kind p.pspProvider.toOption) p.id db
        ((autoResolveOne
          ⟨records.queryOutcome lookup p.pspProvider.toOption, booking⟩ p.id).run db).1 ↔
      (lookup.Answered → records.kind p.pspProvider.toOption ≠ .inProgress ∧
        (records.kind p.pspProvider.toOption = .authorised → ∃ record,
          p.pspProvider.toOption = some .ADYEN ∧ records.adyen = some record ∧
            (record.payment.pspReference = "" ∨ ¬ p.FitsNow booking))) := by
  have hkept : ∀ kind, SoundlyResolved kind p.id db db :=
    soundlyResolved_of_kept hstatus (Db.status_of_holds hp) rfl
  rw [run_autoResolveOne hp hstatus]
  cases hprovider : p.pspProvider.toOption with
  | none => exact ⟨fun _ _ => ⟨nofun, nofun⟩, fun _ => hkept _⟩
  | some provider =>
    cases provider with
    | PAYPAL | CHASE => exact ⟨fun _ _ => ⟨nofun, nofun⟩, fun _ => hkept _⟩
    | STRIPE =>
      refine (sound_iff_answered hstatus hp lookup booking "Stripe" records.stripe
        StripeAdapter.outcomeResponse _).trans (forall_congr' fun _ => ?_)
      refine (stripe_sound_iff hstatus hp booking records.stripe).trans
        (and_congr_right fun _ => forall_congr' fun _ => ?_)
      simp
    | ADYEN =>
      refine (sound_iff_answered hstatus hp lookup booking "Adyen"
        (records.adyen.map AdyenRecord.payment) AdyenAdapter.outcomeResponse _).trans
        (forall_congr' fun _ => ?_)
      refine (adyen_sound_iff hstatus hp booking records.adyen).trans
        (and_congr_right fun _ => forall_congr' fun _ => ?_)
      simp

namespace Sample

/-- A checkout in which no charge request gets a response. -/
def unanswered : PaymentCheckoutSaga.CheckoutEnv :=
  checkoutEnv fun _ _ => .error (.psp "Stripe request failed with no response: timeout" true none)

/-- The payment is left ambiguous, on record with `provider`. -/
def ambiguousDb (provider : PSPProvider) : Db :=
  ((PaymentCheckoutSaga.execute unanswered { input with preferredProvider := some provider }).run
    Db.empty).1

/-- The sweep, with what the provider of the payment holds. -/
def sweep (provider : PSPProvider) (records : PspRecords) : App Unit :=
  autoResolveOne
    ⟨records.queryOutcome {} (some provider), booking "event-2"⟩ "payment-1"

/-- Stripe's record of the charge. -/
def stripeRecord (status : StripeIntentStatus) : PspRecords where
  stripe := some { id := "tx-1", status := status }

/-- An authorisation at Adyen that has not been captured. -/
def adyenAuthorisation : PspRecords where
  adyen := some ⟨{ pspReference := "tx-1", resultCode := .Authorised }, false⟩

end Sample

open Sample in
/-- Stripe has the charge on record as succeeded. -/
theorem autoResolve_sound_captured :
    ∃ p, (ambiguousDb .STRIPE).Holds p ∧ p.status = .AMBIGUOUS ∧
      (stripeRecord .succeeded).kind p.pspProvider.toOption = .captured ∧
      SoundlyResolved ((stripeRecord .succeeded).kind p.pspProvider.toOption) p.id
        (ambiguousDb .STRIPE) ((autoResolveOne
          ⟨(stripeRecord .succeeded).queryOutcome {} p.pspProvider.toOption, booking "event-2"⟩
          p.id).run (ambiguousDb .STRIPE)).1 := by
  obtain ⟨p, hfind, hprops⟩ : ∃ p, (ambiguousDb .STRIPE).findById "payment-1" = .ok (some p) ∧
      (p.status = .AMBIGUOUS ∧ p.pspProvider.toOption = some .STRIPE : Bool) :=
    Db.exists_of_any (by decide +kernel)
  obtain ⟨hstatus, hprovider⟩ := of_decide_eq_true hprops
  have hkind : (stripeRecord .succeeded).kind p.pspProvider.toOption = .captured := by
    rw [hprovider]
    rfl
  refine ⟨p, (Db.holds_of_findById hfind).2, hstatus, hkind, ?_⟩
  refine (autoResolve_sound_iff _ p _ {} _ (Db.holds_of_findById hfind).2 hstatus).2 fun _ => ?_
  rw [hkind]
  exact ⟨nofun, nofun⟩

open Sample in
/-- A charge that Stripe is still processing, or has only authorised, is resolved as `FAILED`; one
that Adyen has only authorised is booked in full. -/
theorem unfinished_record_resolved :
    ((ambiguousDb .STRIPE).status "payment-1" = some .AMBIGUOUS ∧
      ∀ status ∈ [StripeIntentStatus.processing, .requires_capture],
        (stripeRecord status).kind (some .STRIPE) ≠ .refused ∧
        ((sweep .STRIPE (stripeRecord status)).run (ambiguousDb .STRIPE)).1.status "payment-1" =
          some .FAILED) ∧
    (ambiguousDb .ADYEN).status "payment-1" = some .AMBIGUOUS ∧
      adyenAuthorisation.kind (some .ADYEN) = .authorised ∧
      ((ambiguousDb .ADYEN).chargeEvents "payment-1").length = 0 ∧
      (((sweep .ADYEN adyenAuthorisation).run (ambiguousDb .ADYEN)).1.chargeEvents
        "payment-1").length = 1 := by
  decide +kernel

end OmniSwitch
