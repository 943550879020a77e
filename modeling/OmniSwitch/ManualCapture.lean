import OmniSwitch.Lib.History
import OmniSwitch.Routing.Accepted

/-!
# Charges that are captured later

A payment that is created with `captureMethod: 'manual'` is only authorised, and is to be booked
when it is captured.  The capture method is known to the checkout alone: a success that arrives
later, by a notification or by the resolution of an ambiguous outcome, is booked as a charge of the
full amount.

Main results:

* `manual_charge_not_booked_early`: nothing is booked before a capture, if no success is reported;
* `authorisation_booked_as_charge`: notifications by which it is.
-/

namespace OmniSwitch

open Lib Prog

namespace Db

/-- As long as the payment `id` has no captures, it is not `SUCCEEDED` and no charge is booked for
it. -/
def NotBookedEarly (db : Db) (id : String) : Prop :=
  ∃ p, db.Holds p ∧ p.id = id ∧
    (p.captures = [] → p.status ≠ .SUCCEEDED ∧ db.chargeEvents id = [])

/-- As long as the payment `id` has no captures, it is in a status before any capture, and no charge
is booked for it. -/
def AwaitsCapture (db : Db) (id : String) : Prop :=
  ∃ p, db.Reflects p ∧ p.id = id ∧
    (p.captures = [] → p.status.uncaptured ∧ db.chargeEvents id = [])

section awaits

variable {db : Db} {id : String} {q q' : PaymentAggregate}

lemma AwaitsCapture.notBookedEarly (h : db.AwaitsCapture id) : db.NotBookedEarly id := by
  obtain ⟨p, ⟨q, hq, hsame, hstatus⟩, hid, hawaits⟩ := h
  refine ⟨q, hq, hsame.id.trans hid, fun hcaptures => ?_⟩
  obtain ⟨huncaptured, hevents⟩ := hawaits (hsame.captures.symm.trans hcaptures)
  refine ⟨fun hsucceeded => ?_, hevents⟩
  rw [← hstatus, hsucceeded] at huncaptured
  exact absurd huncaptured (by decide)

lemma AwaitsCapture.of_holds (h : db.AwaitsCapture id) (hq : db.Holds q) (hid : q.id = id) :
    q.captures = [] → q.status.uncaptured ∧ db.chargeEvents id = [] := by
  obtain ⟨p, hreflects, hpid, hawaits⟩ := h
  obtain ⟨hsame, hstatus⟩ := hreflects.of_holds hq (hid.trans hpid.symm)
  rw [hsame.captures, hstatus]
  exact hawaits

lemma AwaitsCapture.stores {db' : Db} {ev : Option LedgerOutboxEvent} (h : db.AwaitsCapture id)
    (hq : db.Holds q) (hstep : PaymentStep q ev q')
    (hcharge : q.id = id → ∀ event, ev = some event → ¬ Pending q)
    (hstores : db.Stores q' ev db') : db'.AwaitsCapture id := by
  by_cases hid : q.id = id
  · have hreflects : db'.Reflects q' := by
      cases hstores <;> exact Db.Reflects.save ⟨q, hq, .refl q, rfl⟩ hstep.same_payment.1 _
    refine ⟨q', hreflects, hstep.same_payment.1.trans hid, fun hcaptures => ?_⟩
    cases hstep with
    | move same edge side =>
      obtain ⟨huncaptured, hevents⟩ := h.of_holds hq hid (same.captures.symm.trans hcaptures)
      cases hstores
      rcases side with ⟨-, huncaptured'⟩ | ⟨hcollected, -⟩
      · exact ⟨huncaptured', hevents⟩
      · exact absurd huncaptured (PaymentStatus.not_uncaptured_of_collected hcollected)
    | charge _ pending => exact absurd pending (hcharge hid _ rfl)
    | capture c same =>
      rw [same.captures] at hcaptures
      simp at hcaptures
    | refund r same _ _ charged =>
      obtain ⟨huncaptured, -⟩ := h.of_holds hq hid (same.captures.symm.trans hcaptures)
      rcases charged with hs | hs <;> rw [hs] at huncaptured <;> exact (nomatch huncaptured)
    | lose r amount same _ disputed =>
      obtain ⟨huncaptured, -⟩ := h.of_holds hq hid (same.captures.symm.trans hcaptures)
      rw [disputed] at huncaptured
      exact (nomatch huncaptured)
  · obtain ⟨p, hreflects, hpid, hawaits⟩ := h
    have hne : q'.id ≠ p.id := by
      rw [hstep.same_payment.1, hpid]
      exact hid
    cases hstores with
    | save now => exact ⟨p, hreflects.save_of_ne hne now, hpid, hawaits⟩
    | @commit event hold now =>
      have hevent : event.paymentId ≠ id := by
        rw [hstep.event_paymentId]
        exact hid
      refine ⟨p, hreflects.save_of_ne hne now, hpid, ?_⟩
      simpa [Db.chargeEvents, Db.commit, List.filter_append, hevent] using hawaits

/-- A write that charges another payment, or none. -/
lemma AwaitsCapture.written {charges : String → Prop} {db' : Db} (h : db.AwaitsCapture id)
    (hnot : ¬ charges id) (hwritten : Written charges db db') : db'.AwaitsCapture id := by
  cases hwritten with
  | charged hold now holds _ may step =>
    exact h.stores holds step (fun hid => absurd (hid ▸ may) hnot) (.commit hold now)
  | missed now holds _ step | cancelled now holds _ step =>
    exact h.stores holds step nofun (.save now)
  | moved hold now holds movable step =>
    refine h.stores holds step (fun _ _ _ hpending => ?_) (.commit hold now)
    rcases movable with (hs | hs) | hs | hs <;> simp [Pending, hs] at hpending
  | disputed now holds _ _ step _ records =>
    have hsaved := h.stores holds step nofun (.save now)
    obtain rfl | ⟨d, -, -, rfl⟩ := records <;> exact hsaved
  | closed => exact h
  | resolved _ _ _ holds _ status closes =>
    obtain ⟨q', -, ⟨now, step, rfl⟩ | ⟨event, hold, now, step, -, rfl⟩⟩ := closes
    · have hsaved := h.stores holds step nofun (.save now)
      exact hsaved
    · have hbooked := h.stores holds step
        (fun _ _ _ hpending => not_disputed_of_pending hpending status) (.commit hold now)
      exact hbooked

end awaits

end Db

/-! ### The checkout -/

open PaymentCheckoutSaga in
lemma Db.Fresh.awaitsCapture {db : Db} {input : CheckoutSagaInput}
    (h : db.Fresh input.paymentId) {env : CheckoutEnv} (hnot : ¬ Takes env) :
    ((execute env input).run db).1.AwaitsCapture input.paymentId := by
  obtain ⟨isFirst, -, hrun⟩ := execute_run env input db
  rw [hrun]
  let J : Db → Option PaymentAggregate → Prop := fun db' x => ∃ p, x = some p ∧
    p.id = input.paymentId ∧ db'.Reflects p ∧ p.captures = [] ∧ p.status.uncaptured ∧
      db'.chargeEvents input.paymentId = []
  have hJ : ∀ db' x c y, J db' x → Writes env (intent env input) x c y →
      J (Commands.apply c db') y := by
    rintro db' x c y ⟨p, rfl, hid, hreflects, hcaptures, huncaptured, hevents⟩ ⟨hc, hbooks⟩
    cases hc with
    | save now hstep =>
      have hsave := hreflects.save hstep.same_payment.1 now
      cases hstep with
      | move same edge side =>
        refine ⟨_, rfl, same.id.trans hid, hsave, same.captures.trans hcaptures, ?_, hevents⟩
        rcases side with ⟨-, huncaptured'⟩ | ⟨hcollected, -⟩
        · exact huncaptured'
        · exact absurd huncaptured (PaymentStatus.not_uncaptured_of_collected hcollected)
    | book hold now hpending hstep => exact absurd (hbooks rfl) hnot
  have hstart : J (db.savePayment (intent env input).toPersistence env.booking.now)
      (some (intent env input)) := by
    refine ⟨_, rfl, rfl, (h.accounts env).reflects, rfl, rfl, ?_⟩
    refine List.filter_eq_nil_iff.2 fun event hevent => ?_
    simp [h.ledger event hevent]
  obtain ⟨y, p, -, hid, hreflects, -, huncaptured, hevents⟩ :=
    (executeIntent_advances isFirst).run hJ hstart
  exact ⟨p, hreflects, hid, fun _ => ⟨huncaptured, hevents⟩⟩

/-- With manual capture Adyen's adapter reports an authorisation as one, and so does Stripe's if
Stripe does not take the money. -/
lemma PspAdapter.charge_manual {request : PspChargeRequest} {wire : Wire} {provider : PSPProvider}
    {response : PaymentCheckoutSaga.PspChargeResponse} (hmanual : request.captureMethod = .manual)
    (hstripe : ∀ intent json, wire.stripe = .answered intent json → intent.status ≠ .succeeded)
    (h : PspAdapter.charge request wire provider = .ok response) :
    response.status ≠ .SUCCEEDED := by
  cases provider with
  | STRIPE =>
    obtain ⟨-, intent, answer, -, rfl⟩ := PspAdapter.call_eq_ok.1 h
    have hstatus := hstripe intent _ answer
    unfold StripeAdapter.chargeResponse
    cases hs : intent.status <;> simp_all
  | ADYEN =>
    obtain ⟨-, payment, -, -, rfl⟩ := PspAdapter.call_eq_ok.1 h
    unfold AdyenAdapter.chargeResponse
    cases payment.resultCode <;> simp [hmanual]
  | PAYPAL => exact (nomatch h)
  | CHASE => exact (nomatch h)

open PaymentCheckoutSaga in
/-- **Manual capture is not booked early**: after a checkout with manual capture, and any
operations of which none reports a success while the charge is pending, nothing is booked until
there are captures. -/
theorem manual_charge_not_booked_early (env : CheckoutEnv) (input : CheckoutSagaInput)
    (request : PspChargeRequest) (wires : Nat → Wire) (ops : List Operation) (db : Db)
    (hfresh : db.Fresh input.paymentId)
    (hcharge : env.charge = fun n provider => PspAdapter.charge request (wires n) provider)
    (hmanual : request.captureMethod = .manual)
    (hstripe : ∀ n intent json, (wires n).stripe = .answered intent json →
      intent.status ≠ .succeeded)
    (hcond : ∀ moment ∈ History.moments Operation.apply ((execute env input).run db).1 ops,
      ¬ moment.1.ReportsSuccess input.paymentId moment.2) :
    (History.after Operation.apply ((execute env input).run db).1 ops).NotBookedEarly
      input.paymentId := by
  have hnot : ¬ Takes env := by
    rintro ⟨n, provider, response, hanswer, hstatus⟩
    rw [hcharge] at hanswer
    exact PspAdapter.charge_manual hmanual (hstripe n) hanswer hstatus
  have hkeeps : ∀ (op : Operation) (db : Db), db.AwaitsCapture input.paymentId →
      ¬ op.ReportsSuccess input.paymentId db → (op.apply db).AwaitsCapture input.paymentId :=
    fun op _ h hop => op.keeps_of_written (I := fun db => db.AwaitsCapture input.paymentId)
      (fun hwritten h => h.written hop hwritten) h
  exact (History.keeps Operation.apply hkeeps (hfresh.awaitsCapture hnot) ops hcond).notBookedEarly

namespace Sample

open PaymentCheckoutSaga PaymentLifecycle WebhookProcessing

/-- A request with manual capture. -/
def manualRequest : PspChargeRequest := { paymentId := input.paymentId, captureMethod := .manual }

/-- An answer of Adyen. -/
def adyenPayment (resultCode : AdyenResultCode) : AdyenPayment :=
  { pspReference := "tx-1", resultCode := resultCode }

/-- The database after a checkout at Adyen with manual capture, whose requests come to this. -/
def manualDb (exchange : Exchange AdyenPayment) : Db :=
  ((execute (checkoutEnv fun _ provider => PspAdapter.charge manualRequest
      { stripe := .noResponse "timeout", adyen := exchange } provider)
    { input with preferredProvider := some .ADYEN }).run Db.empty).1

/-- Adyen's notification that the authorisation has succeeded. -/
def authorised : Operation :=
  .adyenNotification [(webhookEnv "event-2",
    { eventCode := "AUTHORISATION", pspReference := "tx-1", success := "true" })]

/-- The sweep, when Adyen's lookup finds the authorisation. -/
def authorisationFound : Operation :=
  .autoResolve ⟨AdyenAdapter.queryOutcome {} (.answered (some (adyenPayment .Authorised)) (.ok ())),
    booking "event-2"⟩ input.paymentId

/-- A capture. -/
def captureOf (amount : Rat) : Operation :=
  .capture ⟨"capture-1", "event-3", "hold-1", 0, .ok { success := true },
    ⟨fun _ => none, 0, fun _ _ => none, Money.convertTo⟩⟩ input.paymentId
    { amount := some amount, idempotencyKey := "key-2" }

end Sample

open Sample

lemma Db.not_pendingAt {db : Db} {txId id : String}
    (h : (db.findByPspTransactionId txId).toOption.join.all fun p =>
      p.status ≠ .PROCESSING ∧ p.status ≠ .REQUIRES_ACTION) : ¬ db.PendingAt txId id := by
  rintro ⟨p, hfind, -, hpending⟩
  rw [hfind] at h
  obtain ⟨hprocessing, haction⟩ := of_decide_eq_true h
  exact hpending.elim hprocessing haction

/-- The authorisation is answered at once, notified again, and captured in part. -/
theorem manual_charge_not_booked_early_captured :
    (History.after Operation.apply (manualDb (.answered (adyenPayment .Authorised) (.ok ())))
        [authorised, captureOf 4]).status "payment-1" = some .PARTIALLY_CAPTURED ∧
      (History.after Operation.apply (manualDb (.answered (adyenPayment .Authorised) (.ok ())))
        [authorised, captureOf 4]).NotBookedEarly "payment-1" := by
  refine ⟨by decide +kernel, ?_⟩
  refine manual_charge_not_booked_early _ { input with preferredProvider := some .ADYEN }
    manualRequest (fun _ => _) [authorised, captureOf 4] Db.empty fresh_empty rfl rfl
    (fun _ _ _ h => (nomatch h)) ?_
  have hfirst : ¬ (manualDb (.answered (adyenPayment .Authorised) (.ok ()))).PendingAt "tx-1"
      "payment-1" := Db.not_pendingAt (by decide +kernel)
  simp only [History.moments, List.forall_mem_cons]
  refine ⟨?_, fun h => h, List.forall_mem_nil _⟩
  rintro (⟨-, -, hpending⟩ | h)
  · exact hfirst hpending
  · exact h

lemma Db.not_notBookedEarly {db : Db} {id : String}
    (h : (db.findById id).toOption.join.any fun p =>
      decide (p.captures = [] ∧ p.status = .SUCCEEDED)) : ¬ db.NotBookedEarly id := by
  obtain ⟨q, hfind, hq⟩ := Db.exists_of_any h
  obtain ⟨hcaptures, hstatus⟩ := of_decide_eq_true hq
  obtain ⟨hqid, hholds⟩ := Db.holds_of_findById hfind
  rintro ⟨p, hp, hid, hawaits⟩
  obtain rfl := hp.unique hholds (hid.trans hqid.symm)
  exact (hawaits hcaptures).1 hstatus

/-- A payment with manual capture is challenged, and the notification of the authorisation that
follows is booked as a charge of the full amount.  The same comes of an answer that was lost, once
the sweep finds the authorisation. -/
theorem authorisation_booked_as_charge :
    ((manualDb (.answered (adyenPayment .RedirectShopper) (.ok ()))).status "payment-1" =
        some .REQUIRES_ACTION ∧
      ((authorised.apply (manualDb (.answered (adyenPayment .RedirectShopper)
        (.ok ())))).chargeEvents "payment-1").length = 1 ∧
      ¬ (authorised.apply (manualDb (.answered (adyenPayment .RedirectShopper)
        (.ok ())))).NotBookedEarly "payment-1") ∧
    (manualDb (.noResponse "timeout")).status "payment-1" = some .AMBIGUOUS ∧
      ((authorisationFound.apply (manualDb (.noResponse "timeout"))).chargeEvents
        "payment-1").length = 1 ∧
      ¬ (authorisationFound.apply (manualDb (.noResponse "timeout"))).NotBookedEarly
        "payment-1" := by
  refine ⟨⟨by decide +kernel, by decide +kernel, ?_⟩, by decide +kernel, by decide +kernel, ?_⟩
  · exact Db.not_notBookedEarly (by decide +kernel)
  · exact Db.not_notBookedEarly (by decide +kernel)

end OmniSwitch
