import OmniSwitch.Services.Checkout

/-!
# The course of a checkout

The commands of a checkout, said once: the payment is saved as it is created; the checkout is
refused, or saves the payment as being processed and asks the PSPs; once they have answered, it
writes at most once more.  What the checkout does alone, among others or with failures is read off
`Course`.

Main results:

* `executeIntent_course`: the course of every checkout.
-/

namespace OmniSwitch

open Lib Prog PaymentAggregate

variable {p q : PaymentAggregate}

namespace PaymentAggregate

/-- Two states of one payment with the same status and the same reference to the PSP. -/
structure SamePsp (p q : PaymentAggregate) : Prop where
  status : q.status = p.status
  pspProvider : q.pspProvider = p.pspProvider
  pspTransactionId : q.pspTransactionId = p.pspTransactionId

lemma SamePsp.trans {r : PaymentAggregate} (h : p.SamePsp q) (h' : q.SamePsp r) :
    p.SamePsp r :=
  ⟨h'.status.trans h.status, h'.pspProvider.trans h.pspProvider,
    h'.pspTransactionId.trans h.pspTransactionId⟩

variable (p)

lemma recordConversion_samePsp (amount : Money) (params : ChargeLedgerParams) (now : Date) :
    p.SamePsp (p.recordConversion amount params now) := by
  unfold recordConversion
  split
  · exact ⟨rfl, rfl, rfl⟩
  · dsimp only
    split <;> exact ⟨rfl, rfl, rfl⟩

lemma finalizeSplits_samePsp (params : ChargeLedgerParams) :
    p.SamePsp (p.finalizeSplits params) := by
  unfold finalizeSplits
  split <;> exact ⟨rfl, rfl, rfl⟩

end PaymentAggregate

namespace PaymentCheckoutSaga

/-- What a change of status has made of a payment. -/
structure Turned (p q : PaymentAggregate) (status : PaymentStatus) (txId : Nullable String) :
    Prop where
  same : p.SameRecords q
  status : q.status = status
  pspTransactionId : q.pspTransactionId = txId

/-- A change of status along the graph is made. -/
lemma exists_turned {target : PaymentStatus} (h : p.status.isValidTransition target)
    {update : PaymentAggregate → PaymentAggregate} (hupdate : p.SameRecords (update p)) :
    ∃ q, p.transition target update = .ok q ∧ Turned p q target (update p).pspTransactionId ∧
      q.pspProvider = (update p).pspProvider :=
  ⟨_, transition_of_isValidTransition h update,
    ⟨⟨hupdate.id, hupdate.merchantId, hupdate.amount, hupdate.captures, hupdate.refunds⟩, rfl, rfl⟩,
    rfl⟩

lemma recordInterchange_same (p : PaymentAggregate) (details : AuthorizationDetails) :
    p.SameRecords (recordInterchange p details) ∧ p.SamePsp (recordInterchange p details) := by
  unfold recordInterchange
  split <;> exact ⟨⟨rfl, rfl, rfl, rfl, rfl⟩, rfl, rfl, rfl⟩

section course

variable {env : CheckoutEnv} {input : CheckoutSagaInput} {params : ChargeLedgerParams}
  {requested : Option ScaExemptionType}

lemma assess_same {isFirst : Option Bool} {riskScore : Nat}
    (h : assess env input params isFirst p = .ok (q, riskScore, requested)) :
    p.SameRecords q ∧ p.SamePsp q := by
  obtain ⟨eligibility, -, h⟩ := bind_eq_ok.1 h
  cases eligibility with
  | none =>
    obtain rfl := (Prod.mk.inj (Except.ok.inj h)).1
    unfold recordSplits
    split_ifs <;> exact ⟨⟨rfl, rfl, rfl, rfl, rfl⟩, rfl, rfl, rfl⟩
  | some eligibility =>
    obtain rfl := (Prod.mk.inj (Except.ok.inj h)).1
    unfold recordSplits recordScaExemptionRequested
    split <;> split_ifs <;> exact ⟨⟨rfl, rfl, rfl, rfl, rfl⟩, rfl, rfl, rfl⟩

/-! ### After the charge requests -/

/-- The ledger event of the charge.

Source: `PaymentCheckoutSaga.execute` -/
def chargeEvent (env : CheckoutEnv) (input : CheckoutSagaInput) (params : ChargeLedgerParams) :
    Except AppError LedgerOutboxEvent :=
  LedgerOutboxEvent.createChargeEntries env.booking.eventId input.paymentId input.merchantId
    input.amount params.platformFee params.settlementConversion
    (params.reserveHold.map (·.amount)) params.splits env.booking.now

/-- The status that an answer leads to. -/
def PspChargeStatus.recorded : PspChargeStatus → PaymentStatus
  | SUCCEEDED => .SUCCEEDED
  | REQUIRES_ACTION => .REQUIRES_ACTION
  | REQUIRES_CAPTURE => .REQUIRES_CAPTURE
  | FAILED => .FAILED

variable (response : PspChargeResponse)

/-- The update of the streak after an answer; a challenge tells of no exemption. -/
def PspChargeResponse.streak (env : CheckoutEnv)
    (input : CheckoutSagaInput) (requested : Option ScaExemptionType) : Except AppError Unit :=
  updateStreak env input
    (if response.status = .REQUIRES_ACTION then none else response.details.scaExemptionIndicator)
    requested

/-- The transaction that is recorded; a challenge may come without one. -/
def PspChargeResponse.reference : Nullable String :=
  if response.status = .REQUIRES_ACTION ∧ response.transactionId = "" then .undefined
  else .value response.transactionId

lemma PspChargeResponse.streak_of_ne
    (h : response.status ≠ .REQUIRES_ACTION) : response.streak env input requested =
      updateStreak env input response.details.scaExemptionIndicator requested := by
  unfold streak
  rw [if_neg h]

lemma PspChargeResponse.reference_of_ne (h : response.status ≠ .REQUIRES_ACTION) :
    response.reference = .value response.transactionId :=
  if_neg fun hand => h hand.1

lemma PspChargeResponse.reference_of_action (h : response.status = .REQUIRES_ACTION) :
    Nullable.undefined.set (truthy (some response.transactionId)) = response.reference := by
  unfold reference
  by_cases hempty : response.transactionId = ""
  · rw [if_pos ⟨h, hempty⟩, hempty]
    rfl
  · have htruthy : truthy (some response.transactionId) = some response.transactionId := by
      simp [truthy, hempty]
    rw [if_neg fun hand => hempty hand.2, htruthy]
    rfl

/-- **What follows the charge requests** of a payment that is being processed: at most one write,
and the result.

Source: `PaymentCheckoutSaga.execute` -/
inductive Conclusion (env : CheckoutEnv) (input : CheckoutSagaInput) (params : ChargeLedgerParams)
    (requested : Option ScaExemptionType) (p : PaymentAggregate) :
    Except AppError (RouteResult PspChargeResponse) → Option Cmd →
      Except AppError CheckoutSagaResult → Prop
  /-- The charge is accepted, and the streak cannot be updated or the event not be made. -/
  | unrecorded {route : RouteResult PspChargeResponse} {e : AppError}
      (accepted : route.result.status ≠ .FAILED)
      (fails : route.result.streak env input requested = .error e ∨
        route.result.status = .SUCCEEDED ∧ chargeEvent env input params = .error e) :
      Conclusion env input params requested p (.ok route) none (.error e)
  | booked {route : RouteResult PspChargeResponse} {q : PaymentAggregate}
      {event : LedgerOutboxEvent} {hold : Option ReserveHold} {result : CheckoutSagaResult}
      (answer : route.result.status = .SUCCEEDED)
      (streak : route.result.streak env input requested = .ok ())
      (event_eq : chargeEvent env input params = .ok event)
      (turned : Turned p q .SUCCEEDED (.value route.result.transactionId))
      (pspProvider : q.pspProvider = p.pspProvider) (status : result.status = .SUCCEEDED) :
      Conclusion env input params requested p (.ok route)
        (some (.transaction none q.toPersistence event hold env.booking.now)) (.ok result)
  /-- The charge is authorised, or the shopper is challenged. -/
  | authorised {route : RouteResult PspChargeResponse} {q : PaymentAggregate}
      {result : CheckoutSagaResult}
      (answer : route.result.status = .REQUIRES_ACTION ∨ route.result.status = .REQUIRES_CAPTURE)
      (streak : route.result.streak env input requested = .ok ())
      (turned : Turned p q route.result.status.recorded route.result.reference)
      (pspProvider : q.pspProvider = p.pspProvider)
      (status : result.status = route.result.status.recorded) :
      Conclusion env input params requested p (.ok route)
        (some (.savePayment q.toPersistence env.booking.now)) (.ok result)
  | declined {route : RouteResult PspChargeResponse} {q : PaymentAggregate}
      {result : CheckoutSagaResult} (answer : route.result.status = .FAILED)
      (turned : Turned p q .FAILED .undefined) (status : result.status = .FAILED)
      (errorCode : result.errorCode = route.result.errorCode)
      (pspProvider : result.pspProvider = some route.provider)
      (recorded : q.failureCode = .ofOption route.result.errorCode ∧
        q.pspProvider = .value route.provider) :
      Conclusion env input params requested p (.ok route)
        (some (.savePayment q.toPersistence env.booking.now)) (.ok result)
  | ambiguous {e : AppError} {q : PaymentAggregate} {result : CheckoutSagaResult}
      (unknown : isAmbiguousOutcomeError e) (turned : Turned p q .AMBIGUOUS .undefined)
      (pspProvider : q.pspProvider = p.pspProvider) (status : result.status = .AMBIGUOUS) :
      Conclusion env input params requested p (.error e)
        (some (.savePayment q.toPersistence env.booking.now)) (.ok result)
  | failed {e : AppError} {q : PaymentAggregate} (definite : ¬ isAmbiguousOutcomeError e)
      (turned : Turned p q .FAILED .undefined) :
      Conclusion env input params requested p (.error e)
        (some (.savePayment q.toPersistence env.booking.now)) (.error e)

/-- The last write, if there is one, and the result. -/
def conclude : Option Cmd → Except AppError CheckoutSagaResult → App CheckoutSagaResult
  | none, r => liftM r
  | some c, r => .act c fun _ => liftM r

lemma compensateMarkFailed_eq (hvalid : p.status.isValidTransition .FAILED)
    (htx : p.pspTransactionId = .undefined) (reason : String) (code : Option String)
    (provider : Option PSPProvider) (signal : Option PspRiskSignal) (now : Date) :
    ∃ failed, Turned p failed .FAILED .undefined ∧
      (failed.failureCode = .ofOption code ∧ failed.pspProvider = p.pspProvider.set provider) ∧
      compensateMarkFailed p reason code provider signal now = updatePayment failed now := by
  unfold compensateMarkFailed markFailed
  rw [transition_of_isValidTransition hvalid]
  refine ⟨_, ⟨?_, ?_, ?_⟩, ⟨?_, ?_⟩, rfl⟩
  exacts [⟨rfl, rfl, rfl, rfl, rfl⟩, rfl, htx, rfl, rfl]

variable (hsame : (intent env input).SameRecords p) (hstatus : p.status = .PROCESSING)
  (htx : p.pspTransactionId = .undefined)

include hsame in
lemma bookCharge_concludes {route : RouteResult PspChargeResponse}
    (hanswer : route.result.status = .SUCCEEDED)
    (hstreak : route.result.streak env input requested = .ok ())
    (hturned : Turned p q .SUCCEEDED (.value route.result.transactionId))
    (hprovider : q.pspProvider = p.pspProvider) {result : CheckoutSagaResult}
    (hresult : result.status = .SUCCEEDED) : ∃ c r,
    Conclusion env input params requested p (.ok route) c r ∧
      (bookCharge env.booking q params >>= fun _ => return result) = conclude c r := by
  unfold bookCharge
  have hconverted := (q.recordConversion_sameRecords q.amount params env.booking.now).1
  have hsplit :=
    ((q.recordConversion q.amount params env.booking.now).finalizeSplits_sameRecords params).1
  have hpsp := (q.recordConversion_samePsp q.amount params env.booking.now).trans
    (finalizeSplits_samePsp _ params)
  have hbooked := hturned.same.trans (hconverted.trans hsplit)
  generalize (q.recordConversion q.amount params env.booking.now).finalizeSplits params = booked
    at hbooked hpsp
  have hevent : LedgerOutboxEvent.createChargeEntries env.booking.eventId booked.id
      booked.merchantId booked.amount params.platformFee params.settlementConversion
      (params.reserveHold.map (·.amount)) params.splits env.booking.now =
      chargeEvent env input params := by
    rw [hbooked.id, hbooked.merchantId, hbooked.amount, hsame.id, hsame.merchantId, hsame.amount]
    rfl
  dsimp only
  rw [hevent]
  cases hmade : chargeEvent env input params with
  | error e =>
    refine ⟨none, .error e, .unrecorded (by rw [hanswer]; decide) (.inr ⟨hanswer, hmade⟩), rfl⟩
  | ok event =>
    exact ⟨_, .ok result, .booked hanswer hstreak hmade ⟨hbooked, hpsp.status.trans hturned.status,
      hpsp.pspTransactionId.trans hturned.pspTransactionId⟩ (hpsp.pspProvider.trans hprovider)
      hresult, rfl⟩

omit hsame hstatus htx in
lemma streak_concludes {route : RouteResult PspChargeResponse}
    (haccepted : route.result.status ≠ .FAILED) {rest : App CheckoutSagaResult}
    (hrest : route.result.streak env input requested = .ok () → ∃ c r,
      Conclusion env input params requested p (.ok route) c r ∧ rest = conclude c r) : ∃ c r,
    Conclusion env input params requested p (.ok route) c r ∧
      ((liftM (route.result.streak env input requested) : App Unit) >>= fun _ => rest) =
        conclude c r := by
  cases hstreak : route.result.streak env input requested with
  | error e => exact ⟨none, .error e, .unrecorded haccepted (.inl hstreak), rfl⟩
  | ok _ => exact hrest hstreak

include hstatus htx

include hsame in
lemma applyChargeResult_concludes (decision : RoutingDecision) (riskScore : Nat)
    (route : RouteResult PspChargeResponse) : ∃ c r,
    Conclusion env input params requested p (.ok route) c r ∧
      applyChargeResult env input params decision riskScore requested p route = conclude c r := by
  have hvalid : ∀ target, PaymentStatus.PROCESSING.isValidTransition target →
      p.status.isValidTransition target := fun _ h => by rwa [hstatus]
  unfold applyChargeResult
  dsimp only
  cases hanswer : route.result.status with
  | SUCCEEDED =>
    have hturned : ∃ q, p.markSucceeded route.result.transactionId route.result.details = .ok q ∧
        Turned p q .SUCCEEDED (.value route.result.transactionId) ∧ q.pspProvider = p.pspProvider :=
      exists_turned (hvalid _ rfl) ⟨rfl, rfl, rfl, rfl, rfl⟩
    obtain ⟨q, hq, hturned, hprovider⟩ := hturned
    obtain ⟨hint, hint'⟩ := recordInterchange_same q route.result.details
    dsimp only
    rw [hq, ← route.result.streak_of_ne (by rw [hanswer]; decide)]
    refine streak_concludes (by rw [hanswer]; decide) fun hstreak => ?_
    exact bookCharge_concludes hsame hanswer hstreak ⟨hturned.same.trans hint,
      hint'.status.trans hturned.status, hint'.pspTransactionId.trans hturned.pspTransactionId⟩
      (hint'.pspProvider.trans hprovider) rfl
  | REQUIRES_ACTION =>
    have hturned : ∃ q, p.requiresAction riskScore (some route.result.transactionId) = .ok q ∧
        Turned p q .REQUIRES_ACTION
          (p.pspTransactionId.set (truthy (some route.result.transactionId))) ∧
        q.pspProvider = p.pspProvider :=
      exists_turned (hvalid _ rfl) ⟨rfl, rfl, rfl, rfl, rfl⟩
    obtain ⟨q, hq, hturned, hprovider⟩ := hturned
    have hstreak : updateStreak env input none requested =
        route.result.streak env input requested := by
      unfold PspChargeResponse.streak
      rw [if_pos hanswer]
    rw [htx, route.result.reference_of_action hanswer] at hturned
    dsimp only
    rw [hq, hstreak]
    refine streak_concludes (by rw [hanswer]; decide) fun hstreak => ?_
    exact ⟨_, _, .authorised (.inl hanswer) hstreak (by rw [hanswer]; exact hturned) hprovider
      (by rw [hanswer]; rfl), rfl⟩
  | REQUIRES_CAPTURE =>
    have hturned : ∃ q, p.requiresCapture route.result.transactionId route.result.details = .ok q ∧
        Turned p q .REQUIRES_CAPTURE (.value route.result.transactionId) ∧
        q.pspProvider = p.pspProvider :=
      exists_turned (hvalid _ rfl) ⟨rfl, rfl, rfl, rfl, rfl⟩
    obtain ⟨q, hq, hturned, hprovider⟩ := hturned
    have haction : route.result.status ≠ .REQUIRES_ACTION := by rw [hanswer]; decide
    rw [← route.result.reference_of_ne haction] at hturned
    dsimp only
    rw [hq, ← route.result.streak_of_ne haction]
    refine streak_concludes (by rw [hanswer]; decide) fun hstreak => ?_
    exact ⟨_, _, .authorised (.inr hanswer) hstreak (by rw [hanswer]; exact hturned) hprovider
      (by rw [hanswer]; rfl), rfl⟩
  | FAILED =>
    obtain ⟨failed, hturned, hrecorded, heq⟩ := compensateMarkFailed_eq (hvalid _ rfl) htx
      ((truthy route.result.errorMessage).getD "PSP declined") route.result.errorCode
      (some route.provider) route.result.details.pspRiskSignal env.booking.now
    dsimp only
    rw [heq]
    exact ⟨_, _, .declined hanswer hturned rfl rfl rfl hrecorded, rfl⟩

include hsame in
lemma executeCharge_concludes (context : RoutingContext) (decision : RoutingDecision)
    (riskScore : Nat) : ∃ c r,
    Conclusion env input params requested p (executeWithSmartRouting env context).2 c r ∧
      executeCharge env input context params decision riskScore requested p =
        charges input.idempotencyKey (executeWithSmartRouting env context).1 >>= fun _ =>
          conclude c r := by
  unfold executeCharge
  dsimp only
  cases (executeWithSmartRouting env context).2 with
  | ok route =>
    obtain ⟨c, r, hconcluded, heq⟩ :=
      applyChargeResult_concludes hsame hstatus htx decision riskScore route
    exact ⟨c, r, hconcluded, congrArg (charges _ _ >>= fun _ => ·) heq⟩
  | error e =>
    dsimp only
    split_ifs with hambiguous
    · have hturned : ∃ q, p.markAmbiguous (errorMessage e) (some "PSP_TIMEOUT_AMBIGUOUS") = .ok q ∧
          Turned p q .AMBIGUOUS p.pspTransactionId ∧ q.pspProvider = p.pspProvider :=
        exists_turned (by rw [hstatus]; rfl) ⟨rfl, rfl, rfl, rfl, rfl⟩
      obtain ⟨q, hq, hturned, hprovider⟩ := hturned
      unfold compensateMarkAmbiguous
      rw [hq]
      exact ⟨_, _, .ambiguous hambiguous (htx ▸ hturned) hprovider rfl, rfl⟩
    · obtain ⟨failed, hturned, -, heq⟩ := compensateMarkFailed_eq (by rw [hstatus]; rfl) htx
        (errorMessage e) (some "PSP_ALL_FAILED") none none env.booking.now
      rw [heq]
      exact ⟨_, _, .failed hambiguous hturned, rfl⟩

omit hstatus htx

/-! ### The whole course -/

/-- The checkout gets as far as the charge, with what it has determined by then. -/
structure Reached (env : CheckoutEnv) (input : CheckoutSagaInput) (isFirst : Option Bool)
    (params : ChargeLedgerParams) (requested : Option ScaExemptionType)
    (first : RoutingDecision) : Prop where
  resolved : ChargeLedgerParamsResolver.resolve env.booking.charge input.merchantId input.amount
    input.splits = .ok params
  assessed : ∃ payment riskScore,
    assess env input params isFirst (intent env input) = .ok (payment, riskScore, requested)
  first : selectAdapter (routingContext input params) env.selectionHealth = .ok first

/-- **The course of a checkout**, once the payment is created.

Source: `PaymentCheckoutSaga.execute` -/
inductive Course (env : CheckoutEnv) (input : CheckoutSagaInput) (isFirst : Option Bool) :
    App CheckoutSagaResult → Prop
  /-- No PSP is asked. -/
  | refused {c : Option Cmd} {e : AppError}
      (unreached : ∀ params requested first, ¬ Reached env input isFirst params requested first)
      (writes : ∀ c' ∈ c, ∃ q, Turned (intent env input) q .FAILED .undefined ∧
        c' = .savePayment q.toPersistence env.booking.now) :
      Course env input isFirst (conclude c (.error e))
  | charged {params : ChargeLedgerParams} {requested : Option ScaExemptionType}
      {first : RoutingDecision} {p : PaymentAggregate} {c : Option Cmd}
      {r : Except AppError CheckoutSagaResult}
      (reached : Reached env input isFirst params requested first)
      (turned : Turned (intent env input) p .PROCESSING .undefined)
      (pspProvider : p.pspProvider = .value first.selectedProvider)
      (concluded : Conclusion env input params requested p
        (executeWithSmartRouting env (routingContext input params)).2 c r) :
      Course env input isFirst (updatePayment p env.booking.now >>= fun _ =>
        charges input.idempotencyKey
            (executeWithSmartRouting env (routingContext input params)).1 >>= fun _ =>
          conclude c r)

lemma refused_course {isFirst : Option Bool} (hsame : (intent env input).SameRecords p)
    (hpsp : (intent env input).SamePsp p) (reason : String) (code : Option String) (e : AppError)
    (hunreached : ∀ params requested first,
      ¬ Reached env input isFirst params requested first) :
    Course env input isFirst (compensateMarkFailed p reason code none none env.booking.now >>=
      fun _ => throw e) := by
  obtain ⟨failed, hturned, -, heq⟩ := compensateMarkFailed_eq (by rw [hpsp.status]; rfl)
    hpsp.pspTransactionId reason code none none env.booking.now
  rw [heq]
  refine .refused (c := some _) hunreached fun c hc => ?_
  obtain rfl := Option.some.inj hc
  exact ⟨failed, ⟨hsame.trans hturned.same, hturned.status, hturned.pspTransactionId⟩, rfl⟩

/-- **Every checkout has this course.** -/
lemma executeIntent_course (env : CheckoutEnv) (input : CheckoutSagaInput)
    (isFirst : Option Bool) :
    Course env input isFirst (executeIntent env input isFirst (intent env input)) := by
  unfold executeIntent
  cases hresolved : ChargeLedgerParamsResolver.resolve env.booking.charge input.merchantId
    input.amount input.splits with
  | error e =>
    refine refused_course (.refl _) ⟨rfl, rfl, rfl⟩ _ _ e fun params requested first h => ?_
    exact (nomatch hresolved.symm.trans h.resolved)
  | ok params =>
    dsimp only
    cases hassessed : assess env input params isFirst (intent env input) with
    | error e =>
      refine .refused (c := none) (fun params' requested first h => ?_) fun c hc =>
        absurd hc (Option.not_mem_none c)
      obtain rfl := Except.ok.inj (hresolved.symm.trans h.resolved)
      obtain ⟨payment, riskScore, hassessed'⟩ := h.assessed
      exact (nomatch hassessed.symm.trans hassessed')
    | ok assessed =>
      obtain ⟨payment, riskScore, requested⟩ := assessed
      obtain ⟨hsame, hpsp⟩ := assess_same hassessed
      change Course env input isFirst (routeAndCharge env input params riskScore requested payment)
      unfold routeAndCharge
      dsimp only
      cases hfirst : selectAdapter (routingContext input params) env.selectionHealth with
      | error e =>
        refine refused_course hsame hpsp _ _ e fun params' requested' first h => ?_
        obtain rfl := Except.ok.inj (hresolved.symm.trans h.resolved)
        exact (nomatch hfirst.symm.trans h.first)
      | ok first =>
        have hturned : ∃ q, payment.startProcessing first.selectedProvider = .ok q ∧
            Turned payment q .PROCESSING payment.pspTransactionId ∧
            q.pspProvider = .value first.selectedProvider :=
          exists_turned (by rw [hpsp.status]; rfl) ⟨rfl, rfl, rfl, rfl, rfl⟩
        obtain ⟨processing, hprocessing, hturned, hprovider⟩ := hturned
        have hintent : Turned (intent env input) processing .PROCESSING .undefined :=
          ⟨hsame.trans hturned.same, hturned.status,
            hturned.pspTransactionId.trans hpsp.pspTransactionId⟩
        obtain ⟨c, r, hconcluded, heq⟩ := executeCharge_concludes hintent.same hintent.status
          hintent.pspTransactionId (routingContext input params) first riskScore
        dsimp only
        rw [hprocessing]
        change Course env input isFirst (updatePayment processing env.booking.now >>= fun _ =>
          executeCharge env input (routingContext input params) params first riskScore requested
            processing)
        rw [heq]
        exact .charged ⟨hresolved, ⟨payment, riskScore, hassessed⟩, hfirst⟩ hintent hprovider
          hconcluded

end course

end PaymentCheckoutSaga

end OmniSwitch
