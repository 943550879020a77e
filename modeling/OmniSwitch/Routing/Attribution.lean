import OmniSwitch.Routing.Fallback

/-!
# Which provider a payment is recorded with

The checkout selects a provider, records it on the payment, and executes the charge with a second
selection and its fallbacks.  The provider on record stays the first one, unless the charge fails.

Main results:

* `Processing.concluded`: the provider in the row, from how the execution ends;
* `provider_attributed_iff`: when it is the one that has the charge;
* `attributed_to_first_selection`: when it is not.
-/

namespace OmniSwitch

open Lib Prog SmartRouting

/-! ### The attempt that concludes an execution -/

variable {context : RoutingContext}

section concludes

variable {T : Type}

/-- The attempt that ends an execution: the last one at the primary if it is answered or gets no
response, and otherwise such an attempt at an available fallback.

Source: `PaymentProcessorFactory.executeWithFallback` -/
inductive Concludes (decision : RoutingDecision)
    (operation : Nat → PSPProvider → Except AppError T) (isAvailable : PSPProvider → Bool) :
    PSPProvider → Except AppError T → Prop
  | primary (ends : mayHaveCharged (lastAtPrimary decision operation)) :
      Concludes decision operation isAvailable decision.selectedProvider
        (lastAtPrimary decision operation)
  | fallback {other : PSPProvider} (failed : ¬ mayHaveCharged (lastAtPrimary decision operation))
      (mem : other ∈ decision.fallbackProviders) (available : isAvailable other)
      (ends : mayHaveCharged (operation (attemptsAtPrimary decision operation) other)) :
      Concludes decision operation isAvailable other
        (operation (attemptsAtPrimary decision operation) other)

/-- An execution that this attempt ended: an answer is handed on, and no response becomes an
ambiguous error. -/
def EndsWith (provider : PSPProvider) (outcome : Except AppError T)
    (run : List (Invocation T) × Except AppError (RouteResult T)) : Prop :=
  run.1.getLast? = some ⟨provider, outcome⟩ ∧ match outcome with
    | .ok result => ∃ usedFallback, run.2 = .ok ⟨result, provider, usedFallback⟩
    | .error _ => noResponse outcome ∧ ∃ e, run.2 = .error e ∧ isAmbiguousOutcomeError e

/-- **What an execution comes to**, over the registered adapters: there is one attempt that ends
it, or all have failed. -/
theorem executeWithFallback_ends {healthMap : List PspHealthStatus} {decision : RoutingDecision}
    (operation : Nat → PSPProvider → Except AppError T) (isAvailable : PSPProvider → Bool)
    (hmap : healthMap.map PspHealthStatus.provider = registered)
    (hdecision : selectProvider context healthMap = .ok decision) :
    (∃ provider outcome,
      (∀ provider' outcome', Concludes decision operation isAvailable provider' outcome' ↔
        provider' = provider ∧ outcome' = outcome) ∧
      EndsWith provider outcome
        (PaymentProcessor.executeWithFallback decision operation isAvailable)) ∨
    (∀ provider outcome, ¬ Concludes decision operation isAvailable provider outcome) ∧
      ∃ e, (PaymentProcessor.executeWithFallback decision operation isAvailable).2 = .error e ∧
        ¬ isAmbiguousOutcomeError e := by
  rw [executeWithFallback_eq]
  by_cases hlast : mayHaveCharged (lastAtPrimary decision operation)
  · refine .inl ⟨decision.selectedProvider, lastAtPrimary decision operation, ?_, ?_⟩
    · refine fun provider outcome => ⟨fun h => ?_, ?_⟩
      · cases h with
        | primary => exact ⟨rfl, rfl⟩
        | fallback failed => exact absurd hlast failed
      · rintro ⟨rfl, rfl⟩
        exact .primary hlast
    · cases hoc : lastAtPrimary decision operation with
      | ok result => simp [concludePrimary, EndsWith]
      | error e =>
        rw [hoc] at hlast
        have hambiguous : isAmbiguousOutcomeError e = true := hlast
        refine ⟨by simp [concludePrimary, hambiguous], hambiguous, ?_⟩
        exact ⟨_, by rw [concludePrimary, if_pos hambiguous], rfl⟩
  · cases hoc : lastAtPrimary decision operation with
    | ok result =>
      rw [hoc] at hlast
      exact absurd rfl hlast
    | error e =>
      have hanswered : ¬ isAmbiguousOutcomeError e = true := by
        rw [hoc] at hlast
        exact hlast
      rw [concludePrimary, if_neg hanswered]
      rcases fallbacks_cases decision operation isAvailable hmap hdecision
          (attemptsAtPrimary decision operation) with
        ⟨hnone, hunavailable⟩ | ⟨other, hmem, havailable, -, hone⟩
      · refine .inr ⟨fun provider outcome h => ?_, _, congrArg Prod.snd hnone, by
          simp [PaymentProcessor.allFailed, isAmbiguousOutcomeError]⟩
        cases h with
        | primary ends => exact hlast ends
        | fallback _ mem available => exact hunavailable _ mem available
      · have hconcludes : ∀ provider outcome,
            Concludes decision operation isAvailable provider outcome ↔
              mayHaveCharged (operation (attemptsAtPrimary decision operation) other) ∧
                provider = other ∧
                outcome = operation (attemptsAtPrimary decision operation) other := by
          refine fun provider outcome => ⟨fun h => ?_, ?_⟩
          · cases h with
            | primary ends => exact absurd ends hlast
            | fallback _ mem _ ends =>
              obtain rfl := List.mem_singleton.1 (hmem ▸ mem)
              exact ⟨ends, rfl, rfl⟩
          · rintro ⟨ends, rfl, rfl⟩
            exact .fallback hlast (hmem ▸ List.mem_singleton_self _) havailable ends
        rw [hone]
        cases hother : operation (attemptsAtPrimary decision operation) other with
        | ok result =>
          rw [hother] at hconcludes
          refine .inl ⟨other, .ok result, fun provider outcome => ?_, by simp, true, rfl⟩
          exact (hconcludes provider outcome).trans ⟨And.right, fun h => ⟨rfl, h⟩⟩
        | error e' =>
          rw [hother] at hconcludes
          by_cases hambiguous : isAmbiguousOutcomeError e'
          · refine .inl ⟨other, .error e', fun provider outcome => ?_, by simp, hambiguous, _,
              rfl, hambiguous⟩
            exact (hconcludes provider outcome).trans ⟨And.right, fun h => ⟨hambiguous, h⟩⟩
          · refine .inr ⟨fun provider outcome h => ?_, _, rfl, hambiguous⟩
            exact hambiguous ((hconcludes provider outcome).1 h).1

end concludes

namespace PaymentCheckoutSaga

/-! ### What is persisted -/

/-- The status of a payment and its reference to the PSP, as they are persisted. -/
def persisted (db : Db) (id : String) :
    Option (PaymentStatus × Option PSPProvider × Option String) :=
  (db.payments.get id).map fun row => (row.status, row.pspProvider, row.pspTransactionId)

lemma persisted_savePayment (db : Db) (p : PaymentAggregate) (now : Date) :
    persisted (db.savePayment p.toPersistence now) p.id =
      some (p.status, p.pspProvider.store ((persisted db p.id).bind (·.2.1)),
        p.pspTransactionId.store ((persisted db p.id).bind (·.2.2))) := by
  have hget := db.get_savePayment_self p.toPersistence now
  change _ = some (((db.payments.get p.id).map _).getD _) at hget
  unfold persisted
  rw [show p.toPersistence.id = p.id from rfl] at hget
  rw [hget]
  cases db.payments.get p.id <;> rfl

lemma persisted_savePayment_of_ne (db : Db) {p : PaymentAggregate} {id : String}
    (hid : p.id ≠ id) (now : Date) :
    persisted (db.savePayment p.toPersistence now) id = persisted db id := by
  unfold persisted
  rw [db.get_savePayment_of_ne p.toPersistence now hid.symm]

lemma persisted_of_holds {db : Db} {p : PaymentAggregate} (h : db.Holds p) :
    persisted db p.id =
      some (p.status, p.pspProvider.toOption, p.pspTransactionId.toOption) := by
  obtain ⟨row, hrow, hload⟩ := h
  have hloads := PaymentRow.toDomain_ok hload
  unfold persisted
  rw [hrow, hloads.status, hloads.pspProvider, hloads.pspTransactionId,
    Nullable.toOption_ofColumn, Nullable.toOption_ofColumn]
  rfl

/-- The payment is not ambiguous, and has no transaction or this one of this provider. -/
def Recorded (db : Db) (id : String) (provider : PSPProvider) (txId : Option String) : Prop :=
  ∃ status provider', status ≠ .AMBIGUOUS ∧ persisted db id = some (status, provider', txId) ∧
    (txId.isSome → provider' = some provider)

/-- The charge is on record, but not what became of it. -/
def LeftAmbiguous (db : Db) (id : String) (provider : PSPProvider) : Prop :=
  persisted db id = some (.AMBIGUOUS, some provider, none)

/-! ### From the answer to the row -/

/-- Nothing that runs between the answer and its save fails, and the answer is one with a
transaction.

Source: `PaymentCheckoutSaga.execute` -/
def saves (env : CheckoutEnv) (input : CheckoutSagaInput) (params : ChargeLedgerParams)
    (requested : Option ScaExemptionType) (response : PspChargeResponse) : Bool :=
  match response.status with
  | .SUCCEEDED =>
    (updateStreak env input response.details.scaExemptionIndicator requested).toBool &&
      (chargeEvent env input params).toBool
  | .REQUIRES_CAPTURE =>
    (updateStreak env input response.details.scaExemptionIndicator requested).toBool
  | .REQUIRES_ACTION =>
    (updateStreak env input none requested).toBool && response.transactionId ≠ ""
  | .FAILED => false

/-- A payment that is being processed by its first selection, as it is in memory and as it is
persisted. -/
structure Processing (input : CheckoutSagaInput) (first : PSPProvider) (p : PaymentAggregate)
    (db : Db) : Prop where
  id : p.id = input.paymentId
  merchantId : p.merchantId = input.merchantId
  amount : p.amount = input.amount
  status : p.status = .PROCESSING
  pspProvider : p.pspProvider = .value first
  pspTransactionId : p.pspTransactionId = .undefined
  persisted : persisted db input.paymentId = some (.PROCESSING, some first, none)

variable {α : Type}

section rows

variable {env : CheckoutEnv} {input : CheckoutSagaInput} {params : ChargeLedgerParams}
  {requested : Option ScaExemptionType} {first : PSPProvider} {p q : PaymentAggregate} {db : Db}

lemma Processing.recorded (h : Processing input first p db) :
    Recorded db input.paymentId first none :=
  ⟨_, _, by decide, h.persisted, nofun⟩

lemma Processing.persisted_of_undefined (h : Processing input first p db) (hid : q.id = p.id)
    (hpsp : q.pspTransactionId = .undefined) (now : Date) :
    PaymentCheckoutSaga.persisted (db.savePayment q.toPersistence now) input.paymentId =
      some (q.status, q.pspProvider.store (some first), none) := by
  have hq : q.id = input.paymentId := hid.trans h.id
  have hsaved := persisted_savePayment db q now
  rw [hq, h.persisted, hpsp] at hsaved
  exact hsaved

lemma Processing.referenced (h : Processing input first p db) {txId : String}
    (hid : q.id = p.id) (hprovider : q.pspProvider = p.pspProvider)
    (hpsp : q.pspTransactionId = .value txId) (hstatus : q.status ≠ .AMBIGUOUS) (now : Date) :
    Recorded (db.savePayment q.toPersistence now) input.paymentId first (some txId) := by
  have hq : q.id = input.paymentId := hid.trans h.id
  have hsaved := persisted_savePayment db q now
  rw [hq, hprovider, h.pspProvider, hpsp] at hsaved
  exact ⟨_, _, hstatus, hsaved, fun _ => rfl⟩

/-- An answer is saved with its transaction exactly if nothing before the save fails and the answer
names one. -/
lemma saves_iff {response : PspChargeResponse} : saves env input params requested response ↔
    response.status ≠ .FAILED ∧ response.streak env input requested = .ok () ∧
      (response.status = .SUCCEEDED → ∃ event, chargeEvent env input params = .ok event) ∧
      response.reference = .value response.transactionId := by
  have hunit : ∀ x : Except AppError Unit, x.toBool = true ↔ x = .ok () := by
    intro x
    cases x <;> simp [Except.toBool]
  have hevent : ∀ x : Except AppError LedgerOutboxEvent, x.toBool = true ↔ ∃ b, x = .ok b := by
    intro x
    cases x <;> simp [Except.toBool]
  unfold saves PspChargeResponse.streak PspChargeResponse.reference
  cases response.status <;> simp [hunit, hevent]

/-- What the row of a payment says of the charge requests. -/
def Tells (env : CheckoutEnv) (input : CheckoutSagaInput) (params : ChargeLedgerParams)
    (requested : Option ScaExemptionType) (first : PSPProvider) (db : Db) :
    Except AppError (RouteResult PspChargeResponse) → Prop
  | .ok route => Recorded db input.paymentId first
      (if saves env input params requested route.result then some route.result.transactionId
        else none)
  | .error e =>
    if isAmbiguousOutcomeError e then LeftAmbiguous db input.paymentId first
    else Recorded db input.paymentId first none

/-- **From the conclusion to the row.** -/
theorem Processing.concluded (h : Processing input first p db)
    {route : Except AppError (RouteResult PspChargeResponse)} {c : Option Cmd}
    {r : Except AppError CheckoutSagaResult}
    (hc : Conclusion env input params requested p route c r) :
    Tells env input params requested first ((conclude c r).run db).1 route := by
  unfold Tells
  have hunpaid : ∀ {q : PaymentAggregate} {status : PaymentStatus}, Turned p q status .undefined →
      status ≠ .AMBIGUOUS → Recorded (db.savePayment q.toPersistence env.booking.now)
        input.paymentId first none := by
    intro q status hturned hstatus
    have hsaved := h.persisted_of_undefined hturned.same.id hturned.pspTransactionId env.booking.now
    exact ⟨_, _, by rwa [hturned.status], hsaved, nofun⟩
  cases hc with
  | unrecorded _ fails =>
    dsimp only
    rw [if_neg]
    · exact h.recorded
    · intro hsaves
      obtain ⟨-, hstreak, hevent, -⟩ := saves_iff.1 hsaves
      rcases fails with hfails | ⟨hanswer, hfails⟩
      · exact (nomatch hstreak.symm.trans hfails)
      · obtain ⟨event, hevent⟩ := hevent hanswer
        exact (nomatch hevent.symm.trans hfails)
  | booked answer streak event_eq turned pspProvider =>
    have hsaves := saves_iff.2 ⟨by rw [answer]; decide, streak, fun _ => ⟨_, event_eq⟩,
      PspChargeResponse.reference_of_ne _ (by rw [answer]; decide)⟩
    dsimp only
    rw [if_pos hsaves]
    exact h.referenced turned.same.id pspProvider turned.pspTransactionId
      (by rw [turned.status]; decide) env.booking.now
  | @authorised route q result answer streak turned pspProvider =>
    dsimp only
    have hrecorded : ∀ {status}, status = PspChargeStatus.REQUIRES_ACTION ∨
        status = .REQUIRES_CAPTURE → status ≠ .FAILED ∧ status ≠ .SUCCEEDED ∧
          status.recorded ≠ .AMBIGUOUS := by
      rintro _ (rfl | rfl) <;> decide
    obtain ⟨hfailed, hsucceeded, hambiguous⟩ := hrecorded answer
    split_ifs with hsaves
    · have hreference := (saves_iff.1 hsaves).2.2.2
      exact h.referenced turned.same.id pspProvider (turned.pspTransactionId.trans hreference)
        (by rwa [turned.status]) env.booking.now
    · have hundefined : route.result.reference = .undefined := by
        by_contra hne
        refine hsaves (saves_iff.2 ⟨hfailed, streak, fun h => absurd h hsucceeded, ?_⟩)
        unfold PspChargeResponse.reference at hne ⊢
        split_ifs at hne ⊢ with hempty
        · exact absurd rfl hne
        · rfl
      rw [hundefined] at turned
      exact hunpaid turned hambiguous
  | declined answer turned =>
    dsimp only
    rw [if_neg fun hsaves => (saves_iff.1 hsaves).1 answer]
    exact hunpaid turned (by decide)
  | ambiguous unknown turned pspProvider =>
    dsimp only
    rw [if_pos unknown]
    have hsaved := h.persisted_of_undefined turned.same.id turned.pspTransactionId env.booking.now
    rw [turned.status, pspProvider, h.pspProvider] at hsaved
    exact hsaved
  | failed definite turned =>
    dsimp only
    rw [if_neg definite]
    exact hunpaid turned (by decide)

lemma run_charges_bind (key : String) (log : List (Invocation PspChargeResponse))
    (f : Unit → App α) (db : Db) : (charges key log >>= f).run db = (f ()).run db := by
  induction log with
  | nil => rfl
  | cons invocation log ih => exact ih

end rows

/-! ### Errors of the selection -/

/-- Whatever it throws is not tagged as an ambiguous outcome. -/
def Untagged {α : Type} (x : Except AppError α) : Prop :=
  ∀ e, x = .error e → ¬ isAmbiguousOutcomeError e

lemma untagged_bind {β : Type} {x : Except AppError α} {f : α → Except AppError β}
    (hx : Untagged x) (hf : ∀ a, Untagged (f a)) : Untagged (x >>= f) := by
  cases x with
  | error e => exact fun e' he' => hx e' (congrArg Except.error (Except.error.inj he'))
  | ok a => exact hf a

lemma untagged_ok (a : α) : Untagged (.ok a : Except AppError α) := nofun

lemma untagged_plain (message : String) :
    Untagged (.error (.plain message) : Except AppError α) := by
  rintro e ⟨rfl⟩
  exact Bool.false_ne_true

lemma untagged_calculateFee (amount : Money) (health : PspHealthStatus) :
    Untagged (calculateFee amount health) := by
  have hmake : ∀ minorUnits currency, Untagged (Money.make minorUnits currency) := by
    intro minorUnits currency
    unfold Money.make
    split_ifs
    · exact untagged_plain _
    · exact untagged_ok _
  refine untagged_bind ?_ fun percentageFee => untagged_bind ?_ fun currency =>
    untagged_bind ?_ fun minorUnits => untagged_bind (hmake _ _) fun fixedFee => ?_
  · cases health.feePercentage with
    | some percentage => exact hmake _ _
    | none => exact untagged_plain _
  · unfold Currency.of
    split_ifs
    · exact untagged_ok _
    · exact untagged_plain _
  · unfold bigInt
    split
    · split_ifs
      · exact untagged_ok _
      · exact untagged_plain _
    · exact untagged_plain _
  · refine untagged_bind ?_ fun _ => untagged_ok _
    unfold Money.assertSameCurrency
    split_ifs
    · exact untagged_ok _
    · exact untagged_plain _

lemma untagged_mapM {β : Type} {f : α → Except AppError β} (hf : ∀ a, Untagged (f a))
    (l : List α) : Untagged (l.mapM f) := by
  induction l with
  | nil => exact untagged_ok _
  | cons a l ih =>
    rw [List.mapM_cons]
    exact untagged_bind (hf a) fun b => untagged_bind ih fun bs => untagged_ok _

lemma untagged_selectAdapter (context : RoutingContext) (healthMap : List PspHealthStatus) :
    Untagged (selectAdapter context healthMap) := by
  refine untagged_bind ?_ fun decision => untagged_bind ?_ fun _ => untagged_ok _
  · unfold selectProvider selectProviderBy
    split
    · rintro e ⟨rfl⟩
      exact Bool.false_ne_true
    · refine untagged_bind (untagged_mapM (fun health => ?_) _) fun scored => ?_
      · refine untagged_bind ?_ fun score => untagged_ok _
        exact untagged_bind (untagged_calculateFee _ _) fun fee => untagged_ok _
      · split
        · exact untagged_plain _
        · exact untagged_bind (untagged_calculateFee _ _) fun fee => untagged_ok _
  · unfold getAdapter
    split
    · exact untagged_ok _
    · exact untagged_ok _
    · exact untagged_plain _

/-! ### Attribution -/

/-- The charge requests of a checkout that gets to them.

Source: `PaymentCheckoutSaga.execute` -/
def chargeLog (env : CheckoutEnv) (input : CheckoutSagaInput) :
    List (Invocation PspChargeResponse) :=
  match ChargeLedgerParamsResolver.resolve env.booking.charge input.merchantId input.amount
      input.splits with
  | .error _ => []
  | .ok params => (executeWithSmartRouting env (routingContext input params)).1

/-- A persisted transaction is the one that the last request returned, and its provider is on
record; an ambiguous payment is on record with the provider that did not respond last. -/
def Attributed (log : List (Invocation PspChargeResponse)) (db : Db) (id : String) : Prop :=
  (∀ status provider txId, persisted db id = some (status, provider, some txId) →
    ∃ invocation response, log.getLast? = some invocation ∧ invocation.outcome = .ok response ∧
      response.transactionId = txId ∧ provider = some invocation.provider) ∧
  ∀ provider txId, persisted db id = some (.AMBIGUOUS, provider, txId) →
    ∃ invocation, log.getLast? = some invocation ∧ noResponse invocation.outcome ∧
      provider = some invocation.provider

section attributed

variable {log : List (Invocation PspChargeResponse)} {db : Db} {id : String}
  {first provider : PSPProvider}

lemma attributed_of_recorded_none (h : Recorded db id first none) : Attributed log db id := by
  obtain ⟨status, provider, hstatus, hpersisted, -⟩ := h
  unfold Attributed
  rw [hpersisted]
  refine ⟨fun _ _ _ heq => by simp at heq, fun _ _ heq => ?_⟩
  simp only [Option.some.injEq, Prod.mk.injEq] at heq
  exact absurd heq.1 hstatus

lemma attributed_iff_of_recorded {response : PspChargeResponse}
    (h : Recorded db id first (some response.transactionId))
    (hlog : log.getLast? = some ⟨provider, .ok response⟩) :
    Attributed log db id ↔ first = provider := by
  obtain ⟨status, provider', hstatus, hpersisted, hprovider⟩ := h
  obtain rfl := hprovider rfl
  refine ⟨fun h => ?_, ?_⟩
  · obtain ⟨invocation, _, hlast, -, -, heq⟩ := h.1 _ _ _ hpersisted
    obtain rfl := Option.some.inj (hlog.symm.trans hlast)
    exact Option.some.inj heq
  · rintro rfl
    unfold Attributed
    rw [hpersisted]
    refine ⟨fun _ _ txId heq => ⟨_, response, hlog, rfl, ?_⟩, fun _ _ heq => ?_⟩
    · simp only [Option.some.injEq, Prod.mk.injEq] at heq
      exact ⟨heq.2.2, heq.2.1.symm⟩
    · simp only [Option.some.injEq, Prod.mk.injEq] at heq
      exact absurd heq.1 hstatus

lemma attributed_iff_of_leftAmbiguous {outcome : Except AppError PspChargeResponse}
    (h : LeftAmbiguous db id first) (hlog : log.getLast? = some ⟨provider, outcome⟩)
    (hnone : noResponse outcome) : Attributed log db id ↔ first = provider := by
  refine ⟨fun hattributed => ?_, ?_⟩
  · obtain ⟨invocation, hlast, -, heq⟩ := hattributed.2 _ _ h
    obtain rfl := Option.some.inj (hlog.symm.trans hlast)
    exact Option.some.inj heq
  · rintro rfl
    unfold Attributed
    rw [show persisted db id = _ from h]
    refine ⟨fun _ _ _ heq => by simp at heq, fun _ _ heq => ⟨_, hlog, hnone, ?_⟩⟩
    simp only [Option.some.injEq, Prod.mk.injEq] at heq
    exact heq.2.1.symm

end attributed

/-- A checkout that gets as far as the charge, with what it has determined by then. -/
structure Reaches (env : CheckoutEnv) (input : CheckoutSagaInput) (db : Db)
    (params : ChargeLedgerParams) (requested : Option ScaExemptionType)
    (first second : RoutingDecision) : Prop where
  resolved : ChargeLedgerParamsResolver.resolve env.booking.charge input.merchantId input.amount
    input.splits = .ok params
  assessed : ∃ isFirst payment riskScore,
    (isFirstChargeToMerchant input).run db = (db, .ok isFirst) ∧
    assess env input params isFirst (intent env input) = .ok (payment, riskScore, requested)
  first : selectAdapter (routingContext input params) env.selectionHealth = .ok first
  second : selectAdapter (routingContext input params) env.executionHealth = .ok second

/-- The outcome leaves its mark on the payment: nothing that runs between an answer and its save
fails. -/
def kept (env : CheckoutEnv) (input : CheckoutSagaInput) (params : ChargeLedgerParams)
    (requested : Option ScaExemptionType) : Except AppError PspChargeResponse → Bool
  | .ok response => env.recordRouting.toBool && saves env input params requested response
  | .error _ => true

section main

variable {env : CheckoutEnv} {input : CheckoutSagaInput} {params : ChargeLedgerParams}
  {first second : RoutingDecision} {p : PaymentAggregate} {db : Db}

lemma selectProvider_of_selectAdapter {healthMap : List PspHealthStatus}
    {decision : RoutingDecision} (h : selectAdapter context healthMap = .ok decision) :
    selectProvider context healthMap = .ok decision := by
  obtain ⟨decision', hdecision, h⟩ := bind_eq_ok.1 h
  obtain ⟨_, -, h⟩ := bind_eq_ok.1 h
  rw [hdecision, Except.ok.inj h]

lemma executeWithSmartRouting_of_selected
    (h : selectAdapter context env.executionHealth = .ok second) :
    executeWithSmartRouting env context =
      ((PaymentProcessor.executeWithFallback second env.charge env.isAvailable).1, do
        let result ← (PaymentProcessor.executeWithFallback second env.charge env.isAvailable).2
        env.recordRouting
        .ok result) := by
  unfold executeWithSmartRouting
  rw [h]

variable {requested : Option ScaExemptionType}

/-- When the row names the provider of the charge. -/
lemma Processing.attributed_iff (h : Processing input first.selectedProvider p db)
    (hmap : env.executionHealth.map PspHealthStatus.provider = registered)
    (hrecord : Untagged env.recordRouting)
    (hsecond : selectAdapter (routingContext input params) env.executionHealth = .ok second)
    {c : Option Cmd} {r : Except AppError CheckoutSagaResult}
    (hc : Conclusion env input params requested p (executeWithSmartRouting env (routingContext
      input params)).2 c r) :
    Attributed (executeWithSmartRouting env (routingContext input params)).1
        ((conclude c r).run db).1 input.paymentId ↔
      ∀ provider outcome, Concludes second env.charge env.isAvailable provider outcome →
        kept env input params requested outcome → first.selectedProvider = provider := by
  have hselect := selectProvider_of_selectAdapter hsecond
  have hroute := executeWithSmartRouting_of_selected hsecond
  rw [hroute] at hc ⊢
  have hrow := h.concluded hc
  generalize ((conclude c r).run db).1 = db' at hrow ⊢
  rcases executeWithFallback_ends env.charge env.isAvailable hmap hselect with
    ⟨provider, outcome, hconcludes, hlast, hend⟩ | ⟨hnone, e, he, hdefinite⟩
  · simp only [hconcludes, and_imp, forall_eq_apply_imp_iff, forall_eq]
    cases outcome with
    | ok response =>
      obtain ⟨usedFallback, hok⟩ := hend
      rw [hok] at hrow
      cases hrouting : env.recordRouting with
      | error e =>
        rw [hrouting] at hrow
        change if isAmbiguousOutcomeError e then _ else _ at hrow
        rw [if_neg (hrecord e hrouting)] at hrow
        refine ⟨fun _ hkept => ?_, fun _ => attributed_of_recorded_none hrow⟩
        simp [kept, hrouting, Except.toBool] at hkept
      | ok _ =>
        rw [hrouting] at hrow
        change Recorded db' _ _ (if saves env input params requested response then _ else _)
          at hrow
        by_cases hsaves : saves env input params requested response
        · rw [if_pos hsaves] at hrow
          rw [attributed_iff_of_recorded hrow hlast]
          exact ⟨fun heq _ => heq, fun h => h (by simp [kept, hrouting, hsaves, Except.toBool])⟩
        · rw [if_neg hsaves] at hrow
          refine ⟨fun _ hkept => ?_, fun _ => attributed_of_recorded_none hrow⟩
          simp [kept, hsaves] at hkept
    | error e =>
      obtain ⟨hnoResponse, e', he', hambiguous⟩ := hend
      rw [he'] at hrow
      change if isAmbiguousOutcomeError e' then _ else _ at hrow
      rw [if_pos hambiguous] at hrow
      rw [attributed_iff_of_leftAmbiguous hrow hlast hnoResponse]
      exact ⟨fun heq _ => heq, fun h => h rfl⟩
  · rw [he] at hrow
    change if isAmbiguousOutcomeError e then _ else _ at hrow
    rw [if_neg hdefinite] at hrow
    exact ⟨fun _ provider outcome h => absurd h (hnone provider outcome),
      fun _ => attributed_of_recorded_none hrow⟩

lemma persisted_intent (env : CheckoutEnv) (hfresh : db.payments.get input.paymentId = none) :
    persisted (db.savePayment (intent env input).toPersistence env.booking.now) input.paymentId =
      some (.PENDING, none, none) := by
  have hsaved := persisted_savePayment db (intent env input) env.booking.now
  change persisted _ input.paymentId = some (_, _) at hsaved
  rw [hsaved]
  have hnone : persisted db (intent env input).id = none := by
    change (db.payments.get input.paymentId).map _ = none
    rw [hfresh]
    rfl
  rw [hnone]
  rfl

lemma Turned.processing (h : Turned (intent env input) p .PROCESSING .undefined)
    {provider : PSPProvider} (hprovider : p.pspProvider = .value provider)
    (hpersisted : persisted db input.paymentId = some (.PENDING, none, none)) :
    Processing input provider p (db.savePayment p.toPersistence env.booking.now) := by
  refine ⟨h.same.id, h.same.merchantId, h.same.amount, h.status, hprovider, h.pspTransactionId, ?_⟩
  have hsaved := persisted_savePayment db p env.booking.now
  rw [show p.id = input.paymentId from h.same.id, hpersisted, h.status, hprovider,
    h.pspTransactionId] at hsaved
  exact hsaved

variable {isFirst : Option Bool}

/-- What a checkout reaches, by what it has read first. -/
lemma reached_iff (hread : (isFirstChargeToMerchant input).run db = (db, .ok isFirst)) :
    Reaches env input db params requested first second ↔
      Reached env input isFirst params requested first ∧
        selectAdapter (routingContext input params) env.executionHealth = .ok second := by
  refine ⟨fun h => ⟨⟨h.resolved, ?_, h.first⟩, h.second⟩,
    fun ⟨h, hsecond⟩ => ⟨h.resolved, ?_, h.first, hsecond⟩⟩
  · obtain ⟨isFirst', payment, riskScore, hread', hassessed⟩ := h.assessed
    obtain rfl := Except.ok.inj (Prod.mk.inj (hread.symm.trans hread')).2
    exact ⟨payment, riskScore, hassessed⟩
  · obtain ⟨payment, riskScore, hassessed⟩ := h.assessed
    exact ⟨isFirst, payment, riskScore, hread, hassessed⟩

lemma Reached.unique {requested' : Option ScaExemptionType} {params' : ChargeLedgerParams}
    {first' : RoutingDecision} (h : Reached env input isFirst params requested first)
    (h' : Reached env input isFirst params' requested' first') :
    params' = params ∧ requested' = requested ∧ first' = first := by
  obtain rfl := Except.ok.inj (h.resolved.symm.trans h'.resolved)
  obtain ⟨_, _, hassessed⟩ := h.assessed
  obtain ⟨_, _, hassessed'⟩ := h'.assessed
  obtain ⟨-, hrest⟩ := Prod.mk.inj (Except.ok.inj (hassessed'.symm.trans hassessed))
  exact ⟨rfl, (Prod.mk.inj hrest).2, Except.ok.inj (h'.first.symm.trans h.first)⟩

end main

end PaymentCheckoutSaga

open PaymentCheckoutSaga in
/-- **When a checkout attributes its payment**: exactly if the provider of the first selection is
the one whose attempt concludes the execution, for an attempt whose outcome is kept. -/
theorem provider_attributed_iff (env : CheckoutEnv) (input : CheckoutSagaInput) (db : Db)
    (hfresh : db.payments.get input.paymentId = none)
    (hmap : env.executionHealth.map PspHealthStatus.provider = registered)
    (hrecord : Untagged env.recordRouting) :
    Attributed (chargeLog env input) ((execute env input).run db).1 input.paymentId ↔
      ∀ params requested first second, Reaches env input db params requested first second →
        ∀ provider outcome, Concludes second env.charge env.isAvailable provider outcome →
          kept env input params requested outcome → first.selectedProvider = provider := by
  obtain ⟨isFirst, hread, hrun⟩ := execute_run env input db
  have hpersisted := persisted_intent env hfresh
  rw [hrun]
  have hcourse := executeIntent_course env input isFirst
  generalize executeIntent env input isFirst (intent env input) = prog at hcourse ⊢
  simp only [reached_iff hread]
  cases hcourse with
  | @refused c e unreached writes =>
    refine ⟨fun _ params requested first second h => absurd h.1 (unreached params requested first),
      fun _ => attributed_of_recorded_none (show Recorded _ _ .STRIPE none from ?_)⟩
    cases c with
    | none => exact ⟨_, _, by decide, hpersisted, nofun⟩
    | some c =>
      obtain ⟨q, hturned, rfl⟩ := writes c rfl
      have hsaved := persisted_savePayment
        (db.savePayment (intent env input).toPersistence env.booking.now) q env.booking.now
      rw [show q.id = input.paymentId from hturned.same.id, hpersisted, hturned.status,
        hturned.pspTransactionId] at hsaved
      exact ⟨_, _, by decide, hsaved, nofun⟩
  | @charged params requested first p c r reached turned pspProvider concluded =>
    have hprocessing := turned.processing pspProvider hpersisted
    have hlog : chargeLog env input =
        (executeWithSmartRouting env (routingContext input params)).1 := by
      unfold chargeLog
      rw [reached.resolved]
    rw [hlog]
    change Attributed _ ((charges _ _ >>= fun _ => conclude c r).run _).1 _ ↔ _
    rw [run_charges_bind]
    cases hsecond : selectAdapter (routingContext input params) env.executionHealth with
    | error e =>
      have hroute : executeWithSmartRouting env (routingContext input params) =
          ([], .error e) := by
        unfold executeWithSmartRouting
        rw [hsecond]
      rw [hroute] at concluded
      have hrow := hprocessing.concluded concluded
      dsimp only [Tells] at hrow
      rw [if_neg (untagged_selectAdapter _ _ e hsecond)] at hrow
      refine ⟨fun _ params' requested' first' second h => ?_,
        fun _ => attributed_of_recorded_none hrow⟩
      obtain ⟨rfl, -, -⟩ := reached.unique h.1
      exact (nomatch hsecond.symm.trans h.2)
    | ok second =>
      refine (hprocessing.attributed_iff hmap hrecord hsecond concluded).trans
        ⟨fun hall params' requested' first' second' h => ?_,
          fun hall => hall params requested first second ⟨reached, hsecond⟩⟩
      obtain ⟨rfl, rfl, rfl⟩ := reached.unique h.1
      obtain rfl := Except.ok.inj (hsecond.symm.trans h.2)
      exact hall

open Sample PaymentCheckoutSaga in
/-- Both selections are made with the same health, and the charge is answered at once. -/
theorem provider_attributed_answered :
    persisted ((execute (answered .SUCCEEDED) input).run Db.empty).1 input.paymentId =
        some (.SUCCEEDED, some .STRIPE, some "tx-1") ∧
      Attributed (chargeLog (answered .SUCCEEDED) input)
        ((execute (answered .SUCCEEDED) input).run Db.empty).1 input.paymentId := by
  refine ⟨by decide +kernel, (provider_attributed_iff (answered .SUCCEEDED) input Db.empty rfl rfl
    (untagged_ok ())).2 ?_⟩
  intro params requested first second h provider outcome hconcludes _
  obtain rfl := Except.ok.inj (h.first.symm.trans h.second)
  cases hconcludes with
  | primary => rfl
  | fallback failed => exact absurd rfl failed

namespace Sample

/-- Stripe declines the charge, and its fallback Adyen accepts it. -/
def declinedByStripe : PaymentCheckoutSaga.CheckoutEnv :=
  checkoutEnv fun _ provider =>
    if provider = .STRIPE then .error (.psp "Your card was declined." false (some 402))
    else .ok { status := .SUCCEEDED, transactionId := "tx-1" }

end Sample

open Sample PaymentCheckoutSaga in
/-- The transaction is Adyen's, and Stripe is on record for it. -/
theorem attributed_to_first_selection :
    persisted ((execute declinedByStripe input).run Db.empty).1 input.paymentId =
        some (.SUCCEEDED, some .STRIPE, some "tx-1") ∧
      (chargeLog declinedByStripe input).map
          (fun invocation => (invocation.provider, invocation.outcome.toBool)) =
        [(.STRIPE, false), (.ADYEN, true)] ∧
      ¬ Attributed (chargeLog declinedByStripe input)
        ((execute declinedByStripe input).run Db.empty).1 input.paymentId := by
  have hpersisted : persisted ((execute declinedByStripe input).run Db.empty).1 input.paymentId =
      some (.SUCCEEDED, some .STRIPE, some "tx-1") := by decide +kernel
  refine ⟨hpersisted, by decide +kernel, fun h => ?_⟩
  obtain ⟨invocation, response, hlast, -, -, heq⟩ := h.1 _ _ _ hpersisted
  have hadyen : (chargeLog declinedByStripe input).getLast?.map Invocation.provider =
      some .ADYEN := by decide +kernel
  rw [hlast] at hadyen
  exact absurd (heq.trans hadyen) (by decide)

end OmniSwitch
