import OmniSwitch.Services.Billing

/-!
# Cancellation of a subscription

The billing sweep and a change of plan hold a copy of the subscription while a PSP is asked for a
charge, and save every column of it afterwards.  A cancellation that is saved in the meantime is
overwritten.

Requests run interleaved, each stopping anywhere.

Main results:

* `keptBy_apply`, `cancellation_is_final`: one command, and every run of them;
* `cancellation_undone`: saves that overwrite a cancellation.
-/

namespace OmniSwitch

open Lib Prog SubscriptionService BillingCmd BillingDb

variable {db : BillingDb} {subscription : Subscription}

namespace BillingDb

/-- The subscription is canceled. -/
def isCanceled (db : BillingDb) (id : String) : Bool :=
  (db.subscriptions.get id).any (·.status = .CANCELED)

/-- The subscription is to be canceled at the end of its period. -/
def endsWithPeriod (db : BillingDb) (id : String) : Bool :=
  (db.subscriptions.get id).any (·.cancelAtPeriodEnd)

lemma of_mem_findDue {now : Date} (h : subscription ∈ db.findDue now) :
    db.subscriptions.get subscription.id = some subscription ∧ subscription.status ≠ .CANCELED ∧
      subscription.currentPeriodEnd ≤ now := by
  obtain ⟨hmem, hdue⟩ := List.mem_filter.1 ((List.mem_insertionSort _).1 h)
  exact ⟨db.subscriptions.get_of_mem hmem, of_decide_eq_true hdue⟩

end BillingDb

variable {copy : Subscription} {c : BillingCmd}

namespace BillingCmd

/-- A charge request to a PSP for a subscription. -/
def chargesFor (id : String) : BillingCmd → Bool
  | .payments subscriptionId c => subscriptionId = some id && c.chargeRequest.isSome
  | _ => false

/-- The command saves the subscription. -/
def saves (id : String) : BillingCmd → Bool
  | .saveSubscription subscription => subscription.id = id
  | _ => false

/-- What a request does that has read a subscription: charges, unless the subscription is canceled,
and saves of versions that keep a cancellation.

Source: `SubscriptionService.changePlan`, `SubscriptionService.cancel`,
`SubscriptionService.runBillingSweep` -/
def OfCopy (copy : Subscription) : BillingCmd → Prop
  | .payments subscriptionId _ => subscriptionId = some copy.id ∧ copy.status ≠ .CANCELED
  | .saveSubscription subscription => subscription.id = copy.id ∧
      (copy.status = .CANCELED → subscription.status = .CANCELED) ∧
      (copy.cancelAtPeriodEnd → subscription.cancelAtPeriodEnd)
  | .findPlan _ => True
  | _ => False

lemma OfCopy.observes (h : c.OfCopy copy) :
    Commands.observes c = false := by
  cases c with
  | findSubscription id => exact h.elim
  | findDue now => exact h.elim
  | payments subscriptionId c => rfl
  | findPlan id => rfl
  | saveSubscription subscription => rfl

lemma OfCopy.save (hcopy : copy.status ≠ .CANCELED) (hid : subscription.id = copy.id)
    (hmark : subscription.cancelAtPeriodEnd = copy.cancelAtPeriodEnd) :
    (saveSubscription subscription).OfCopy copy :=
  ⟨hid, fun h => absurd h hcopy, fun h => hmark.trans h⟩

/-- The command has nothing to do with the subscription. -/
def Elsewhere (id : String) (c : BillingCmd) : Prop :=
  c.saves id = false ∧ c.chargesFor id = false

lemma elsewhere_payments {id : String} {subscriptionId : Option String}
    (hne : subscriptionId ≠ some id) (c : Cmd) :
    (payments subscriptionId c).Elsewhere id :=
  ⟨rfl, Bool.and_eq_false_imp.2 fun h => absurd (of_decide_eq_true h) hne⟩

end BillingCmd

/-- A save or a charge request for the subscription finds it canceled, and to be canceled at the end
of its period, as its request has read it.

Source: `subscription.service.ts` -/
def findsAsRead (id : String) (seen : Option BillingDb) (c : BillingCmd) (db : BillingDb) : Prop :=
  c.saves id ∨ c.chargesFor id → ∀ read ∈ seen,
    read.isCanceled id = db.isCanceled id ∧ read.endsWithPeriod id = db.endsWithPeriod id

instance (id : String) (seen : Option BillingDb) (c : BillingCmd) (db : BillingDb) :
    Decidable (findsAsRead id seen c db) :=
  inferInstanceAs (Decidable (_ → _))

/-! ### What the requests issue -/

variable (uuidv5 : String → String)

namespace SubscriptionService

section programs

variable {env : BillingEnv} {G : BillingCmd → Prop} {seen : Option BillingDb}

lemma sat_issue (h : G c) :
    Only (fun _ c => G c) seen (env.issue c) :=
  sat_tryAct _ h fun _ => trivial

lemma sat_save (h : G (.saveSubscription subscription)) :
    Only (fun _ c => G c) seen (env.save subscription) :=
  (sat_issue h).andThen fun _ _ => trivial

lemma sat_execute {id : String} {input : PaymentCheckoutSaga.CheckoutSagaInput}
    (h : ∀ c, G (.payments (some id) c)) :
    Only (fun _ c => G c) seen (env.execute id input) :=
  sat_embed (fun _ => rfl) (sat_of_forall h _ none)

lemma sat_getUsablePlanOrThrow {id merchantId : String} (h : ∀ id, G (.findPlan id)) :
    Only (fun _ c => G c) seen
      (PlanService.getUsablePlanOrThrow env id merchantId) := by
  unfold PlanService.getUsablePlanOrThrow PlanService.getOrThrow
  refine Sat.andThen ((sat_issue (h id)).andThen fun _ db => ?_) fun _ plan => ?_
  · cases db.plans.get id <;> trivial
  · split_ifs <;> trivial

variable {copy : Subscription}

lemma sat_countFailure (now : Date) (hcopy : copy.status ≠ .CANCELED)
    (hid : subscription.id = copy.id)
    (hmark : subscription.cancelAtPeriodEnd = copy.cancelAtPeriodEnd) :
    Only (fun _ c => c.OfCopy copy) seen (countFailure env now subscription) := by
  unfold countFailure Subscription.recordFailedCharge
  refine Sat.andThen ?_ fun _ _ => trivial
  refine (sat_save (.save hcopy ?_ ?_)).tryCatch fun _ _ => trivial
  · dsimp only
    split_ifs <;> exact hid
  · dsimp only
    split_ifs <;> exact hmark

lemma sat_saveOrCountFailure (now : Date) (outcome : SweepOutcome)
    (hcopy : copy.status ≠ .CANCELED) (hid : subscription.id = copy.id)
    (hmark : subscription.cancelAtPeriodEnd = copy.cancelAtPeriodEnd) :
    Only (fun _ c => c.OfCopy copy) seen
      (saveOrCountFailure env now subscription outcome) := by
  unfold saveOrCountFailure
  refine Sat.tryCatch ?_ fun _ _ => sat_countFailure now hcopy hid hmark
  exact (sat_save (.save hcopy hid hmark)).andThen fun _ _ => trivial

/-- The cancellation is as in the copy. -/
def VersionOf (copy : Subscription) (subscription : Subscription) : Prop :=
  subscription.id = copy.id ∧ subscription.cancelAtPeriodEnd = copy.cancelAtPeriodEnd

lemma versionOf_advance {r : Subscription × SweepOutcome} (h : advance copy = .ok r) :
    VersionOf copy r.1 := by
  obtain ⟨credit, hcredit, -⟩ := copy.exists_consumeCredit
  unfold advance at h
  rw [hcredit] at h
  obtain rfl := Except.ok.inj h
  exact ⟨rfl, rfl⟩

lemma sat_chargePeriod (now : Date) (hcopy : copy.status ≠ .CANCELED) :
    Sat (fun _ c => c.OfCopy copy) (fun _ r => VersionOf copy r.1) seen
      (chargePeriod uuidv5 env now copy) := by
  have hadvance : ∀ seen, Sat (fun _ c => OfCopy copy c)
      (fun _ r => VersionOf copy r.1) seen (liftM (advance copy) : Billing _) :=
    fun _ => sat_liftM.2 fun _ h => versionOf_advance h
  unfold chargePeriod
  rw [sat_bind, sat_liftM]
  intro amount _
  dsimp only
  split_ifs
  · exact hadvance _
  · refine (sat_issue ⟨rfl, hcopy⟩).andThen fun _ db => ?_
    rw [sat_bind, sat_liftM]
    intro existing _
    split_ifs
    · exact hadvance _
    · refine (sat_execute fun _ => ⟨rfl, hcopy⟩).andThen fun _ result => ?_
      refine sat_liftM.2 fun r h => ?_
      unfold recordResult at h
      split_ifs at h
      · exact versionOf_advance h
      · obtain rfl := Except.ok.inj h
        unfold Subscription.recordFailedCharge
        dsimp only
        split_ifs <;> exact ⟨rfl, rfl⟩

lemma sat_attempt {α : Type} {Q : α → Prop} {prog : Billing α}
    (h : Sat (fun _ c => G c) (fun _ a => Q a) seen prog) :
    Sat (fun _ c => G c) (fun _ r => ∀ a, r = .ok a → Q a) seen (attempt prog) := by
  unfold attempt
  refine Sat.tryCatch ?_ fun _ e => ?_
  · rw [sat_bind]
    exact h.mono (fun _ _ hc => hc) fun _ a ha a' heq => Except.ok.inj heq ▸ ha
  · exact fun a heq => nomatch heq

lemma sat_billOne (now : Date) (hcopy : copy.status ≠ .CANCELED) :
    Only (fun _ c => c.OfCopy copy) seen (billOne uuidv5 env now copy) := by
  unfold billOne
  cases copy.dueAction now with
  | NONE => trivial
  | CANCEL => exact sat_saveOrCountFailure now .canceled hcopy rfl rfl
  | CHARGE =>
    refine sat_bind.2 ((sat_attempt (sat_chargePeriod uuidv5 now hcopy)).mono
      (fun _ _ h => h) fun _ r hr => ?_)
    cases r with
    | error e => exact sat_countFailure now hcopy rfl rfl
    | ok r => exact sat_saveOrCountFailure now r.2 hcopy (hr r rfl).1 (hr r rfl).2

lemma sat_billEach (now : Date) (due : List Subscription)
    (hdue : ∀ copy ∈ due, copy.status ≠ .CANCELED) (counts : SweepCounts) :
    Only (fun _ c => ∃ copy ∈ due, c.OfCopy copy) seen
      (billEach uuidv5 env now due counts) := by
  induction due generalizing seen counts with
  | nil => trivial
  | cons copy due ih =>
    obtain ⟨hcopy, hdue⟩ := List.forall_mem_cons.1 hdue
    have hone : Only (fun _ c => ∃ copy' ∈ copy :: due, OfCopy copy' c)
        seen (billOne uuidv5 env now copy) :=
      (sat_billOne uuidv5 now hcopy).mono (fun _ c hc => ⟨copy, List.mem_cons_self, hc⟩)
        fun _ _ _ => trivial
    refine hone.andThen fun _ outcome => (ih hdue _).mono ?_ fun _ _ _ => trivial
    exact fun _ c ⟨copy', hmem, hc⟩ => ⟨copy', List.mem_cons_of_mem _ hmem, hc⟩

end programs

end SubscriptionService

/-! ### The guarantee -/

/-- What a request guarantees of the subscription `id`, by what it has read: it acts on its copy, or
not on this subscription. -/
def KeepsCancellation (id : String) (seen : Option BillingDb) (c : BillingCmd) : Prop :=
  c.saves id ∨ c.chargesFor id → ∃ read copy, seen = some read ∧
    read.subscriptions.get id = some copy ∧ c.OfCopy copy

namespace SubscriptionService

section guarantee

variable {env : BillingEnv} {id : String} {seen : Option BillingDb}

lemma keepsCancellation_of_read (hsaves : c.saves id = false)
    (hcharges : c.chargesFor id = false) : KeepsCancellation id seen c := by
  rintro (h | h)
  · exact (nomatch hsaves.symm.trans h)
  · exact (nomatch hcharges.symm.trans h)

lemma sat_of_read {α : Type} {read : BillingDb} {prog : Billing α} {seen₀ : Option BillingDb}
    (h : Only (fun _ c => ∃ copy, read.subscriptions.get copy.id = some copy ∧
      OfCopy copy c) seen₀ prog) :
    Only (KeepsCancellation id) (some read) prog := by
  refine (Sat.blind (h.mono ?_ fun _ _ _ => trivial)).mono (fun _ _ hc => hc) fun _ _ _ => trivial
  rintro _ c ⟨copy, hread, hc⟩
  refine ⟨fun hmoves => ?_, hc.observes⟩
  have hid : copy.id = id := by
    rcases hmoves with hmoves | hmoves
    · cases c with
      | saveSubscription subscription => exact hc.1.symm.trans (of_decide_eq_true hmoves)
      | _ => exact (nomatch hmoves)
    · cases c with
      | payments subscriptionId c =>
        obtain ⟨hid, -⟩ := Bool.and_eq_true_iff.1 hmoves
        exact Option.some.inj (hc.1.symm.trans (of_decide_eq_true hid))
      | _ => exact (nomatch hmoves)
  exact ⟨read, copy, rfl, hid ▸ hread, hc⟩

lemma sat_getOrThrow_bind {α : Type} (subscriptionId : String) {f : Subscription → Billing α}
    (hf : ∀ copy, Only (fun _ c => OfCopy copy c) none (f copy)) :
    Only (KeepsCancellation id) seen (getOrThrow env subscriptionId >>= f) := by
  unfold getOrThrow BillingEnv.issue
  rw [Prog.bind_assoc, tryAct_bind]
  refine sat_tryAct _ (keepsCancellation_of_read rfl rfl) fun read => ?_
  change Sat _ _ (some read) ((_ : Billing Subscription) >>= f)
  cases hget : read.subscriptions.get subscriptionId with
  | none => trivial
  | some copy =>
    refine sat_of_read ((hf copy).mono (fun _ c hc => ⟨copy, ?_, hc⟩) fun _ _ _ => trivial)
    rw [Table.key_of_get hget]
    exact hget

lemma sat_cancel (subscriptionId : String) (atPeriodEnd : Bool) :
    Only (KeepsCancellation id) seen
      (SubscriptionService.cancel env subscriptionId atPeriodEnd) := by
  refine sat_getOrThrow_bind subscriptionId fun copy => ?_
  refine (sat_save ?_).andThen fun _ _ => trivial
  unfold Subscription.requestCancellation
  split_ifs with hcanceled himmediate
  · exact ⟨rfl, fun h => h, fun h => h⟩
  · exact ⟨rfl, fun _ => rfl, fun h => h⟩
  · exact ⟨rfl, fun h => absurd h hcanceled, fun _ => rfl⟩

lemma changed_eq_ok {plan : Plan} {credit : Option Money}
    (h : changed copy plan credit = .ok subscription) :
    subscription.id = copy.id ∧ subscription.cancelAtPeriodEnd = copy.cancelAtPeriodEnd := by
  cases credit with
  | none =>
    obtain rfl := Except.ok.inj h
    exact ⟨rfl, rfl⟩
  | some credit =>
    unfold changed Subscription.applyDowngradeCredit at h
    obtain ⟨total, -, hok⟩ := bind_eq_ok.1 h
    obtain rfl := Except.ok.inj hok
    exact ⟨rfl, rfl⟩

/-- A change of plan. -/
lemma sat_changePlan (subscriptionId newPlanId paymentId : String) :
    Only (KeepsCancellation id) seen
      (changePlan env subscriptionId newPlanId paymentId) := by
  refine sat_getOrThrow_bind subscriptionId fun copy => ?_
  split_ifs with hactive
  · trivial
  · have hcopy : copy.status ≠ .CANCELED := by
      rw [not_not.1 hactive]
      decide
    refine (sat_getUsablePlanOrThrow fun _ => trivial).andThen fun seen plan => ?_
    rw [sat_bind, sat_liftM]
    intro prorated _
    have hcharge : Only (fun _ c => c.OfCopy copy) seen
        (chargeProration env copy paymentId prorated.1) := by
      cases prorated.1 with
      | none => trivial
      | some proration =>
        refine (sat_execute fun _ => ⟨rfl, hcopy⟩).andThen fun _ result => ?_
        split_ifs <;> trivial
    refine hcharge.andThen fun _ _ => ?_
    rw [sat_bind, sat_liftM]
    intro subscription hchanged
    obtain ⟨hid, hmark⟩ := changed_eq_ok hchanged
    exact (sat_save (.save hcopy hid hmark)).andThen fun _ _ => trivial

/-- The sweep. -/
lemma sat_runBillingSweep (now : Date) :
    Only (KeepsCancellation id) seen (runBillingSweep uuidv5 env now) := by
  unfold runBillingSweep BillingEnv.issue
  rw [tryAct_bind]
  refine sat_tryAct _ (keepsCancellation_of_read rfl rfl) fun read => ?_
  change Sat _ _ (some read) (billEach uuidv5 env now (read.findDue now) {})
  have hdue : ∀ copy ∈ read.findDue now, copy.status ≠ .CANCELED := fun copy h =>
    (of_mem_findDue h).2.1
  have heach : Only (fun _ c => ∃ copy ∈ read.findDue now, OfCopy copy c)
      none (billEach uuidv5 env now (read.findDue now) {}) :=
    sat_billEach uuidv5 now _ hdue {}
  refine sat_of_read (heach.mono ?_ fun _ _ _ => trivial)
  rintro _ c ⟨copy, hmem, hc⟩
  exact ⟨copy, (of_mem_findDue hmem).1, hc⟩

lemma sat_createSubscription (params : CreateSubscriptionParams) {subscriptionId : String}
    (paymentId : String) (hne : subscriptionId ≠ id) :
    Only (fun _ c => c.Elsewhere id) seen
      (createSubscription env params subscriptionId paymentId) := by
  have hpriced : ∀ seen, Sat (fun _ c => Elsewhere id c)
      (fun _ priced => priced.id = subscriptionId) seen
      (resolvePricing env params subscriptionId) := by
    intro seen
    unfold resolvePricing
    cases truthy params.planId with
    | some planId =>
      refine (sat_getUsablePlanOrThrow fun _ => ⟨rfl, rfl⟩).andThen fun _ plan => ?_
      exact rfl
    | none =>
      dsimp only
      split
      · exact rfl
      · trivial
  have hsave : ∀ {subscription : Subscription}, subscription.id = subscriptionId →
      (saveSubscription subscription).Elsewhere id := fun h =>
    ⟨decide_eq_false fun heq => hne (h.symm.trans heq), rfl⟩
  unfold createSubscription
  refine sat_bind.2 ((hpriced seen).mono (fun _ _ hc => hc) fun _ priced hid => ?_)
  cases params.trialDays.filter (0 < ·) with
  | some trialDays =>
    dsimp only
    rw [sat_bind, sat_liftM]
    intro _ _
    exact (sat_save (hsave hid)).andThen fun _ _ => trivial
  | none =>
    refine (sat_execute fun c => elsewhere_payments (fun h => hne (Option.some.inj h)) c).andThen
      fun _ result => ?_
    split_ifs
    · trivial
    · exact (sat_save (hsave hid)).andThen fun _ _ => trivial

end guarantee

end SubscriptionService

/-! ### Runs -/

/-- The request creates the subscription. -/
def BillingRequest.creates (id : String) : BillingRequest → Bool
  | createSubscription _ _ subscriptionId _ => subscriptionId = id
  | _ => false

/-- What each request saves and charges. -/
lemma sat_billingRequest {id : String} (r : BillingRequest) (hr : r.creates id = false) :
    Only (KeepsCancellation id) none (r.program uuidv5) := by
  have helsewhere : ∀ {prog : Billing Unit},
      Only (fun _ c => Elsewhere id c) none prog →
      Only (KeepsCancellation id) none prog := fun h =>
    h.mono (fun _ _ hc => keepsCancellation_of_read hc.1 hc.2) fun _ _ h => h
  cases r with
  | createSubscription env params subscriptionId paymentId =>
    exact helsewhere ((sat_createSubscription params paymentId (of_decide_eq_false hr)).andThen
      fun _ _ => trivial)
  | changePlan env subscriptionId newPlanId paymentId =>
    exact (sat_changePlan subscriptionId newPlanId paymentId).andThen fun _ _ => trivial
  | cancel env subscriptionId atPeriodEnd =>
    exact (sat_cancel subscriptionId atPeriodEnd).andThen fun _ _ => trivial
  | runBillingSweep env now =>
    exact (sat_runBillingSweep uuidv5 now).andThen fun _ _ => trivial
  | operation op =>
    have hnone : ∀ c, (payments none c).Elsewhere id := fun c =>
      elsewhere_payments (Option.some_ne_none id).symm c
    exact helsewhere (sat_embed (fun _ => rfl) (sat_of_forall hnone _ none))

/-- The requests, none of which has started. -/
def BillingDb.start (uuidv5 : String → String) (db : BillingDb) (requests : List BillingRequest) :
    Pool BillingDb BillingCmd AppError :=
  ⟨db, (requests.map (·.program uuidv5)).map Proc.start⟩

/-- Cancellations are kept. -/
def KeptBy (id : String) (db db' : BillingDb) : Prop :=
  (db.isCanceled id → db'.isCanceled id) ∧ (db.endsWithPeriod id → db'.endsWithPeriod id)

lemma keptBy_of_get_eq {id : String} {db' : BillingDb}
    (h : db'.subscriptions.get id = db.subscriptions.get id) : KeptBy id db db' := by
  unfold KeptBy isCanceled endsWithPeriod
  rw [h]
  exact ⟨fun h => h, fun h => h⟩

/-- **One command**: it keeps a cancellation that its request has read as it finds it. -/
theorem keptBy_apply {id : String} {seen : Option BillingDb}
    (hguarantee : KeepsCancellation id seen c) (hcond : findsAsRead id seen c db) :
    KeptBy id db (Commands.apply c db) := by
  cases c with
  | saveSubscription subscription =>
    by_cases hid : subscription.id = id
    · obtain ⟨read, copy, rfl, hget, -, hstatus, hmark⟩ := hguarantee (.inl (decide_eq_true hid))
      obtain ⟨hcanceled, hends⟩ := hcond (.inl (decide_eq_true hid)) read rfl
      have hput : (db.subscriptions.put subscription).get id = some subscription :=
        hid ▸ db.subscriptions.get_put_self subscription
      have hread : read.isCanceled id = decide (copy.status = .CANCELED) ∧
          read.endsWithPeriod id = copy.cancelAtPeriodEnd := by
        unfold isCanceled endsWithPeriod
        rw [hget]
        exact ⟨rfl, rfl⟩
      have hpost : isCanceled { db with
            subscriptions := db.subscriptions.put subscription } id =
            decide (subscription.status = .CANCELED) ∧
          endsWithPeriod { db with
            subscriptions := db.subscriptions.put subscription } id =
            subscription.cancelAtPeriodEnd := by
        unfold isCanceled endsWithPeriod
        rw [hput]
        exact ⟨rfl, rfl⟩
      constructor
      · intro h
        rw [← hcanceled, hread.1] at h
        exact hpost.1.trans (decide_eq_true (hstatus (of_decide_eq_true h)))
      · intro h
        rw [← hends, hread.2] at h
        exact hpost.2.trans (hmark h)
    · exact keptBy_of_get_eq (db.subscriptions.get_put_of_ne (Ne.symm hid))
  | payments subscriptionId c
  | findPlan id | findSubscription id | findDue now => exact keptBy_of_get_eq rfl

lemma not_isCanceled_of_charges {id : String} {seen : Option BillingDb}
    (hguarantee : KeepsCancellation id seen c) (hcond : findsAsRead id seen c db)
    (hcharges : c.chargesFor id) : db.isCanceled id = false := by
  obtain ⟨read, copy, rfl, hget, hcopy⟩ := hguarantee (.inr hcharges)
  obtain ⟨hcanceled, -⟩ := hcond (.inr hcharges) read rfl
  cases c with
  | payments subscriptionId c =>
    rw [← hcanceled]
    unfold isCanceled
    rw [hget]
    exact decide_eq_false hcopy.2
  | _ => exact (nomatch hcharges)

/-- **Cancellation is final**: in an execution whose saves and charge requests find the cancellation
of a subscription as their requests have read it, a subscription that is canceled at some point
stays canceled from then on and no charge request is sent for it; and one that is to be canceled at
the end of its period stays so. -/
theorem cancellation_is_final (uuidv5 : String → String) (id : String) (db : BillingDb)
    (requests : List BillingRequest) (hcreates : ∀ r ∈ requests, r.creates id = false)
    (before after : List Nat)
    (hcond : ∀ e ∈ ((db.start uuidv5 requests).exec before).1 ++
        (((db.start uuidv5 requests).exec before).2.exec after).1,
      findsAsRead id e.seen e.cmd e.pre) :
    (((db.start uuidv5 requests).exec before).2.state.isCanceled id →
      ((((db.start uuidv5 requests).exec before).2.exec after).2.state.isCanceled id ∧
        ∀ e ∈ (((db.start uuidv5 requests).exec before).2.exec after).1,
          e.cmd.chargesFor id = false)) ∧
      (((db.start uuidv5 requests).exec before).2.state.endsWithPeriod id →
        (((db.start uuidv5 requests).exec before).2.exec after).2.state.endsWithPeriod id) := by
  have hrefl : ∀ db, KeptBy id db db := fun db => keptBy_of_get_eq rfl
  have htrans : ∀ a b c, KeptBy id a b → KeptBy id b c → KeptBy id a c := fun a b c h h' =>
    ⟨fun hc => h'.1 (h.1 hc), fun hc => h'.2 (h.2 hc)⟩
  have hstep : ∀ seen c db, True → Pool.Remembers (fun _ => True) (KeptBy id) seen db →
      KeepsCancellation id seen c → findsAsRead id seen c db →
      True ∧ KeptBy id db (Commands.apply c db) := fun seen c db _ _ hc hcond =>
    ⟨trivial, keptBy_apply hc hcond⟩
  have hstart : Pool.Sound (fun _ => True) (KeptBy id) (KeepsCancellation id)
      (db.start uuidv5 requests) := by
    refine Pool.sound_start trivial fun p hp => ?_
    obtain ⟨r, hr, rfl⟩ := List.mem_map.1 hp
    exact sat_billingRequest uuidv5 r (hcreates r hr)
  obtain ⟨hbefore, hafter⟩ := List.forall_mem_append.1 hcond
  obtain ⟨-, hmiddle, -⟩ := Pool.exec_sound (findsAsRead id) hrefl htrans hstep hstart before
    hbefore
  obtain ⟨hevents, -, hkept⟩ :=
    Pool.exec_sound (findsAsRead id) hrefl htrans hstep hmiddle after hafter
  refine ⟨fun hcanceled => ⟨hkept.1 hcanceled, fun e he => ?_⟩, hkept.2⟩
  by_contra hcharges
  have hnot := not_isCanceled_of_charges (hevents e he).1.guarantee (hafter e he)
    (by simpa using hcharges)
  exact (nomatch hnot.symm.trans ((hevents e he).2.1.1 hcanceled))

namespace Sample

/-- The renewal is due while a cancellation comes in. -/
def sweepAndCancel : List BillingRequest :=
  [.runBillingSweep billingEnv monthly.currentPeriodEnd, .cancel billingEnv "sub_1" false]

/-- The plan is changed while a cancellation at the end of the period comes in. -/
def changeAndCancel : List BillingRequest :=
  [.changePlan billingEnv "sub_1" "plan_2" "payment-1", .cancel billingEnv "sub_1" true]

/-- The cancellation is saved before the other request has started. -/
def inTurn (requests : List BillingRequest) : Pool BillingDb BillingCmd AppError :=
  ((billingDb.start id requests).exec [1, 1]).2

/-- Both have read the subscription when the cancellation is saved. -/
def overtaken (requests : List BillingRequest) : Pool BillingDb BillingCmd AppError :=
  ((billingDb.start id requests).exec [0, 1, 1]).2

end Sample

open Sample

/-- The cancellation comes first: the sweep finds nothing due. -/
theorem cancellation_is_final_in_turn :
    (inTurn sweepAndCancel).state.isCanceled "sub_1" ∧
      ((inTurn sweepAndCancel).exec (List.replicate 12 0)).2.state.isCanceled "sub_1" := by
  have hcanceled : (inTurn sweepAndCancel).state.isCanceled "sub_1" := by decide +kernel
  have hfinal := cancellation_is_final id "sub_1" billingDb sweepAndCancel (by decide) [1, 1]
    (List.replicate 12 0) (by decide +kernel)
  exact ⟨hcanceled, (hfinal.1 hcanceled).1⟩

/-- The sweep has read the subscription when it is canceled: it sends a charge request, and the
subscription is active again.  A change of plan takes back a cancellation at the end of the period.
-/
theorem cancellation_undone :
    ((overtaken sweepAndCancel).state.isCanceled "sub_1" ∧
      ((overtaken sweepAndCancel).exec (List.replicate 12 0)).2.state.isCanceled "sub_1" = false ∧
      (((overtaken sweepAndCancel).exec (List.replicate 12 0)).1.any (·.cmd.chargesFor "sub_1"))) ∧
    (overtaken changeAndCancel).state.endsWithPeriod "sub_1" ∧
      ((overtaken changeAndCancel).exec (List.replicate 12 0)).2.state.endsWithPeriod "sub_1" =
        false := by
  refine ⟨⟨?_, ?_, ?_⟩, ?_, ?_⟩ <;> decide +kernel

end OmniSwitch
