import OmniSwitch.Services.Billing
import Mathlib.Data.List.Chain

/-!
# The periods of a subscription

`subscription.aggregate.ts` `recordSuccessfulCharge` and `addBillingInterval`;
`subscription.service.ts` `periodPaymentId`.  A renewal starts where the period before it ends,
whenever it is paid, and ends an interval later, so that the periods follow one another without a
gap.  The payment of a period is named by the end of the one before it.

Main results:

* `periods_tile`: periods follow one another, and no two of them share a payment.
-/

namespace OmniSwitch

/-- A period ends after it starts. -/
lemma lt_addBillingInterval (date : Date) (interval : BillingInterval) {count : Nat}
    (h : 1 ≤ count) : date < addBillingInterval date interval count := by
  obtain ⟨hdays, hyear, -, -⟩ := date.monthDays_fields
  have hlater : ∀ n, 12 * date.getUTCFullYear + date.getUTCMonth < n →
      date / msPerDay + Date.epochDay + 1 < Date.monthDays n + date.getUTCDate := by
    intro n hn
    rw [← hdays]
    exact Nat.add_lt_add_right (Date.monthDays_strictMono (by omega) hn) _
  cases interval with
  | day | week => exact Date.lt_make (by omega)
  | month | year => exact Date.lt_make (hlater _ (by omega))

/-! ### What happens to a subscription -/

/-- The methods that the services call, but for those of the credit.

Source: `subscription.aggregate.ts` -/
inductive SubscriptionStep where
  | recordSuccessfulCharge (now : Date)
  | recordFailedCharge (now : Date) (maxAttempts : Nat) (errorCode : Option String)
      (pspProvider : Option PSPProvider)
  | applyPlanChange (plan : Plan)
  | requestCancellation (now : Date) (immediate : Bool)
  | finalizeCancellation (now : Date)

namespace SubscriptionStep

/-- What a step leaves. -/
def apply : SubscriptionStep → Subscription → Subscription
  | recordSuccessfulCharge _, s => s.recordSuccessfulCharge
  | recordFailedCharge now maxAttempts errorCode pspProvider, s =>
    s.recordFailedCharge now maxAttempts errorCode pspProvider
  | applyPlanChange plan, s => s.applyPlanChange plan
  | requestCancellation now immediate, s => s.requestCancellation now immediate
  | finalizeCancellation now, s => s.finalizeCancellation now

/-- What a step is to the schedule: a renewal, a new interval, or nothing. -/
def schedules : SubscriptionStep → Option (Option (BillingInterval × Nat))
  | recordSuccessfulCharge _ => some none
  | applyPlanChange plan => some (some (plan.interval, plan.intervalCount))
  | _ => none

end SubscriptionStep

/-- The periods of a subscription, up to the one that these steps leave it in. -/
def Subscription.periods (s : Subscription) : List SubscriptionStep → List (Date × Date)
  | [] => [(s.currentPeriodStart, s.currentPeriodEnd)]
  | step :: steps =>
    if step.schedules = some none then
      (s.currentPeriodStart, s.currentPeriodEnd) :: (step.apply s).periods steps
    else (step.apply s).periods steps

/-! ### The schedule -/

/-- The periods that a schedule makes. -/
def tile (start stop : Date) (interval : BillingInterval) (count : Nat) :
    List (Option (BillingInterval × Nat)) → List (Date × Date)
  | [] => [(start, stop)]
  | some (interval, count) :: changes => tile start stop interval count changes
  | none :: changes =>
    (start, stop) :: tile stop (addBillingInterval stop interval count) interval count changes

/-- The periods depend on the renewals and the intervals alone. -/
lemma Subscription.periods_eq (s : Subscription) (steps : List SubscriptionStep) :
    s.periods steps = tile s.currentPeriodStart s.currentPeriodEnd s.interval s.intervalCount
      (steps.filterMap SubscriptionStep.schedules) := by
  induction steps generalizing s with
  | nil => rfl
  | cons step steps ih =>
    rw [periods, ih]
    cases step with
    | recordSuccessfulCharge now => rfl
    | recordFailedCharge now maxAttempts errorCode pspProvider =>
      rw [if_neg nofun, SubscriptionStep.apply, recordFailedCharge]
      split_ifs <;> rfl
    | applyPlanChange plan => rfl
    | requestCancellation now immediate =>
      rw [if_neg nofun, SubscriptionStep.apply, requestCancellation]
      split_ifs <;> rfl
    | finalizeCancellation now => rfl

section tile

variable {start stop : Date} (interval : BillingInterval) {count : Nat}
  {changes : List (Option (BillingInterval × Nat))}

lemma head?_tile : (tile start stop interval count changes).head? = some (start, stop) := by
  induction changes generalizing interval count with
  | nil => rfl
  | cons change changes ih =>
    cases change with
    | none => rfl
    | some change => exact ih _

/-- Periods that tile follow one another. -/
lemma tile_spec (h : start < stop) (hcount : 1 ≤ count)
    (hchanges : ∀ change ∈ changes, change.all fun change => 1 ≤ change.2) :
    (tile start stop interval count changes).IsChain (fun p q => q.1 = p.2) ∧
      (∀ p ∈ tile start stop interval count changes, start ≤ p.1 ∧ p.1 < p.2) ∧
      (tile start stop interval count changes).Pairwise fun p q => p.2 < q.2 := by
  induction changes generalizing start stop interval count with
  | nil => simp [tile, h]
  | cons change changes ih =>
    obtain ⟨hchange, hrest⟩ := List.forall_mem_cons.1 hchanges
    cases change with
    | some change => exact ih _ h (by simpa using hchange) hrest
    | none =>
      obtain ⟨hchain, hperiods, hends⟩ := ih interval (lt_addBillingInterval stop interval hcount)
        hcount hrest
      refine ⟨List.isChain_cons.2 ⟨fun q hq => ?_, hchain⟩, List.forall_mem_cons.2
        ⟨⟨le_rfl, h⟩, fun p hp => ?_⟩, List.pairwise_cons.2 ⟨fun q hq => ?_, hends⟩⟩
      · rw [head?_tile] at hq
        obtain rfl := Option.some.inj hq
        rfl
      · exact ⟨h.le.trans (hperiods p hp).1, (hperiods p hp).2⟩
      · exact (hperiods q hq).1.trans_lt (hperiods q hq).2

end tile

lemma periodPaymentId_injective {uuidv5 : String → String} (h : Function.Injective uuidv5)
    (id : String) : Function.Injective (SubscriptionService.periodPaymentId uuidv5 id) := by
  intro t t' heq
  have htext := congrArg String.toList (h heq)
  simp only [toString, String.toList_append, List.append_cancel_left_eq] at htext
  exact Date.toISOString_injective (String.toList_injective htext)

/-- **The periods tile time.**  A subscription is started with a trial of a day or more or with a
first charge, and then renewed any number of times; charges fail in between, and plans are changed.
Its periods follow one another without a gap, none is empty, each ends later than the ones before it
and no two share a payment id; and when the charges succeed, or whether some fail before, does not
change them. -/
theorem periods_tile (params : SubscriptionParams) (hcount : 1 ≤ params.intervalCount) (now : Date)
    (s : Subscription) (hstart : s = .startActive params now ∨
      ∃ trialDays, 1 ≤ trialDays ∧ s = .startTrial params trialDays now)
    (steps : List SubscriptionStep)
    (hplans : ∀ plan, .applyPlanChange plan ∈ steps → 1 ≤ plan.intervalCount)
    (uuidv5 : String → String) (huuid : Function.Injective uuidv5) :
    (s.periods steps).IsChain (fun p q => q.1 = p.2) ∧
      (∀ p ∈ s.periods steps, p.1 < p.2) ∧
      (s.periods steps).Pairwise (fun p q => p.2 < q.2) ∧
      ((s.periods steps).map fun p =>
        SubscriptionService.periodPaymentId uuidv5 s.id p.2).Nodup ∧
      ∀ steps', steps'.filterMap SubscriptionStep.schedules =
        steps.filterMap SubscriptionStep.schedules → s.periods steps' = s.periods steps := by
  have hfirst : s.currentPeriodStart < s.currentPeriodEnd ∧ 1 ≤ s.intervalCount := by
    rcases hstart with rfl | ⟨trialDays, htrial, rfl⟩
    · exact ⟨lt_addBillingInterval now _ hcount, hcount⟩
    · refine ⟨Nat.lt_add_of_pos_right (Nat.mul_pos htrial (by decide)), hcount⟩
  have hchanges : ∀ change ∈ steps.filterMap SubscriptionStep.schedules,
      change.all fun change => 1 ≤ change.2 := by
    intro change hchange
    obtain ⟨step, hstep, hschedules⟩ := List.mem_filterMap.1 hchange
    cases step with
    | applyPlanChange plan =>
      obtain rfl := Option.some.inj hschedules
      simpa using hplans plan hstep
    | recordSuccessfulCharge now =>
      obtain rfl := Option.some.inj hschedules
      rfl
    | _ => exact (nomatch hschedules)
  obtain ⟨hchain, hperiods, hends⟩ := tile_spec s.interval hfirst.1 hfirst.2 hchanges
  simp only [Subscription.periods_eq]
  refine ⟨hchain, fun p hp => (hperiods p hp).2, hends, ?_, fun steps' h => by rw [h]⟩
  refine List.pairwise_map.2 (hends.imp fun {p q} hlt heq => hlt.ne ?_)
  exact periodPaymentId_injective huuid s.id heq

namespace Sample

/-- A subscription by the month, started at the end of January 2026. -/
def endOfMonth : Subscription :=
  .startActive { id := "sub_1", merchantId := "m1", amount := tenDollars, interval := .month,
                 intervalCount := 1, paymentMethodId := "pm_1" } (Date.make 2026 0 31 0)

/-- A charge fails and then succeeds, the plan is changed to one by the week, and two more charges
succeed. -/
def renewals : List SubscriptionStep :=
  [.recordFailedCharge (Date.make 2026 2 3 0) 4 none none,
    .recordSuccessfulCharge (Date.make 2026 2 4 0),
    .applyPlanChange { id := "plan_1", merchantId := "m1", amount := tenDollars, interval := .week,
                       intervalCount := 2 },
    .recordSuccessfulCharge (Date.make 2026 3 3 0), .recordSuccessfulCharge (Date.make 2026 3 17 0)]

end Sample

open Sample in
/-- There is no 31 February: the first period ends on 3 March, and the others follow from there. -/
theorem periods_tile_endOfMonth :
    (endOfMonth.periods renewals).map Prod.snd =
        [Date.make 2026 2 3 0, Date.make 2026 3 3 0, Date.make 2026 3 17 0, Date.make 2026 4 1 0] ∧
      (endOfMonth.periods renewals).IsChain (fun p q => q.1 = p.2) ∧
      ((endOfMonth.periods renewals).map fun p =>
        SubscriptionService.periodPaymentId id "sub_1" p.2).Nodup := by
  have hplans : ∀ plan, .applyPlanChange plan ∈ renewals → 1 ≤ plan.intervalCount := by
    simp [renewals]
  obtain ⟨hchain, -, -, hids, -⟩ := periods_tile _ le_rfl _ endOfMonth (.inl rfl) renewals hplans id
    Function.injective_id
  exact ⟨by decide +kernel, hchain, hids⟩

end OmniSwitch
