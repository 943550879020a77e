import OmniSwitch.Subscription

/-!
# Proration of a plan change

A change of plan in the middle of a period charges for the rest of it, or credits it.  Both amounts
are differences of two rounded values, so that they are exact only at the start of the period and at
its end.

Main results:

* `proration_mirrors`: what one change charges, the opposite one credits.
-/

namespace OmniSwitch

open Lib Subscription

namespace Subscription

/-- What is left of a price at a fraction of the period, rounded to minor units. -/
def remainingValue (minorUnits : Nat) (fraction : Rat) : Nat := ⌊minorUnits * fraction + 1 / 2⌋₊

section rounding

variable {a b : Nat} {f f' : Rat}

lemma remainingValue_mono (hf : 0 ≤ f) (hab : a ≤ b) :
    remainingValue a f ≤ remainingValue b f := by
  unfold remainingValue
  gcongr

/-- The difference of the rounded values is at most that of the prices. -/
lemma remainingValue_sub_le (hf : 0 ≤ f) (hf' : f ≤ 1) :
    remainingValue b f - remainingValue a f ≤ b - a := by
  rcases le_total b a with hba | hab
  · have := remainingValue_mono hf hba
    omega
  · have hle : (b * f + 1 / 2 : Rat) ≤ a * f + 1 / 2 + (b - a : Nat) := by
      have hcast : ((b - a : Nat) : Rat) = b - a := Nat.cast_sub hab
      have hprod : ((b - a : Nat) : Rat) * f ≤ (b - a : Nat) :=
        mul_le_of_le_one_right (Nat.cast_nonneg _) hf'
      rw [hcast] at hprod ⊢
      linarith
    have hfloor := Nat.floor_le_floor hle
    rw [Nat.floor_add_natCast (by positivity)] at hfloor
    unfold remainingValue
    omega

/-- It falls with the fraction, up to one minor unit. -/
lemma remainingValue_sub_anti (hf' : 0 ≤ f') (hle : f' ≤ f) :
    remainingValue b f' - remainingValue a f' ≤ remainingValue b f - remainingValue a f + 1 := by
  rcases le_total b a with hba | hab
  · have := remainingValue_mono hf' hba
    omega
  · have hf := hf'.trans hle
    have hprod : (b - a : Rat) * f' ≤ (b - a) * f :=
      mul_le_mul_of_nonneg_left hle (sub_nonneg.2 (Nat.cast_le.2 hab))
    have h₁ : (remainingValue b f' : Rat) ≤ b * f' + 1 / 2 := Nat.floor_le (by positivity)
    have h₂ : (remainingValue a f : Rat) ≤ a * f + 1 / 2 := Nat.floor_le (by positivity)
    have h₃ : (b * f + 1 / 2 : Rat) < remainingValue b f + 1 := Nat.lt_floor_add_one _
    have h₄ : (a * f' + 1 / 2 : Rat) < remainingValue a f' + 1 := Nat.lt_floor_add_one _
    have hlt : (remainingValue b f' + remainingValue a f : Rat) <
        remainingValue b f + remainingValue a f' + 2 := by linarith
    have hlt : remainingValue b f' + remainingValue a f <
        remainingValue b f + remainingValue a f' + 2 := by exact_mod_cast hlt
    have := remainingValue_mono hf hab
    omega

lemma remainingValue_one : remainingValue a 1 = a := by
  rw [remainingValue, mul_one, add_comm, Nat.floor_add_natCast (by norm_num)]
  norm_num

lemma remainingValue_zero : remainingValue a 0 = 0 := by
  norm_num [remainingValue]

end rounding

variable (s : Subscription)

lemma remainingFraction_mem (now : Date) :
    0 ≤ s.remainingFraction now ∧ s.remainingFraction now ≤ 1 := by
  unfold remainingFraction
  dsimp only
  split_ifs with htotal
  · have htotal' : (0 : Rat) < ((s.currentPeriodEnd : Int) - s.currentPeriodStart : Int) :=
      Int.cast_pos.2 htotal
    refine ⟨div_nonneg (Int.cast_nonneg (le_max_left _ _)) htotal'.le, (div_le_one htotal').2 ?_⟩
    exact Int.cast_le.2 (max_le htotal.le (min_le_left _ _))
  · exact ⟨le_rfl, zero_le_one⟩

lemma remainingFraction_anti {now later : Date} (h : now ≤ later) :
    s.remainingFraction later ≤ s.remainingFraction now := by
  unfold remainingFraction
  dsimp only
  split_ifs with htotal
  · refine div_le_div_of_nonneg_right (Int.cast_le.2 ?_) (Int.cast_nonneg htotal.le)
    exact max_le_max_left 0 (min_le_min_left _ (Int.sub_le_sub_left (Int.ofNat_le.2 h) _))
  · exact le_rfl

lemma remainingFraction_start {now : Date} (hnow : now ≤ s.currentPeriodStart)
    (hperiod : s.currentPeriodStart < s.currentPeriodEnd) : s.remainingFraction now = 1 := by
  have htotal : (0 : Int) < s.currentPeriodEnd - s.currentPeriodStart :=
    Int.sub_pos_of_lt (Int.ofNat_lt.2 hperiod)
  unfold remainingFraction
  dsimp only
  rw [if_pos htotal, min_eq_left (Int.sub_le_sub_left (Int.ofNat_le.2 hnow) _),
    max_eq_right htotal.le, div_self (Int.cast_ne_zero.2 htotal.ne')]

lemma remainingFraction_end {now : Date} (hnow : s.currentPeriodEnd ≤ now) :
    s.remainingFraction now = 0 := by
  have hleft : (s.currentPeriodEnd : Int) - now ≤ 0 :=
    Int.sub_nonpos_of_le (Int.ofNat_le.2 hnow)
  unfold remainingFraction
  dsimp only
  rw [max_eq_left ((min_le_right _ _).trans hleft)]
  simp

/-- What a change of plan comes to at a fraction of the period. -/
def prorated (dearer cheaper : Money) (fraction : Rat) : Option Money :=
  let difference := remainingValue dearer.amountMinorUnits fraction -
    remainingValue cheaper.amountMinorUnits fraction
  if difference = 0 then none else some ⟨difference, dearer.currency⟩

lemma difference_eq {dearer cheaper : Money} (h : dearer.currency = cheaper.currency)
    (now : Date) : s.difference dearer cheaper now =
      .ok (prorated dearer cheaper (s.remainingFraction now)) := by
  have hmultiply : ∀ m : Money, m.multiply (s.remainingFraction now) =
      .ok ⟨remainingValue m.amountMinorUnits (s.remainingFraction now), m.currency⟩ := by
    intro m
    have hpositive := (s.remainingFraction_mem now).1
    have hround : 0 ≤ ⌊(m.amountMinorUnits * s.remainingFraction now + 1 / 2 : Rat)⌋ :=
      Int.floor_nonneg.2 (by positivity)
    exact if_neg hround.not_gt
  unfold difference prorated
  rw [hmultiply, hmultiply]
  generalize remainingValue dearer.amountMinorUnits (s.remainingFraction now) = more
  generalize remainingValue cheaper.amountMinorUnits (s.remainingFraction now) = less
  have hgreater : Money.isGreaterThan ⟨more, dearer.currency⟩ ⟨less, cheaper.currency⟩ =
      .ok (decide (less < more)) := Money.isGreaterThan_eq_ok.2 ⟨h, rfl⟩
  simp only [bind, Except.bind, hgreater, decide_eq_true_eq]
  by_cases hlt : less < more
  · have hsubtract : Money.subtract ⟨more, dearer.currency⟩ ⟨less, cheaper.currency⟩ =
        .ok ⟨more - less, dearer.currency⟩ := Money.subtract_eq_ok.2 ⟨h, hlt.le, rfl⟩
    rw [if_pos hlt, hsubtract, if_neg (Nat.sub_ne_zero_of_lt hlt)]
    rfl
  · rw [if_neg hlt, if_pos (Nat.sub_eq_zero_of_le (not_lt.1 hlt))]
    rfl

end Subscription

/-- The minor units that are charged or credited. -/
def Money.due (amount : Option Money) : Nat := amount.elim 0 Money.amountMinorUnits

lemma Subscription.due_prorated (dearer cheaper : Money) (f : Rat) :
    Money.due (prorated dearer cheaper f) =
      remainingValue dearer.amountMinorUnits f - remainingValue cheaper.amountMinorUnits f := by
  unfold prorated
  dsimp only
  split_ifs with hzero
  · exact hzero.symm
  · rfl

/-- **Upgrade charges and downgrade credits mirror each other.**  At every instant at most one of
the two is due; the charge of a change is the credit of the change back; both are at most the
difference of the prices, and grow with time by at most the minor unit of a rounding.  Until the
period starts it is the whole difference that is due, and from its end on nothing. -/
theorem proration_mirrors (s s' : Subscription) (hcurrency : s'.amount.currency = s.amount.currency)
    (hperiod : s' = { s with amount := s'.amount }) :
    ∃ charge credit : Date → Option Money,
      (∀ now, s.computeUpgradeProration s'.amount now = .ok (charge now) ∧
        s'.computeDowngradeCredit s.amount now = .ok (charge now) ∧
        s.computeDowngradeCredit s'.amount now = .ok (credit now) ∧
        s'.computeUpgradeProration s.amount now = .ok (credit now)) ∧
      (∀ now, charge now = none ∨ credit now = none) ∧
      (∀ now, Money.due (charge now) ≤ s'.amount.amountMinorUnits - s.amount.amountMinorUnits ∧
        Money.due (credit now) ≤ s.amount.amountMinorUnits - s'.amount.amountMinorUnits) ∧
      (∀ now later, now ≤ later → Money.due (charge later) ≤ Money.due (charge now) + 1 ∧
        Money.due (credit later) ≤ Money.due (credit now) + 1) ∧
      (∀ now, now ≤ s.currentPeriodStart → s.currentPeriodStart < s.currentPeriodEnd →
        Money.due (charge now) = s'.amount.amountMinorUnits - s.amount.amountMinorUnits ∧
        Money.due (credit now) = s.amount.amountMinorUnits - s'.amount.amountMinorUnits) ∧
      ∀ now, s.currentPeriodEnd ≤ now → charge now = none ∧ credit now = none := by
  have hdifference : ∀ {dearer cheaper : Money}, dearer.currency = cheaper.currency → ∀ now,
      s'.difference dearer cheaper now =
        .ok (prorated dearer cheaper (s.remainingFraction now)) := by
    rw [hperiod]
    exact s.difference_eq
  have hcheck : s.assertPlanCurrency s'.amount = .ok () ∧ s'.assertPlanCurrency s.amount = .ok () :=
    ⟨if_pos (congrArg _ hcurrency), if_pos (congrArg _ hcurrency.symm)⟩
  refine ⟨fun now => prorated s'.amount s.amount (s.remainingFraction now),
    fun now => prorated s.amount s'.amount (s.remainingFraction now), fun now => ?_,
    fun now => ?_, fun now => ?_, fun now later hle => ?_, fun now hnow hperiod => ?_,
    fun now hnow => ?_⟩
  · unfold computeUpgradeProration computeDowngradeCredit
    rw [hcheck.1, hcheck.2]
    exact ⟨s.difference_eq hcurrency now, hdifference hcurrency now,
      s.difference_eq hcurrency.symm now, hdifference hcurrency.symm now⟩
  · simp only [prorated, ite_eq_left_iff, reduceCtorEq, imp_false, not_not]
    omega
  · obtain ⟨hpositive, hone⟩ := s.remainingFraction_mem now
    simp only [due_prorated]
    exact ⟨remainingValue_sub_le hpositive hone,
      remainingValue_sub_le hpositive hone⟩
  · have hpositive := (s.remainingFraction_mem later).1
    have hanti := s.remainingFraction_anti hle
    simp only [due_prorated]
    exact ⟨remainingValue_sub_anti hpositive hanti,
      remainingValue_sub_anti hpositive hanti⟩
  · simp only [due_prorated, s.remainingFraction_start hnow hperiod,
      remainingValue_one, and_self]
  · simp [prorated, s.remainingFraction_end hnow, remainingValue_zero]

namespace Sample

/-- A plan of ten dollars a month. -/
def tenDollarPlan : Subscription :=
  startActive ⟨"sub-1", "merchant-1", tenDollars, .month, 1, "pm-1", none⟩ 0

end Sample

open Sample in
/-- It is changed for one of six dollars: when the period starts four dollars are credited and
nothing is charged, and when it ends neither. -/
theorem proration_mirrors_ten :
    tenDollarPlan.computeUpgradeProration ⟨600, usd⟩ 0 = .ok none ∧
      (∃ credit, tenDollarPlan.computeDowngradeCredit ⟨600, usd⟩ 0 = .ok credit ∧
        Money.due credit = 400) ∧
      tenDollarPlan.computeUpgradeProration ⟨600, usd⟩ tenDollarPlan.currentPeriodEnd = .ok none ∧
      tenDollarPlan.computeDowngradeCredit ⟨600, usd⟩ tenDollarPlan.currentPeriodEnd =
        .ok none := by
  obtain ⟨charge, credit, hcomputed, hone, -, -, hstart, hend⟩ :=
    proration_mirrors tenDollarPlan { tenDollarPlan with amount := ⟨600, usd⟩ } rfl rfl
  have hcredit : Money.due (credit 0) = 400 := (hstart 0 le_rfl (by decide +kernel)).2
  have hcharge : charge 0 = none := by
    refine (hone 0).resolve_right fun hnone => ?_
    rw [hnone] at hcredit
    exact nomatch hcredit
  obtain ⟨hcharge', hcredit'⟩ := hend _ le_rfl
  exact ⟨hcharge ▸ (hcomputed 0).1, ⟨credit 0, (hcomputed 0).2.2.1, hcredit⟩,
    hcharge' ▸ (hcomputed _).1, hcredit' ▸ (hcomputed _).2.2.1⟩

end OmniSwitch
