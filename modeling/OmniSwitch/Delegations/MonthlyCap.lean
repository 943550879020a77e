import OmniSwitch.Delegation
import OmniSwitch.Lib.History

/-!
# The monthly limit of a delegation

The `UPDATE` of a reservation that does not fit matches no row, and the repository reports it as
made all the same, so the charge goes on.  The counter of a delegation has one month: a reservation
rolls it over to the month it is made in, and a release subtracts from whatever month the counter is
in by then, which is another month when an approval is denied, or its charge fails, weeks after the
agent asked for it.

Each reservation that was reported is remembered beside the row, with its month and whether it was
released, and so is each release that was not of an outstanding reservation of the counter's month.

Main results:

* `SpendWorld.Capped`, `SpendWorld.Capped.apply`: the cap and the cover of the counter, kept by each
  call whose `UPDATE` matches;
* `monthly_cap`: the cap over every sequence of such calls, up to what releases took from a month
  they do not belong to, which is nothing where every release is punctual;
* `monthly_cap_exceeded`: a refused reservation that goes on, a late release, and a late update.
-/

namespace OmniSwitch

open Lib History Sample

/-- A reservation that was reported as made. -/
structure Reservation where
  month : String
  amount : Money
  released : Bool := false
  deriving DecidableEq, Repr

namespace Reservation

/-- The minor units a reservation holds of a month. -/
def held (month : String) (r : Reservation) : Nat :=
  if r.month = month ∧ r.released = false then r.amount.amountMinorUnits else 0

/-- The reservation once it is released. -/
def release (r : Reservation) : Reservation := { r with released := true }

@[simp] lemma held_release (month : String) (r : Reservation) : r.release.held month = 0 :=
  if_neg fun h => nomatch h.2

end Reservation

open Reservation

/-- The row of a delegation, the reservations made against it, and the releases that lowered the
counter of a month without being of an outstanding reservation of that month. -/
structure SpendWorld where
  delegation : Delegation
  reservations : List Reservation := []
  strays : List (String × Money) := []

namespace SpendWorld

/-- What was reserved in a month and not released, in minor units. -/
def outstanding (w : SpendWorld) (month : String) : Nat :=
  (w.reservations.map (held month)).sum

/-- What was released from a month without being outstanding in it, in minor units. -/
def strayed (w : SpendWorld) (month : String) : Nat :=
  (w.strays.map fun stray => if stray.1 = month then stray.2.amountMinorUnits else 0).sum

end SpendWorld

/-- The two updates of the counter.  A release is of a reservation that was made, named by its
position.

Source: `DelegationPort.tryReserveSpend`, `releaseSpend` -/
inductive SpendCall where
  | tryReserveSpend (amount : Money) (now : Date)
  | releaseSpend (reservation : Nat)

namespace SpendCall

/-- The rows the `UPDATE` of a reservation returns. -/
def reservedRows (w : SpendWorld) (amount : Money) (now : Date) : List String :=
  if w.delegation.Reserves amount now then [w.delegation.id] else []

/-- What a call leaves.  A caller that is told its reservation was made goes on with it.

Source: `DelegationTypeOrmRepository.tryReserveSpend`, `releaseSpend` -/
def apply : SpendCall → SpendWorld → SpendWorld
  | tryReserveSpend amount now, w =>
    { w with
      delegation := w.delegation.tryReserveSpend amount now
      reservations :=
        if reportsReserved (reservedRows w amount now) then
          w.reservations ++ [⟨monthKeyOf now, amount, false⟩]
        else w.reservations }
  | releaseSpend i, w =>
    match w.reservations[i]? with
    | none => w
    | some r =>
      { delegation := w.delegation.releaseSpend r.amount
        reservations := w.reservations.modify i release
        strays :=
          if r.month = w.delegation.currentMonthKey ∧ r.released = false then w.strays
          else w.strays ++ [(w.delegation.currentMonthKey, r.amount)] }

/-- The `UPDATE` of a reservation matches the row, and the reservation is in the month of the
counter or in one with nothing outstanding: the months do not go back. -/
def Fits : SpendCall → SpendWorld → Prop
  | tryReserveSpend amount now, w =>
    w.delegation.Reserves amount now ∧
      (monthKeyOf now = w.delegation.currentMonthKey ∨ w.outstanding (monthKeyOf now) = 0)
  | releaseSpend _, _ => True

/-- A release is of an outstanding reservation of the counter's month. -/
def Punctual : SpendCall → SpendWorld → Prop
  | tryReserveSpend _ _, _ => True
  | releaseSpend i, w =>
    ∀ r ∈ w.reservations[i]?, r.month = w.delegation.currentMonthKey ∧ r.released = false

instance (call : SpendCall) (w : SpendWorld) : Decidable (call.Fits w) :=
  match call with
  | tryReserveSpend _ _ => inferInstanceAs (Decidable (_ ∧ _))
  | releaseSpend _ => inferInstanceAs (Decidable True)

instance (call : SpendCall) (w : SpendWorld) : Decidable (call.Punctual w) :=
  match call with
  | tryReserveSpend _ _ => inferInstanceAs (Decidable True)
  | releaseSpend i => inferInstanceAs (Decidable (∀ r ∈ w.reservations[i]?, _))

end SpendCall

open SpendCall

namespace SpendWorld

/-- What the calls keep. -/
structure Capped (w : SpendWorld) : Prop where
  /-- No month has more outstanding than the limit and what strayed from it. -/
  capped : ∀ month, w.outstanding month ≤
    w.delegation.spendPolicy.monthlyLimit.amountMinorUnits + w.strayed month
  /-- The counter, with what strayed, covers what is outstanding in its month. -/
  covered : w.outstanding w.delegation.currentMonthKey ≤
    w.delegation.currentMonthSpentMinorUnits + w.strayed w.delegation.currentMonthKey

/-! ### What a reservation does -/

/-- The world after a reservation of an amount in a month. -/
def reserve (w : SpendWorld) (month : String) (amount : Money) : SpendWorld :=
  { w with
    delegation := w.delegation.reserve month amount.amountMinorUnits
    reservations := w.reservations ++ [⟨month, amount, false⟩] }

lemma outstanding_reserve (w : SpendWorld) (month : String) (amount : Money) (other : String) :
    (w.reserve month amount).outstanding other =
      w.outstanding other + if month = other then amount.amountMinorUnits else 0 := by
  simp [outstanding, reserve, held]

@[simp] lemma reserve_spendPolicy (w : SpendWorld) (month : String) (amount : Money) :
    (w.reserve month amount).delegation.spendPolicy = w.delegation.spendPolicy := rfl

variable {w : SpendWorld}

/-- A reservation that fits keeps the cap. -/
lemma Capped.reserve (hw : w.Capped) {month : String} {amount : Money}
    (hmonth : month = w.delegation.currentMonthKey ∨ w.outstanding month = 0)
    (hfits : w.delegation.spentIn month + amount.amountMinorUnits ≤
      w.delegation.spendPolicy.monthlyLimit.amountMinorUnits) :
    (w.reserve month amount).Capped := by
  have hcovers : w.outstanding month ≤ w.delegation.spentIn month + w.strayed month := by
    rcases hmonth with rfl | h
    · rw [Delegation.spentIn, if_pos rfl]
      exact hw.covered
    · omega
  constructor
  · intro other
    rw [outstanding_reserve, reserve_spendPolicy]
    change _ ≤ _ + w.strayed other
    -- only the month of the reservation has more outstanding than before
    by_cases hm : month = other
    · rw [if_pos hm, ← hm]
      omega
    · rw [if_neg hm, Nat.add_zero]
      exact hw.capped other
  · change (w.reserve month amount).outstanding month ≤
      w.delegation.spentIn month + amount.amountMinorUnits + w.strayed month
    rw [outstanding_reserve, if_pos rfl]
    omega

lemma apply_tryReserveSpend {amount : Money} {now : Date}
    (h : w.delegation.Reserves amount now) :
    (tryReserveSpend amount now).apply w = w.reserve (monthKeyOf now) amount := by
  rw [apply, reportsReserved_eq, if_pos rfl, Delegation.tryReserveSpend, if_pos h]
  rfl

/-! ### What a release does -/

lemma sum_held_modify {rs : List Reservation} {i : Nat} {r : Reservation} (hr : rs[i]? = some r)
    (month : String) :
    ((rs.modify i release).map (held month)).sum + r.held month =
      (rs.map (held month)).sum := by
  induction rs generalizing i with
  | nil => simp at hr
  | cons x rs ih =>
    cases i with
    | zero =>
      obtain rfl : x = r := by simpa using hr
      simp [List.modify_zero_cons, Nat.add_comm]
    | succ i =>
      have := ih (by simpa using hr)
      simp only [List.modify_succ_cons, List.map_cons, List.sum_cons]
      omega

/-- What a release leaves: the reservation's amount leaves what is outstanding in its month, and
strays from the counter's month if it was not outstanding there. -/
lemma release_counts {i : Nat} {r : Reservation} (hr : w.reservations[i]? = some r)
    (month : String) :
    ((releaseSpend i).apply w).outstanding month + r.held month =
        w.outstanding month ∧
      ((releaseSpend i).apply w).strayed month =
        w.strayed month +
          (if month = w.delegation.currentMonthKey ∧ r.held month = 0 then
            r.amount.amountMinorUnits else 0) := by
  simp only [apply, hr]
  refine ⟨sum_held_modify hr month, ?_⟩
  by_cases hown : r.month = w.delegation.currentMonthKey ∧ r.released = false
  · rw [if_pos hown, strayed, strayed]
    by_cases hm : month = w.delegation.currentMonthKey
    · subst hm
      have hheld : r.held w.delegation.currentMonthKey = r.amount.amountMinorUnits := if_pos hown
      grind
    · rw [if_neg fun h => hm h.1, Nat.add_zero]
  · rw [if_neg hown, strayed, strayed, List.map_append, List.sum_append]
    have hheld : r.held w.delegation.currentMonthKey = 0 := if_neg hown
    grind

/-- So does a release. -/
lemma Capped.release (hw : w.Capped) (i : Nat) :
    ((releaseSpend i).apply w).Capped := by
  cases hr : w.reservations[i]? with
  | none =>
    rw [apply, hr]
    exact hw
  | some r =>
    have hcounts := release_counts hr
    have hrow : ((releaseSpend i).apply w).delegation =
        w.delegation.releaseSpend r.amount := by
      rw [apply, hr]
    constructor
    · intro month
      have := hcounts month
      have := hw.capped month
      rw [hrow]
      change _ ≤ w.delegation.spendPolicy.monthlyLimit.amountMinorUnits + _
      split at * <;> omega
    · rw [hrow]
      change ((releaseSpend i).apply w).outstanding w.delegation.currentMonthKey ≤
        w.delegation.currentMonthSpentMinorUnits - r.amount.amountMinorUnits +
          ((releaseSpend i).apply w).strayed w.delegation.currentMonthKey
      obtain ⟨hout, hstray⟩ := hcounts w.delegation.currentMonthKey
      have hcovered := hw.covered
      -- a reservation of this month leaves both sides; any other one lowers the counter only
      by_cases hheld : r.held w.delegation.currentMonthKey = 0
      · rw [if_pos ⟨rfl, hheld⟩] at hstray
        omega
      · have hfull : r.held w.delegation.currentMonthKey = r.amount.amountMinorUnits := by
          unfold held at hheld ⊢
          split_ifs at hheld ⊢
          · rfl
          · exact absurd rfl hheld
        rw [if_neg fun h => hheld h.2] at hstray
        omega

/-- So does every call that fits. -/
lemma Capped.apply (hw : w.Capped) (call : SpendCall) (hfits : call.Fits w) :
    (call.apply w).Capped := by
  cases call with
  | tryReserveSpend amount now =>
    obtain ⟨hreserves, hmonth⟩ := hfits
    rw [apply_tryReserveSpend hreserves]
    exact hw.reserve hmonth hreserves.2.2
  | releaseSpend i => exact hw.release i

end SpendWorld

/-! ### The cap -/

lemma SpendCall.apply_spendPolicy (call : SpendCall) (w : SpendWorld) :
    (call.apply w).delegation.spendPolicy = w.delegation.spendPolicy := by
  cases call with
  | tryReserveSpend amount now =>
    exact w.delegation.tryReserveSpend_keeps Delegation.spendPolicy amount now
      w.delegation.reserve_spendPolicy
  | releaseSpend i =>
    rw [apply]
    cases w.reservations[i]? <;> rfl

lemma SpendCall.apply_strays {call : SpendCall} {w : SpendWorld} (hpunctual : call.Punctual w)
    (h : w.strays = []) : (call.apply w).strays = [] := by
  cases call with
  | tryReserveSpend amount now => exact h
  | releaseSpend i =>
    rw [apply]
    cases hr : w.reservations[i]? with
    | none => exact h
    | some r => exact (if_pos (hpunctual r hr)).trans h

/-- After every sequence of reservations and releases in which every reservation fits, what is
outstanding in a month is at most the monthly limit and what strayed from that month, and the
counter with what strayed covers what is outstanding in its month.  Where every release is of an
outstanding reservation of the counter's month, nothing strays. -/
theorem monthly_cap (delegation : Delegation) (calls : List SpendCall)
    (hfits : ∀ moment ∈ moments apply { delegation } calls, moment.1.Fits moment.2) :
    (∀ month, (after apply { delegation } calls).outstanding month ≤
      delegation.spendPolicy.monthlyLimit.amountMinorUnits +
        (after apply { delegation } calls).strayed month) ∧
    (after apply { delegation } calls).outstanding
        (after apply { delegation } calls).delegation.currentMonthKey ≤
      (after apply { delegation } calls).delegation.currentMonthSpentMinorUnits +
        (after apply { delegation } calls).strayed
          (after apply { delegation } calls).delegation.currentMonthKey ∧
    ((∀ moment ∈ moments apply { delegation } calls, moment.1.Punctual moment.2) →
      ∀ month, (after apply { delegation } calls).strayed month = 0) := by
  have hstart : SpendWorld.Capped { delegation } :=
    ⟨fun _ => Nat.zero_le _, Nat.zero_le _⟩
  have hpolicy := @keeps _ _ apply
    (fun w => w.delegation.spendPolicy = delegation.spendPolicy) Fits
    (fun call w hw _ => (call.apply_spendPolicy w).trans hw) { delegation } rfl calls hfits
  have hw := keeps apply
    (fun call w (hw : w.Capped) hfits => hw.apply call hfits) hstart calls hfits
  refine ⟨fun month => hpolicy ▸ hw.capped month, hw.covered, fun hpunctual month => ?_⟩
  have hstrays := @keeps _ _ apply (fun w => w.strays = []) Punctual
    (fun _ _ h hpunctual => apply_strays hpunctual h) { delegation } rfl calls hpunctual
  rw [SpendWorld.strayed, hstrays]
  rfl

namespace Sample

/-- A limit of 100 dollars a month, and of 90 for a charge. -/
def delegation : Delegation where
  id := "del_1"
  merchantId := "m_1"
  spendPolicy := ⟨⟨9000, usd⟩, ⟨10000, usd⟩, none, none, rfl, by decide, fun _ h => nomatch h⟩
  currentMonthKey := "2026-01"
  jti := "jti_1"
  tokenExpiresAt := 0

/-- 31 January 2026. -/
def january : Date := 1769817600000

/-- 1 February 2026. -/
def february : Date := 1769904000000

/-- A reservation of January is released in January, one of February in February. -/
def punctualCalls : List SpendCall :=
  [.tryReserveSpend ⟨6000, usd⟩ january, .releaseSpend 0, .tryReserveSpend ⟨9000, usd⟩ january,
    .tryReserveSpend ⟨8000, usd⟩ february, .releaseSpend 2]

/-- Two charges that have both been checked against the counter before either is reserved. -/
def racingCalls : List SpendCall :=
  [.tryReserveSpend ⟨6000, usd⟩ january, .tryReserveSpend ⟨6000, usd⟩ january]

/-- An approval asked for in January is denied in February. -/
def lateCalls : List SpendCall :=
  [.tryReserveSpend ⟨6000, usd⟩ january, .tryReserveSpend ⟨8000, usd⟩ february, .releaseSpend 0,
    .tryReserveSpend ⟨8000, usd⟩ february]

/-- The update of a request that came in before midnight is made after that of a later one. -/
def overtakenCalls : List SpendCall :=
  [.tryReserveSpend ⟨8000, usd⟩ january, .tryReserveSpend ⟨1000, usd⟩ february,
    .tryReserveSpend ⟨8000, usd⟩ january]

end Sample

/-- Reservations of two months that are released in time. -/
theorem monthly_cap_punctual :
    (∀ moment ∈ moments apply { delegation := delegation } punctualCalls,
      moment.1.Fits moment.2 ∧ moment.1.Punctual moment.2) ∧
    (after apply { delegation := delegation } punctualCalls).outstanding "2026-01" ≤ 10000 ∧
    (after apply { delegation := delegation } punctualCalls).outstanding "2026-01" = 9000 := by
  have hcalls : ∀ moment ∈ moments apply { delegation := delegation } punctualCalls,
      moment.1.Fits moment.2 ∧ moment.1.Punctual moment.2 := by decide +kernel
  obtain ⟨hcap, -, hstrayed⟩ :=
    monthly_cap delegation punctualCalls fun moment hmoment => (hcalls moment hmoment).1
  refine ⟨hcalls, (hcap "2026-01").trans_eq ?_, by decide +kernel⟩
  rw [hstrayed fun moment hmoment => (hcalls moment hmoment).2]
  rfl

/-- With a limit of 100 dollars, two charges of 60 dollars that were checked before either was
reserved are both reported as reserved: 120 dollars are outstanding, and the counter is at 60.  The
release of a January reservation in February leaves 160 dollars outstanding in February, above the
limit and above the counter; and so does, in January, an update for January made after the counter
moved on. -/
theorem monthly_cap_exceeded :
    delegation.spendPolicy.monthlyLimit.amountMinorUnits = 10000 ∧
    (after apply { delegation := delegation } racingCalls).outstanding "2026-01" = 12000 ∧
    (after apply { delegation := delegation } racingCalls).delegation.currentMonthSpentMinorUnits =
      6000 ∧
    (after apply { delegation := delegation } lateCalls).outstanding "2026-02" = 16000 ∧
    (after apply { delegation := delegation } lateCalls).delegation.currentMonthKey = "2026-02" ∧
    (after apply { delegation := delegation } lateCalls).delegation.currentMonthSpentMinorUnits =
      10000 ∧
    (after apply { delegation := delegation } overtakenCalls).outstanding "2026-01" = 16000 ∧
    (after apply { delegation := delegation } overtakenCalls).strayed "2026-01" = 0 := by
  refine ⟨rfl, ?_, ?_, ?_, ?_, ?_, ?_, ?_⟩ <;> decide +kernel

end OmniSwitch
