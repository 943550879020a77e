import OmniSwitch.Calendar

/-!
# Delegations and their spend policies

`spend-policy.vo.ts` and `delegation.aggregate.ts`: what a merchant lets an agent spend, the counter
of what was spent in the current calendar month, and the two updates of the counter that
`delegation-typeorm.repository.ts` makes in one statement each.  A row that is loaded is the
delegation that was saved, so rows are kept as delegations.  The agent's name and signing key, which
nothing below reads, are left out.
-/

namespace OmniSwitch

/-- A spend policy: its limits and its approval threshold are in one currency, and no threshold
exceeds the limit it sits under. -/
structure SpendPolicy where
  perTransactionLimit : Money
  monthlyLimit : Money
  allowedCategories : Option (List String)
  requireApprovalAboveAmount : Option Money
  sameCurrency : perTransactionLimit.currency.code = monthlyLimit.currency.code
  limit_le : perTransactionLimit.amountMinorUnits ≤ monthlyLimit.amountMinorUnits
  threshold_le : ∀ threshold ∈ requireApprovalAboveAmount,
    threshold.currency.code = perTransactionLimit.currency.code ∧
      threshold.amountMinorUnits ≤ perTransactionLimit.amountMinorUnits
  deriving DecidableEq, Repr

namespace SpendPolicy

/-- Source: `SpendPolicy.create` -/
def create (perTransactionLimit monthlyLimit : Money) (allowedCategories : Option (List String))
    (requireApprovalAboveAmount : Option Money) : Except AppError SpendPolicy :=
  let one := perTransactionLimit.currency.code
  let month := monthlyLimit.currency.code
  -- an empty list of categories is no restriction
  let categories := allowedCategories.filter fun categories => !categories.isEmpty
  if sameCurrency : perTransactionLimit.currency.code = monthlyLimit.currency.code then
    if limit_le : perTransactionLimit.amountMinorUnits ≤ monthlyLimit.amountMinorUnits then
      match requireApprovalAboveAmount with
      | none => .ok ⟨perTransactionLimit, monthlyLimit, categories, none, sameCurrency, limit_le,
          fun _ h => nomatch h⟩
      | some threshold =>
        let above := threshold.currency.code
        if hcurrency : threshold.currency.code = perTransactionLimit.currency.code then
          if hle : threshold.amountMinorUnits ≤ perTransactionLimit.amountMinorUnits then
            .ok ⟨perTransactionLimit, monthlyLimit, categories, some threshold, sameCurrency,
              limit_le, fun _ h => Option.mem_some.1 h ▸ ⟨hcurrency, hle⟩⟩
          else
            .error (.plain ("requireApprovalAboveAmount cannot exceed perTransactionLimit " ++
              "— it could never trigger"))
        else
          .error (.plain (s!"requireApprovalAboveAmount ({above}) must be in the same currency " ++
            s!"as perTransactionLimit ({one})"))
    else
      .error (.plain "perTransactionLimit cannot exceed monthlyLimit")
  else
    .error (.plain (s!"perTransactionLimit ({one}) and monthlyLimit ({month}) must be in the " ++
      "same currency"))

/-- Source: `SpendPolicy.currency` -/
def currency (policy : SpendPolicy) : String := policy.perTransactionLimit.currency.code

/-- Source: `SpendPolicy.isCategoryAllowed` -/
def isCategoryAllowed (policy : SpendPolicy) (category : Option String) : Bool :=
  match policy.allowedCategories, category with
  | none, _ => true
  | some _, none => false
  | some allowed, some category => category ≠ "" && allowed.contains category

/-- Source: `SpendPolicy.requiresApproval` -/
def requiresApproval (policy : SpendPolicy) (amount : Money) : Except AppError Bool :=
  match policy.requireApprovalAboveAmount with
  | none => .ok false
  | some threshold => amount.isGreaterThan threshold

end SpendPolicy

/-- Source: `DelegationStatus` -/
inductive DelegationStatus where
  | ACTIVE | REVOKED
  deriving DecidableEq, Repr

/-- The calendar month a time falls in, such as `2026-08`.

Source: `delegation.aggregate.ts` `monthKeyOf` -/
def monthKeyOf (date : Date) : String :=
  let month := date.getUTCMonth + 1
  s!"{date.getUTCFullYear}-" ++ (if month < 10 then s!"0{month}" else s!"{month}")

/-- A delegation.  The counter is kept in minor units: it is in the currency of the policy, the one
currency column of the table.

Source: `Delegation`; `DelegationEntity` -/
structure Delegation where
  id : String
  merchantId : String
  spendPolicy : SpendPolicy
  status : DelegationStatus := .ACTIVE
  currentMonthKey : String
  currentMonthSpentMinorUnits : Nat := 0
  jti : String
  tokenExpiresAt : Date
  revokedAt : Option Date := none
  deriving DecidableEq, Repr

namespace Delegation

/-- Source: `Delegation.create` -/
def create (id merchantId : String) (spendPolicy : SpendPolicy) (jti : String)
    (tokenExpiresAt now : Date) : Delegation where
  id := id
  merchantId := merchantId
  spendPolicy := spendPolicy
  currentMonthKey := monthKeyOf now
  jti := jti
  tokenExpiresAt := tokenExpiresAt

variable (delegation : Delegation) (monthKey : String)

/-- Source: `Delegation.currentMonthSpent` -/
def currentMonthSpent : Money :=
  ⟨delegation.currentMonthSpentMinorUnits, delegation.spendPolicy.perTransactionLimit.currency⟩

/-- The minor units spent in a month, as the counter has them:
`CASE WHEN current_month_key = $2 THEN current_month_spent_minor_units ELSE 0 END`.

Source: `DelegationTypeOrmRepository.tryReserveSpend` -/
def spentIn : Nat :=
  if delegation.currentMonthKey = monthKey then delegation.currentMonthSpentMinorUnits else 0

/-- Source: `Delegation.spentThisMonth` -/
def spentThisMonth (now : Date) : Money :=
  if monthKeyOf now = delegation.currentMonthKey then delegation.currentMonthSpent
  else ⟨0, delegation.spendPolicy.perTransactionLimit.currency⟩

/-- Source: `Delegation.revoke` -/
def revoke (now : Date) : Delegation :=
  { delegation with status := .REVOKED, revokedAt := some now }

/-- The counter with an amount reserved in a month, rolled over to that month. -/
def reserve (minorUnits : Nat) : Delegation :=
  { delegation with
    currentMonthSpentMinorUnits := delegation.spentIn monthKey + minorUnits
    currentMonthKey := monthKey }

/-- The `WHERE` clause of a reservation's `UPDATE`.  It compares minor units only.

Source: `DelegationTypeOrmRepository.tryReserveSpend` -/
def Reserves (amount : Money) (now : Date) : Prop :=
  delegation.status = .ACTIVE ∧
    amount.amountMinorUnits ≤ delegation.spendPolicy.perTransactionLimit.amountMinorUnits ∧
    delegation.spentIn (monthKeyOf now) + amount.amountMinorUnits ≤
      delegation.spendPolicy.monthlyLimit.amountMinorUnits

instance (amount : Money) (now : Date) : Decidable (delegation.Reserves amount now) :=
  inferInstanceAs (Decidable (_ ∧ _))

/-- The row after the single `UPDATE` of a reservation.

Source: `DelegationTypeOrmRepository.tryReserveSpend` -/
def tryReserveSpend (amount : Money) (now : Date) : Delegation :=
  if delegation.Reserves amount now then
    delegation.reserve (monthKeyOf now) amount.amountMinorUnits
  else delegation

/-- The `UPDATE` of a release: `GREATEST(current_month_spent_minor_units - $2, 0)`. -/
def releaseSpend (amount : Money) : Delegation :=
  { delegation with
    currentMonthSpentMinorUnits :=
      delegation.currentMonthSpentMinorUnits - amount.amountMinorUnits }

@[simp] lemma reserve_id (minorUnits : Nat) :
    (delegation.reserve monthKey minorUnits).id = delegation.id := rfl

@[simp] lemma reserve_status (minorUnits : Nat) :
    (delegation.reserve monthKey minorUnits).status = delegation.status := rfl

@[simp] lemma reserve_spendPolicy (minorUnits : Nat) :
    (delegation.reserve monthKey minorUnits).spendPolicy = delegation.spendPolicy := rfl

/-- What a reservation keeps, where the row it may leave keeps it. -/
lemma tryReserveSpend_keeps {β : Type} (column : Delegation → β) (amount : Money) (now : Date)
    (h : ∀ monthKey minorUnits,
      column (delegation.reserve monthKey minorUnits) = column delegation) :
    column (delegation.tryReserveSpend amount now) = column delegation := by
  by_cases hreserves : delegation.Reserves amount now
  · rw [tryReserveSpend, if_pos hreserves, h]
  · rw [tryReserveSpend, if_neg hreserves]

lemma tryReserveSpend_id (amount : Money) (now : Date) :
    (delegation.tryReserveSpend amount now).id = delegation.id :=
  delegation.tryReserveSpend_keeps Delegation.id amount now delegation.reserve_id

end Delegation

/-- What `query()` resolves to for an `UPDATE … RETURNING id`: an array of two elements, the rows
returned and their number. -/
def updateResult (rows : List String) : List (List String ⊕ Nat) :=
  [.inl rows, .inr rows.length]

/-- What the repository answers when the `UPDATE` returned these rows: `result.length > 0`, of the
array of two elements.  The port says it is `false` when nothing was reserved.

Source: `DelegationTypeOrmRepository.tryReserveSpend` -/
def reportsReserved (rows : List String) : Bool :=
  0 < (updateResult rows).length

@[simp] lemma reportsReserved_eq (rows : List String) : reportsReserved rows = true := rfl

end OmniSwitch
