import OmniSwitch.Lib.History
import OmniSwitch.Merchant.Service

/-!
# When a flag was set, and by whom

A change of a risk flag or of the chargeback tier also writes when it was set and by which operator.
What it means to clear, it sets to `undefined`, and the save passes over such a column: the column
keeps what an earlier change wrote.  So the row tells the truth as long as nothing has to be
cleared.

Main results:

* `flag_origins_coherent`: origins are coherent, if nothing has to be cleared;
* `flag_origins_stale`: changes that leave an older origin.
-/

namespace OmniSwitch

open Lib Lib.Prog

/-- The flags that have an origin. -/
inductive FlagKind where
  | ambiguousRisk | amlReview | chargebackMonitoring
  deriving DecidableEq, Repr

/-- What a change sets a flag or the tier to. -/
inductive FlagValue where
  | ambiguousRisk (flagged : Bool)
  | amlReview (flagged : Bool)
  | chargebackMonitoring (tier : ChargebackMonitoringTier)

/-- A change by an operator, or an automatic one. -/
structure FlagChange where
  value : FlagValue
  reason : String
  operator : Option String
  now : Date

namespace FlagChange

/-- The flag that a change is of. -/
def kind (change : FlagChange) : FlagKind :=
  match change.value with
  | .ambiguousRisk _ => .ambiguousRisk
  | .amlReview _ => .amlReview
  | .chargebackMonitoring _ => .chargebackMonitoring

/-- The flag is on, or the tier not `NONE`. -/
def on (change : FlagChange) : Bool :=
  match change.value with
  | .ambiguousRisk flagged => flagged
  | .amlReview flagged => flagged
  | .chargebackMonitoring tier => tier ≠ .NONE

/-- The operation that makes the change. -/
def request (merchantId : String) (change : FlagChange) : MerchantRequest :=
  match change.value, change.operator with
  | .ambiguousRisk flagged, none => .applyAutoAmbiguousRiskFlag merchantId flagged change.reason
  | .ambiguousRisk flagged, some operator =>
    .setAmbiguousRiskFlagManual merchantId flagged change.reason operator
  | .amlReview flagged, none => .applyAutoAmlReviewFlag merchantId flagged change.reason
  | .amlReview flagged, some operator =>
    .setAmlReviewFlagManual merchantId flagged change.reason operator
  | .chargebackMonitoring tier, none =>
    .applyAutoChargebackMonitoringTier merchantId tier change.reason
  | .chargebackMonitoring tier, some operator =>
    .setChargebackMonitoringTierManual merchantId tier change.reason operator

/-- The table after the change. -/
def apply (merchantId : String) (change : FlagChange) (db : MerchantDb) : MerchantDb :=
  (((change.request merchantId).program { now := change.now }).run db).1

end FlagChange

/-- What is stored of a flag's origin. -/
structure FlagOrigin where
  on : Bool
  flaggedAt : Column Date
  flaggedBy : Column String
  deriving DecidableEq, Repr

/-- The origin of a flag. -/
def RiskFlag.origin {τ : Type} (isOn : τ → Bool) (flag : RiskFlag τ) : FlagOrigin :=
  ⟨isOn flag.value, flag.flaggedAt, flag.flaggedBy⟩

/-- The origins in a row. -/
def MerchantEntity.origin (merchant : MerchantEntity) : FlagKind → FlagOrigin
  | .ambiguousRisk => merchant.ambiguousRisk.origin id
  | .amlReview => merchant.amlReview.origin id
  | .chargebackMonitoring => merchant.chargebackMonitoring.origin (· ≠ .NONE)

/-- The time is stored exactly while the flag is on. -/
def FlagOrigin.Coherent (origin : FlagOrigin) : Prop := origin.flaggedAt = .null ↔ origin.on = false

namespace FlagChange

variable {merchantId : String} {db : MerchantDb} {row : MerchantEntity}

/-- What the change makes of the origin of its flag. -/
def origin (change : FlagChange) (old : FlagOrigin) : FlagOrigin where
  on := change.on
  flaggedAt := if change.on then .value change.now else old.flaggedAt
  flaggedBy := change.operator.elim old.flaggedBy .value

lemma get_update {request : MerchantRequest} {edit : MerchantEntity → MerchantEntity}
    (hrow : db.get merchantId = some row) (hedit : (edit row).merchantId = row.merchantId) :
    ((Functor.discard (MerchantService.update request merchantId fun merchant =>
      pure (edit merchant))).run db).1.get merchantId = some ((edit row).mergedInto row) := by
  have hid : (edit row).merchantId = merchantId := hedit.trans (Table.key_of_get hrow)
  change (run (MerchantService.update _ _ _ >>= fun _ => pure ()) db).1.get merchantId = _
  rw [run_bind, MerchantService.update, run_bind, MerchantService.run_getOrThrow, hrow]
  change (db.modify (edit row).merchantId (edit row).mergedInto
    fun _ _ => (edit row).merchantId_mergedInto _).get merchantId = _
  rw [← hid, Table.get_modify_self, hid, hrow]
  rfl

/-- A change writes the origin of its own flag only. -/
lemma get_apply (change : FlagChange) (hrow : db.get merchantId = some row) :
    ∃ row', (change.apply merchantId db).get merchantId = some row' ∧
      row'.origin change.kind = change.origin (row.origin change.kind) ∧
      ∀ kind ≠ change.kind, row'.origin kind = row.origin kind := by
  have hself : ∀ kind, (row.mergedInto row).origin kind = row.origin kind := by
    have hcolumn : ∀ {α : Type} (c : Column α), c.mergedInto c = c := fun c => by cases c <;> rfl
    intro kind
    cases kind <;> exact congrArg₂ (FlagOrigin.mk _) (hcolumn _) (hcolumn _)
  have hon : ∀ {τ : Type} (isOn : τ → Bool) (flag : RiskFlag τ) (value : τ) (reason : String)
      (now : Date) (operator : String),
      ((flag.applyAuto value (isOn value) reason now).mergedInto flag).origin isOn =
        ⟨isOn value, if isOn value then .value now else flag.flaggedAt, flag.flaggedBy⟩ ∧
      ((flag.setManual value (isOn value) reason operator now).mergedInto flag).origin isOn =
        ⟨isOn value, if isOn value then .value now else flag.flaggedAt, .value operator⟩ := by
    intro τ isOn flag value reason now operator
    cases h : isOn value <;>
      simp [RiskFlag.origin, RiskFlag.mergedInto, RiskFlag.applyAuto, RiskFlag.setManual,
        Column.mergedInto, h]
  obtain ⟨value, reason, operator, now⟩ := change
  cases value <;> cases operator <;> refine ⟨_, get_update hrow rfl, ?_, ?_⟩
  any_goals
    intro kind hkind
    cases kind <;> first | exact absurd rfl hkind | exact hself .ambiguousRisk |
      exact hself .amlReview | exact hself .chargebackMonitoring
  · exact (hon id row.ambiguousRisk _ reason now "").1
  · exact (hon id row.ambiguousRisk _ reason now _).2
  · exact (hon id row.amlReview _ reason now "").1
  · exact (hon id row.amlReview _ reason now _).2
  · exact (hon (· ≠ .NONE) row.chargebackMonitoring _ reason now "").1
  · exact (hon (· ≠ .NONE) row.chargebackMonitoring _ reason now _).2

/-- Nothing has to be cleared: an automatic change meets no operator's name, and one that turns the
flag off no time. -/
def Clean (merchantId : String) (change : FlagChange) (db : MerchantDb) : Prop :=
  ∀ row ∈ db.get merchantId,
    (change.operator = none → (row.origin change.kind).flaggedBy = .null) ∧
    (change.on = false → (row.origin change.kind).flaggedAt = .null)

instance (change : FlagChange) : Decidable (Clean merchantId change db) :=
  inferInstanceAs (Decidable (∀ row ∈ db.get merchantId,
    (change.operator = none → (row.origin change.kind).flaggedBy = .null) ∧
    (change.on = false → (row.origin change.kind).flaggedAt = .null)))

end FlagChange

open FlagChange in
/-- **What is stored of a flag's origin is coherent**, if no change has to clear anything: after a
history the time of a flag is stored exactly while it is on, for every flag that was coherent at the
start or was changed since, and after an automatic change no operator is stored with its flag. -/
theorem flag_origins_coherent (merchantId : String) {db : MerchantDb} {row : MerchantEntity}
    (hrow : db.get merchantId = some row) (history : List FlagChange)
    (hclean : ∀ moment ∈ History.moments (apply merchantId) db history,
      Clean merchantId moment.1 moment.2) :
    (∃ row', (History.after (apply merchantId) db history).get merchantId = some row' ∧
      ∀ kind, (row.origin kind).Coherent ∨ kind ∈ history.map FlagChange.kind →
        (row'.origin kind).Coherent) ∧
    ∀ moment ∈ History.moments (apply merchantId) db history, moment.1.operator = none →
      ∀ row' ∈ (moment.1.apply merchantId moment.2).get merchantId,
        (row'.origin moment.1.kind).flaggedBy = .null := by
  have hkinds : history.map FlagChange.kind =
      (History.moments (apply merchantId) db history).map (FlagChange.kind ∘ Prod.fst) := by
    rw [← List.map_map, History.map_fst_moments]
  rw [hkinds]
  refine History.induct (apply merchantId) (fun past db =>
      (∃ row', db.get merchantId = some row' ∧ ∀ kind, (row.origin kind).Coherent ∨
        kind ∈ past.map (FlagChange.kind ∘ Prod.fst) → (row'.origin kind).Coherent) ∧
      ∀ moment ∈ past, moment.1.operator = none →
        ∀ row' ∈ (moment.1.apply merchantId moment.2).get merchantId,
          (row'.origin moment.1.kind).flaggedBy = .null)
    (fun past => ∀ moment ∈ past, Clean merchantId moment.1 moment.2)
    (fun _ _ h moment hmoment => h moment (List.mem_append_left _ hmoment))
    ⟨⟨row, hrow, by simp⟩, nofun⟩ ?_ history hclean
  rintro past change db ⟨⟨row₁, hrow₁, hcoherent⟩, hpast⟩ hclean
  have hnow := hclean (change, db) (by simp) row₁ hrow₁
  obtain ⟨row', hrow', hown, hothers⟩ := change.get_apply hrow₁
  refine ⟨⟨row', hrow', fun kind hkind => ?_⟩, List.forall_mem_append.2 ⟨hpast, ?_⟩⟩
  · by_cases hsame : kind = change.kind
    · subst hsame
      rw [hown]
      unfold FlagOrigin.Coherent FlagChange.origin
      cases hon : change.on with
      | true => simp
      | false => simp [hnow.2 hon]
    · rw [hothers kind hsame]
      refine hcoherent kind (hkind.imp_right fun hmem => ?_)
      rw [List.map_append, List.mem_append] at hmem
      exact hmem.resolve_right fun hlast => hsame (List.mem_singleton.1 hlast)
  · simp only [List.mem_singleton, forall_eq]
    intro hauto row₂ hrow₂
    obtain rfl := Option.some.inj (hrow'.symm.trans hrow₂)
    rw [hown, FlagChange.origin, hauto]
    exact hnow.1 hauto

namespace Sample

/-- A merchant without flags. -/
def unflagged : MerchantDb :=
  Table.empty.put
    { merchantId := "m1", name := "Shop", apiKeySecretHash := "", hmacSecretCiphertext := "" }

/-- A change of the AML review flag. -/
def reviewChange (flagged : Bool) (operator : Option String) (now : Date) : FlagChange :=
  ⟨.amlReview flagged, "hard declines", operator, now⟩

/-- The origin of that flag after a history. -/
def reviewOrigin (history : List FlagChange) : Option FlagOrigin :=
  ((History.after (FlagChange.apply "m1") unflagged history).get "m1").map (·.origin .amlReview)

end Sample

open Sample FlagChange in
theorem flag_origins_coherent_review :
    (∃ row', (History.after (apply "m1") unflagged
        [reviewChange true none 5, reviewChange true (some "ops") 6]).get "m1" = some row' ∧
      ∀ kind, (row'.origin kind).Coherent) := by
  obtain ⟨row', hrow', hcoherent⟩ := (flag_origins_coherent "m1"
    (show unflagged.get "m1" = some _ from rfl)
    [reviewChange true none 5, reviewChange true (some "ops") 6] (by decide +kernel)).1
  refine ⟨row', hrow', fun kind => hcoherent kind (.inl ?_)⟩
  cases kind <;> exact iff_of_true rfl rfl

open Sample in
/-- A flag that is set automatically after an operator's is put down to the operator, and one that
is turned off keeps its time. -/
theorem flag_origins_stale :
    reviewOrigin [reviewChange true (some "ops") 5, reviewChange true none 6] =
      some ⟨true, .value 6, .value "ops"⟩ ∧
    reviewOrigin [reviewChange true none 5, reviewChange false none 6] =
      some ⟨false, .value 5, .null⟩ := by
  decide +kernel

end OmniSwitch
