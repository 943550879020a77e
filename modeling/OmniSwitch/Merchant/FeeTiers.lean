import OmniSwitch.ChargeParams
import OmniSwitch.Merchant.Service

/-!
# Volume fee tiers

`updateFeeTiers` accepts a schedule with strictly ascending thresholds; `resolvePlatformFeeBps`
scans it up to the first threshold above the volume.  So the scan ends at the greatest threshold
that the volume has reached.

Main results:

* `resolvePlatformFeeBps_greatest`: the rate of the greatest threshold reached.
-/

namespace OmniSwitch

open Lib Lib.Prog MerchantService ChargeLedgerParamsResolver

/-- `BigInt(tier.minVolumeMinorUnits)`; what is accepted is a numeral. -/
def FeeTierEntry.threshold (entry : FeeTierEntry) : Int :=
  (bigInt entry.minVolumeMinorUnits).getD 0

/-- The tier as the resolver reads it. -/
def FeeTierEntry.toFeeTier (entry : FeeTierEntry) : FeeTier :=
  ⟨entry.threshold.toNat, entry.bps⟩

/-- How many tiers the scan passes; the base rate has the index 0. -/
def feeTierIndex (volume : Nat) (tiers : List FeeTier) : Nat :=
  (tiers.takeWhile (·.minVolumeMinorUnits ≤ volume)).length

variable {entries : List FeeTierEntry} {volume : Nat}

/-- What `updateFeeTiers` accepts, it returns as the merchant's schedule. -/
lemma updateFeeTiers_ok {merchantId : String} {db : MerchantDb} {row : MerchantEntity}
    (h : ((updateFeeTiers merchantId entries).run db).2 = .ok row) :
    checkFeeTiers (-1) entries = .ok () ∧ row.feeTiers.getD [] = entries := by
  unfold updateFeeTiers update at h
  rw [run_bind, run_getOrThrow] at h
  cases hget : db.get merchantId with
  | none => simp [hget] at h
  | some merchant =>
    rw [hget] at h
    cases hcheck : checkFeeTiers (-1) entries with
    | error e =>
      rw [hcheck] at h
      cases h
    | ok _ =>
      rw [hcheck] at h
      obtain rfl := Except.ok.inj h
      by_cases hnil : entries = [] <;> simp [hnil]

/-- The thresholds of an accepted schedule ascend, from above the one before it. -/
lemma ascending_of_checkFeeTiers {previous : Int} (h : checkFeeTiers previous entries = .ok ()) :
    (∀ entry ∈ entries, previous < entry.threshold) ∧
      entries.Pairwise fun entry later => entry.threshold < later.threshold := by
  induction entries generalizing previous with
  | nil => simp
  | cons entry entries ih =>
    rw [checkFeeTiers] at h
    cases hparse : bigInt entry.minVolumeMinorUnits with
    | none =>
      rw [hparse] at h
      exact (nomatch h)
    | some threshold =>
      rw [hparse] at h
      dsimp only at h
      split_ifs at h with hle
      have hentry : entry.threshold = threshold := by simp [FeeTierEntry.threshold, hparse]
      obtain ⟨hlater, hpairwise⟩ := ih h
      rw [← hentry] at hle hlater
      refine ⟨List.forall_mem_cons.2 ⟨not_le.1 hle, fun later hmem => ?_⟩,
        List.pairwise_cons.2 ⟨hlater, hpairwise⟩⟩
      exact (not_le.1 hle).trans (hlater later hmem)

/-- The scan, over thresholds that ascend from `0`. -/
lemma tierBps_greatest (hnonneg : ∀ entry ∈ entries, -1 < entry.threshold)
    (h : entries.Pairwise fun entry later => entry.threshold < later.threshold) (bps : Nat) :
    (∀ tier ∈ entries, volume < tier.threshold) ∧
        tierBps volume bps (entries.map FeeTierEntry.toFeeTier) = bps ∨
      ∃ tier ∈ entries, tier.threshold ≤ volume ∧
        (∀ other ∈ entries, other.threshold ≤ volume → other.threshold ≤ tier.threshold) ∧
        tierBps volume bps (entries.map FeeTierEntry.toFeeTier) = tier.bps := by
  induction entries generalizing bps with
  | nil => simp [tierBps]
  | cons entry entries ih =>
    obtain ⟨hentry, hentries⟩ := List.forall_mem_cons.1 hnonneg
    obtain ⟨hlater, hpairwise⟩ := List.pairwise_cons.1 h
    have hreached : entry.toFeeTier.minVolumeMinorUnits ≤ volume ↔ entry.threshold ≤ volume := by
      change entry.threshold.toNat ≤ volume ↔ _
      omega
    rw [List.map_cons, tierBps]
    split_ifs with hle
    · rw [hreached] at hle
      rcases ih hentries hpairwise entry.bps with ⟨hnone, hrate⟩ | ⟨tier, hmem, htier, hmax, hrate⟩
      · refine .inr ⟨entry, by simp, hle, List.forall_mem_cons.2 ⟨fun _ => le_rfl, ?_⟩, hrate⟩
        exact fun other hother hvolume => absurd (hnone other hother) (not_lt.2 hvolume)
      · refine .inr ⟨tier, by simp [hmem], htier, List.forall_mem_cons.2 ⟨fun _ => ?_, hmax⟩, hrate⟩
        exact (hlater tier hmem).le
    · rw [hreached, not_le] at hle
      exact .inl ⟨List.forall_mem_cons.2 ⟨hle, fun tier hmem => hle.trans (hlater tier hmem)⟩, rfl⟩

lemma getElem?_feeTierIndex (volume bps : Nat) (tiers : List FeeTier) :
    (bps :: tiers.map (·.bps))[feeTierIndex volume tiers]? = some (tierBps volume bps tiers) := by
  induction tiers generalizing bps with
  | nil => rfl
  | cons tier tiers ih =>
    simp only [feeTierIndex, tierBps, List.takeWhile_cons] at ih ⊢
    by_cases hle : tier.minVolumeMinorUnits ≤ volume
    · simpa [hle] using ih tier.bps
    · simp [hle]

lemma feeTierIndex_mono (tiers : List FeeTier) : Monotone (feeTierIndex · tiers) := by
  intro volume volume' h
  induction tiers with
  | nil => exact le_rfl
  | cons tier tiers ih =>
    simp only [feeTierIndex, List.takeWhile_cons] at ih ⊢
    by_cases hle : tier.minVolumeMinorUnits ≤ volume
    · simpa [hle, hle.trans h] using ih
    · simp [hle]

/-- **The rate of the greatest threshold reached**: for every schedule that `updateFeeTiers`
accepts, every base rate and every volume.  The index of the tier grows with the volume. -/
theorem resolvePlatformFeeBps_greatest {merchantId : String} {db : MerchantDb}
    {row : MerchantEntity} (haccepted : ((updateFeeTiers merchantId entries).run db).2 = .ok row)
    (merchant : Merchant) (hmerchant : merchant.feeTiers = row.feeTiers.map (·.map (·.toFeeTier)))
    (env : ChargeEnv) :
    ((∀ tier ∈ entries, env.volume < tier.threshold) ∧
        resolvePlatformFeeBps env merchant = merchant.platformFeeBps ∨
      ∃ tier ∈ entries, tier.threshold ≤ env.volume ∧
        (∀ other ∈ entries, other.threshold ≤ env.volume → other.threshold ≤ tier.threshold) ∧
        resolvePlatformFeeBps env merchant = tier.bps) ∧
    (merchant.platformFeeBps :: entries.map (·.bps))[feeTierIndex env.volume
        (entries.map (·.toFeeTier))]? = some (resolvePlatformFeeBps env merchant) ∧
    Monotone (feeTierIndex · (entries.map (·.toFeeTier))) := by
  obtain ⟨hcheck, hstored⟩ := updateFeeTiers_ok haccepted
  obtain ⟨hnonneg, hpairwise⟩ := ascending_of_checkFeeTiers hcheck
  have htiers : merchant.feeTiers.getD [] = entries.map (·.toFeeTier) := by
    rw [hmerchant, ← hstored]
    cases row.feeTiers <;> rfl
  have hrate : resolvePlatformFeeBps env merchant =
      tierBps env.volume merchant.platformFeeBps (entries.map (·.toFeeTier)) := by
    rw [← htiers]
    rfl
  rw [hrate]
  refine ⟨tierBps_greatest hnonneg hpairwise _, ?_, feeTierIndex_mono _⟩
  have hindex := getElem?_feeTierIndex env.volume merchant.platformFeeBps
    (entries.map (·.toFeeTier))
  rwa [List.map_map] at hindex

namespace Sample

/-- The second threshold is 512. -/
def schedule : List FeeTierEntry := [⟨"100", 120⟩, ⟨"0x200", 90⟩]

end Sample

open Sample in
/-- A month with a volume of 600 is charged the rate of the second tier. -/
theorem resolvePlatformFeeBps_greatest_second :
    resolvePlatformFeeBps ⟨fun _ => none, 600, fun _ _ => none, Money.convertTo⟩
      (some { merchantId := "m1", feeTiers := some (schedule.map (·.toFeeTier)) }) = 90 ∧
    Monotone (feeTierIndex · (schedule.map (·.toFeeTier))) :=
  ⟨by decide +kernel, (resolvePlatformFeeBps_greatest
    (show ((updateFeeTiers "m1" schedule).run shops).2 =
      .ok { shop with feeTiers := some schedule } from rfl)
    { merchantId := "m1", feeTiers := some (schedule.map (·.toFeeTier)) } rfl
    ⟨fun _ => none, 600, fun _ _ => none, Money.convertTo⟩).2.2⟩

end OmniSwitch
