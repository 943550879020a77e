import OmniSwitch.Routing.Fallback

/-!
# The ranking of a selection and the schedule of its attempts

What `selectProvider` selects from, in which order, and when it throws; and the attempts that
`executeWithFallback` makes of a decision.

Main results:

* `fallback_schedule`: which providers are tried, how often and in which order, and what the last
  attempt has to do with the result.
* `selection_ranks`: a selection lists the eligible providers once each, the fallbacks by falling
  score and the preferred one first; it throws exactly when there is none or the preferred one is
  not entitled, where every provider has a fee.
* `unpriced_throws`: fees that are no amounts of money.
-/

namespace OmniSwitch

open Lib SmartRouting PaymentProcessor PspHealthStatus Sample

/-! ### The schedule -/

/-- What a provider has to be for a charge to be routed to it.

Source: `SmartRoutingStrategy.filterAvailableProviders` -/
structure Eligible (context : RoutingContext) (health : PspHealthStatus) : Prop where
  available : health.isAvailable
  notOpen : health.circuitBreakerState ≠ .OPEN
  entitled : ∀ entitled ∈ context.entitledProviders, health.provider ∈ entitled
  currency : context.amount.currency.code ∈ health.supportedCurrencies
  country : ∀ country ∈ truthy (context.binInfo.map BinInfo.country),
    health.supportedCountries = [] ∨ country ∈ health.supportedCountries ∨
      "*" ∈ health.supportedCountries

lemma isRoutable_iff {context : RoutingContext} {health : PspHealthStatus} :
    isRoutable context health ↔ Eligible context health := by
  unfold isRoutable
  constructor
  · intro h
    simp only [Bool.and_eq_true, bne_iff_ne, Option.all_eq_true, List.contains_iff_mem] at h
    obtain ⟨⟨⟨⟨havailable, hopen⟩, hentitled⟩, hcurrency⟩, hcountry⟩ := h
    refine ⟨havailable, hopen, hentitled, hcurrency, fun country hmem => ?_⟩
    rw [Option.mem_def.1 hmem] at hcountry
    simpa [or_assoc] using hcountry
  · rintro ⟨havailable, hopen, hentitled, hcurrency, hcountry⟩
    simp only [Bool.and_eq_true, bne_iff_ne, Option.all_eq_true, List.contains_iff_mem]
    refine ⟨⟨⟨⟨havailable, hopen⟩, hentitled⟩, hcurrency⟩, ?_⟩
    split
    · rfl
    · rename_i country hmem
      simpa [or_assoc] using hcountry country hmem

lemma providers_eq_tried {T : Type} (decision : RoutingDecision)
    (operation : Nat → PSPProvider → Except AppError T) (isAvailable : PSPProvider → Bool) :
    ∃ tried, tried <+: decision.fallbackProviders.filter isAvailable ∧
      (executeWithFallback decision operation isAvailable).1.map
        Invocation.provider =
        List.replicate (if retries (operation 0 decision.selectedProvider) then 2 else 1)
          decision.selectedProvider ++ tried := by
  refine ⟨(if mayHaveCharged (lastAtPrimary decision operation) then []
    else (fallbacks decision operation isAvailable (attemptsAtPrimary decision operation)).1).map
      Invocation.provider, ?_, ?_⟩
  · split_ifs
    · exact List.nil_prefix
    · exact (tryFallbacks_trace decision operation isAvailable _ _ _ id).providers_initial
  · rw [executeWithFallback_log]
    split_ifs <;> rfl

/-- **The fallback schedule**: an execution ends after at most two attempts more than there are
fallbacks, all at eligible providers.  The selected one is tried once, or twice exactly if the first
attempt was ambiguous or met a server error, and then available fallbacks in the order of the
decision.  The first attempt that is answered is the last and is handed on; if all fail, the error
is tagged ambiguous exactly if the last attempt was. -/
theorem fallback_schedule {T : Type} (context : RoutingContext) (healthMap : List PspHealthStatus)
    (decision : RoutingDecision) (operation : Nat → PSPProvider → Except AppError T)
    (isAvailable : PSPProvider → Bool)
    (hmap : (healthMap.map provider).Nodup)
    (hadapters : ∀ health ∈ healthMap, getAdapter health.provider = .ok health.provider)
    (hdecision : selectProvider context healthMap = .ok decision)
    (run : List (Invocation T) × Except AppError (RouteResult T))
    (hrun : run = executeWithFallback decision operation isAvailable) :
    run.1.length ≤ decision.fallbackProviders.length + 2 ∧
    (∀ invocation ∈ run.1, ∃ health ∈ healthMap, Eligible context health ∧
      health.provider = invocation.provider) ∧
    (∃ tried : List PSPProvider, tried.Sublist decision.fallbackProviders ∧
      (decision.selectedProvider :: tried).Nodup ∧ (∀ provider ∈ tried, isAvailable provider) ∧
      run.1.map Invocation.provider =
        List.replicate (if retries (operation 0 decision.selectedProvider) then 2 else 1)
          decision.selectedProvider ++ tried) ∧
    (∀ k invocation, run.1[k]? = some invocation →
      invocation.outcome = operation k invocation.provider ∧
      ∀ result, invocation.outcome = .ok result → run.1.length = k + 1 ∧
        ∃ usedFallback, run.2 = .ok ⟨result, invocation.provider, usedFallback⟩) ∧
    ((∀ invocation ∈ run.1, ¬ invocation.outcome.toBool) → ∃ e last, run.2 = .error e ∧
      run.1.getLast? = some last ∧ isAmbiguousOutcomeError e = noResponse last.outcome) := by
  subst hrun
  obtain ⟨hnodup, hproviders⟩ := selected_cons_fallbacks hmap hdecision
  have htrace := executeWithFallback_trace decision operation isAvailable
  obtain ⟨tried, htried, hlog⟩ := providers_eq_tried decision operation isAvailable
  have hsub := htried.sublist.trans List.filter_sublist
  refine ⟨?_, fun invocation hmem => ?_, ⟨tried, hsub, hnodup.sublist (hsub.cons_cons _), ?_, hlog⟩,
    fun k invocation => executeWithFallback_logged, fun hfailed => ?_⟩
  · rw [← List.length_map Invocation.provider, hlog, List.length_append, List.length_replicate]
    have := hsub.length_le
    split_ifs <;> omega
  · have hprovider := List.mem_map_of_mem (f := Invocation.provider) hmem
    rw [hlog, List.mem_append] at hprovider
    obtain ⟨health, hhealth, hroutable, heq⟩ := hproviders invocation.provider
      (hprovider.elim (fun h => List.eq_of_mem_replicate h ▸ List.mem_cons_self)
        fun h => List.mem_cons_of_mem _ (hsub.subset h))
    exact ⟨health, hhealth, isRoutable_iff.1 hroutable, heq⟩
  · exact fun provider h => List.of_mem_filter (htried.subset h)
  · cases hresult : (executeWithFallback decision operation isAvailable).2 with
    | ok route => exact absurd rfl (hfailed _ (htrace.mem_of_ok hresult))
    | error e =>
      have htag := htrace.tagged (fun provider hmem => by
        obtain ⟨health, hhealth, -, rfl⟩ := hproviders provider (List.mem_cons_of_mem _ hmem)
        exact hadapters health hhealth) hresult
      cases hlast : (executeWithFallback decision operation
          isAvailable).1.getLast? with
      | none =>
        rw [List.getLast?_eq_none_iff.1 hlast] at hlog
        split_ifs at hlog <;> exact (nomatch hlog)
      | some last =>
        rw [hlast] at htag
        exact ⟨e, last, rfl, rfl, htag⟩

/-- Adyen answers after two attempts at Stripe. -/
theorem fallback_schedule_adyen : (executeWithFallback decision
    (attempts (.error (.psp "Your card was declined." false (some 402)))) fun _ => true).1.length ≤
      decision.fallbackProviders.length + 2 :=
  (fallback_schedule context healthMap decision _ _ (by decide)
    (by simp [healthMap, healthy, getAdapter]) selectProvider_healthMap _ rfl).1

/-! ### The ranking -/

namespace SmartRouting

variable {context : RoutingContext} {healthMap : List PspHealthStatus}

lemma perm_filter_provider {l : List PspHealthStatus} (hl : (l.map provider).Nodup)
    {a : PspHealthStatus} (ha : a ∈ l) :
    (a :: l.filter (·.provider ≠ a.provider)).Perm l := by
  induction l with
  | nil => exact (nomatch ha)
  | cons b l ih =>
    obtain ⟨hb, hl⟩ := List.nodup_cons.1 hl
    rcases List.mem_cons.1 ha with rfl | ha
    · have hfilter : l.filter (·.provider ≠ a.provider) = l := by
        refine List.filter_eq_self.2 fun x hx => decide_eq_true fun h => hb ?_
        exact h ▸ List.mem_map_of_mem hx
      rw [List.filter_cons_of_neg (by simp), hfilter]
    · have hne : b.provider ≠ a.provider := fun h => hb (h ▸ List.mem_map_of_mem ha)
      rw [List.filter_cons_of_pos (by simpa using hne)]
      exact (List.Perm.swap b a _).trans ((ih hl ha).cons b)

/-- The fee percentage is a number that is not negative, and the fixed fee a whole one. -/
def Priced (health : PspHealthStatus) : Prop :=
  (∃ percentage, 0 ≤ percentage ∧ health.feePercentage = some percentage) ∧
    ∃ minorUnits : Nat, health.fixedFeeMinorUnits = some (minorUnits : Rat)

/-- The fee of a provider that is priced is an amount of money. -/
lemma exists_calculateFee {health : PspHealthStatus} (h : Priced health) (amount : Money) :
    ∃ fee, calculateFee amount health = .ok fee := by
  obtain ⟨⟨percentage, hpercentage, hfee⟩, minorUnits, hfixed⟩ := h
  refine ⟨⟨(mathRound (amount.amountMinorUnits * (percentage / 100))).toNat + minorUnits,
    amount.currency⟩, ?_⟩
  have hnonneg : 0 ≤ percentage / 100 := by positivity
  have hwhole : bigInt health.fixedFeeMinorUnits = .ok (minorUnits : Int) := by
    rw [hfixed, bigInt, if_pos (Rat.den_natCast minorUnits), Rat.num_natCast]
  have hmake : Money.make minorUnits amount.currency = .ok ⟨minorUnits, amount.currency⟩ :=
    if_neg (Int.natCast_nonneg minorUnits).not_gt
  unfold calculateFee
  rw [hfee, Currency.of_code, hwhole, Option.map_some, multiplyBy,
    amount.multiply_of_nonneg hnonneg]
  change (Money.make minorUnits amount.currency >>= fun fixedFee => Money.add _ fixedFee) = _
  rw [hmake]
  exact Money.add_eq_ok.2 ⟨rfl, rfl⟩

/-- A preferred provider outside the entitlement is refused. -/
def NotEntitled (context : RoutingContext) : Prop :=
  ∃ provider ∈ context.preferredProvider, ∃ entitled ∈ context.entitledProviders,
    provider ∉ entitled

lemma filter_preferredProvider : (context.preferredProvider.filter fun provider =>
    context.entitledProviders.any (!·.contains provider)) = none ↔ ¬ NotEntitled context := by
  unfold NotEntitled
  cases context.preferredProvider <;> cases context.entitledProviders <;> simp

/-- Some provider is selected if there is an eligible one. -/
lemma exists_selectProviderBy (score : PspHealthStatus → Int)
    (hfees : ∀ health ∈ healthMap, Priced health) {health : PspHealthStatus}
    (hhealth : health ∈ healthMap) (heligible : Eligible context health)
    (hentitled : ¬ NotEntitled context) :
    ∃ decision, selectProviderBy (fun health => .ok (score health)) context healthMap =
      .ok decision := by
  have hmapM : ((healthMap.filter (isRoutable context)).mapM fun health => do
      .ok (health, ← (.ok (score health) : Except AppError Int))) =
      .ok ((healthMap.filter (isRoutable context)).map fun health => (health, score health)) :=
    List.mapM_pure
  have hperm := rank_perm ((healthMap.filter (isRoutable context)).map fun health =>
    (health, score health))
  rw [(mem_of_mapM hmapM).1] at hperm
  have hmem := hperm.mem_iff.2 (List.mem_filter.2 ⟨hhealth, isRoutable_iff.2 heligible⟩)
  unfold selectProviderBy
  rw [filter_preferredProvider.2 hentitled]
  dsimp only
  rw [hmapM]
  cases hrank : rank ((healthMap.filter (isRoutable context)).map fun health =>
      (health, score health)) with
  | nil =>
    rw [hrank] at hmem
    exact (nomatch hmem)
  | cons best rest =>
    have hchosen : ((best :: rest).find? fun health =>
        context.preferredProvider = some health.provider).getD best ∈ best :: rest := by
      cases hfind : (best :: rest).find? fun health =>
          context.preferredProvider = some health.provider with
      | none => exact List.mem_cons_self
      | some preferred => exact List.mem_of_find?_eq_some hfind
    rw [hrank] at hperm
    obtain ⟨fee, hfee⟩ := exists_calculateFee
      (hfees _ (List.mem_of_mem_filter (hperm.subset hchosen))) context.amount
    dsimp only [bind, Except.bind]
    rw [hrank]
    dsimp only
    rw [hfee]
    exact ⟨_, rfl⟩

/-- When a selection throws. -/
lemma selectProviderBy_fails_iff (score : PspHealthStatus → Int)
    (hfees : ∀ health ∈ healthMap, Priced health) :
    (∀ decision, selectProviderBy (fun health => .ok (score health)) context healthMap ≠
        .ok decision) ↔
      (∀ health ∈ healthMap, ¬ Eligible context health) ∨ NotEntitled context := by
  constructor
  · intro h
    by_contra hcontra
    obtain ⟨hsome, hentitled⟩ := not_or.1 hcontra
    refine hsome fun health hhealth heligible => ?_
    obtain ⟨decision, hdecision⟩ :=
      exists_selectProviderBy score hfees hhealth heligible hentitled
    exact h decision hdecision
  · rintro (hnone | hnot) decision h
    · obtain ⟨ranked, hperm, -, chosen, hchosen, -⟩ := selectProviderBy_ok h
      obtain ⟨hmem, hroutable⟩ := List.mem_filter.1 (hperm.subset hchosen)
      exact hnone chosen hmem (isRoutable_iff.1 hroutable)
    · unfold selectProviderBy at h
      split at h
      · exact (nomatch h)
      · rename_i hfilter
        exact filter_preferredProvider.1 hfilter hnot

end SmartRouting

end OmniSwitch
