import OmniSwitch.Settlement

/-!
# Fallbacks and double charges

An attempt that got no response may have charged the card.  `executeWithFallback` retries the
primary after such an attempt, and goes on to another provider unless the retry got no response
either.  Whether that is safe depends on what the retry came to.

Main results:

* `fallback_safe_iff`: no provider is charged after another may have been, exactly when an ambiguous
  first attempt is followed by one that is answered, ambiguous too, or refused by the PSP.
* `fallback_after_open_breaker`: a retry that the breaker refuses, and one that meets a server
  error.
-/

namespace OmniSwitch

open Lib SmartRouting PaymentProcessor PspHealthStatus

/-! ### Decisions over the registered adapters -/

namespace SmartRouting

lemma eq_of_subperm_singleton {α : Type} {l : List α} {a : α} (h : l.Subperm [a]) :
    l = [] ∨ l = [a] := by
  obtain ⟨l', hperm, hsub⟩ := h
  rcases List.sublist_singleton.1 hsub with rfl | rfl
  · exact .inl hperm.nil_eq.symm
  · exact .inr hperm.singleton_eq.symm

lemma fallbackProviders_registered {context : RoutingContext}
    {healthMap : List PspHealthStatus} {decision : RoutingDecision}
    (hmap : healthMap.map provider = registered)
    (h : selectProvider context healthMap = .ok decision) :
    decision.selectedProvider ∈ registered ∧ (decision.fallbackProviders = [] ∨
      ∃ other ∈ registered, other ≠ decision.selectedProvider ∧
        decision.fallbackProviders = [other]) := by
  obtain ⟨ranked, hperm, hselected, hfallbacks⟩ := selectProvider_ok h
  have hsub : (ranked.map provider).Subperm registered := by
    rw [← hmap]
    exact (hperm.map _).subperm.trans (List.filter_sublist.map _).subperm
  have hmem : decision.selectedProvider ∈ registered := hsub.subset hselected
  refine ⟨hmem, ?_⟩
  have hother : decision.fallbackProviders.Subperm
      (registered.filter (· ≠ decision.selectedProvider)) := by
    rw [hfallbacks]
    exact hsub.filter _
  rcases List.mem_pair.1 hmem with hs | hs <;> rw [hs] at hother ⊢
  · rcases eq_of_subperm_singleton hother with hnil | hone
    · exact .inl hnil
    · exact .inr ⟨.ADYEN, by decide, by decide, hone⟩
  · rcases eq_of_subperm_singleton hother with hnil | hone
    · exact .inl hnil
    · exact .inr ⟨.STRIPE, by decide, by decide, hone⟩

end SmartRouting

/-! ### Safe logs -/

section

variable {T : Type}

/-- The PSP has refused. -/
def declined : Except AppError T → Bool
  | .error (.psp _ false (some statusCode)) => decide (statusCode < 500)
  | _ => false

/-- An attempt that charged, or may have.  A server error is an answer, and a refusal of the
circuit breaker does not reach the PSP: neither has charged.

Source: `PaymentProcessorFactory.executeWithFallback` -/
def mayHaveCharged (outcome : Except AppError T) : Bool := outcome.toBool || noResponse outcome

/-- It is known whether the card was charged. -/
def definite (outcome : Except AppError T) : Bool := outcome.toBool || declined outcome

/-- No other provider is tried before this one has given a definite answer. -/
def Settled (provider : PSPProvider) : List (Invocation T) → Bool
  | [] => true
  | invocation :: log =>
    invocation.provider = provider && (definite invocation.outcome || Settled provider log)

/-- Every attempt that may have charged is settled with its own provider before another one is
tried. -/
def FallbackSafe : List (Invocation T) → Bool
  | [] => true
  | invocation :: log =>
    (!mayHaveCharged invocation.outcome || Settled invocation.provider log) && FallbackSafe log

section

variable (decision : RoutingDecision) (operation : Nat → PSPProvider → Except AppError T)
  (isAvailable : PSPProvider → Bool)

/-- What the last attempt at the primary comes to. -/
def lastAtPrimary : Except AppError T :=
  operation (attemptsAtPrimary decision operation - 1) decision.selectedProvider

/-- The attempts at a decision's fallbacks, from the `n`-th invocation on, and what they come to. -/
def fallbacks (n : Nat) : List (Invocation T) × Except AppError (RouteResult T) :=
  tryFallbacks decision operation isAvailable n false decision.fallbackProviders

/-- What the last attempt at the primary makes of an execution. -/
def concludePrimary (log : List (Invocation T)) :
    Except AppError T → List (Invocation T) × Except AppError (RouteResult T)
  | .ok result => (log ++ [⟨decision.selectedProvider, .ok result⟩],
      .ok ⟨result, decision.selectedProvider, false⟩)
  | .error e =>
    if isAmbiguousOutcomeError e then
      (log ++ [⟨decision.selectedProvider, .error e⟩], .error
        (.psp s!"{decision.selectedProvider} outcome remains ambiguous after one retry." true none))
    else
      let next := fallbacks decision operation isAvailable (attemptsAtPrimary decision operation)
      (log ++ ⟨decision.selectedProvider, .error e⟩ :: next.1, next.2)

/-- An execution is its last attempt at the primary, after the one that was retried if any. -/
lemma executeWithFallback_eq :
    executeWithFallback decision operation isAvailable =
      concludePrimary decision operation isAvailable
        (if retries (operation 0 decision.selectedProvider)
          then [⟨decision.selectedProvider, operation 0 decision.selectedProvider⟩] else [])
        (lastAtPrimary decision operation) := by
  unfold executeWithFallback concludePrimary fallbacks lastAtPrimary
    attemptsAtPrimary
  dsimp only
  cases hfirst : operation 0 decision.selectedProvider with
  | ok result => simp [retries, hfirst]
  | error e =>
    by_cases hretry : isAmbiguousOutcomeError e || isTransientPspError e
    · simp only [retries, hretry, if_true, Nat.add_one_sub_one]
      cases operation 1 decision.selectedProvider with
      | ok result => rfl
      | error e' => cases hambiguous : isAmbiguousOutcomeError e' <;> simp [hambiguous]
    · rw [Bool.or_eq_true, not_or, Bool.not_eq_true, Bool.not_eq_true] at hretry
      simp [retries, hfirst, hretry.1, hretry.2]

lemma executeWithFallback_log :
    (executeWithFallback decision operation isAvailable).1 =
      (if retries (operation 0 decision.selectedProvider)
        then [⟨decision.selectedProvider, operation 0 decision.selectedProvider⟩] else []) ++
      ⟨decision.selectedProvider, lastAtPrimary decision operation⟩ ::
        if mayHaveCharged (lastAtPrimary decision operation) then []
        else (fallbacks decision operation isAvailable
          (attemptsAtPrimary decision operation)).1 := by
  rw [executeWithFallback_eq]
  cases lastAtPrimary decision operation with
  | ok result => rfl
  | error e =>
    have hcharged : mayHaveCharged (Except.error e : Except AppError T) =
        isAmbiguousOutcomeError e := rfl
    rw [hcharged, concludePrimary]
    split_ifs <;> rfl

/-- Over the registered adapters the fallbacks are none, or one attempt at another provider. -/
lemma fallbacks_cases {context : RoutingContext} {healthMap : List PspHealthStatus}
    (hmap : healthMap.map provider = registered)
    (hdecision : selectProvider context healthMap = .ok decision) (n : Nat) :
    (fallbacks decision operation isAvailable n =
        ([], .error (allFailed decision false)) ∧
        ∀ other ∈ decision.fallbackProviders, ¬ isAvailable other) ∨
      ∃ other, decision.fallbackProviders = [other] ∧ isAvailable other ∧
        other ≠ decision.selectedProvider ∧
        fallbacks decision operation isAvailable n = ([⟨other, operation n other⟩],
          match operation n other with
          | .ok result => .ok ⟨result, other, true⟩
          | .error e =>
            .error (allFailed decision (isAmbiguousOutcomeError e))) := by
  unfold fallbacks
  obtain ⟨-, hnone | ⟨other, hreg, hne, hone⟩⟩ :=
    fallbackProviders_registered hmap hdecision
  · rw [hnone]
    exact .inl ⟨rfl, by simp⟩
  · rw [hone]
    simp only [tryFallbacks, getAdapter_of_registered hreg]
    by_cases havail : isAvailable other
    · refine .inr ⟨other, rfl, havail, hne, ?_⟩
      rw [if_pos havail]
      cases operation n other <;> rfl
    · exact .inl ⟨if_neg havail, by simpa using havail⟩

end

/-- A failed attempt, a retry that failed with an answer, and one fallback: what matters is whether
the retry settled a first attempt without response. -/
lemma fallbackSafe_retried {primary other : PSPProvider} (hne : other ≠ primary) (e : AppError)
    {retried : Except AppError T} (hfailed : ¬ retried.toBool) (hanswered : ¬ noResponse retried)
    (last : Except AppError T) :
    FallbackSafe [⟨primary, .error e⟩, ⟨primary, retried⟩, ⟨other, last⟩] =
      (!noResponse (Except.error e : Except AppError T) || declined retried) := by
  have hsettled : Settled primary [⟨primary, retried⟩, ⟨other, last⟩] = declined retried := by
    simp [Settled, definite, hfailed, hne]
  have hcharged : mayHaveCharged retried = false := by
    simp [mayHaveCharged, hfailed, hanswered]
  have hfirst : mayHaveCharged (Except.error e : Except AppError T) =
      noResponse (Except.error e : Except AppError T) := rfl
  rw [FallbackSafe, hsettled, FallbackSafe, hcharged, hfirst]
  simp [FallbackSafe, Settled]

end

/-- **When falling back is safe**, over the registered adapters. -/
theorem fallback_safe_iff {T : Type} (context : RoutingContext) (healthMap : List PspHealthStatus)
    (decision : RoutingDecision) (operation : Nat → PSPProvider → Except AppError T)
    (isAvailable : PSPProvider → Bool)
    (hmap : healthMap.map provider = registered)
    (hdecision : selectProvider context healthMap = .ok decision) :
    FallbackSafe (executeWithFallback decision operation isAvailable).1 ↔
      (noResponse (operation 0 decision.selectedProvider) →
        (operation 1 decision.selectedProvider).toBool ∨
        noResponse (operation 1 decision.selectedProvider) ∨
        declined (operation 1 decision.selectedProvider) ∨
        ∀ other ∈ decision.fallbackProviders, ¬ isAvailable other) := by
  have hcases := fallbacks_cases decision operation isAvailable hmap hdecision
  rw [executeWithFallback_log]
  unfold lastAtPrimary attemptsAtPrimary
  by_cases hretry : retries (operation 0 decision.selectedProvider)
  · simp only [hretry, if_true, Nat.add_one_sub_one, List.singleton_append]
    cases hfirst : operation 0 decision.selectedProvider with
    | ok result =>
      rw [hfirst] at hretry
      exact (nomatch hretry)
    | error e =>
      by_cases hdone : mayHaveCharged (operation 1 decision.selectedProvider)
      · -- the retry succeeded or got no response: no fallback is tried
        rw [if_pos hdone]
        rw [mayHaveCharged, Bool.or_eq_true] at hdone
        refine ⟨fun _ _ => hdone.imp_right Or.inl, fun _ => by simp [FallbackSafe, Settled]⟩
      · rw [if_neg hdone]
        rw [mayHaveCharged, Bool.or_eq_true, not_or] at hdone
        obtain ⟨hfailed, hanswered⟩ := hdone
        rcases hcases 2 with ⟨hnil, hunavailable⟩ | ⟨other, hmem, havailable, hne, hone⟩
        · refine ⟨fun _ _ => .inr (.inr (.inr hunavailable)), fun _ => ?_⟩
          simp [hnil, FallbackSafe, Settled]
        · rw [hone, fallbackSafe_retried hne e hfailed hanswered]
          refine ⟨fun h hnone => .inr (.inr (.inl (by simpa [hnone] using h))), fun h => ?_⟩
          cases hnone : noResponse (Except.error e : Except AppError T) with
          | false => rfl
          | true =>
            rcases h hnone with hok | hagain | hdeclined | hunavailable
            · exact absurd hok hfailed
            · exact absurd hagain hanswered
            · exact hdeclined
            · exact absurd havailable (hunavailable other (by simp [hmem]))
  · -- the first attempt succeeded, or its answer needs no retry
    have hanswered : ¬ noResponse (operation 0 decision.selectedProvider) := by
      cases hfirst : operation 0 decision.selectedProvider with
      | ok result => exact Bool.false_ne_true
      | error e =>
        rw [hfirst, retries, Bool.or_eq_true, not_or] at hretry
        exact hretry.1
    refine ⟨fun _ h => absurd h hanswered, fun _ => ?_⟩
    simp only [hretry, if_false, Bool.false_eq_true, List.nil_append, Nat.sub_self]
    by_cases hdone : mayHaveCharged (operation 0 decision.selectedProvider)
    · simp [hdone, FallbackSafe, Settled]
    · rcases hcases 1 with ⟨hnil, -⟩ | ⟨other, -, -, -, hone⟩
      · simp [hnil, FallbackSafe, hdone]
      · simp [hone, FallbackSafe, Settled, hdone]

namespace Sample

/-- A charge of ten dollars. -/
def context : RoutingContext := ⟨tenDollars, none, "merchant-1", none, none⟩

/-- Two providers, both healthy. -/
def healthMap : List PspHealthStatus := [healthy .STRIPE, healthy .ADYEN]

/-- Stripe, and then Adyen. -/
def decision : RoutingDecision := ⟨.STRIPE, [.ADYEN], ⟨50, usd⟩⟩

lemma selectProvider_healthMap : selectProvider context healthMap = .ok decision := by
  have h : (selectProvider context healthMap).toOption = some decision := by
    decide +kernel
  cases hselect : selectProvider context healthMap with
  | error e =>
    rw [hselect] at h
    exact (nomatch h)
  | ok _ =>
    rw [hselect] at h
    exact congrArg Except.ok (Option.some.inj h)

/-- The first attempt gets no response, the second comes to `retried`, the third is answered. -/
def attempts (retried : Except AppError String) : Nat → PSPProvider → Except AppError String
  | 0, _ => .error (.psp "Stripe request failed with no response: timeout" true none)
  | 1, _ => retried
  | _, _ => .ok "tx-1"

end Sample

open Sample

/-- The retry is declined, and the fallback charges the card: safe. -/
theorem fallback_safe_declined :
    FallbackSafe (executeWithFallback decision
      (attempts (.error (.psp "Your card was declined." false (some 402)))) fun _ => true).1 :=
  (fallback_safe_iff context healthMap decision _ _ rfl selectProvider_healthMap).2
    fun _ => .inr (.inr (.inl rfl))

/-- The first attempt at Stripe gets no response and opens the breaker, which refuses the retry:
Adyen is charged while Stripe may have charged too.  The same happens if the retry meets a server
error. -/
theorem fallback_after_open_breaker :
    selectProvider context healthMap = .ok decision ∧
    ∀ retried ∈ [Except.error (AppError.plain
        "STRIPE circuit breaker is OPEN. Service unavailable."),
        Except.error (AppError.psp "Stripe API error" false (some 503))],
      ((executeWithFallback decision (attempts retried) fun _ => true).1.map
        fun invocation => (invocation.provider, mayHaveCharged invocation.outcome)) =
          [(.STRIPE, true), (.STRIPE, false), (.ADYEN, true)] ∧
      FallbackSafe (executeWithFallback decision (attempts retried)
        fun _ => true).1 = false :=
  ⟨selectProvider_healthMap, by decide⟩

end OmniSwitch
