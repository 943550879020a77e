import OmniSwitch.Routing

/-!
# What a selection and an execution come to

The account of `selectProvider` and of `executeWithFallback` that the other modules read: the
providers a decision lists, and the attempts of an execution, in order, with what each came to.

Main results:

* `selectProviderBy_ok`: what a selection lists;
* `executeWithFallback_trace`: which attempts an execution makes.
-/

namespace OmniSwitch

open Lib PaymentProcessor

/-! ### Decisions -/

namespace SmartRouting

/-- The providers with an adapter, in the order of registration.

Source: `PaymentProcessorFactory` -/
def registered : List PSPProvider := [.STRIPE, .ADYEN]

lemma getAdapter_of_registered {provider : PSPProvider} (h : provider ∈ registered) :
    getAdapter provider = .ok provider := by
  rcases List.mem_pair.1 h with rfl | rfl <;> rfl

section

variable {score : PspHealthStatus → Except AppError Int} {context : RoutingContext}
  {healthMap : List PspHealthStatus} {decision : RoutingDecision}

lemma mem_of_mapM {l : List PspHealthStatus} {scored : List (PspHealthStatus × Int)}
    (h : (l.mapM fun health => do .ok (health, ← score health)) = .ok scored) :
    scored.map Prod.fst = l ∧ ∀ x ∈ scored, score x.1 = .ok x.2 := by
  induction l generalizing scored with
  | nil =>
    obtain rfl := Except.ok.inj h
    simp
  | cons health l ih =>
    rw [List.mapM_cons] at h
    obtain ⟨pair, hpair, h⟩ := bind_eq_ok.1 h
    obtain ⟨rest, hrest, h⟩ := bind_eq_ok.1 h
    obtain ⟨n, hscore, hn⟩ := bind_eq_ok.1 hpair
    obtain rfl := Except.ok.inj hn
    obtain rfl := Except.ok.inj h
    obtain ⟨hmap, hall⟩ := ih hrest
    exact ⟨by rw [List.map_cons, hmap], List.forall_mem_cons.2 ⟨hscore, hall⟩⟩

/-- Of two providers of a ranking, the first has the better score. -/
def Ranked (score : PspHealthStatus → Except AppError Int) (a b : PspHealthStatus) : Prop :=
  ∃ m n, score a = .ok m ∧ score b = .ok n ∧ n ≤ m

lemma rank_perm (scored : List (PspHealthStatus × Int)) :
    (rank scored).Perm (scored.map Prod.fst) :=
  (List.perm_insertionSort _ scored).map Prod.fst

lemma rank_pairwise {scored : List (PspHealthStatus × Int)}
    (hscored : ∀ x ∈ scored, score x.1 = .ok x.2) : (rank scored).Pairwise (Ranked score) := by
  have : IsTrans (PspHealthStatus × Int) fun a b => b.2 ≤ a.2 := ⟨fun _ _ _ h h' => h'.trans h⟩
  have : Std.Total fun a b : PspHealthStatus × Int => b.2 ≤ a.2 := ⟨fun a b => le_total b.2 a.2⟩
  refine List.pairwise_map.2 ((List.pairwise_insertionSort _ scored).imp_of_mem ?_)
  intro a b ha hb h
  exact ⟨a.2, b.2, hscored a ((List.mem_insertionSort _).1 ha),
    hscored b ((List.mem_insertionSort _).1 hb), h⟩

/-- **What a selection does**: it ranks the routable providers by score, and chooses the preferred
one if there is one among them and the first otherwise.  The others are the fallbacks. -/
theorem selectProviderBy_ok (h : selectProviderBy score context healthMap = .ok decision) :
    ∃ ranked : List PspHealthStatus, ranked.Perm (healthMap.filter (isRoutable context)) ∧
      ranked.Pairwise (Ranked score) ∧ ∃ chosen ∈ ranked,
      (context.preferredProvider = some chosen.provider ∨
        (∀ health ∈ ranked, context.preferredProvider ≠ some health.provider) ∧
          ranked.head? = some chosen) ∧
      decision.selectedProvider = chosen.provider ∧
      decision.fallbackProviders =
        (ranked.map PspHealthStatus.provider).filter (· ≠ chosen.provider) := by
  unfold selectProviderBy at h
  split at h
  · exact (nomatch h)
  obtain ⟨scored, hscored, h⟩ := bind_eq_ok.1 h
  obtain ⟨hmap, hall⟩ := mem_of_mapM hscored
  have hperm := rank_perm scored
  have hpairwise := rank_pairwise hall
  rw [hmap] at hperm
  cases hrank : rank scored with
  | nil =>
    rw [hrank] at h
    exact (nomatch h)
  | cons best rest =>
    rw [hrank] at h hperm hpairwise
    obtain ⟨fee, -, h⟩ := bind_eq_ok.1 h
    obtain rfl := Except.ok.inj h
    refine ⟨best :: rest, hperm, hpairwise, ?_⟩
    cases hfind : (best :: rest).find? fun health =>
        context.preferredProvider = some health.provider with
    | none =>
      have hnone := List.find?_eq_none.1 hfind
      simp only [decide_eq_true_eq] at hnone
      exact ⟨best, List.mem_cons_self, .inr ⟨hnone, rfl⟩, rfl, rfl⟩
    | some preferred =>
      have hpreferred := List.find?_some hfind
      exact ⟨preferred, List.mem_of_find?_eq_some hfind, .inl (of_decide_eq_true hpreferred), rfl,
        rfl⟩

lemma selectProvider_ok (h : selectProvider context healthMap = .ok decision) :
    ∃ ranked : List PspHealthStatus, ranked.Perm (healthMap.filter (isRoutable context)) ∧
      decision.selectedProvider ∈ ranked.map PspHealthStatus.provider ∧
      decision.fallbackProviders =
        (ranked.map PspHealthStatus.provider).filter (· ≠ decision.selectedProvider) := by
  obtain ⟨ranked, hperm, -, chosen, hchosen, -, hselected, hfallbacks⟩ := selectProviderBy_ok h
  rw [hselected]
  exact ⟨ranked, hperm, List.mem_map_of_mem hchosen, hfallbacks⟩

/-- The providers of a decision are distinct, and are those of routable entries of the map. -/
lemma selected_cons_fallbacks (hmap : (healthMap.map PspHealthStatus.provider).Nodup)
    (h : selectProvider context healthMap = .ok decision) :
    (decision.selectedProvider :: decision.fallbackProviders).Nodup ∧
      ∀ provider ∈ decision.selectedProvider :: decision.fallbackProviders,
        ∃ health ∈ healthMap, isRoutable context health ∧ health.provider = provider := by
  obtain ⟨ranked, hperm, hselected, hfallbacks⟩ := selectProvider_ok h
  have hnodup : (ranked.map PspHealthStatus.provider).Nodup :=
    (hperm.map _).nodup_iff.2 (hmap.sublist (List.filter_sublist.map _))
  rw [hfallbacks]
  refine ⟨List.nodup_cons.2 ⟨by simp, hnodup.filter _⟩, fun provider hprovider => ?_⟩
  have hmem : provider ∈ ranked.map PspHealthStatus.provider := by
    rcases List.mem_cons.1 hprovider with rfl | hother
    · exact hselected
    · exact List.mem_of_mem_filter hother
  obtain ⟨health, hhealth, rfl⟩ := List.mem_map.1 hmem
  obtain ⟨hentry, hroutable⟩ := List.mem_filter.1 (hperm.subset hhealth)
  exact ⟨health, hentry, hroutable, rfl⟩

end

end SmartRouting

/-! ### Executions -/

section

variable {T : Type}

/-- No response: whether the card was charged is not known. -/
def noResponse : Except AppError T → Bool
  | .ok _ => false
  | .error e => isAmbiguousOutcomeError e

/-- Whether the primary is tried once more.

Source: `PaymentProcessorFactory.executeWithFallback` -/
def retries : Except AppError T → Bool
  | .ok _ => false
  | .error e => isAmbiguousOutcomeError e || isTransientPspError e

/-- The attempts at the providers of a list, in its order, from the `n`-th invocation on.  After a
failure the next one is tried, until an error is thrown; it says whether the last attempt was
ambiguous, provided that all have an adapter. -/
inductive Trace (operation : Nat → PSPProvider → Except AppError T) (adapters : Prop) :
    Nat → Bool → List PSPProvider → List (Invocation T) × Except AppError (RouteResult T) → Prop
  | thrown {n : Nat} {ambiguous : Bool} {providers : List PSPProvider} {e : AppError}
      (tagged : adapters → isAmbiguousOutcomeError e = ambiguous) :
      Trace operation adapters n ambiguous providers ([], .error e)
  | answered {n : Nat} {ambiguous usedFallback : Bool} {provider : PSPProvider}
      {providers : List PSPProvider} {result : T} (h : operation n provider = .ok result) :
      Trace operation adapters n ambiguous (provider :: providers)
        ([⟨provider, .ok result⟩], .ok ⟨result, provider, usedFallback⟩)
  | failed {n : Nat} {ambiguous : Bool} {provider : PSPProvider} {providers : List PSPProvider}
      {run : List (Invocation T) × Except AppError (RouteResult T)} {e : AppError}
      (h : operation n provider = .error e)
      (next : Trace operation adapters (n + 1) (isAmbiguousOutcomeError e) providers run) :
      Trace operation adapters n ambiguous (provider :: providers)
        (⟨provider, .error e⟩ :: run.1, run.2)

namespace Trace

variable {operation : Nat → PSPProvider → Except AppError T} {adapters : Prop} {n : Nat}
  {ambiguous : Bool} {providers : List PSPProvider}
  {run : List (Invocation T) × Except AppError (RouteResult T)}

/-- Each invocation of a log came to what the operation makes of it, and one that was answered
concludes the execution. -/
lemma logged (h : Trace operation adapters n ambiguous providers run) {k : Nat}
    {invocation : Invocation T} (hk : run.1[k]? = some invocation) :
    invocation.outcome = operation (n + k) invocation.provider ∧
      ∀ r, invocation.outcome = .ok r → run.1.length = k + 1 ∧
        ∃ usedFallback, run.2 = .ok ⟨r, invocation.provider, usedFallback⟩ := by
  induction h generalizing k with
  | thrown => simp at hk
  | answered h =>
    cases k with
    | succ k => simp at hk
    | zero =>
      obtain rfl := Option.some.inj hk
      refine ⟨h.symm, ?_⟩
      rintro _ ⟨rfl⟩
      exact ⟨rfl, _, rfl⟩
  | failed h next ih =>
    cases k with
    | zero =>
      obtain rfl := Option.some.inj hk
      exact ⟨h.symm, fun _ hr => (nomatch hr)⟩
    | succ k =>
      obtain ⟨houtcome, hanswered⟩ := ih hk
      rw [Nat.add_right_comm, Nat.add_assoc] at houtcome
      refine ⟨houtcome, fun r hr => ?_⟩
      exact ⟨congrArg (· + 1) (hanswered r hr).1, (hanswered r hr).2⟩

lemma mem_of_ok (h : Trace operation adapters n ambiguous providers run) {route : RouteResult T}
    (hroute : run.2 = .ok route) : ⟨route.provider, .ok route.result⟩ ∈ run.1 := by
  induction h with
  | thrown => exact (nomatch hroute)
  | answered h =>
    obtain rfl := Except.ok.inj hroute
    exact List.mem_singleton.2 rfl
  | failed h next ih => exact List.mem_cons_of_mem _ (ih hroute)

lemma providers_initial (h : Trace operation adapters n ambiguous providers run) :
    run.1.map Invocation.provider <+: providers := by
  induction h with
  | thrown => exact List.nil_prefix
  | answered h => exact ⟨_, rfl⟩
  | failed h next ih => exact (List.prefix_cons_inj _).2 ih

lemma tagged (h : Trace operation adapters n ambiguous providers run) (hadapters : adapters)
    {e : AppError} (he : run.2 = .error e) :
    isAmbiguousOutcomeError e = run.1.getLast?.elim ambiguous (noResponse ·.outcome) := by
  induction h with
  | thrown tagged =>
    obtain rfl := Except.error.inj he
    exact tagged hadapters
  | answered h => exact (nomatch he)
  | @failed n ambiguous provider providers run e' h next ih =>
    rw [ih he]
    cases hlog : run.1.getLast? with
    | none => simp [List.getLast?_eq_none_iff.1 hlog, noResponse]
    | some last => simp [List.getLast?_cons, hlog]

end Trace

variable (decision : RoutingDecision) (operation : Nat → PSPProvider → Except AppError T)
  (isAvailable : PSPProvider → Bool)

lemma tryFallbacks_trace {adapters : Prop} (n : Nat) (ambiguous : Bool)
    (providers : List PSPProvider)
    (hadapters : adapters → ∀ provider ∈ providers, getAdapter provider = .ok provider) :
    Trace operation adapters n ambiguous (providers.filter isAvailable)
      (tryFallbacks decision operation isAvailable n ambiguous providers) := by
  induction providers generalizing n ambiguous with
  | nil => exact .thrown fun _ => rfl
  | cons provider providers ih =>
    have hnext := fun n ambiguous => ih n ambiguous fun h =>
      (List.forall_mem_cons.1 (hadapters h)).2
    unfold tryFallbacks
    split
    · rename_i e he
      refine .thrown fun h => ?_
      rw [(List.forall_mem_cons.1 (hadapters h)).1] at he
      exact (nomatch he)
    · rename_i adapter hadapter
      obtain rfl := getAdapter_ok hadapter
      split_ifs with havailable
      · rw [List.filter_cons_of_pos havailable]
        split
        · rename_i result hresult
          exact .answered hresult
        · rename_i e he
          exact .failed he (hnext _ _)
      · rw [List.filter_cons_of_neg havailable]
        exact hnext _ _

/-- The attempts at the primary. -/
def attemptsAtPrimary : Nat := if retries (operation 0 decision.selectedProvider) then 2 else 1

/-- **The attempts of an execution**: at the primary once, or twice if the first is retried, and
then at the available fallbacks. -/
theorem executeWithFallback_trace :
    Trace operation (∀ provider ∈ decision.fallbackProviders, getAdapter provider = .ok provider)
      0 false
      (List.replicate (attemptsAtPrimary decision operation) decision.selectedProvider ++
        decision.fallbackProviders.filter isAvailable)
      (executeWithFallback decision operation isAvailable) := by
  have hfallbacks := fun n ambiguous => tryFallbacks_trace decision operation isAvailable n
    ambiguous decision.fallbackProviders id
  unfold executeWithFallback attemptsAtPrimary
  dsimp only
  cases hfirst : operation 0 decision.selectedProvider with
  | ok result => exact .answered hfirst
  | error e =>
    by_cases hretry : isAmbiguousOutcomeError e || isTransientPspError e
    · simp only [retries, hretry, if_true]
      cases hsecond : operation 1 decision.selectedProvider with
      | ok result => exact .failed hfirst (.answered hsecond)
      | error e' =>
        dsimp only
        split_ifs with hambiguous
        · refine .failed hfirst (.failed hsecond (.thrown fun _ => ?_))
          exact hambiguous.symm
        · exact .failed hfirst (.failed hsecond (hfallbacks 2 _))
    · simp only [retries, hretry, if_false, Bool.false_eq_true]
      exact .failed hfirst (hfallbacks 1 _)

variable {decision operation isAvailable} in
lemma executeWithFallback_logged {k : Nat} {invocation : Invocation T}
    (h : (executeWithFallback decision operation isAvailable).1[k]? =
      some invocation) :
    invocation.outcome = operation k invocation.provider ∧
      ∀ r, invocation.outcome = .ok r →
        (executeWithFallback decision operation isAvailable).1.length = k + 1 ∧
        ∃ usedFallback, (executeWithFallback decision operation isAvailable).2 =
          .ok ⟨r, invocation.provider, usedFallback⟩ := by
  have hlogged := (executeWithFallback_trace decision operation isAvailable).logged h
  rwa [Nat.zero_add] at hlogged

variable {decision operation isAvailable} in
/-- An execution whose last attempt failed ends with an error. -/
lemma executeWithFallback_of_last {k : Nat} {invocation : Invocation T}
    (h : (executeWithFallback decision operation isAvailable).1[k]? = some invocation)
    (hlast : (executeWithFallback decision operation isAvailable).1.length = k + 1) {e : AppError}
    (hfailed : invocation.outcome = .error e) :
    ∃ e', (executeWithFallback decision operation isAvailable).2 = .error e' := by
  cases hrun : (executeWithFallback decision operation isAvailable).2 with
  | error e' => exact ⟨e', rfl⟩
  | ok route =>
    -- the answer would be the last of the log, which failed
    obtain ⟨j, hj⟩ := List.getElem?_of_mem
      ((executeWithFallback_trace decision operation isAvailable).mem_of_ok hrun)
    obtain rfl : j = k := by
      have := ((executeWithFallback_logged hj).2 _ rfl).1
      omega
    rw [Option.some.inj (h.symm.trans hj)] at hfailed
    nomatch hfailed

end

end OmniSwitch
