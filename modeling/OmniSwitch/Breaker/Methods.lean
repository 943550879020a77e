import OmniSwitch.Breaker.CircuitBreaker

/-!
# The methods of the breaker, one at a time

What each method does to the keys when it runs alone, whatever time its operations take.

Main results:

* `timely_assertAvailable`: what a caller that asks comes to;
* `timely_report`: what a report comes to.
-/

namespace OmniSwitch

open Lib Prog RedisCircuitBreaker

/-- What a call of the provider reports at its end. -/
inductive Report where
  | success (latencyMs : Nat)
  | failure
  deriving DecidableEq, Repr

/-- The method that makes the report. -/
def Report.program : Report → BreakerProg Unit
  | success latencyMs => recordSuccess latencyMs
  | failure => recordFailure

/-! ### A caller that asks -/

/-- What a caller that asks comes to.  Only one that finds the circuit closed, or claims the first
trial of a half-open one, is admitted; the claim is recorded as a probe.

Source: `RedisCircuitBreakerService.assertAvailable` -/
inductive Asserted (s s' : Circuit) : Except AppError Unit → Prop
  | closed (hstored : s.stored = .CLOSED) (hstate : s'.state = s.state)
      (hprobes : s'.probes = s.probes) : Asserted s s' (.ok ())
  | probe (hstored : s.stored ≠ .CLOSED) (hhalf : s'.stored = .HALF_OPEN)
      (hopen : s.stored = .OPEN → s'.Elapsed)
      (hprobes : ∃ p, s'.probes = s.probes ++ [p]) : Asserted s s' (.ok ())
  | refused (e : AppError) (hstored : s.stored ≠ .CLOSED)
      (hstate : s'.state = s.state ∨ s'.stored = .HALF_OPEN ∧ (s.stored = .OPEN → s'.Elapsed))
      (hprobes : s'.probes = s.probes) : Asserted s s' (.error e)

/-- No caller changes the time of the last failure or begins an episode. -/
structure Circuit.Asks (s s' : Circuit) : Prop where
  now : s.now ≤ s'.now
  failure : s'.lastFailureTime = s.lastFailureTime
  episode : s'.episode = s.episode

section asserting

variable {s s' : Circuit} {provider : String}

lemma Circuit.Elapsed.of_asks (h : s.Elapsed) (hasks : s.Asks s') : s'.Elapsed := by
  obtain ⟨time, htime, hne, hlt⟩ := h
  exact ⟨time, hasks.failure.trans htime, hne, hlt.trans_le hasks.now⟩

lemma Circuit.Asks.trans {s'' : Circuit} (h : s.Asks s') (h' : s'.Asks s'') : s.Asks s'' :=
  ⟨h.now.trans h'.now, h'.failure.trans h.failure, h'.episode.trans h.episode⟩

/-- A claim of a half-open circuit's trial is admitted, as a probe, or refused. -/
lemma timely_claimTrial (hhalf : s.stored = .HALF_OPEN) :
    BreakerTimely (fun s' r => s.Asks s' ∧ s'.stored = .HALF_OPEN ∧
      (r = .ok () ∧ (∃ p, s'.probes = s.probes ++ [p]) ∨
        r = .error (unavailable provider) ∧ s'.probes = s.probes)) s (claimTrial provider) := by
  refine timely_issue_bind.2 fun d => ?_
  change (if (s.pass d).count .halfOpenTrialCount + 1 = 1 then _ else _ : BreakerProg Unit).Timely
    Circuit.pass _ ((s.pass d).claim.write .halfOpenTrialCount _)
  unfold Circuit.claim halfOpenTrialCalls
  by_cases hfirst : (s.pass d).count .halfOpenTrialCount < 1
  · rw [if_pos hfirst, if_pos (by omega)]
    refine timely_issue_bind.2 fun d' => ⟨⟨?_, rfl, rfl⟩, hhalf, .inl ⟨rfl, _, rfl⟩⟩
    change s.now ≤ s.now + d + d'
    omega
  · rw [if_neg hfirst, if_neg (by omega), if_pos (by omega)]
    exact ⟨⟨Nat.le_add_right _ _, rfl, rfl⟩, hhalf, .inr ⟨rfl, rfl⟩⟩

variable {r : Except AppError Unit}

/-- What a caller comes to is what its claim comes to. -/
lemma Asserted.of_claim {e : AppError} (hstored : s.stored ≠ .CLOSED)
    (hhalf : s'.stored = .HALF_OPEN) (hopen : s.stored = .OPEN → s'.Elapsed)
    (h : r = .ok () ∧ (∃ p, s'.probes = s.probes ++ [p]) ∨ r = .error e ∧ s'.probes = s.probes) :
    Asserted s s' r := by
  rcases h with ⟨rfl, hprobes⟩ | ⟨rfl, hprobes⟩
  · exact .probe hstored hhalf hopen hprobes
  · exact .refused e hstored (.inr ⟨hhalf, hopen⟩) hprobes

lemma stored_congr (h : s'.state = s.state) : s'.stored = s.stored :=
  congrArg (Option.getD · _) h

lemma Asserted.half_open (h : Asserted s s' r) (hhalf : s.stored = .HALF_OPEN) :
    s'.stored = .HALF_OPEN := by
  cases h with
  | closed hclosed => exact nomatch hhalf.symm.trans hclosed
  | probe _ hhalf' => exact hhalf'
  | refused e _ hstate =>
    rcases hstate with hstate | ⟨hhalf', -⟩
    · exact (stored_congr hstate).trans hhalf
    · exact hhalf'

lemma Asserted.not_closed (h : Asserted s s' r) (hne : s'.stored ≠ .CLOSED) :
    s.stored ≠ .CLOSED := by
  cases h with
  | closed hclosed hstate => exact stored_congr hstate ▸ hne
  | probe hne' => exact hne'
  | refused e hne' => exact hne'

/-- **A caller that asks alone.** -/
theorem timely_assertAvailable (s : Circuit) (provider : String) :
    BreakerTimely (fun s' r => s.Asks s' ∧ Asserted s s' r) s (assertAvailable provider) := by
  refine timely_issue_bind.2 fun d => ?_
  change BreakerTimely _ (s.pass d) _
  have hasks : s.Asks (s.pass d) := ⟨Nat.le_add_right _ _, rfl, rfl⟩
  split
  case h_1 hclosed => exact ⟨hasks, .closed hclosed rfl rfl⟩
  case h_2 hopen =>
      have hne : s.stored ≠ .CLOSED := ne_of_eq_of_ne hopen (by decide)
      refine (timely_bind _ _).2 (timely_hasRecoveryWindowElapsed.mono ?_)
      rintro _ _ ⟨d₁, elapsed, rfl, rfl, helapsed⟩
      cases elapsed with
      | false =>
        rw [Circuit.pass_pass]
        exact ⟨⟨Nat.le_add_right _ _, rfl, rfl⟩, .refused _ hne (.inl rfl) rfl⟩
      | true =>
        refine timely_issue_bind.2 fun d₂ => (timely_claimTrial rfl).mono ?_
        rintro s' r ⟨hasks', hhalf, hresult⟩
        have hbefore : ((s.pass d).pass d₁).Asks s' :=
          ⟨(Nat.le_add_right _ d₂).trans hasks'.now, hasks'.failure, hasks'.episode⟩
        have hsince : s.Asks ((s.pass d).pass d₁) := by
          rw [Circuit.pass_pass]
          exact ⟨Nat.le_add_right _ _, rfl, rfl⟩
        exact ⟨hsince.trans hbefore,
          .of_claim hne hhalf (fun _ => (helapsed.1 rfl).of_asks hbefore) hresult⟩
  case h_3 hhalf =>
      have hne : s.stored ≠ .CLOSED := ne_of_eq_of_ne hhalf (by decide)
      have hhalf₁ : (s.pass d).stored = .HALF_OPEN := hhalf
      refine (timely_claimTrial hhalf₁).mono ?_
      rintro s' r ⟨hasks', hhalf', hresult⟩
      refine ⟨hasks.trans hasks', .of_claim hne hhalf' (fun hopen => ?_) hresult⟩
      exact absurd (hopen.symm.trans hhalf) (by decide)

end asserting

/-! ### A report -/

/-- What a report comes to.  A success closes a half-open circuit, and a failure opens it; otherwise
they are counted, and may open it.

Source: `RedisCircuitBreakerService.recordSuccess`, `RedisCircuitBreakerService.recordFailure` -/
inductive Reported (s s' : Circuit) : Report → Prop
  | closes {latencyMs : Nat} (hstored : s.stored = .HALF_OPEN) (hclosed : s'.stored = .CLOSED)
      (hepisode : s'.episode = s.episode + 1)
      (htrial : s'.counters .halfOpenTrialCount = none) : Reported s s' (.success latencyMs)
  | counted {latencyMs : Nat} (hstored : s.stored ≠ .HALF_OPEN) (hstate : s'.state = s.state)
      (hepisode : s'.episode = s.episode)
      (htrial : s'.counters .halfOpenTrialCount = s.counters .halfOpenTrialCount)
      (hfailure : s'.lastFailureTime = s.lastFailureTime) : Reported s s' (.success latencyMs)
  | slow {latencyMs : Nat} (hstored : s.stored ≠ .HALF_OPEN) (hopen : s'.stored = .OPEN)
      (hepisode : s'.episode = s.episode + 1)
      (htrial : s'.counters .halfOpenTrialCount = s.counters .halfOpenTrialCount)
      (hfailure : ∃ time, s'.lastFailureTime = some time ∧ s.now ≤ time) :
      Reported s s' (.success latencyMs)
  | opens (hopen : s'.stored = .OPEN) (hepisode : s'.episode = s.episode + 1)
      (htrial : s'.counters .halfOpenTrialCount = none)
      (hfailure : ∃ time, s'.lastFailureTime = some time ∧ s.now ≤ time) : Reported s s' .failure
  | failed (hstored : s.stored ≠ .HALF_OPEN) (hstate : s'.state = s.state)
      (hepisode : s'.episode = s.episode)
      (htrial : s'.counters .halfOpenTrialCount = s.counters .halfOpenTrialCount)
      (hfailure : ∃ time, s'.lastFailureTime = some time ∧ s.now ≤ time) : Reported s s' .failure

section reporting

variable {s : Circuit}

/-- What a report, made in the state `s`, has come to. -/
abbrev ReportedFrom (s : Circuit) (report : Report) (s' : Circuit) : Prop :=
  s.now ≤ s'.now ∧ s'.probes = s.probes ∧ Reported s s' report

/-- The rate of slow calls is judged in a state that differs from `s` in the counters only. -/
lemma timely_trip {s₁ : Circuit} {latencyMs : Nat} (recentCallCount : Nat)
    (hstored : s.stored ≠ .HALF_OPEN) (hnow : s.now ≤ s₁.now) (hprobes : s₁.probes = s.probes)
    (hstate : s₁.state = s.state) (hepisode : s₁.episode = s.episode)
    (htrial : s₁.counters .halfOpenTrialCount = s.counters .halfOpenTrialCount)
    (hfailure : s₁.lastFailureTime = s.lastFailureTime) :
    BreakerTimely (fun s' _ => ReportedFrom s (.success latencyMs) s') s₁
      (recordSlowCallSample.trip recentCallCount) := by
  unfold recordSlowCallSample.trip
  split
  · exact ⟨hnow, hprobes, .counted hstored hstate hepisode htrial hfailure⟩
  · refine timely_issue_bind.2 fun d₁ => ?_
    split
    · refine timely_issue_bind.2 fun d₂ => timely_issue_bind.2 fun d₃ =>
        timely_issue_bind.2 fun d₄ => ⟨?_, hprobes, ?_⟩
      · change s.now ≤ s₁.now + d₁ + d₂ + d₃ + d₄
        omega
      · refine .slow hstored rfl (congrArg Nat.succ hepisode) htrial ⟨_, rfl, ?_⟩
        change s.now ≤ s₁.now + d₁ + d₂
        omega
    · exact ⟨hnow.trans (Nat.le_add_right _ _), hprobes,
        .counted hstored hstate hepisode htrial hfailure⟩

/-- A success that is reported alone. -/
lemma timely_recordSuccess (latencyMs : Nat) :
    BreakerTimely (fun s' _ => ReportedFrom s (.success latencyMs) s') s
      (recordSuccess latencyMs) := by
  refine timely_issue_bind.2 fun d => ?_
  change BreakerTimely _ (s.pass d) (if s.state = some .HALF_OPEN then _ else _)
  split
  case isTrue hhalf =>
      refine timely_issue_bind.2 fun d₁ => timely_issue_bind.2 fun d₂ =>
        timely_issue_bind.2 fun d₃ => timely_issue_bind.2 fun d₄ =>
        timely_issue_bind.2 fun d₅ => ⟨?_, rfl, ?_⟩
      · change s.now ≤ s.now + d + d₁ + d₂ + d₃ + d₄ + d₅
        omega
      · exact .closes (stored_eq_half_open.2 hhalf) rfl rfl rfl
  case isFalse hne =>
      have hstored : s.stored ≠ .HALF_OPEN := fun hhalf => hne (stored_eq_half_open.1 hhalf)
      refine timely_issue_bind.2 fun d₁ => timely_issue_bind.2 fun d₂ => ?_
      split
      · refine timely_issue_bind.2 fun d₃ => timely_issue_bind.2 fun d₄ => ?_
        refine timely_trip _ hstored ?_ rfl rfl rfl rfl rfl
        change s.now ≤ s.now + d + d₁ + d₂ + d₃ + d₄
        omega
      · refine timely_trip _ hstored ?_ rfl rfl rfl rfl rfl
        change s.now ≤ s.now + d + d₁ + d₂
        omega

/-- A failure that is reported alone. -/
lemma timely_recordFailure :
    BreakerTimely (fun s' _ => ReportedFrom s .failure s') s recordFailure := by
  refine timely_issue_bind.2 fun d₁ => timely_issue_bind.2 fun d₂ =>
    timely_issue_bind.2 fun d₃ => timely_issue_bind.2 fun d₄ =>
    timely_issue_bind.2 fun d₅ => ?_
  have hclock : s.now ≤ s.now + d₁ + d₂ := by omega
  dsimp only
  split_ifs with hopens
  · refine timely_issue_bind.2 fun d₆ => timely_issue_bind.2 fun d₇ =>
      ⟨?_, rfl, .opens rfl rfl rfl ⟨_, rfl, hclock⟩⟩
    change s.now ≤ s.now + d₁ + d₂ + d₃ + d₄ + d₅ + d₆ + d₇
    omega
  · refine ⟨?_, rfl, .failed (fun hhalf => ?_) rfl rfl rfl ⟨_, rfl, hclock⟩⟩
    · change s.now ≤ s.now + d₁ + d₂ + d₃ + d₄ + d₅
      omega
    · exact hopens (.inl (stored_eq_half_open.1 hhalf))

/-- **A report that is made alone.** -/
theorem timely_report (report : Report) :
    BreakerTimely (fun s' _ => ReportedFrom s report s') s report.program := by
  cases report with
  | success latencyMs => exact timely_recordSuccess latencyMs
  | failure => exact timely_recordFailure

end reporting

end OmniSwitch
