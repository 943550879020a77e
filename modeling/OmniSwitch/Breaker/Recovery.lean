import OmniSwitch.Breaker.Admission

/-!
# Recovery of the circuit

An open circuit recovers by the time of its last failure, and a half-open one by the expiry of its
trial.  Whatever the interleaving of the methods, each of the two is there, or a method is about to
write it; when no method has stopped there, a call is admitted at every time that is late enough.
This needs that a reset deletes no time of failure which the circuit goes by.

Main results:

* `Accounted.apply`: what every command keeps;
* `admitted_later`: calls are admitted again, whatever the interleaving;
* `circuit_wedged`: a crash and a reset after which none is.
-/

namespace OmniSwitch

open Lib Prog RedisCircuitBreaker

/-- A failure that opens the circuit finds the time of a failure, which no reset has deleted; a
reset deletes it only while the circuit is not open. -/
def BreakerCmd.Unraced : BreakerCmd → Circuit → Prop
  | .setState .recordFailure .OPEN, s => s.lastFailureTime.isSome
  | .delLastFailureTime, s => s.stored ≠ .OPEN
  | _, _ => True

/-- It can be decided. -/
instance BreakerCmd.decidableUnraced (c : BreakerCmd) (s : Circuit) : Decidable (c.Unraced s) := by
  unfold BreakerCmd.Unraced
  split <;> infer_instance

/-! ### What every command keeps -/

/-- An open circuit has the time of its last failure, or the opening for slow calls is about to
write it; a counter of the trials whose budget is spent has an expiry, or the caller that has
claimed the trial is about to set it.

Source: `RedisCircuitBreakerService` -/
structure Accounted (s : Circuit) : Prop where
  failure : s.stored = .OPEN → s.lastFailureTime ≠ none ∨ 0 < s.untimed
  trial : ∀ n, halfOpenTrialCalls ≤ n → s.counters .halfOpenTrialCount = some (n, none) →
    0 < s.unexpiring
  truthy : s.lastFailureTime ≠ some 0
  positive : ∀ expiresAt, s.counters .halfOpenTrialCount ≠ some (0, expiresAt)
  started : 0 < s.now

section commands

variable {s : Circuit}

lemma Accounted.write (h : Accounted s) {key : Counter} (hkey : key ≠ .halfOpenTrialCount)
    (slot : Slot Nat) : Accounted (s.write key slot) := by
  have hcounter : (s.write key slot).counters .halfOpenTrialCount =
      s.counters .halfOpenTrialCount := if_neg hkey.symm
  exact ⟨h.failure, hcounter ▸ h.trial, h.truthy, hcounter ▸ h.positive, h.started⟩

lemma Accounted.incr (h : Accounted s) :
    Accounted ((BreakerCmd.incr .halfOpenTrialCount).apply s) := by
  change Accounted (s.claim.write .halfOpenTrialCount
    (Slot.incr s.now (s.counters .halfOpenTrialCount)))
  unfold Circuit.claim
  split_ifs with hfirst
  · refine ⟨h.failure, fun _ _ _ => Nat.succ_pos _, h.truthy, fun _ heq => ?_, h.started⟩
    exact absurd (Slot.incr_pos heq) (lt_irrefl 0)
  · refine ⟨h.failure, fun n _ heq => ?_, h.truthy, fun _ heq => ?_, h.started⟩
    · -- the counter was there, without an expiry as well
      unfold Circuit.count at hfirst
      rcases Slot.incr_cases s.now (s.counters .halfOpenTrialCount) with ⟨hread, -⟩ |
        ⟨m, expiresAt, hslot, hread, hincr⟩
      · rw [hread] at hfirst
        exact absurd Nat.one_pos hfirst
      · rw [hread] at hfirst
        cases hincr.symm.trans heq
        exact h.trial m (not_lt.1 hfirst) hslot
    · exact absurd (Slot.incr_pos heq) (lt_irrefl 0)

lemma Accounted.expire (h : Accounted s) (seconds : Nat) :
    Accounted ((BreakerCmd.expire .halfOpenTrialCount seconds).apply s) := by
  refine ⟨h.failure, fun n _ heq => ?_, h.truthy, fun expiresAt heq => ?_, h.started⟩
  · exact nomatch (Slot.expire_eq_some heq).1
  · obtain ⟨-, before, hbefore⟩ := Slot.expire_eq_some heq
    exact h.positive before hbefore

/-- **Every command keeps the accounts.** -/
theorem Accounted.apply (h : Accounted s) {c : BreakerCmd} (hc : c.Regular) (hraced : c.Unraced s) :
    Accounted (c.apply s) := by
  cases c with
  | clock | getState | getLastFailureTime | get key => exact h
  | wait milliseconds =>
    exact ⟨h.failure, h.trial, h.truthy, h.positive, h.started.trans_le (Nat.le_add_right _ _)⟩
  | setState writer state =>
    refine ⟨fun hopen => ?_, h.trial, h.truthy, h.positive, h.started⟩
    obtain rfl : state = .OPEN := hopen
    rcases hc with rfl | rfl
    · exact .inl (Option.isSome_iff_ne_none.1 hraced)
    · exact .inr (Nat.succ_pos _)
  | setLastFailureTime writer time =>
    refine ⟨fun _ => .inl (Option.some_ne_none _), h.trial, fun heq => ?_, h.positive, h.started⟩
    exact (Nat.ne_of_gt hc) (Option.some.inj heq)
  | delLastFailureTime =>
    exact ⟨fun hopen => absurd hopen hraced, h.trial, fun heq => (nomatch heq), h.positive,
      h.started⟩
  | incr key =>
    rcases eq_or_ne key .halfOpenTrialCount with rfl | hkey
    · exact h.incr
    · cases key <;> first | exact h.write hkey _ | exact absurd rfl hkey
  | expire key seconds =>
    rcases eq_or_ne key .halfOpenTrialCount with rfl | hkey
    · exact h.expire seconds
    · cases key <;> first | exact h.write hkey _ | exact absurd rfl hkey
  | setZero key => exact h.write hc _
  | del key =>
    rcases eq_or_ne key .halfOpenTrialCount with rfl | hkey
    · exact ⟨h.failure, fun n _ heq => (nomatch heq), h.truthy, fun _ heq => (nomatch heq),
        h.started⟩
    · exact h.write hkey _

end commands

lemma accounted_start {start : Nat} (hstart : 0 < start) : Accounted { now := start } :=
  ⟨fun h => (nomatch h), fun _ _ h => (nomatch h), fun h => (nomatch h), fun _ h => (nomatch h),
    hstart⟩

/-! ### A later call -/

/-- The circuit at a later time. -/
def Circuit.at (s : Circuit) (later : Nat) : Circuit := { s with now := later }

/-- A call is admitted: the circuit is not open or its time of recovery has passed, and no trial is
claimed. -/
structure Ready (s : Circuit) : Prop where
  elapsed : s.stored = .OPEN → s.Elapsed
  trial : ∀ n expiresAt, s.counters .halfOpenTrialCount = some (n, expiresAt) →
    ∃ t, expiresAt = some t ∧ t ≤ s.now

section later

variable {s : Circuit} {provider : String}

lemma Ready.pass (h : Ready s) (d : Nat) : Ready (s.pass d) := by
  refine ⟨fun hopen => ?_, fun n expiresAt heq => ?_⟩
  · obtain ⟨time, htime, hne, hlt⟩ := h.elapsed hopen
    exact ⟨time, htime, hne, hlt.trans_le (Nat.le_add_right _ _)⟩
  · obtain ⟨t, ht, hle⟩ := h.trial n expiresAt heq
    exact ⟨t, ht, hle.trans (Nat.le_add_right _ _)⟩

lemma Ready.count_eq_zero (h : Ready s) : s.count .halfOpenTrialCount = 0 := by
  unfold Circuit.count
  cases hslot : s.counters .halfOpenTrialCount with
  | none => rfl
  | some entry =>
    obtain ⟨t, ht, hle⟩ := h.trial entry.1 entry.2 hslot
    obtain ⟨n, expiresAt⟩ := entry
    obtain rfl : expiresAt = some t := ht
    rw [Slot.read_some, if_neg (not_lt.2 hle)]
    rfl

lemma Ready.claimTrial (h : Ready s) :
    BreakerTimely (fun _ r => r = .ok ()) s (claimTrial provider) := by
  refine timely_issue_bind.2 fun d => ?_
  dsimp only
  rw [(h.pass d).count_eq_zero, if_pos rfl]
  exact timely_issue_bind.2 fun _ => rfl

/-- A circuit that is ready admits a caller. -/
lemma Ready.assertAvailable (h : Ready s) :
    BreakerTimely (fun _ r => r = .ok ()) s (assertAvailable provider) := by
  refine timely_issue_bind.2 fun d => ?_
  change BreakerTimely _ (s.pass d) _
  split
  case h_1 => rfl
  case h_2 hopen =>
      refine (timely_bind _ _).2 (timely_hasRecoveryWindowElapsed.mono ?_)
      rintro _ _ ⟨d₁, elapsed, rfl, rfl, helapsed⟩
      have hready := (h.pass d).pass d₁
      obtain rfl : elapsed = true := helapsed.2 (hready.elapsed hopen)
      refine timely_issue_bind.2 fun d₂ => Ready.claimTrial ?_
      exact ⟨fun hopen => (by cases hopen), (hready.pass d₂).trial⟩
  case h_3 => exact (h.pass d).claimTrial

lemma Accounted.expires (h : Accounted s) (hunexpiring : s.unexpiring = 0) :
    ∃ time, ∀ n expiresAt, s.counters .halfOpenTrialCount = some (n, expiresAt) →
      ∃ t, expiresAt = some t ∧ t ≤ time := by
  cases hslot : s.counters .halfOpenTrialCount with
  | none => exact ⟨0, fun _ _ heq => nomatch heq⟩
  | some entry =>
    obtain ⟨n, expiresAt⟩ := entry
    cases expiresAt with
    | none =>
      have hpos : halfOpenTrialCalls ≤ n :=
        Nat.pos_of_ne_zero fun hzero => h.positive none (hslot.trans (by rw [hzero]))
      exact absurd (h.trial n hpos hslot) (by omega)
    | some t =>
      refine ⟨t, ?_⟩
      rintro _ _ ⟨rfl⟩
      exact ⟨t, rfl, le_refl _⟩

lemma Accounted.recovers (h : Accounted s) (huntimed : s.untimed = 0) :
    ∃ time, s.stored = .OPEN → ∃ failure, s.lastFailureTime = some failure ∧ failure ≠ 0 ∧
      failure + recoveryTimeMs < time := by
  cases hfailure : s.lastFailureTime with
  | none =>
    refine ⟨0, fun hopen => ?_⟩
    rcases h.failure hopen with hsome | hpos
    · exact absurd hfailure hsome
    · omega
  | some failure =>
    refine ⟨failure + recoveryTimeMs + 1, fun _ => ⟨failure, rfl, ?_, Nat.lt_succ_self _⟩⟩
    rintro rfl
    exact h.truthy hfailure

/-- Once no method has stopped before it has written an expiry or a time of failure, every time
that is late enough is one at which a call is admitted. -/
lemma Accounted.ready (h : Accounted s) (hunexpiring : s.unexpiring = 0)
    (huntimed : s.untimed = 0) :
    ∃ time, s.now ≤ time ∧ ∀ later, time ≤ later → Ready (s.at later) := by
  obtain ⟨time₁, hexpires⟩ := h.expires hunexpiring
  obtain ⟨time₂, hrecovers⟩ := h.recovers huntimed
  refine ⟨s.now + time₁ + time₂, by omega, fun later hlater => ⟨fun hopen => ?_, ?_⟩⟩
  · obtain ⟨failure, hfailure, hne, hlt⟩ := hrecovers hopen
    refine ⟨failure, hfailure, hne, ?_⟩
    change _ < later
    omega
  · intro n expiresAt heq
    obtain ⟨t, ht, hle⟩ := hexpires n expiresAt heq
    refine ⟨t, ht, ?_⟩
    change t ≤ later
    omega

end later

/-- A caller is admitted, however long its operations take. -/
def Circuit.Admits (s : Circuit) : Prop :=
  ∀ provider waits, ((assertAvailable provider).runWaiting Circuit.pass waits s).2 = .ok ()

/-- A caller is refused, however long its operations take. -/
def Circuit.Refuses (s : Circuit) : Prop :=
  ∀ provider waits, ((assertAvailable provider).runWaiting Circuit.pass waits s).2 =
    .error (unavailable provider)

/-- **The circuit never wedges.**  In every interleaving of the methods, with any of them
crashing, in which every command meets the condition, the state it ends in is accounted for: an
open circuit has the time of its last failure or its opening for slow calls is about to write it,
and a trial counter whose budget is spent has an expiry or its caller is about to set it.  If no
method has stopped there, calls are admitted from some later time on. -/
theorem admitted_later {start : Nat} (hstart : 0 < start) (methods : List BreakerMethod)
    (schedule : List Nat)
    (hunraced : ∀ e ∈ (runMethods start methods schedule).1, e.cmd.Unraced e.pre) :
    Accounted (runMethods start methods schedule).2.state ∧
      ((runMethods start methods schedule).2.state.unexpiring = 0 →
        (runMethods start methods schedule).2.state.untimed = 0 →
        ∃ time, (runMethods start methods schedule).2.state.now ≤ time ∧
          ∀ later, time ≤ later →
            ((runMethods start methods schedule).2.state.at later).Admits) := by
  have hkept : Kept Accounted BreakerCmd.Unraced :=
    ⟨fun _ h => h.started, fun c s h hc hraced => h.apply hc hraced⟩
  have hend := runMethods_keeps hkept (accounted_start hstart) methods schedule hunraced
  refine ⟨hend, fun hunexpiring huntimed => ?_⟩
  obtain ⟨time, hnow, hready⟩ := hend.ready hunexpiring huntimed
  exact ⟨time, hnow, fun later hlater provider waits =>
    (hready later hlater).assertAvailable.run waits⟩

namespace Sample

/-- After the opening and the time of recovery, a caller, and the failure of its call. -/
def probedMethods : List BreakerMethod :=
  fiveFailures ++ [.passing 30001, .assertAvailable "STRIPE", .recordFailure]

/-- The schedule of these methods. -/
def probedSchedule : List Nat :=
  openingSchedule ++ [5] ++ List.replicate 6 6 ++ List.replicate 7 7

end Sample

open Sample in
/-- A probe that fails. -/
theorem admitted_later_probed :
    (runMethods 1000 probedMethods probedSchedule).2.state.stored = .OPEN ∧
      (runMethods 1000 probedMethods probedSchedule).2.state.unexpiring = 0 ∧
      (runMethods 1000 probedMethods probedSchedule).2.state.untimed = 0 ∧
      Accounted (runMethods 1000 probedMethods probedSchedule).2.state ∧
      ((runMethods 1000 probedMethods probedSchedule).2.state.unexpiring = 0 →
        (runMethods 1000 probedMethods probedSchedule).2.state.untimed = 0 →
        ∃ time, (runMethods 1000 probedMethods probedSchedule).2.state.now ≤ time ∧
          ∀ later, time ≤ later →
            ((runMethods 1000 probedMethods probedSchedule).2.state.at later).Admits) :=
  ⟨by decide +kernel, by decide +kernel, by decide +kernel,
    admitted_later (by decide) probedMethods probedSchedule (by decide +kernel)⟩

/-! ### Circuits that wedge -/

section wedged

variable {s : Circuit} {provider : String}

/-- A trial that never expires refuses every caller. -/
lemma refused_of_unexpiring {n : Nat} (hstored : s.stored = .HALF_OPEN)
    (htrial : s.counters .halfOpenTrialCount = some (n + 1, none)) (later : Nat) :
    (s.at later).Refuses := by
  intro provider waits
  have hrefused : BreakerTimely (fun _ r => r = .error (unavailable provider)) (s.at later)
      (assertAvailable provider) := by
    refine timely_issue_bind.2 fun d => ?_
    have hhalf : ((s.at later).pass d).stored = .HALF_OPEN := hstored
    rw [hhalf]
    change BreakerTimely _ ((s.at later).pass d) (claimTrial provider)
    refine timely_issue_bind.2 fun d' => ?_
    have hcount : (((s.at later).pass d).pass d').count .halfOpenTrialCount = n + 1 := by
      change (Slot.read _ (s.counters .halfOpenTrialCount)).getD 0 = n + 1
      rw [htrial]
      rfl
    dsimp only
    rw [hcount, if_neg (by omega), if_pos (by unfold halfOpenTrialCalls; omega)]
    rfl
  exact hrefused.run waits

/-- So does an open circuit without a time of failure. -/
lemma refused_of_untimed (hstored : s.stored = .OPEN) (hfailure : s.lastFailureTime = none)
    (later : Nat) : (s.at later).Refuses := by
  intro provider waits
  have hrefused : BreakerTimely (fun _ r => r = .error (unavailable provider)) (s.at later)
      (assertAvailable provider) := by
    refine timely_issue_bind.2 fun d₁ => ?_
    have hopen : ((s.at later).pass d₁).stored = .OPEN := hstored
    rw [hopen]
    refine (timely_bind _ _).2 (timely_hasRecoveryWindowElapsed.mono ?_)
    rintro _ _ ⟨d₂, elapsed, rfl, rfl, helapsed⟩
    cases elapsed with
    | false => rfl
    | true =>
      obtain ⟨time, htime, -⟩ := helapsed.1 rfl
      exact nomatch hfailure.symm.trans htime
  exact hrefused.run waits

end wedged

namespace Sample

/-- The caller that claims the trial crashes before it sets the expiry. -/
def crashedCaller : Circuit :=
  (runMethods 1000 (fiveFailures ++ [.passing 30001, .assertAvailable "STRIPE"])
    (openingSchedule ++ [5] ++ List.replicate 5 6)).2.state

/-- A reset runs after the fifth failure has written its time, and before it opens the circuit. -/
def resetDuringFailure : Circuit :=
  (runMethods 1000 (fiveFailures ++ [.resetCircuit])
    (List.replicate 5 0 ++ List.replicate 5 1 ++ List.replicate 5 2 ++ List.replicate 5 3 ++
      List.replicate 5 4 ++ List.replicate 6 5 ++ List.replicate 2 4)).2.state

end Sample

open Sample in
/-- No caller is ever admitted again: the trial counter has no expiry after a crash; the open
circuit has no time of failure after a reset. -/
theorem circuit_wedged :
    (crashedCaller.state = some .HALF_OPEN ∧
        crashedCaller.counters .halfOpenTrialCount = some (1, none) ∧
        ∀ later, (crashedCaller.at later).Refuses) ∧
      resetDuringFailure.state = some .OPEN ∧ resetDuringFailure.lastFailureTime = none ∧
        ∀ later, (resetDuringFailure.at later).Refuses := by
  have hhalf : crashedCaller.state = some .HALF_OPEN := by decide +kernel
  have htrial : crashedCaller.counters .halfOpenTrialCount = some (1, none) := by decide +kernel
  have hopen : resetDuringFailure.stored = .OPEN := by decide +kernel
  have hfailure : resetDuringFailure.lastFailureTime = none := by decide +kernel
  refine ⟨⟨hhalf, htrial, ?_⟩, by decide +kernel, hfailure, ?_⟩
  · exact refused_of_unexpiring (stored_eq_half_open.2 hhalf) htrial
  · exact refused_of_untimed hopen hfailure

end OmniSwitch
