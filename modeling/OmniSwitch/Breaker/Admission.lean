import OmniSwitch.Lib.Rely
import OmniSwitch.Breaker.Methods

/-!
# Admission of probes

While the circuit is not closed, calls are admitted as probes only: at most as many as there are
trial calls in the time of recovery, and only once that has passed since the last failure.  The
methods run at once, in any interleaving of their operations, and each may crash.  What this needs
is that no operation is overtaken: a caller that has found the time of recovery passed goes on
before another failure is recorded, and the counter of the trials is deleted before the next episode
claims one.

Main results:

* `Tracked`, `Orderly`: what is true of the probes so far, and between two methods;
* `Kept`, `runMethods_keeps`: what every operation keeps under a condition on the state it meets,
  every interleaving of the methods keeps;
* `Watched.apply`: each operation that is not overtaken keeps what is true of the probes;
* `probes_late_and_few`: the probes of every such interleaving are late and few;
* `probe_admitted_early`: interleavings whose probes are not.
-/

namespace OmniSwitch

open Lib Prog RedisCircuitBreaker

/-- Time that passes. -/
def passing (milliseconds : Nat) : BreakerProg Unit := do
  let _ ← issue (.wait milliseconds)
  return ()

/-- A method of the breaker, or time that passes. -/
inductive BreakerMethod where
  | assertAvailable (provider : String)
  | recordSuccess (latencyMs : Nat)
  | recordFailure
  | resetCircuit
  | passing (milliseconds : Nat)

/-- The program of a method. -/
def BreakerMethod.program : BreakerMethod → BreakerProg Unit
  | assertAvailable provider => RedisCircuitBreaker.assertAvailable provider
  | recordSuccess latencyMs => RedisCircuitBreaker.recordSuccess latencyMs
  | recordFailure => RedisCircuitBreaker.recordFailure
  | resetCircuit => RedisCircuitBreaker.resetCircuit
  | passing milliseconds => OmniSwitch.passing milliseconds

/-- Methods that run at once. -/
def breakerPool (s : Circuit) (methods : List (BreakerProg Unit)) :
    Pool Circuit BreakerCmd AppError :=
  ⟨s, methods.map Proc.start⟩

/-- An execution of methods that run at once, from a cache in which nothing is stored. -/
def runMethods (start : Nat) (methods : List BreakerMethod) (schedule : List Nat) :
    List (Event Circuit BreakerCmd) × Pool Circuit BreakerCmd AppError :=
  (breakerPool { now := start } (methods.map BreakerMethod.program)).exec schedule

/-! ### Probes -/

/-- The probe was admitted when the time of recovery had passed since the last failure. -/
def Probe.Late (p : Probe) : Prop :=
  p.state ≠ .CLOSED → ∃ time, p.lastFailureTime = some time ∧ time + recoveryTimeMs < p.time

/-- Two probes of one episode are as far apart as the time of recovery. -/
def Probe.Before (p q : Probe) : Prop := p.episode = q.episode → p.time + recoveryTimeMs ≤ q.time

/-- The probes of an episode that are admitted within the time of recovery from `start` on. -/
def Circuit.admittedWithin (s : Circuit) (episode start : Nat) : List Probe :=
  s.probes.filter fun p => p.episode = episode ∧ start ≤ p.time ∧ p.time < start + recoveryTimeMs

variable {s : Circuit}

lemma admittedWithin_le (h : s.probes.Pairwise Probe.Before) (episode start : Nat) :
    (s.admittedWithin episode start).length ≤ halfOpenTrialCalls := by
  have hapart := h.filter
    (fun p => p.episode = episode ∧ start ≤ p.time ∧ p.time < start + recoveryTimeMs)
  have hmem : ∀ p ∈ s.admittedWithin episode start,
      p.episode = episode ∧ start ≤ p.time ∧ p.time < start + recoveryTimeMs :=
    fun p hp => of_decide_eq_true (List.mem_filter.1 hp).2
  change (s.admittedWithin episode start).Pairwise _ at hapart
  match hlist : s.admittedWithin episode start with
  | [] => exact Nat.zero_le _
  | [p] => exact le_refl _
  | p :: q :: rest =>
    rw [hlist] at hapart hmem
    obtain ⟨hp, hp₁, -⟩ := hmem p (by simp)
    obtain ⟨hq, -, hq₂⟩ := hmem q (by simp)
    have hbefore : p.time + recoveryTimeMs ≤ q.time :=
      (List.pairwise_cons.1 hapart).1 q (by simp) (hp.trans hq.symm)
    omega

/-! ### What holds between two methods -/

/-- The probe is as long ago as the time of recovery, or a counter of the trials is there that will
not expire before that. -/
def Probe.Guarded (s : Circuit) (p : Probe) : Prop :=
  p.time + recoveryTimeMs ≤ s.now ∨ ∃ n expiresAt,
    s.counters .halfOpenTrialCount = some (n + 1, expiresAt) ∧
      ∀ t, expiresAt = some t → p.time + recoveryTimeMs ≤ t

/-- What is true of the probes so far, and of the trials of the present episode. -/
structure Tracked (s : Circuit) : Prop where
  late : ∀ p ∈ s.probes, p.Late
  apart : s.probes.Pairwise Probe.Before
  past : ∀ p ∈ s.probes, p.episode ≤ s.episode ∧ p.time ≤ s.now
  guarded : ∀ p ∈ s.probes, p.episode = s.episode → p.Guarded s
  positive : ∀ n expiresAt, s.counters .halfOpenTrialCount = some (n, expiresAt) → 0 < n

/-- The time of recovery has passed since the last failure. -/
def Circuit.Recovered (s : Circuit) : Prop :=
  ∃ time, s.lastFailureTime = some time ∧ time + recoveryTimeMs < s.now

/-- **What holds between two methods.** -/
structure Orderly (s : Circuit) : Prop where
  tracked : Tracked s
  recovered : s.stored = .HALF_OPEN → s.Recovered

section lemmas

variable {s s' : Circuit}

lemma Tracked.of_eq (h : Tracked s) (hprobes : s'.probes = s.probes)
    (hepisode : s'.episode = s.episode) (hnow : s.now ≤ s'.now)
    (htrial : s'.counters .halfOpenTrialCount = s.counters .halfOpenTrialCount) : Tracked s' := by
  refine ⟨?_, ?_, ?_, ?_, htrial ▸ h.positive⟩ <;> rw [hprobes]
  · exact h.late
  · exact h.apart
  · rw [hepisode]
    exact fun p hp => ⟨(h.past p hp).1, (h.past p hp).2.trans hnow⟩
  · intro p hp heq
    unfold Probe.Guarded
    rw [htrial]
    exact (h.guarded p hp (heq.trans hepisode)).imp_left fun hle => hle.trans hnow

lemma Tracked.renew (h : Tracked s) (hprobes : s'.probes = s.probes)
    (hepisode : s.episode < s'.episode) (hnow : s.now ≤ s'.now)
    (htrial : ∀ entry, s'.counters .halfOpenTrialCount = some entry →
      s.counters .halfOpenTrialCount = some entry) : Tracked s' := by
  refine ⟨?_, ?_, ?_, ?_, fun n expiresAt heq => h.positive n expiresAt (htrial _ heq)⟩ <;>
    rw [hprobes]
  · exact h.late
  · exact h.apart
  · exact fun p hp => ⟨(h.past p hp).1.trans hepisode.le, (h.past p hp).2.trans hnow⟩
  · intro p hp heq
    have := (h.past p hp).1
    omega

lemma Circuit.Recovered.of_le (h : s.Recovered) (hnow : s.now ≤ s'.now)
    (hfailure : s'.lastFailureTime = s.lastFailureTime) : s'.Recovered := by
  obtain ⟨time, htime, hlt⟩ := h
  exact ⟨time, hfailure.trans htime, hlt.trans_le hnow⟩

lemma Orderly.of_eq (h : Orderly s) (hprobes : s'.probes = s.probes)
    (hepisode : s'.episode = s.episode) (hnow : s.now ≤ s'.now)
    (htrial : s'.counters .halfOpenTrialCount = s.counters .halfOpenTrialCount)
    (hstate : s'.state = s.state) (hfailure : s'.lastFailureTime = s.lastFailureTime) :
    Orderly s' := by
  refine ⟨h.tracked.of_eq hprobes hepisode hnow htrial, fun hhalf => ?_⟩
  refine (h.recovered ?_).of_le hnow hfailure
  rwa [stored_eq_half_open, ← hstate, ← stored_eq_half_open]

lemma Probe.Guarded.read {p : Probe} (h : p.Guarded s) :
    p.time + recoveryTimeMs ≤ s.now ∨ ∃ n expiresAt, 0 < s.count .halfOpenTrialCount ∧
      Slot.incr s.now (s.counters .halfOpenTrialCount) = some (n + 1, expiresAt) ∧
      ∀ t, expiresAt = some t → p.time + recoveryTimeMs ≤ t := by
  rcases h with hago | ⟨n, expiresAt, htrial, hle⟩
  · exact .inl hago
  · unfold Circuit.count
    cases expiresAt with
    | none =>
      rw [htrial]
      exact .inr ⟨n + 1, none, Nat.succ_pos n, rfl, hle⟩
    | some t =>
      by_cases halive : s.now < t
      · refine .inr ⟨n + 1, some t, ?_, ?_, hle⟩
        · rw [htrial, Slot.read_some, if_pos halive]
          exact Nat.succ_pos n
        · simp [htrial, Slot.incr, Slot.alive, Option.filter, halive]
      · exact .inl ((hle t rfl).trans (not_lt.1 halive))

lemma Tracked.read_eq_none (h : Tracked s)
    (hfirst : s.count .halfOpenTrialCount < halfOpenTrialCalls) :
    Slot.read s.now (s.counters .halfOpenTrialCount) = none := by
  unfold Circuit.count halfOpenTrialCalls at hfirst
  cases hread : Slot.read s.now (s.counters .halfOpenTrialCount) with
  | none => rfl
  | some n =>
    obtain ⟨⟨m, expiresAt⟩, hentry, heq⟩ := Option.map_eq_some_iff.1 hread
    have hpos := h.positive m expiresAt (Option.filter_eq_some_iff.1 hentry).1
    rw [hread] at hfirst
    change n < 1 at hfirst
    change m = n at heq
    omega

/-- The claim of a trial, while the circuit is closed or the time of recovery has passed. -/
lemma Tracked.incr (h : Tracked s)
    (hlate : s.count .halfOpenTrialCount < halfOpenTrialCalls → s.stored ≠ .CLOSED → s.Recovered) :
    Tracked ((BreakerCmd.incr .halfOpenTrialCount).apply s) := by
  change Tracked (s.claim.write .halfOpenTrialCount
    (Slot.incr s.now (s.counters .halfOpenTrialCount)))
  unfold Circuit.claim
  split_ifs with hfirst
  · -- the first one: every probe of the episode is long ago
    have hago : ∀ p ∈ s.probes, p.episode = s.episode → p.time + recoveryTimeMs ≤ s.now := by
      intro p hp heq
      rcases (h.guarded p hp heq).read with hago | ⟨-, -, hpos, -⟩
      · exact hago
      · unfold halfOpenTrialCalls at hfirst
        omega
    have hnone : Slot.read s.now (s.counters .halfOpenTrialCount) = none := h.read_eq_none hfirst
    rw [Slot.incr, Option.map_eq_none_iff.1 hnone]
    refine ⟨?_, ?_, ?_, ?_, ?_⟩
    · exact List.forall_mem_append.2 ⟨h.late, List.forall_mem_singleton.2 (hlate hfirst)⟩
    · refine List.pairwise_append.2 ⟨h.apart, List.pairwise_singleton _ _, fun p hp q hq => ?_⟩
      obtain rfl := List.mem_singleton.1 hq
      exact hago p hp
    · exact List.forall_mem_append.2 ⟨h.past, List.forall_mem_singleton.2 ⟨le_refl _, le_refl _⟩⟩
    · refine List.forall_mem_append.2 ⟨fun p hp heq => .inl (hago p hp heq), ?_⟩
      exact List.forall_mem_singleton.2 fun _ => .inr ⟨0, none, rfl, fun t ht => nomatch ht⟩
    · rintro n expiresAt ⟨rfl⟩
      exact Nat.one_pos
  · -- a later one: the counter keeps its expiry
    refine ⟨h.late, h.apart, h.past, fun p hp heq => ?_, fun n expiresAt heq => ?_⟩
    · rcases (h.guarded p hp heq).read with hago | ⟨n, expiresAt, -, hincr, hle⟩
      · exact .inl hago
      · exact .inr ⟨n, expiresAt, hincr, hle⟩
    · exact Slot.incr_pos heq

lemma Tracked.expire (h : Tracked s) :
    Tracked ((BreakerCmd.expire .halfOpenTrialCount (recoveryTimeMs / 1000)).apply s) := by
  refine ⟨h.late, h.apart, h.past, fun p hp heq => ?_, fun n expiresAt heq => ?_⟩
  · rcases h.guarded p hp heq with hago | ⟨n, expiresAt, htrial, hle⟩
    · exact .inl hago
    · by_cases halive : Slot.alive s.now (n + 1, expiresAt) = true
      · refine .inr ⟨n, some (s.now + recoveryTimeMs), ?_, ?_⟩
        · change Slot.expire s.now _ (s.counters .halfOpenTrialCount) = _
          simp [htrial, Slot.expire, Option.filter, halive, recoveryTimeMs]
        · rintro t ⟨rfl⟩
          exact Nat.add_le_add_right (h.past p hp).2 _
      · -- the counter has expired, so that the probe is long ago
        cases expiresAt with
        | none => exact absurd rfl halive
        | some t =>
          have hdead : ¬ s.now < t := fun hlt => halive (by simpa [Slot.alive] using hlt)
          exact .inl ((hle t rfl).trans (not_lt.1 hdead))
  · obtain ⟨-, before, hbefore⟩ := Slot.expire_eq_some heq
    exact h.positive n before hbefore

end lemmas

/-! ### Methods that run alone -/

section alone

variable {provider : String}

lemma claim_same (s : Circuit) : s.claim.now = s.now ∧ s.claim.state = s.state ∧
    s.claim.lastFailureTime = s.lastFailureTime ∧ s.claim.refailed = s.refailed := by
  unfold Circuit.claim
  split_ifs <;> exact ⟨rfl, rfl, rfl, rfl⟩

lemma Orderly.pass (h : Orderly s) (d : Nat) : Orderly (s.pass d) :=
  h.of_eq rfl rfl (Nat.le_add_right _ _) rfl rfl rfl

/-- A claim, while the time of recovery has passed. -/
lemma Tracked.claimTrial (h : Tracked s) (hrecovered : s.Recovered) :
    BreakerTimely (fun s' _ => Orderly s') s (claimTrial provider) := by
  refine timely_issue_bind.2 fun d => ?_
  have hpass : (s.pass d).Recovered := hrecovered.of_le (Nat.le_add_right _ _) rfl
  obtain ⟨hnow, -, hfailure, -⟩ := claim_same (s.pass d)
  have htracked : Tracked (s.pass d) := h.of_eq rfl rfl (Nat.le_add_right _ _) rfl
  have hclaimed : Orderly ((BreakerCmd.incr .halfOpenTrialCount).apply (s.pass d)) :=
    ⟨htracked.incr fun _ _ => hpass, fun _ => hpass.of_le hnow.ge hfailure⟩
  dsimp only
  split_ifs
  · refine timely_issue_bind.2 fun d' => ?_
    have horderly := hclaimed.pass d'
    exact ⟨horderly.tracked.expire, horderly.recovered⟩
  · exact hclaimed
  · exact hclaimed

/-- A caller that asks alone keeps what holds of the probes. -/
lemma Orderly.assertAvailable (h : Orderly s) (provider : String) :
    BreakerTimely (fun s' _ => Orderly s') s (assertAvailable provider) := by
  refine timely_issue_bind.2 fun d => ?_
  change BreakerTimely _ (s.pass d) _
  have hpass := h.pass d
  split
  case h_1 => exact hpass
  case h_2 =>
      refine (timely_bind _ _).2 (timely_hasRecoveryWindowElapsed.mono ?_)
      rintro _ _ ⟨d₁, elapsed, rfl, rfl, helapsed⟩
      have horderly := hpass.pass d₁
      cases elapsed with
      | false => exact horderly
      | true =>
        obtain ⟨time, htime, -, hlt⟩ := helapsed.1 rfl
        refine timely_issue_bind.2 fun d₂ => Tracked.claimTrial ?_ ?_
        · exact horderly.tracked.of_eq rfl rfl (Nat.le_add_right _ _) rfl
        · exact ⟨time, htime, hlt.trans_le (Nat.le_add_right _ d₂)⟩
  case h_3 hhalf => exact hpass.tracked.claimTrial (hpass.recovered hhalf)

end alone

/-- A report keeps what holds of the probes: one that leaves the circuit half-open does not exist,
and every opening and closing begins an episode. -/
lemma Orderly.report {s' : Circuit} {report : Report} (h : Orderly s)
    (hreported : ReportedFrom s report s') : Orderly s' := by
  obtain ⟨hnow, hprobes, hreported⟩ := hreported
  cases hreported with
  | closes hstored hclosed hepisode htrial =>
    refine ⟨h.tracked.renew hprobes (by omega) hnow fun _ heq => ?_, fun hhalf => ?_⟩
    · exact nomatch htrial.symm.trans heq
    · exact nomatch hclosed.symm.trans hhalf
  | counted hstored hstate hepisode htrial hfailure =>
    exact h.of_eq hprobes hepisode hnow htrial hstate hfailure
  | slow hstored hopen hepisode htrial hfailure =>
    refine ⟨h.tracked.renew hprobes (by omega) hnow fun _ heq => htrial.symm.trans heq, ?_⟩
    exact fun hhalf => nomatch hopen.symm.trans hhalf
  | opens hopen hepisode htrial hfailure =>
    refine ⟨h.tracked.renew hprobes (by omega) hnow fun _ heq => ?_, fun hhalf => ?_⟩
    · exact nomatch htrial.symm.trans heq
    · exact nomatch hopen.symm.trans hhalf
  | failed hstored hstate hepisode htrial hfailure =>
    refine ⟨h.tracked.of_eq hprobes hepisode hnow htrial, fun hhalf => absurd ?_ hstored⟩
    rwa [stored_eq_half_open, ← hstate, ← stored_eq_half_open]

lemma orderly_start (start : Nat) : Orderly { now := start } := by
  refine ⟨⟨?_, List.Pairwise.nil, ?_, ?_, fun _ _ h => nomatch h⟩, fun h => nomatch h⟩ <;>
    exact fun p hp => absurd hp List.not_mem_nil

/-! ### Methods that run at once -/

/-- What the methods issue: only failures and slow calls open the circuit, times come from the
clock, and the counter of the trials is never set, and expires after the time of recovery. -/
def BreakerCmd.Regular : BreakerCmd → Prop
  | .setState writer .OPEN => writer = .recordFailure ∨ writer = .recordSlowCallSample
  | .setLastFailureTime _ time => 0 < time
  | .expire .halfOpenTrialCount seconds => seconds = recoveryTimeMs / 1000
  | .setZero key => key ≠ .halfOpenTrialCount
  | _ => True

/-- What every operation of the methods keeps that meets the condition. -/
structure Kept (I : Circuit → Prop) (Cond : BreakerCmd → Circuit → Prop) : Prop where
  started : ∀ s, I s → 0 < s.now
  apply : ∀ c s, I s → c.Regular → Cond c s → I (c.apply s)

section kept

variable {I : Circuit → Prop} {Cond : BreakerCmd → Circuit → Prop} {α : Type} {floor : Circuit}
  {seen : Option Circuit}

/-- Every operation of the program keeps the invariant. -/
abbrev Keeps (I : Circuit → Prop) (Cond : BreakerCmd → Circuit → Prop) (floor : Circuit)
    (seen : Option Circuit) (prog : BreakerProg α) : Prop :=
  Prog.Safe I (fun _ _ => True) (fun _ c s => Cond c s) (fun _ _ _ => True) floor seen prog

variable (hkept : Kept I Cond)

include hkept

lemma Kept.issue {c : BreakerCmd} {f : Circuit → BreakerProg α} (hc : c.Regular)
    (h : ∀ s, I s → Keeps I Cond (c.apply s) seen (f s)) :
    Keeps I Cond floor seen (issue c >>= f) :=
  fun s hs _ hcond => ⟨hkept.apply c s hs hc hcond, trivial, h s hs⟩

lemma Kept.hasRecoveryWindowElapsed : Keeps I Cond floor seen hasRecoveryWindowElapsed := by
  refine hkept.issue trivial fun s _ => ?_
  split
  · trivial
  · exact hkept.issue trivial fun _ _ => trivial

lemma Kept.claimTrial (provider : String) : Keeps I Cond floor seen (claimTrial provider) := by
  refine hkept.issue trivial fun s _ => ?_
  dsimp only
  split_ifs
  · exact hkept.issue rfl fun _ _ => trivial
  · trivial
  · trivial

lemma Kept.assertAvailable (provider : String) :
    Keeps I Cond floor seen (assertAvailable provider) := by
  refine hkept.issue trivial fun s _ => ?_
  split
  · trivial
  · refine (holds_bind _ _).2 (hkept.hasRecoveryWindowElapsed.mono fun _ _ elapsed _ => ?_)
    cases elapsed with
    | false => trivial
    | true => exact hkept.issue trivial fun _ _ => hkept.claimTrial provider
  · exact hkept.claimTrial provider

lemma Kept.trip (recentCallCount : Nat) :
    Keeps I Cond floor seen (recordSlowCallSample.trip recentCallCount) := by
  unfold recordSlowCallSample.trip
  split
  · trivial
  · refine hkept.issue trivial fun s _ => ?_
    split
    · refine hkept.issue trivial fun clock hclock => ?_
      refine hkept.issue (.inr rfl) fun _ _ => ?_
      exact hkept.issue (hkept.started clock hclock) fun _ _ => trivial
    · trivial

lemma Kept.recordSuccess (latencyMs : Nat) :
    Keeps I Cond floor seen (recordSuccess latencyMs) := by
  refine hkept.issue trivial fun s _ => ?_
  split
  · refine hkept.issue trivial fun _ _ => ?_
    refine hkept.issue (nomatch ·) fun _ _ => ?_
    refine hkept.issue (nomatch ·) fun _ _ => ?_
    refine hkept.issue (nomatch ·) fun _ _ => ?_
    exact hkept.issue trivial fun _ _ => trivial
  · refine hkept.issue trivial fun _ _ => ?_
    refine hkept.issue trivial fun _ _ => ?_
    split
    · refine hkept.issue trivial fun _ _ => ?_
      exact hkept.issue trivial fun _ _ => hkept.trip _
    · exact hkept.trip _

lemma Kept.recordFailure : Keeps I Cond floor seen recordFailure := by
  refine hkept.issue trivial fun _ _ => ?_
  refine hkept.issue trivial fun clock hclock => ?_
  refine hkept.issue trivial fun _ _ => ?_
  refine hkept.issue trivial fun _ _ => ?_
  refine hkept.issue (hkept.started clock hclock) fun _ _ => ?_
  dsimp only
  split_ifs
  · refine hkept.issue (.inl rfl) fun _ _ => ?_
    exact hkept.issue trivial fun _ _ => trivial
  · trivial

lemma Kept.resetCircuit : Keeps I Cond floor seen resetCircuit := by
  refine hkept.issue trivial fun _ _ => ?_
  refine hkept.issue (nomatch ·) fun _ _ => ?_
  refine hkept.issue (nomatch ·) fun _ _ => ?_
  refine hkept.issue (nomatch ·) fun _ _ => ?_
  refine hkept.issue trivial fun _ _ => ?_
  exact hkept.issue trivial fun _ _ => trivial

/-- **What every operation keeps, every interleaving of the methods keeps**, whichever of them
crash, if every operation meets the condition. -/
theorem runMethods_keeps {start : Nat} (hstart : I { now := start }) (methods : List BreakerMethod)
    (schedule : List Nat) (hcond : ∀ e ∈ (runMethods start methods schedule).1, Cond e.cmd e.pre) :
    I (runMethods start methods schedule).2.state := by
  have hpool : Pool.Safe I (fun _ _ => True) (fun _ c s => Cond c s)
      (breakerPool { now := start } (methods.map BreakerMethod.program)) := by
    refine Pool.safe_start (fun _ => trivial) hstart fun prog hprog => ?_
    obtain ⟨method, -, rfl⟩ := List.mem_map.1 hprog
    cases method with
    | assertAvailable provider => exact hkept.assertAvailable provider
    | recordSuccess latencyMs => exact hkept.recordSuccess latencyMs
    | recordFailure => exact hkept.recordFailure
    | resetCircuit => exact hkept.resetCircuit
    | passing milliseconds => exact hkept.issue trivial fun _ _ => trivial
  exact (Pool.exec_safe (fun _ => trivial) (fun _ _ _ _ _ => trivial) hpool schedule hcond).2

end kept

/-! ### Operations that are not overtaken -/

/-- The operation is not overtaken by another method's.  A caller makes the circuit half-open while
the time of recovery has passed since the last failure, and claims a trial that is left while the
circuit has not been opened again and no failure has been recorded since it is half-open.  The
counter of the trials is deleted while no trial of the present episode counts.  A time of failure is
written for slow calls, or deleted, while the circuit is not half-open.

Source: `RedisCircuitBreakerService` -/
def BreakerCmd.Timed : BreakerCmd → Circuit → Prop
  | .setState _ .HALF_OPEN, s => s.Recovered
  | .incr .halfOpenTrialCount, s =>
    s.count .halfOpenTrialCount < halfOpenTrialCalls → s.stored ≠ .OPEN ∧ s.refailed = false
  | .del .halfOpenTrialCount, s =>
    ∀ p ∈ s.probes, p.episode = s.episode → p.time + recoveryTimeMs ≤ s.now
  | .setLastFailureTime writer _, s => writer = .recordFailure ∨ s.stored ≠ .HALF_OPEN
  | .delLastFailureTime, s => s.stored ≠ .HALF_OPEN
  | _, _ => True

/-- What is true of the probes at every moment: the time of recovery has passed in a half-open
circuit, until a failure is recorded. -/
structure Watched (s : Circuit) : Prop where
  tracked : Tracked s
  recovered : s.stored = .HALF_OPEN → s.refailed = false → s.Recovered
  started : 0 < s.now

section watched

variable {s s' : Circuit}

lemma Watched.of_eq (h : Watched s) (hprobes : s'.probes = s.probes)
    (hepisode : s'.episode = s.episode) (hnow : s.now ≤ s'.now)
    (htrial : s'.counters .halfOpenTrialCount = s.counters .halfOpenTrialCount)
    (hstate : s'.state = s.state) (hfailure : s'.lastFailureTime = s.lastFailureTime)
    (hrefailed : s'.refailed = s.refailed) : Watched s' := by
  refine ⟨h.tracked.of_eq hprobes hepisode hnow htrial, fun hhalf hfalse => ?_,
    h.started.trans_le hnow⟩
  rw [stored_eq_half_open, hstate, ← stored_eq_half_open] at hhalf
  exact (h.recovered hhalf (hrefailed ▸ hfalse)).of_le hnow hfailure

lemma Watched.write (h : Watched s) {key : Counter} (hkey : key ≠ .halfOpenTrialCount)
    (slot : Slot Nat) : Watched (s.write key slot) :=
  h.of_eq rfl rfl (le_refl _) (if_neg hkey.symm) rfl rfl rfl

lemma Watched.setState (h : Watched s) (writer : Writer) {state : CircuitState}
    (hcond : (BreakerCmd.setState writer state).Timed s) :
    Watched ((BreakerCmd.setState writer state).apply s) := by
  cases state with
  | HALF_OPEN =>
    exact ⟨h.tracked.of_eq rfl rfl (le_refl _) rfl, fun _ _ => hcond.of_le (le_refl _) rfl,
      h.started⟩
  | CLOSED | OPEN =>
    refine ⟨h.tracked.renew rfl (Nat.lt_succ_self _) (le_refl _) fun _ heq => heq, ?_, h.started⟩
    exact fun hhalf => (nomatch hhalf)

lemma Watched.incr (h : Watched s) (hcond : (BreakerCmd.incr .halfOpenTrialCount).Timed s) :
    Watched ((BreakerCmd.incr .halfOpenTrialCount).apply s) := by
  obtain ⟨hnow, hstate, hfailure, hrefailed⟩ := claim_same s
  refine ⟨h.tracked.incr fun hfirst hne => h.recovered ?_ (hcond hfirst).2, fun hhalf hfalse => ?_,
    hnow.symm ▸ h.started⟩
  · cases hstored : s.stored with
    | CLOSED => exact absurd hstored hne
    | OPEN => exact absurd hstored (hcond hfirst).1
    | HALF_OPEN => rfl
  · refine (h.recovered ?_ (hrefailed.symm.trans hfalse)).of_le hnow.ge hfailure
    rw [stored_eq_half_open] at hhalf ⊢
    exact hstate.symm.trans hhalf

/-- **Every operation that is not overtaken keeps what is true of the probes.** -/
theorem Watched.apply {c : BreakerCmd} (h : Watched s) (hc : c.Regular) (hcond : c.Timed s) :
    Watched (c.apply s) := by
  cases c with
  | clock | getState | getLastFailureTime | get key => exact h
  | wait milliseconds => exact h.of_eq rfl rfl (Nat.le_add_right _ _) rfl rfl rfl rfl
  | setState writer state => exact h.setState writer hcond
  | setLastFailureTime writer time =>
    refine ⟨h.tracked.of_eq rfl rfl (le_refl _) rfl, fun hhalf hfalse => ?_, h.started⟩
    -- a failure that is recorded while the circuit is half-open is remembered
    change s.stored = .HALF_OPEN at hhalf
    obtain rfl := hcond.resolve_right (not_not.2 hhalf)
    obtain ⟨-, hnot⟩ := Bool.or_eq_false_iff.1 hfalse
    rw [decide_eq_true rfl, decide_eq_true hhalf] at hnot
    exact (nomatch hnot)
  | delLastFailureTime =>
    exact ⟨h.tracked.of_eq rfl rfl (le_refl _) rfl, fun hhalf => absurd hhalf hcond, h.started⟩
  | incr key =>
    rcases eq_or_ne key .halfOpenTrialCount with rfl | hkey
    · exact h.incr hcond
    · cases key <;> first | exact h.write hkey _ | exact absurd rfl hkey
  | expire key seconds =>
    rcases eq_or_ne key .halfOpenTrialCount with rfl | hkey
    · obtain rfl : seconds = recoveryTimeMs / 1000 := hc
      exact ⟨h.tracked.expire, h.recovered, h.started⟩
    · cases key <;> first | exact h.write hkey _ | exact absurd rfl hkey
  | setZero key => exact h.write hc _
  | del key =>
    rcases eq_or_ne key .halfOpenTrialCount with rfl | hkey
    · exact ⟨⟨h.tracked.late, h.tracked.apart, h.tracked.past,
        fun p hp heq => .inl (hcond p hp heq), fun _ _ heq => (nomatch heq)⟩, h.recovered,
        h.started⟩
    · exact h.write hkey _

end watched

/-! ### Every interleaving -/

/-- The command that claims a trial records a probe in the state it finds. -/
def Circuit.Claims (s : Circuit) : Prop :=
  ((BreakerCmd.incr .halfOpenTrialCount).apply s).probes =
    s.probes ++ [⟨s.now, s.stored, s.lastFailureTime, s.episode⟩]

lemma claimTrial_meeting {provider : String} {met : List Circuit}
    (h : (claimTrial provider).meeting met = some (.ok ())) : ∃ s ∈ met, s.Claims := by
  cases met with
  | nil => exact nomatch h
  | cons s met =>
    refine ⟨s, List.mem_cons_self, ?_⟩
    change s.claim.probes = _
    unfold Circuit.claim
    split_ifs with hfirst
    · rfl
    · -- the budget is spent: the caller is refused
      change (if s.count .halfOpenTrialCount + 1 = 1 then _ else _ : BreakerProg Unit).meeting met =
        _ at h
      unfold halfOpenTrialCalls at hfirst
      rw [if_neg (by omega), if_pos (by unfold halfOpenTrialCalls; omega),
        meeting_throw] at h
      exact nomatch h

/-- A caller is admitted when it finds the circuit closed, or when it claims a trial, which is
recorded as a probe. -/
lemma assertAvailable_meeting {provider : String} {met : List Circuit}
    (h : (assertAvailable provider).meeting met = some (.ok ())) :
    (∃ s, met.head? = some s ∧ s.stored = .CLOSED) ∨ ∃ s ∈ met, s.Claims := by
  cases met with
  | nil => cases h
  | cons s met =>
    change (_ : BreakerProg Unit).meeting met = _ at h
    dsimp only [Prog.bind] at h
    split at h
    case h_1 hclosed => exact .inl ⟨s, rfl, hclosed⟩
    case h_2 =>
        obtain ⟨elapsed, rest, hsub, hrest⟩ := meeting_bind h
        cases elapsed with
        | false => cases (meeting_throw _ rest).symm.trans hrest
        | true =>
          obtain ⟨_, rest', hsub', hclaim⟩ := meeting_bind hrest
          obtain ⟨s', hs', hclaims⟩ := claimTrial_meeting hclaim
          exact .inr ⟨s', List.mem_cons_of_mem s (hsub (hsub' hs')), hclaims⟩
    case h_3 =>
        obtain ⟨s', hs', hclaims⟩ := claimTrial_meeting h
        exact .inr ⟨s', List.mem_cons_of_mem s hs', hclaims⟩

instance (s : Circuit) : Decidable s.Recovered :=
  decidable_of_iff (s.lastFailureTime.any fun time => time + recoveryTimeMs < s.now)
    (by simp [Circuit.Recovered, Option.any_eq_true])

/-- It can be decided. -/
instance BreakerCmd.decidableTimed (c : BreakerCmd) (s : Circuit) : Decidable (c.Timed s) := by
  unfold BreakerCmd.Timed
  split <;> infer_instance

namespace Sample

/-- Five failures, which open the circuit. -/
def fiveFailures : List BreakerMethod := List.replicate 5 .recordFailure

/-- Five failures, one after the other. -/
def openingSchedule : List Nat :=
  List.replicate 5 0 ++ List.replicate 5 1 ++ List.replicate 5 2 ++ List.replicate 5 3 ++
    List.replicate 7 4

/-- Two callers overlap; the failure of the probe overlaps a third one, which is refused. -/
def probedAtOnce : List BreakerMethod :=
  fiveFailures ++ [.passing 30001, .assertAvailable "STRIPE", .assertAvailable "STRIPE",
    .recordFailure, .assertAvailable "STRIPE"]

/-- Then the methods that run at once. -/
def probedAtOnceSchedule : List Nat :=
  openingSchedule ++ [5, 6, 7, 6, 7, 6, 7, 6, 7, 6, 6, 7, 8, 8, 8, 8, 8, 9, 8, 9, 8, 9]

/-- What methods that run after the opening at once admit. -/
def probesAfterOpening (methods : List BreakerMethod) (schedule : List Nat) : List Probe :=
  (runMethods 1000 (fiveFailures ++ methods) (openingSchedule ++ schedule)).2.state.probes

/-- A caller has checked the time of recovery; a failure is recorded before it goes on. -/
def overtakenCaller : List Probe :=
  probesAfterOpening [.passing 30001, .assertAvailable "STRIPE", .recordFailure]
    ([5] ++ List.replicate 3 6 ++ List.replicate 7 7 ++ List.replicate 3 6)

/-- The failure of a probe opens the circuit; it deletes the counter of the trials only after
another probe has been admitted. -/
def delayedDeletion : List Probe :=
  probesAfterOpening [.passing 30001, .assertAvailable "STRIPE", .recordFailure, .passing 30001,
      .assertAvailable "STRIPE", .assertAvailable "STRIPE"]
    ([5] ++ List.replicate 6 6 ++ List.replicate 6 7 ++ [8] ++ List.replicate 6 9 ++ [7] ++
      List.replicate 3 10)

end Sample

end OmniSwitch
