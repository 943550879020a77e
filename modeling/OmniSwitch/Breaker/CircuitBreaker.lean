import OmniSwitch.Lib.Slot
import OmniSwitch.Lib.Waiting
import OmniSwitch.Money

/-!
# The circuit breaker

`redis-circuit-breaker.service.ts`, for one provider: the keys of different providers are different.
Every operation on the cache is a command of its own; `Date.now()` is one as well, that only reads
the clock.  The metrics, which no decision reads, are left out.

Beside the keys it is recorded which calls were admitted as probes, and in which episode of the
circuit, from one opening or closing to the next.
-/

namespace OmniSwitch

open Lib Prog

/-- Source: `CircuitState` -/
inductive CircuitState where
  | CLOSED | OPEN | HALF_OPEN
  deriving DecidableEq, Repr

/-- The keys that count. -/
inductive Counter where
  | failureCount | recentCallCount | slowCallCount | halfOpenTrialCount
  deriving DecidableEq, Repr

/-- The methods that write the state. -/
inductive Writer where
  | assertAvailable | recordSuccess | recordSlowCallSample | recordFailure | resetCircuit
  deriving DecidableEq, Repr

/-- A call that was admitted while the circuit was not closed: when, what was stored then, and in
which episode. -/
structure Probe where
  time : Nat
  state : CircuitState
  lastFailureTime : Option Nat
  episode : Nat
  deriving DecidableEq, Repr

/-- The clock, in milliseconds, and the keys of a provider.  The state and the time of the last
failure never expire.

Beside them: the openings and closings so far, the probes, the calls that have claimed the first
trial and not set its expiry yet, the openings for slow calls whose time is not recorded yet, and
whether a failure has been recorded since the circuit is half-open.

Source: `RedisCircuitBreakerService` -/
structure Circuit where
  now : Nat
  state : Option CircuitState := none
  lastFailureTime : Option Nat := none
  counters : Counter → Slot Nat := fun _ => none
  episode : Nat := 0
  probes : List Probe := []
  unexpiring : Nat := 0
  untimed : Nat := 0
  refailed : Bool := false

/-- An operation on the cache; a read of the clock; or time that passes. -/
inductive BreakerCmd where
  | clock
  | wait (milliseconds : Nat)
  | getState
  | setState (writer : Writer) (state : CircuitState)
  | getLastFailureTime
  | setLastFailureTime (writer : Writer) (time : Nat)
  | delLastFailureTime
  | get (key : Counter)
  | incr (key : Counter)
  | expire (key : Counter) (seconds : Nat)
  | setZero (key : Counter)
  | del (key : Counter)

namespace RedisCircuitBreaker

/-- Source: `redis-circuit-breaker.service.ts` `FAILURE_THRESHOLD` -/
def failureThreshold : Nat := 5

/-- Source: `redis-circuit-breaker.service.ts` `RECOVERY_TIME_MS` -/
def recoveryTimeMs : Nat := 30000

/-- Source: `redis-circuit-breaker.service.ts` `HALF_OPEN_TRIAL_CALLS` -/
def halfOpenTrialCalls : Nat := 1

/-- Source: `redis-circuit-breaker.service.ts` `SLOW_CALL_THRESHOLD_MS` -/
def slowCallThresholdMs : Nat := 5000

/-- Source: `redis-circuit-breaker.service.ts` `SLOW_CALL_MIN_CALLS` -/
def slowCallMinCalls : Nat := 5

/-- Source: `redis-circuit-breaker.service.ts` `FAILURE_WINDOW_SECONDS` -/
def failureWindowSeconds : Nat := 60

end RedisCircuitBreaker

open RedisCircuitBreaker

namespace Circuit

/-- The state, which is closed where none is stored. -/
def stored (s : Circuit) : CircuitState := s.state.getD .CLOSED

/-- What a counter reads. -/
def count (s : Circuit) (key : Counter) : Nat := (Slot.read s.now (s.counters key)).getD 0

/-- Time passes. -/
def pass (milliseconds : Nat) (s : Circuit) : Circuit := { s with now := s.now + milliseconds }

/-- A counter is written. -/
def write (s : Circuit) (key : Counter) (slot : Slot Nat) : Circuit :=
  { s with counters := fun k => if k = key then slot else s.counters k }

/-- What is recorded of an increment of the trial counter: the first claims the trial. -/
def claim (s : Circuit) : Circuit :=
  if s.count .halfOpenTrialCount < halfOpenTrialCalls then
    { s with
      probes := s.probes ++ [⟨s.now, s.stored, s.lastFailureTime, s.episode⟩]
      unexpiring := s.unexpiring + 1 }
  else s

end Circuit

/-- The effect of a command.

Source: `RedisCacheAdapter` -/
def BreakerCmd.apply : BreakerCmd → Circuit → Circuit
  | .wait milliseconds, s => s.pass milliseconds
  | .setState writer state, s =>
    { s with
      state := some state
      episode := if state = .HALF_OPEN then s.episode else s.episode + 1
      untimed := if state = .OPEN ∧ writer = .recordSlowCallSample then s.untimed + 1
        else s.untimed
      refailed := false }
  | .setLastFailureTime writer time, s =>
    { s with
      lastFailureTime := some time
      untimed := if writer = .recordSlowCallSample then s.untimed - 1 else s.untimed
      refailed := s.refailed || (writer = .recordFailure && s.stored = .HALF_OPEN) }
  | .delLastFailureTime, s => { s with lastFailureTime := none }
  | .incr .halfOpenTrialCount, s =>
    s.claim.write .halfOpenTrialCount (Slot.incr s.now (s.counters .halfOpenTrialCount))
  | .incr key, s => s.write key (Slot.incr s.now (s.counters key))
  | .expire .halfOpenTrialCount seconds, s =>
    { s.write .halfOpenTrialCount
        (Slot.expire s.now (seconds * 1000) (s.counters .halfOpenTrialCount)) with
      unexpiring := s.unexpiring - 1 }
  | .expire key seconds, s => s.write key (Slot.expire s.now (seconds * 1000) (s.counters key))
  | .setZero key, s => s.write key (Slot.set 0)
  | .del key, s => s.write key none
  | _, s => s

instance : Commands Circuit BreakerCmd where
  apply := BreakerCmd.apply
  observes _ := false

/-- The methods are programs of such operations. -/
abbrev BreakerProg (α : Type) := Prog Circuit BreakerCmd AppError α

namespace RedisCircuitBreaker

/-- One operation; what it comes to is read off the cache it found. -/
def issue (c : BreakerCmd) : BreakerProg Circuit := act c ret

/-- The message names the provider.

Source: `RedisCircuitBreakerService.assertAvailable` -/
def unavailable (provider : String) : AppError :=
  .plain s!"{provider} circuit breaker is OPEN. Service unavailable."

/-- Source: `RedisCircuitBreakerService.hasRecoveryWindowElapsed` -/
def hasRecoveryWindowElapsed : BreakerProg Bool := do
  let found ← issue .getLastFailureTime
  match found.lastFailureTime.filter (· ≠ 0) with
  | none => return false
  | some lastFailureTime =>
    let found ← issue .clock
    return lastFailureTime + recoveryTimeMs < found.now

/-- The claim of a trial.

Source: `RedisCircuitBreakerService.assertAvailable` -/
def claimTrial (provider : String) : BreakerProg Unit := do
  let found ← issue (.incr .halfOpenTrialCount)
  let trialNumber := found.count .halfOpenTrialCount + 1
  if trialNumber = 1 then
    -- only the caller that claims the first trial sets its expiry
    let _ ← issue (.expire .halfOpenTrialCount (recoveryTimeMs / 1000))
    return ()
  else if halfOpenTrialCalls < trialNumber then throw (unavailable provider)
  else return ()

/-- Source: `RedisCircuitBreakerService.assertAvailable` -/
def assertAvailable (provider : String) : BreakerProg Unit := do
  let found ← issue .getState
  match found.stored with
  | .CLOSED => return ()
  | .OPEN => do
      if ← hasRecoveryWindowElapsed then
        let _ ← issue (.setState .assertAvailable .HALF_OPEN)
        claimTrial provider
      else throw (unavailable provider)
  | .HALF_OPEN => claimTrial provider

/-- Source: `RedisCircuitBreakerService.recordSlowCallSample` -/
def recordSlowCallSample (latencyMs : Nat) : BreakerProg Unit := do
  let found ← issue (.incr .recentCallCount)
  let recentCallCount := found.count .recentCallCount + 1
  let _ ← issue (.expire .recentCallCount failureWindowSeconds)
  if slowCallThresholdMs < latencyMs then
    let _ ← issue (.incr .slowCallCount)
    let _ ← issue (.expire .slowCallCount failureWindowSeconds)
    trip recentCallCount
  else trip recentCallCount
where
  trip (recentCallCount : Nat) : BreakerProg Unit := do
    if recentCallCount < slowCallMinCalls then return ()
    else
      let found ← issue (.get .slowCallCount)
      if recentCallCount ≤ 2 * found.count .slowCallCount then
        let found ← issue .clock
        let _ ← issue (.setState .recordSlowCallSample .OPEN)
        let _ ← issue (.setLastFailureTime .recordSlowCallSample found.now)
        return ()
      else return ()

/-- Source: `RedisCircuitBreakerService.recordSuccess` -/
def recordSuccess (latencyMs : Nat) : BreakerProg Unit := do
  let found ← issue .getState
  if found.state = some .HALF_OPEN then
    let _ ← issue (.setState .recordSuccess .CLOSED)
    let _ ← issue (.setZero .failureCount)
    let _ ← issue (.setZero .recentCallCount)
    let _ ← issue (.setZero .slowCallCount)
    let _ ← issue (.del .halfOpenTrialCount)
    return ()
  else recordSlowCallSample latencyMs

/-- Source: `RedisCircuitBreakerService.recordFailure` -/
def recordFailure : BreakerProg Unit := do
  let before ← issue .getState
  let clock ← issue .clock
  let found ← issue (.incr .failureCount)
  let _ ← issue (.expire .failureCount failureWindowSeconds)
  let _ ← issue (.setLastFailureTime .recordFailure clock.now)
  let failureCount := found.count .failureCount + 1
  if before.state = some .HALF_OPEN ∨ failureThreshold ≤ failureCount then
    let _ ← issue (.setState .recordFailure .OPEN)
    let _ ← issue (.del .halfOpenTrialCount)
    return ()
  else return ()

/-- Source: `RedisCircuitBreakerService.resetCircuit` -/
def resetCircuit : BreakerProg Unit := do
  let _ ← issue (.setState .resetCircuit .CLOSED)
  let _ ← issue (.setZero .failureCount)
  let _ ← issue (.setZero .recentCallCount)
  let _ ← issue (.setZero .slowCallCount)
  let _ ← issue (.del .halfOpenTrialCount)
  let _ ← issue .delLastFailureTime
  return ()

end RedisCircuitBreaker

lemma stored_eq_half_open {s : Circuit} :
    s.stored = .HALF_OPEN ↔ s.state = some .HALF_OPEN := by
  unfold Circuit.stored
  cases s.state <;> simp

/-! ### Operations, and time -/

section timely

variable {α : Type} {Q : Circuit → Except AppError α → Prop} {s : Circuit}

/-- A method of the breaker, whatever time passes before its operations. -/
abbrev BreakerTimely (Q : Circuit → Except AppError α → Prop) (s : Circuit) (prog : BreakerProg α) :
    Prop :=
  Timely Circuit.pass Q s prog

lemma timely_issue_bind {c : BreakerCmd} {f : Circuit → BreakerProg α} :
    BreakerTimely Q s (issue c >>= f) ↔
      ∀ d, BreakerTimely Q (c.apply (s.pass d)) (f (s.pass d)) := Iff.rfl

lemma Circuit.pass_pass (s : Circuit) (d d' : Nat) : (s.pass d).pass d' = s.pass (d + d') := by
  unfold Circuit.pass
  rw [Nat.add_assoc]

/-- The time of recovery has passed since the recorded failure. -/
def Circuit.Elapsed (s : Circuit) : Prop :=
  ∃ time, s.lastFailureTime = some time ∧ time ≠ 0 ∧ time + recoveryTimeMs < s.now

/-- The check only lets time pass, and tells whether the time of recovery has passed at its end. -/
lemma timely_hasRecoveryWindowElapsed :
    BreakerTimely (fun s' r => ∃ d b, s' = s.pass d ∧ r = .ok b ∧ (b = true ↔ s'.Elapsed)) s
      hasRecoveryWindowElapsed := by
  refine timely_issue_bind.2 fun d => ?_
  change BreakerTimely _ (s.pass d) (match s.lastFailureTime.filter (· ≠ 0) with
    | none => _
    | some lastFailureTime => _)
  split
  case h_1 hnone =>
      refine ⟨d, false, rfl, rfl, fun h => (nomatch h), ?_⟩
      rintro ⟨time, htime, hne, -⟩
      change s.lastFailureTime = _ at htime
      simp [htime, hne] at hnone
  case h_2 time hsome =>
      obtain ⟨htime, hne⟩ := Option.filter_eq_some_iff.1 hsome
      refine timely_issue_bind.2 fun d' => ⟨d + d', _, s.pass_pass d d', rfl, ?_⟩
      refine ⟨fun h => ⟨time, htime, of_decide_eq_true hne, of_decide_eq_true h⟩, ?_⟩
      rintro ⟨time', htime', -, hlt⟩
      obtain rfl : time = time' := Option.some.inj (htime.symm.trans htime')
      exact decide_eq_true hlt

end timely

end OmniSwitch
