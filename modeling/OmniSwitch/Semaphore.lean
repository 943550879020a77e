import OmniSwitch.Lib.History

/-!
# The bulkhead semaphore

`semaphore.ts`.  A call of `run` holds a permit from the moment its `acquire` is resolved until its
`release`; a `release` hands the permit to the first waiter without going through the counter.  What
is awaited goes on in the microtask queue, which is first in, first out.

Main results:

* `Fair.step`: what every event keeps;
* `bulkhead_fair`: the bound on the functions in flight, and the order of the calls.
-/

namespace OmniSwitch

open Lib

/-- The waiting calls, by the order in which they arrived. -/
structure Semaphore where
  available : Nat
  queue : List Nat := []

namespace Semaphore

/-- Both methods return the calls whose promise they resolve. -/
def acquire (s : Semaphore) (call : Nat) : Semaphore × List Nat :=
  if 0 < s.available then ({ s with available := s.available - 1 }, [call])
  else ({ s with queue := s.queue ++ [call] }, [])

/-- Source: `Semaphore.release` -/
def release (s : Semaphore) : Semaphore × List Nat :=
  match s.queue with
  | next :: queue => ({ s with queue }, [next])
  | [] => ({ s with available := s.available + 1 }, [])

end Semaphore

/-- The semaphore and the calls of its `run`. -/
structure Bulkhead where
  semaphore : Semaphore
  arrived : Nat := 0
  /-- The calls that hold a permit and go on in the microtask queue. -/
  resolved : List Nat := []
  /-- The calls whose function has been called, in that order. -/
  started : List Nat := []
  /-- Those whose function has not come to an end. -/
  inFlight : List Nat := []

namespace Bulkhead

/-- How the function of a call comes to an end; `finally` does not ask. -/
inductive End where
  | fulfilled | rejected | threw

/-- A call is made, the next one goes on, or a function ends. -/
inductive Event where
  | run
  | resume
  | finish (call : Nat) (how : End)

/-- The calls that an operation has resolved are queued. -/
def resolve (w : Bulkhead) (result : Semaphore × List Nat) : Bulkhead :=
  { w with semaphore := result.1, resolved := w.resolved ++ result.2 }

/-- Source: `Semaphore.run` -/
def step : Event → Bulkhead → Bulkhead
  | .run, w => { w with arrived := w.arrived + 1 }.resolve (w.semaphore.acquire w.arrived)
  | .resume, w =>
    match w.resolved with
    | [] => w
    | call :: resolved =>
      { w with resolved, started := w.started ++ [call], inFlight := call :: w.inFlight }
  | .finish call _, w =>
    if call ∈ w.inFlight then
      { w with inFlight := w.inFlight.erase call }.resolve w.semaphore.release
    else w

/-- The permits are the free ones and those of the calls that hold one; a call waits only when none
is free; and the calls are admitted in the order in which they arrived. -/
structure Fair (maxConcurrent : Nat) (w : Bulkhead) : Prop where
  permits : w.semaphore.available + (w.resolved.length + w.inFlight.length) = maxConcurrent
  waiting : w.semaphore.queue ≠ [] → w.semaphore.available = 0
  order : w.started ++ w.resolved ++ w.semaphore.queue = List.range w.arrived

/-- Every event keeps it. -/
lemma Fair.step {maxConcurrent : Nat} {w : Bulkhead} (h : w.Fair maxConcurrent) (event : Event) :
    (step event w).Fair maxConcurrent := by
  obtain ⟨hpermits, hwaiting, horder⟩ := h
  cases event with
  | run =>
    dsimp only [Bulkhead.step, Semaphore.acquire]
    split_ifs with havailable
    · have hqueue : w.semaphore.queue = [] := by
        by_contra hne
        exact absurd (hwaiting hne) havailable.ne'
      rw [hqueue, List.append_nil] at horder
      refine ⟨?_, fun hne => absurd hqueue hne,
        by simp [resolve, hqueue, List.range_succ, ← horder]⟩
      simp only [resolve, List.length_append, List.length_singleton]
      omega
    · refine ⟨by simpa [resolve] using hpermits, fun _ => by simpa [resolve] using havailable, ?_⟩
      simp [resolve, List.range_succ, ← horder]
  | resume =>
    dsimp only [Bulkhead.step]
    split
    · exact ⟨hpermits, hwaiting, horder⟩
    · rename_i call resolved hresolved
      rw [hresolved] at hpermits horder
      refine ⟨?_, hwaiting, by simpa using horder⟩
      simp only [List.length_cons] at hpermits ⊢
      omega
  | finish call how =>
    dsimp only [Bulkhead.step]
    split_ifs with hmem
    · have hlength := List.length_erase_of_mem hmem
      have hpos := List.length_pos_of_mem hmem
      unfold Semaphore.release
      split
      · rename_i next queue hqueue
        rw [hqueue] at hwaiting horder
        refine ⟨?_, fun _ => hwaiting (List.cons_ne_nil _ _), by simpa [resolve] using horder⟩
        simp only [resolve, List.length_append, List.length_singleton]
        omega
      · rename_i hqueue
        refine ⟨?_, fun hne => absurd hqueue hne, by simpa [resolve] using horder⟩
        simp only [resolve, List.append_nil]
        omega
    · exact ⟨hpermits, hwaiting, horder⟩

/-- **The bulkhead**: after any calls, resumptions and ends, however the functions end, at most
`maxConcurrent` functions are in flight, no permit is lost, calls wait only when no permit is free
and are admitted in the order of their arrival. -/
theorem bulkhead_fair (maxConcurrent : Nat) (events : List Event) :
    (History.after step ⟨⟨maxConcurrent, []⟩, 0, [], [], []⟩ events).Fair maxConcurrent ∧
      (History.after step ⟨⟨maxConcurrent, []⟩, 0, [], [], []⟩ events).inFlight.length ≤
        maxConcurrent := by
  have hfair : (History.after step ⟨⟨maxConcurrent, []⟩, 0, [], [], []⟩ events).Fair
      maxConcurrent := by
    have hstep : ∀ event w, w.Fair maxConcurrent → True → (step event w).Fair maxConcurrent :=
      fun event w h _ => h.step event
    exact History.keeps step hstep ⟨rfl, fun hne => absurd rfl hne, rfl⟩ events fun _ _ => trivial
  exact ⟨hfair, by have := hfair.permits; omega⟩

end Bulkhead

end OmniSwitch
