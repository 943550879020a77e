import OmniSwitch.Lib.Interleave
import OmniSwitch.Payouts.SweepHistory

/-!
# The lock of the payout sweep

`PayoutService.runSweep` acquires a lock that expires, and deletes the key when it is done, whosever
lock is there by then.  Any number of sweeps run interleaved here, each stopping anywhere, and the
lock may expire at any moment, so also under a sweep that is still at work.

Main results:

* `sweeps_exclusive`: at most one sweep is at work, if none outlives its lock;
* `sweep_lock_stolen`: a sweep that does.
-/

namespace OmniSwitch

open Lib PayoutService

/-- What is recorded of a run: whose lock is in the store, which sweeps are at work with a lock that
has not expired, whether a sweep has released its lock after it expired, and whether one has deleted
the lock of another. -/
structure SweepLocks where
  holder : Option Nat := none
  live : List Nat := []
  outlived : Bool := false
  stolen : Bool := false

namespace SweepLocks

/-- The record after a command.  The first `n` programs are the sweeps; the others are expiries. -/
def record (n : Nat) (locks : SweepLocks) (e : Event PayoutDb PayoutCmd) : SweepLocks :=
  match e.cmd with
  | .setNX _ =>
    if e.pre.sweepLock = none then
      { locks with holder := some e.proc, live := e.proc :: locks.live }
    else locks
  | .del =>
    if e.proc < n then
      { holder := none
        live := locks.live.filter (· ≠ e.proc)
        outlived := locks.outlived || e.proc ∉ locks.live
        stolen := locks.stolen || locks.holder.any (· ≠ e.proc) }
    else { locks with holder := none, live := locks.live.filter (locks.holder ≠ some ·) }
  | _ => locks

/-- The sweep at work is the one whose lock is in the store. -/
structure Exclusive (lock : Option Date) (locks : SweepLocks) : Prop where
  free : lock = none → locks.holder = none
  live : ∀ i ∈ locks.live, locks.holder = some i
  stolen : locks.stolen = false

/-- A command keeps it, if no sweep has outlived its lock. -/
lemma exclusive_record (n : Nat) {locks : SweepLocks} {e : Event PayoutDb PayoutCmd}
    (hpost : e.post = Commands.apply e.cmd e.pre)
    (h : locks.outlived = false → Exclusive e.pre.sweepLock locks)
    (htimely : (locks.record n e).outlived = false) :
    Exclusive e.post.sweepLock (locks.record n e) := by
  obtain ⟨i, seen, c, pre, post⟩ := e
  obtain rfl : post = c.apply pre := hpost
  cases c with
  | setNX value =>
    by_cases hlock : pre.sweepLock = none
    · simp only [record, hlock, if_true] at htimely ⊢
      obtain ⟨hfree, hlive, hstolen⟩ := h htimely
      refine ⟨fun hnone => ?_, fun j hj => ?_, hstolen⟩
      · simp [PayoutCmd.apply, hlock] at hnone
      · rcases List.mem_cons.1 hj with rfl | hj
        · rfl
        · exact nomatch (hlive j hj).symm.trans (hfree hlock)
    · simp only [record, hlock, if_false] at htimely ⊢
      obtain ⟨hfree, hlive, hstolen⟩ := h htimely
      refine ⟨fun hnone => absurd ?_ hlock, hlive, hstolen⟩
      simpa [PayoutCmd.apply, Option.isSome_iff_ne_none.2 hlock] using hnone
  | del =>
    by_cases hsweep : i < n
    · simp only [record, hsweep, if_true, Bool.or_eq_false_iff, decide_eq_false_iff_not,
        not_not] at htimely ⊢
      obtain ⟨-, hlive, hstolen⟩ := h htimely.1
      -- the lock of a sweep that is in time is the one in the store
      have hholder := hlive i htimely.2
      refine ⟨fun _ => rfl, fun j hj => ?_, by simp [hstolen, hholder]⟩
      obtain ⟨hj, hne⟩ := List.mem_filter.1 hj
      rw [hlive j hj, Option.some.injEq] at hholder
      simp [hholder] at hne
    · simp only [record, hsweep, if_false] at htimely ⊢
      obtain ⟨-, hlive, hstolen⟩ := h htimely
      refine ⟨fun _ => rfl, fun j hj => ?_, hstolen⟩
      obtain ⟨hj, hne⟩ := List.mem_filter.1 hj
      simp [hlive j hj] at hne
  | bank payoutId request answer => cases answer <;> exact h htimely
  | bankReports transferId outcome => cases outcome <;> exact h htimely
  | _ => exact h htimely

end SweepLocks

/-- The sweeps, and the expiries of the lock; the key is gone after one, as after a deletion. -/
def sweepPool (db : PayoutDb) (sweeps : List SweepEnv) (expiries : Nat) :
    Pool PayoutDb PayoutCmd AppError :=
  ⟨db, ((sweeps.map fun env => runSweep env >>= fun _ => pure ()) ++
    List.replicate expiries del).map Proc.start⟩

/-- The locks at the end of a run. -/
def sweepLocks (db : PayoutDb) (sweeps : List SweepEnv) (expiries : Nat) (schedule : List Nat) :
    SweepLocks :=
  ((sweepPool db sweeps expiries).exec schedule).1.foldl (SweepLocks.record sweeps.length) {}

/-- **Sweeps exclude each other as long as none outlives its lock**: in every run in which each
sweep that releases its lock does so before the lock expires, no sweep deletes a lock of another,
and at most one sweep is at work with a lock that has not expired. -/
theorem sweeps_exclusive (db : PayoutDb) (sweeps : List SweepEnv) (expiries : Nat)
    (schedule : List Nat)
    (htimely : (sweepLocks db sweeps expiries schedule).outlived = false) :
    (sweepLocks db sweeps expiries schedule).stolen = false ∧
      ∀ i ∈ (sweepLocks db sweeps expiries schedule).live,
      ∀ j ∈ (sweepLocks db sweeps expiries schedule).live, i = j := by
  have hexclusive := Pool.exec_records
    (fun db locks => SweepLocks.outlived locks = false → locks.Exclusive db.sweepLock)
    (SweepLocks.record sweeps.length) (fun _ _ => SweepLocks.exclusive_record sweeps.length)
    (sweepPool db sweeps expiries) (x := {}) (fun _ => ⟨fun _ => rfl, nofun, rfl⟩) schedule
  obtain ⟨-, hlive, hstolen⟩ := hexclusive htimely
  refine ⟨hstolen, fun i hi j hj => ?_⟩
  exact Option.some.inj ((hlive i hi).symm.trans (hlive j hj))

namespace Sample

/-- Three sweeps. -/
def threeSweeps : List SweepEnv :=
  [sweepEnv "run-1" 10, sweepEnv "run-2" 20, sweepEnv "run-3" 30]

end Sample

open Sample

/-- The first sweep stops before it is done; its lock expires, and the second one is done in time.
-/
theorem sweeps_exclusive_stopped :
    (((sweepPool .empty threeSweeps 1).exec [0, 0, 3, 1, 1, 1, 1, 1]).2.state.sweepRuns.rows.map
      PayoutSweepRun.id = ["run-2"]) ∧
    (sweepLocks .empty threeSweeps 1 [0, 0, 3, 1, 1, 1, 1, 1]).stolen = false :=
  ⟨by decide +kernel, (sweeps_exclusive .empty threeSweeps 1 [0, 0, 3, 1, 1, 1, 1, 1]
    (by decide +kernel)).1⟩

/-- The lock expires under the first sweep and the second one acquires it.  The first one then
deletes it, and the third starts while the second is at work. -/
theorem sweep_lock_stolen :
    (sweepLocks .empty threeSweeps 1 [0, 3, 1, 0, 0, 0, 0]).stolen = true ∧
      (sweepLocks .empty threeSweeps 1 [0, 3, 1, 0, 0, 0, 0, 2]).live = [2, 1] := by
  refine ⟨?_, ?_⟩ <;> decide +kernel

end OmniSwitch
