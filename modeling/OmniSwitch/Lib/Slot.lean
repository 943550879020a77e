import Mathlib.Data.Option.Basic

/-!
# Keys that expire

What a store keeps under one key: a value, and the time from which on the key is gone, if it has
one. An expired key reads as a missing one.

Main results:

* `incr_cases`, `incr_pos`, `expire_eq_some`: what is stored after each command.
-/

namespace OmniSwitch.Lib

/-- A value, with the time its key expires at. -/
abbrev Slot (ν : Type) := Option (ν × Option Nat)

namespace Slot

variable {ν : Type}

/-- The key has not expired. -/
def alive (now : Nat) (entry : ν × Option Nat) : Bool := entry.2.all (now < ·)

/-- What a read finds. -/
def read (now : Nat) (slot : Slot ν) : Option ν := (Option.filter (alive now) slot).map Prod.fst

/-- A write without a time to live. -/
def set (value : ν) : Slot ν := some (value, none)

/-- A write with a time to live. -/
def setEx (now ttl : Nat) (value : ν) : Slot ν := some (value, some (now + ttl))

/-- The counter after an increment; it keeps its time to live. -/
def incr (now : Nat) (slot : Slot Nat) : Slot Nat :=
  match Option.filter (alive now) slot with
  | none => some (1, none)
  | some (count, expiresAt) => some (count + 1, expiresAt)

/-- A time to live for a key that is there. -/
def expire (now ttl : Nat) (slot : Slot ν) : Slot ν :=
  (Option.filter (alive now) slot).map fun entry => (entry.1, some (now + ttl))

lemma read_some (now : Nat) (value : ν) (expiresAt : Nat) :
    read now (some (value, some expiresAt)) = if now < expiresAt then some value else none := by
  by_cases h : now < expiresAt <;> simp [read, alive, Option.filter, h]

/-- An increment starts a missing counter, and raises one that is there. -/
lemma incr_cases (now : Nat) (slot : Slot Nat) :
    (read now slot = none ∧ incr now slot = some (1, none)) ∨
      ∃ n expiresAt, slot = some (n, expiresAt) ∧ read now slot = some n ∧
        incr now slot = some (n + 1, expiresAt) := by
  unfold read incr
  cases hentry : Option.filter (alive now) slot with
  | none => exact .inl ⟨rfl, rfl⟩
  | some entry =>
    exact .inr ⟨entry.1, entry.2, (Option.filter_eq_some_iff.1 hentry).1, rfl, rfl⟩

lemma incr_pos {now n : Nat} {slot : Slot Nat} {expiresAt : Option Nat}
    (h : incr now slot = some (n, expiresAt)) : 0 < n := by
  rcases incr_cases now slot with ⟨-, hone⟩ | ⟨m, _, -, -, hsucc⟩
  · cases hone.symm.trans h
    exact Nat.one_pos
  · cases hsucc.symm.trans h
    exact Nat.succ_pos m

/-- An expiry keeps the value. -/
lemma expire_eq_some {now ttl : Nat} {slot : Slot ν} {value : ν} {expiresAt : Option Nat}
    (h : expire now ttl slot = some (value, expiresAt)) :
    expiresAt = some (now + ttl) ∧ ∃ before, slot = some (value, before) := by
  obtain ⟨entry, hentry, heq⟩ := Option.map_eq_some_iff.1 h
  cases heq
  exact ⟨rfl, entry.2, (Option.filter_eq_some_iff.1 hentry).1⟩

end Slot

end OmniSwitch.Lib
