import Mathlib.Algebra.Order.Group.Defs
import Mathlib.Algebra.BigOperators.Group.List.Basic
import Mathlib.Tactic.Abel

/-!
# Accounts

What a payment is to the money behind it: an account that collects up to a limit and gives back
at most what it collected.  Each step is labelled with the amount it moves, and the balance is
the sum of the labels.

Main results:

* `Step.balance`: each step changes the balance by its label;
* `balance_nonneg`: an account is never overdrawn.
-/

namespace OmniSwitch.Lib

/-- An account: what it may collect, what it has collected and what it gave back of that. -/
structure Account (M : Type) [AddCommGroup M] [PartialOrder M] where
  limit : M
  collected : M
  returned : M
  returned_nonneg : 0 ≤ returned
  returned_le : returned ≤ collected
  collected_le : collected ≤ limit

namespace Account

variable {M : Type} [AddCommGroup M] [PartialOrder M]

/-- What the account holds. -/
def balance (a : Account M) : M := a.collected - a.returned

/-- One step of an account, with the amount it moves: a collection or a return, of zero where
nothing moves. -/
inductive Step : Account M → M → Account M → Prop
  | collect {a b : Account M} {n : M} (limit : b.limit = a.limit)
      (collected : b.collected = a.collected + n) (returned : b.returned = a.returned) :
      Step a n b
  | giveBack {a b : Account M} {n : M} (limit : b.limit = a.limit)
      (collected : b.collected = a.collected) (returned : b.returned = a.returned + n) :
      Step a (-n) b

/-- A step moves the balance by its label. -/
lemma Step.balance {a b : Account M} {m : M} (h : Step a m b) :
    b.balance = a.balance + m := by
  unfold Account.balance
  cases h with
  | collect _ collected returned | giveBack _ collected returned =>
    rw [collected, returned]
    abel

variable [IsOrderedAddMonoid M]

lemma balance_nonneg (a : Account M) : 0 ≤ a.balance := sub_nonneg.2 a.returned_le

lemma balance_le_limit (a : Account M) : a.balance ≤ a.limit :=
  (sub_le_self _ a.returned_nonneg).trans a.collected_le

end Account

end OmniSwitch.Lib
