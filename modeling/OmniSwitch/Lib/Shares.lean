import Mathlib.Algebra.BigOperators.Ring.List
import Mathlib.Algebra.Ring.Nat

/-!
# Shares of a whole, rounded down

A part of a whole has a share of every amount that is taken from the whole: the amount times the
part over the whole, rounded down.  Taken from several parts at once, or from one part again and
again, the shares are never too much, and what rounding loses is less than one each time.

Main results:

* `sum_share_parts_le`, `sum_share_le`: the shares are never too much;
* `le_sum_share_add`: and together they lack less than one each.
-/

namespace OmniSwitch.Lib

/-- The share that `part` of `whole` has of `n`. -/
def share (part whole n : Nat) : Nat := part * n / whole

/-- A sum of quotients is at most the quotient of the sum. -/
lemma sum_div_le (ns : List Nat) (d : Nat) : (ns.map (· / d)).sum ≤ ns.sum / d := by
  induction ns with
  | nil => simp
  | cons n ns ih =>
    rw [List.map_cons, List.sum_cons, List.sum_cons]
    exact (Nat.add_le_add_left ih _).trans (Nat.div_add_div_le_add_div)

/-- A sum is at most what its quotients make up, and less than the divisor for each summand. -/
lemma sum_add_length_le (ns : List Nat) {d : Nat} (hd : 0 < d) :
    ns.sum + ns.length ≤ d * (ns.map (· / d)).sum + d * ns.length := by
  induction ns with
  | nil => simp
  | cons n ns ih =>
    have hmod := Nat.mod_lt n hd
    have hdiv := Nat.div_add_mod n d
    simp only [List.map_cons, List.sum_cons, List.length_cons, Nat.mul_add, Nat.mul_one]
    omega

/-- The shares that parts of a whole have of one amount are at most the amount. -/
lemma sum_share_parts_le {parts : List Nat} {whole : Nat} (hparts : parts.sum ≤ whole)
    (hwhole : 0 < whole) (n : Nat) : (parts.map (share · whole n)).sum ≤ n := by
  have hmul : (parts.map (· * n)).sum = parts.sum * n := by
    rw [List.sum_map_mul_right]
    simp
  calc (parts.map (share · whole n)).sum
      = ((parts.map (· * n)).map (· / whole)).sum := by
        rw [List.map_map]
        rfl
    _ ≤ (parts.map (· * n)).sum / whole := sum_div_le _ _
    _ = parts.sum * n / whole := by rw [hmul]
    _ ≤ whole * n / whole := Nat.div_le_div_right (Nat.mul_le_mul_right n hparts)
    _ = n := Nat.mul_div_cancel_left n hwhole

lemma sum_share_eq (part whole : Nat) (ns : List Nat) :
    (ns.map (share part whole)).sum = ((ns.map (part * ·)).map (· / whole)).sum := by
  rw [List.map_map]
  rfl

/-- The shares that one part has of several amounts are at most the part. -/
lemma sum_share_le (part : Nat) {whole : Nat} {ns : List Nat} (hns : ns.sum ≤ whole)
    (hwhole : 0 < whole) : (ns.map (share part whole)).sum ≤ part := by
  rw [sum_share_eq]
  calc ((ns.map (part * ·)).map (· / whole)).sum
      ≤ (ns.map (part * ·)).sum / whole := sum_div_le _ _
    _ = part * ns.sum / whole := by
        rw [List.sum_map_mul_left]
        simp
    _ ≤ part * whole / whole := Nat.div_le_div_right (Nat.mul_le_mul_left part hns)
    _ = part := Nat.mul_div_cancel part hwhole

/-- Of amounts that make up the whole, the shares fall short of the part by less than one each. -/
lemma le_sum_share_add (part : Nat) {whole : Nat} {ns : List Nat} (hns : ns.sum = whole)
    (hwhole : 0 < whole) : part + 1 ≤ (ns.map (share part whole)).sum + ns.length := by
  have hlength : 0 < ns.length := by
    refine List.length_pos_of_ne_nil fun hnil => ?_
    rw [hnil] at hns
    simp at hns
    omega
  have hsum : (ns.map (part * ·)).sum = part * whole := by
    rw [List.sum_map_mul_left, hns.symm]
    simp
  have hbound := sum_add_length_le (ns.map (part * ·)) hwhole
  rw [← sum_share_eq, hsum, List.length_map] at hbound
  -- the whole times one less than what is claimed is below the bound
  by_contra hlt
  have hle : (ns.map (share part whole)).sum + ns.length ≤ part := by omega
  have hmul := Nat.mul_le_mul_left whole hle
  rw [Nat.mul_add, Nat.mul_comm whole part] at hmul
  omega

end OmniSwitch.Lib
