import Mathlib.Algebra.BigOperators.Group.List.Basic
import Mathlib.Algebra.GroupWithZero.Nat
import Mathlib.Data.List.Nodup

/-!
# Tables of rows with a primary key

A `Table key` is a list of rows in which no two rows share the value of `key`; the structure
carries that fact, so no operation can build a table without it.  Rows are looked up by key or
by any other predicate, and written with `modify`, which updates the stored row of a key if there
is one, or `upsert`, which appends a new row if there is none.

Main results:

* `get_upsert_self`, `get_upsert_of_ne`, `get_put`: what a write leaves under each key;
* `sum_upsert_le`, `sum_put_of_get`: what it adds to a total over the rows.
-/

namespace OmniSwitch.Lib

/-- Rows with pairwise different keys. -/
structure Table {α κ : Type} (key : α → κ) where
  rows : List α
  keys_nodup : (rows.map key).Nodup

namespace Table

variable {α κ : Type} {key : α → κ}

/-- The table with no rows. -/
def empty : Table key := ⟨[], List.nodup_nil⟩

/-- The first row that satisfies `p`. -/
def find? (t : Table key) (p : α → Bool) : Option α := t.rows.find? p

/-- The rows that satisfy `p`. -/
def filter (t : Table key) (p : α → Bool) : Table key :=
  ⟨t.rows.filter p, t.keys_nodup.sublist (List.filter_sublist.map key)⟩

variable {k : κ} {update : α → α}

/-- An update that keeps the key keeps the keys of the table. -/
lemma map_key_replace [DecidableEq κ] (hupdate : ∀ r, key r = k → key (update r) = k)
    (rows : List α) :
    (rows.map fun r => if key r = k then update r else r).map key = rows.map key := by
  rw [List.map_map]
  refine List.map_congr_left fun r _ => ?_
  by_cases h : key r = k
  · simp only [Function.comp_apply, h, if_true, hupdate r h]
  · simp only [Function.comp_apply, if_neg h]

variable [DecidableEq κ]

variable (t : Table key)

/-- The row with key `k`. -/
def get (k : κ) : Option α := t.rows.find? fun r => key r = k

/-- Update the row of key `k`, if there is one. -/
def modify (k : κ) (update : α → α) (hupdate : ∀ r, key r = k → key (update r) = k) : Table key :=
  ⟨t.rows.map fun r => if key r = k then update r else r, by
    rw [map_key_replace hupdate]
    exact t.keys_nodup⟩

/-- Write the row of key `k`: update the stored one, or append `new`. -/
def upsert (k : κ) (update : α → α) (new : α)
    (hupdate : ∀ r, key r = k → key (update r) = k) (hnew : key new = k) : Table key :=
  if h : k ∈ t.rows.map key then
    ⟨t.rows.map fun r => if key r = k then update r else r, by
      rw [map_key_replace hupdate]
      exact t.keys_nodup⟩
  else
    ⟨t.rows ++ [new], by
      rw [List.map_append, List.nodup_append]
      refine ⟨t.keys_nodup, List.nodup_singleton _, ?_⟩
      intro a ha b hb hab
      rw [List.map_singleton, List.mem_singleton] at hb
      exact h (hnew ▸ hb ▸ hab ▸ ha)⟩

variable {r : α}

lemma key_of_get {t : Table key} (h : t.get k = some r) : key r = k := by
  simpa using List.find?_some h

lemma get_eq_none_iff {t : Table key} : t.get k = none ↔ k ∉ t.rows.map key := by
  simp [get]

/-- A row of the table is the row of its key. -/
lemma get_of_mem {t : Table key} (hr : r ∈ t.rows) : t.get (key r) = some r := by
  obtain ⟨rows, hnd⟩ := t
  change rows.find? _ = some r
  induction rows with
  | nil => exact absurd hr (by simp)
  | cons x xs ih =>
    rw [List.map_cons, List.nodup_cons] at hnd
    rcases List.mem_cons.1 hr with rfl | hr
    · simp
    · have hne : key x ≠ key r := by
        intro h
        exact hnd.1 (h ▸ List.mem_map_of_mem hr)
      rw [List.find?_cons_of_neg (by simpa using hne)]
      exact ih hnd.2 hr

/-- A row found by a predicate is the row of its key. -/
lemma get_of_find? {t : Table key} {p : α → Bool} (h : t.find? p = some r) :
    t.get (key r) = some r :=
  get_of_mem (List.mem_of_find?_eq_some h)

section upsert

variable {k : κ} {update : α → α} {new : α} (hupdate : ∀ r, key r = k → key (update r) = k)
  (hnew : key new = k)

variable (t : Table key)

lemma get_modify_self : (t.modify k update hupdate).get k = (t.get k).map update := by
  cases hget : t.get k with
  | none =>
    have hnot : k ∉ (t.modify k update hupdate).rows.map key := by
      unfold modify
      rw [map_key_replace hupdate]
      exact get_eq_none_iff.1 hget
    rw [get_eq_none_iff.2 hnot]
    rfl
  | some old =>
    have hkey := key_of_get hget
    have hmem : update old ∈ (t.modify k update hupdate).rows :=
      List.mem_map.2 ⟨old, List.mem_of_find?_eq_some hget, if_pos hkey⟩
    have hself := get_of_mem hmem
    rw [hupdate old hkey] at hself
    exact hself

lemma get_modify_of_ne {k' : κ} (hk : k' ≠ k) :
    (t.modify k update hupdate).get k' = t.get k' := by
  unfold get modify
  rw [List.find?_map]
  have hpred : ((fun r => decide (key r = k')) ∘ fun r => if key r = k then update r else r) =
      fun r => decide (key r = k') := by
    funext r
    by_cases h : key r = k
    · simp only [Function.comp_apply, h, if_true, hupdate r h]
    · simp only [Function.comp_apply, if_neg h]
  rw [hpred]
  cases hf : t.rows.find? fun r => decide (key r = k') with
  | none => rfl
  | some r =>
    have hr : key r = k' := by simpa using List.find?_some hf
    rw [Option.map_some, if_neg (fun h => hk (hr.symm.trans h))]

/-- After a write, the row of its key is the update of what was stored, or the new row. -/
lemma get_upsert_self :
    (t.upsert k update new hupdate hnew).get k = some (((t.get k).map update).getD new) := by
  unfold upsert
  split
  · rename_i h
    obtain ⟨old, hold, hkey⟩ := List.mem_map.1 h
    have hget : t.get k = some old := hkey ▸ get_of_mem hold
    refine (get_modify_self hupdate t).trans ?_
    rw [hget]
    rfl
  · rename_i h
    have hnone := get_eq_none_iff.2 h
    rw [hnone]
    unfold get at hnone ⊢
    rw [List.find?_append, hnone]
    simp [hnew]

/-- A write leaves the rows of other keys as they were. -/
lemma get_upsert_of_ne {k' : κ} (hk : k' ≠ k) :
    (t.upsert k update new hupdate hnew).get k' = t.get k' := by
  unfold upsert
  split
  · exact get_modify_of_ne hupdate t hk
  · unfold get
    rw [List.find?_append]
    simp [hnew, hk.symm]

/-- A row after a write was there before, or is the written one. -/
lemma mem_upsert {r : α} (hr : r ∈ (t.upsert k update new hupdate hnew).rows) :
    r ∈ t.rows ∨ r = new ∨ ∃ old ∈ t.rows, key old = k ∧ r = update old := by
  unfold upsert at hr
  split at hr
  · obtain ⟨old, hold, rfl⟩ := List.mem_map.1 hr
    by_cases h : key old = k
    · exact .inr (.inr ⟨old, hold, h, if_pos h⟩)
    · exact .inl (by rwa [if_neg h])
  · rcases List.mem_append.1 hr with hr | hr
    · exact .inl hr
    · exact .inr (.inl (List.mem_singleton.1 hr))

variable {weight : α → Nat}

/-- Rows of other keys are not replaced. -/
lemma map_replace_of_notMem {rows : List α} (h : k ∉ rows.map key) :
    (rows.map fun r => if key r = k then update r else r) = rows := by
  refine (List.map_congr_left fun r hr => if_neg ?_).trans rows.map_id
  rintro rfl
  exact h (List.mem_map_of_mem hr)

/-- A row that replaces another changes a total by the difference of their weights. -/
lemma sum_replace {r₀ : α} {rows : List α} (hnd : (rows.map key).Nodup) (hmem : r₀ ∈ rows)
    (hk : key r₀ = k) :
    ((rows.map fun r => if key r = k then update r else r).map weight).sum + weight r₀ =
      (rows.map weight).sum + weight (update r₀) := by
  induction rows with
  | nil => exact absurd hmem List.not_mem_nil
  | cons r rows ih =>
    rw [List.map_cons, List.nodup_cons] at hnd
    simp only [List.map_cons, List.sum_cons]
    rcases List.mem_cons.1 hmem with rfl | hmem
    · rw [if_pos hk, map_replace_of_notMem (hk ▸ hnd.1)]
      omega
    · have hne : key r ≠ k := by
        rintro rfl
        exact hnd.1 (hk ▸ List.mem_map_of_mem hmem)
      have := ih hnd.2 hmem
      rw [if_neg hne]
      omega

/-- A write adds at most the weight of the written row to a total over the rows. -/
lemma sum_upsert_le (hweight : ∀ r, weight (update r) ≤ weight new) :
    ((t.upsert k update new hupdate hnew).rows.map weight).sum ≤
      (t.rows.map weight).sum + weight new := by
  unfold upsert
  split
  · rename_i hstored
    obtain ⟨r₀, hmem, hk⟩ := List.mem_map.1 hstored
    refine Nat.le_trans (Nat.le_add_right _ (weight r₀)) ?_
    rw [sum_replace t.keys_nodup hmem hk]
    exact Nat.add_le_add_left (hweight r₀) _
  · simp

end upsert

/-- Write a whole row, in the place of the one of its key. -/
def put (row : α) : Table key :=
  t.upsert (key row) (fun _ => row) row (fun _ _ => rfl) rfl

lemma get_put_self (row : α) : (t.put row).get (key row) = some row := by
  refine (get_upsert_self (fun _ _ => rfl) rfl t).trans ?_
  cases t.get (key row) <;> rfl

variable {row : α}

lemma get_put_of_ne (hk : k ≠ key row) : (t.put row).get k = t.get k :=
  get_upsert_of_ne (fun _ _ => rfl) rfl t hk

/-- A row after a write was there before, or is the written one. -/
lemma mem_put {t : Table key} (hr : r ∈ (t.put row).rows) : r ∈ t.rows ∨ r = row := by
  rcases mem_upsert _ _ _ hr with hr | hr | ⟨-, -, -, hr⟩
  · exact .inl hr
  · exact .inr hr
  · exact .inr hr

/-- A lookup after a write. -/
lemma get_put (row : α) (k : κ) :
    (t.put row).get k = if k = key row then some row else t.get k := by
  by_cases hk : k = key row
  · rw [if_pos hk, hk, get_put_self]
  · rw [if_neg hk, get_put_of_ne t hk]

lemma get_put_eq_some {t : Table key} (h : (t.put row).get k = some r) :
    k = key row ∧ r = row ∨ k ≠ key row ∧ t.get k = some r := by
  rw [get_put] at h
  by_cases hk : k = key row
  · rw [if_pos hk] at h
    exact .inl ⟨hk, (Option.some.inj h).symm⟩
  · rw [if_neg hk] at h
    exact .inr ⟨hk, h⟩

lemma rows_put_of_not_mem (hk : key row ∉ t.rows.map key) :
    (t.put row).rows = t.rows ++ [row] :=
  congrArg Table.rows (dif_neg hk)

variable {weight : α → Nat} {r₀ : α}

lemma mem_of_get {t : Table key} (h : t.get k = some r) : r ∈ t.rows :=
  List.mem_of_find?_eq_some h

lemma rows_put_of_get (h : t.get (key row) = some r₀) :
    (t.put row).rows = t.rows.map fun r => if key r = key row then row else r := by
  have hmem : key row ∈ t.rows.map key := by
    rw [← key_of_get h]
    exact List.mem_map_of_mem (mem_of_get h)
  unfold put upsert
  rw [dif_pos hmem]

/-- A row that replaces another adds its weight less that of the other. -/
lemma sum_put_of_get (h : t.get (key row) = some r₀) :
    ((t.put row).rows.map weight).sum + weight r₀ = (t.rows.map weight).sum + weight row := by
  rw [t.rows_put_of_get h]
  exact sum_replace t.keys_nodup (mem_of_get h) (key_of_get h)

/-- Among rows with different keys, at most one has weight if only one key does. -/
lemma sum_le_of_nodup {rows : List α} {bound : Nat} (hnd : (rows.map key).Nodup)
    (hother : ∀ r ∈ rows, key r ≠ k → weight r = 0) (hbound : ∀ r ∈ rows, weight r ≤ bound) :
    (rows.map weight).sum ≤ bound := by
  induction rows with
  | nil => exact Nat.zero_le _
  | cons r rows ih =>
    rw [List.map_cons, List.nodup_cons] at hnd
    rw [List.forall_mem_cons] at hother hbound
    rw [List.map_cons, List.sum_cons]
    by_cases h : key r = k
    · have hrest : (rows.map weight).sum = 0 := by
        refine List.sum_eq_zero fun w hw => ?_
        obtain ⟨x, hx, rfl⟩ := List.mem_map.1 hw
        refine hother.2 x hx fun hxk => hnd.1 ?_
        exact (hxk.trans h.symm) ▸ List.mem_map_of_mem hx
      rw [hrest]
      exact hbound.1
    · rw [hother.1 h, Nat.zero_add]
      exact ih hnd.2 hother.2 hbound.2

end Table

end OmniSwitch.Lib
