import Mathlib.Algebra.BigOperators.Group.List.Basic
import Mathlib.Data.List.Induction
import Mathlib.Tactic.Abel

/-!
# Histories: labelled steps, and totals over windows of time

A history is a list of labels; each is a step from the state the one before it left.  What a
statement about a history may look at are its `moments`, each label with the state it met.

A stream of items is read window by window: the `total` of a window is the sum of an amount over
the items whose time is in it.

Main results:

* `induct`, `keeps`: what every admissible step keeps, a history keeps;
* `total_add`, `total_append_of_le`: totals of adjoining windows, and of items that come later.
-/

namespace OmniSwitch.Lib

namespace History

variable {S L : Type} (step : L → S → S)

/-- The state a history leaves. -/
def after (s : S) (history : List L) : S := history.foldl (fun s l => step l s) s

/-- Each label of a history with the state it met. -/
def moments (s : S) : List L → List (L × S)
  | [] => []
  | l :: history => (l, s) :: moments (step l s) history

lemma moments_concat (s : S) (history : List L) (l : L) :
    moments step s (history ++ [l]) = moments step s history ++ [(l, after step s history)] := by
  induction history generalizing s with
  | nil => rfl
  | cons a history ih =>
    rw [List.cons_append, moments, ih]
    rfl

lemma map_fst_moments (s : S) (history : List L) :
    (moments step s history).map Prod.fst = history := by
  induction history generalizing s with
  | nil => rfl
  | cons l history ih => rw [moments, List.map_cons, ih]

/-- The rule for histories: a predicate of the moments so far and the present state holds after
every admissible history if it holds at the start and every admissible step keeps it. -/
lemma induct (I : List (L × S) → S → Prop) (Admissible : List (L × S) → Prop)
    (hshorter : ∀ past moment, Admissible (past ++ [moment]) → Admissible past)
    {s : S} (hstart : I [] s)
    (hstep : ∀ past l s', I past s' → Admissible (past ++ [(l, s')]) →
      I (past ++ [(l, s')]) (step l s'))
    (history : List L) (hadm : Admissible (moments step s history)) :
    I (moments step s history) (after step s history) := by
  induction history using List.reverseRecOn with
  | nil => exact hstart
  | append_singleton history l ih =>
    rw [moments_concat] at hadm ⊢
    rw [show after step s (history ++ [l]) = step l (after step s history) by simp [after]]
    exact hstep _ l _ (ih (hshorter _ _ hadm)) hadm

/-- The same for an invariant of the state and a condition on each step. -/
lemma keeps {I : S → Prop} {Cond : L → S → Prop}
    (hstep : ∀ l s, I s → Cond l s → I (step l s)) {s : S} (hs : I s) (history : List L)
    (hcond : ∀ moment ∈ moments step s history, Cond moment.1 moment.2) :
    I (after step s history) := by
  induction history generalizing s with
  | nil => exact hs
  | cons l history ih =>
    have hl := hcond (l, s) List.mem_cons_self
    exact ih (hstep l s hs hl) fun moment h => hcond moment (List.mem_cons_of_mem _ h)

end History

namespace Window

variable {α : Type} (time : α → Nat) (amount : α → Int)

/-- The items with a time in `[start, stop)`. -/
def during (start stop : Nat) (items : List α) : List α :=
  items.filter fun x => start ≤ time x ∧ time x < stop

/-- The total amount of the items with a time in `[start, stop)`. -/
def total (start stop : Nat) (items : List α) : Int :=
  ((during time start stop items).map amount).sum

variable {time amount} {start stop : Nat}

lemma total_cons (x : α) (items : List α) :
    total time amount start stop (x :: items) =
      (if start ≤ time x ∧ time x < stop then amount x else 0) +
        total time amount start stop items := by
  unfold total during
  by_cases h : start ≤ time x ∧ time x < stop
  · rw [List.filter_cons_of_pos (by simpa using h), if_pos h, List.map_cons, List.sum_cons]
  · rw [List.filter_cons_of_neg (by simpa using h), if_neg h, zero_add]

/-- The totals of adjacent windows add up. -/
lemma total_add {middle : Nat} (h₁ : start ≤ middle) (h₂ : middle ≤ stop) (items : List α) :
    total time amount start middle items + total time amount middle stop items =
      total time amount start stop items := by
  induction items with
  | nil => rfl
  | cons x items ih =>
    have hx : (if start ≤ time x ∧ time x < middle then amount x else 0) +
        (if middle ≤ time x ∧ time x < stop then amount x else 0) =
        if start ≤ time x ∧ time x < stop then amount x else 0 := by
      split_ifs <;> omega
    rw [total_cons, total_cons, total_cons, ← ih, ← hx]
    abel

/-- A window that ends before it starts is empty. -/
lemma total_of_le (h : stop ≤ start) (items : List α) :
    total time amount start stop items = 0 := by
  induction items with
  | nil => rfl
  | cons x items ih => rw [total_cons, if_neg (by omega), ih, zero_add]

/-- A later item changes no total of an earlier window. -/
lemma total_append_of_le {x : α} (h : stop ≤ time x) (items : List α) :
    total time amount start stop (items ++ [x]) = total time amount start stop items := by
  induction items with
  | nil => rw [List.nil_append, total_cons, if_neg (by omega), zero_add]
  | cons y items ih => rw [List.cons_append, total_cons, total_cons, ih]

end Window

end OmniSwitch.Lib
