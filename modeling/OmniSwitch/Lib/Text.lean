import Mathlib.Data.List.DropRight
import Mathlib.Data.List.Basic

/-!
# White space

A text is the list of its characters.  White space is what JavaScript takes for it: what `\s`
matches, and what `trim` and `BigInt` remove from the ends of a text.

Main results:

* `trim_append_spaces`, `forall_isSpace_of_trim`: what `trim` removes.
-/

namespace OmniSwitch.Lib

/-- The characters that are white space to JavaScript. -/
def isSpace (c : Char) : Bool :=
  c.toNat ∈ [0x9, 0xA, 0xB, 0xC, 0xD, 0x20, 0xA0, 0x1680, 0x2028, 0x2029, 0x202F, 0x205F, 0x3000,
    0xFEFF] ∨ 0x2000 ≤ c.toNat ∧ c.toNat ≤ 0x200A

/-- The text without the white space at its ends. -/
def trim (text : List Char) : List Char := (text.rdropWhile isSpace).dropWhile isSpace

variable {text spaces : List Char}

lemma trim_append_spaces (text : List Char) (h : ∀ c ∈ spaces, isSpace c) :
    trim (text ++ spaces) = trim text := by
  induction spaces using List.reverseRecOn with
  | nil => rw [List.append_nil]
  | append_singleton spaces c ih =>
    rw [List.forall_mem_append] at h
    unfold trim at ih ⊢
    rw [← List.append_assoc, List.rdropWhile_concat_pos _ _ _ (h.2 c (List.mem_singleton_self c)),
      ih h.1]

lemma forall_isSpace_of_trim (h : trim text = []) : ∀ c ∈ text, isSpace c := by
  unfold trim at h
  rw [List.dropWhile_eq_nil_iff] at h
  by_contra hsome
  rw [← List.rdropWhile_eq_nil_iff] at hsome
  exact List.rdropWhile_last_not _ _ hsome (h _ (List.getLast_mem hsome))

end OmniSwitch.Lib
