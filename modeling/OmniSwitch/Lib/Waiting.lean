import OmniSwitch.Lib.Prog

/-!
# Programs that take time

A program runs alone while time passes between its commands.  `Prog.runWaiting` is one such run,
with the time that passes before each command; `Prog.Timely` says what every one of them ends with.
`Prog.meeting` is what a program comes to among others, whose commands change the state between its
own.

Main results:

* `Timely.run`, `timely_bind`: the rules for `Timely`;
* `meeting_bind`: a program that ends well among others has ended each of its parts well.
-/

namespace OmniSwitch.Lib

namespace Prog

variable {S C ε α β : Type} [Commands S C] {pass : Nat → S → S}

/-- A run in which `waits` are the times that pass before the commands; none does where the list has
ended. -/
def runWaiting (pass : Nat → S → S) : List Nat → S → Prog S C ε α → S × Except ε α
  | _, s, ret a => (s, .ok a)
  | _, s, fail e => (s, .error e)
  | waits, s, act c next =>
    let s' := pass (waits.headD 0) s
    (next s').runWaiting pass waits.tail (Commands.apply c s')

/-- Whatever time passes before each command, the program ends as `Q` has it. -/
def Timely (pass : Nat → S → S) (Q : S → Except ε α → Prop) : S → Prog S C ε α → Prop
  | s, ret a => Q s (.ok a)
  | s, fail e => Q s (.error e)
  | s, act c next => ∀ d, (next (pass d s)).Timely pass Q (Commands.apply c (pass d s))

/-- What the program comes to when its commands meet the given states, one after the other; nothing,
if they run out before it ends. -/
def meeting : List S → Prog S C ε α → Option (Except ε α)
  | _, ret a => some (.ok a)
  | _, fail e => some (.error e)
  | [], act _ _ => none
  | s :: met, act _ next => (next s).meeting met

variable {Q : S → Except ε α → Prop} {s : S}
variable {p : Prog S C ε α}

lemma Timely.run (h : Timely pass Q s p) (waits : List Nat) :
    Q (p.runWaiting pass waits s).1 (p.runWaiting pass waits s).2 := by
  induction p generalizing s waits with
  | ret a => exact h
  | fail e => exact h
  | act c next ih => exact ih _ (h (waits.headD 0)) waits.tail

/-- Where the first part ends, the second goes on. -/
def Later (pass : Nat → S → S) (Q : S → Except ε β → Prop) (f : α → Prog S C ε β) (s : S) :
    Except ε α → Prop
  | .ok a => Timely pass Q s (f a)
  | .error e => Q s (.error e)

/-- A composition ends as its second part does, from where the first one ends. -/
lemma timely_bind {Q : S → Except ε β → Prop} (p : Prog S C ε α) (f : α → Prog S C ε β) :
    Timely pass Q s (p >>= f) ↔ Timely pass (Later pass Q f) s p := by
  induction p generalizing s with
  | ret a => exact Iff.rfl
  | fail e => exact Iff.rfl
  | act c next ih => exact forall_congr' fun d => ih _

omit [Commands S C] in
@[simp] lemma meeting_throw (e : ε) (met : List S) :
    (throw e : Prog S C ε α).meeting met = some (.error e) := by
  cases met <;> rfl

omit [Commands S C] in
/-- A composition that ends well goes on with its second part among the states that are left. -/
lemma meeting_bind {f : α → Prog S C ε β} {met : List S} {b : β}
    (h : (p >>= f).meeting met = some (.ok b)) :
    ∃ a rest, rest ⊆ met ∧ (f a).meeting rest = some (.ok b) := by
  induction p generalizing met with
  | ret a => exact ⟨a, met, List.Subset.refl met, h⟩
  | fail e => exact nomatch (meeting_throw e met).symm.trans h
  | act c next ih =>
    cases met with
    | nil => exact nomatch h
    | cons s met =>
      obtain ⟨a, rest, hsub, hrest⟩ := ih s h
      exact ⟨a, rest, List.subset_cons_of_subset s hsub, hrest⟩

lemma Timely.mono {Q' : S → Except ε α → Prop} (hQ : ∀ s r, Q s r → Q' s r)
    (h : Timely pass Q s p) : Timely pass Q' s p := by
  induction p generalizing s with
  | ret a => exact hQ s _ h
  | fail e => exact hQ s _ h
  | act c next ih => exact fun d => ih _ (h d)

end Prog

end OmniSwitch.Lib
