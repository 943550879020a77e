import OmniSwitch.Lib.Prog

/-!
# Programs that pass through stages

What a program may do next often depends on what it has done so far, and on what it has found.  A
`Stages` says which commands a stage allows and which stage each leads to; a stage may know
something of the state, which whoever runs the program has to maintain until the next command.
Unlike `Prog.Sat`, the stage at which a program ends is known also when it fails.

Main results:

* `follows_bind`, `follows_tryCatch`: the stages of composed programs.
-/

namespace OmniSwitch.Lib

variable {X S C ε α β : Type}

/-- Stages of a program: what each knows of the state, and where a command, met in a state, leads;
`none` if the stage does not allow it. -/
structure Stages (X S C : Type) where
  knows : X → S → Prop
  next : X → C → S → Option X

namespace Prog

/-- Every command is allowed at the stage it is issued at, in every state with what the stage knows,
and the program ends at a stage that `Q` admits with what it ends with. -/
def Follows (T : Stages X S C) (Q : X → Except ε α → Prop) : X → Prog S C ε α → Prop
  | x, ret a => Q x (.ok a)
  | x, fail e => Q x (.error e)
  | x, act c next => ∀ s, T.knows x s → ∃ y, T.next x c s = some y ∧ Follows T Q y (next s)

variable {T : Stages X S C} {Q : X → Except ε α → Prop} {x : X}

/-- What the first part of a composition has to end with: the second part follows the stages. -/
def Then (T : Stages X S C) (Q : X → Except ε β → Prop) (f : α → Prog S C ε β) (x : X) :
    Except ε α → Prop
  | .ok a => Follows T Q x (f a)
  | .error e => Q x (.error e)

/-- A composition follows the stages exactly when its first part does, with the second part's
following them as postcondition. -/
lemma follows_bind {Q : X → Except ε β → Prop} (p : Prog S C ε α) (f : α → Prog S C ε β) :
    Follows T Q x (p >>= f) ↔ Follows T (Then T Q f) x p := by
  induction p generalizing x with
  | ret a => exact Iff.rfl
  | fail e => exact Iff.rfl
  | act c next ih =>
    refine forall_congr' fun s => imp_congr_right fun _ => exists_congr fun y => ?_
    exact and_congr_right fun _ => ih s

/-- What the guarded part has to end with: its handler follows the stages. -/
def Handled (T : Stages X S C) (Q : X → Except ε α → Prop) (h : ε → Prog S C ε α) (x : X) :
    Except ε α → Prop
  | .ok a => Q x (.ok a)
  | .error e => Follows T Q x (h e)

/-- A guarded program follows the stages exactly when it does up to its failures, with the
handler's following them as postcondition of those. -/
lemma follows_tryCatch (p : Prog S C ε α) (h : ε → Prog S C ε α) :
    Follows T Q x (tryCatch p h) ↔ Follows T (Handled T Q h) x p := by
  induction p generalizing x with
  | ret a => exact Iff.rfl
  | fail e => exact Iff.rfl
  | act c next ih =>
    refine forall_congr' fun s => imp_congr_right fun _ => exists_congr fun y => ?_
    exact and_congr_right fun _ => ih s

lemma Follows.mono {Q' : X → Except ε α → Prop} (hQ : ∀ x r, Q x r → Q' x r)
    {p : Prog S C ε α} (h : Follows T Q x p) : Follows T Q' x p := by
  induction p generalizing x with
  | ret a => exact hQ x _ h
  | fail e => exact hQ x _ h
  | act c next ih =>
    intro s hs
    obtain ⟨y, hy, hnext⟩ := h s hs
    exact ⟨y, hy, ih s hnext⟩

end Prog

end OmniSwitch.Lib
