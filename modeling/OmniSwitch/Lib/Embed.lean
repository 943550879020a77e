import OmniSwitch.Lib.Faulty
import OmniSwitch.Lib.Contract

/-!
# Programs as parts of a larger system

A program on one state is used by programs on a larger one, of which its state is a part.  There its
commands may fail as well; unlike in `Prog.perform`, what uses it can then handle the error.

Main results:

* `sat_embed`, `sat_tryAct`: an embedded program and a command that may fail keep to a contract;
* `ends_iff`: `Prog.Ends`, followed command by command, says how a run that is alone ends.
-/

namespace OmniSwitch.Lib

namespace Prog

variable {S C S' C' ε α β : Type}

/-! ### Embedding -/

/-- The program on a part of a larger state: its commands are issued as `cmd` has them there, and
what they find is what `view` sees of the larger state. -/
def embed (cmd : C → C') (view : S' → S) : Prog S C ε α → Prog S' C' ε α
  | ret a => ret a
  | fail e => fail e
  | act c next => act (cmd c) fun s => (next (view s)).embed cmd view

variable {cmd : C → C'} {view : S' → S}

/-- Where the commands are no observations of the larger system, nothing is observed in between. -/
lemma sat_embed [Commands S C] [Commands S' C'] {G : Option S' → C' → Prop}
    {Q : Option S' → α → Prop} {seen : Option S'} (hblind : ∀ c, Commands.observes (cmd c) = false)
    {seen₀ : Option S} {p : Prog S C ε α}
    (h : Sat (fun _ c => G seen (cmd c)) (fun _ a => Q seen a) seen₀ p) :
    Sat G Q seen (p.embed cmd view) := by
  induction p generalizing seen₀ with
  | ret a => exact h
  | fail e => trivial
  | act c next ih =>
    refine ⟨h.1, fun s => ?_⟩
    rw [observe_of_blind (hblind c)]
    exact ih (view s) (h.2 (view s))

/-! ### Failing commands -/

/-- Issue a command that may fail with an error, after taking effect or without it. -/
def tryAct (fault : Option (Fault ε)) (c : C) (next : S → Prog S C ε α) : Prog S C ε α :=
  match fault with
  | none => act c next
  | some f => if f.applied then act c fun _ => fail f.error else fail f.error

/-- The program, some of whose commands fail.  One whose failure is ignored and that has no effect
is replaced by `lost`. -/
def disturb (M : FaultModel C) (lost : C) (fault : C → Option (Fault ε)) :
    Prog S C ε α → Prog S C ε α
  | ret a => ret a
  | fail e => fail e
  | act c next =>
    if M.ignored c then
      act (if (fault c).all (·.applied) then c else lost) fun s => (next s).disturb M lost fault
    else tryAct ((fault c).filter fun _ => M.fallible c) c fun s => (next s).disturb M lost fault

variable {M : FaultModel C} {lost : C} {fault : C → Option (Fault ε)}

lemma tryAct_bind (failure : Option (Fault ε)) (c : C) (next : S → Prog S C ε α)
    (f : α → Prog S C ε β) :
    tryAct failure c next >>= f = tryAct failure c fun s => next s >>= f := by
  unfold tryAct
  cases failure with
  | none => rfl
  | some failure =>
    dsimp only
    cases failure.applied <;> rfl

/-- A command that fails is one the program may issue, or none. -/
lemma sat_tryAct [Commands S C] {G : Option S → C → Prop} {Q : Option S → α → Prop}
    {seen : Option S} (failure : Option (Fault ε)) {c : C} {next : S → Prog S C ε α}
    (h : G seen c) (hnext : ∀ s, Sat G Q (observe c s seen) (next s)) :
    Sat G Q seen (tryAct failure c next) := by
  unfold tryAct
  cases failure with
  | none => exact ⟨h, hnext⟩
  | some failure =>
    dsimp only
    cases failure.applied with
    | true => exact ⟨h, fun _ => trivial⟩
    | false => trivial

/-! ### How a run ends -/

section ends

variable [Commands S C]

/-- The run from `s`, alone, ends in a state and a result that `Q` admits. -/
def Ends (Q : S → Except ε α → Prop) : S → Prog S C ε α → Prop
  | s, ret a => Q s (.ok a)
  | s, fail e => Q s (.error e)
  | s, act c next => (next s).Ends Q (Commands.apply c s)

lemma ends_iff {Q : S → Except ε α → Prop} {s : S} (p : Prog S C ε α) :
    Ends Q s p ↔ Q (p.run s).1 (p.run s).2 := by
  induction p generalizing s with
  | ret a => exact Iff.rfl
  | fail e => exact Iff.rfl
  | act c next ih => exact ih s

/-- A command that may fail, and what follows. -/
lemma ends_tryAct_bind {failure : Option (Fault ε)} {c : C} {Q : S → Except ε β → Prop} {s : S}
    {f : S → Prog S C ε β} (hnext : failure = none → Ends Q (Commands.apply c s) (f s))
    (happlied : ∀ e, failure ≠ none → Q (Commands.apply c s) (.error e))
    (hfailed : ∀ e, failure ≠ none → Q s (.error e)) :
    Ends Q s (tryAct failure c ret >>= f) := by
  rw [tryAct_bind]
  unfold tryAct
  cases failure with
  | none => exact hnext rfl
  | some failure =>
    dsimp only
    cases failure.applied with
    | true => exact happlied _ (Option.some_ne_none _)
    | false => exact hfailed _ (Option.some_ne_none _)

end ends

end Prog

end OmniSwitch.Lib
