import OmniSwitch.Lib.Prog

/-!
# Runs in which commands fail

A command may fail, before or after it has taken effect.  The program that issued it ends with the
error, unless it is one whose failure the program ignores.

Main results:

* `Settles.issued`, `Settles.perform`: what a program that settles may have issued when it ends, and
  what it leaves, whichever of its commands failed.
-/

namespace OmniSwitch.Lib

/-- How a command fails. -/
structure Fault (ε : Type) where
  /-- The command has taken effect all the same. -/
  applied : Bool
  error : ε

/-- Which commands can fail, and of which the program ignores that they did. -/
structure FaultModel (C : Type) where
  fallible : C → Bool
  ignored : C → Bool

/-- No command fails. -/
def FaultModel.none (C : Type) : FaultModel C :=
  ⟨fun _ => false, fun _ => false⟩

namespace Prog

variable {S C ε α β : Type} [Commands S C]

/-- Run a program alone.  The entries of `faults` are, one for each fallible command, whether and
how it fails; commands beyond the list do not fail. -/
def perform (M : FaultModel C) : Prog S C ε α → List (Option (Fault ε)) → S →
    List C × S × Except ε α
  | ret a, _, s => ([], s, .ok a)
  | fail e, _, s => ([], s, .error e)
  | act c next, faults, s =>
    if M.fallible c then
      match faults.head?.join with
      | none =>
        let rest := (next s).perform M faults.tail (Commands.apply c s)
        (c :: rest.1, rest.2)
      | some fault =>
        let s' := if fault.applied then Commands.apply c s else s
        if M.ignored c then
          let rest := (next s).perform M faults.tail s'
          (c :: rest.1, rest.2)
        else ([c], s', .error fault.error)
    else
      let rest := (next s).perform M faults (Commands.apply c s)
      (c :: rest.1, rest.2)

variable {M : FaultModel C}

/-- One step of a faulty run: it goes on, from the effect of the command or, if its failure is
ignored, from the state it found; or it ends. -/
lemma perform_act (c : C) (next : S → Prog S C ε α) (faults : List (Option (Fault ε))) (s : S) :
    (∃ faults' s', faults' ⊆ faults ∧ (s' = Commands.apply c s ∨ M.ignored c ∧ s' = s) ∧
      (act c next).perform M faults s =
        (c :: ((next s).perform M faults' s').1, ((next s).perform M faults' s').2)) ∨
    ∃ fault, some fault ∈ faults ∧ M.ignored c = false ∧
      (act c next).perform M faults s =
        ([c], if fault.applied then Commands.apply c s else s, .error fault.error) := by
  have htail : faults.tail ⊆ faults := fun _ => List.mem_of_mem_tail
  cases hfallible : M.fallible c with
  | false =>
    exact .inl ⟨faults, _, fun _ h => h, .inl rfl, by simp [perform, hfallible]⟩
  | true =>
    cases hhead : faults.head?.join with
    | none =>
      exact .inl ⟨faults.tail, _, htail, .inl rfl, by simp [perform, hfallible, hhead]⟩
    | some fault =>
      have hmem : some fault ∈ faults := List.mem_of_head? (Option.join_eq_some_iff.1 hhead)
      cases hignored : M.ignored c with
      | false =>
        exact .inr ⟨fault, hmem, rfl, by simp [perform, hfallible, hhead, hignored]⟩
      | true =>
        refine .inl ⟨faults.tail, if fault.applied then Commands.apply c s else s, htail, ?_,
          by simp [perform, hfallible, hhead, hignored]⟩
        cases fault.applied with
        | false => exact .inr ⟨rfl, rfl⟩
        | true => exact .inl rfl

/-! ### Programs that settle -/

section settles

variable {A : Type} {R : A → C → A → Prop} {B : C → Prop} {D : β → Prop}

/-- Every command is a step of `R` from the value that the one before it left, and no value of `D`
is returned, or the last command is of `B`, and what is returned is of `D`. -/
def Settles (R : A → C → A → Prop) (B : C → Prop) (D : β → Prop) : A → Prog S C ε β → Prop
  | _, ret b => ¬ D b
  | _, fail _ => True
  | x, act c next => (∃ y, R x c y ∧ ∀ s, (next s).Settles R B D y) ∨
      (B c ∧ ∀ s, ∃ b, next s = ret b ∧ D b)

/-- What holds of the initial parts of the chains holds of the commands that are issued. -/
lemma Settles.issued {K : A → List C → Prop} (hnil : ∀ x, K x [])
    (hR : ∀ x c y cs, R x c y → K y cs → K x (c :: cs)) (hB : ∀ x c, B c → K x [c])
    {p : Prog S C ε β} {x : A} (hp : p.Settles R B D x) (faults : List (Option (Fault ε))) (s : S) :
    K x (p.perform M faults s).1 := by
  induction p generalizing x faults s with
  | ret b => exact hnil x
  | fail e => exact hnil x
  | act c next ih =>
    rcases perform_act (M := M) c next faults s with
      ⟨faults', s', -, -, hrun⟩ | ⟨fault, -, -, hrun⟩
    · rw [hrun]
      rcases hp with ⟨y, hc, hnext⟩ | ⟨hc, hnext⟩
      · exact hR x c y _ hc (ih s (hnext s) faults' s')
      · obtain ⟨b, hb, -⟩ := hnext s
        rw [hb]
        exact hB x c hc
    · rw [hrun]
      rcases hp with ⟨y, hc, -⟩ | ⟨hc, -⟩
      · exact hR x c y [] hc (hnil y)
      · exact hB x c hc

/-- What a faulty run of a program that settles comes to. -/
lemma Settles.perform {I : S → S → Prop} (hrefl : ∀ s, I s s)
    (htrans : ∀ s s' s'', I s s' → I s' s'' → I s s'')
    (hR : ∀ x c y s, R x c y → I s (Commands.apply c s)) (hB : ∀ c, B c → M.ignored c = false)
    {p : Prog S C ε β} {x : A} (hp : p.Settles R B D x) (faults : List (Option (Fault ε)))
    (hclean : ∀ fault, some fault ∈ faults → fault.applied = false) (s : S) :
    (I s (p.perform M faults s).2.1 ∧ ∀ b, (p.perform M faults s).2.2 = .ok b → ¬ D b) ∨
      ∃ c s' b, B c ∧ I s s' ∧ (p.perform M faults s).2 = (Commands.apply c s', .ok b) ∧ D b := by
  induction p generalizing x faults s with
  | ret b =>
    refine .inl ⟨hrefl s, ?_⟩
    rintro _ ⟨rfl⟩
    exact hp
  | fail e => exact .inl ⟨hrefl s, fun _ h => (nomatch h)⟩
  | act c next ih =>
    rcases hp with ⟨y, hc, hnext⟩ | ⟨hc, hnext⟩
    · have happly := hR x c y s hc
      rcases perform_act (M := M) c next faults s with
        ⟨faults', s', hsub, hs', hrun⟩ | ⟨fault, -, -, hrun⟩
      · have hkeeps : I s s' := by
          rcases hs' with rfl | ⟨-, rfl⟩
          · exact happly
          · exact hrefl s'
        rw [hrun]
        rcases ih s (hnext s) faults' (fun fault hfault => hclean fault (hsub hfault)) s' with
          ⟨hkept, hnot⟩ | ⟨c', s'', b, hc', hs'', hrun', hb⟩
        · exact .inl ⟨htrans _ _ _ hkeeps hkept, hnot⟩
        · exact .inr ⟨c', s'', b, hc', htrans _ _ _ hkeeps hs'', hrun', hb⟩
      · rw [hrun]
        refine .inl ⟨?_, fun _ h => (nomatch h)⟩
        cases fault.applied with
        | false => exact hrefl s
        | true => exact happly
    · -- the last command: it fails without effect, or what follows returns
      have hignored := hB c hc
      rcases perform_act (M := M) c next faults s with
        ⟨faults', s', -, hs', hrun⟩ | ⟨fault, hmem, -, hrun⟩
      · obtain ⟨b, hb, hD⟩ := hnext s
        have hs' : s' = Commands.apply c s := hs'.resolve_right (by simp [hignored])
        rw [hb, hs'] at hrun
        exact .inr ⟨c, s, b, hc, hrefl s, by rw [hrun]; rfl, hD⟩
      · rw [hclean fault hmem] at hrun
        rw [hrun]
        exact .inl ⟨hrefl s, fun _ h => (nomatch h)⟩

end settles

end Prog

end OmniSwitch.Lib
