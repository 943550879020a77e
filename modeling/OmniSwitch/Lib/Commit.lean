import OmniSwitch.Lib.Prog

/-!
# Programs that observe once and write once

Most operations of a service load something, decide, by computing and by calling other parties,
and then write once.  `Prog.Commits W` says of the part after the load that, whatever states it
meets, it issues silent commands and then at most one further command, which is one of `W`;
`Prog.Transacts W` says of the whole that it is one observation of a state `s` followed by a part
that commits `W s`.  The one statement serves twice: for the program among others (`sat`) and
for the program alone (`run`).

Main results:

* `Commits.then_ended`, `Quiet.then_commits`: how such programs compose;
* `Transacts.sat`, `Transacts.run`: what the program may issue among others, and what it leaves
  alone;
* `Advances.sat`, `Advances.run`: the same for a chain of writes.
-/

namespace OmniSwitch.Lib

variable {S C ε α β : Type} [Commands S C]

/-- A command that neither observes nor changes the state. -/
def Silent (c : C) : Prop := Commands.observes c = false ∧ ∀ s : S, Commands.apply c s = s

namespace Prog

/-- The program has no further command. -/
def Ended : Prog S C ε α → Prop
  | act _ _ => False
  | _ => True

/-- Only silent commands, and only results of `Q`. -/
def Quiet (Q : α → Prop) : Prog S C ε α → Prop
  | ret a => Q a
  | fail _ => True
  | act c next => Silent c ∧ ∀ s, (next s).Quiet Q

/-- Silent commands, then at most one further command, which is of `W`. -/
def Commits (W : C → Prop) : Prog S C ε α → Prop
  | ret _ => True
  | fail _ => True
  | act c next => (Silent c ∧ ∀ s, (next s).Commits W) ∨ (W c ∧ ∀ s, (next s).Ended)

variable {Q : α → Prop} {W W' : C → Prop}

omit [Commands S C] in
/-- What holds of all values and errors holds of a program that has no further command. -/
lemma Ended.elim {P : Prog S C ε α → Prop} {p : Prog S C ε α} (h : p.Ended)
    (hret : ∀ a, P (ret a)) (hfail : ∀ e, P (fail e)) : P p := by
  cases p with
  | ret a => exact hret a
  | fail e => exact hfail e
  | act c next => exact absurd h (by simp [Ended])

@[simp] lemma quiet_pure (a : α) : Quiet Q (pure a : Prog S C ε α) ↔ Q a := Iff.rfl

@[simp] lemma quiet_bind {Q : β → Prop} (p : Prog S C ε α) (f : α → Prog S C ε β) :
    Quiet Q (p >>= f) ↔ Quiet (fun a => Quiet Q (f a)) p := by
  induction p with
  | ret a => exact Iff.rfl
  | fail e => exact Iff.rfl
  | act c next ih => exact and_congr_right fun _ => forall_congr' fun s => ih s

@[simp] lemma quiet_liftM (x : Except ε α) :
    Quiet Q (liftM x : Prog S C ε α) ↔ ∀ a, x = .ok a → Q a :=
  liftM_iff (P := Quiet Q) (fun _ => trivial) x

variable {p : Prog S C ε α} {f : α → Prog S C ε β}

/-- A quiet program may go before one that commits. -/
lemma Quiet.then_commits (hp : p.Quiet Q) (hf : ∀ a, Q a → (f a).Commits W) :
    (p >>= f).Commits W := by
  induction p with
  | ret a => exact hf a hp
  | fail e => trivial
  | act c next ih => exact .inl ⟨hp.1, fun s => ih s (hp.2 s)⟩

@[simp] lemma commits_liftM_bind (x : Except ε α) (f : α → Prog S C ε β) :
    Commits W ((liftM x : Prog S C ε α) >>= f) ↔ ∀ a, x = .ok a → (f a).Commits W :=
  liftM_iff (P := fun p => Commits W (p >>= f)) (fun _ => trivial) x

lemma Ended.commits (h : p.Ended) : p.Commits W := h.elim (fun _ => trivial) fun _ => trivial

/-- Nothing may be issued after the write. -/
lemma Commits.then_ended (hp : p.Commits W) (hf : ∀ a, (f a).Ended) : (p >>= f).Commits W := by
  induction p with
  | ret a => exact (hf a).commits
  | fail e => trivial
  | act c next ih =>
    rcases hp with ⟨hc, hnext⟩ | ⟨hc, hnext⟩
    · exact .inl ⟨hc, fun s => ih s (hnext s)⟩
    · exact .inr ⟨hc, fun s => (hnext s).elim (P := fun q => (q.bind f).Ended) hf fun _ => trivial⟩

lemma Commits.mono (hp : p.Commits W) (h : ∀ c, W c → W' c) : p.Commits W' := by
  induction p with
  | ret a => trivial
  | fail e => trivial
  | act c next ih =>
    rcases hp with ⟨hc, hnext⟩ | ⟨hc, hnext⟩
    · exact .inl ⟨hc, fun s => ih s (hnext s)⟩
    · exact .inr ⟨h c hc, hnext⟩

variable {G : Option S → C → Prop}

/-- A guarantee that allows every silent command and the commands of `W` is kept. -/
lemma Commits.sat {seen : Option S} (hp : p.Commits W) (hsilent : ∀ c, Silent c → G seen c)
    (hW : ∀ c, W c → G seen c) : Only G seen p := by
  induction p with
  | ret a => trivial
  | fail e => trivial
  | act c next ih =>
    rcases hp with ⟨hc, hnext⟩ | ⟨hc, hnext⟩
    · refine ⟨hsilent c hc, fun s => ?_⟩
      rw [observe_of_blind hc.1]
      exact ih s (hnext s)
    · exact ⟨hW c hc, fun s => (hnext s).elim (fun _ => trivial) fun _ => trivial⟩

/-- Alone, the program leaves the state as it was or as its one write makes it. -/
lemma Commits.run (hp : p.Commits W) (s : S) :
    (p.run s).1 = s ∨ ∃ c, W c ∧ (p.run s).1 = Commands.apply c s := by
  induction p generalizing s with
  | ret a => exact .inl rfl
  | fail e => exact .inl rfl
  | act c next ih =>
    rcases hp with ⟨hc, hnext⟩ | ⟨hc, hnext⟩
    · rw [run_act, hc.2 s]
      exact ih s (hnext s) s
    · exact .inr ⟨c, hc, (hnext s).elim (P := fun q => (q.run (Commands.apply c s)).1 = _)
        (fun _ => rfl) fun _ => rfl⟩

/-- One observation, then a part that commits a command of `W` at the state observed. -/
def Transacts (W : S → C → Prop) : Prog S C ε α → Prop
  | ret _ => True
  | fail _ => True
  | act c next => (Commands.observes c ∧ ∀ s : S, Commands.apply c s = s) ∧
      ∀ s, (next s).Commits (W s)

variable {V V' : S → C → Prop}

/-- A guarantee that allows every observation, every silent command, and after the observation
of `s` the commands of `V s`, is kept. -/
lemma Transacts.sat {seen : Option S} (hp : p.Transacts V)
    (hobserve : ∀ seen c, (∀ s : S, Commands.apply c s = s) → G seen c)
    (hV : ∀ s c, V s c → G (some s) c) : Only G seen p := by
  cases p with
  | ret a => trivial
  | fail e => trivial
  | act c next =>
    refine ⟨hobserve seen c hp.1.2, fun s => ?_⟩
    rw [show observe c s seen = some s from if_pos hp.1.1]
    exact (hp.2 s).sat (fun c hc => hobserve _ c hc.2) (hV s)

lemma Transacts.mono (hp : p.Transacts V) (h : ∀ s c, V s c → V' s c) : p.Transacts V' := by
  cases p with
  | ret a => trivial
  | fail e => trivial
  | act c next => exact ⟨hp.1, fun s => (hp.2 s).mono (h s)⟩

/-- Alone, the program leaves the state as it was or as its one write makes it. -/
lemma Transacts.run (hp : p.Transacts V) (s : S) :
    (p.run s).1 = s ∨ ∃ c, V s c ∧ (p.run s).1 = Commands.apply c s := by
  cases p with
  | ret a => exact .inl rfl
  | fail e => exact .inl rfl
  | act c next =>
    rw [run_act, hp.1.2 s]
    exact (hp.2 s).run s

/-! ### Chains of writes -/

section advances

variable {A : Type} {R : A → C → A → Prop}

/-- Every write is a step of `R` from the value that the write before it left. -/
def Advances (R : A → C → A → Prop) : A → Prog S C ε α → Prop
  | _, ret _ => True
  | _, fail _ => True
  | x, act c next => (Silent c ∧ ∀ s, (next s).Advances R x) ∨
      ∃ y, R x c y ∧ Commands.observes c = false ∧ ∀ s, (next s).Advances R y

variable {p : Prog S C ε α}

/-- A quiet program may go before any other. -/
lemma Quiet.then_advances {f : α → Prog S C ε β} {x : A} (hp : p.Quiet Q)
    (hf : ∀ a, Q a → (f a).Advances R x) : (p >>= f).Advances R x := by
  induction p with
  | ret a => exact hf a hp
  | fail e => trivial
  | act c next ih => exact .inl ⟨hp.1, fun s => ih s (hp.2 s)⟩

/-- A guarantee that allows the silent commands and every step of `R` between values with a
property that the steps keep, is kept. -/
lemma Advances.sat {G : Option S → C → Prop} {seen : Option S} {P : A → Prop} {x : A}
    (hp : p.Advances R x) (hx : P x) (hsilent : ∀ c, Silent c → G seen c)
    (hR : ∀ x c y, P x → R x c y → P y ∧ G seen c) : Only G seen p := by
  induction p generalizing x with
  | ret a => trivial
  | fail e => trivial
  | act c next ih =>
    rcases hp with ⟨hc, hnext⟩ | ⟨y, hc, hobs, hnext⟩
    · refine ⟨hsilent c hc, fun s => ?_⟩
      rw [observe_of_blind hc.1]
      exact ih s (hnext s) hx
    · obtain ⟨hy, hG⟩ := hR x c y hx hc
      refine ⟨hG, fun s => ?_⟩
      rw [observe_of_blind hobs]
      exact ih s (hnext s) hy

/-- Alone, the program keeps any relation between the state and the value that the steps keep. -/
lemma Advances.run {J : S → A → Prop} {x : A} (hp : p.Advances R x)
    (hJ : ∀ s x c y, J s x → R x c y → J (Commands.apply c s) y) {s : S} (hs : J s x) :
    ∃ y, J (p.run s).1 y := by
  induction p generalizing x s with
  | ret a => exact ⟨x, hs⟩
  | fail e => exact ⟨x, hs⟩
  | act c next ih =>
    rw [run_act]
    rcases hp with ⟨hc, hnext⟩ | ⟨y, hc, -, hnext⟩
    · rw [hc.2 s]
      exact ih s (hnext s) hs
    · exact ih s (hnext s) (hJ s x c y hs hc)

end advances

end Prog

end OmniSwitch.Lib
