import Mathlib.Logic.Basic

/-!
# Programs that act on a shared state

A `Prog S C ε α` issues commands of type `C` against a state of type `S`, one at a time, and
ends with a value of type `α` or an error of type `ε`.  What a command does to the state is
said once, by an instance of `Commands`; the program itself only decides, from the state each
command found, which command comes next.

Main results:

* `run_bind`, `run_tryCatch`, `forall_mem_runs`: how a run alone composes, and what a sequence of
  runs keeps;
* `Current.run_through`: a run whose reads do not lag is the run of the program itself;
* `sat_bind`, `Sat.mono`, `Sat.tryCatch`: the rules for what a program may ever issue.
-/

namespace OmniSwitch.Lib

/-- A composed computation succeeds exactly when both parts do. -/
@[simp] lemma bind_eq_ok {ε α β : Type} {x : Except ε α} {f : α → Except ε β} {b : β} :
    (x >>= f) = .ok b ↔ ∃ a, x = .ok a ∧ f a = .ok b := by
  cases x with
  | ok a => exact ⟨fun h => ⟨a, rfl, h⟩, fun ⟨_, ha, h⟩ => Except.ok.inj ha ▸ h⟩
  | error e => exact ⟨fun h => (nomatch h), fun ⟨_, ha, _⟩ => (nomatch ha)⟩

/-- The meaning of a type of commands `C` over a state `S`: the effect of each command, and
which commands count as observations of the state. -/
class Commands (S : outParam Type) (C : Type) where
  /-- The effect of a command on the state. -/
  apply : C → S → S
  /-- Whether the issuing program remembers the state this command found. -/
  observes : C → Bool

/-- A program: it returns, fails, or issues a command and continues with the state the command
found. -/
inductive Prog (S C ε α : Type) where
  | ret (a : α)
  | fail (e : ε)
  | act (c : C) (next : S → Prog S C ε α)

namespace Prog

variable {S C ε α β : Type}

/-- Run `p`, then `f` on its value; an error of `p` is the error of the whole. -/
def bind : Prog S C ε α → (α → Prog S C ε β) → Prog S C ε β
  | ret a, f => f a
  | fail e, _ => fail e
  | act c next, f => act c fun s => (next s).bind f

/-- Lift a pure computation that may fail. -/
def ofExcept : Except ε α → Prog S C ε α
  | .ok a => ret a
  | .error e => fail e

/-- Run `p`; an error of `p` is handed to `h`, which acts from the state `p` left. -/
def handle : Prog S C ε α → (ε → Prog S C ε α) → Prog S C ε α
  | ret a, _ => ret a
  | fail e, h => h e
  | act c next, h => act c fun s => (next s).handle h

instance : Monad (Prog S C ε) where
  pure := ret
  bind := bind

instance : MonadLift (Except ε) (Prog S C ε) where
  monadLift := ofExcept

instance : MonadExceptOf ε (Prog S C ε) where
  throw := fail
  tryCatch := handle

/-- A value is handed on. -/
lemma ret_bind (a : α) (f : α → Prog S C ε β) : (pure a >>= f) = f a := rfl

lemma bind_assoc {γ : Type} (p : Prog S C ε α) (f : α → Prog S C ε β)
    (g : β → Prog S C ε γ) : (p >>= f) >>= g = p >>= fun a => f a >>= g := by
  induction p with
  | ret a => rfl
  | fail e => rfl
  | act c next ih => exact congrArg (act c) (funext ih)

/-- What holds of every failed program holds of a lifted result if it holds of the program that
returns its value. -/
lemma liftM_iff {P : Prog S C ε α → Prop} (hfail : ∀ e, P (fail e)) (x : Except ε α) :
    P (liftM x) ↔ ∀ a, x = .ok a → P (ret a) := by
  cases x with
  | ok a =>
    constructor
    · rintro h a' ⟨rfl⟩
      exact h
    · exact fun h => h a rfl
  | error e =>
    constructor
    · intro _ a h
      nomatch h
    · exact fun _ => hfail e

/-- A pure computation in two parts is lifted part by part. -/
lemma liftM_bind_bind {γ : Type} (x : Except ε α) (f : α → Except ε β) (g : β → Prog S C ε γ) :
    (liftM (x >>= f) >>= g : Prog S C ε γ) = liftM x >>= fun a => liftM (f a) >>= g := by
  cases x <;> rfl

/-! ### Reads that lag -/

/-- The program whose commands find what `view` shows of the state, which need not be the state they
act on. -/
def through (view : C → S → S) : Prog S C ε α → Prog S C ε α
  | ret a => ret a
  | fail e => fail e
  | act c next => act c fun s => (next (view c s)).through view

/-- Both parts of a composition lag alike. -/
lemma through_bind (view : C → S → S) (p : Prog S C ε α) (f : α → Prog S C ε β) :
    (p >>= f).through view = p.through view >>= fun a => (f a).through view := by
  induction p with
  | ret a => rfl
  | fail e => rfl
  | act c next ih => exact congrArg (act c) (funext fun s => ih (view c s))

lemma through_tryCatch (view : C → S → S) (p : Prog S C ε α) (h : ε → Prog S C ε α) :
    (tryCatch p h).through view = tryCatch (p.through view) fun e => (h e).through view := by
  induction p with
  | ret a => rfl
  | fail e => rfl
  | act c next ih => exact congrArg (act c) (funext fun s => ih (view c s))

lemma through_liftM (view : C → S → S) (x : Except ε α) :
    (liftM x : Prog S C ε α).through view = liftM x := by
  cases x <;> rfl

/-! ### Running alone -/

section run

variable [Commands S C]

/-- Run a program alone from a state: the state it leaves and what it ends with. -/
def run : Prog S C ε α → S → S × Except ε α
  | ret a, s => (s, .ok a)
  | fail e, s => (s, .error e)
  | act c next, s => (next s).run (Commands.apply c s)

@[simp] lemma run_act (c : C) (next : S → Prog S C ε α) (s : S) :
    (act c next).run s = (next s).run (Commands.apply c s) := rfl

/-- A composed program runs its first part and, if that returns, its second part from the state
the first part left. -/
lemma run_bind (p : Prog S C ε α) (f : α → Prog S C ε β) (s : S) :
    (p >>= f).run s = match p.run s with
      | (s', .ok a) => (f a).run s'
      | (s', .error e) => (s', .error e) := by
  induction p generalizing s with
  | ret a => rfl
  | fail e => rfl
  | act c next ih => exact ih s (Commands.apply c s)

/-- A composition that returns has run its first part to a value, and then its second part. -/
lemma run_bind_of_ok {p : Prog S C ε α} {f : α → Prog S C ε β} {s : S} {b : β}
    (h : ((p >>= f).run s).2 = .ok b) :
    ∃ s' a, p.run s = (s', .ok a) ∧ (p >>= f).run s = (f a).run s' := by
  rw [run_bind] at h ⊢
  rcases hrun : p.run s with ⟨s', e | a⟩
  · rw [hrun] at h
    nomatch h
  · exact ⟨s', a, rfl, rfl⟩

@[simp] lemma run_liftM (x : Except ε α) (s : S) :
    (liftM x : Prog S C ε α).run s = (s, x) := by
  cases x <;> rfl

/-- A handler acts from the state the failed program left. -/
lemma run_tryCatch (p : Prog S C ε α) (h : ε → Prog S C ε α) (s : S) :
    (tryCatch p h).run s = match p.run s with
      | (s', .ok a) => (s', .ok a)
      | (s', .error e) => (h e).run s' := by
  induction p generalizing s with
  | ret a => rfl
  | fail e => rfl
  | act c next ih => exact ih s (Commands.apply c s)

/-- What every command keeps, a program keeps. -/
lemma run_keeps {I : S → Prop} (h : ∀ (c : C) (s : S), I s → I (Commands.apply c s))
    (p : Prog S C ε α) {s : S} (hs : I s) : I (p.run s).1 := by
  induction p generalizing s with
  | ret a => exact hs
  | fail e => exact hs
  | act c next ih => exact ih s (h c s hs)

/-- The states of a sequence of programs, each run to its end before the next starts: the first
state and the one each program leaves. -/
def runs (s : S) : List (Prog S C ε Unit) → List S
  | [] => [s]
  | p :: progs => s :: runs (p.run s).1 progs

/-- A property that each program keeps holds in every state of the sequence. -/
lemma forall_mem_runs {I : S → Prop} {progs : List (Prog S C ε Unit)}
    (hkeep : ∀ p ∈ progs, ∀ s, I s → I (p.run s).1) {s : S} (hs : I s) :
    ∀ s' ∈ runs s progs, I s' := by
  induction progs generalizing s with
  | nil =>
    intro s' hs'
    rw [List.mem_singleton.1 hs']
    exact hs
  | cons p progs ih =>
    intro s' hs'
    rcases List.mem_cons.1 hs' with rfl | hs'
    · exact hs
    · exact ih (fun q hq => hkeep q (List.mem_cons_of_mem p hq))
        (hkeep p List.mem_cons_self s hs) s' hs'

/-! ### Runs that lag -/

/-- Every command of the run is shown the state it acts on. -/
def Current (view : C → S → S) : Prog S C ε α → S → Prop
  | ret _, _ => True
  | fail _, _ => True
  | act c next, s => view c s = s ∧ (next s).Current view (Commands.apply c s)

/-- Such a run is the run of the program itself. -/
lemma Current.run_through {view : C → S → S} {p : Prog S C ε α} {s : S} (h : p.Current view s) :
    (p.through view).run s = p.run s := by
  induction p generalizing s with
  | ret a => rfl
  | fail e => rfl
  | act c next ih =>
    change ((next (view c s)).through view).run (Commands.apply c s) = _
    rw [h.1]
    exact ih s h.2

/-- Where every command is shown the state it acts on, every run is such a run. -/
lemma current_of_forall {view : C → S → S} (h : ∀ c s, view c s = s) (p : Prog S C ε α) (s : S) :
    p.Current view s := by
  induction p generalizing s with
  | ret a => trivial
  | fail e => trivial
  | act c next ih => exact ⟨h c s, ih s _⟩

/-- Every command of a sequence of programs is, each program with a view of its own. -/
def CurrentAll : List (Prog S C ε Unit × (C → S → S)) → S → Prop
  | [], _ => True
  | (p, view) :: steps, s => p.Current view s ∧ CurrentAll steps (p.run s).1

lemma currentAll_of_forall {steps : List (Prog S C ε Unit × (C → S → S))}
    (h : ∀ step ∈ steps, ∀ c s, step.2 c s = s) (s : S) : CurrentAll steps s := by
  induction steps generalizing s with
  | nil => trivial
  | cons step steps ih =>
    obtain ⟨hstep, hsteps⟩ := List.forall_mem_cons.1 h
    exact ⟨current_of_forall hstep step.1 s, ih hsteps _⟩

/-- The states of such a sequence are those of the programs themselves. -/
lemma CurrentAll.runs_through {steps : List (Prog S C ε Unit × (C → S → S))} {s : S}
    (h : CurrentAll steps s) :
    runs s (steps.map fun step => step.1.through step.2) = runs s (steps.map Prod.fst) := by
  induction steps generalizing s with
  | nil => rfl
  | cons step steps ih =>
    rw [List.map_cons, List.map_cons, runs, runs, h.1.run_through, ih h.2]

end run

/-! ### What a program may ever issue -/

section sat

variable [Commands S C]

/-- The state remembered after a command: the one it found, if it is an observation. -/
def observe (c : C) (s : S) (seen : Option S) : Option S :=
  if Commands.observes c then some s else seen

lemma observe_of_blind {c : C} (h : Commands.observes c = false) (s : S) (seen : Option S) :
    observe c s seen = seen := if_neg (by simp [h])

/-- Every command the program can issue, whatever states it meets on the way, is allowed by `G`
given the latest observation, and every value it returns is one `Q` admits. -/
def Sat (G : Option S → C → Prop) (Q : Option S → α → Prop) :
    Option S → Prog S C ε α → Prop
  | seen, ret a => Q seen a
  | _, fail _ => True
  | seen, act c next => G seen c ∧ ∀ s, Sat G Q (observe c s seen) (next s)

variable {G : Option S → C → Prop} {Q : Option S → α → Prop} {seen : Option S}

@[simp] lemma sat_pure (a : α) :
    Sat G Q seen (pure a : Prog S C ε α) ↔ Q seen a := Iff.rfl

@[simp] lemma sat_act (c : C) (next : S → Prog S C ε α) :
    Sat G Q seen (act c next) ↔ G seen c ∧ ∀ s, Sat G Q (observe c s seen) (next s) := Iff.rfl

variable {p : Prog S C ε α} {f : α → Prog S C ε β}

/-- A composition is allowed exactly when its first part is, with the second part's allowance
as postcondition. -/
@[simp] lemma sat_bind {Q : Option S → β → Prop} :
    Sat G Q seen (p >>= f) ↔ Sat G (fun seen a => Sat G Q seen (f a)) seen p := by
  induction p generalizing seen with
  | ret a => exact Iff.rfl
  | fail e => exact Iff.rfl
  | act c next ih =>
    exact and_congr_right fun _ => forall_congr' fun s => ih s

@[simp] lemma sat_ofExcept (x : Except ε α) :
    Sat G Q seen (ofExcept x : Prog S C ε α) ↔ ∀ a, x = .ok a → Q seen a :=
  liftM_iff (P := Sat G Q seen) (fun _ => trivial) x

@[simp] lemma sat_liftM {x : Except ε α} :
    Sat G Q seen (liftM x : Prog S C ε α) ↔ ∀ a, x = .ok a → Q seen a :=
  sat_ofExcept x

/-- A guarantee and a postcondition may be weakened. -/
lemma Sat.mono {G' : Option S → C → Prop} {Q' : Option S → α → Prop}
    (hG : ∀ seen c, G seen c → G' seen c) (hQ : ∀ seen a, Q seen a → Q' seen a)
    (h : Sat G Q seen p) : Sat G' Q' seen p := by
  induction p generalizing seen with
  | ret a => exact hQ seen a h
  | fail e => trivial
  | act c next ih => exact ⟨hG seen c h.1, fun s => ih s (h.2 s)⟩

/-- Every command the program can issue is allowed. -/
abbrev Only (G : Option S → C → Prop) (seen : Option S) (p : Prog S C ε α) : Prop :=
  Sat G (fun _ _ => True) seen p

/-- Where every command is allowed, every program is. -/
lemma sat_of_forall {G : C → Prop} (hG : ∀ c, G c) (p : Prog S C ε α) (seen : Option S) :
    Sat (fun _ c => G c) (fun _ _ => True) seen p := by
  induction p generalizing seen with
  | ret a => trivial
  | fail e => trivial
  | act c next ih => exact ⟨hG c, fun s => ih s _⟩

/-- Two parts that are allowed whatever has been observed. -/
lemma Sat.andThen {Q' : Option S → β → Prop} (h : Sat G (fun _ _ => True) seen p)
    (hf : ∀ seen a, Sat G Q' seen (f a)) : Sat G Q' seen (p >>= f) :=
  sat_bind.2 (h.mono (fun _ _ hc => hc) fun seen a _ => hf seen a)

/-- A program is allowed whether or not its value is used. -/
lemma Sat.discard (h : Sat G Q seen p) :
    Sat G (fun _ _ => True) seen (discard p) :=
  sat_bind.2 (h.mono (fun _ _ hc => hc) fun _ _ _ => trivial)

variable {handler : ε → Prog S C ε α}

/-- A handler has to be allowed wherever the program may fail. -/
lemma Sat.tryCatch (h : Sat G Q seen p) (hhandler : ∀ seen e, Sat G Q seen (handler e)) :
    Sat G Q seen (MonadExcept.tryCatch p handler) := by
  induction p generalizing seen with
  | ret a => exact h
  | fail e => exact hhandler seen e
  | act c next ih => exact ⟨h.1, fun s => ih s (h.2 s)⟩

/-- A handler of a program that observes nothing starts from what was observed before. -/
lemma Sat.tryCatch_blind (h : Sat (fun seen c => G seen c ∧ Commands.observes c = false) Q seen p)
    (hhandler : ∀ e, Sat G Q seen (handler e)) :
    Sat G Q seen (MonadExcept.tryCatch p handler) := by
  induction p with
  | ret a => exact h
  | fail e => exact hhandler e
  | act c next ih =>
    refine ⟨h.1.1, fun s => ?_⟩
    have hnext := h.2 s
    rw [observe_of_blind h.1.2] at hnext ⊢
    exact ih s hnext

/-- What a program that observes nothing issues, it issues with what was observed before. -/
lemma Sat.blind {Q : α → Prop} {seen₀ : Option S}
    (h : Sat (fun _ c => G seen c ∧ Commands.observes c = false) (fun _ a => Q a) seen₀ p) :
    Sat G (fun seen' a => seen' = seen ∧ Q a) seen p := by
  induction p generalizing seen₀ with
  | ret a => exact ⟨rfl, h⟩
  | fail e => trivial
  | act c next ih =>
    refine ⟨h.1.1, fun s => ?_⟩
    rw [observe_of_blind h.1.2]
    exact ih s (h.2 s)

end sat

end Prog

end OmniSwitch.Lib
