import OmniSwitch.Lib.Commit
import OmniSwitch.Lib.Rely

/-!
# Programs under contracts

Where programs know different things, each has its own `Contract`: what it relies on between two of
its commands, what each of its commands guarantees to the others, and what is recorded of its
commands beside the shared state, in a state `W` that no program reads.

Main results:

* `Commits.meets`, `Transacts.meets`: a program that writes once meets a contract if its write does;
* `exec_meets`, `meets_enter`: the rules for executions, and for programs that start in between.
-/

namespace OmniSwitch.Lib

variable {S C W ε α β : Type}

/-- What is recorded of a program's commands, what the program relies on, and what it guarantees. -/
structure Contract (S C W : Type) where
  record : C → S × W → W
  rely : S × W → S × W → Prop
  guarantee : S × W → S × W → Prop

variable [Commands S C]

/-- A command's effect, with what is recorded of it. -/
def Contract.apply (K : Contract S C W) (c : C) (t : S × W) : S × W :=
  (Commands.apply c t.1, K.record c t)

namespace Prog

/-- The program holds under its contract; an error it need not answer for. -/
abbrev Meets (K : Contract S C W) (I : S × W → Prop) (Cond : Option S → C → S → Prop)
    (Q : S × W → Option S → α → Prop) (last : S × W) (seen : Option S) (p : Prog S C ε α) : Prop :=
  Holds Prod.fst K.apply I K.rely K.guarantee Cond Q (fun _ _ _ => True) last seen p

variable {K : Contract S C W} {I : S × W → Prop} {Cond : Option S → C → S → Prop}
  {Q : S × W → Option S → α → Prop} {last : S × W} {seen : Option S}

/-- A command that changes nothing, and of which nothing is recorded. -/
lemma meets_act_of_still {c : C} {next : S → Prog S C ε α} (hstill : ∀ t, K.apply c t = t)
    (hguarantee : ∀ t, K.guarantee t t)
    (h : ∀ t, I t → K.rely last t → Meets K I Cond Q t (observe c t.1 seen) (next t.1)) :
    Meets K I Cond Q last seen (act c next) := by
  intro t hI hrely _
  rw [hstill t]
  exact ⟨hI, hguarantee t, h t hI hrely⟩

section writes

variable {W₁ : C → Prop} {V : S → C → Prop} (hstill : ∀ c t, (∀ s : S, Commands.apply c s = s) →
    K.apply c t = t) (hguarantee : ∀ t, K.guarantee t t)
  (htrans : ∀ a b c, K.rely a b → K.rely b c → K.rely a c)

include hstill hguarantee htrans

variable {p : Prog S C ε α}

/-- A program that writes once meets the contract if its write does, wherever the state has come
to since `origin`. -/
lemma Commits.meets (hp : p.Commits W₁) {origin : S × W} (hlast : K.rely origin last)
    (hwrite : ∀ c t, W₁ c → I t → K.rely origin t → Cond seen c t.1 →
      I (K.apply c t) ∧ K.guarantee t (K.apply c t)) :
    Meets K I Cond (fun _ _ _ => True) last seen p := by
  induction p generalizing last with
  | ret a => trivial
  | fail e => trivial
  | act c next ih =>
    rcases hp with ⟨hc, hnext⟩ | ⟨hc, hnext⟩
    · refine meets_act_of_still (fun t => hstill c t hc.2) hguarantee fun t _ hrely => ?_
      rw [observe_of_blind hc.1]
      exact ih t.1 (hnext t.1) (htrans _ _ _ hlast hrely)
    · intro t hI hrely hcond
      obtain ⟨hI', hguarantee'⟩ := hwrite c t hc hI (htrans _ _ _ hlast hrely) hcond
      exact ⟨hI', hguarantee', (hnext t.1).elim (fun _ => trivial) fun _ => trivial⟩

/-- The same for a program that observes first. -/
lemma Transacts.meets (hrefl : ∀ t, K.rely t t) (hp : p.Transacts V)
    (hwrite : ∀ c origin t, V origin.1 c → I origin → I t → K.rely origin t →
      Cond (some origin.1) c t.1 → I (K.apply c t) ∧ K.guarantee t (K.apply c t)) :
    Meets K I Cond (fun _ _ _ => True) last seen p := by
  cases p with
  | ret a => trivial
  | fail e => trivial
  | act c next =>
    refine meets_act_of_still (fun t => hstill c t hp.1.2) hguarantee fun origin hI _ => ?_
    rw [show observe c origin.1 seen = some origin.1 from if_pos hp.1.1]
    exact (hp.2 origin.1).meets hstill hguarantee htrans (hrefl origin)
      fun c t hc hI' hrely hcond => hwrite c origin t hc hI hI' hrely hcond

end writes

end Prog

namespace Pool

/-- What is recorded of the events of an execution, each under the contract of its program. -/
def recorded (K : Nat → Contract S C W) (w : W) (trace : List (Event S C)) : W :=
  trace.foldl (fun w e => (K e.proc).record e.cmd (e.pre, w)) w

variable {K : Nat → Contract S C W} {I : S × W → Prop} {Cond : Option S → C → S → Prop}
  {Q : Nat → S × W → Prop}

variable (K I Cond Q) in
/-- The invariant of a pool under contracts. -/
abbrev Meets (pool : Pool S C ε) (w : W) : Prop :=
  Holding Prod.fst (fun i => (K i).apply) Prod.mk I (fun i => (K i).rely)
    (fun i => (K i).guarantee) Cond Q (fun _ _ _ => True) pool w

variable {pool : Pool S C ε}

/-- **The rule for contracts**: an execution whose events all meet the condition keeps the
invariant, with what is recorded of them. -/
theorem exec_meets (hrefl : ∀ i t, (K i).rely t t)
    (htrans : ∀ i a b c, (K i).rely a b → (K i).rely b c → (K i).rely a c)
    (hcompat : ∀ i j, i ≠ j → ∀ t t', (K i).guarantee t t' → (K j).rely t t') {w : W}
    (hpool : Meets K I Cond Q pool w) (schedule : List Nat)
    (hcond : ∀ e ∈ (pool.exec schedule).1, Cond e.seen e.cmd e.pre) :
    Meets K I Cond Q (pool.exec schedule).2 (recorded K w (pool.exec schedule).1) :=
  (exec_holding hrefl hpool (fun i c s w => (K i).record c (s, w)) htrans hcompat (fun _ _ => rfl)
    (fun _ _ _ _ => rfl) schedule hcond).2

/-- Program `i` has returned. -/
def returned (pool : Pool S C ε) (i : Nat) : Bool :=
  match pool.procs[i]? with
  | some ⟨_, .ret ()⟩ => true
  | _ => false

variable {i : Nat}

/-- A program that has returned did so with its postcondition. -/
lemma of_returned {w : W} (hpool : Meets K I Cond Q pool w) (hi : pool.returned i) :
    ∃ last, (K i).rely last (pool.state, w) ∧ Q i last := by
  unfold returned at hi
  split at hi
  · rename_i seen hproc
    exact hpool.procs i _ hproc
  · exact (nomatch hi)

/-- A program that has returned issues nothing more. -/
lemma returned_exec (hi : pool.returned i) (schedule : List Nat) :
    (pool.exec schedule).2.returned i := by
  refine (exec_induct (fun pool (_ : Unit) => pool.returned i) (fun _ => True) (fun _ => True)
    (fun _ _ => ()) ?_ () hi schedule fun _ _ => trivial).2
  intro pool pool' _ j e hi hs _
  obtain ⟨seen, c, next, hj, -, rfl⟩ := step_eq_some hs
  have hne : j ≠ i := by
    rintro rfl
    simp [returned, hj] at hi
  exact ⟨trivial, by simpa only [returned, List.getElem?_set_ne hne] using hi⟩

/-- The pool, with programs that start now. -/
def enter (pool : Pool S C ε) (progs : List (Prog S C ε Unit)) : Pool S C ε :=
  ⟨pool.state, pool.procs ++ progs.map Proc.start⟩

omit [Commands S C] in
/-- A program that has returned is not disturbed by others that start. -/
lemma returned_enter (hi : pool.returned i) (progs : List (Prog S C ε Unit)) :
    (pool.enter progs).returned i := by
  unfold returned at hi ⊢
  split at hi
  · rename_i seen hproc
    have hlt := (List.getElem?_eq_some_iff.1 hproc).1
    rw [show (pool.enter progs).procs[i]? = pool.procs[i]? from List.getElem?_append_left hlt,
      hproc]
  · exact (nomatch hi)

/-- Programs that start now have to meet their contracts from here. -/
lemma meets_enter (hrefl : ∀ i t, (K i).rely t t) {w : W} (hpool : Meets K I Cond Q pool w)
    {progs : List (Prog S C ε Unit)}
    (hmeets : ∀ (i : Nat) (p : Prog S C ε Unit), progs[i]? = some p →
      p.Meets (K (pool.procs.length + i)) I Cond (fun t _ _ => Q (pool.procs.length + i) t)
        (pool.state, w) none) :
    Meets K I Cond Q (pool.enter progs) w where
  state := hpool.state
  procs := by
    intro i p hp
    rcases Nat.lt_or_ge i pool.procs.length with hlt | hge
    · rw [show (pool.enter progs).procs[i]? = pool.procs[i]? from List.getElem?_append_left hlt]
        at hp
      exact hpool.procs i p hp
    · obtain ⟨k, rfl⟩ := Nat.exists_eq_add_of_le hge
      rw [show (pool.enter progs).procs[pool.procs.length + k]? = (progs.map Proc.start)[k]? by
        rw [Pool.enter, List.getElem?_append_right hge, Nat.add_sub_cancel_left],
        List.getElem?_map] at hp
      obtain ⟨prog, hprog, rfl⟩ := Option.map_eq_some_iff.1 hp
      exact ⟨_, hrefl _ _, hmeets k prog hprog⟩

end Pool

end OmniSwitch.Lib
