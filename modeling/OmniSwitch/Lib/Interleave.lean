import OmniSwitch.Lib.Prog

/-!
# Interleavings of programs on one shared state

A `Pool` is a shared state with any number of programs in progress.  A schedule is a list of
program indices; each entry lets the named program issue its next command, atomically.  A
program that the schedule stops naming has crashed or is still waiting, so every prefix of
every interleaving, crashes included, is the execution of some schedule.

Main results:

* `exec_induct`: induction over an execution;
* `exec_sound`: the rule for programs that are bounded by what they last observed (`Prog.Sat`);
* `exec_guarantees`, `exec_related`: what the single events keep, an execution keeps.
-/

namespace OmniSwitch.Lib

open Commands

variable {S C ε : Type}

/-- A program in progress, with the state of its latest observation. -/
structure Proc (S C ε : Type) where
  seen : Option S
  prog : Prog S C ε Unit

/-- A program about to issue its first command. -/
def Proc.start (p : Prog S C ε Unit) : Proc S C ε := ⟨none, p⟩

/-- A shared state and the programs in progress on it. -/
structure Pool (S C ε : Type) where
  state : S
  procs : List (Proc S C ε)

/-- One command of one program: who issued it, what that program had last observed, and the
states before and after. -/
structure Event (S C : Type) where
  proc : Nat
  seen : Option S
  cmd : C
  pre : S
  post : S

namespace Pool

variable [Commands S C]

/-- The next command of program `i`, if it has one. -/
def step (pool : Pool S C ε) (i : Nat) : Option (Event S C × Pool S C ε) :=
  match pool.procs[i]? with
  | some ⟨seen, .act c next⟩ =>
    let post := apply c pool.state
    some (⟨i, seen, c, pool.state, post⟩,
      ⟨post, pool.procs.set i ⟨Prog.observe c pool.state seen, next pool.state⟩⟩)
  | _ => none

/-- The execution of a schedule: its events in order and the pool it ends in.  Entries that
name no program, or a finished one, are passed over. -/
def exec (pool : Pool S C ε) : List Nat → List (Event S C) × Pool S C ε
  | [] => ([], pool)
  | i :: schedule =>
    match pool.step i with
    | some (e, pool') => (e :: (exec pool' schedule).1, (exec pool' schedule).2)
    | none => exec pool schedule

variable {pool : Pool S C ε}

/-- What a step is: program `i` was about to issue `c`. -/
lemma step_eq_some {pool' : Pool S C ε} {i : Nat} {e : Event S C}
    (h : pool.step i = some (e, pool')) :
    ∃ seen c next, pool.procs[i]? = some ⟨seen, .act c next⟩ ∧
      e = ⟨i, seen, c, pool.state, apply c pool.state⟩ ∧
      pool' = ⟨apply c pool.state,
        pool.procs.set i ⟨Prog.observe c pool.state seen, next pool.state⟩⟩ := by
  unfold step at h
  split at h
  · rename_i seen c next hi
    obtain ⟨rfl, rfl⟩ := Prod.mk.inj (Option.some.inj h)
    exact ⟨seen, c, next, hi, rfl, rfl⟩
  · exact absurd h (by simp)

/-- **Induction over an execution**: what every step under a condition keeps, of the pool and of a
record of the events, the execution keeps, and what holds of every step's event holds of them all.
-/
theorem exec_induct {X : Type} (P : Pool S C ε → X → Prop) (E Cond : Event S C → Prop)
    (record : X → Event S C → X)
    (hstep : ∀ pool pool' x i e, P pool x → pool.step i = some (e, pool') → Cond e →
      E e ∧ P pool' (record x e)) (x : X) (hpool : P pool x) (schedule : List Nat)
    (hcond : ∀ e ∈ (pool.exec schedule).1, Cond e) :
    (∀ e ∈ (pool.exec schedule).1, E e) ∧
      P (pool.exec schedule).2 ((pool.exec schedule).1.foldl record x) := by
  induction schedule generalizing pool x with
  | nil => exact ⟨fun e he => absurd he (by simp [exec]), hpool⟩
  | cons i schedule ih =>
    cases hs : pool.step i with
    | none =>
      simp only [exec, hs] at hcond ⊢
      exact ih x hpool hcond
    | some r =>
      obtain ⟨e, pool'⟩ := r
      simp only [exec, hs, List.forall_mem_cons, List.foldl_cons] at hcond ⊢
      obtain ⟨he, hpool'⟩ := hstep pool pool' x i e hpool hs hcond.1
      obtain ⟨hevents, hend⟩ := ih (record x e) hpool' hcond.2
      exact ⟨⟨he, hevents⟩, hend⟩

/-- What every event keeps of the state and of a record of the events, an execution keeps. -/
lemma exec_records {X : Type} (I : S → X → Prop) (record : X → Event S C → X)
    (h : ∀ (e : Event S C) x, e.post = apply e.cmd e.pre → I e.pre x →
      I e.post (record x e)) (pool : Pool S C ε) {x : X} (hI : I pool.state x)
    (schedule : List Nat) :
    I (pool.exec schedule).2.state ((pool.exec schedule).1.foldl record x) := by
  refine (exec_induct (fun pool x => I pool.state x) (fun _ => True) (fun _ => True) record ?_ x
    hI schedule fun _ _ => trivial).2
  intro pool pool' x i e hI hs _
  obtain ⟨seen, c, next, -, rfl, rfl⟩ := step_eq_some hs
  exact ⟨trivial, h ⟨i, seen, c, pool.state, _⟩ x rfl hI⟩

/-- What every command keeps, an execution keeps. -/
lemma exec_keeps {I : S → Prop} (h : ∀ (c : C) (s : S), I s → I (apply c s)) (hI : I pool.state)
    (schedule : List Nat) : I (pool.exec schedule).2.state :=
  exec_records (fun s _ => I s) (fun _ _ => ()) (fun e _ hpost hpre => hpost ▸ h e.cmd e.pre hpre)
    pool (x := ()) hI schedule

section sound

variable (I : S → Prop) (le : S → S → Prop) (G : Option S → C → Prop)

/-- A latest observation that was a state with the invariant which the present state extends. -/
def Remembers (seen : Option S) (s : S) : Prop :=
  ∀ s₀, seen = some s₀ → I s₀ ∧ le s₀ s

/-- The invariant of a pool: of its state, of what its programs remember, and of what they may
still issue. -/
structure Sound (pool : Pool S C ε) : Prop where
  state : I pool.state
  remembers : ∀ p ∈ pool.procs, Remembers I le p.seen pool.state
  sat : ∀ p ∈ pool.procs, Prog.Only G p.seen p.prog

/-- What holds of a single event: the guarantee of the program that issued the command, and the
invariant around it. -/
structure SoundEvent (e : Event S C) : Prop where
  pre : I e.pre
  remembers : Remembers I le e.seen e.pre
  guarantee : G e.seen e.cmd
  post_eq : e.post = apply e.cmd e.pre
  post : I e.post
  extends_pre : le e.pre e.post

variable {I le G}

/-- A pool whose programs have all yet to start is sound if the invariant holds and every
program keeps the guarantee. -/
lemma sound_start {s : S} (hI : I s) {progs : List (Prog S C ε Unit)}
    (hsat : ∀ p ∈ progs, Prog.Only G none p) :
    Sound I le G (⟨s, progs.map Proc.start⟩ : Pool S C ε) where
  state := hI
  remembers := by
    intro p hp s₀ hs
    obtain ⟨q, -, rfl⟩ := List.mem_map.1 hp
    exact absurd hs (by simp [Proc.start])
  sat := by
    intro p hp
    obtain ⟨q, hq, rfl⟩ := List.mem_map.1 hp
    exact hsat q hq

variable {Cond : Option S → C → S → Prop}
variable {pool : Pool S C ε}

/-- One step of a sound pool, taken under the condition, is a sound event and leaves a sound
pool. -/
lemma step_sound (hrefl : ∀ s, le s s) (htrans : ∀ a b c, le a b → le b c → le a c)
    (hstep : ∀ seen c s, I s → Remembers I le seen s → G seen c → Cond seen c s →
      I (apply c s) ∧ le s (apply c s)) {pool' : Pool S C ε} {i : Nat} {e : Event S C}
    (hpool : Sound I le G pool) (h : pool.step i = some (e, pool'))
    (hcond : Cond e.seen e.cmd e.pre) :
    SoundEvent I le G e ∧ Sound I le G pool' := by
  obtain ⟨seen, c, next, hi, rfl, rfl⟩ := step_eq_some h
  have hmem := List.mem_of_getElem? hi
  have hrem := hpool.remembers _ hmem
  obtain ⟨hG, hnext⟩ := hpool.sat _ hmem
  obtain ⟨hI', hle⟩ := hstep seen c pool.state hpool.state hrem hG hcond
  -- what any program remembers stays below the state as the state is extended
  have hkeep : ∀ seen', Remembers I le seen' pool.state →
      Remembers I le seen' (apply c pool.state) := by
    intro seen' hseen s₀ hs
    exact ⟨(hseen s₀ hs).1, htrans _ _ _ (hseen s₀ hs).2 hle⟩
  refine ⟨⟨hpool.state, hrem, hG, rfl, hI', hle⟩, hI', ?_, ?_⟩
  · intro p hp
    rcases List.mem_or_eq_of_mem_set hp with hp | rfl
    · exact hkeep _ (hpool.remembers p hp)
    · refine hkeep _ ?_
      intro s₀ hs
      unfold Prog.observe at hs
      split at hs
      · obtain rfl := Option.some.inj hs
        exact ⟨hpool.state, hrefl _⟩
      · exact hrem s₀ hs
  · intro p hp
    rcases List.mem_or_eq_of_mem_set hp with hp | rfl
    · exact hpool.sat p hp
    · exact hnext pool.state

/-- **The rule for interleavings**: in an execution from a sound pool whose events all meet the
condition, every event is sound, the pool at the end is sound, and the states extend each other. -/
theorem exec_sound (Cond : Option S → C → S → Prop) (hrefl : ∀ s, le s s)
    (htrans : ∀ a b c, le a b → le b c → le a c)
    (hstep : ∀ seen c s, I s → Remembers I le seen s → G seen c → Cond seen c s →
      I (apply c s) ∧ le s (apply c s)) (hpool : Sound I le G pool) (schedule : List Nat)
    (hcond : ∀ e ∈ (pool.exec schedule).1, Cond e.seen e.cmd e.pre) :
    (∀ e ∈ (pool.exec schedule).1, SoundEvent I le G e ∧ le pool.state e.pre ∧
        le e.post (pool.exec schedule).2.state) ∧
      Sound I le G (pool.exec schedule).2 ∧ le pool.state (pool.exec schedule).2.state := by
  induction schedule generalizing pool with
  | nil => exact ⟨fun e he => absurd he (by simp [exec]), hpool, hrefl _⟩
  | cons i schedule ih =>
    cases hs : pool.step i with
    | none =>
      simp only [exec, hs] at hcond ⊢
      exact ih hpool hcond
    | some r =>
      obtain ⟨e, pool'⟩ := r
      simp only [exec, hs, List.forall_mem_cons] at hcond ⊢
      obtain ⟨he, hpool'⟩ := step_sound hrefl htrans hstep hpool hs hcond.1
      obtain ⟨hes, hend, hle⟩ := ih hpool' hcond.2
      obtain ⟨seen, c, next, -, rfl, rfl⟩ := step_eq_some hs
      refine ⟨⟨⟨he, hrefl _, hle⟩, fun e' h => ?_⟩, hend, htrans _ _ _ he.extends_pre hle⟩
      exact ⟨(hes e' h).1, htrans _ _ _ he.extends_pre (hes e' h).2.1, (hes e' h).2.2⟩

/-- Programs that keep a guarantee keep it in every execution. -/
lemma exec_guarantees (hpool : ∀ p ∈ pool.procs, Prog.Only G p.seen p.prog) (schedule : List Nat) :
    (∀ e ∈ (pool.exec schedule).1, G e.seen e.cmd ∧ e.post = apply e.cmd e.pre) ∧
      ∀ p ∈ (pool.exec schedule).2.procs, Prog.Only G p.seen p.prog := by
  have hsound : Sound (fun _ => True) (fun _ _ => True) G pool :=
    ⟨trivial, fun _ _ _ _ => ⟨trivial, trivial⟩, hpool⟩
  obtain ⟨hevents, hend, -⟩ := exec_sound (fun _ _ _ => True) (fun _ => trivial)
    (fun _ _ _ _ _ => trivial) (fun _ _ _ _ _ _ _ => ⟨trivial, trivial⟩) hsound schedule
    fun _ _ => trivial
  exact ⟨fun e he => ⟨(hevents e he).1.guarantee, (hevents e he).1.post_eq⟩, hend.sat⟩

end sound

/-- What relates the states around each event relates the first state to the last. -/
lemma exec_related {R : S → S → Prop} (hrefl : ∀ s, R s s) (htrans : ∀ a b c, R a b → R b c → R a c)
    (schedule : List Nat) (h : ∀ e ∈ (pool.exec schedule).1, R e.pre e.post) :
    R pool.state (pool.exec schedule).2.state := by
  refine (exec_induct (fun pool' (_ : Unit) => R pool.state pool'.state) (fun _ => True)
    (fun e => R e.pre e.post) (fun _ _ => ()) ?_ () (hrefl _) schedule h).2
  intro pool₁ pool₂ _ i e hR hs he
  obtain ⟨seen, c, next, -, rfl, rfl⟩ := step_eq_some hs
  exact ⟨trivial, htrans _ _ _ hR he⟩

end Pool

end OmniSwitch.Lib
