import OmniSwitch.Lib.Interleave

/-!
# Programs that rely on each other

`Prog.Sat` bounds the commands a program can issue by what it last observed.  Some invariants need
more: that a command comes after an earlier one of the same program, whose effect the other
programs have not undone.  `Prog.Holds` follows the program along its own commands, and between
them lets the state change in any way that keeps the invariant and that the program relies on; by
each of its commands it guarantees something to the others.  What it ends with, a value or an error,
it may have to answer for.

The states that are followed, of type `T`, show the one that the programs share and may have a
record beside it that no program reads.  `Prog.Safe` is the case without a record in which all
programs rely on one order and respect it.

Main results:

* `holds_bind`, `Holds.imp`, `Holds.tryCatch`: the rules for a program;
* `Sat.holds`: what a program may issue after its latest observation can be enough;
* `exec_holding`, `exec_safe`: the rules for executions.
-/

namespace OmniSwitch.Lib

variable {S C T X ε α β : Type} [Commands S C]

namespace Prog

/-- The program's next command, met in any state with the invariant that the program relies on from
`last`, keeps the invariant and the guarantee, and the rest of the program holds from there. -/
def Holds (view : T → S) (app : C → T → T) (I : T → Prop) (R G : T → T → Prop)
    (Cond : Option S → C → S → Prop) (Q : T → Option S → α → Prop)
    (E : T → Option S → ε → Prop) : T → Option S → Prog S C ε α → Prop
  | last, seen, ret a => Q last seen a
  | last, seen, fail e => E last seen e
  | last, seen, act c next => ∀ t, I t → R last t → Cond seen c (view t) →
      I (app c t) ∧ G t (app c t) ∧
        Holds view app I R G Cond Q E (app c t) (observe c (view t) seen) (next (view t))

/-- Every program relies on `le` and respects it. -/
abbrev Safe (I : S → Prop) (le : S → S → Prop) (Cond : Option S → C → S → Prop)
    (Q : S → Option S → α → Prop) (floor : S) (seen : Option S) (p : Prog S C ε α) : Prop :=
  Holds (fun s => s) Commands.apply I le le Cond Q (fun _ _ _ => True) floor seen p

variable {view : T → S} {app : C → T → T} {I : T → Prop} {R G : T → T → Prop}
  {Cond Cond' : Option S → C → S → Prop} {Q Q' : T → Option S → α → Prop}
  {E E' : T → Option S → ε → Prop} {last : T} {seen : Option S}

/-- A composition holds exactly when its first part does, with the second part's holding as
postcondition. -/
@[simp] lemma holds_bind {Q : T → Option S → β → Prop} (p : Prog S C ε α)
    (f : α → Prog S C ε β) :
    Holds view app I R G Cond Q E last seen (p >>= f) ↔ Holds view app I R G Cond
      (fun last seen a => Holds view app I R G Cond Q E last seen (f a)) E last seen p := by
  induction p generalizing last seen with
  | ret a => exact Iff.rfl
  | fail e => exact Iff.rfl
  | act c next ih =>
    refine forall_congr' fun t => forall_congr' fun _ => forall_congr' fun _ =>
      forall_congr' fun _ => and_congr_right fun _ => and_congr_right fun _ => ?_
    exact ih (view t)

@[simp] lemma holds_liftM (x : Except ε α) :
    Holds view app I R G Cond Q (fun _ _ _ => True) last seen (liftM x : Prog S C ε α) ↔
      ∀ a, x = .ok a → Q last seen a :=
  liftM_iff (P := Holds view app I R G Cond Q (fun _ _ _ => True) last seen) (fun _ => trivial) x

/-- The condition may be strengthened, and what the program answers for weakened. -/
lemma Holds.imp (hcond : ∀ seen c s, Cond' seen c s → Cond seen c s)
    (hQ : ∀ last seen a, Q last seen a → Q' last seen a)
    (hE : ∀ last seen e, E last seen e → E' last seen e) {p : Prog S C ε α}
    (h : Holds view app I R G Cond Q E last seen p) :
    Holds view app I R G Cond' Q' E' last seen p := by
  induction p generalizing last seen with
  | ret a => exact hQ last seen a h
  | fail e => exact hE last seen e h
  | act c next ih =>
    intro t hI hR hc
    obtain ⟨hI', hG, hnext⟩ := h t hI hR (hcond seen c (view t) hc)
    exact ⟨hI', hG, ih (view t) hnext⟩

/-- A postcondition may be weakened. -/
lemma Holds.mono (hQ : ∀ last seen a, Q last seen a → Q' last seen a) {p : Prog S C ε α}
    (h : Holds view app I R G Cond Q E last seen p) :
    Holds view app I R G Cond Q' E last seen p :=
  h.imp (fun _ _ _ h => h) hQ fun _ _ _ h => h

/-- A handler has to hold wherever the program may fail. -/
lemma Holds.tryCatch {p : Prog S C ε α} {handler : ε → Prog S C ε α}
    (h : Holds view app I R G Cond Q (fun _ _ _ => True) last seen p)
    (hhandler : ∀ last seen e, Holds view app I R G Cond Q E last seen (handler e)) :
    Holds view app I R G Cond Q E last seen (MonadExcept.tryCatch p handler) := by
  induction p generalizing last seen with
  | ret a => exact h
  | fail e => exact hhandler last seen e
  | act c next ih =>
    intro t hI hR hcond
    obtain ⟨hI', hG, hnext⟩ := h t hI hR hcond
    exact ⟨hI', hG, ih (view t) hnext⟩

/-- Where what a program may issue after its latest observation is enough for one step, it is enough
for the program. -/
lemma Sat.holds {P : S → Prop} {G₀ : Option S → C → Prop} (hP : ∀ t, I t → P (view t))
    (hstep : ∀ seen c t, I t → (∀ s, seen = some s → P s) → G₀ seen c → Cond seen c (view t) →
      I (app c t) ∧ G t (app c t))
    {p : Prog S C ε α} (hseen : ∀ s, seen = some s → P s) (h : Only G₀ seen p) :
    Holds view app I R G Cond (fun _ seen _ => ∀ s, seen = some s → P s) (fun _ _ _ => True) last
      seen p := by
  induction p generalizing last seen with
  | ret a => exact hseen
  | fail e => trivial
  | act c next ih =>
    intro t hI _ hcond
    obtain ⟨hI', hG⟩ := hstep seen c t hI hseen h.1 hcond
    refine ⟨hI', hG, ih (view t) (fun s hs => ?_) (h.2 (view t))⟩
    unfold observe at hs
    split at hs
    · exact Option.some.inj hs ▸ hP t hI
    · exact hseen s hs

end Prog

namespace Pool

variable {view : T → S} {app : Nat → C → T → T} {join : S → X → T} {I : T → Prop}
  {R G : Nat → T → T → Prop} {Cond Cond' : Option S → C → S → Prop} {Q : Nat → T → Prop}
  {E : Nat → T → ε → Prop} {pool pool' : Pool S C ε} {x : X}

variable (view app join I R G Cond Q E) in
/-- The invariant of a pool whose state is followed with the record `x`: each program holds from a
state that the others have led on from. -/
structure Holding (pool : Pool S C ε) (x : X) : Prop where
  state : I (join pool.state x)
  procs : ∀ i p, pool.procs[i]? = some p → ∃ last, R i last (join pool.state x) ∧
    p.prog.Holds view (app i) I (R i) (G i) Cond (fun t _ _ => Q i t) (fun t _ e => E i t e) last
      p.seen

/-- The condition may be strengthened. -/
lemma Holding.restrict (hcond : ∀ seen c s, Cond' seen c s → Cond seen c s)
    (hpool : Holding view app join I R G Cond Q E pool x) :
    Holding view app join I R G Cond' Q E pool x where
  state := hpool.state
  procs := by
    intro i p hp
    obtain ⟨last, hR, hholds⟩ := hpool.procs i p hp
    exact ⟨last, hR, hholds.imp hcond (fun _ _ _ h => h) fun _ _ _ h => h⟩

/-- What program `i` has ended with, if it has. -/
def ended (pool : Pool S C ε) (i : Nat) : Option (Except ε Unit) :=
  match pool.procs[i]? with
  | some ⟨_, .ret a⟩ => some (.ok a)
  | some ⟨_, .fail e⟩ => some (.error e)
  | _ => none

/-- A program that has ended did so as it has to, and the others have led on from there. -/
lemma Holding.ended (h : Holding view app join I R G Cond Q E pool x) {i : Nat}
    {r : Except ε Unit} (hended : pool.ended i = some r) :
    ∃ last, R i last (join pool.state x) ∧
      (r = .ok () ∧ Q i last ∨ ∃ e, r = .error e ∧ E i last e) := by
  unfold Pool.ended at hended
  split at hended
  · rename_i hi
    obtain rfl := Option.some.inj hended
    obtain ⟨last, hR, hQ⟩ := h.procs i _ hi
    exact ⟨last, hR, .inl ⟨rfl, hQ⟩⟩
  · rename_i hi
    obtain rfl := Option.some.inj hended
    obtain ⟨last, hR, hE⟩ := h.procs i _ hi
    exact ⟨last, hR, .inr ⟨_, rfl, hE⟩⟩
  · exact nomatch hended

section rule

variable (hrefl : ∀ i t, R i t t)

include hrefl

/-- Programs that have all yet to start. -/
lemma holding_start {s : S} (hI : I (join s x)) {progs : List (Prog S C ε Unit)}
    (hholds : ∀ (i : Nat) (p : Prog S C ε Unit), progs[i]? = some p →
      p.Holds view (app i) I (R i) (G i) Cond (fun t _ _ => Q i t) (fun t _ e => E i t e)
        (join s x) none) :
    Holding view app join I R G Cond Q E (⟨s, progs.map Proc.start⟩ : Pool S C ε) x where
  state := hI
  procs := by
    intro i p hp
    rw [List.getElem?_map] at hp
    obtain ⟨prog, hprog, rfl⟩ := Option.map_eq_some_iff.1 hp
    exact ⟨_, hrefl i _, hholds i prog hprog⟩

variable (hpool : Holding view app join I R G Cond Q E pool x) (record : Nat → C → S → X → X)
  (htrans : ∀ i a b c, R i a b → R i b c → R i a c)
  (hothers : ∀ i j, i ≠ j → ∀ t t', G i t t' → R j t t') (hview : ∀ s x, view (join s x) = s)
  (happ : ∀ i c s x, app i c (join s x) = join (Commands.apply c s) (record i c s x))

include hpool htrans hothers hview happ

/-- One step of such a pool. -/
lemma step_holding {i : Nat} {e : Event S C} (h : pool.step i = some (e, pool'))
    (hcond : Cond e.seen e.cmd e.pre) :
    (∃ x y, I (join e.pre x) ∧ I (join e.post y) ∧ G e.proc (join e.pre x) (join e.post y)) ∧
      Holding view app join I R G Cond Q E pool' (record e.proc e.cmd e.pre x) := by
  obtain ⟨seen, c, next, hi, rfl, rfl⟩ := step_eq_some h
  obtain ⟨last, hR, hholds⟩ := hpool.procs i _ hi
  obtain ⟨hI, hG, hnext⟩ := hholds _ hpool.state hR (by rwa [hview])
  rw [hview] at hnext
  rw [happ] at hI hG hnext
  refine ⟨⟨x, _, hpool.state, hI, hG⟩, hI, fun j p hp => ?_⟩
  by_cases hij : i = j
  · subst hij
    rw [List.getElem?_set_self (List.getElem?_eq_some_iff.1 hi).1] at hp
    obtain rfl := Option.some.inj hp
    exact ⟨_, hrefl i _, hnext⟩
  · rw [List.getElem?_set_ne hij] at hp
    obtain ⟨last, hR, hholds⟩ := hpool.procs j p hp
    exact ⟨last, htrans j _ _ _ hR (hothers i j hij _ _ hG), hholds⟩

/-- **The rule for programs that rely on each other**: in an execution whose events all meet the
condition, the invariant and the guarantees are kept, and so is the pool's invariant. -/
theorem exec_holding (schedule : List Nat)
    (hcond : ∀ e ∈ (pool.exec schedule).1, Cond e.seen e.cmd e.pre) :
    (∀ e ∈ (pool.exec schedule).1, ∃ x y, I (join e.pre x) ∧ I (join e.post y) ∧
        G e.proc (join e.pre x) (join e.post y)) ∧
      Holding view app join I R G Cond Q E (pool.exec schedule).2
        ((pool.exec schedule).1.foldl (fun x e => record e.proc e.cmd e.pre x) x) :=
  exec_induct (Holding view app join I R G Cond Q E) _ (fun e => Cond e.seen e.cmd e.pre) _
    (fun _ _ _ _ _ hpool => step_holding hrefl hpool record htrans hothers hview happ) x hpool
    schedule hcond

end rule

/-! ### Without a record -/

section order

/-- The invariant of a pool of safe programs. -/
abbrev Safe (I : S → Prop) (le : S → S → Prop) (Cond : Option S → C → S → Prop)
    (pool : Pool S C ε) : Prop :=
  Holding (fun s => s) (fun _ => Commands.apply) (fun s (_ : Unit) => s) I (fun _ => le)
    (fun _ => le) Cond (fun _ _ => True) (fun _ _ _ => True) pool ()

variable {I : S → Prop} {le : S → S → Prop} (hrefl : ∀ s, le s s)

include hrefl

lemma safe_start {s : S} (hI : I s) {progs : List (Prog S C ε Unit)}
    (hsafe : ∀ p ∈ progs, Prog.Safe I le Cond (fun _ _ _ => True) s none p) :
    Safe I le Cond (⟨s, progs.map Proc.start⟩ : Pool S C ε) :=
  holding_start (fun _ => hrefl) hI fun _ p hp => hsafe p (List.mem_of_getElem? hp)

/-- **The rule for safe programs**: in an execution whose events all meet the condition, the
invariant holds before and after each event and at the end, and each event extends the state. -/
theorem exec_safe (htrans : ∀ a b c, le a b → le b c → le a c) (hpool : Safe I le Cond pool)
    (schedule : List Nat) (hcond : ∀ e ∈ (pool.exec schedule).1, Cond e.seen e.cmd e.pre) :
    (∀ e ∈ (pool.exec schedule).1, I e.pre ∧ I e.post ∧ le e.pre e.post) ∧
      I (pool.exec schedule).2.state := by
  obtain ⟨hevents, hend⟩ := exec_holding (fun _ => hrefl) hpool (fun _ _ _ _ => ())
    (fun _ => htrans) (fun _ _ _ _ _ h => h) (fun _ _ => rfl) (fun _ _ _ _ => rfl) schedule hcond
  refine ⟨fun e he => ?_, hend.state⟩
  obtain ⟨-, -, h⟩ := hevents e he
  exact h

end order

end Pool

end OmniSwitch.Lib
