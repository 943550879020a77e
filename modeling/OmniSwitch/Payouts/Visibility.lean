import OmniSwitch.Lib.Stages
import OmniSwitch.Payouts.SweepHistory

/-!
# Which sweep reads a ledger event

A ledger event has its `created_at` from the moment it is inserted, but can be read only once its
transaction has committed.  A sweep reads the events created between the end of the latest window
and now, and whatever it saw, the next window starts at that now.  An event that commits after a
sweep has read past its `created_at` is therefore read by no sweep at all.

Here inserts, commits and the commands of a sweep are steps of one history, in any order; sweeps do
not overlap, and one that fails has read nothing as far as payouts go.

Main results:

* `events_read_once`: every event is read by one sweep, if none commits too late;
* `event_never_read`: one that does.
-/

namespace OmniSwitch

open Lib Prog History

open PayoutService (SweepEnv runSweep runSweepLocked payBalances AccountBalance)

/-! ### The history -/

/-- One run of the sweep: what it was given, the ledger when it started, and what it has read.

Source: `PayoutService.runSweepLocked` -/
structure SweepRead where
  env : SweepEnv
  startedWith : List LedgerOutboxEvent
  events : Option (List LedgerOutboxEvent) := none

namespace SweepRead

/-- The event was read. -/
def includes (r : SweepRead) (event : LedgerOutboxEvent) : Bool := event ∈ r.events.getD []

/-- What a sweep has read after a command. -/
def observe (r : SweepRead) (db : PayoutDb) : PayoutCmd → SweepRead
  | .findCreatedBetween since stop => { r with events := some (db.findCreatedBetween since stop) }
  | _ => r

end SweepRead

/-- A run in progress, and the rest of its program. -/
structure RunningSweep where
  record : SweepRead
  prog : Payouts (Option PayoutSweepRun)

/-- The tables, the events inserted by transactions that have not committed, the run in progress,
and the runs that have completed. -/
structure SweepWorld where
  db : PayoutDb
  uncommitted : List LedgerOutboxEvent := []
  running : Option RunningSweep := none
  completed : List SweepRead := []

/-- In how many completed runs an event was read. -/
def SweepWorld.reads (w : SweepWorld) (event : LedgerOutboxEvent) : Nat :=
  w.completed.countP (·.includes event)

/-- A step of a history.

Source: `ledger-outbox.entity.ts`; `PayoutService.runSweep` -/
inductive SweepLabel where
  /-- A transaction inserts an event, whose `created_at` is fixed by this. -/
  | insert (event : LedgerOutboxEvent)
  /-- The transaction of an inserted event commits. -/
  | commit (i : Nat)
  /-- A run starts, unless one is in progress. -/
  | start (env : SweepEnv)
  /-- The run in progress issues its next command, or ends. -/
  | advance

/-- The transaction of an event commits. -/
def PayoutDb.commitEvent (db : PayoutDb) (event : LedgerOutboxEvent) : PayoutDb :=
  { db with ledgerOutbox := db.ledgerOutbox ++ [event] }

namespace SweepLabel

/-- The run in progress issues its next command, or ends. -/
def advanceRun (w : SweepWorld) (r : SweepRead) : Payouts (Option PayoutSweepRun) → SweepWorld
  | .act c next =>
    { w with db := Commands.apply c w.db, running := some ⟨r.observe w.db c, next w.db⟩ }
  | .ret (some _) => { w with running := none, completed := w.completed ++ [r] }
  | .ret none => { w with running := none }
  | .fail _ => { w with running := none }

/-- The state a step leaves.

Source: `ledger-outbox.entity.ts`; `PayoutService.runSweep` -/
def apply : SweepLabel → SweepWorld → SweepWorld
  | insert event, w => { w with uncommitted := w.uncommitted ++ [event] }
  | commit i, w =>
    match w.uncommitted[i]? with
    | none => w
    | some event =>
      { w with
        uncommitted := w.uncommitted.eraseIdx i
        db := w.db.commitEvent event }
  | start env, w =>
    match w.running with
    | some _ => w
    | none => { w with running := some ⟨⟨env, w.db.ledgerOutbox, none⟩, runSweep env⟩ }
  | advance, w =>
    match w.running with
    | none => w
    | some run => advanceRun w run.record run.prog

/-- No event commits behind a window that has ended, or that the run in progress has read; and a run
has a fresh id. -/
def InTime : SweepLabel → SweepWorld → Prop
  | commit i, w => ∀ event ∈ w.uncommitted[i]?, w.db.windowStart ≤ event.createdAt ∧
      ∀ run ∈ w.running, run.record.events.isSome → run.record.env.now ≤ event.createdAt
  | start env, w => ∀ run ∈ w.db.sweepRuns.rows, run.id ≠ env.sweepRunId
  | _, _ => True

instance (label : SweepLabel) (w : SweepWorld) : Decidable (label.InTime w) :=
  match label with
  | insert _ => inferInstanceAs (Decidable True)
  | commit i => inferInstanceAs (Decidable (∀ event ∈ w.uncommitted[i]?, _ ∧ ∀ run ∈ w.running, _))
  | start _ => inferInstanceAs (Decidable (∀ run ∈ w.db.sweepRuns.rows, _))
  | advance => inferInstanceAs (Decidable True)

end SweepLabel

/-! ### The stages of a sweep -/

/-- How far a run has come: it has not looked at the latest run, knows where its window starts, has
read its window, or has recorded itself. -/
inductive SweepStage where
  | started
  | windowed (since : Date)
  | read (since : Date) (events : List LedgerOutboxEvent)
  | recorded (events : List LedgerOutboxEvent)

namespace SweepStage

/-- What the sweep has read. -/
def events : SweepStage → Option (List LedgerOutboxEvent)
  | started => none
  | windowed _ => none
  | read _ events => some events
  | recorded events => some events

/-- The run is recorded. -/
def isRecorded : SweepStage → Bool
  | recorded _ => true
  | _ => false

/-- Until it has recorded itself, the window starts where the run has found that it does. -/
def knows : SweepStage → PayoutDb → Prop
  | windowed since, db => db.windowStart = since
  | read since _, db => db.windowStart = since
  | _, _ => True

/-- The stage after a command. -/
def next (env : SweepEnv) : SweepStage → PayoutCmd → PayoutDb → Option SweepStage
  | started, .findLatestSweepRun, db => some (windowed db.windowStart)
  | windowed since, .findCreatedBetween start stop, db =>
    if start = since ∧ stop = env.now then some (read since (db.findCreatedBetween start stop))
    else none
  | read _ events, .saveSweepRun run, _ =>
    if run.id = env.sweepRunId ∧ run.windowEnd = env.now then some (recorded events) else none
  | x, .setNX _, _ => some x
  | x, .del, _ => some x
  | x, .save _, _ => some x
  | _, _, _ => none

/-- The stages of a sweep. -/
def stages (env : SweepEnv) : Stages SweepStage PayoutDb PayoutCmd := ⟨knows, next env⟩

/-- A run returns one exactly if it has recorded itself. -/
def Ends (x : SweepStage) : Except AppError (Option PayoutSweepRun) → Prop
  | .ok (some _) => x.isRecorded = true
  | _ => x.isRecorded = false

end SweepStage

namespace PayoutService

open SweepStage

lemma follows_payBalances (env : SweepEnv) (balances : List AccountBalance) (paid : Nat)
    (x : SweepStage) :
    Follows (stages env) (fun y _ => y = x) x (payBalances env balances paid) := by
  induction balances generalizing paid with
  | nil => rfl
  | cons balance rest ih =>
    by_cases hpays : env.pays balance
    · obtain ⟨payout, -, hcons⟩ := payBalances_cons_of_pays hpays rest paid
      rw [hcons, follows_bind]
      cases env.saveFails paid with
      | some e => rfl
      | none =>
        intro db _
        refine ⟨x, ?_, ih (paid + 1)⟩
        cases x <;> rfl
    · rw [payBalances_cons_of_not_pays hpays]
      exact ih paid

/-- A sweep looks where its window starts, reads the window, and records itself with its end. -/
lemma follows_runSweepLocked (env : SweepEnv) :
    Follows (stages env) (fun x r => x.isRecorded = r.isOk) started (runSweepLocked env) := by
  intro db _
  refine ⟨_, rfl, fun db' hwindow => ?_⟩
  refine ⟨read db.windowStart (db'.findCreatedBetween db.windowStart env.now), ?_, ?_⟩
  · exact if_pos ⟨rfl, rfl⟩
  · change Follows _ _ _ (payBalances env
        (netByAccount (db'.findCreatedBetween db.windowStart env.now)).rows 0 >>= fun paid =>
      write env.saveSweepRunFails
          (.saveSweepRun ⟨env.sweepRunId, db.windowStart, env.now, paid, env.ranAt⟩) >>= fun _ =>
        pure (PayoutSweepRun.mk env.sweepRunId db.windowStart env.now paid env.ranAt))
    refine (follows_bind _ _).2 ((follows_payBalances env _ 0 _).mono ?_)
    rintro x (e | paid) rfl
    · rfl
    · refine (follows_bind _ _).2 ?_
      cases env.saveSweepRunFails with
      | some e => rfl
      | none =>
        intro db'' _
        exact ⟨_, if_pos ⟨rfl, rfl⟩, rfl⟩

/-- A sweep goes through its stages. -/
lemma follows_runSweep (env : SweepEnv) :
    Follows (stages env) Ends started (runSweep env) := by
  intro db _
  refine ⟨started, rfl, ?_⟩
  have hdel : ∀ (x : SweepStage) (db : PayoutDb), next env x .del db = some x := by
    intro x db
    cases x <;> rfl
  change Follows _ _ _ (if (!db.sweepLock.isNone) = true then pure none else _)
  cases db.sweepLock with
  | some _ => rfl
  | none =>
    refine (follows_bind _ _).2 ((follows_tryCatch _ _).2 ((follows_runSweepLocked env).mono ?_))
    rintro x (e | run) hx
    · exact fun db' _ => ⟨x, hdel x db', hx⟩
    · exact fun db' _ => ⟨x, hdel x db', hx⟩

end PayoutService

/-! ### What a history keeps -/

/-- What a run that has recorded itself adds to how often an event was read. -/
def SweepStage.counts (event : LedgerOutboxEvent) : SweepStage → Nat
  | .recorded events => if event ∈ events then 1 else 0
  | _ => 0

/-- What is known of the tables while a run is at a stage. -/
structure AtStage (db : PayoutDb) (r : SweepRead) (x : SweepStage) : Prop where
  events_eq : r.events = x.events
  knows : x.knows db
  fresh : x.isRecorded = false → ∀ run ∈ db.sweepRuns.rows, run.id ≠ r.env.sweepRunId
  ended : x.isRecorded = true → r.env.now ≤ db.windowStart
  /-- What was read of the window is all there is of it. -/
  whole : ∀ since events, x = .read since events → ∀ event, event ∈ events ↔
    event ∈ db.ledgerOutbox ∧ since ≤ event.createdAt ∧ event.createdAt < r.env.now

/-- The events before the next window were read once, the others never; and what a run that has
recorded itself has read was created after the windows of the completed runs. -/
structure Counted (db : PayoutDb) (completed : List SweepRead) (x : SweepStage) : Prop where
  counted : ∀ event, completed.countP (·.includes event) + x.counts event =
    if event ∈ db.ledgerOutbox ∧ event.createdAt < db.windowStart then 1 else 0
  later : ∀ event, x.counts event ≠ 0 → ∀ r ∈ completed, r.env.now ≤ event.createdAt

section frame

variable {db db' : PayoutDb} {r : SweepRead} {x : SweepStage} {completed : List SweepRead}

lemma SweepStage.knows_of_sweepRuns_eq (h : db'.sweepRuns = db.sweepRuns) (hx : x.knows db) :
    x.knows db' := by
  have hstart := PayoutDb.windowStart_of_sweepRuns_eq h
  cases x with
  | started => trivial
  | windowed since => exact hstart.trans hx
  | read since events => exact hstart.trans hx
  | recorded events => trivial

lemma AtStage.frame (hledger : db'.ledgerOutbox = db.ledgerOutbox)
    (hruns : db'.sweepRuns = db.sweepRuns) (hx : AtStage db r x) : AtStage db' r x where
  events_eq := hx.events_eq
  knows := SweepStage.knows_of_sweepRuns_eq hruns hx.knows
  fresh := hruns ▸ hx.fresh
  ended := PayoutDb.windowStart_of_sweepRuns_eq hruns ▸ hx.ended
  whole := hledger ▸ hx.whole

lemma Counted.frame (hledger : db'.ledgerOutbox = db.ledgerOutbox)
    (hruns : db'.sweepRuns = db.sweepRuns) (h : Counted db completed x) :
    Counted db' completed x := by
  refine ⟨fun event => ?_, h.later⟩
  rw [hledger, PayoutDb.windowStart_of_sweepRuns_eq hruns]
  exact h.counted event

lemma Counted.of_counts_eq {y : SweepStage} (hy : ∀ event, y.counts event = 0)
    (hx : ∀ event, x.counts event = 0) (h : Counted db completed x) : Counted db completed y where
  counted event := by
    rw [hy event, Nat.add_zero]
    simpa only [hx event, Nat.add_zero] using h.counted event
  later event hne := absurd (hy event) hne

end frame

/-! ### One command of a run -/

section step

variable {db : PayoutDb} {r : SweepRead} {x y : SweepStage} {completed : List SweepRead}
  {c : PayoutCmd}

lemma SweepStage.next_cases (h : next r.env x c db = some y) :
    (y = x ∧ (Commands.apply c db).ledgerOutbox = db.ledgerOutbox ∧
      (Commands.apply c db).sweepRuns = db.sweepRuns ∧ r.observe db c = r) ∨
    (x = .started ∧ c = .findLatestSweepRun ∧ y = .windowed db.windowStart) ∨
    (∃ since, x = .windowed since ∧ c = .findCreatedBetween since r.env.now ∧
      y = .read since (db.findCreatedBetween since r.env.now)) ∨
    ∃ since events run, x = .read since events ∧ c = .saveSweepRun run ∧
      run.id = r.env.sweepRunId ∧ run.windowEnd = r.env.now ∧ y = .recorded events := by
  unfold next at h
  split at h
  · exact .inr (.inl ⟨rfl, rfl, (Option.some.inj h).symm⟩)
  · obtain ⟨⟨rfl, rfl⟩, hy⟩ := Option.ite_none_right_eq_some.1 h
    exact .inr (.inr (.inl ⟨_, rfl, rfl, (Option.some.inj hy).symm⟩))
  · obtain ⟨⟨hid, hend⟩, hy⟩ := Option.ite_none_right_eq_some.1 h
    exact .inr (.inr (.inr ⟨_, _, _, rfl, rfl, hid, hend, (Option.some.inj hy).symm⟩))
  · refine .inl ⟨(Option.some.inj h).symm, ?_, ?_, rfl⟩
    · exact apply_ite PayoutDb.ledgerOutbox _ _ _ |>.trans (ite_self _)
    · exact apply_ite PayoutDb.sweepRuns _ _ _ |>.trans (ite_self _)
  · exact .inl ⟨(Option.some.inj h).symm, rfl, rfl, rfl⟩
  · exact .inl ⟨(Option.some.inj h).symm, rfl, rfl, rfl⟩
  · exact nomatch h

/-- A run that records itself has read what is between the old start of the window and the new one.
-/
lemma Counted.record {since : Date} {events : List LedgerOutboxEvent} {run : PayoutSweepRun}
    (hx : AtStage db r (.read since events)) (h : Counted db completed (.read since events))
    (hends : ∀ r ∈ completed, r.env.now ≤ db.windowStart)
    (hstart : (db.saveSweepRun run).windowStart = max db.windowStart r.env.now) :
    Counted (db.saveSweepRun run) completed (.recorded events) := by
  have hsince : db.windowStart = since := hx.knows
  have hledger : (db.saveSweepRun run).ledgerOutbox = db.ledgerOutbox := rfl
  constructor
  · intro event
    have hbefore := h.counted event
    have hread := hx.whole since events rfl event
    rw [hledger, hstart]
    simp only [SweepStage.counts] at hbefore ⊢
    grind
  · intro event hne r' hr'
    have hevent : event ∈ events := by
      by_contra hevent
      exact hne (if_neg hevent)
    calc r'.env.now ≤ db.windowStart := hends r' hr'
      _ = since := hsince
      _ ≤ event.createdAt := ((hx.whole since events rfl event).1 hevent).2.1

/-- A command that its stage allows keeps what is known at the stages, and no window starts earlier
for it. -/
lemma AtStage.step (hx : AtStage db r x) (hcount : Counted db completed x)
    (hends : ∀ r ∈ completed, r.env.now ≤ db.windowStart)
    (hnext : SweepStage.next r.env x c db = some y) :
    AtStage (Commands.apply c db) (r.observe db c) y ∧
      Counted (Commands.apply c db) completed y ∧
      db.windowStart ≤ (Commands.apply c db).windowStart := by
  rcases SweepStage.next_cases hnext with ⟨rfl, hledger, hruns, hr⟩ | ⟨rfl, rfl, rfl⟩ |
    ⟨since, rfl, rfl, rfl⟩ | ⟨since, events, run, rfl, rfl, hid, hend, rfl⟩
  · rw [hr]
    exact ⟨hx.frame hledger hruns, hcount.frame hledger hruns,
      (PayoutDb.windowStart_of_sweepRuns_eq hruns).ge⟩
  · exact ⟨⟨hx.events_eq, rfl, hx.fresh, fun h => (nomatch h), fun _ _ h => (nomatch h)⟩,
      hcount.of_counts_eq (fun _ => rfl) (fun _ => rfl), le_rfl⟩
  · refine ⟨⟨rfl, hx.knows, hx.fresh, fun h => (nomatch h), ?_⟩,
      hcount.of_counts_eq (fun _ => rfl) (fun _ => rfl), le_rfl⟩
    intro since' events hread event
    obtain ⟨rfl, rfl⟩ := SweepStage.read.inj hread
    exact PayoutDb.mem_findCreatedBetween
  · have hstart : (db.saveSweepRun run).windowStart = max db.windowStart r.env.now := by
      rw [PayoutDb.windowStart_saveSweepRun fun other hother => hid ▸ hx.fresh rfl other hother,
        hend]
    refine ⟨⟨hx.events_eq, trivial, fun h => (nomatch h), fun _ => ?_, fun _ _ h => (nomatch h)⟩,
      hcount.record hx hends hstart, ?_⟩
    · exact (le_max_right _ _).trans hstart.ge
    · exact (le_max_left _ _).trans hstart.ge

lemma Counted.complete (hx : AtStage db r x) (hrecorded : x.isRecorded = true)
    (h : Counted db completed x) : Counted db (completed ++ [r]) .started := by
  refine ⟨fun event => ?_, fun event hne => absurd rfl hne⟩
  rw [← h.counted event]
  cases x with
  | recorded events =>
    have hr : r.events = some events := hx.events_eq
    simp [SweepRead.includes, SweepStage.counts, hr, List.countP_append, List.countP_singleton]
  | started => nomatch hrecorded
  | windowed since => nomatch hrecorded
  | read since events => nomatch hrecorded

end step

/-! ### A commit -/

section commit

variable {db : PayoutDb} {r : SweepRead} {x : SweepStage} {completed : List SweepRead}
  {event : LedgerOutboxEvent}

lemma mem_commitEvent_and {P : LedgerOutboxEvent → Prop} (hnot : ¬ P event)
    (other : LedgerOutboxEvent) :
    other ∈ (db.commitEvent event).ledgerOutbox ∧ P other ↔
      other ∈ db.ledgerOutbox ∧ P other := by
  unfold PayoutDb.commitEvent
  rw [List.mem_append, List.mem_singleton]
  constructor
  · rintro ⟨hmem | rfl, h⟩
    · exact ⟨hmem, h⟩
    · exact absurd h hnot
  · exact fun h => ⟨.inl h.1, h.2⟩

lemma Counted.commit (hstart : db.windowStart ≤ event.createdAt) (h : Counted db completed x) :
    Counted (db.commitEvent event) completed x := by
  refine ⟨fun other => (h.counted other).trans (if_congr ?_ rfl rfl), h.later⟩
  exact (mem_commitEvent_and (P := fun e => e.createdAt < db.windowStart) (not_lt.2 hstart)
    other).symm

lemma AtStage.commit (hread : r.events.isSome → r.env.now ≤ event.createdAt)
    (hx : AtStage db r x) : AtStage (db.commitEvent event) r x where
  events_eq := hx.events_eq
  knows := SweepStage.knows_of_sweepRuns_eq
    (show (db.commitEvent event).sweepRuns = db.sweepRuns from rfl) hx.knows
  fresh := hx.fresh
  ended := hx.ended
  whole := by
    rintro since events rfl other
    have hnow : r.env.now ≤ event.createdAt := hread (by rw [hx.events_eq]; rfl)
    rw [hx.whole since events rfl other]
    exact (mem_commitEvent_and (P := fun e => since ≤ e.createdAt ∧ e.createdAt < r.env.now)
      (fun h => absurd h.2 (not_lt.2 hnow)) other).symm

end commit

/-! ### A step of the history -/

namespace SweepWorld

/-- What a history keeps: the run in progress is at some stage, and the events are counted. -/
structure Tracked (w : SweepWorld) : Prop where
  ends : ∀ r ∈ w.completed, r.env.now ≤ w.db.windowStart
  stage : ∃ x, Counted w.db w.completed x ∧ (w.running = none → x.isRecorded = false) ∧
    ∀ run, w.running = some run → run.prog.Follows (SweepStage.stages run.record.env)
      SweepStage.Ends x ∧ AtStage w.db run.record x

variable {w : SweepWorld}

lemma Tracked.commit (hw : w.Tracked) {i : Nat} (hcond : (SweepLabel.commit i).InTime w) :
    ((SweepLabel.commit i).apply w).Tracked := by
  rw [SweepLabel.apply]
  cases hi : w.uncommitted[i]? with
  | none => exact hw
  | some event =>
    obtain ⟨hstart, hread⟩ := hcond event hi
    obtain ⟨x, hcount, hidle, hrunning⟩ := hw.stage
    refine ⟨hw.ends, x, hcount.commit hstart, hidle, fun run hrun => ?_⟩
    obtain ⟨hfollows, hx⟩ := hrunning run hrun
    exact ⟨hfollows, hx.commit (hread run hrun)⟩

lemma Tracked.start (hw : w.Tracked) {env : SweepEnv} (hcond : (SweepLabel.start env).InTime w) :
    ((SweepLabel.start env).apply w).Tracked := by
  rw [SweepLabel.apply]
  cases hrunning : w.running with
  | some run => exact hw
  | none =>
    obtain ⟨x, hcount, hidle, -⟩ := hw.stage
    refine ⟨hw.ends, .started, ?_, fun h => (nomatch h), ?_⟩
    · have hidle := hidle hrunning
      refine hcount.of_counts_eq (fun _ => rfl) fun event => ?_
      cases x <;> first | rfl | exact nomatch hidle
    · intro run hrun
      obtain rfl := Option.some.inj hrun
      exact ⟨PayoutService.follows_runSweep env, rfl, trivial, fun _ => hcond,
        fun h => (nomatch h), fun _ _ h => (nomatch h)⟩

lemma Tracked.advance (hw : w.Tracked) : (SweepLabel.advance.apply w).Tracked := by
  rw [SweepLabel.apply]
  cases hrunning : w.running with
  | none => exact hw
  | some run =>
    obtain ⟨x, hcount, -, hstage⟩ := hw.stage
    obtain ⟨hfollows, hx⟩ := hstage run hrunning
    obtain ⟨r, prog⟩ := run
    -- a run that ends without having recorded itself leaves the counts as they are
    have hends : x.isRecorded = false → Tracked { w with running := none } :=
      fun h => ⟨hw.ends, x, hcount, fun _ => h, fun _ h => (nomatch h)⟩
    cases prog with
    | act c next =>
      obtain ⟨y, hnext, hfollows'⟩ := hfollows w.db hx.knows
      obtain ⟨hy, hcount', hle⟩ := hx.step hcount hw.ends hnext
      refine ⟨fun r' hr' => (hw.ends r' hr').trans hle, y, hcount', fun h => (nomatch h), ?_⟩
      intro run hrun
      obtain rfl := Option.some.inj hrun
      refine ⟨?_, hy⟩
      cases c <;> exact hfollows'
    | fail e => exact hends hfollows
    | ret result =>
      cases result with
      | none => exact hends hfollows
      | some sweepRun =>
        refine ⟨?_, .started, ?_, fun _ => rfl, fun _ h => (nomatch h)⟩
        · intro r' hr'
          rcases List.mem_append.1 hr' with hr' | hr'
          · exact hw.ends r' hr'
          · rw [List.mem_singleton.1 hr']
            exact hx.ended hfollows
        · exact hcount.complete hx hfollows

/-- Every step in time keeps what is known of the sweeps. -/
lemma Tracked.apply (hw : w.Tracked) (label : SweepLabel) (hcond : label.InTime w) :
    (label.apply w).Tracked := by
  cases label with
  | insert event => exact ⟨hw.ends, hw.stage⟩
  | commit i => exact hw.commit hcond
  | start env => exact hw.start hcond
  | advance => exact hw.advance

lemma Tracked.reads (hw : w.Tracked) (event : LedgerOutboxEvent) :
    w.reads event ≤ 1 ∧ (event ∈ w.db.ledgerOutbox →
      ∀ r ∈ w.completed, event.createdAt < r.env.now → w.reads event = 1) := by
  obtain ⟨x, hcount, -, -⟩ := hw.stage
  have heq : w.reads event + x.counts event = _ := hcount.counted event
  constructor
  · split_ifs at heq <;> omega
  · intro hmem r hr hlt
    -- a run in progress cannot be the one that read it: its window starts later
    have hzero : x.counts event = 0 := by
      by_contra hne
      exact absurd hlt (not_lt.2 (hcount.later event hne r hr))
    rw [if_pos ⟨hmem, hlt.trans_le (hw.ends r hr)⟩] at heq
    omega

end SweepWorld

/-! ### Every event is read once -/

/-- In every history of inserts, commits and sweeps in which no event commits behind what a sweep
has read, every event of the ledger is read in at most one completed run, and in exactly one once a
run that started after its commit and ends its window after its creation has completed. -/
theorem events_read_once (history : List SweepLabel)
    (hcond : ∀ moment ∈ moments SweepLabel.apply { db := .empty } history,
      moment.1.InTime moment.2) :
    ∀ event ∈ (after SweepLabel.apply { db := .empty } history).db.ledgerOutbox,
      (after SweepLabel.apply { db := .empty } history).reads event ≤ 1 ∧
      ∀ r ∈ (after SweepLabel.apply { db := .empty } history).completed,
        event ∈ r.startedWith → event.createdAt < r.env.now →
          (after SweepLabel.apply { db := .empty } history).reads event = 1 := by
  have hstart : SweepWorld.Tracked { db := .empty } := by
    refine ⟨fun _ h => (nomatch h), .started, ⟨fun event => rfl, fun _ h => absurd rfl h⟩,
      fun _ => rfl, fun _ h => (nomatch h)⟩
  have hw := keeps SweepLabel.apply
    (fun label w (hw : w.Tracked) h => hw.apply label h) hstart history hcond
  intro event hevent
  obtain ⟨hle, heq⟩ := hw.reads event
  exact ⟨hle, fun r hr _ hlt => heq hevent r hr hlt⟩

namespace Sample

/-- A sweep that pays no one, command by command to its end. -/
def sweepSteps (sweepRunId : String) (now : Date) : List SweepLabel :=
  .start (sweepEnv sweepRunId now) :: List.replicate 6 .advance

/-- An event without entries. -/
def bareEvent (id : String) (createdAt : Date) : LedgerOutboxEvent :=
  ⟨id, id, .PAYMENT_CHARGED, [], createdAt, by decide⟩

/-- An event commits before the first sweep, and another while it runs, in time for the second. -/
def inTime : List SweepLabel :=
  [.insert (bareEvent "event-1" 5), .commit 0, .insert (bareEvent "event-2" 12)] ++
    (sweepSteps "run-1" 10).take 4 ++ [.commit 0] ++ (sweepSteps "run-1" 10).drop 4 ++
    sweepSteps "run-2" 20

/-- An event is inserted, a sweep reads past it, it commits, and two more sweeps run. -/
def tooLate : List SweepLabel :=
  .insert (bareEvent "event-1" 5) :: sweepSteps "run-1" 10 ++ .commit 0 ::
    (sweepSteps "run-2" 20 ++ sweepSteps "run-3" 30)

end Sample

open Sample

/-- The first event is read in the first run, the second one in the second. -/
theorem events_read_once_in_time :
    (∀ moment ∈ moments SweepLabel.apply { db := .empty } inTime,
      moment.1.InTime moment.2) ∧
    (after SweepLabel.apply { db := .empty } inTime).db.ledgerOutbox =
      [bareEvent "event-1" 5, bareEvent "event-2" 12] ∧
    (after SweepLabel.apply { db := .empty } inTime).completed.map
        (fun r => (r.env.sweepRunId, (r.events.getD []).map (·.id))) =
      [("run-1", ["event-1"]), ("run-2", ["event-2"])] ∧
    (after SweepLabel.apply { db := .empty } inTime).reads (bareEvent "event-1" 5) = 1 := by
  have hcond : ∀ moment ∈ moments SweepLabel.apply { db := .empty } inTime,
      moment.1.InTime moment.2 := by decide +kernel
  have hrun : ∃ r ∈ (after SweepLabel.apply { db := .empty } inTime).completed,
      bareEvent "event-1" 5 ∈ r.startedWith ∧ (bareEvent "event-1" 5).createdAt < r.env.now := by
    decide +kernel
  obtain ⟨r, hr, hstarted, hlt⟩ := hrun
  refine ⟨hcond, by decide +kernel, by decide +kernel, ?_⟩
  exact (events_read_once inTime hcond (bareEvent "event-1" 5) (by decide +kernel)).2 r hr hstarted
    hlt

/-- An event inserted before a sweep and committed after it has read is in no run's window: two
later runs, started with the event in the ledger, end after its creation and do not read it. -/
theorem event_never_read :
    (after SweepLabel.apply { db := .empty } tooLate).db.ledgerOutbox =
      [bareEvent "event-1" 5] ∧
    (after SweepLabel.apply { db := .empty } tooLate).completed.map
        (fun r => (r.env.sweepRunId, r.env.now, r.startedWith.map (·.id))) =
      [("run-1", 10, []), ("run-2", 20, ["event-1"]), ("run-3", 30, ["event-1"])] ∧
    (after SweepLabel.apply { db := .empty } tooLate).reads (bareEvent "event-1" 5) = 0 := by
  refine ⟨?_, ?_, ?_⟩ <;> decide +kernel

end OmniSwitch
