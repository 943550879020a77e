import OmniSwitch.Payouts.Sweep

/-!
# Histories of payout sweeps

The sweep keeps no balance from one run to the next: all it carries over is where the last window
ended.  What holds over a whole history therefore depends on how its windows lie, and on which
executions stopped half-way.  A history here is any sequence of ledger events being booked and
sweeps being executed, one execution after the other.

Main results:

* `sweeps_never_overpay`: no more is paid out than was credited;
* `entries_swept_once`: an entry is in at most one payout;
* `overpaid_after_refund`, `entry_swept_twice`: a negative window, and a sweep that fails half-way.
-/

namespace OmniSwitch

open Lib History PayoutDb

open PayoutService (SweepEnv AccountBalance due PaysOut runSweep Swept saveEach runSweep_run)

/-- A step of a history: an event is booked, or the sweep is executed.

Source: `LedgerOutboxPort.save`; `PayoutService.runSweep` -/
inductive SweepStep where
  | booked (event : LedgerOutboxEvent)
  | swept (env : SweepEnv)

namespace SweepStep

/-- What a step leaves. -/
def apply : SweepStep → PayoutDb → PayoutDb
  | booked event, db => { db with ledgerOutbox := db.ledgerOutbox ++ [event] }
  | swept env, db => ((runSweep env).run db).1

/-- The id of the run that a step may record. -/
def sweepRunId : SweepStep → Option String
  | booked _ => none
  | swept env => some env.sweepRunId

end SweepStep

variable (past : List (SweepStep × PayoutDb))

/-- The ids of the runs. -/
def sweepRunIds : List String :=
  past.filterMap (·.1.sweepRunId)

lemma sweepRunIds_concat_swept (env : SweepEnv) (db : PayoutDb) :
    sweepRunIds (past ++ [(.swept env, db)]) = sweepRunIds past ++ [env.sweepRunId] := by
  simp [sweepRunIds, SweepStep.sweepRunId]

variable {db : PayoutDb}

lemma SweepHistory.induct {I : List (SweepStep × PayoutDb) → PayoutDb → Prop}
    (Cond : SweepStep → PayoutDb → Prop) (hstart : I [] db)
    (hbooked : ∀ past db event, I past db → Cond (.booked event) db →
      I (past ++ [(.booked event, db)]) ((SweepStep.booked event).apply db))
    (hswept : ∀ past db env, I past db → env.sweepRunId ∉ sweepRunIds past →
      Cond (.swept env) db → I (past ++ [(.swept env, db)]) ((SweepStep.swept env).apply db))
    (history : List SweepStep) (hfresh : (history.filterMap SweepStep.sweepRunId).Nodup)
    (hcond : ∀ moment ∈ moments SweepStep.apply db history, Cond moment.1 moment.2) :
    I (moments SweepStep.apply db history) (after SweepStep.apply db history) := by
  refine History.induct SweepStep.apply I
    (fun past => (sweepRunIds past).Nodup ∧ ∀ moment ∈ past, Cond moment.1 moment.2)
    ?_ hstart ?_ history ⟨?_, hcond⟩
  · rintro past moment ⟨hnodup, hall⟩
    refine ⟨?_, fun m hm => hall m (List.mem_append_left _ hm)⟩
    exact hnodup.sublist ((List.sublist_append_left past [moment]).filterMap _)
  · rintro past step db hI ⟨hnodup, hall⟩
    have hstep := hall _ (List.mem_append_right past (List.mem_singleton_self _))
    cases step with
    | booked event => exact hbooked past db event hI hstep
    | swept env =>
      rw [sweepRunIds_concat_swept, List.nodup_append] at hnodup
      refine hswept past db env hI (fun hmem => ?_) hstep
      exact hnodup.2.2 _ hmem _ (List.mem_singleton_self _) rfl
  · rw [← map_fst_moments SweepStep.apply db history, List.filterMap_map] at hfresh
    exact hfresh

/-! ### Where windows end -/

variable {run : PayoutSweepRun} {event : LedgerOutboxEvent}

namespace PayoutDb

variable {db : PayoutDb}

lemma windowStart_le_iff {t : Date} :
    db.windowStart ≤ t ↔ ∀ run ∈ db.sweepRuns.rows, run.windowEnd ≤ t := by
  unfold windowStart findLatestSweepRun
  cases hmax : db.sweepRuns.rows.argmax PayoutSweepRun.windowEnd with
  | none =>
    rw [List.argmax_eq_none.1 hmax]
    exact ⟨nofun, fun _ => Nat.zero_le t⟩
  | some latest =>
    refine ⟨fun h run hrun => ?_, fun h => h latest (List.argmax_mem hmax)⟩
    exact (show run.windowEnd ≤ latest.windowEnd from List.le_of_mem_argmax hrun hmax).trans h

lemma windowStart_of_sweepRuns_eq {db' : PayoutDb} (h : db'.sweepRuns = db.sweepRuns) :
    db'.windowStart = db.windowStart := by
  unfold windowStart findLatestSweepRun
  rw [h]

lemma exists_windowEnd_eq (db : PayoutDb) (h : db.sweepRuns.rows ≠ []) :
    ∃ run ∈ db.sweepRuns.rows, run.windowEnd = db.windowStart := by
  unfold windowStart findLatestSweepRun
  cases hmax : db.sweepRuns.rows.argmax PayoutSweepRun.windowEnd with
  | none => exact absurd (List.argmax_eq_none.1 hmax) h
  | some latest => exact ⟨latest, List.argmax_mem hmax, rfl⟩

lemma mem_findCreatedBetween {start stop : Date} :
    event ∈ db.findCreatedBetween start stop ↔
      event ∈ db.ledgerOutbox ∧ start ≤ event.createdAt ∧ event.createdAt < stop := by
  unfold findCreatedBetween
  simp [List.mem_insertionSort, Window.during]

lemma rows_saveSweepRun (hnew : ∀ r ∈ db.sweepRuns.rows, r.id ≠ run.id) :
    (db.saveSweepRun run).sweepRuns.rows = db.sweepRuns.rows ++ [run] := by
  refine Table.rows_put_of_not_mem _ fun hmem => ?_
  obtain ⟨r, hr, hid⟩ := List.mem_map.1 hmem
  exact hnew r hr hid

lemma windowStart_saveSweepRun (hnew : ∀ r ∈ db.sweepRuns.rows, r.id ≠ run.id) :
    (db.saveSweepRun run).windowStart = max db.windowStart run.windowEnd := by
  refine eq_of_forall_ge_iff fun t => ?_
  rw [windowStart_le_iff, rows_saveSweepRun hnew, max_le_iff, windowStart_le_iff]
  simp [or_imp, forall_and]

end PayoutDb

variable {env : SweepEnv}

lemma SweepHistory.recorded {past : List (SweepStep × PayoutDb)} {db' : PayoutDb}
    (hids : ∀ r ∈ db.sweepRuns.rows, r.id ∈ sweepRunIds past)
    (hfresh : env.sweepRunId ∉ sweepRunIds past) (hid : run.id = env.sweepRunId)
    (hruns : db'.sweepRuns = db.sweepRuns) :
    (db'.saveSweepRun run).sweepRuns.rows = db.sweepRuns.rows ++ [run] ∧
      (db'.saveSweepRun run).windowStart = max db.windowStart run.windowEnd ∧
      ∀ r ∈ (db'.saveSweepRun run).sweepRuns.rows,
        r.id ∈ sweepRunIds (past ++ [(.swept env, db)]) := by
  have hnew : ∀ r ∈ db'.sweepRuns.rows, r.id ≠ run.id := by
    intro r hr heq
    rw [hid] at heq
    exact hfresh (heq ▸ hids r (hruns ▸ hr))
  have hrows : (db'.saveSweepRun run).sweepRuns.rows = db.sweepRuns.rows ++ [run] := by
    rw [rows_saveSweepRun hnew, hruns]
  have hstart := windowStart_of_sweepRuns_eq hruns
  refine ⟨hrows, hstart ▸ windowStart_saveSweepRun hnew, ?_⟩
  rw [hrows, sweepRunIds_concat_swept]
  intro r hr
  rcases List.mem_append.1 hr with hr | hr
  · exact List.mem_append_left _ (hids r hr)
  · rw [List.mem_singleton.1 hr, hid]
    exact List.mem_append_right _ (List.mem_singleton_self _)

/-! ### What is paid out -/

namespace Payout

/-- What a payout counts for a merchant and a currency. -/
def grossFor (merchantId : String) (currency : Currency) (payout : Payout) : Nat :=
  if payout.merchantId = merchantId ∧ payout.grossAmount.currency = currency then
    payout.grossAmount.amountMinorUnits
  else 0

end Payout

namespace PayoutDb

/-- The sum of the gross amounts of a merchant's payouts in a currency. -/
def paidOut (payouts : Table Payout.id) (merchantId : String) (currency : Currency) : Nat :=
  (payouts.rows.map (Payout.grossFor merchantId currency)).sum

lemma paidOut_foldl_le (saved : List Payout) (payouts : Table Payout.id) (merchantId : String)
    (currency : Currency) :
    paidOut (saved.foldl savePayout payouts) merchantId currency ≤
      paidOut payouts merchantId currency +
        (saved.map (Payout.grossFor merchantId currency)).sum := by
  induction saved generalizing payouts with
  | nil => simp
  | cons payout saved ih =>
    have hsave : paidOut (savePayout payouts payout) merchantId currency ≤
        paidOut payouts merchantId currency + payout.grossFor merchantId currency :=
      Table.sum_upsert_le _ _ _ fun _ => le_rfl
    have hrest := ih (savePayout payouts payout)
    rw [List.foldl_cons, List.map_cons, List.sum_cons]
    omega

end PayoutDb

lemma map_eq_of_forall₂ {α β γ : Type} {R : α → β → Prop} {f : α → γ} {g : β → γ}
    (hfg : ∀ a b, R a b → f a = g b) {as : List α} {bs : List β} (h : List.Forall₂ R as bs) :
    as.map f = bs.map g := by
  rw [← List.forall₂_eq_eq_eq, List.forall₂_map_left_iff, List.forall₂_map_right_iff]
  exact h.imp hfg

variable {saved : List Payout}

/-- What an execution saves for a merchant and a currency is at most the net of the window, if that
is positive, and nothing otherwise. -/
lemma gross_saved_le
    (hsaved : List.Forall₂ (PaysOut env) saved ((due env db).take saved.length))
    (merchantId : String) (currency : Currency) :
    (saved.map (Payout.grossFor merchantId currency)).sum ≤
      (db.net merchantId currency db.windowStart env.now).toNat := by
  let weight (b : AccountBalance) : Nat :=
    if b.merchantId = merchantId ∧ b.currency = currency then b.minorUnits.toNat else 0
  have hweight : saved.map (Payout.grossFor merchantId currency) =
      ((due env db).take saved.length).map weight := by
    refine map_eq_of_forall₂ (fun payout balance h => ?_) hsaved
    unfold Payout.grossFor
    rw [h.merchantId, h.grossAmount]
  have hsub : ((due env db).take saved.length).Sublist
      (PayoutService.netByAccount (db.findCreatedBetween db.windowStart env.now)).rows :=
    (List.take_sublist _ _).trans List.filter_sublist
  have hnd : (((due env db).take saved.length).map AccountBalance.key).Nodup :=
    (Table.keys_nodup _).sublist (hsub.map _)
  rw [hweight]
  refine Table.sum_le_of_nodup (k := AccountBalance.key ⟨merchantId, currency, 0⟩) hnd ?_ ?_
  · intro b hb hkey
    refine if_neg ?_
    rintro ⟨rfl, rfl⟩
    exact hkey rfl
  · intro b hb
    by_cases h : b.merchantId = merchantId ∧ b.currency = currency
    · obtain ⟨rfl, rfl⟩ := h
      rw [← PayoutService.minorUnits_netByAccount db (hsub.subset hb)]
      exact (if_pos ⟨rfl, rfl⟩).le
    · exact (if_neg h).le.trans (Nat.zero_le _)

/-! ### Overpayment -/

namespace PayoutDb

/-- After a run, a merchant has been paid out no more than what was owed at the end of one of the
runs so far. -/
def NotOverpaid (db : PayoutDb) (merchantId : String) (currency : Currency) : Prop :=
  db.sweepRuns.rows = [] ∨ ∃ run ∈ db.sweepRuns.rows,
    (paidOut db.payouts merchantId currency : Int) ≤ db.net merchantId currency 0 run.windowEnd

instance (db : PayoutDb) (merchantId : String) (currency : Currency) :
    Decidable (db.NotOverpaid merchantId currency) :=
  inferInstanceAs (Decidable (_ ∨ _))

end PayoutDb

namespace SweepStep

/-- No write of the step fails. -/
def completes : SweepStep → PayoutDb → Bool
  | booked _, _ => true
  | swept env, db => match ((runSweep env).run db).2 with
    | .ok (some _) => true
    | _ => false

/-- No event is booked into a window that has ended, and no debit is left over for later windows:
the net of the merchant's account is not negative in the first window, and not positive in one after
a window in which it was negative. -/
def noShortfall (merchantId : String) (currency : Currency) : SweepStep → PayoutDb → Bool
  | booked event, db => db.windowStart ≤ event.createdAt
  | swept env, db =>
    let net := db.net merchantId currency db.windowStart env.now
    if db.sweepRuns.rows = [] then 0 ≤ net
    else db.sweepRuns.rows.all (fun run =>
      0 ≤ db.net merchantId currency run.windowStart run.windowEnd) || net ≤ 0

end SweepStep

lemma PayoutDb.net_windowStart_add (db : PayoutDb) (merchantId : String) (currency : Currency)
    (now : Date) :
    db.net merchantId currency 0 db.windowStart + db.net merchantId currency db.windowStart now =
      db.net merchantId currency 0 (max db.windowStart now) := by
  rcases le_total db.windowStart now with hle | hle
  · rw [max_eq_right hle]
    exact Window.total_add (Nat.zero_le _) hle _
  · rw [max_eq_left hle]
    exact (congrArg _ (Window.total_of_le hle _)).trans (add_zero _)

/-- Either every window so far had a net that was not negative, and what was paid out is covered by
what was owed at the end of the last one; or one had a negative net, and what was paid out is
covered by what was owed at the end of some run. -/
def SweepHistory.Paid (merchantId : String) (currency : Currency) (db : PayoutDb) : Prop :=
  (∀ run ∈ db.sweepRuns.rows, 0 ≤ db.net merchantId currency run.windowStart run.windowEnd) ∧
      (paidOut db.payouts merchantId currency : Int) ≤
        db.net merchantId currency 0 db.windowStart ∨
    (∃ run ∈ db.sweepRuns.rows,
        db.net merchantId currency run.windowStart run.windowEnd < 0) ∧
      ∃ run ∈ db.sweepRuns.rows, (paidOut db.payouts merchantId currency : Int) ≤
        db.net merchantId currency 0 run.windowEnd

lemma SweepHistory.Paid.record {merchantId : String} {currency : Currency} {db' : PayoutDb}
    (h : Paid merchantId currency db) (hledger : db'.ledgerOutbox = db.ledgerOutbox)
    (hrows : db'.sweepRuns.rows = db.sweepRuns.rows ++ [run])
    (hwindow : db'.windowStart = max db.windowStart run.windowEnd)
    (hstart : run.windowStart = db.windowStart)
    (hpaid : paidOut db'.payouts merchantId currency ≤
      paidOut db.payouts merchantId currency +
        (db.net merchantId currency run.windowStart run.windowEnd).toNat)
    (hfirst : db.sweepRuns.rows = [] →
      0 ≤ db.net merchantId currency run.windowStart run.windowEnd)
    (hlater : ∀ r ∈ db.sweepRuns.rows,
      db.net merchantId currency r.windowStart r.windowEnd < 0 →
        db.net merchantId currency run.windowStart run.windowEnd ≤ 0) :
    Paid merchantId currency db' := by
  have hsum := db.net_windowStart_add merchantId currency run.windowEnd
  have hnet : ∀ start stop, db'.net merchantId currency start stop =
      db.net merchantId currency start stop := by
    intro start stop
    unfold net
    rw [hledger]
  rw [hstart] at hpaid hfirst hlater
  unfold Paid
  simp only [hrows, hwindow, hnet, List.mem_append, List.mem_singleton]
  generalize hn : db.net merchantId currency db.windowStart run.windowEnd = n at *
  have hrun : db.net merchantId currency run.windowStart run.windowEnd = n := hstart ▸ hn
  rcases h with ⟨hall, hcovered⟩ | ⟨⟨neg, hmem, hneg⟩, last, hlast, hcovered⟩
  · by_cases hpos : 0 ≤ n
    · left
      constructor
      · rintro r (hr | rfl)
        · exact hall r hr
        · exact hrun ▸ hpos
      · omega
    · -- the first run has no negative net, so there is one that ended where this one starts
      right
      obtain ⟨last, hlast, hend⟩ := db.exists_windowEnd_eq fun hempty => hpos (hfirst hempty)
      refine ⟨⟨run, .inr rfl, by omega⟩, last, .inl hlast, ?_⟩
      rw [hend]
      omega
  · right
    have hle := hlater neg hmem hneg
    exact ⟨⟨neg, .inl hmem, hneg⟩, last, .inl hlast, by omega⟩

/-- The invariant of such a history. -/
structure SweepHistory.Covers (merchantId : String) (currency : Currency)
    (past : List (SweepStep × PayoutDb)) (db : PayoutDb) : Prop where
  unlocked : db.sweepLock = none
  ids : ∀ run ∈ db.sweepRuns.rows, run.id ∈ sweepRunIds past
  paid : SweepHistory.Paid merchantId currency db

namespace SweepHistory.Covers

variable {merchantId : String} {currency : Currency} {past : List (SweepStep × PayoutDb)}
  {db : PayoutDb}

lemma booked (h : Covers merchantId currency past db) (hlate : db.windowStart ≤ event.createdAt) :
    Covers merchantId currency (past ++ [(.booked event, db)])
      ((SweepStep.booked event).apply db) := by
  -- no window that has ended sees the event
  have hnet : ∀ start stop, stop ≤ db.windowStart →
      ((SweepStep.booked event).apply db).net merchantId currency start stop =
        db.net merchantId currency start stop := by
    intro start stop hstop
    exact Window.total_append_of_le (hstop.trans hlate) _
  have hrun : ∀ run ∈ db.sweepRuns.rows, ∀ start,
      ((SweepStep.booked event).apply db).net merchantId currency start run.windowEnd =
        db.net merchantId currency start run.windowEnd :=
    fun run hrun start => hnet start _ (windowStart_le_iff.1 le_rfl run hrun)
  refine ⟨h.unlocked, ?_, ?_⟩
  · intro run hrun
    have hids := h.ids run hrun
    simpa [sweepRunIds, SweepStep.sweepRunId] using hids
  · rcases h.paid with ⟨hall, hpaid⟩ | ⟨⟨run, hmem, hneg⟩, last, hlast, hpaid⟩
    · refine .inl ⟨fun run hmem => ?_, ?_⟩
      · rw [hrun run hmem]
        exact hall run hmem
      · exact hpaid.trans_eq (hnet 0 _ le_rfl).symm
    · refine .inr ⟨⟨run, hmem, ?_⟩, last, hlast, ?_⟩
      · rw [hrun run hmem]
        exact hneg
      · exact hpaid.trans_eq (hrun last hlast 0).symm

lemma swept (h : Covers merchantId currency past db)
    (hfresh : env.sweepRunId ∉ sweepRunIds past) (hcompletes : (SweepStep.swept env).completes db)
    (hshortfall : (SweepStep.swept env).noShortfall merchantId currency db) :
    Covers merchantId currency (past ++ [(.swept env, db)]) ((SweepStep.swept env).apply db) := by
  obtain ⟨saved, hsaved, -, hswept⟩ := runSweep_run env h.unlocked
  dsimp only [SweepStep.completes] at hcompletes
  dsimp only [SweepStep.apply]
  generalize (runSweep env).run db = result at hswept hcompletes ⊢
  obtain ⟨e, -⟩ | ⟨run, hid, hstart, hend, -⟩ := hswept
  · exact absurd hcompletes Bool.false_ne_true
  have hpaid := (paidOut_foldl_le saved db.payouts merchantId currency).trans
    (Nat.add_le_add_left (gross_saved_le hsaved merchantId currency) _)
  -- the state without the run has the same ledger and the same runs
  obtain ⟨hrows, hwindow, hids⟩ := SweepHistory.recorded h.ids hfresh hid
    (show (saveEach saved db).sweepRuns = db.sweepRuns from rfl)
  refine ⟨h.unlocked, hids, ?_⟩
  dsimp only [SweepStep.noShortfall] at hshortfall
  rw [← hend] at hpaid hshortfall
  rw [← hstart] at hpaid hshortfall
  refine h.paid.record rfl hrows hwindow hstart hpaid ?_ ?_
  · intro hempty
    rw [if_pos hempty] at hshortfall
    exact of_decide_eq_true hshortfall
  · intro neg hmem hneg
    rw [if_neg (List.ne_nil_of_mem hmem), Bool.or_eq_true, List.all_eq_true] at hshortfall
    rcases hshortfall with hall | hle
    · exact absurd (of_decide_eq_true (hall neg hmem)) (not_le.2 hneg)
    · exact of_decide_eq_true hle

end SweepHistory.Covers

/-- **A sweep never overpays** in a history of completed sweeps in which no event is booked into a
window that has ended, the first window's net is not negative, and none is positive after a
negative one.  Every beginning of a history is a history, so this holds after each of its runs. -/
theorem sweeps_never_overpay (merchantId : String) (currency : Currency)
    (history : List SweepStep) (hfresh : (history.filterMap SweepStep.sweepRunId).Nodup)
    (hcompletes : ∀ moment ∈ moments SweepStep.apply .empty history,
      moment.1.completes moment.2)
    (hshortfall : ∀ moment ∈ moments SweepStep.apply .empty history,
      moment.1.noShortfall merchantId currency moment.2) :
    (after SweepStep.apply .empty history).NotOverpaid merchantId currency := by
  have hcovers : SweepHistory.Covers merchantId currency
      (moments SweepStep.apply .empty history)
      (after SweepStep.apply .empty history) := by
    refine SweepHistory.induct
      (fun step db => step.completes db ∧ step.noShortfall merchantId currency db)
      ⟨rfl, nofun, .inl ⟨nofun, le_rfl⟩⟩
      (fun past db event h hcond => h.booked (of_decide_eq_true hcond.2))
      (fun past db env h hfresh hcond => h.swept hfresh hcond.1 hcond.2) history hfresh
      fun moment hm => And.intro (hcompletes moment hm) (hshortfall moment hm)
  by_cases hempty : (after SweepStep.apply .empty history).sweepRuns.rows = []
  · exact .inl hempty
  · rcases hcovers.paid with ⟨-, hpaid⟩ | ⟨-, hpaid⟩
    · obtain ⟨last, hlast, hend⟩ := exists_windowEnd_eq _ hempty
      exact .inr ⟨last, hlast, hend ▸ hpaid⟩
    · exact .inr hpaid

/-! ### A platform and its connected merchants -/

namespace Sample

/-- The event is booked, if there is one. -/
def book : Except AppError LedgerOutboxEvent → List SweepStep
  | .ok event => [.booked event]
  | .error _ => []

/-- A charge of ten dollars with shares for connected merchants. -/
def splitCharge (id : String) (shares : List (String × Nat)) (createdAt : Date) : List SweepStep :=
  book (LedgerOutboxEvent.createChargeEntries id id "platform-1" tenDollars ⟨0, usd⟩ none none
    (some (shares.map fun share => ⟨share.1, ⟨share.2, usd⟩, none⟩)) createdAt)

/-- The refund of six of them, of which one connected merchant bears its part. -/
def splitRefund (id merchantId : String) (share : Nat) (createdAt : Date) : List SweepStep :=
  book (LedgerOutboxEvent.createRefundEntries Money.convertTo id id "platform-1" ⟨600, usd⟩ none
    (some [{ merchantId := merchantId, amount := ⟨share, usd⟩ }]) (some tenDollars) createdAt)

/-- A platform and its connected merchants. -/
def findMerchant (merchantId : String) : Option Merchant :=
  if merchantId = "platform-1" then some { merchantId := merchantId }
  else some {
    merchantId := merchantId
    accountType := .CONNECTED
    payoutReserveBps := 1000
    payoutReserveHoldDays := 90
    kycStatus := .VERIFIED }

/-- A sweep at the time that is given. -/
def sweepEnv (id : String) (now : Date) : SweepEnv where
  now := now
  lockedAt := now
  sweepRunId := id
  payoutId := fun n => s!"{id}-{n}"
  createdAt := fun _ => now
  ranAt := now
  findByMerchantIdOnMaster := findMerchant
  saveFails := fun _ => none
  saveSweepRunFails := none

/-- A charge in each window, and a refund in the second or in a window of its own. -/
def refundNetted : List SweepStep :=
  splitCharge "event-1" [("connected-1", 500)] 1 ++ [.swept (sweepEnv "run-1" 10)] ++
    splitRefund "event-2" "connected-1" 500 11 ++ splitCharge "event-3" [("connected-1", 400)] 12 ++
    [.swept (sweepEnv "run-2" 20)]

/-- A refund in a window of its own. -/
def refundAlone : List SweepStep :=
  splitCharge "event-1" [("connected-1", 500)] 1 ++ [.swept (sweepEnv "run-1" 10)] ++
    splitRefund "event-2" "connected-1" 500 11 ++ [.swept (sweepEnv "run-2" 20)] ++
    splitCharge "event-3" [("connected-1", 200)] 21 ++ [.swept (sweepEnv "run-3" 30)]

/-- The payouts of a history: merchant, gross and net amount. -/
def payoutsOf (history : List SweepStep) : List (String × Nat × Nat) :=
  (after SweepStep.apply .empty history).payouts.rows.map fun p =>
    (p.merchantId, p.grossAmount.amountMinorUnits, p.netAmount.amountMinorUnits)

end Sample

open Sample in
/-- A refund that is netted against a charge in the same window. -/
theorem sweeps_never_overpay_netted :
    payoutsOf refundNetted = [("connected-1", 500, 450), ("connected-1", 100, 90)] ∧
      (after SweepStep.apply .empty refundNetted).NotOverpaid "connected-1" usd :=
  ⟨by decide +kernel, sweeps_never_overpay "connected-1" usd refundNetted (by decide +kernel)
    (by decide +kernel) (by decide +kernel)⟩

open Sample in
/-- Five dollars are paid out, three are refunded in a window of their own, and two more are earned:
seven are paid out in all, though no more than five were ever owed. -/
theorem overpaid_after_refund :
    payoutsOf refundAlone = [("connected-1", 500, 450), ("connected-1", 200, 180)] ∧
      (after SweepStep.apply .empty refundAlone).sweepRuns.rows.map
          (fun run => (after SweepStep.apply .empty refundAlone).net "connected-1" usd 0
            run.windowEnd) = [500, 200, 400] ∧
      (∀ moment ∈ moments SweepStep.apply .empty refundAlone,
        moment.1.completes moment.2) ∧
      ¬ (after SweepStep.apply .empty refundAlone).NotOverpaid "connected-1" usd := by
  decide +kernel

/-! ### Entries and the payouts they reach -/

/-- An execution of the history made the payout, from events with the entry among them, and the
entry is one of the payout's account.

Source: `PayoutService.runSweepLocked` -/
def contributes (event : LedgerOutboxEvent) (entry : LedgerEntry) (payout : Payout) : Bool :=
  past.any fun moment => match moment with
    | (.booked _, _) => false
    | (.swept env, db) =>
      payout.sweepRunId = env.sweepRunId ∧
        event ∈ db.findCreatedBetween db.windowStart env.now ∧ entry ∈ event.entries ∧
        entry.accountType = .MERCHANT ∧ entry.accountId = payout.merchantId ∧
        entry.amount.currency = payout.grossAmount.currency

/-- The account that is paid. -/
def Payout.account (payout : Payout) : String × Currency :=
  (payout.merchantId, payout.grossAmount.currency)

lemma contributes_iff {past : List (SweepStep × PayoutDb)} {entry : LedgerEntry}
    {payout : Payout} :
    contributes past event entry payout ↔ ∃ env db, (SweepStep.swept env, db) ∈ past ∧
      payout.sweepRunId = env.sweepRunId ∧
      event ∈ db.findCreatedBetween db.windowStart env.now ∧ entry ∈ event.entries ∧
      entry.accountType = .MERCHANT ∧
      payout.account = (entry.accountId, entry.amount.currency) := by
  unfold contributes Payout.account
  rw [List.any_eq_true]
  constructor
  · rintro ⟨⟨event' | env, db⟩, hmem, h⟩
    · exact (nomatch h)
    · obtain ⟨hid, hevent, hentry, htype, hmerchant, hcurrency⟩ := of_decide_eq_true h
      exact ⟨env, db, hmem, hid, hevent, hentry, htype, by rw [hmerchant, hcurrency]⟩
  · rintro ⟨env, db, hmem, hid, hevent, hentry, htype, haccount⟩
    obtain ⟨hmerchant, hcurrency⟩ := Prod.mk.inj haccount
    exact ⟨_, hmem, decide_eq_true
      ⟨hid, hevent, hentry, htype, hmerchant.symm, hcurrency.symm⟩⟩

namespace SweepStep

/-- An execution that saves a payout has no write that fails. -/
def allOrNothing : SweepStep → PayoutDb → Bool
  | booked _, _ => true
  | swept env, db =>
    due env db = [] || (env.saveFails 0).isSome ||
      ((List.range (due env db).length).all (fun i => (env.saveFails i).isNone) &&
        env.saveSweepRunFails.isNone)

end SweepStep

/-- A row after the payouts of an execution are saved was there before, or is one of them. -/
lemma PayoutDb.mem_foldl_savePayout {payouts : Table Payout.id} {row : Payout}
    (hrow : row ∈ (saved.foldl savePayout payouts).rows) :
    row ∈ payouts.rows ∨ ∃ payout ∈ saved, row.id = payout.id ∧
      row.sweepRunId = payout.sweepRunId ∧ row.account = payout.account := by
  induction saved generalizing payouts with
  | nil => exact .inl hrow
  | cons payout saved ih =>
    rcases ih hrow with hrow | ⟨other, hmem, hother⟩
    · rcases Table.mem_upsert _ _ _ hrow with hrow | rfl | ⟨old, -, -, rfl⟩
      · exact .inl hrow
      · exact .inr ⟨row, List.mem_cons_self, rfl, rfl, rfl⟩
      · exact .inr ⟨payout, List.mem_cons_self, rfl, rfl, rfl⟩
    · exact .inr ⟨other, List.mem_cons_of_mem payout hmem, hother⟩

lemma nodup_account_saved
    (hsaved : List.Forall₂ (PaysOut env) saved ((due env db).take saved.length)) :
    (saved.map Payout.account).Nodup := by
  have haccounts : saved.map Payout.account =
      ((due env db).take saved.length).map fun b => (b.merchantId, b.currency) := by
    refine map_eq_of_forall₂ (fun payout balance h => ?_) hsaved
    unfold Payout.account
    rw [h.merchantId, h.grossAmount]
  have hnd : (((due env db).take saved.length).map AccountBalance.key).Nodup :=
    (Table.keys_nodup _).sublist (((List.take_sublist _ _).trans List.filter_sublist).map _)
  have hkey : ((due env db).take saved.length).map AccountBalance.key =
      (((due env db).take saved.length).map fun b => (b.merchantId, b.currency)).map
        fun account => AccountBalance.key ⟨account.1, account.2, 0⟩ := by
    rw [List.map_map]
    rfl
  rw [haccounts]
  rw [hkey] at hnd
  exact hnd.of_map _

/-- What an execution leaves if it saves a payout only when none of its writes fails: the state it
found, or all payouts and the run. -/
lemma SweepStep.apply_of_allOrNothing (hlock : db.sweepLock = none)
    (hall : (SweepStep.swept env).allOrNothing db) :
    (SweepStep.swept env).apply db = db ∨
      ∃ saved run, List.Forall₂ (PaysOut env) saved ((due env db).take saved.length) ∧
        run.id = env.sweepRunId ∧ run.windowEnd = env.now ∧
        (SweepStep.swept env).apply db = (saveEach saved db).saveSweepRun run := by
  obtain ⟨saved, hsaved, hnone, hswept⟩ := runSweep_run env hlock
  dsimp only [apply]
  generalize (runSweep env).run db = result at hswept ⊢
  obtain ⟨e, hreason⟩ | ⟨run, hid, -, hend, -⟩ := hswept
  · -- a write failed, so no payout was saved
    have hempty : saved = [] := by
      rw [← List.length_eq_zero_iff]
      by_contra hne
      have hfirst : env.saveFails 0 = none := hnone 0 (Nat.pos_of_ne_zero hne)
      simp only [allOrNothing, hfirst, Option.isSome_none, Bool.or_false, Bool.or_eq_true,
        decide_eq_true_iff, Bool.and_eq_true, List.all_eq_true, List.mem_range,
        Option.isNone_iff_eq_none] at hall
      rcases hall with hdue | ⟨hsaves, hrun⟩
      · rw [hdue, List.length_nil] at hreason
        omega
      · rcases hreason with ⟨hlt, hfails⟩ | ⟨-, hfails⟩
        · exact (nomatch hfails.symm.trans (hsaves _ hlt))
        · exact (nomatch hfails.symm.trans hrun)
    subst hempty
    exact .inl rfl
  · exact .inr ⟨saved, run, hsaved, hid, hend, rfl⟩

/-- The invariant of a history of executions that save all their payouts or none: payouts are of
windows that have ended, and no two are of the same entry. -/
structure SweepHistory.SweptOnce (past : List (SweepStep × PayoutDb)) (db : PayoutDb) : Prop where
  unlocked : db.sweepLock = none
  runIds : ∀ run ∈ db.sweepRuns.rows, run.id ∈ sweepRunIds past
  payoutIds : ∀ p ∈ db.payouts.rows, p.sweepRunId ∈ sweepRunIds past
  ended : ∀ p ∈ db.payouts.rows, ∀ env db₀, (SweepStep.swept env, db₀) ∈ past →
    p.sweepRunId = env.sweepRunId → env.now ≤ db.windowStart
  once : ∀ event entry, ∀ p ∈ db.payouts.rows, ∀ q ∈ db.payouts.rows,
    contributes past event entry p → contributes past event entry q → p = q

namespace SweepHistory.SweptOnce

variable {past : List (SweepStep × PayoutDb)} {db : PayoutDb}

lemma start : SweptOnce [] .empty where
  unlocked := rfl
  runIds := fun _ h => absurd h List.not_mem_nil
  payoutIds := fun _ h => absurd h List.not_mem_nil
  ended := fun _ h => absurd h List.not_mem_nil
  once := fun _ _ _ h => absurd h List.not_mem_nil

variable {db₀ : PayoutDb}

lemma sweepRunId_mem (h : (SweepStep.swept env, db₀) ∈ past) :
    env.sweepRunId ∈ sweepRunIds past :=
  List.mem_filterMap.2 ⟨_, h, rfl⟩

variable {step : SweepStep}

lemma mem_concat_swept (h : (SweepStep.swept env, db₀) ∈ past ++ [(step, db)]) :
    (SweepStep.swept env, db₀) ∈ past ∨ step = .swept env ∧ db₀ = db := by
  rcases List.mem_append.1 h with h | h
  · exact .inl h
  · obtain ⟨hstep, hdb⟩ := Prod.mk.inj (List.mem_singleton.1 h)
    exact .inr ⟨hstep.symm, hdb⟩

lemma contributes_of_mem {entry : LedgerEntry} {p : Payout}
    (hp : ∀ env, step = .swept env → p.sweepRunId ≠ env.sweepRunId)
    (h : contributes (past ++ [(step, db)]) event entry p) : contributes past event entry p := by
  obtain ⟨env, db₀, hmem, hid, hrest⟩ := contributes_iff.1 h
  rcases mem_concat_swept hmem with hmem | ⟨hstep, -⟩
  · exact contributes_iff.2 ⟨env, db₀, hmem, hid, hrest⟩
  · exact absurd hid (hp env hstep)

lemma unchanged (h : SweptOnce past db) {db' : PayoutDb}
    (hfresh : ∀ env, step = .swept env → env.sweepRunId ∉ sweepRunIds past)
    (hpayouts : db'.payouts = db.payouts) (hruns : db'.sweepRuns = db.sweepRuns)
    (hlock : db'.sweepLock = none) : SweptOnce (past ++ [(step, db)]) db' := by
  have hids : ∀ id ∈ sweepRunIds past, id ∈ sweepRunIds (past ++ [(step, db)]) :=
    fun id hid => ((List.sublist_append_left past _).filterMap _).subset hid
  have hne : ∀ p ∈ db.payouts.rows, ∀ env, step = .swept env → p.sweepRunId ≠ env.sweepRunId := by
    intro p hp env hstep hid
    exact hfresh env hstep (hid ▸ h.payoutIds p hp)
  refine ⟨hlock, ?_, ?_, ?_, ?_⟩
  · rw [hruns]
    exact fun run hrun => hids _ (h.runIds run hrun)
  · rw [hpayouts]
    exact fun p hp => hids _ (h.payoutIds p hp)
  · rw [hpayouts]
    intro p hp env db₀ hmem hid
    rw [windowStart_of_sweepRuns_eq hruns]
    rcases mem_concat_swept hmem with hmem | ⟨hstep, -⟩
    · exact h.ended p hp env db₀ hmem hid
    · exact absurd hid (hne p hp env hstep)
  · rw [hpayouts]
    intro event entry p hp q hq hcp hcq
    exact h.once event entry p hp q hq (contributes_of_mem (hne p hp) hcp)
      (contributes_of_mem (hne q hq) hcq)

lemma completed (h : SweptOnce past db) (hfresh : env.sweepRunId ∉ sweepRunIds past)
    (hsaved : List.Forall₂ (PaysOut env) saved ((due env db).take saved.length))
    (hid : run.id = env.sweepRunId) (hend : run.windowEnd = env.now) :
    SweptOnce (past ++ [(.swept env, db)]) ((saveEach saved db).saveSweepRun run) := by
  obtain ⟨-, hwindow, hids⟩ := SweepHistory.recorded h.runIds hfresh hid
    (show (saveEach saved db).sweepRuns = db.sweepRuns from rfl)
  rw [hend] at hwindow
  have hsavedId : ∀ p ∈ saved, p.sweepRunId = env.sweepRunId := by
    intro p hp
    have hmap : saved.map Payout.sweepRunId =
        ((due env db).take saved.length).map fun _ => env.sweepRunId :=
      map_eq_of_forall₂ (fun _ _ h => h.sweepRunId) hsaved
    obtain ⟨_, -, heq⟩ := List.mem_map.1 (hmap ▸ List.mem_map_of_mem hp)
    exact heq.symm
  have hrow : ∀ r ∈ ((saveEach saved db).saveSweepRun run).payouts.rows,
      r ∈ db.payouts.rows ∧ r.sweepRunId ≠ env.sweepRunId ∨
        r.sweepRunId = env.sweepRunId ∧
          ∃ p ∈ saved, r.id = p.id ∧ r.account = p.account := by
    intro r hr
    rcases mem_foldl_savePayout hr with hr | ⟨p, hp, hrid, hrun, haccount⟩
    · exact .inl ⟨hr, fun heq => hfresh (heq ▸ h.payoutIds r hr)⟩
    · exact .inr ⟨hrun.trans (hsavedId p hp), p, hp, hrid, haccount⟩
  refine ⟨h.unlocked, hids, ?_, ?_, ?_⟩
  · rw [sweepRunIds_concat_swept]
    intro r hr
    rcases hrow r hr with ⟨hr, -⟩ | ⟨hrun, -⟩
    · exact List.mem_append_left _ (h.payoutIds r hr)
    · rw [hrun]
      exact List.mem_append_right _ (List.mem_singleton_self _)
  · rw [hwindow]
    intro r hr env' db₀ hmem hrun
    rcases mem_concat_swept hmem with hmem | ⟨hstep, -⟩
    · rcases hrow r hr with ⟨hr, -⟩ | ⟨hrun', -⟩
      · exact le_max_of_le_left (h.ended r hr env' db₀ hmem hrun)
      · exact absurd (sweepRunId_mem hmem) (hrun ▸ hrun' ▸ hfresh)
    · obtain rfl := SweepStep.swept.inj hstep
      exact le_max_right _ _
  · intro event entry p hp q hq hcp hcq
    -- an entry of a window that has ended reaches the payouts of before, a later one the new ones
    have hold : ∀ r ∈ db.payouts.rows, r.sweepRunId ≠ env.sweepRunId →
        contributes (past ++ [(.swept env, db)]) event entry r →
        contributes past event entry r ∧ event.createdAt < db.windowStart := by
      intro r hr hne hcr
      have hcr' := contributes_of_mem (fun env' hstep => SweepStep.swept.inj hstep ▸ hne) hcr
      obtain ⟨env₀, db₀, hmem, hrun, hevent, -⟩ := contributes_iff.1 hcr'
      have hlt := (mem_findCreatedBetween.1 hevent).2.2
      exact ⟨hcr', hlt.trans_le (h.ended r hr env₀ db₀ hmem hrun)⟩
    have hlate : ∀ r : Payout, r.sweepRunId = env.sweepRunId →
        contributes (past ++ [(.swept env, db)]) event entry r →
        db.windowStart ≤ event.createdAt ∧
          r.account = (entry.accountId, entry.amount.currency) := by
      intro r hrun hcr
      obtain ⟨env₀, db₀, hmem, hrun₀, hevent, -, -, haccount⟩ := contributes_iff.1 hcr
      rcases mem_concat_swept hmem with hmem | ⟨-, rfl⟩
      · exact absurd (sweepRunId_mem hmem) (hrun₀ ▸ hrun ▸ hfresh)
      · exact ⟨(mem_findCreatedBetween.1 hevent).2.1, haccount⟩
    rcases hrow p hp with ⟨hp', hpne⟩ | ⟨hprun, p₀, hp₀, hpid, hpaccount⟩
    · rcases hrow q hq with ⟨hq', hqne⟩ | ⟨hqrun, -⟩
      · exact h.once event entry p hp' q hq' (hold p hp' hpne hcp).1 (hold q hq' hqne hcq).1
      · exact absurd (hold p hp' hpne hcp).2 (not_lt.2 (hlate q hqrun hcq).1)
    · rcases hrow q hq with ⟨hq', hqne⟩ | ⟨hqrun, q₀, hq₀, hqid, hqaccount⟩
      · exact absurd (hold q hq' hqne hcq).2 (not_lt.2 (hlate p hprun hcp).1)
      · have haccount : p₀.account = q₀.account := by
          rw [← hpaccount, ← hqaccount, (hlate p hprun hcp).2, (hlate q hqrun hcq).2]
        have heq : p₀ = q₀ :=
          List.inj_on_of_nodup_map (nodup_account_saved hsaved) hp₀ hq₀ haccount
        refine List.inj_on_of_nodup_map (Table.keys_nodup _) hp hq ?_
        rw [hpid, hqid, heq]

end SweepHistory.SweptOnce

/-- **Every entry is swept once**: in a history of executions in which an execution that saves a
payout has no write that fails, an entry reaches at most one payout. -/
theorem entries_swept_once (history : List SweepStep)
    (hfresh : (history.filterMap SweepStep.sweepRunId).Nodup)
    (hall : ∀ moment ∈ moments SweepStep.apply .empty history,
      moment.1.allOrNothing moment.2) (event : LedgerOutboxEvent) (entry : LedgerEntry) :
    ∀ p ∈ (after SweepStep.apply .empty history).payouts.rows,
    ∀ q ∈ (after SweepStep.apply .empty history).payouts.rows,
      contributes (moments SweepStep.apply .empty history) event entry p →
      contributes (moments SweepStep.apply .empty history) event entry q → p = q := by
  have honce : SweepHistory.SweptOnce (moments SweepStep.apply .empty history)
      (after SweepStep.apply .empty history) := by
    refine SweepHistory.induct (fun step db => step.allOrNothing db)
      SweepHistory.SweptOnce.start ?_ ?_ history hfresh hall
    · intro past db event h _
      exact h.unchanged (fun env hstep => (nomatch hstep)) rfl rfl h.unlocked
    · intro past db env h hfresh hall
      rcases SweepStep.apply_of_allOrNothing h.unlocked hall with
        happly | ⟨saved, run, hsaved, hid, hend, happly⟩ <;> rw [happly]
      · exact h.unchanged (fun env' hstep => SweepStep.swept.inj hstep ▸ hfresh) rfl rfl h.unlocked
      · exact h.completed hfresh hsaved hid hend
  exact honce.once event entry

namespace Sample

/-- A charge shared by two connected merchants, a sweep whose `n`-th save fails, and another. -/
def interruptedAt (n : Nat) : List SweepStep :=
  splitCharge "event-1" [("connected-1", 300), ("connected-2", 200)] 1 ++
    [.swept { sweepEnv "run-1" 10 with
        saveFails := fun i => if i = n then some (.plain "Connection terminated") else none },
      .swept (sweepEnv "run-2" 20)]

/-- The account of each entry of the ledger, with the payouts it reaches. -/
def reached (history : List SweepStep) : List (String × List String) :=
  let db := after SweepStep.apply .empty history
  db.ledgerOutbox.flatMap fun event => event.entries.map fun entry =>
    (entry.accountId, (db.payouts.rows.filter
      (contributes (moments SweepStep.apply .empty history) event entry)).map Payout.id)

end Sample

open Sample in
/-- The first save of a sweep fails, and the next sweep pays both merchants. -/
theorem entries_swept_once_retried :
    reached (interruptedAt 0) =
        [("PSP_SETTLEMENT_ACCOUNT", []), ("PLATFORM_FEE_ACCOUNT", []),
          ("connected-1", ["run-2-0"]), ("connected-2", ["run-2-1"]), ("platform-1", [])] ∧
      ∀ event entry,
        ∀ p ∈ (after SweepStep.apply .empty (interruptedAt 0)).payouts.rows,
        ∀ q ∈ (after SweepStep.apply .empty (interruptedAt 0)).payouts.rows,
          contributes (moments SweepStep.apply .empty (interruptedAt 0)) event entry p →
          contributes (moments SweepStep.apply .empty (interruptedAt 0)) event entry q →
            p = q :=
  ⟨by decide +kernel, entries_swept_once (interruptedAt 0) (by decide +kernel) (by decide +kernel)⟩

open Sample in
/-- The second save of a sweep fails: the first merchant's payout stays, the window is swept again,
and the same entry is paid out twice. -/
theorem entry_swept_twice :
    payoutsOf (interruptedAt 1) =
        [("connected-1", 300, 270), ("connected-1", 300, 270), ("connected-2", 200, 180)] ∧
      reached (interruptedAt 1) =
        [("PSP_SETTLEMENT_ACCOUNT", []), ("PLATFORM_FEE_ACCOUNT", []),
          ("connected-1", ["run-1-0", "run-2-0"]), ("connected-2", ["run-2-1"]),
          ("platform-1", [])] ∧
      ¬ ∀ event ∈ (after SweepStep.apply .empty (interruptedAt 1)).ledgerOutbox,
        ∀ entry ∈ event.entries,
        ∀ p ∈ (after SweepStep.apply .empty (interruptedAt 1)).payouts.rows,
        ∀ q ∈ (after SweepStep.apply .empty (interruptedAt 1)).payouts.rows,
          contributes (moments SweepStep.apply .empty (interruptedAt 1)) event entry p →
          contributes (moments SweepStep.apply .empty (interruptedAt 1)) event entry q →
            p = q := by
  decide +kernel

end OmniSwitch
