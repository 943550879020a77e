import OmniSwitch.Lib.Rely
import OmniSwitch.Services.Payout

/-!
# One live bank transfer per payout

A call that initiates a transfer reads the payout, asks the bank, and only then writes what the
bank answered; the confirmation of a transfer reads the payout it belongs to and writes the
outcome.  Nothing holds the payout's row in between, and the bank sees a new idempotency key each
time.

Main results:

* `transfers_single`: a payout has at most one live transfer, if its calls do not overlap;
* `transferred_twice`: calls that do.
-/

namespace OmniSwitch

open Lib Prog PayoutService

/-! ### Operations -/

/-- An initiation by an operator, the scheduled one of all eligible payouts, or the bank's report on
a transfer, followed by the webhook that delivers it.

Source: `PayoutService.initiateTransfer`, `PayoutService.initiateEligibleTransfers`,
`PayoutService.confirmTransfer` -/
inductive TransferOperation where
  | initiate (env : TransferEnv) (payoutId : String) (rail : Option PayoutRail)
  | initiateEligible (env : String → TransferEnv)
  | confirm (transferId : String) (outcome : BankTransferOutcome) (reason : Option String)
      (now : Date)

namespace TransferOperation

/-- The program of an operation. -/
def program : TransferOperation → Payouts Unit
  | initiate env payoutId rail => initiateTransfer env payoutId rail >>= fun _ => pure ()
  | initiateEligible env => initiateEligibleTransfers env >>= fun _ => pure ()
  | confirm transferId outcome reason now =>
    .act (.bankReports transferId outcome) fun _ => confirmTransfer transferId outcome reason now

end TransferOperation

/-- The operations, none of which has started. -/
def transferPool (db : PayoutDb) (ops : List TransferOperation) :
    Pool PayoutDb PayoutCmd AppError :=
  ⟨db, (ops.map TransferOperation.program).map Proc.start⟩

/-- How many transfers of the payout's net amount the bank has accepted and not reported failed. -/
def PayoutDb.liveTransfers (db : PayoutDb) (id : String) : Nat :=
  db.bankTransfers.rows.countP fun t => t.payoutId = id && t.isLive

/-- The transfer that the bank has made. -/
def BankTransferResponse.transferId? : BankTransferResponse → Option String
  | sent transferId => some transferId
  | pending transferId => some transferId
  | failed _ => none

namespace Transfers

/-- The bank gives a new id to each transfer, and reports failed only what it accepted as pending.
-/
def Reliable : PayoutCmd → PayoutDb → Bool
  | .bank _ _ answer, db => answer.transferId?.all fun transferId =>
    (db.bankTransfers.get transferId).isNone &&
      db.payouts.rows.all (·.transfer.transferId ≠ some transferId)
  | .bankReports transferId .FAILED, db =>
    (db.bankTransfers.get transferId).any (·.status ≠ .SENT)
  | _, _ => true

/-- What the calls compare of a payout. -/
def columns (db : PayoutDb) (id : String) : Option (PayoutTransferStatus × Option String) :=
  (db.payouts.get id).map fun p => (p.transfer.status, p.transfer.transferId)

/-- The payout is as it was read. -/
def asRead (id : String) (seen : Option PayoutDb) (db : PayoutDb) : Bool :=
  seen.any fun s => columns s id = columns db id

/-- Every live transfer of the payout is the one its row records. -/
def liveOnRecord (id : String) (db : PayoutDb) : Bool :=
  db.bankTransfers.rows.all fun t => t.payoutId ≠ id || !t.isLive ||
    (db.payouts.get id).any (·.transfer.transferId = some t.transferId)

/-- A request to the bank and the record of a failure find the payout's row as their call read it,
and a request finds every live transfer of the payout on record. -/
def Undisturbed (id : String) : Option PayoutDb → PayoutCmd → PayoutDb → Bool
  | seen, .bank payoutId _ _, db => payoutId ≠ id || asRead id seen db && liveOnRecord id db
  | seen, .markTransferFailed payoutId _, db => payoutId ≠ id || asRead id seen db
  | _, _, _ => true

/-- The conditions on a command. -/
def Cond (id : String) (seen : Option PayoutDb) (c : PayoutCmd) (db : PayoutDb) : Prop :=
  Reliable c db ∧ Undisturbed id seen c db

/-! ### The invariant -/

/-- At most one transfer of the payout is live; and while the one on record is, the row says so. -/
structure Single (id : String) (db : PayoutDb) : Prop where
  single : db.liveTransfers id ≤ 1
  underway : ∀ p, db.payouts.get id = some p → ∀ t ∈ db.bankTransfers.rows, t.isLive →
    p.transfer.transferId = some t.transferId → p.transfer.status.isUnderway

/-- The transfer has failed. -/
def Failed (transferId : String) (db : PayoutDb) : Prop :=
  ∃ t, db.bankTransfers.get transferId = some t ∧ t.isLive = false

/-- Failed transfers stay so. -/
def StaysFailed (db db' : PayoutDb) : Prop := ∀ transferId, Failed transferId db →
  Failed transferId db'

lemma StaysFailed.refl (db : PayoutDb) : StaysFailed db db := fun _ h => h

variable {id : String} {db : PayoutDb}

variable {transferId : String} {t : BankTransfer}

lemma not_live_of_failed (h : Failed transferId db) (ht : t ∈ db.bankTransfers.rows)
    (hid : t.transferId = transferId) : t.isLive = false := by
  obtain ⟨t', hget, hfailed⟩ := h
  have hself := Table.get_of_mem ht
  rw [hid, hget] at hself
  exact Option.some.inj hself ▸ hfailed

variable {payoutId : String}

/-- An update of a row keeps the invariant if it records no live transfer as one that is not
underway. -/
lemma Single.update (h : Single id db) {condition : Payout → Bool} {set : Payout → Payout}
    (hset : ∀ p, (set p).id = p.id)
    (hkeeps : payoutId = id → ∀ p, db.payouts.get id = some p → condition p →
      ∀ t ∈ db.bankTransfers.rows, t.isLive →
        (set p).transfer.transferId = some t.transferId → (set p).transfer.status.isUnderway) :
    Single id (db.update payoutId condition set hset) := by
  refine ⟨h.single, ?_⟩
  intro p hp t ht hlive hrecord
  unfold PayoutDb.update at hp
  by_cases hid : id = payoutId
  · subst hid
    rw [Table.get_modify_self, Option.map_eq_some_iff] at hp
    obtain ⟨old, hold, rfl⟩ := hp
    by_cases hcond : condition old
    · rw [if_pos hcond] at hrecord ⊢
      exact hkeeps rfl old hold hcond t ht hlive hrecord
    · rw [if_neg hcond] at hrecord ⊢
      exact h.underway old hold t ht hlive hrecord
  · rw [Table.get_modify_of_ne _ _ hid] at hp
    exact h.underway p hp t ht hlive hrecord

/-- The bank accepts a transfer under a new id: of another payout, or of one with no live transfer.
-/
lemma Single.put (h : Single id db) (hnew : db.bankTransfers.get t.transferId = none)
    (hrows : ∀ p ∈ db.payouts.rows, p.transfer.transferId ≠ some t.transferId)
    (hnone : t.payoutId = id → db.liveTransfers id = 0) :
    Single id { db with bankTransfers := db.bankTransfers.put t } := by
  have hput := Table.rows_put_of_not_mem db.bankTransfers (Table.get_eq_none_iff.1 hnew)
  constructor
  · unfold PayoutDb.liveTransfers at hnone ⊢
    rw [hput, List.countP_append]
    by_cases hid : t.payoutId = id
    · rw [hnone hid, Nat.zero_add]
      exact List.countP_le_length
    · have hcount : [t].countP (fun t => decide (t.payoutId = id) && t.isLive) = 0 := by
        simp [hid]
      rw [hcount]
      exact h.single
  · intro p hp t' ht' hlive hrecord
    rw [hput] at ht'
    rcases List.mem_append.1 ht' with ht' | ht'
    · exact h.underway p hp t' ht' hlive hrecord
    · rw [List.mem_singleton.1 ht'] at hrecord
      exact absurd hrecord (hrows p (List.mem_of_find?_eq_some hp))

lemma staysFailed_put (hnew : db.bankTransfers.get t.transferId = none) :
    StaysFailed db { db with bankTransfers := db.bankTransfers.put t } := by
  rintro transferId ⟨t', hget, hfailed⟩
  have hne : transferId ≠ t.transferId := by
    rintro rfl
    exact (nomatch hnew.symm.trans hget)
  exact ⟨t', (Table.get_put_of_ne _ hne).trans hget, hfailed⟩

variable {request : BankTransferRequest} {answer : BankTransferResponse}

lemma Single.accept (h : Single id db) (hreliable : Reliable (.bank payoutId request answer) db)
    (hnone : payoutId = id → db.liveTransfers id = 0) :
    Single id (db.accept payoutId answer) ∧ StaysFailed db (db.accept payoutId answer) := by
  have hput : ∀ transferId status, answer.transferId? = some transferId →
      Single id { db with bankTransfers := db.bankTransfers.put ⟨transferId, payoutId, status⟩ } ∧
        StaysFailed db
          { db with bankTransfers := db.bankTransfers.put ⟨transferId, payoutId, status⟩ } := by
    intro transferId status hanswer
    simp only [Reliable, hanswer, Option.all_some, Bool.and_eq_true, Option.isNone_iff_eq_none,
      List.all_eq_true, decide_eq_true_iff] at hreliable
    exact ⟨h.put hreliable.1 hreliable.2 hnone, staysFailed_put hreliable.1⟩
  cases answer with
  | sent transferId => exact hput transferId .SENT rfl
  | pending transferId => exact hput transferId .PENDING rfl
  | failed errorMessage => exact ⟨h, StaysFailed.refl db⟩

lemma isLive_of_reportFailed (h : t.reportFailed.isLive) : t.isLive := by
  unfold BankTransfer.reportFailed at h
  split_ifs at h
  · exact absurd h Bool.false_ne_true
  · exact h

lemma payoutId_reportFailed (t : BankTransfer) : t.reportFailed.payoutId = t.payoutId := by
  unfold BankTransfer.reportFailed
  split_ifs <;> rfl

lemma Single.report (h : Single id db) (transferId : String) (outcome : BankTransferOutcome) :
    Single id (db.report transferId outcome) ∧ StaysFailed db (db.report transferId outcome) := by
  cases outcome with
  | SETTLED => exact ⟨h, StaysFailed.refl db⟩
  | FAILED =>
    refine ⟨⟨?_, ?_⟩, ?_⟩
    · refine le_trans ?_ h.single
      unfold PayoutDb.liveTransfers PayoutDb.report Table.modify
      rw [List.countP_map]
      refine List.countP_mono_left fun t _ hlive => ?_
      simp only [Function.comp_apply] at hlive
      split_ifs at hlive with hid
      · rw [Bool.and_eq_true, payoutId_reportFailed] at hlive
        exact Bool.and_eq_true_iff.2 ⟨hlive.1, isLive_of_reportFailed hlive.2⟩
      · exact hlive
    · intro p hp t ht hlive hrecord
      obtain ⟨old, hold, rfl⟩ := List.mem_map.1 ht
      split_ifs at hlive hrecord with hid
      · rw [BankTransfer.transferId_reportFailed] at hrecord
        exact h.underway p hp old hold (isLive_of_reportFailed hlive) hrecord
      · exact h.underway p hp old hold hlive hrecord
    · rintro other ⟨t, hget, hfailed⟩
      by_cases hid : other = transferId
      · subst hid
        refine ⟨t.reportFailed, ?_, ?_⟩
        · unfold PayoutDb.report
          rw [Table.get_modify_self, hget]
          rfl
        · exact Bool.eq_false_iff.2 fun hlive =>
            Bool.eq_false_iff.1 hfailed (isLive_of_reportFailed hlive)
      · refine ⟨t, ?_, hfailed⟩
        unfold PayoutDb.report
        rw [Table.get_modify_of_ne _ _ hid]
        exact hget

lemma failed_report (hreliable : Reliable (.bankReports transferId .FAILED) db) :
    Failed transferId (db.report transferId .FAILED) := by
  cases hget : db.bankTransfers.get transferId with
  | none =>
    simp only [Reliable, hget] at hreliable
    cases hreliable
  | some t =>
    simp only [Reliable, hget, Option.any_some, decide_eq_true_iff] at hreliable
    refine ⟨t.reportFailed, ?_, ?_⟩
    · unfold PayoutDb.report
      rw [Table.get_modify_self, hget]
      rfl
    · unfold BankTransfer.reportFailed BankTransfer.isLive
      split_ifs with hpending
      · rfl
      · cases hstatus : t.status with
        | SENT => exact absurd hstatus hreliable
        | PENDING => exact absurd hstatus hpending
        | FAILED => rfl

/-! ### The programs -/

/-- The program keeps the invariant in every interleaving that meets the conditions. -/
abbrev Keeps {α : Type} (id : String) (floor : PayoutDb) (seen : Option PayoutDb)
    (p : Payouts α) : Prop :=
  Prog.Safe (Single id) StaysFailed (Cond id) (fun _ _ _ => True) floor seen p

lemma columns_eq_of_asRead {s : PayoutDb} {p₀ p : Payout} (h : asRead id (some s) db)
    (hp₀ : s.payouts.get id = some p₀) (hp : db.payouts.get id = some p) :
    p.transfer.status = p₀.transfer.status ∧ p.transfer.transferId = p₀.transfer.transferId := by
  have hcolumns : columns s id = columns db id := of_decide_eq_true h
  unfold columns at hcolumns
  rw [hp₀, hp, Option.map_some, Option.map_some, Option.some_inj, Prod.mk.injEq] at hcolumns
  exact ⟨hcolumns.1.symm, hcolumns.2.symm⟩

variable {payout : Payout}

lemma liveTransfers_eq_zero (h : Single id db) {s : PayoutDb}
    (hread : s.payouts.get payout.id = some payout) (hstatus : ¬ payout.transfer.status.isUnderway)
    (hundisturbed : Undisturbed id (some s) (.bank payout.id request answer) db)
    (hid : payout.id = id) : db.liveTransfers id = 0 := by
  simp only [Undisturbed, hid, ne_eq, not_true_eq_false, decide_false, Bool.false_or,
    Bool.and_eq_true] at hundisturbed
  obtain ⟨hasRead, hrecord⟩ := hundisturbed
  refine List.countP_eq_zero.2 fun t ht hlive => ?_
  obtain ⟨hpayout, hlive⟩ := Bool.and_eq_true_iff.1 hlive
  have hrecord := List.all_eq_true.1 hrecord t ht
  simp only [of_decide_eq_true hpayout, hlive, ne_eq, not_true_eq_false, decide_false,
    Bool.not_true, Bool.false_or] at hrecord
  cases hp : db.payouts.get id with
  | none =>
    rw [hp] at hrecord
    cases hrecord
  | some p =>
    rw [hp, Option.any_some, decide_eq_true_iff] at hrecord
    have hcolumns := columns_eq_of_asRead hasRead (hid ▸ hread) hp
    exact hstatus (hcolumns.1 ▸ h.underway p hp t ht hlive hrecord)

lemma Single.markTransferFailed (h : Single id db) (payoutId error : String)
    (hrecord : payoutId = id → ∀ p, db.payouts.get id = some p →
      ∀ t ∈ db.bankTransfers.rows, p.transfer.transferId = some t.transferId → ¬ t.isLive) :
    Single id ((PayoutCmd.markTransferFailed payoutId error).apply db) := by
  refine h.update (by intro p; rfl) ?_
  intro hid p hp _ t ht hlive htransfer
  exact absurd hlive (hrecord hid p hp t ht htransfer)

lemma not_underway_of_checkTransferable {u : Unit} (h : checkTransferable payout = .ok u) :
    ¬ payout.transfer.status.isUnderway := by
  unfold checkTransferable at h
  split_ifs at h with _ _ hinitiated hpending
  simp [PayoutTransferStatus.isUnderway, hinitiated, hpending]

section programs

variable {floor : PayoutDb} {seen : Option PayoutDb}

lemma keeps_recordAnswer (env : TransferEnv) {s : PayoutDb}
    (hread : s.payouts.get payout.id = some payout)
    (hstatus : ¬ payout.transfer.status.isUnderway) (rail : PayoutRail) (fee : Option Money)
    (answer : BankTransferResponse) :
    Keeps id floor (some s) (recordAnswer env payout rail fee answer) := by
  cases answer with
  | failed errorMessage =>
    intro db h _ hcond
    refine ⟨h.markTransferFailed _ _ ?_, StaysFailed.refl _, trivial⟩
    intro hid p hp t ht hrecord hlive
    have hasRead : asRead id (some s) db := by
      simpa [Undisturbed, hid] using hcond.2
    have hcolumns := columns_eq_of_asRead hasRead (hid ▸ hread) hp
    exact hstatus (hcolumns.1 ▸ h.underway p hp t ht hlive hrecord)
  | pending transferId =>
    intro db h _ _
    refine ⟨h.update (by intro p; rfl) (by intros; rfl), StaysFailed.refl _, ?_⟩
    dsimp only [Prog.bind]
    split_ifs
    · trivial
    · exact (holds_liftM _).2 fun _ _ => trivial
  | sent transferId =>
    intro db h _ _
    refine ⟨h.update (by intro p; rfl) (by intros; rfl), StaysFailed.refl _, ?_⟩
    dsimp only [Prog.bind]
    split_ifs
    · trivial
    · exact (holds_liftM _).2 fun _ _ => trivial

/-- An initiation keeps it. -/
lemma keeps_initiateTransfer (env : TransferEnv) (payoutId : String)
    (railOption : Option PayoutRail) :
    Keeps id floor seen (initiateTransfer env payoutId railOption) := by
  unfold initiateTransfer
  refine (holds_bind _ _).2 ?_
  intro s h _ _
  refine ⟨h, StaysFailed.refl _, ?_⟩
  change Keeps id s (some s) _
  cases hread : s.payouts.get payoutId with
  | none => trivial
  | some payout =>
    have hread : s.payouts.get payout.id = some payout := (Table.key_of_get hread).symm ▸ hread
    simp only [holds_bind, holds_liftM]
    intro _ hcheck amounts _
    have hstatus := not_underway_of_checkTransferable hcheck
    unfold callBank
    cases env.answer with
    | error e => trivial
    | ok answer =>
      intro db hdb _ hcond
      obtain ⟨hsingle, hstays⟩ := hdb.accept hcond.1
        (liveTransfers_eq_zero hdb hread hstatus hcond.2)
      exact ⟨hsingle, hstays, keeps_recordAnswer env hread hstatus _ _ answer⟩

lemma keeps_initiateEach (env : String → TransferEnv) (payouts : List Payout)
    (counts : Nat × Nat) : Keeps id floor seen (initiateEach env payouts counts) := by
  induction payouts generalizing counts floor seen with
  | nil => trivial
  | cons payout rest ih =>
    obtain ⟨initiated, failed⟩ := counts
    rw [initiateEach]
    refine (holds_bind _ _).2 (Holds.tryCatch ?_ fun floor seen e => ih _)
    refine (holds_bind _ _).2 ?_
    refine (keeps_initiateTransfer _ _ _).mono fun floor seen _ _ => ih _

variable {outcome : BankTransferOutcome}

lemma keeps_confirmNetAmountTransfer {s : PayoutDb} (hread : s.payouts.get payout.id = some payout)
    (htransfer : payout.transfer.transferId = some transferId)
    (hfailed : outcome = .FAILED → Failed transferId s) (reason : Option String) (now : Date) :
    Keeps id s (some s) (confirmNetAmountTransfer payout transferId outcome reason now) := by
  unfold confirmNetAmountTransfer
  split_ifs
  · trivial
  · cases outcome with
    | SETTLED =>
      intro db h _ _
      exact ⟨h.update (by intro p; rfl) (by intros; rfl), StaysFailed.refl _, trivial⟩
    | FAILED =>
      intro db h hstays hcond
      refine ⟨h.markTransferFailed _ _ ?_, StaysFailed.refl _, trivial⟩
      -- the row still records the transfer, which the bank has reported failed
      intro hid p hp t ht hrecord
      have hasRead : asRead id (some s) db := by
        simpa [Undisturbed, hid] using hcond.2
      have hcolumns := columns_eq_of_asRead hasRead (hid ▸ hread) hp
      rw [hcolumns.2, htransfer, Option.some_inj] at hrecord
      exact Bool.eq_false_iff.1
        (not_live_of_failed (hstays transferId (hfailed rfl)) ht hrecord.symm)

lemma keeps_confirmReserveTransfer (payout : Payout) (transferId : String)
    (outcome : BankTransferOutcome) (reason : Option String) (now : Date) :
    Keeps id floor seen (confirmReserveTransfer payout transferId outcome reason now) := by
  unfold confirmReserveTransfer
  split_ifs
  · trivial
  · -- the columns of the net amount's transfer stay as they are
    cases outcome <;> intro db h _ _ <;>
      exact ⟨h.update (by intro p; rfl) fun _ p hp _ => h.underway p hp, StaysFailed.refl _,
        trivial⟩

/-- So does a confirmation. -/
lemma keeps_confirmTransfer (hfailed : outcome = .FAILED → Failed transferId floor)
    (reason : Option String) (now : Date) :
    Keeps id floor seen (confirmTransfer transferId outcome reason now) := by
  unfold confirmTransfer
  refine (holds_bind _ _).2 ?_
  intro s h hstays _
  refine ⟨h, StaysFailed.refl _, ?_⟩
  change Keeps id s (some s) _
  cases hfind : s.findByTransferId transferId with
  | some payout =>
    have htransfer := List.find?_some hfind
    exact keeps_confirmNetAmountTransfer (Table.get_of_find? hfind)
      (of_decide_eq_true htransfer) (fun houtcome => hstays _ (hfailed houtcome)) reason now
  | none =>
    refine (holds_bind _ _).2 ?_
    intro s' h' _ _
    refine ⟨h', StaysFailed.refl _, ?_⟩
    change Keeps id s' (some s') _
    cases s'.findByReserveTransferId transferId with
    | none => trivial
    | some payout => exact keeps_confirmReserveTransfer payout transferId outcome reason now

/-- So does every operation. -/
lemma keeps_program (op : TransferOperation) : Keeps id floor none op.program := by
  cases op with
  | initiate env payoutId rail =>
    rw [TransferOperation.program]
    exact (holds_bind _ _).2
      ((keeps_initiateTransfer env payoutId rail).mono fun _ _ _ _ => trivial)
  | initiateEligible env =>
    rw [TransferOperation.program]
    refine (holds_bind _ _).2 fun s h _ _ => ⟨h, StaysFailed.refl _, ?_⟩
    exact (keeps_initiateEach env _ _).mono fun _ _ _ _ => trivial
  | confirm transferId outcome reason now =>
    intro s h _ hcond
    obtain ⟨hsingle, hstays⟩ := h.report transferId outcome
    refine ⟨hsingle, hstays, keeps_confirmTransfer ?_ reason now⟩
    rintro rfl
    exact failed_report hcond.1

end programs

end Transfers

open Transfers

/-- **One live transfer**: in every interleaving of initiations and confirmations, on any payouts,
in which the bank is reliable and the calls on a payout are undisturbed, the bank never holds two
live transfers of that payout's net amount. -/
theorem transfers_single (id : String) (db : PayoutDb) (ops : List TransferOperation)
    (schedule : List Nat) (hstart : db.bankTransfers.rows = [])
    (hreliable : ∀ e ∈ ((transferPool db ops).exec schedule).1, Reliable e.cmd e.pre)
    (hundisturbed : ∀ e ∈ ((transferPool db ops).exec schedule).1,
      Undisturbed id e.seen e.cmd e.pre) :
    (∀ e ∈ ((transferPool db ops).exec schedule).1,
      e.pre.liveTransfers id ≤ 1 ∧ e.post.liveTransfers id ≤ 1) ∧
      ((transferPool db ops).exec schedule).2.state.liveTransfers id ≤ 1 := by
  have hsingle : Single id db := by
    refine ⟨?_, ?_⟩
    · unfold PayoutDb.liveTransfers
      rw [hstart]
      exact Nat.zero_le 1
    · intro p _ t ht
      rw [hstart] at ht
      exact absurd ht List.not_mem_nil
  have hpool : Pool.Safe (Single id) StaysFailed (Cond id)
      (transferPool db ops) := by
    refine Pool.safe_start StaysFailed.refl hsingle fun prog hprog => ?_
    obtain ⟨op, -, rfl⟩ := List.mem_map.1 hprog
    exact keeps_program op
  obtain ⟨hevents, hend⟩ := Pool.exec_safe StaysFailed.refl
    (fun _ _ _ hab hbc transferId h => hbc transferId (hab transferId h)) hpool schedule
    fun e he => ⟨hreliable e he, hundisturbed e he⟩
  exact ⟨fun e he => ⟨(hevents e he).1.single, (hevents e he).2.1.single⟩, hend.single⟩

namespace Sample

/-- A payout of ten dollars that nothing has been sent of. -/
def payoutDb : PayoutDb :=
  match Payout.create {
      id := "payout-1"
      merchantId := "connected-1"
      sweepRunId := "run-1"
      grossAmount := tenDollars
      reserveBps := 0
      reserveHoldDays := 0
      kycVerified := true } 0 with
  | .ok payout => { PayoutDb.empty with payouts := PayoutDb.savePayout .empty payout }
  | .error _ => .empty

/-- The payout is sent. -/
def initiation (answer : BankTransferResponse) : TransferOperation :=
  .initiate ⟨0, "key", fun _ => none, .ok answer⟩ "payout-1" none

/-- The live transfers after each event of an execution. -/
def liveCounts (ops : List TransferOperation) (schedule : List Nat) : List Nat :=
  ((transferPool payoutDb ops).exec schedule).1.map fun e => e.post.liveTransfers "payout-1"

/-- A transfer that fails to settle, and a second attempt. -/
def failedAndRepeated : List TransferOperation :=
  [initiation (.pending "transfer-1"), .confirm "transfer-1" .FAILED none 0,
    initiation (.sent "transfer-2")]

/-- It is sent twice. -/
def twoInitiations : List TransferOperation :=
  [initiation (.sent "transfer-1"), initiation (.sent "transfer-2")]

/-- It is sent again after a refusal. -/
def declinedInBetween : List TransferOperation :=
  [initiation (.pending "transfer-1"), initiation (.failed none), initiation (.sent "transfer-2")]

end Sample

open Sample

/-- A pending transfer is reported failed, and the payout is sent again. -/
theorem transfers_single_repeated :
    liveCounts failedAndRepeated [0, 0, 0, 1, 1, 1, 2, 2, 2] = [0, 1, 1, 0, 0, 0, 0, 1, 1] ∧
      (∀ e ∈ ((transferPool payoutDb failedAndRepeated).exec [0, 0, 0, 1, 1, 1, 2, 2, 2]).1,
        e.pre.liveTransfers "payout-1" ≤ 1 ∧ e.post.liveTransfers "payout-1" ≤ 1) ∧
      ((transferPool payoutDb failedAndRepeated).exec
        [0, 0, 0, 1, 1, 1, 2, 2, 2]).2.state.liveTransfers "payout-1" ≤ 1 :=
  ⟨by decide +kernel, transfers_single "payout-1" payoutDb failedAndRepeated
    [0, 0, 0, 1, 1, 1, 2, 2, 2] (by decide +kernel) (by decide +kernel) (by decide +kernel)⟩

/-- Two calls read the payout before either asks the bank: the bank sends its amount twice, and the
second call's write is refused too late.  And a call that the bank declines overwrites the pending
transfer of another, so that a third one is let through. -/
theorem transferred_twice :
    (liveCounts twoInitiations [0, 1, 0, 1, 0, 1] = [0, 0, 1, 2, 2, 2] ∧
      ∀ e ∈ ((transferPool payoutDb twoInitiations).exec [0, 1, 0, 1, 0, 1]).1,
        Reliable e.cmd e.pre) ∧
    liveCounts declinedInBetween [0, 1, 0, 0, 1, 1, 2, 2, 2] = [0, 0, 1, 1, 1, 1, 1, 2, 2] ∧
      ∀ e ∈ ((transferPool payoutDb declinedInBetween).exec [0, 1, 0, 0, 1, 1, 2, 2, 2]).1,
        Reliable e.cmd e.pre := by
  decide +kernel

end OmniSwitch
