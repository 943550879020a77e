import OmniSwitch.Services.Payout

/-!
# What one payout sweep does

A sweep reads the ledger from the end of the latest run's window up to now, nets the entries of
each merchant account, and saves one payout for every account of a connected merchant whose net is
positive; the run itself is saved last.

Main results:

* `runSweep_run`: what an execution saves, whichever of its writes fails.
-/

namespace OmniSwitch

open Lib Prog

/-- What an entry adds to what a merchant is owed in a currency. -/
def LedgerEntry.net (merchantId : String) (currency : Currency) (entry : LedgerEntry) : Int :=
  if entry.accountType = .MERCHANT ∧ entry.accountId = merchantId ∧
      entry.amount.currency = currency then
    (PayoutService.AccountBalance.ofEntry entry).minorUnits
  else 0

/-- What an event credits to a merchant, less what it debits. -/
def LedgerOutboxEvent.net (merchantId : String) (currency : Currency)
    (event : LedgerOutboxEvent) : Int :=
  (event.entries.map (LedgerEntry.net merchantId currency)).sum

/-- Credits less debits of a merchant in a currency, over the events created in `[start, stop)`. -/
def PayoutDb.net (db : PayoutDb) (merchantId : String) (currency : Currency)
    (start stop : Date) : Int :=
  Window.total (·.createdAt) (LedgerOutboxEvent.net merchantId currency) start stop db.ledgerOutbox

namespace PayoutService

/-! ### Balances -/

/-- The key of an account tells the merchant and the currency: a code has three characters. -/
lemma AccountBalance.key_inj {a b : AccountBalance} (h : a.key = b.key) :
    a.merchantId = b.merchantId ∧ a.currency = b.currency := by
  have hlist : a.merchantId.toList ++ ':' :: a.currency.code.toList =
      b.merchantId.toList ++ ':' :: b.currency.code.toList := by
    simpa [key, String.toList_append, toString] using congrArg String.toList h
  have hlen : (':' :: a.currency.code.toList).length = (':' :: b.currency.code.toList).length := by
    simp only [List.length_cons, String.length_toList, a.currency.length_eq, b.currency.length_eq]
  obtain ⟨hmerchant, hcode⟩ := List.append_inj' hlist hlen
  refine ⟨String.toList_inj.1 hmerchant, Currency.equals_iff.1 ?_⟩
  rw [Currency.equals, beq_iff_eq]
  exact String.toList_inj.1 (List.cons.inj hcode).2

/-- The balance under the key of an account, zero if there is none. -/
def balanceOf (balances : Table AccountBalance.key) (merchantId : String) (currency : Currency) :
    Int :=
  ((balances.get (AccountBalance.key ⟨merchantId, currency, 0⟩)).map (·.minorUnits)).getD 0

lemma balanceOf_addEntry (balances : Table AccountBalance.key) (entry : LedgerEntry)
    (merchantId : String) (currency : Currency) :
    balanceOf (addEntry balances entry) merchantId currency =
      balanceOf balances merchantId currency + entry.net merchantId currency := by
  unfold balanceOf addEntry LedgerEntry.net
  by_cases hacc : entry.accountType = .MERCHANT
  · rw [if_neg (not_not_intro hacc)]
    by_cases hkey : AccountBalance.key ⟨merchantId, currency, 0⟩ =
        (AccountBalance.ofEntry entry).key
    · obtain ⟨hm, hc⟩ := AccountBalance.key_inj hkey
      rw [if_pos ⟨hacc, hm.symm, hc.symm⟩, hkey, Table.get_upsert_self]
      cases balances.get (AccountBalance.ofEntry entry).key <;> simp [AccountBalance.add]
    · rw [Table.get_upsert_of_ne _ _ _ hkey, if_neg, add_zero]
      rintro ⟨-, rfl, rfl⟩
      exact hkey rfl
  · rw [if_pos hacc, if_neg (fun h => hacc h.1), add_zero]

lemma balanceOf_foldl (entries : List LedgerEntry) (merchantId : String) (currency : Currency)
    (balances : Table AccountBalance.key) :
    balanceOf (entries.foldl addEntry balances) merchantId currency =
      balanceOf balances merchantId currency +
        (entries.map (LedgerEntry.net merchantId currency)).sum := by
  induction entries generalizing balances with
  | nil => simp
  | cons entry entries ih =>
    rw [List.foldl_cons, ih, balanceOf_addEntry, List.map_cons, List.sum_cons, add_assoc]

lemma sum_net_flatMap (events : List LedgerOutboxEvent) (merchantId : String)
    (currency : Currency) :
    ((events.flatMap (·.entries)).map (LedgerEntry.net merchantId currency)).sum =
      (events.map (LedgerOutboxEvent.net merchantId currency)).sum := by
  induction events with
  | nil => rfl
  | cons event events ih =>
    rw [List.flatMap_cons, List.map_append, List.sum_append, ih, List.map_cons, List.sum_cons]
    rfl

variable {balance : AccountBalance}

lemma minorUnits_netByAccount (db : PayoutDb) {start stop : Date}
    (h : balance ∈ (netByAccount (db.findCreatedBetween start stop)).rows) :
    balance.minorUnits = db.net balance.merchantId balance.currency start stop := by
  have hget := Table.get_of_mem h
  have hbalance := balanceOf_foldl ((db.findCreatedBetween start stop).flatMap (·.entries))
    balance.merchantId balance.currency .empty
  rw [sum_net_flatMap] at hbalance
  have hleft : balanceOf (netByAccount (db.findCreatedBetween start stop)) balance.merchantId
      balance.currency = balance.minorUnits := by
    unfold balanceOf
    rw [show AccountBalance.key ⟨balance.merchantId, balance.currency, 0⟩ = balance.key from rfl,
      hget]
    rfl
  refine (hleft.symm.trans hbalance).trans ?_
  have hempty : balanceOf .empty balance.merchantId balance.currency = 0 := rfl
  rw [hempty, zero_add]
  exact ((List.perm_insertionSort _ _).map _).sum_eq

/-! ### One execution -/

variable (env : SweepEnv)

/-- The balance is positive and its merchant is a connected one.

Source: `PayoutService.runSweepLocked` -/
def SweepEnv.pays (balance : AccountBalance) : Bool :=
  0 < balance.minorUnits &&
    (env.findByMerchantIdOnMaster balance.merchantId).any (·.accountType = .CONNECTED)

/-- The balances an execution pays out, in order.

Source: `PayoutService.runSweepLocked` -/
def due (db : PayoutDb) : List AccountBalance :=
  (netByAccount (db.findCreatedBetween db.windowStart env.now)).rows.filter env.pays

/-- The payout pays out the balance. -/
structure PaysOut (env : SweepEnv) (payout : Payout) (balance : AccountBalance) : Prop where
  merchantId : payout.merchantId = balance.merchantId
  sweepRunId : payout.sweepRunId = env.sweepRunId
  grossAmount : payout.grossAmount = ⟨balance.minorUnits.toNat, balance.currency⟩

lemma payoutOf_ok (n : Nat) (balance : AccountBalance) (merchant : Merchant) :
    ∃ payout, payoutOf env n balance merchant = .ok payout ∧ PaysOut env payout balance := by
  unfold payoutOf
  rw [Money.fromMinorUnits_code]
  obtain ⟨payout, hcreate, hmerchant, hrun, hgross⟩ := Payout.create_ok ⟨env.payoutId n,
    balance.merchantId, env.sweepRunId, ⟨balance.minorUnits.toNat, balance.currency⟩,
    merchant.payoutReserveBps, merchant.payoutReserveHoldDays, merchant.kycStatus = .VERIFIED⟩
    (env.createdAt n) merchant.payoutReserveBps_le
  exact ⟨payout, hcreate, hmerchant, hrun, hgross⟩

lemma payBalances_cons_of_pays {env : SweepEnv} (hpays : env.pays balance)
    (rest : List AccountBalance) (paid : Nat) :
    ∃ payout, PaysOut env payout balance ∧ payBalances env (balance :: rest) paid =
      write (env.saveFails paid) (.save payout) >>= fun _ => payBalances env rest (paid + 1) := by
  obtain ⟨hpos, hconnected⟩ := Bool.and_eq_true_iff.1 hpays
  rw [decide_eq_true_iff] at hpos
  cases hmerchant : env.findByMerchantIdOnMaster balance.merchantId with
  | none =>
    rw [hmerchant] at hconnected
    exact (nomatch hconnected)
  | some merchant =>
    rw [hmerchant, Option.any_some, decide_eq_true_iff] at hconnected
    obtain ⟨payout, hpayout, hpaysOut⟩ := payoutOf_ok env paid balance merchant
    refine ⟨payout, hpaysOut, ?_⟩
    rw [payBalances, if_neg (not_le.2 hpos), hmerchant]
    dsimp only
    rw [if_neg (not_not_intro hconnected), hpayout]
    rfl

lemma payBalances_cons_of_not_pays {env : SweepEnv} (hpays : ¬ env.pays balance)
    (rest : List AccountBalance) (paid : Nat) :
    payBalances env (balance :: rest) paid = payBalances env rest paid := by
  rw [payBalances]
  by_cases hpos : balance.minorUnits ≤ 0
  · rw [if_pos hpos]
  · rw [if_neg hpos]
    cases hmerchant : env.findByMerchantIdOnMaster balance.merchantId with
    | none => rfl
    | some merchant =>
      have htype : merchant.accountType ≠ .CONNECTED := by
        intro htype
        refine hpays (Bool.and_eq_true_iff.2 ⟨decide_eq_true (not_le.1 hpos), ?_⟩)
        rw [hmerchant, Option.any_some, htype]
        rfl
      exact if_pos htype

/-- The payouts, saved one after the other. -/
def saveEach (saved : List Payout) (db : PayoutDb) : PayoutDb :=
  { db with payouts := saved.foldl PayoutDb.savePayout db.payouts }

/-- How the loop over the balances ends: with all due balances paid out, or at the first save that
fails. -/
def Ended (paid dueCount savedCount : Nat) : Except AppError Nat → Prop
  | .ok n => n = paid + dueCount ∧ savedCount = dueCount
  | .error e => savedCount < dueCount ∧ env.saveFails (paid + savedCount) = some e

/-- The loop saves payouts for the balances that are due, in order, up to the first save that
fails. -/
lemma payBalances_run (balances : List AccountBalance) (paid : Nat) (db : PayoutDb) :
    ∃ saved result, (payBalances env balances paid).run db = (saveEach saved db, result) ∧
      List.Forall₂ (PaysOut env) saved ((balances.filter env.pays).take saved.length) ∧
      (∀ i < saved.length, env.saveFails (paid + i) = none) ∧
      Ended env paid (balances.filter env.pays).length saved.length result := by
  induction balances generalizing paid db with
  | nil => exact ⟨[], .ok paid, rfl, .nil, by simp, rfl, rfl⟩
  | cons balance rest ih =>
    by_cases hpays : env.pays balance
    · obtain ⟨payout, hpaysOut, hcons⟩ := payBalances_cons_of_pays hpays rest paid
      rw [hcons, List.filter_cons_of_pos hpays, run_bind]
      cases hfails : env.saveFails paid with
      | some e => exact ⟨[], .error e, rfl, .nil, by simp, by simp, hfails⟩
      | none =>
        obtain ⟨saved, result, hrun, hsaved, hnone, hended⟩ := ih (paid + 1)
          { db with payouts := PayoutDb.savePayout db.payouts payout }
        have hshift : ∀ i, paid + (i + 1) = paid + 1 + i := fun i => by omega
        refine ⟨payout :: saved, result, hrun, .cons hpaysOut hsaved, ?_, ?_⟩
        · intro i hi
          cases i with
          | zero => exact hfails
          | succ i =>
            rw [hshift]
            exact hnone i (Nat.lt_of_succ_lt_succ hi)
        · cases result with
          | error e =>
            refine ⟨Nat.succ_lt_succ hended.1, ?_⟩
            rw [List.length_cons, hshift]
            exact hended.2
          | ok n =>
            exact ⟨hended.1.trans (hshift _).symm, congrArg (· + 1) hended.2⟩
    · rw [payBalances_cons_of_not_pays hpays, List.filter_cons_of_neg hpays]
      exact ih paid db

/-- How an execution ends: it fails, at a payout or at the record of the run, or it completes. -/
inductive Swept (env : SweepEnv) (db : PayoutDb) (saved : List Payout) :
    PayoutDb × Except AppError (Option PayoutSweepRun) → Prop where
  | failed (e : AppError)
      (reason : saved.length < (due env db).length ∧ env.saveFails saved.length = some e ∨
        saved.length = (due env db).length ∧ env.saveSweepRunFails = some e) :
      Swept env db saved (saveEach saved db, .error e)
  | completed (run : PayoutSweepRun) (id : run.id = env.sweepRunId)
      (windowStart : run.windowStart = db.windowStart) (windowEnd : run.windowEnd = env.now)
      (all : saved.length = (due env db).length) :
      Swept env db saved ((saveEach saved db).saveSweepRun run, .ok (some run))

lemma runSweep_of_unlocked {db : PayoutDb} (hlock : db.sweepLock = none) : (runSweep env).run db =
      match (runSweepLocked env).run { db with sweepLock := some env.lockedAt } with
      | (db', .ok run) => ({ db' with sweepLock := none }, .ok (some run))
      | (db', .error e) => ({ db' with sweepLock := none }, .error e) := by
  have hset : (runSweep env).run db =
      (tryCatch (runSweepLocked env) (fun e => del >>= fun _ => throw e) >>= fun run =>
        del >>= fun _ => pure (some run)).run { db with sweepLock := some env.lockedAt } := by
    obtain ⟨ledger, payouts, runs, lock, bank⟩ := db
    obtain rfl : lock = none := hlock
    rfl
  rw [hset, run_bind, run_tryCatch]
  rcases (runSweepLocked env).run { db with sweepLock := some env.lockedAt } with ⟨db', e | run⟩
  · rfl
  · rfl

/-- **What an execution does**: it saves payouts for the due balances in order, up to the first
save that fails, and records the run if no write fails; nothing else changes. -/
theorem runSweep_run {db : PayoutDb} (hlock : db.sweepLock = none) :
    ∃ saved, List.Forall₂ (PaysOut env) saved ((due env db).take saved.length) ∧
      (∀ i < saved.length, env.saveFails i = none) ∧
      Swept env db saved ((runSweep env).run db) := by
  obtain ⟨saved, result, hrun, hsaved, hnone, hended⟩ := payBalances_run env
    (netByAccount (db.findCreatedBetween db.windowStart env.now)).rows 0
    { db with sweepLock := some env.lockedAt }
  simp only [Nat.zero_add] at hnone
  refine ⟨saved, hsaved, hnone, ?_⟩
  have hlocked : (runSweepLocked env).run { db with sweepLock := some env.lockedAt } =
      (payBalances env (netByAccount (db.findCreatedBetween db.windowStart env.now)).rows 0 >>=
        fun paid => write env.saveSweepRunFails
            (.saveSweepRun ⟨env.sweepRunId, db.windowStart, env.now, paid, env.ranAt⟩) >>=
          fun _ => pure ⟨env.sweepRunId, db.windowStart, env.now, paid, env.ranAt⟩).run
        { db with sweepLock := some env.lockedAt } := rfl
  have hunlock : { saveEach saved db with sweepLock := none } = saveEach saved db := by
    unfold saveEach
    rw [hlock]
  rw [runSweep_of_unlocked env hlock, hlocked, run_bind, hrun]
  cases result with
  | error e =>
    rw [Ended, Nat.zero_add] at hended
    change Swept env db saved ({ saveEach saved db with sweepLock := none }, .error e)
    rw [hunlock]
    exact .failed e (.inl hended)
  | ok paid =>
    cases hfails : env.saveSweepRunFails with
    | some e =>
      change Swept env db saved ({ saveEach saved db with sweepLock := none }, .error e)
      rw [hunlock]
      exact .failed e (.inr ⟨hended.2, hfails⟩)
    | none =>
      change Swept env db saved
        (PayoutDb.saveSweepRun { saveEach saved db with sweepLock := none } _, .ok (some _))
      rw [hunlock]
      exact .completed _ rfl rfl rfl hended.2

end PayoutService

end OmniSwitch
