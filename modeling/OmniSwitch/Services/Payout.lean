import Mathlib.Data.List.MinMax
import Mathlib.Data.List.Sort
import OmniSwitch.Lib.History
import OmniSwitch.Lib.Table
import OmniSwitch.Payout

/-!
# The payout service

`payout.service.ts` with the part of `payout-typeorm.repository.ts` it uses: the sweep that turns
the merchants' ledger balances into payouts, and the bank transfers of a payout's net amount.  The
state is the payout tables, the ledger the sweep reads, the sweep's lock, and what the bank holds:
every transfer it has accepted, and whether it has reported it failed since.

A row that is loaded is the payout it was saved as, so rows are kept as payouts.  What merchants
are configured with, what the bank answers, the clock and fresh ids are arguments.
-/

namespace OmniSwitch

open Lib

/-! ### The state -/

/-- What has become of a transfer the bank accepted. -/
inductive BankTransferStatus where
  | SENT | PENDING | FAILED
  deriving DecidableEq, Repr

/-- A transfer the bank accepted, and the payout whose net amount it sends.

Source: `BankTransferResponse` -/
structure BankTransfer where
  transferId : String
  payoutId : String
  status : BankTransferStatus
  deriving DecidableEq, Repr

/-- The bank has not reported it failed. -/
def BankTransfer.isLive (t : BankTransfer) : Bool := t.status ≠ .FAILED

/-- The bank reports a pending transfer failed. -/
def BankTransfer.reportFailed (t : BankTransfer) : BankTransfer :=
  if t.status = .PENDING then { t with status := .FAILED } else t

@[simp] lemma BankTransfer.transferId_reportFailed (t : BankTransfer) :
    t.reportFailed.transferId = t.transferId := by
  unfold reportFailed
  split_ifs <;> rfl

/-- The bank's answer to a request; one it accepts is given an id. -/
inductive BankTransferResponse where
  | sent (transferId : String)
  | pending (transferId : String)
  | failed (errorMessage : Option String)
  deriving DecidableEq, Repr

/-- Source: `BankTransferOutcome` -/
inductive BankTransferOutcome where
  | SETTLED | FAILED
  deriving DecidableEq, Repr

/-- Source: `BankTransferRequest` -/
structure BankTransferRequest where
  merchantId : String
  amount : Money
  idempotencyKey : String
  deriving DecidableEq, Repr

/-- Source: `payout.entity.ts`, `payout-sweep-run.entity.ts`, `ledger-outbox.entity.ts` -/
structure PayoutDb where
  ledgerOutbox : List LedgerOutboxEvent
  payouts : Table Payout.id
  sweepRuns : Table PayoutSweepRun.id
  /-- The value of the sweep's lock, while it is taken. -/
  sweepLock : Option Date
  bankTransfers : Table BankTransfer.transferId

namespace PayoutDb

/-- Nothing is stored. -/
def empty : PayoutDb := ⟨[], .empty, .empty, none, .empty⟩

variable (db : PayoutDb)

/-- Source: `PayoutTypeOrmRepository.findLatestSweepRun` -/
def findLatestSweepRun : Option PayoutSweepRun :=
  db.sweepRuns.rows.argmax PayoutSweepRun.windowEnd

/-- The end of the latest run's window, where the next window starts.

Source: `PayoutService.runSweepLocked` -/
def windowStart : Date := (db.findLatestSweepRun.map (·.windowEnd)).getD 0

/-- Source: `LedgerOutboxTypeOrmRepository.findCreatedBetween` -/
def findCreatedBetween (since stop : Date) : List LedgerOutboxEvent :=
  (Window.during (·.createdAt) since stop db.ledgerOutbox).insertionSort
    fun a b => a.createdAt ≤ b.createdAt

/-- Save a payout; the columns it does not set keep their values.

Source: `PayoutTypeOrmRepository.save` -/
def savePayout (payouts : Table Payout.id) (payout : Payout) : Table Payout.id :=
  payouts.upsert payout.id
    (fun old => { payout with
      createdAt := old.createdAt
      transferRail := old.transferRail
      instantFeeAmount := old.instantFeeAmount })
    payout (fun _ _ => rfl) rfl

/-- Source: `PayoutTypeOrmRepository.saveSweepRun` -/
def saveSweepRun (run : PayoutSweepRun) : PayoutDb :=
  { db with sweepRuns := db.sweepRuns.put run }

/-- `findOne({ where: { transferId } })`.

Source: `PayoutTypeOrmRepository.findByTransferIdOnMaster` -/
def findByTransferId (transferId : String) : Option Payout :=
  db.payouts.find? (·.transfer.transferId = some transferId)

/-- Source: `PayoutTypeOrmRepository.findByReserveTransferIdOnMaster` -/
def findByReserveTransferId (transferId : String) : Option Payout :=
  db.payouts.find? (·.reserveTransfer.transferId = some transferId)

/-- Source: `PayoutTypeOrmRepository.findTransferEligible` -/
def findTransferEligible : List Payout :=
  let eligible := db.payouts.rows.filter fun p =>
    !p.kycBlocked && 0 < p.netAmount.amountMinorUnits && !p.transfer.status.isUnderway
  eligible.insertionSort fun a b => a.createdAt ≤ b.createdAt

/-- The payout's row meets the condition of an `UPDATE`. -/
def affects (id : String) (condition : Payout → Bool) : Bool :=
  (db.payouts.get id).any condition

/-- `UPDATE payouts SET … WHERE id = … AND …`.

Source: `PayoutTypeOrmRepository` -/
def update (id : String) (condition : Payout → Bool) (set : Payout → Payout)
    (hset : ∀ p, (set p).id = p.id) : PayoutDb :=
  { db with payouts := db.payouts.modify id (fun p => if condition p then set p else p) (by
      intro p hp
      split_ifs
      · exact (hset p).trans hp
      · exact hp) }

/-- What the bank holds after a request for the net amount of a payout.

Source: `BankTransferPort.initiateTransfer` -/
def accept (payoutId : String) : BankTransferResponse → PayoutDb
  | .sent transferId =>
    { db with bankTransfers := db.bankTransfers.put ⟨transferId, payoutId, .SENT⟩ }
  | .pending transferId =>
    { db with bankTransfers := db.bankTransfers.put ⟨transferId, payoutId, .PENDING⟩ }
  | .failed _ => db

/-- Source: `BankTransferOutcome` -/
def report (transferId : String) : BankTransferOutcome → PayoutDb
  | .SETTLED => db
  | .FAILED =>
    { db with
      bankTransfers := db.bankTransfers.modify transferId BankTransfer.reportFailed
        fun t ht => t.transferId_reportFailed.trans ht }

end PayoutDb

/-! ### The commands -/

/-- What the payout service does in one atomic step.

Source: `PayoutPort`; `ledger-outbox.port.ts`; `cache.port.ts`; `bank-transfer.port.ts` -/
inductive PayoutCmd where
  | setNX (value : Date)
  | del
  | findLatestSweepRun
  | findCreatedBetween (since stop : Date)
  | save (payout : Payout)
  | saveSweepRun (run : PayoutSweepRun)
  | findByIdOnMaster (id : String)
  | findTransferEligible
  | findByTransferIdOnMaster (transferId : String)
  | findByReserveTransferIdOnMaster (transferId : String)
  /-- A request to the bank for the net amount of a payout, with its answer. -/
  | bank (payoutId : String) (request : BankTransferRequest) (answer : BankTransferResponse)
  /-- The bank reports on a transfer. -/
  | bankReports (transferId : String) (outcome : BankTransferOutcome)
  | markTransferPending (id transferId : String) (submittedAt : Date) (rail : Option PayoutRail)
      (instantFeeAmount : Option Money)
  | markTransferInitiated (id transferId : String) (initiatedAt : Date) (rail : Option PayoutRail)
      (instantFeeAmount : Option Money)
  | markTransferFailed (id error : String)
  | markReserveTransferInitiated (id transferId : String) (initiatedAt : Date)
  | markReserveTransferFailed (id error : String)

namespace PayoutCmd

/-- The payout, once the bank has accepted its transfer. -/
def accepted (status : PayoutTransferStatus) (transferId : String) (now : Date)
    (rail : Option PayoutRail) (instantFeeAmount : Option Money) (p : Payout) : Payout :=
  { p with
    transfer := ⟨status, some transferId, some now, none⟩
    transferRail := rail <|> p.transferRail
    instantFeeAmount := instantFeeAmount <|> p.instantFeeAmount }

/-- The effect of a command.

Source: `PayoutTypeOrmRepository` -/
def apply : PayoutCmd → PayoutDb → PayoutDb
  | setNX value, db => if db.sweepLock.isSome then db else { db with sweepLock := some value }
  | del, db => { db with sweepLock := none }
  | save payout, db => { db with payouts := PayoutDb.savePayout db.payouts payout }
  | saveSweepRun run, db => db.saveSweepRun run
  | bank payoutId _ answer, db => db.accept payoutId answer
  | bankReports transferId outcome, db => db.report transferId outcome
  | markTransferPending id transferId now rail fee, db =>
    db.update id (fun p => !p.transfer.status.isUnderway)
      (accepted .PENDING_CONFIRMATION transferId now rail fee) (fun _ => rfl)
  | markTransferInitiated id transferId now rail fee, db =>
    db.update id (fun p => p.transfer.status ≠ .INITIATED)
      (accepted .INITIATED transferId now rail fee) (fun _ => rfl)
  | markTransferFailed id error, db =>
    db.update id (fun _ => true)
      (fun p => { p with transfer := { p.transfer with status := .FAILED, error := some error } })
      (fun _ => rfl)
  | markReserveTransferInitiated id transferId now, db =>
    db.update id (fun p => p.reserveTransfer.status ≠ .INITIATED)
      (fun p => { p with reserveTransfer := ⟨.INITIATED, some transferId, some now, none⟩ })
      (fun _ => rfl)
  | markReserveTransferFailed id error, db =>
    db.update id (fun _ => true)
      (fun p => { p with
        reserveTransfer := { p.reserveTransfer with status := .FAILED, error := some error } })
      (fun _ => rfl)
  | _, db => db

/-- The command loads a payout. -/
def loadsPayout : PayoutCmd → Bool
  | findByIdOnMaster _ => true
  | findByTransferIdOnMaster _ => true
  | findByReserveTransferIdOnMaster _ => true
  | _ => false

end PayoutCmd

instance : Commands PayoutDb PayoutCmd where
  apply := PayoutCmd.apply
  observes := PayoutCmd.loadsPayout

/-- The programs of the service. -/
abbrev Payouts (α : Type) := Prog PayoutDb PayoutCmd AppError α

namespace PayoutService

/-! ### The ports -/

/-- A write that may throw instead of taking effect. -/
def write (failure : Option AppError) (c : PayoutCmd) : Payouts Unit :=
  match failure with
  | some e => .fail e
  | none => .act c fun _ => .ret ()

/-- Source: `RedisCacheAdapter.setNX` -/
def setNX (value : Date) : Payouts Bool :=
  .act (.setNX value) fun db => .ret db.sweepLock.isNone

/-- Source: `RedisCacheAdapter.del` -/
def del : Payouts Unit := .act .del fun _ => .ret ()

/-- It is asked for. -/
def findLatestSweepRun : Payouts (Option PayoutSweepRun) :=
  .act .findLatestSweepRun fun db => .ret db.findLatestSweepRun

/-- They are asked for. -/
def findCreatedBetween (since stop : Date) : Payouts (List LedgerOutboxEvent) :=
  .act (.findCreatedBetween since stop) fun db => .ret (db.findCreatedBetween since stop)

/-- Source: `PayoutTypeOrmRepository.findByIdOnMaster` -/
def findByIdOnMaster (id : String) : Payouts (Option Payout) :=
  .act (.findByIdOnMaster id) fun db => .ret (db.payouts.get id)

/-- They are asked for. -/
def findTransferEligible : Payouts (List Payout) :=
  .act .findTransferEligible fun db => .ret db.findTransferEligible

/-- Source: `PayoutTypeOrmRepository.findByTransferIdOnMaster` -/
def findByTransferIdOnMaster (transferId : String) : Payouts (Option Payout) :=
  .act (.findByTransferIdOnMaster transferId) fun db => .ret (db.findByTransferId transferId)

/-- Source: `PayoutTypeOrmRepository.findByReserveTransferIdOnMaster` -/
def findByReserveTransferIdOnMaster (transferId : String) : Payouts (Option Payout) :=
  .act (.findByReserveTransferIdOnMaster transferId) fun db =>
    .ret (db.findByReserveTransferId transferId)

/-- Source: `PayoutTypeOrmRepository.markTransferPending` -/
def markTransferPending (id transferId : String) (now : Date) (rail : Option PayoutRail)
    (instantFeeAmount : Option Money) : Payouts Bool :=
  .act (.markTransferPending id transferId now rail instantFeeAmount) fun db =>
    .ret (db.affects id fun p => !p.transfer.status.isUnderway)

/-- Source: `PayoutTypeOrmRepository.markTransferInitiated` -/
def markTransferInitiated (id transferId : String) (now : Date) (rail : Option PayoutRail)
    (instantFeeAmount : Option Money) : Payouts Bool :=
  .act (.markTransferInitiated id transferId now rail instantFeeAmount) fun db =>
    .ret (db.affects id fun p => p.transfer.status ≠ .INITIATED)

/-- Source: `PayoutTypeOrmRepository.markTransferFailed` -/
def markTransferFailed (id error : String) : Payouts Unit :=
  .act (.markTransferFailed id error) fun _ => .ret ()

/-- Source: `PayoutTypeOrmRepository.markReserveTransferInitiated` -/
def markReserveTransferInitiated (id transferId : String) (now : Date) : Payouts Bool :=
  .act (.markReserveTransferInitiated id transferId now) fun db =>
    .ret (db.affects id fun p => p.reserveTransfer.status ≠ .INITIATED)

/-- Source: `PayoutTypeOrmRepository.markReserveTransferFailed` -/
def markReserveTransferFailed (id error : String) : Payouts Unit :=
  .act (.markReserveTransferFailed id error) fun _ => .ret ()

/-! ### The sweep -/

/-- What one execution of the sweep is given: the clock, fresh ids, the merchants, and which of its
writes throw.

Source: `PayoutService.runSweep` -/
structure SweepEnv where
  now : Date
  lockedAt : Date
  sweepRunId : String
  /-- The id and the time of the `n`-th payout. -/
  payoutId : Nat → String
  createdAt : Nat → Date
  ranAt : Date
  findByMerchantIdOnMaster : String → Option Merchant
  /-- The error of the `n`-th `payoutPort.save`, if it throws. -/
  saveFails : Nat → Option AppError
  saveSweepRunFails : Option AppError

/-- An entry of `netByAccount`.  Its `currencyCode` is kept as the currency it is the code of.

Source: `PayoutService.runSweepLocked` -/
structure AccountBalance where
  merchantId : String
  currency : Currency
  minorUnits : Int
  deriving DecidableEq, Repr

namespace AccountBalance

/-- Source: `PayoutService.runSweepLocked` -/
def key (balance : AccountBalance) : String := s!"{balance.merchantId}:{balance.currency.code}"

/-- The balance after another entry of the account. -/
def add (balance : AccountBalance) (minorUnits : Int) : AccountBalance :=
  { balance with minorUnits := balance.minorUnits + minorUnits }

lemma key_add (balance : AccountBalance) (minorUnits : Int) :
    (balance.add minorUnits).key = balance.key := rfl

/-- What an entry adds to the balance of its account. -/
def ofEntry (entry : LedgerEntry) : AccountBalance where
  merchantId := entry.accountId
  currency := entry.amount.currency
  minorUnits := match entry.entryType with
    | .CREDIT => entry.amount.amountMinorUnits
    | .DEBIT => -entry.amount.amountMinorUnits

end AccountBalance

/-- Source: `PayoutService.runSweepLocked` -/
def addEntry (balances : Table AccountBalance.key) (entry : LedgerEntry) :
    Table AccountBalance.key :=
  if entry.accountType ≠ .MERCHANT then balances
  else
    balances.upsert (AccountBalance.ofEntry entry).key
      (·.add (AccountBalance.ofEntry entry).minorUnits) (AccountBalance.ofEntry entry)
      (fun old h => (old.key_add _).trans h) rfl

/-- The net balance of every merchant account with entries in `events`, in the order of first
appearance.

Source: `PayoutService.runSweepLocked` -/
def netByAccount (events : List LedgerOutboxEvent) : Table AccountBalance.key :=
  (events.flatMap (·.entries)).foldl addEntry .empty

/-- The `n`-th payout of a sweep.

Source: `PayoutService.runSweepLocked` -/
def payoutOf (env : SweepEnv) (n : Nat) (balance : AccountBalance) (merchant : Merchant) :
    Except AppError Payout := do
  let grossAmount ← Money.fromMinorUnits balance.minorUnits.toNat balance.currency.code
  Payout.create {
    id := env.payoutId n
    merchantId := balance.merchantId
    sweepRunId := env.sweepRunId
    grossAmount := grossAmount
    reserveBps := merchant.payoutReserveBps
    reserveHoldDays := merchant.payoutReserveHoldDays
    kycVerified := merchant.kycStatus = .VERIFIED } (env.createdAt n)

/-- The loop over the balances; `paid` counts the payouts saved so far.

Source: `PayoutService.runSweepLocked` -/
def payBalances (env : SweepEnv) : List AccountBalance → Nat → Payouts Nat
  | [], paid => pure paid
  | balance :: rest, paid =>
    if balance.minorUnits ≤ 0 then payBalances env rest paid
    else match env.findByMerchantIdOnMaster balance.merchantId with
      | none => payBalances env rest paid
      | some merchant =>
        if merchant.accountType ≠ .CONNECTED then payBalances env rest paid
        else do
          let payout ← payoutOf env paid balance merchant
          write (env.saveFails paid) (.save payout)
          payBalances env rest (paid + 1)

/-- Source: `PayoutService.runSweepLocked` -/
def runSweepLocked (env : SweepEnv) : Payouts PayoutSweepRun := do
  let lastRun ← findLatestSweepRun
  let windowStart := (lastRun.map (·.windowEnd)).getD 0
  let events ← findCreatedBetween windowStart env.now
  let connectedMerchantsPaid ← payBalances env (netByAccount events).rows 0
  let run : PayoutSweepRun :=
    ⟨env.sweepRunId, windowStart, env.now, connectedMerchantsPaid, env.ranAt⟩
  write env.saveSweepRunFails (.saveSweepRun run)
  pure run

/-- The lock is released whether or not the sweep throws. -/
def runSweep (env : SweepEnv) : Payouts (Option PayoutSweepRun) := do
  let lockAcquired ← setNX env.lockedAt
  if !lockAcquired then pure none
  else do
    let run ← tryCatch (runSweepLocked env) fun e => do
      del
      throw e
    del
    pure (some run)

/-! ### Transfers -/

/-- What one call learns from outside: the clock, its idempotency key, the merchants, and how the
bank answers it (a call that throws was not accepted).

Source: `PayoutService.initiateTransfer` -/
structure TransferEnv where
  now : Date
  idempotencyKey : String
  findByMerchantIdOnMaster : String → Option Merchant
  answer : Except AppError BankTransferResponse

/-- What is sent over a rail, and the premium kept back for it.

Source: `PayoutService.initiateTransfer` -/
def transferAmount (payout : Payout) : PayoutRail → Except AppError (Money × Option Money)
  | .STANDARD => .ok (payout.netAmount, none)
  | .INSTANT => do
      let fee ← calculateInstantPayoutFee payout.netAmount
      if payout.netAmount.amountMinorUnits ≤ fee.amountMinorUnits then
        .error (.http 409 (s!"Payout {payout.id}'s instant transfer fee ({fee.toString}) would " ++
          s!"meet or exceed its net amount ({payout.netAmount.toString})")
          "PAYOUT_INSTANT_FEE_EXCEEDS_NET_AMOUNT")
      else do
        let amount ← payout.netAmount.subtract fee
        .ok (amount, some fee)

/-- The checks on a payout before its transfer.

Source: `PayoutService.initiateTransfer` -/
def checkTransferable (payout : Payout) : Except AppError Unit :=
  if payout.kycBlocked then
    .error (.http 409 s!"Payout {payout.id} is KYC-blocked, cannot initiate a transfer"
      "PAYOUT_KYC_BLOCKED")
  else if payout.netAmount.isZero then
    .error (.http 409 s!"Payout {payout.id} has no net amount to transfer"
      "PAYOUT_NO_TRANSFERABLE_AMOUNT")
  else if payout.transfer.status = .INITIATED then
    .error (.http 409 s!"Payout {payout.id}'s transfer is already initiated"
      "PAYOUT_TRANSFER_ALREADY_INITIATED")
  else if payout.transfer.status = .PENDING_CONFIRMATION then
    .error (.http 409 s!"Payout {payout.id}'s transfer is already pending confirmation"
      "PAYOUT_TRANSFER_ALREADY_INITIATED")
  else .ok ()

/-- Source: `PayoutService.initiateTransfer` -/
def lostRace (payoutId : String) : AppError :=
  .http 409 s!"Payout {payoutId}'s transfer lost a race with another initiation attempt"
    "PAYOUT_TRANSFER_ALREADY_INITIATED"

/-- What is recorded of the bank's answer.

Source: `PayoutService.initiateTransfer` -/
def recordAnswer (env : TransferEnv) (payout : Payout) (rail : PayoutRail) (fee : Option Money) :
    BankTransferResponse → Payouts Payout
  | .failed errorMessage => do
      markTransferFailed payout.id (errorMessage.getD "Bank transfer declined")
      throw (.http 422 (errorMessage.getD "Bank transfer declined") "PAYOUT_TRANSFER_FAILED")
  | .pending transferId => do
      let pending ← markTransferPending payout.id transferId env.now (some rail) fee
      if !pending then throw (lostRace payout.id)
      else liftM (payout.recordTransferPending transferId env.now (some rail) fee)
  | .sent transferId => do
      let initiated ← markTransferInitiated payout.id transferId env.now (some rail) fee
      if !initiated then throw (lostRace payout.id)
      else liftM (payout.recordTransferInitiated transferId env.now (some rail) fee)

/-- Source: `BankTransferPort.initiateTransfer` -/
def callBank (env : TransferEnv) (payout : Payout) (amount : Money) :
    Payouts BankTransferResponse :=
  match env.answer with
  | .error e => .fail e
  | .ok answer =>
    .act (.bank payout.id ⟨payout.merchantId, amount, env.idempotencyKey⟩ answer) fun _ =>
      .ret answer

/-- Source: `PayoutService.initiateTransfer` -/
def initiateTransfer (env : TransferEnv) (payoutId : String) (railOption : Option PayoutRail) :
    Payouts Payout := do
  match ← findByIdOnMaster payoutId with
  | none => throw (.http 404 s!"Payout {payoutId} not found" "PAYOUT_NOT_FOUND")
  | some payout =>
    checkTransferable payout
    let rail := railOption.getD
      (((env.findByMerchantIdOnMaster payout.merchantId).map (·.payoutRail)).getD .STANDARD)
    let (amount, fee) ← transferAmount payout rail
    let answer ← callBank env payout amount
    recordAnswer env payout rail fee answer

/-- Initiate the transfers of the payouts found, passing over those that fail; counts both.

Source: `PayoutService.initiateEligibleTransfers` -/
def initiateEach (env : String → TransferEnv) : List Payout → Nat × Nat → Payouts (Nat × Nat)
  | [], counts => pure counts
  | payout :: rest, (initiated, failed) => do
      let succeeded ← tryCatch
        (initiateTransfer (env payout.id) payout.id none >>= fun _ => pure true)
        fun _ => pure false
      initiateEach env rest (if succeeded then (initiated + 1, failed) else (initiated, failed + 1))

/-- Source: `PayoutService.initiateEligibleTransfers` -/
def initiateEligibleTransfers (env : String → TransferEnv) : Payouts (Nat × Nat) := do
  let payouts ← findTransferEligible
  initiateEach env payouts (0, 0)

/-- Source: `PayoutService.confirmNetAmountTransfer` -/
def confirmNetAmountTransfer (payout : Payout) (transferId : String)
    (outcome : BankTransferOutcome) (reason : Option String) (now : Date) : Payouts Unit :=
  if payout.transfer.status ≠ .PENDING_CONFIRMATION then pure ()
  else match outcome with
    | .FAILED =>
      markTransferFailed payout.id (reason.getD "Bank transfer failed during settlement")
    | .SETTLED => do
        let _ ← markTransferInitiated payout.id transferId now none none
        pure ()

/-- Source: `PayoutService.confirmReserveTransfer` -/
def confirmReserveTransfer (payout : Payout) (transferId : String)
    (outcome : BankTransferOutcome) (reason : Option String) (now : Date) : Payouts Unit :=
  if payout.reserveTransfer.status ≠ .PENDING_CONFIRMATION then pure ()
  else match outcome with
    | .FAILED =>
      markReserveTransferFailed payout.id (reason.getD "Bank transfer failed during settlement")
    | .SETTLED => do
        let _ ← markReserveTransferInitiated payout.id transferId now
        pure ()

/-- Source: `PayoutService.confirmTransfer` -/
def confirmTransfer (transferId : String) (outcome : BankTransferOutcome)
    (reason : Option String) (now : Date) : Payouts Unit := do
  match ← findByTransferIdOnMaster transferId with
  | some payout => confirmNetAmountTransfer payout transferId outcome reason now
  | none =>
    match ← findByReserveTransferIdOnMaster transferId with
    | some payout => confirmReserveTransfer payout transferId outcome reason now
    | none => pure ()

end PayoutService

end OmniSwitch
