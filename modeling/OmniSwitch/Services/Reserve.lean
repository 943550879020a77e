import Mathlib.Data.List.Sort
import OmniSwitch.Store

/-!
# The reserve service

`reserve.service.ts` with `reserve-hold-typeorm.repository.ts` and the ledger events it books: a
hold is recorded with the charge it is withheld from, released by an operator or by the daily
sweep, and topped up when its merchant's risk tier escalates.  The state is the two tables these
share.  Reads and transactions are the atomic steps; a transaction that fails has no effect.
-/

namespace OmniSwitch

open Lib

namespace LedgerOutboxEvent

/-- Source: `LedgerOutboxEvent.createReserveReleaseEntries` -/
def createReserveReleaseEntries (id paymentId merchantId : String) (amount : Money) (now : Date) :
    Except AppError LedgerOutboxEvent :=
  create id paymentId .RESERVE_RELEASED
    [⟨s!"{merchantId}_RESERVE", .RESERVE, .DEBIT, amount⟩,
      ⟨merchantId, .MERCHANT, .CREDIT, amount⟩] now

/-- Source: `LedgerOutboxEvent.createReserveTopUpEntries` -/
def createReserveTopUpEntries (id paymentId merchantId : String) (amount : Money) (now : Date) :
    Except AppError LedgerOutboxEvent :=
  create id paymentId .RESERVE_TOPPED_UP
    [⟨merchantId, .MERCHANT, .DEBIT, amount⟩,
      ⟨s!"{merchantId}_RESERVE", .RESERVE, .CREDIT, amount⟩] now

end LedgerOutboxEvent

/-- The name of the status, as error messages have it. -/
def ReserveHoldStatus.name : ReserveHoldStatus → String
  | HELD => "HELD"
  | RELEASED => "RELEASED"

namespace ReserveHold

/-- Source: `ReserveHold.release` -/
def release (hold : ReserveHold) (now : Date) (force : Bool) : Except AppError ReserveHold :=
  if hold.status ≠ .HELD then
    .error (.plain s!"Cannot release reserve hold in status: {hold.status.name}")
  else if !force && now < hold.releaseEligibleAt then
    .error (.plain (s!"Reserve hold {hold.id} is not yet eligible for release " ++
      s!"(eligible at {hold.releaseEligibleAt})"))
  else .ok { hold with status := .RELEASED }

/-- Source: `ReserveHold.topUp` -/
def topUp (hold : ReserveHold) (additionalAmount : Money) : Except AppError ReserveHold :=
  if hold.status ≠ .HELD then
    .error (.plain s!"Cannot top up reserve hold in status: {hold.status.name}")
  else if additionalAmount.isZero then .error (.plain "topUp amount must be positive, got zero")
  else do
    let amount ← hold.amount.add additionalAmount
    .ok { hold with amount := amount }

end ReserveHold

/-! ### The tables -/

/-- Source: `reserve-hold.entity.ts`, `ledger-outbox.entity.ts` -/
structure ReserveDb where
  holds : Table ReserveHold.id
  ledgerOutbox : List LedgerOutboxEvent

namespace ReserveDb

/-- Nothing is stored. -/
def empty : ReserveDb := ⟨.empty, []⟩

/-- Asked of a replica (`ReserveCmd.sees`). -/
def findReleaseEligible (db : ReserveDb) (now : Date) : List ReserveHold :=
  let eligible := db.holds.rows.filter fun hold =>
    hold.status = .HELD ∧ hold.releaseEligibleAt ≤ now
  eligible.insertionSort fun a b => a.releaseEligibleAt ≤ b.releaseEligibleAt

/-- Asked of a replica (`ReserveCmd.sees`). -/
def findHeldByMerchant (db : ReserveDb) (merchantId : String) : List ReserveHold :=
  let held := db.holds.rows.filter fun hold => hold.merchantId = merchantId ∧ hold.status = .HELD
  held.insertionSort fun a b => a.createdAt ≤ b.createdAt

/-- The hold is held. -/
def isHeld (db : ReserveDb) (id : String) : Bool := (db.holds.get id).any (·.status = .HELD)

/-- `UPDATE reserve_holds SET status = 'RELEASED' WHERE id = … AND status = 'HELD'`. -/
def markReleased (db : ReserveDb) (id : String) : Table ReserveHold.id :=
  db.holds.modify id (fun hold => { hold with status := .RELEASED }) fun _ h => h

end ReserveDb

/-- A read of the reserve service, or one of its transactions.

Source: `ReserveHoldPort`; `reserve.service.ts` -/
inductive ReserveCmd where
  | findById (id : String)
  | findReleaseEligible (now : Date)
  | findHeldByMerchant (merchantId : String)
  /-- A charge is booked, with the hold withheld from it. -/
  | recordHold (event : LedgerOutboxEvent) (hold : Option ReserveHold)
  /-- A hold, as it was read, is marked released, and the event is booked if it still was held. -/
  | release (hold : ReserveHold) (event : LedgerOutboxEvent)
  /-- A hold, as it was read, is replaced by the topped-up one, and the event is booked. -/
  | topUp (hold toppedUp : ReserveHold) (event : LedgerOutboxEvent)

namespace ReserveCmd

/-- The effect of a command.

Source: `ReserveService`; `ReserveHoldTypeOrmRepository.save`,
`ReserveHoldTypeOrmRepository.markReleased` -/
def apply : ReserveCmd → ReserveDb → ReserveDb
  | recordHold event none, db => { db with ledgerOutbox := db.ledgerOutbox ++ [event] }
  | recordHold event (some hold), db =>
    ⟨db.holds.put hold, db.ledgerOutbox ++ [event]⟩
  | release hold event, db =>
    -- a release that lost the race books nothing
    if db.isHeld hold.id then ⟨db.markReleased hold.id, db.ledgerOutbox ++ [event]⟩ else db
  | topUp _ toppedUp event, db => ⟨db.holds.put toppedUp, db.ledgerOutbox ++ [event]⟩
  | _, db => db

/-- The command loads holds. -/
def loadsHolds : ReserveCmd → Bool
  | findById _ => true
  | findReleaseEligible _ => true
  | findHeldByMerchant _ => true
  | _ => false

end ReserveCmd

instance : Commands ReserveDb ReserveCmd where
  apply := ReserveCmd.apply
  observes := ReserveCmd.loadsHolds

/-- The programs of the service. -/
abbrev Reserves (α : Type) := Prog ReserveDb ReserveCmd AppError α

/-- What a command finds when `replica` answers the lookups of holds, which the source sends to a
replica.

Source: `app.module.ts` (`replication`), `ReserveHoldTypeOrmRepository` -/
def ReserveCmd.sees (replica : ReserveCmd → ReserveDb → ReserveDb) (c : ReserveCmd)
    (db : ReserveDb) : ReserveDb :=
  if c.loadsHolds then replica c db else db

namespace ReserveService

/-! ### The ports -/

/-- Source: `ReserveHoldTypeOrmRepository.findById` -/
def findById (id : String) : Reserves (Option ReserveHold) :=
  .act (.findById id) fun db => .ret (db.holds.get id)

/-- Source: `ReserveHoldTypeOrmRepository.findReleaseEligible` -/
def findReleaseEligible (now : Date) : Reserves (List ReserveHold) :=
  .act (.findReleaseEligible now) fun db => .ret (db.findReleaseEligible now)

/-- Source: `ReserveHoldTypeOrmRepository.findHeldByMerchant` -/
def findHeldByMerchant (merchantId : String) : Reserves (List ReserveHold) :=
  .act (.findHeldByMerchant merchantId) fun db => .ret (db.findHeldByMerchant merchantId)

/-- A transaction, which throws instead of committing if `failure` says so. -/
def transaction {α : Type} (failure : Option AppError) (c : ReserveCmd) (result : ReserveDb → α) :
    Reserves α :=
  match failure with
  | some e => .fail e
  | none => .act c fun db => .ret (result db)

/-! ### Recording a hold -/

/-- What a booking of a charge is given, fresh ids and times among it.

Source: `PaymentCheckoutSaga.execute` -/
structure ChargeBooking where
  eventId : String
  paymentId : String
  merchantId : String
  amount : Money
  platformFee : Money
  settlementConversion : Option AppliedConversion := none
  reserveHold : Option ReserveParams := none
  splits : Option (List ChargeSplit) := none
  holdId : String
  now : Date
  failure : Option AppError := none

/-- The part of a charge's booking that concerns the reserve: the ledger event and the hold, in one
transaction.

Source: `PaymentCheckoutSaga.execute`; `ReserveService.recordHold` -/
def recordHold (booking : ChargeBooking) : Reserves Unit := do
  let event ← LedgerOutboxEvent.createChargeEntries booking.eventId booking.paymentId
    booking.merchantId booking.amount booking.platformFee booking.settlementConversion
    (booking.reserveHold.map (·.amount)) booking.splits booking.now
  transaction booking.failure
    (.recordHold event (booking.reserveHold.map fun params =>
      ReserveHold.create booking.holdId booking.paymentId booking.merchantId params booking.now))
    fun _ => ()

/-! ### Releases -/

/-- What a release is given: the clock, the id of its event, and whether its transaction fails. -/
structure ReleaseEnv where
  now : Date
  eventId : String
  failure : Option AppError := none

/-- Source: `ReserveService.release` -/
def checkReleasable (hold : ReserveHold) (force : Bool) (now : Date) : Except AppError Unit :=
  if hold.status ≠ .HELD then
    .error (.http 409 s!"Reserve hold is already {hold.status.name}"
      "RESERVE_HOLD_ALREADY_RELEASED")
  else if !force && now < hold.releaseEligibleAt then
    .error (.http 409 (s!"Reserve hold {hold.id} is not yet eligible for release " ++
      s!"(eligible at {hold.releaseEligibleAt})") "RESERVE_HOLD_NOT_YET_ELIGIBLE")
  else .ok ()

/-- Source: `ReserveService.release` -/
def release (env : ReleaseEnv) (id : String) (force : Bool) : Reserves ReserveHold := do
  match ← findById id with
  | none => throw (.http 404 s!"Reserve hold {id} not found" "RESERVE_HOLD_NOT_FOUND")
  | some hold => do
      checkReleasable hold force env.now
      let event ← LedgerOutboxEvent.createReserveReleaseEntries env.eventId hold.paymentId
        hold.merchantId hold.amount env.now
      let released ← transaction env.failure (.release hold event) fun db => db.isHeld id
      if !released then
        throw (.http 409 s!"Reserve hold {id} lost a race with another release attempt"
          "RESERVE_HOLD_ALREADY_RELEASED")
      else hold.release env.now force

/-- The loop of the sweep: how many were released, and how many failed.

Source: `ReserveService.releaseEligible` -/
def releaseAll (env : String → ReleaseEnv) : List ReserveHold → Nat → Nat → Reserves (Nat × Nat)
  | [], released, failed => pure (released, failed)
  | hold :: rest, released, failed => do
      let done ← tryCatch (release (env hold.id) hold.id false >>= fun _ => pure true)
        fun _ => pure false
      if done then releaseAll env rest (released + 1) failed
      else releaseAll env rest released (failed + 1)

/-- Source: `ReserveService.releaseEligible` -/
def releaseEligible (env : String → ReleaseEnv) (now : Date) : Reserves (Nat × Nat) := do
  let holds ← findReleaseEligible now
  releaseAll env holds 0 0

/-! ### Top-ups -/

/-- The top-up of one hold: whether there was anything to add.

Source: `ReserveService.topUpHeldReservesForMerchant` -/
def topUpHold (env : ReleaseEnv) (newReserveBps : Nat) (hold : ReserveHold) : Reserves Bool := do
  let targetAmount ← hold.netAmount.multiply (newReserveBps / 10000)
  let more ← targetAmount.isGreaterThan hold.amount
  if !more then pure false
  else do
    let additionalAmount ← targetAmount.subtract hold.amount
    let toppedUp ← hold.topUp additionalAmount
    let event ← LedgerOutboxEvent.createReserveTopUpEntries env.eventId hold.paymentId
      hold.merchantId additionalAmount env.now
    transaction env.failure (.topUp hold toppedUp event) fun _ => true

/-- The loop over the holds: how many were topped up, and how many failed.

Source: `ReserveService.topUpHeldReservesForMerchant` -/
def topUpAll (env : String → ReleaseEnv) (newReserveBps : Nat) :
    List ReserveHold → Nat → Nat → Reserves (Nat × Nat)
  | [], toppedUp, failed => pure (toppedUp, failed)
  | hold :: rest, toppedUp, failed => do
      let done ← tryCatch (topUpHold (env hold.id) newReserveBps hold >>= fun b => pure (some b))
        fun _ => pure none
      match done with
      | some true => topUpAll env newReserveBps rest (toppedUp + 1) failed
      | some false => topUpAll env newReserveBps rest toppedUp failed
      | none => topUpAll env newReserveBps rest toppedUp (failed + 1)

/-- Source: `ReserveService.topUpHeldReservesForMerchant` -/
def topUpHeldReservesForMerchant (env : String → ReleaseEnv) (merchantId : String)
    (newReserveBps : Nat) : Reserves (Nat × Nat) := do
  let holds ← findHeldByMerchant merchantId
  topUpAll env newReserveBps holds 0 0

end ReserveService

end OmniSwitch
