import OmniSwitch.Bnpl.Order
import OmniSwitch.Lib.Embed

/-!
# The BNPL service

`bnpl.service.ts`, over a state that holds the orders, the ledger's outbox and what Klarna has
accepted.  Each call comes with what it draws (the random identifiers, the time), with Klarna's
answers and with the failures of its steps; a step that fails may have taken effect all the same.
-/

namespace OmniSwitch

open Lib Lib.Prog

/-- What the service asks of Klarna, and for which of its orders.

Source: `BnplCaptureRequest`, `BnplRefundRequest` -/
structure KlarnaRequest where
  orderId : String
  providerOrderId : Option String
  amount : Money
  idempotencyKey : String
  reason : Option String := none
  deriving DecidableEq, Repr

/-- Klarna's answer to a capture or a refund.

Source: `BnplCaptureResponse`, `BnplRefundResponse` -/
inductive KlarnaAnswer where
  | success (reference : String)
  | failure (errorMessage : Option String)
  deriving DecidableEq, Repr

/-- Klarna's answer to a new order.

Source: `BnplOrderResponse` -/
inductive KlarnaDecision where
  | AUTHORIZED (providerOrderId : String)
  | REJECTED (errorMessage : Option String)
  deriving DecidableEq, Repr

/-- A capture or a refund that Klarna accepted. -/
structure KlarnaOperation where
  request : KlarnaRequest
  reference : String
  deriving DecidableEq, Repr

/-- The orders, the outbox, and what Klarna has accepted. -/
structure BnplDb where
  orders : Table BnplOrder.id
  outbox : List LedgerOutboxEvent
  captures : List KlarnaOperation
  refunds : List KlarnaOperation

namespace BnplDb

/-- No order, and nothing at Klarna. -/
def empty : BnplDb := ⟨.empty, [], [], []⟩

/-- Another order has the idempotency key, on which there is a unique index.

Source: `BnplOrderEntity.idempotencyKey` -/
def conflicts (db : BnplDb) (order : BnplOrder) : Bool :=
  db.orders.rows.any fun row => row.idempotencyKey = order.idempotencyKey ∧ row.id ≠ order.id

/-- Source: `bnpl-order-typeorm.repository.ts` `findByIdempotencyKey` -/
def findByIdempotencyKey (db : BnplDb) (idempotencyKey : String) : Option BnplOrder :=
  db.orders.find? (·.idempotencyKey = idempotencyKey)

end BnplDb

/-- The steps of the two calls.  A call remembers the state in which it read the order it refunds.

Source: `BnplService` -/
inductive BnplCmd where
  | findByIdempotencyKey (idempotencyKey : String)
  | findByMerchantId (merchantId : String)
  | createOrder (order : BnplOrder)
  | save (order : BnplOrder)
  | captureOrder (request : KlarnaRequest) (answer : KlarnaAnswer)
  | saveWithPayment (event : LedgerOutboxEvent)
  | findById (id : String)
  | refundOrder (request : KlarnaRequest) (answer : KlarnaAnswer)
  deriving DecidableEq

namespace BnplCmd

/-- What Klarna keeps of an operation it was asked for. -/
def accepted (request : KlarnaRequest) : KlarnaAnswer → List KlarnaOperation
  | .success reference => [⟨request, reference⟩]
  | .failure _ => []

/-- Source: `bnpl-order-typeorm.repository.ts`, `klarna-bnpl.adapter.ts` -/
def apply : BnplCmd → BnplDb → BnplDb
  | save order, db => if db.conflicts order then db else { db with orders := db.orders.put order }
  | captureOrder request answer, db =>
    { db with captures := db.captures ++ accepted request answer }
  | refundOrder request answer, db => { db with refunds := db.refunds ++ accepted request answer }
  | saveWithPayment event, db => { db with outbox := db.outbox ++ [event] }
  | _, db => db

end BnplCmd

instance : Commands BnplDb BnplCmd where
  apply := BnplCmd.apply
  observes
    | .findById _ => true
    | _ => false

/-- A program over the orders, the outbox and Klarna. -/
abbrev BnplProg := Prog BnplDb BnplCmd AppError

namespace BnplProg

/-- Issue a command that may fail; the state it met. -/
def issue (fault : Option (Fault AppError)) (c : BnplCmd) : BnplProg BnplDb := tryAct fault c ret

/-- Source: `bnpl-order-typeorm.repository.ts` `save` -/
def save (fault : Option (Fault AppError)) (order : BnplOrder) : BnplProg Unit := do
  let db ← issue fault (.save order)
  if db.conflicts order then throw (.plain "duplicate key value violates unique constraint")

end BnplProg

open BnplProg

/-! ### `createOrder` -/

/-- The steps of `createOrder` that can fail. -/
inductive CreateStep where
  | findByIdempotencyKey | findByMerchantId | createOrder | saveRejected | saveAuthorized
  | captureOrder | saveCaptured | saveWithPayment
  deriving DecidableEq, Repr

/-- A call of `createOrder`, with what it draws and what it meets: the `platformFeeBps` of the
merchant, if there is one, Klarna's answers, and the failures.

Source: `BnplService.createOrder` -/
structure CreateOrderCall where
  merchantId : String
  amount : Money
  idempotencyKey : String
  merchant : Option Nat
  orderId : String
  captureKey : String
  eventId : String
  now : Date
  orderResult : KlarnaDecision
  captureResult : KlarnaAnswer
  fault : CreateStep → Option (Fault AppError)

namespace CreateOrderCall

variable (call : CreateOrderCall)

/-- The order as it is saved before Klarna is asked to capture it. -/
def authorized (providerOrderId : String) : BnplOrder :=
  { BnplOrder.create call.orderId call.merchantId call.amount call.idempotencyKey with
    status := .AUTHORIZED, providerOrderId := some providerOrderId }

/-- What the call asks Klarna to capture. -/
def captureRequest (providerOrderId : String) : KlarnaRequest :=
  ⟨call.orderId, some providerOrderId, call.amount, call.captureKey, none⟩

/-- What follows a capture that Klarna accepted.

Source: `BnplService.createOrder` -/
def settle (platformFeeBps : Nat) (order : BnplOrder)
    (providerCaptureId : String) : BnplProg BnplOrder := do
  let order ← order.capture providerCaptureId call.now
  let platformFee ← call.amount.share platformFeeBps
  let providerFee ← calculateBnplProviderFee call.amount
  let outboxEvent ← LedgerOutboxEvent.createBnplCaptureEntries call.eventId order.id
    call.merchantId call.amount platformFee providerFee call.now
  save (call.fault .saveCaptured) order
  let _ ← issue (call.fault .saveWithPayment) (.saveWithPayment outboxEvent)
  pure order

/-- What follows Klarna's credit decision.

Source: `BnplService.createOrder` -/
def conclude (platformFeeBps : Nat) (order : BnplOrder) : BnplProg BnplOrder :=
  match call.orderResult with
  | .REJECTED errorMessage => do
      let order ← order.reject (errorMessage.getD "Klarna declined this order")
      save (call.fault .saveRejected) order
      throw (.http 422 (errorMessage.getD "Klarna declined this order") "BNPL_ORDER_REJECTED")
  | .AUTHORIZED providerOrderId => do
      let order ← order.authorize providerOrderId
      save (call.fault .saveAuthorized) order
      let _ ← issue (call.fault .captureOrder)
        (.captureOrder (call.captureRequest providerOrderId) call.captureResult)
      match call.captureResult with
      | .failure errorMessage =>
        throw (.http 422 (errorMessage.getD "Klarna capture failed") "BNPL_CAPTURE_FAILED")
      | .success providerCaptureId => call.settle platformFeeBps order providerCaptureId

/-- Source: `BnplService.createOrder` -/
def createOrder : BnplProg BnplOrder := do
  let db ← issue (call.fault .findByIdempotencyKey) (.findByIdempotencyKey call.idempotencyKey)
  match db.findByIdempotencyKey call.idempotencyKey with
  | some existing => pure existing
  | none => do
      let _ ← issue (call.fault .findByMerchantId) (.findByMerchantId call.merchantId)
      match call.merchant with
      | none => throw (.http 404 s!"Merchant {call.merchantId} not found" "MERCHANT_NOT_FOUND")
      | some platformFeeBps => do
          let order :=
            BnplOrder.create call.orderId call.merchantId call.amount call.idempotencyKey
          let _ ← issue (call.fault .createOrder) (.createOrder order)
          call.conclude platformFeeBps order

end CreateOrderCall

/-! ### `refundOrder` -/

/-- The steps of `refundOrder` that can fail. -/
inductive RefundStep where
  | findById | refundOrder | saveRefunded | saveWithPayment
  deriving DecidableEq, Repr

/-- A call of `refundOrder`, with what it draws and what it meets.

Source: `BnplService.refundOrder` -/
structure RefundOrderCall where
  id : String
  amount : Money
  reason : String
  refundKey : String
  refundId : String
  eventId : String
  now : Date
  refundResult : KlarnaAnswer
  fault : RefundStep → Option (Fault AppError)

namespace RefundOrderCall

/-- What the call asks Klarna to refund. -/
def refundRequest (call : RefundOrderCall) (order : BnplOrder) : KlarnaRequest :=
  ⟨call.id, order.providerOrderId, call.amount, call.refundKey, some call.reason⟩

/-- What follows a refund that Klarna accepted.

Source: `BnplService.refundOrder` -/
def settle (call : RefundOrderCall) (order : BnplOrder) (providerRefundId : String) :
    BnplProg BnplOrder := do
  let order ← order.refund call.refundId call.amount call.reason providerRefundId call.now
  let outboxEvent ← LedgerOutboxEvent.createBnplRefundEntries call.eventId order.id
    order.merchantId call.amount call.now
  save (call.fault .saveRefunded) order
  let _ ← issue (call.fault .saveWithPayment) (.saveWithPayment outboxEvent)
  pure order

/-- Source: `BnplService.refundOrder` -/
def refundOrder (call : RefundOrderCall) : BnplProg BnplOrder := do
  let db ← issue (call.fault .findById) (.findById call.id)
  match db.orders.get call.id with
  | none => throw (.http 404 s!"BNPL order {call.id} not found" "BNPL_ORDER_NOT_FOUND")
  | some order =>
    if order.Refundable then do
      let _ ← issue (call.fault .refundOrder)
        (.refundOrder (call.refundRequest order) call.refundResult)
      match call.refundResult with
      | .failure errorMessage =>
        throw (.http 422 (errorMessage.getD "Klarna refund failed") "BNPL_REFUND_FAILED")
      | .success providerRefundId => call.settle order providerRefundId
    else
      throw (.http 409 s!"BNPL order {call.id} is {order.status.text}, cannot refund"
        "BNPL_ORDER_NOT_REFUNDABLE")

end RefundOrderCall

/-- A call of either method.

Source: `BnplService` -/
inductive BnplCall where
  | createOrder (call : CreateOrderCall)
  | refundOrder (call : RefundOrderCall)

/-- The program of a call, its result dropped. -/
def BnplCall.program : BnplCall → BnplProg Unit
  | createOrder call => do let _ ← call.createOrder
  | refundOrder call => do let _ ← call.refundOrder

/-- Calls that start on no orders, to be run in any interleaving. -/
def bnplPool (calls : List BnplCall) : Pool BnplDb BnplCmd AppError :=
  ⟨.empty, (calls.map BnplCall.program).map Proc.start⟩

end OmniSwitch
