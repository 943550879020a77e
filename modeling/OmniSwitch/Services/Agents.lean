import OmniSwitch.Delegation
import OmniSwitch.ChargeRetries

/-!
# Charges by agents

`delegation.service.ts`, `charge-approval.service.ts` and the part of `payment.controller.ts` that
serves agents.  An agent's charge reserves its amount with the delegation, and is then executed, or
waits for an operator to approve or deny it.  The checkout is the one of `Services.Checkout`, on the
payments' part of the database; its commands carry the delegation they are issued for.

Every operation of the database may fail, by the `fault` of the request that meets it.  The
controller and the services handle the errors of the checkout; one of an operation of their own ends
the request.  The agent's token and the guards that check it are left out, and so are the
presentment amount and the operations that only read.
-/

namespace OmniSwitch

open Lib Prog

/-! ### Approvals -/

/-- What a charge request asks for; its amounts are those that `Money.of` makes of the body's. -/
structure ChargePaymentDto where
  amount : Money
  category : Option String := none
  binInfo : Option BinInfo := none
  paymentMethodId : Option String := none
  preferredProvider : Option PSPProvider := none
  splits : List RequestedSplit := []
  /-- `captureMethod` is `manual`. -/
  manual : Bool := false

/-- Source: `ChargeApprovalStatus` -/
inductive ChargeApprovalStatus where
  | PENDING | APPROVED | DENIED
  deriving DecidableEq, Repr

/-- The name of the status, as error messages have it. -/
def ChargeApprovalStatus.name : ChargeApprovalStatus → String
  | PENDING => "PENDING"
  | APPROVED => "APPROVED"
  | DENIED => "DENIED"

/-- Source: `ChargeApproval` -/
structure ChargeApproval where
  id : String
  paymentId : String
  delegationId : String
  merchantId : String
  amount : Money
  idempotencyKey : String
  chargeRequest : ChargePaymentDto
  status : ChargeApprovalStatus := .PENDING
  createdAt : Date
  decidedAt : Option Date := none
  decidedBy : Option String := none
  denialReason : Option String := none

namespace ChargeApproval

/-- Source: `ChargeApproval.deny` -/
def deny (approval : ChargeApproval) (now : Date) (decidedBy : String) (reason : Option String) :
    Except AppError ChargeApproval :=
  if approval.status ≠ .PENDING then
    .error (.plain s!"Charge approval {approval.id} is already {approval.status.name}")
  else
    .ok { approval with
      status := .DENIED, decidedAt := some now, decidedBy := some decidedBy,
      denialReason := reason }

/-- The conditional `UPDATE` of a decision: `SET status = … WHERE id = … AND status = 'PENDING'`.

Source: `ChargeApprovalTypeOrmRepository.markApproved`, `markDenied` -/
def decided (approval : ChargeApproval) (status : ChargeApprovalStatus) (now : Date)
    (decidedBy : String) (reason : Option String) : ChargeApproval :=
  if approval.status = .PENDING then
    { approval with
      status := status, decidedAt := some now, decidedBy := some decidedBy, denialReason := reason }
  else approval

lemma id_decided (approval : ChargeApproval) (status : ChargeApprovalStatus) (now : Date)
    (decidedBy : String) (reason : Option String) :
    (approval.decided status now decidedBy reason).id = approval.id := by
  unfold decided
  split_ifs <;> rfl

end ChargeApproval

/-! ### The tables -/

/-- The tables the services share.

Source: `payment.entity.ts` and the tables beside it, `delegation.entity.ts`,
`charge-approval.entity.ts` -/
structure AgentDb where
  payments : Db
  delegations : Table Delegation.id
  approvals : Table ChargeApproval.id

/-- An operation of the database, or a call to a PSP.

Source: `delegation.port.ts`, `charge-approval.port.ts` -/
inductive AgentCmd where
  /-- A command of a payment service, with the `delegationId` of the checkout that issues it. -/
  | payments (delegationId : Option String) (c : Cmd)
  | findDelegation (id : String)
  | saveDelegation (delegation : Delegation)
  | tryReserveSpend (id : String) (amount : Money) (now : Date)
  | releaseSpend (id : String) (amount : Money)
  | findApproval (id : String)
  | saveApproval (approval : ChargeApproval)
  | markApproved (id : String) (now : Date) (decidedBy : String)
  | markDenied (id : String) (now : Date) (decidedBy : String) (reason : Option String)

namespace AgentDb

/-- The rows a reservation's `UPDATE` changes and returns. -/
def reservedRows (db : AgentDb) (id : String) (amount : Money) (now : Date) : List String :=
  ((db.delegations.get id).filter (·.Reserves amount now)).toList.map (·.id)

/-- What a reservation is reported as.

Source: `DelegationTypeOrmRepository.tryReserveSpend` -/
def reserves (db : AgentDb) (id : String) (amount : Money) (now : Date) : Bool :=
  reportsReserved (db.reservedRows id amount now)

/-- The table after it. -/
def tryReserveSpend (db : AgentDb) (id : String) (amount : Money) (now : Date) : AgentDb :=
  { db with
    delegations := db.delegations.modify id (·.tryReserveSpend amount now)
      fun delegation h => (delegation.tryReserveSpend_id amount now).trans h }

/-- Source: `DelegationTypeOrmRepository.releaseSpend` -/
def releaseSpend (db : AgentDb) (id : String) (amount : Money) : AgentDb :=
  { db with delegations := db.delegations.modify id (·.releaseSpend amount) fun _ h => h }

/-- The approval is pending. -/
def isPending (db : AgentDb) (id : String) : Bool :=
  (db.approvals.get id).any (·.status = .PENDING)

/-- Source: `ChargeApprovalTypeOrmRepository.markApproved`, `markDenied` -/
def decide (db : AgentDb) (id : String) (status : ChargeApprovalStatus) (now : Date)
    (decidedBy : String) (reason : Option String) : AgentDb :=
  { db with
    approvals := db.approvals.modify id (·.decided status now decidedBy reason)
      fun approval h => (approval.id_decided status now decidedBy reason).trans h }

end AgentDb

/-- The effect of a command on the tables.

Source: `delegation-typeorm.repository.ts`, `charge-approval-typeorm.repository.ts` -/
def AgentCmd.apply : AgentCmd → AgentDb → AgentDb
  | .payments _ c, db => { db with payments := c.apply db.payments }
  | .saveDelegation delegation, db => { db with delegations := db.delegations.put delegation }
  | .tryReserveSpend id amount now, db => db.tryReserveSpend id amount now
  | .releaseSpend id amount, db => db.releaseSpend id amount
  | .saveApproval approval, db => { db with approvals := db.approvals.put approval }
  | .markApproved id now decidedBy, db => db.decide id .APPROVED now decidedBy none
  | .markDenied id now decidedBy reason, db => db.decide id .DENIED now decidedBy reason
  | _, db => db

instance : Commands AgentDb AgentCmd where
  apply := AgentCmd.apply
  observes
    | .findApproval _ => true
    | _ => false

/-- The programs of the requests. -/
abbrev Agents (α : Type) := Prog AgentDb AgentCmd AppError α

/-- What a request meets outside. -/
structure AgentEnv where
  now : Date
  checkout : PaymentCheckoutSaga.CheckoutEnv
  /-- The operations of the database that fail. -/
  fault : AgentCmd → Option (Fault AppError) := fun _ => none

namespace AgentEnv

/-- One operation; what it comes to is read off the database it found. -/
def issue (env : AgentEnv) (c : AgentCmd) : Agents AgentDb := tryAct (env.fault c) c ret

/-- The checkout, under the delegation of its input. -/
def execute (env : AgentEnv) (input : PaymentCheckoutSaga.CheckoutSagaInput) :
    Agents PaymentCheckoutSaga.CheckoutSagaResult :=
  let delegationId := truthy input.delegationId
  (PaymentCheckoutSaga.executeDisturbed env.checkout (fun c => env.fault (.payments delegationId c))
    input).embed (.payments delegationId) AgentDb.payments

end AgentEnv

/-! ### Delegations -/

namespace DelegationService

/-- What a new delegation is to be. -/
structure CreateDelegationParams where
  merchantId : String
  perTransactionLimit : Money
  monthlyLimit : Money
  allowedCategories : Option (List String) := none
  requireApprovalAboveAmount : Option Money := none
  tokenTtlSeconds : Option Nat := none

/-- Source: `delegation.service.ts` `DEFAULT_AGENT_TOKEN_TTL_SECONDS` -/
def defaultAgentTokenTtlSeconds : Nat := 24 * 3600

/-- `sanctionsHit` is whether the merchant's screening status is `HIT`; `id` and `jti` are drawn at
random. -/
def createDelegation (env : AgentEnv) (params : CreateDelegationParams) (sanctionsHit : Bool)
    (id jti : String) : Agents Unit :=
  if sanctionsHit then
    throw (.http 422
      (s!"Merchant {params.merchantId} has a confirmed sanctions screening match — " ++
      "cannot authorize new delegations") "SANCTIONS_SCREENING_HIT")
  else do
    let spendPolicy ← SpendPolicy.create params.perTransactionLimit params.monthlyLimit
      params.allowedCategories params.requireApprovalAboveAmount
    let expiresIn := params.tokenTtlSeconds.getD defaultAgentTokenTtlSeconds
    let delegation := Delegation.create id params.merchantId spendPolicy jti
      (env.now + expiresIn * 1000) env.now
    let _ ← env.issue (.saveDelegation delegation)
    return ()

/-- Source: `DelegationService.getOrThrow` -/
def getOrThrow (env : AgentEnv) (id : String) : Agents Delegation := do
  let db ← env.issue (.findDelegation id)
  match db.delegations.get id with
  | none => throw (.http 404 s!"Delegation {id} not found" "DELEGATION_NOT_FOUND")
  | some delegation => return delegation

/-- `revokeToken` is what revoking the agent's token comes to. -/
def revoke (env : AgentEnv) (id : String) (revokeToken : Except AppError Unit) : Agents Unit := do
  let delegation ← getOrThrow env id
  if delegation.status = .REVOKED then
    throw (.http 409 s!"Delegation {id} is already revoked" "DELEGATION_ALREADY_REVOKED")
  else
    let _ ← env.issue (.saveDelegation (delegation.revoke env.now))
    revokeToken

/-- The checks of a charge against the delegation, before its amount is reserved.

Source: `DelegationService.reserveSpendOrThrow` -/
def checkSpend (delegationId : String) (delegation : Delegation) (amount : Money)
    (category : Option String) (now : Date) : Except AppError Unit :=
  let policy := delegation.spendPolicy
  if delegation.status ≠ .ACTIVE then
    .error (.http 403 s!"Delegation {delegationId} has been revoked" "DELEGATION_REVOKED")
  else if amount.currency.code ≠ policy.currency then
    .error (.http 422
      (s!"Charge currency {amount.currency.code} does not match this delegation's " ++
      s!"spend-policy currency {policy.currency}") "DELEGATION_CURRENCY_MISMATCH")
  else do
    let exceeds ← amount.isGreaterThan policy.perTransactionLimit
    if exceeds then
      .error (.http 422 (s!"Charge of {amount.toString} exceeds this delegation's " ++
        s!"per-transaction limit of {policy.perTransactionLimit.toString}")
        "DELEGATION_PER_TRANSACTION_LIMIT_EXCEEDED")
    else if !policy.isCategoryAllowed category then
      let asked := category.getD "(none)"
      .error (.http 422 s!"Category '{asked}' is not allowed by this delegation's spend policy"
        "DELEGATION_CATEGORY_NOT_ALLOWED")
    else
      let spentSoFar := delegation.spentThisMonth now
      let total ← spentSoFar.add amount
      let exceeds ← total.isGreaterThan policy.monthlyLimit
      if exceeds then
        .error (.http 422 (s!"Charge of {amount.toString} would exceed this delegation's " ++
          s!"remaining monthly budget ({spentSoFar.toString} already spent of " ++
          s!"{policy.monthlyLimit.toString} this month)") "DELEGATION_MONTHLY_LIMIT_EXCEEDED")
      else .ok ()

/-- The last branch is not reached: the repository reports every reservation as made. -/
def reserveSpendOrThrow (env : AgentEnv) (delegationId : String) (amount : Money)
    (category : Option String) : Agents Delegation := do
  let delegation ← getOrThrow env delegationId
  checkSpend delegationId delegation amount category env.now
  let db ← env.issue (.tryReserveSpend delegationId amount env.now)
  if db.reserves delegationId amount env.now then return delegation
  else
    throw (.http 422
      (s!"Charge of {amount.toString} would exceed this delegation's spend policy " ++
      "(lost a race with a concurrent charge)") "DELEGATION_SPEND_LIMIT_EXCEEDED")

/-- Source: `DelegationService.releaseReservation` -/
def releaseReservation (env : AgentEnv) (delegationId : String) (amount : Money) : Agents Unit := do
  let _ ← env.issue (.releaseSpend delegationId amount)
  return ()

end DelegationService

/-- Source: `build-checkout-saga-input.ts` `buildCheckoutSagaInput` -/
def buildCheckoutSagaInput (paymentId merchantId idempotencyKey : String) (dto : ChargePaymentDto)
    (delegationId : Option String) (initiatedBy : Option PaymentInitiator)
    (agentPercentOfRemainingMonthlyBudget : Option Rat) :
    PaymentCheckoutSaga.CheckoutSagaInput where
  paymentId := paymentId
  idempotencyKey := idempotencyKey
  amount := dto.amount
  merchantId := merchantId
  binInfo := dto.binInfo
  paymentMethodId := dto.paymentMethodId
  preferredProvider := dto.preferredProvider
  splits := dto.splits
  delegationId := delegationId
  initiatedBy := initiatedBy
  agentPercentOfRemainingMonthlyBudget := agentPercentOfRemainingMonthlyBudget

/-! ### Approval and denial -/

namespace ChargeApprovalService

open DelegationService PaymentCheckoutSaga

/-- Source: `ChargeApprovalService.createPendingApproval` -/
def createPendingApproval (env : AgentEnv) (approval : ChargeApproval) : Agents ChargeApproval := do
  let _ ← env.issue (.saveApproval approval)
  return approval

/-- Source: `ChargeApprovalService.findById` -/
def findById (env : AgentEnv) (id : String) : Agents ChargeApproval := do
  let db ← env.issue (.findApproval id)
  match db.approvals.get id with
  | none => throw (.http 404 s!"Charge approval {id} not found" "CHARGE_APPROVAL_NOT_FOUND")
  | some approval => return approval

/-- The error of a second decision. -/
def alreadyDecided (id : String) (status : ChargeApprovalStatus) : AppError :=
  .http 409 s!"Charge approval {id} is already {status.name}" "CHARGE_APPROVAL_ALREADY_DECIDED"

/-- The answer to a decision that another one has overtaken. -/
def decidedByAnother (id : String) : AppError :=
  .http 409 s!"Charge approval {id} was already decided by another request"
    "CHARGE_APPROVAL_ALREADY_DECIDED"

/-- The share of what is left of the month's budget that the charge takes, its own reservation
backed out; `none` where that means nothing.

Source: `ChargeApprovalService.deriveAgentPercentOfRemainingMonthlyBudget` -/
def percentOfRemaining (delegation : Delegation) (chargeAmount : Money) (now : Date) :
    Except AppError (Option Rat) := do
  let currentSpent := delegation.spentThisMonth now
  let rolledOver ← currentSpent.isLessThan chargeAmount
  if rolledOver then .ok none
  else
    let others ← currentSpent.subtract chargeAmount
    let remaining ← delegation.spendPolicy.monthlyLimit.subtract others
    let short ← remaining.isLessThan chargeAmount
    if remaining.isZero || short then .ok none
    else .ok (some (chargeAmount.amount / remaining.amount * 100))

/-- At best effort: without the delegation, or on any error, the share is left out. -/
def deriveAgentPercentOfRemainingMonthlyBudget (env : AgentEnv) (delegationId : String)
    (chargeAmount : Money) : Agents (Option Rat) :=
  tryCatch
    (do
      let delegation ← getOrThrow env delegationId
      percentOfRemaining delegation chargeAmount env.now)
    fun _ => return none

/-- A checkout for which an amount is reserved: the reservation is released if the checkout ends in
an error or with a payment that has failed.

Source: `PaymentController.charge`; `ChargeApprovalService.approve` -/
def executeReserved (env : AgentEnv) (delegationId : String) (amount : Money)
    (input : CheckoutSagaInput) : Agents CheckoutSagaResult := do
  let result ← tryCatch (env.execute input) fun e => do
    releaseReservation env delegationId amount
    throw e
  if result.status = .FAILED then
    releaseReservation env delegationId amount
    return result
  else return result

/-- Source: `ChargeApprovalService.approve` -/
def approve (env : AgentEnv) (id decidedBy : String) : Agents CheckoutSagaResult := do
  let approval ← findById env id
  if approval.status ≠ .PENDING then throw (alreadyDecided id approval.status)
  else
    let db ← env.issue (.markApproved id env.now decidedBy)
    if !db.isPending id then throw (decidedByAnother id)
    else
      let percent ← deriveAgentPercentOfRemainingMonthlyBudget env approval.delegationId
        approval.amount
      executeReserved env approval.delegationId approval.amount
        (buildCheckoutSagaInput approval.paymentId approval.merchantId approval.idempotencyKey
          approval.chargeRequest (some approval.delegationId) (some .agent) percent)

/-- Source: `ChargeApprovalService.deny` -/
def deny (env : AgentEnv) (id decidedBy : String) (reason : Option String) :
    Agents ChargeApproval := do
  let approval ← findById env id
  if approval.status ≠ .PENDING then throw (alreadyDecided id approval.status)
  else
    let db ← env.issue (.markDenied id env.now decidedBy reason)
    if !db.isPending id then throw (decidedByAnother id)
    else
      releaseReservation env approval.delegationId approval.amount
      approval.deny env.now decidedBy reason

end ChargeApprovalService

/-! ### The charge -/

namespace AgentPayments

open DelegationService ChargeApprovalService PaymentCheckoutSaga

/-- Who asks for a charge, by its token: a merchant, or an agent with its delegation. -/
structure Caller where
  merchantId : String
  isAgent : Bool := true
  delegationId : Option String := none

/-- A charge request, with the ids that are drawn for it. -/
structure ChargeCall where
  caller : Caller
  dto : ChargePaymentDto
  idempotencyKey : String
  paymentId : String
  approvalId : String

/-- Source: `ChargePaymentResponseDto` -/
inductive ChargeReply where
  /-- Status `PENDING_APPROVAL`. -/
  | pendingApproval (approval : ChargeApproval)
  | charged (result : CheckoutSagaResult)

/-- What the controller makes of the request when it is to wait.

Source: `PaymentController.charge` -/
def pendingApproval (call : ChargeCall) (delegationId : String) (delegation : Delegation)
    (now : Date) : ChargeApproval where
  id := call.approvalId
  paymentId := call.paymentId
  delegationId := delegationId
  merchantId := delegation.merchantId
  amount := call.dto.amount
  idempotencyKey := call.idempotencyKey
  chargeRequest := call.dto
  createdAt := now

/-- The charge of an agent, once the request has been checked.

Source: `PaymentController.charge` -/
def chargeAsAgent (env : AgentEnv) (call : ChargeCall) (delegationId : String) :
    Agents ChargeReply := do
  let amount := call.dto.amount
  let delegation ← reserveSpendOrThrow env delegationId amount call.dto.category
  let remaining ← delegation.spendPolicy.monthlyLimit.subtract (delegation.spentThisMonth env.now)
  let requiresApproval ← delegation.spendPolicy.requiresApproval amount
  if requiresApproval then
    let approval ← createPendingApproval env
      (pendingApproval call delegationId delegation env.now)
    return .pendingApproval approval
  else
    let result ← executeReserved env delegationId amount
      (buildCheckoutSagaInput call.paymentId call.caller.merchantId call.idempotencyKey call.dto
        (some delegationId) (some .agent) (some (amount.amount / remaining.amount * 100)))
    return .charged result

/-- Source: `PaymentController.charge` -/
def charge (env : AgentEnv) (call : ChargeCall) : Agents ChargeReply :=
  if call.idempotencyKey.isEmpty then
    throw (.http 400 "Idempotency-Key header is required" "MISSING_IDEMPOTENCY_KEY")
  else if !call.dto.splits.isEmpty && call.dto.manual then
    throw (.http 409 ("Marketplace splits require captureMethod \"automatic\" (the default) — a " ++
      "manual capture cannot be split") "SPLIT_REQUIRES_AUTOMATIC_CAPTURE")
  else if call.caller.isAgent then
    match truthy call.caller.delegationId with
    | none =>
      throw (.http 403 "Agent token is missing its delegation reference" "DELEGATION_MISSING")
    | some delegationId => chargeAsAgent env call delegationId
  else do
    let result ← env.execute (buildCheckoutSagaInput call.paymentId call.caller.merchantId
      call.idempotencyKey call.dto none none none)
    return .charged result

end AgentPayments

/-! ### Requests -/

/-- A request to the services, with what it meets outside.

Source: `payment.controller.ts`, `delegation.controller.ts`, `charge-approval.controller.ts` -/
inductive AgentRequest where
  | charge (env : AgentEnv) (call : AgentPayments.ChargeCall)
  | approve (env : AgentEnv) (approvalId decidedBy : String)
  | deny (env : AgentEnv) (approvalId decidedBy : String) (reason : Option String)
  | createDelegation (env : AgentEnv) (params : DelegationService.CreateDelegationParams)
      (sanctionsHit : Bool) (id jti : String)
  | revoke (env : AgentEnv) (delegationId : String) (revokeToken : Except AppError Unit)
  /-- A request to any of the services for payments. -/
  | operation (op : Operation)

/-- The program of a request. -/
def AgentRequest.program : AgentRequest → Agents Unit
  | charge env call => do
      let _ ← AgentPayments.charge env call
      return ()
  | approve env id decidedBy => do
      let _ ← ChargeApprovalService.approve env id decidedBy
      return ()
  | deny env id decidedBy reason => do
      let _ ← ChargeApprovalService.deny env id decidedBy reason
      return ()
  | createDelegation env params sanctionsHit id jti =>
    DelegationService.createDelegation env params sanctionsHit id jti
  | revoke env id revokeToken => DelegationService.revoke env id revokeToken
  | operation op => op.program.embed (.payments none) AgentDb.payments

namespace Sample

open AgentPayments

/-- A delegation of 100 dollars a month, of which charges above 5 dollars are to be approved. -/
def supervised (id : String) : Delegation where
  id := id
  merchantId := input.merchantId
  spendPolicy := ⟨⟨9000, usd⟩, ⟨10000, usd⟩, none, some ⟨500, usd⟩, (rfl : usd.code = usd.code),
    (by decide : 9000 ≤ 10000), by simp⟩
  currentMonthKey := "2026-01"
  jti := "jti-1"
  tokenExpiresAt := 0

/-- Two delegations, under which nothing has been charged. -/
def agentDb : AgentDb where
  payments := Db.empty
  delegations := (Table.empty.put (supervised "del_1")).put (supervised "del_2")
  approvals := .empty

/-- Both PSPs accept. -/
def agentEnv : AgentEnv where
  now := 1769817600000
  checkout := checkoutEnv fun _ provider => .ok (accepts provider)

/-- A charge of ten dollars. -/
def agentCharge (delegationId : String) : ChargeCall where
  caller := { merchantId := input.merchantId, delegationId := some delegationId }
  dto := { amount := tenDollars }
  idempotencyKey := "key-1"
  paymentId := "payment-1"
  approvalId := "approval-1"

end Sample

end OmniSwitch
