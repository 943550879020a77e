import OmniSwitch.Money

/-!
# Payment statuses and the transition graph

`payment-status.vo.ts`: the twelve statuses, `VALID_TRANSITIONS` and the check every transition
of the aggregate goes through.
-/

namespace OmniSwitch

/-- Source: `payment-status.vo.ts` `PaymentStatus` -/
inductive PaymentStatus where
  | PENDING
  | PROCESSING
  | REQUIRES_ACTION
  | REQUIRES_CAPTURE
  | PARTIALLY_CAPTURED
  | SUCCEEDED
  | FAILED
  | AMBIGUOUS
  | CANCELLED
  | REFUNDED
  | PARTIALLY_REFUNDED
  | DISPUTED
  deriving DecidableEq, Repr

namespace PaymentStatus

/-- The value of the enumeration, as it appears in messages and rows. -/
protected def toString : PaymentStatus → String
  | PENDING => "PENDING"
  | PROCESSING => "PROCESSING"
  | REQUIRES_ACTION => "REQUIRES_ACTION"
  | REQUIRES_CAPTURE => "REQUIRES_CAPTURE"
  | PARTIALLY_CAPTURED => "PARTIALLY_CAPTURED"
  | SUCCEEDED => "SUCCEEDED"
  | FAILED => "FAILED"
  | AMBIGUOUS => "AMBIGUOUS"
  | CANCELLED => "CANCELLED"
  | REFUNDED => "REFUNDED"
  | PARTIALLY_REFUNDED => "PARTIALLY_REFUNDED"
  | DISPUTED => "DISPUTED"

instance : ToString PaymentStatus := ⟨PaymentStatus.toString⟩

/-- The statuses that may follow each status.

Source: `payment-status.vo.ts` `VALID_TRANSITIONS` -/
def validTransitions : PaymentStatus → List PaymentStatus
  | PENDING => [PROCESSING, FAILED, CANCELLED]
  | PROCESSING => [REQUIRES_ACTION, REQUIRES_CAPTURE, SUCCEEDED, FAILED, AMBIGUOUS]
  | REQUIRES_ACTION => [PROCESSING, FAILED, CANCELLED]
  | REQUIRES_CAPTURE => [SUCCEEDED, PARTIALLY_CAPTURED, CANCELLED]
  | PARTIALLY_CAPTURED => [SUCCEEDED]
  | SUCCEEDED => [REFUNDED, PARTIALLY_REFUNDED, DISPUTED]
  | FAILED => []
  | AMBIGUOUS => [SUCCEEDED, FAILED]
  | CANCELLED => []
  | REFUNDED => []
  | PARTIALLY_REFUNDED => [REFUNDED, DISPUTED]
  | DISPUTED => [SUCCEEDED, PARTIALLY_REFUNDED, REFUNDED]

/-- Source: `payment-status.vo.ts` `isValidTransition` -/
def isValidTransition (source target : PaymentStatus) : Bool :=
  source.validTransitions.contains target

/-- The list of allowed targets in the message of a refused transition. -/
def allowedText (source : PaymentStatus) : String :=
  match source.validTransitions with
  | [] => "none"
  | targets => ", ".intercalate (targets.map PaymentStatus.toString)

/-- Source: `payment-status.vo.ts` `assertValidTransition` -/
def assertValidTransition (source target : PaymentStatus) : Except AppError Unit :=
  if source.isValidTransition target then .ok ()
  else .error (.plain (s!"Invalid payment status transition: {source} -> {target}. " ++
    s!"Allowed transitions from {source}: [{source.allowedText}]"))

@[simp] lemma assertValidTransition_eq_ok {source target : PaymentStatus} {u : Unit} :
    assertValidTransition source target = .ok u ↔ source.isValidTransition target := by
  unfold assertValidTransition
  split_ifs with h <;> simp [h]

end PaymentStatus

end OmniSwitch
