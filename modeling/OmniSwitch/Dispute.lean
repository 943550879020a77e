import OmniSwitch.Payment

/-!
# Disputes

`dispute.aggregate.ts` and `dispute-policy.ts`: the record of a chargeback and the policy that
decides, when one is created, whether evidence is submitted at once.
-/

namespace OmniSwitch

/-- Source: `DisputeStatus` -/
inductive DisputeStatus where
  | NEEDS_RESPONSE | UNDER_REVIEW | WON | LOST
  deriving DecidableEq, Repr

/-- The text of a status. -/
protected def DisputeStatus.toString : DisputeStatus → String
  | NEEDS_RESPONSE => "NEEDS_RESPONSE"
  | UNDER_REVIEW => "UNDER_REVIEW"
  | WON => "WON"
  | LOST => "LOST"

instance : ToString DisputeStatus := ⟨DisputeStatus.toString⟩

/-- Source: `DisputeAutoDecision` -/
inductive DisputeAutoDecision where
  | ACCEPT | CONTEST | MANUAL_REVIEW
  deriving DecidableEq, Repr

/-- Source: `dispute-policy.ts` `decideAutoDisposition` -/
inductive RiskTier where
  | LOW | MEDIUM | HIGH
  deriving DecidableEq, Repr

/-! ### Policy -/

/-- The thresholds of the policy, configurable with these defaults.

Source: `DisputeService.constructor` -/
structure DisputePolicyConfig where
  autoAcceptThresholdMajorUnits : Rat := 15
  lowRiskThresholdMultiplier : Rat := 1 / 2
  highRiskThresholdMultiplier : Rat := 2

/-- Source: `dispute-policy.ts` `AUTO_CONTESTABLE_REASONS` -/
def autoContestableReasons : List String := ["product_not_received", "duplicate"]

/-- Source: `dispute-policy.ts` `LOW_RISK_EXTRA_CONTESTABLE_REASONS` -/
def lowRiskExtraContestableReasons : List String := ["subscription_canceled"]

/-- Source: `dispute-policy.ts` `decideAutoDisposition` -/
def decideAutoDisposition (config : DisputePolicyConfig) (amount : Money)
    (reason : Option String) (merchantRiskTier : Option RiskTier) : DisputeAutoDecision :=
  let effectiveThreshold := match merchantRiskTier with
    | some .LOW => config.autoAcceptThresholdMajorUnits * config.lowRiskThresholdMultiplier
    | some .HIGH => config.autoAcceptThresholdMajorUnits * config.highRiskThresholdMultiplier
    | _ => config.autoAcceptThresholdMajorUnits
  let contestableReasons := match merchantRiskTier with
    | some .LOW => autoContestableReasons ++ lowRiskExtraContestableReasons
    | _ => autoContestableReasons
  if amount.amount < effectiveThreshold then .ACCEPT
  else if (truthy reason).any contestableReasons.contains then .CONTEST
  else .MANUAL_REVIEW

/-- Source: `dispute-policy.ts` `autoContestEvidenceFor` -/
def autoContestEvidenceFor (reason : Option String) : String :=
  match reason with
  | some "product_not_received" =>
    "Automated response (dispute policy): shipment/delivery confirmation is on file for this " ++
      "order. Operator: verify tracking before this dispute's response deadline in case a " ++
      "fuller submission is warranted."
  | some "duplicate" =>
    "Automated response (dispute policy): transaction records on file show this as a single, " ++
      "non-duplicate charge. Operator: confirm no duplicate settlement occurred before this " ++
      "dispute's response deadline."
  | some "subscription_canceled" =>
    "Automated response (dispute policy): billing records on file show this subscription was " ++
      "active and not canceled as of the charge date. Operator: confirm the cancellation " ++
      "policy/timestamp before this dispute's response deadline."
  | _ => "Automated response (dispute policy): evidence submitted per default dispute policy."

/-! ### The aggregate -/

/-- Source: `Dispute` -/
structure Dispute where
  id : String
  paymentId : String
  merchantId : String
  pspProvider : PSPProvider
  pspDisputeId : String
  amount : Money
  reason : Option String
  status : DisputeStatus
  respondBy : Date
  evidence : Option String
  createdAt : Date
  autoDecision : Option DisputeAutoDecision
  delegationId : Option String
  initiatedBy : Option PaymentInitiator
  merchantRiskTierAtDecision : Option RiskTier
  deriving DecidableEq, Repr

namespace Dispute

/-- Seven days, in milliseconds.

Source: `dispute.aggregate.ts` `DEFAULT_RESPONSE_WINDOW_DAYS` -/
def responseWindow : Nat := 7 * 24 * 60 * 60 * 1000

/-- Source: `Dispute.create` -/
def create (id paymentId merchantId : String) (pspProvider : PSPProvider) (pspDisputeId : String)
    (amount : Money) (reason : Option String) (autoDecision : DisputeAutoDecision)
    (delegationId : Option String) (initiatedBy : Option PaymentInitiator)
    (merchantRiskTierAtDecision : Option RiskTier) (now : Date) : Dispute :=
  { id, paymentId, merchantId, pspProvider, pspDisputeId, amount, reason, delegationId
    initiatedBy, merchantRiskTierAtDecision
    status := .NEEDS_RESPONSE
    respondBy := now + responseWindow
    evidence := none
    createdAt := now
    autoDecision := some autoDecision }

/-- Source: `Dispute.submitEvidence` -/
def submitEvidence (d : Dispute) (evidence : String) : Except AppError Dispute :=
  if d.status ≠ .NEEDS_RESPONSE then
    .error (.plain s!"Cannot submit evidence for dispute in status: {d.status}")
  else
    .ok { d with evidence := some evidence, status := .UNDER_REVIEW }

/-- The status that an outcome leads to. -/
def outcomeStatus : DisputeOutcome → DisputeStatus
  | .WON => .WON
  | .LOST => .LOST

/-- Source: `Dispute.resolve` -/
def resolve (d : Dispute) (outcome : DisputeOutcome) : Except AppError Dispute :=
  if d.status = .WON ∨ d.status = .LOST then
    .error (.plain s!"Dispute is already resolved: {d.status}")
  else
    .ok { d with status := outcomeStatus outcome }

/-- Still awaiting its outcome: a resolution can still be applied to it. -/
def isOpen (d : Dispute) : Bool := d.status = .NEEDS_RESPONSE || d.status = .UNDER_REVIEW

lemma isOpen_iff {d : Dispute} : d.isOpen ↔ d.status ≠ .WON ∧ d.status ≠ .LOST := by
  unfold isOpen
  cases d.status <;> decide

end Dispute

end OmniSwitch
