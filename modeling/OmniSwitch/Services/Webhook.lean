import OmniSwitch.Services.Ambiguous

/-!
# Disputes and PSP webhooks

`dispute.service.ts` and `webhook-processing.service.ts`: the handlers of the PSPs'
notifications.  All of them save the payment unconditionally, from the copy they loaded.  The
emission of domain events is left out.
-/

namespace OmniSwitch

open Lib

/-! ### Disputes -/

namespace DisputeService

/-- What recording a dispute meets outside: the id it draws, the clock, the merchant's risk tier
and the PSP's answer to evidence. -/
structure RecordEnv where
  disputeId : String
  now : Date
  policy : DisputePolicyConfig
  tier : Except AppError (Option RiskTier)
  /-- Whether the PSP accepted the evidence; an error that was thrown counts as a refusal. -/
  evidenceAccepted : Bool

/-- What is recorded of a dispute.

Source: `DisputeService.recordDispute` -/
structure RecordParams where
  paymentId : String
  merchantId : String
  pspProvider : PSPProvider
  pspDisputeId : String
  amount : Money
  reason : Option String

/-- Evidence the policy submits at once; a refusal leaves the dispute for manual review.

Source: `DisputeService.recordDispute` -/
def autoContest (env : RecordEnv) (dispute : Dispute) : App Dispute := do
  if dispute.autoDecision = some .CONTEST then
    let evidence := autoContestEvidenceFor dispute.reason
    callPsp dispute.pspProvider (.submitDisputeEvidence dispute.pspDisputeId evidence)
    if env.evidenceAccepted then dispute.submitEvidence evidence else return dispute
  else return dispute

/-- Source: `DisputeService.recordDispute` -/
def recordDispute (env : RecordEnv) (params : RecordParams) : App Unit := do
  match ← findByPspDisputeId params.pspDisputeId with
  | some _ => return ()
  | none =>
    let tier ← env.tier
    let payment ← findByIdOnMaster params.paymentId
    let dispute := Dispute.create env.disputeId params.paymentId params.merchantId
      params.pspProvider params.pspDisputeId params.amount params.reason
      (decideAutoDisposition env.policy params.amount params.reason tier)
      (payment.bind PaymentAggregate.delegationId) (payment.map PaymentAggregate.initiatedBy)
      tier env.now
    let dispute ← autoContest env dispute
    saveDispute dispute

/-- What the resolution of a dispute meets outside. -/
structure ResolveEnv where
  eventId : String
  now : Date
  convertTo : Money.ConvertTo := Money.convertTo

/-- The payment's side of a resolution: a loss is booked as a refund of the dispute's amount.

Source: `DisputeService.resolveByPspDisputeId` -/
def settlePayment (env : ResolveEnv) (dispute : Dispute) (resolved : PaymentAggregate)
    (outcome : DisputeOutcome) : App Unit :=
  match outcome with
  | .LOST => do
      let event ← LedgerOutboxEvent.createRefundEntries env.convertTo env.eventId resolved.id
        resolved.merchantId dispute.amount resolved.settlementConversion resolved.splits
        (resolved.splits.map fun _ => resolved.amount) env.now
      saveInTransaction resolved event none env.now
  | .WON => updatePayment resolved env.now

/-- Source: `DisputeService.resolveByPspDisputeId` -/
def resolveByPspDisputeId (env : ResolveEnv) (pspDisputeId : String) (outcome : DisputeOutcome) :
    App Unit := do
  match ← findByPspDisputeId pspDisputeId with
  | none => return ()
  | some dispute =>
    if dispute.status = .WON ∨ dispute.status = .LOST then return ()
    else
      let payment ← findByIdOnMaster dispute.paymentId
      match payment.filter (·.status = .DISPUTED) with
      | none =>
        let resolvedDispute ← dispute.resolve outcome
        saveDispute resolvedDispute
      | some payment =>
        let resolvedDispute ← dispute.resolve outcome
        let resolved ← payment.resolveDispute outcome env.now
        settlePayment env dispute resolved outcome
        saveDispute resolvedDispute

end DisputeService

open DisputeService

/-! ### Webhooks -/

namespace WebhookProcessing

/-- What a webhook meets outside. -/
structure WebhookEnv where
  booking : BookingEnv
  record : RecordEnv
  resolve : ResolveEnv

/-- The payment a success webhook confirms: a challenge that was pending is completed first.

Source: `WebhookProcessingService.markSucceeded` -/
def confirm (payment : PaymentAggregate) (pspTransactionId raw : String) :
    Except AppError PaymentAggregate :=
  if payment.status = .REQUIRES_ACTION then do
    let payment ← payment.completeThreeDS true
    payment.markSucceeded pspTransactionId { pspRawResponse := some raw }
  else payment.markSucceeded pspTransactionId { pspRawResponse := some raw }

/-- Source: `WebhookProcessingService.markSucceeded` -/
def markSucceeded (env : WebhookEnv) (pspTransactionId raw : String) : App Unit := do
  match ← findByPspTransactionId pspTransactionId with
  | none => return ()
  | some payment =>
    if payment.status = .SUCCEEDED then return ()
    else if payment.status ≠ .PROCESSING ∧ payment.status ≠ .REQUIRES_ACTION then return ()
    else
      let succeeded ← confirm payment pspTransactionId raw
      let _ ← bookSucceeded env.booking succeeded

/-- Source: `WebhookProcessingService.markFailed` -/
def markFailed (env : WebhookEnv) (pspTransactionId reason : String)
    (errorCode : Option String) : App Unit := do
  match ← findByPspTransactionId pspTransactionId with
  | none => return ()
  | some payment =>
    if payment.status = .FAILED then return ()
    else if payment.status ≠ .PROCESSING ∧ payment.status ≠ .REQUIRES_ACTION then return ()
    else
      let failed ← payment.markFailed reason errorCode none none
      updatePayment failed env.booking.now

/-- Source: `WebhookProcessingService.markDisputed` -/
def markDisputed (env : WebhookEnv) (provider : PSPProvider)
    (pspTransactionId pspDisputeId : String) (reason : Option String) : App Unit := do
  match ← findByPspTransactionId pspTransactionId with
  | none => return ()
  | some payment =>
    if payment.status = .DISPUTED then return ()
    else if payment.status ≠ .SUCCEEDED ∧ payment.status ≠ .PARTIALLY_REFUNDED then return ()
    else
      let disputedAmount ← payment.remainingRefundable
      let disputed ← payment.markDisputed
      updatePayment disputed env.booking.now
      recordDispute env.record
        ⟨disputed.id, disputed.merchantId, provider, pspDisputeId, disputedAmount, reason⟩

/-! ### Dispatch -/

/-- The parts of a Stripe event that the handler reads; `object` is `data.object`.

Source: `WebhookProcessingService.handleStripeEvent` -/
structure StripeEvent where
  type : String
  objectId : String
  /-- `data.object` itself, as it is stored. -/
  raw : String := ""
  lastPaymentErrorMessage : Option String := none
  lastPaymentErrorCode : Option String := none
  paymentIntent : Option String := none
  reason : Option String := none
  status : Option String := none

/-- Source: `WebhookProcessingService.handleStripeEvent` -/
def handleStripeEvent (env : WebhookEnv) (event : StripeEvent) : App Unit := do
  if event.type = "" ∨ event.objectId = "" then return ()
  else match event.type with
    | "payment_intent.succeeded" => markSucceeded env event.objectId event.raw
    | "payment_intent.payment_failed" =>
      markFailed env event.objectId
        (event.lastPaymentErrorMessage.getD "PSP reported payment failure")
        event.lastPaymentErrorCode
    | "charge.dispute.created" =>
      markDisputed env .STRIPE (event.paymentIntent.getD event.objectId) event.objectId
        event.reason
    | "charge.dispute.closed" =>
      if event.status = some "won" then
        resolveByPspDisputeId env.resolve event.objectId .WON
      else if event.status = some "lost" then
        resolveByPspDisputeId env.resolve event.objectId .LOST
      else return ()
    | _ => return ()

/-- The parts of an Adyen notification item that the handler reads.

Source: `AdyenNotificationRequestItem` -/
structure AdyenNotificationItem where
  eventCode : String
  pspReference : String
  success : String
  /-- The item itself, as it is stored. -/
  raw : String := ""
  reason : Option String := none
  originalReference : Option String := none

/-- Source: `WebhookProcessingService.handleAdyenNotification` -/
def handleAdyenItem (env : WebhookEnv) (item : AdyenNotificationItem) : App Unit := do
  if item.pspReference = "" then return ()
  else match item.eventCode with
    | "AUTHORISATION" =>
      if item.success = "true" then markSucceeded env item.pspReference item.raw
      else markFailed env item.pspReference (item.reason.getD "Adyen authorisation refused") none
    | "NOTIFICATION_OF_CHARGEBACK" =>
      markDisputed env .ADYEN (item.originalReference.getD item.pspReference)
        item.pspReference item.reason
    | "CHARGEBACK" =>
      match truthy item.originalReference with
      | some reference => resolveByPspDisputeId env.resolve reference .LOST
      | none => return ()
    | "CHARGEBACK_REVERSED" =>
      match truthy item.originalReference with
      | some reference => resolveByPspDisputeId env.resolve reference .WON
      | none => return ()
    | _ => return ()

/-- The items of a notification in order, each with what it meets outside; an error ends the
handling. -/
def handleAdyenNotification : List (WebhookEnv × AdyenNotificationItem) → App Unit
  | [] => return ()
  | (env, item) :: items => do
      handleAdyenItem env item
      handleAdyenNotification items

/-! ### What a notification comes to -/

section dispatch

variable {M : App Unit → Prop} {env : WebhookEnv} (skip : M (pure ()))
  (disputed : ∀ provider txId disputeId reason,
    M (markDisputed env provider txId disputeId reason))

include skip disputed

/-- What holds of each handler, and of doing nothing, holds of the handling of an event; the
handlers of a success and of a loss are called for these types of events only. -/
lemma handleStripeEvent_elim {event : StripeEvent}
    (resolved : ∀ outcome, (outcome = .LOST →
        event.type = "charge.dispute.closed" ∧ event.status = some "lost") →
      M (resolveByPspDisputeId env.resolve event.objectId outcome))
    (failed : ∀ reason code, M (markFailed env event.objectId reason code))
    (succeeded : event.type = "payment_intent.succeeded" →
      M (markSucceeded env event.objectId event.raw)) : M (handleStripeEvent env event) := by
  unfold handleStripeEvent
  split
  · exact skip
  · split
    · rename_i htype
      exact succeeded htype
    · exact failed _ _
    · exact disputed _ _ _ _
    · rename_i htype
      split
      · exact resolved .WON nofun
      · split
        · rename_i hlost
          exact resolved .LOST fun _ => ⟨htype, hlost⟩
        · exact skip
    · exact skip

/-- What holds of each handler, and of doing nothing, holds of the handling of an item. -/
lemma handleAdyenItem_elim {item : AdyenNotificationItem}
    (resolved : ∀ disputeId outcome, (outcome = .LOST →
        item.eventCode = "CHARGEBACK" ∧ truthy item.originalReference = some disputeId) →
      M (resolveByPspDisputeId env.resolve disputeId outcome))
    (failed : ∀ reason code, M (markFailed env item.pspReference reason code))
    (succeeded : item.eventCode = "AUTHORISATION" → item.success = "true" →
      M (markSucceeded env item.pspReference item.raw)) : M (handleAdyenItem env item) := by
  unfold handleAdyenItem
  split
  · exact skip
  · split
    · rename_i hcode
      split
      · rename_i hsuccess
        exact succeeded hcode hsuccess
      · exact failed _ _
    · exact disputed _ _ _ _
    · rename_i hcode
      split
      · rename_i hreference
        exact resolved _ .LOST fun _ => ⟨hcode, hreference⟩
      · exact skip
    · split
      · exact resolved _ .WON nofun
      · exact skip
    · exact skip

end dispatch

end WebhookProcessing

end OmniSwitch
