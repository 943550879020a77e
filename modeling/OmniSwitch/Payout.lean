import OmniSwitch.ChargeParams

/-!
# Payouts

`payout.aggregate.ts`, `payout-sweep-run.aggregate.ts` and `instant-payout-fee.ts`: one connected
merchant's share of a payout sweep, split into a part that can be sent and a rolling reserve, and
the state of the two bank transfers that send them.  A payout carries the fact that its net amount
is what the reserve leaves of the gross amount.
-/

namespace OmniSwitch

open Lib

/-- Source: `PayoutTransferStatus` -/
inductive PayoutTransferStatus where
  | NOT_INITIATED | PENDING_CONFIRMATION | INITIATED | FAILED
  deriving DecidableEq, Repr

namespace PayoutTransferStatus

/-- A transfer that is on its way or has arrived: no other may be initiated. -/
def isUnderway (status : PayoutTransferStatus) : Bool :=
  status = .INITIATED || status = .PENDING_CONFIRMATION

/-- The text of a status. -/
def lowerName : PayoutTransferStatus → String
  | NOT_INITIATED => "not_initiated"
  | PENDING_CONFIRMATION => "pending_confirmation"
  | INITIATED => "initiated"
  | FAILED => "failed"

end PayoutTransferStatus

/-- One leg of a payout: the bank transfer of its net amount, or of its reserve.

Source: `Payout` -/
structure PayoutTransfer where
  status : PayoutTransferStatus := .NOT_INITIATED
  transferId : Option String := none
  initiatedAt : Option Date := none
  error : Option String := none
  deriving DecidableEq, Repr

/-- Source: `Payout` -/
structure Payout where
  id : String
  merchantId : String
  sweepRunId : String
  grossAmount : Money
  reserveAmount : Money
  netAmount : Money
  releaseEligibleAt : Option Date
  reserveReleased : Bool := false
  reserveReleasedAt : Option Date := none
  createdAt : Date
  kycBlocked : Bool
  kycClearedAt : Option Date := none
  /-- `transferStatus`, `transferId`, `transferInitiatedAt` and `transferError`. -/
  transfer : PayoutTransfer := {}
  /-- `reserveTransferStatus`, `reserveTransferId`, … -/
  reserveTransfer : PayoutTransfer := {}
  transferRail : Option PayoutRail := none
  instantFeeAmount : Option Money := none
  split : grossAmount.subtract reserveAmount = .ok netAmount
  deriving DecidableEq, Repr

/-- Source: `Payout.create` -/
structure PayoutParams where
  id : String
  merchantId : String
  sweepRunId : String
  grossAmount : Money
  reserveBps : Nat
  reserveHoldDays : Nat
  kycVerified : Bool

namespace Payout

/-- Source: `Payout.create` -/
def reserveOf (grossAmount : Money) (reserveBps : Nat) : Except AppError Money :=
  if 0 < reserveBps then grossAmount.multiply (reserveBps / 10000)
  else Money.zero grossAmount.currency.code

/-- Source: `Payout.create` -/
def create (params : PayoutParams) (now : Date) : Except AppError Payout := do
  let reserveAmount ← reserveOf params.grossAmount params.reserveBps
  match h : params.grossAmount.subtract reserveAmount with
  | .error e => .error e
  | .ok netAmount =>
    .ok {
      id := params.id
      merchantId := params.merchantId
      sweepRunId := params.sweepRunId
      grossAmount := params.grossAmount
      reserveAmount := reserveAmount
      netAmount := netAmount
      releaseEligibleAt :=
        if reserveAmount.isZero then none
        else some (now + params.reserveHoldDays * 24 * 60 * 60 * 1000)
      createdAt := now
      kycBlocked := !params.kycVerified
      split := h }

/-- Source: `Payout.recordTransferPending` -/
def recordTransferPending (payout : Payout) (transferId : String) (now : Date)
    (rail : Option PayoutRail) (instantFeeAmount : Option Money) : Except AppError Payout :=
  if payout.kycBlocked then
    .error (.plain s!"Payout {payout.id} is KYC-blocked, cannot initiate a transfer")
  else if payout.netAmount.isZero then
    .error (.plain s!"Payout {payout.id} has no net amount to transfer")
  else if payout.transfer.status.isUnderway then
    .error (.plain s!"Payout {payout.id}'s transfer is already {payout.transfer.status.lowerName}")
  else
    .ok { payout with
      transfer := ⟨.PENDING_CONFIRMATION, some transferId, some now, none⟩
      transferRail := rail <|> payout.transferRail
      instantFeeAmount := instantFeeAmount <|> payout.instantFeeAmount }

/-- Source: `Payout.recordTransferInitiated` -/
def recordTransferInitiated (payout : Payout) (transferId : String) (now : Date)
    (rail : Option PayoutRail) (instantFeeAmount : Option Money) : Except AppError Payout :=
  if payout.kycBlocked then
    .error (.plain s!"Payout {payout.id} is KYC-blocked, cannot initiate a transfer")
  else if payout.netAmount.isZero then
    .error (.plain s!"Payout {payout.id} has no net amount to transfer")
  else if payout.transfer.status = .INITIATED then
    .error (.plain s!"Payout {payout.id}'s transfer is already initiated")
  else
    .ok { payout with
      transfer := ⟨.INITIATED, some transferId, some now, none⟩
      transferRail := rail <|> payout.transferRail
      instantFeeAmount := instantFeeAmount <|> payout.instantFeeAmount }

lemma reserveOf_ok (gross : Money) {bps : Nat} (hbps : bps ≤ 10000) :
    ∃ n ≤ gross.amountMinorUnits, reserveOf gross bps = .ok ⟨n, gross.currency⟩ := by
  unfold reserveOf
  split_ifs
  · have h : (bps : Rat) ≤ 10000 := by exact_mod_cast hbps
    exact gross.multiply_of_le_one (by positivity) (by linarith)
  · exact ⟨0, Nat.zero_le _, Money.fromMinorUnits_code 0 gross.currency⟩

lemma create_ok (params : PayoutParams) (now : Date) (hbps : params.reserveBps ≤ 10000) :
    ∃ payout, create params now = .ok payout ∧ payout.merchantId = params.merchantId ∧
      payout.sweepRunId = params.sweepRunId ∧ payout.grossAmount = params.grossAmount := by
  obtain ⟨n, hn, hreserve⟩ := reserveOf_ok params.grossAmount hbps
  have hsub : params.grossAmount.subtract ⟨n, params.grossAmount.currency⟩ =
      .ok ⟨params.grossAmount.amountMinorUnits - n, params.grossAmount.currency⟩ :=
    Money.subtract_eq_ok.2 ⟨rfl, hn, rfl⟩
  unfold create
  rw [hreserve]
  change ∃ payout, (match h : params.grossAmount.subtract ⟨n, params.grossAmount.currency⟩ with
    | .error e => _
    | .ok netAmount => _) = Except.ok payout ∧ _
  split
  · rename_i e he
    exact (nomatch hsub.symm.trans he)
  · exact ⟨_, rfl, rfl, rfl, rfl⟩

end Payout

/-- Source: `PayoutSweepRun` -/
structure PayoutSweepRun where
  id : String
  windowStart : Date
  windowEnd : Date
  connectedMerchantsPaid : Nat
  ranAt : Date
  deriving DecidableEq, Repr

/-- Basis points charged for the instant rail.

Source: `instant-payout-fee.ts` `INSTANT_PAYOUT_FEE_BPS` -/
def INSTANT_PAYOUT_FEE_BPS : Nat := 150

/-- Source: `instant-payout-fee.ts` `calculateInstantPayoutFee` -/
def calculateInstantPayoutFee (amount : Money) : Except AppError Money :=
  amount.multiply (INSTANT_PAYOUT_FEE_BPS / 10000)

end OmniSwitch
