import OmniSwitch.Merchant.Entity
import OmniSwitch.Lib.Interleave
import OmniSwitch.Lib.Table
import OmniSwitch.Lib.Text

/-!
# The merchant service and the MFA service

`merchant.service.ts` and `mfa.service.ts`: every operation that writes a merchant's row.  Each
reads the row, works on its copy, with whatever it asks of other services in between, and saves the
copy. What the other services answer a call is its `MerchantPorts`.
-/

namespace OmniSwitch

open Lib Lib.Prog

/-! ### What the operations ask of other services -/

/-- Source: `SanctionsScreeningPort.screen` -/
structure ScreeningRequest where
  name : String
  taxId : Option String
  deriving DecidableEq, Repr

/-- Source: `SanctionsScreeningResult` -/
structure SanctionsScreeningResult where
  status : SanctionsScreeningStatus
  matchedListEntry : Option String := none
  score : Option Rat := none
  deriving DecidableEq, Repr

/-- Source: `SanctionsScreeningOutcome` -/
structure SanctionsScreeningOutcome extends SanctionsScreeningResult where
  confidence : ScreeningConfidence
  deriving DecidableEq, Repr

/-- Source: `kyc-provider.port.ts` `KYCVerificationStatus` -/
inductive VerificationStatus where
  | APPROVED | REJECTED | PENDING
  deriving DecidableEq, Repr

/-- A provider's decision; its reason is only logged.

Source: `kyc-provider.port.ts` `KYCVerificationResult`; `kyb-provider.port.ts`
`KYBVerificationResult` -/
structure VerificationResult where
  status : VerificationStatus
  applicationId : String
  deriving DecidableEq, Repr

/-- Source: `kyc-provider.port.ts` `KYCProviderPort.verify` -/
structure KycSubmission where
  legalName : String
  taxId : String
  deriving DecidableEq, Repr

/-- Source: `kyb-provider.port.ts` `KYBProviderPort.verify` -/
structure KybSubmission extends KycSubmission where
  country : String
  beneficialOwners : Option (List BeneficialOwner)
  deriving DecidableEq, Repr

/-- Source: `MatchReportingPort.report` -/
structure MatchReport where
  merchantId : String
  legalName : String
  reasonCode : Option MatchReasonCode
  reason : String
  deriving DecidableEq, Repr

/-- Source: `MatchReportResult` -/
structure MatchReportResult where
  reportId : String
  reportedAt : Date
  deriving DecidableEq, Repr

/-- What a call meets outside the table: the time, the random values it draws, and the answers of
the services it asks.

Source: `MerchantService`; `MfaService` -/
structure MerchantPorts where
  now : Date := 0
  apiKeySecret : String := ""
  hmacSecret : String := ""
  totpSecret : String := ""
  backupCodes : List String := []
  hash : String → String := id
  compare : String → String → Bool := fun code hash => code = hash
  verify : String → String → Except AppError Bool := fun secret token => pure (secret = token)
  encrypt : String → Except AppError String := pure
  decrypt : String → Except AppError String := pure
  screen : ScreeningRequest → Except AppError SanctionsScreeningResult :=
    fun _ => pure { status := .CLEAR }
  verifyKyc : KycSubmission → Except AppError VerificationResult := fun _ => pure ⟨.APPROVED, ""⟩
  verifyKyb : KybSubmission → Except AppError VerificationResult := fun _ => pure ⟨.APPROVED, ""⟩
  report : MatchReport → Except AppError MatchReportResult := fun _ => pure ⟨"", 0⟩
  revokeAllForMerchant : Except AppError Unit := pure ()

/-- Source: `MerchantService.createMerchant` -/
structure CreateMerchantParams where
  merchantId : String
  name : String
  legalName : Option String := none
  taxId : Option String := none
  country : Option String := none
  platformFeeBps : Option Nat := none
  settlementCurrency : Option String := none
  reserveBps : Option Nat := none
  reserveHoldDays : Option Nat := none
  accountType : Option MerchantAccountType := none
  platformMerchantId : Option String := none
  payoutReserveBps : Option Nat := none
  payoutReserveHoldDays : Option Nat := none
  payoutRail : Option PayoutRail := none
  enabledPspProviders : Option (List PSPProvider) := none
  deriving DecidableEq, Repr

/-- The operations that write a merchant's row.

Source: `MerchantService`; `MfaService` -/
inductive MerchantRequest where
  | createMerchant (params : CreateMerchantParams)
  | rotateApiKeySecret (merchantId : String)
  | rotateHmacSecret (merchantId : String)
  | updateFeeRate (merchantId : String) (platformFeeBps : Nat)
  | updateFeeTiers (merchantId : String) (tiers : List FeeTierEntry)
  | updateSettlementCurrency (merchantId : String) (settlementCurrency : Option String)
  | updateDisputeNotificationChannel (merchantId : String) (route : NotificationRoute)
  | updateSubscriptionNotificationChannel (merchantId : String) (route : NotificationRoute)
  | updateAmlReviewNotificationChannel (merchantId : String) (route : NotificationRoute)
  | updateCountry (merchantId : String) (country : Option String)
  | updateMccCode (merchantId : String) (mccCode : Option String)
  | updateReservePolicy (merchantId : String) (reserveBps reserveHoldDays : Nat)
  | updatePayoutReservePolicy (merchantId : String) (payoutReserveBps payoutReserveHoldDays : Nat)
  | updatePayoutRail (merchantId : String) (payoutRail : PayoutRail)
  | submitKyc (merchantId : String) (submission : KycSubmission)
  | confirmKyc (applicationId : String) (outcome : KycStatus)
  | submitKyb (merchantId : String) (submission : KybSubmission)
  | confirmKyb (applicationId : String) (outcome : KycStatus)
  | updatePspEntitlement (merchantId : String) (enabledPspProviders : List PSPProvider)
  | setRiskTierAutoManaged (merchantId : String) (enabled : Bool)
  | applyAutoRiskTier (merchantId : String) (reserveBps reserveHoldDays : Nat)
  | applyAutoAmbiguousRiskFlag (merchantId : String) (flagged : Bool) (reason : String)
  | setAmbiguousRiskFlagManual (merchantId : String) (flagged : Bool) (reason flaggedBy : String)
  | setAmbiguousRiskAutoManaged (merchantId : String) (enabled : Bool)
  | applyAutoAmlReviewFlag (merchantId : String) (flagged : Bool) (reason : String)
  | setAmlReviewFlagManual (merchantId : String) (flagged : Bool) (reason flaggedBy : String)
  | setAmlReviewAutoManaged (merchantId : String) (enabled : Bool)
  | applyAutoChargebackMonitoringTier (merchantId : String) (tier : ChargebackMonitoringTier)
      (reason : String)
  | setChargebackMonitoringTierManual (merchantId : String) (tier : ChargebackMonitoringTier)
      (reason flaggedBy : String)
  | setChargebackMonitoringAutoManaged (merchantId : String) (enabled : Bool)
  | updateChargebackMonitoringNotificationChannel (merchantId : String) (route : NotificationRoute)
  | rescreenSanctions (merchantId : String)
  | applySanctionsScreeningResult (merchantId : String) (screening : SanctionsScreeningOutcome)
  | applySanctionsReview (merchantId : String) (resolution : SanctionsReviewResolution)
      (reviewedBy : String)
  | updateSanctionsNotificationChannel (merchantId : String) (route : NotificationRoute)
  | setActive (merchantId : String) (isActive : Bool)
  | terminateForCause (merchantId : String) (reasonCode : MatchReasonCode)
      (reason actingAdmin : String)
  | retryMatchReport (merchantId : String)
  | generateEnrollment (merchantId : String)
  | confirmEnrollment (merchantId code : String)
  | verifyCode (merchantId code : String)
  | disableMfa (merchantId code : String)
  deriving DecidableEq

/-! ### The table -/

/-- The table of the merchants. -/
abbrev MerchantDb := Table MerchantEntity.merchantId

/-- What a merchant is looked up by. -/
inductive MerchantLookup where
  | merchantId (merchantId : String)
  | kycApplicationId (applicationId : String)
  | kybApplicationId (applicationId : String)
  deriving DecidableEq

/-- The merchant that a lookup finds.

Source: `MerchantService.findMerchantOnMaster` -/
def MerchantLookup.find : MerchantLookup → MerchantDb → Option MerchantEntity
  | merchantId id, db => db.get id
  | kycApplicationId id, db => db.find? fun merchant => merchant.kyc.applicationId = some id
  | kybApplicationId id, db => db.find? fun merchant => merchant.kyb.applicationId = some id

/-- A step of an operation.  A save names the operation that makes it.

Source: `MerchantService` -/
inductive MerchantCmd where
  | findOne (lookup : MerchantLookup)
  | list
  | insert (merchant : MerchantEntity)
  | save (request : MerchantRequest) (merchant : MerchantEntity)

/-- A save writes over the stored row; an insertion fails on the unique index if there is one. -/
def MerchantCmd.apply : MerchantCmd → MerchantDb → MerchantDb
  | save _ merchant, db =>
    db.modify merchant.merchantId merchant.mergedInto fun _ _ => merchant.merchantId_mergedInto _
  | insert merchant, db =>
    if (db.get merchant.merchantId).isSome then db else db.put merchant
  | _, db => db

instance : Commands MerchantDb MerchantCmd where
  apply := MerchantCmd.apply
  observes
    | .findOne _ => true
    | .list => true
    | _ => false

/-- The programs on it. -/
abbrev MerchantProg := Prog MerchantDb MerchantCmd AppError

namespace MerchantService

/-- Source: `MerchantService.findMerchantOnMaster` -/
def findMerchantOnMaster (lookup : MerchantLookup) : MerchantProg (Option MerchantEntity) :=
  act (.findOne lookup) fun db => pure (lookup.find db)

variable (ports : MerchantPorts) (merchantId : String) (route : NotificationRoute)

/-- Source: `MerchantService.getOrThrow`; `MfaService.getOrThrow` -/
def getOrThrow : MerchantProg MerchantEntity := do
  let merchant ← findMerchantOnMaster (.merchantId merchantId)
  match merchant with
  | none => throw (.http 404 s!"Merchant {merchantId} not found" "MERCHANT_NOT_FOUND")
  | some merchant => pure merchant

lemma run_getOrThrow (db : MerchantDb) :
    (getOrThrow merchantId).run db = (db, (db.get merchantId).elim
      (.error (.http 404 s!"Merchant {merchantId} not found" "MERCHANT_NOT_FOUND")) .ok) := by
  change (Prog.run (match db.get merchantId with | none => _ | some merchant => _) db) = _
  cases db.get merchantId <;> rfl

/-- `merchantRepo.save`. -/
def save (request : MerchantRequest) (merchant : MerchantEntity) : MerchantProg Unit :=
  act (.save request merchant) fun _ => pure ()

/-- The shape of an operation: read the merchant, change the copy, save it. -/
def update (request : MerchantRequest) (merchantId : String)
    (edit : MerchantEntity → Except AppError MerchantEntity) : MerchantProg MerchantEntity := do
  let merchant ← getOrThrow merchantId
  let merchant ← edit merchant
  save request merchant
  pure merchant

/-! ### Credentials -/

/-- Source: `MerchantService.rotateApiKeySecret` -/
def rotateApiKeySecret : MerchantProg String := do
  let _ ← update (.rotateApiKeySecret merchantId) merchantId fun merchant =>
    pure { merchant with apiKeySecretHash := ports.hash ports.apiKeySecret }
  ports.revokeAllForMerchant
  pure ports.apiKeySecret

/-- Source: `MerchantService.rotateHmacSecret` -/
def rotateHmacSecret : MerchantProg String := do
  let _ ← update (.rotateHmacSecret merchantId) merchantId fun merchant => do
    let hmacSecretCiphertext ← ports.encrypt ports.hmacSecret
    pure { merchant with hmacSecretCiphertext }
  pure ports.hmacSecret

/-! ### Fees, notifications and profile -/

/-- Source: `MerchantService.updateFeeRate` -/
def updateFeeRate (platformFeeBps : Nat) : MerchantProg MerchantEntity :=
  update (.updateFeeRate merchantId platformFeeBps) merchantId fun merchant =>
    pure { merchant with platformFeeBps }

/-- The value of a digit. -/
def digitIn (base : Nat) (c : Char) : Option Nat :=
  let value :=
    if c.isDigit then c.toNat - '0'.toNat
    else if 'a' ≤ c ∧ c ≤ 'f' then c.toNat - 'a'.toNat + 10
    else if 'A' ≤ c ∧ c ≤ 'F' then c.toNat - 'A'.toNat + 10
    else base
  if value < base then some value else none

/-- The value of digits. -/
def numeral (base : Nat) (digits : List Char) : Option Nat :=
  if digits = [] then none
  else digits.foldlM (fun n c => (digitIn base c).map (base * n + ·)) 0

/-- `BigInt(text)`. -/
def bigInt (text : String) : Option Int :=
  match trim text.toList with
  | [] => some 0
  | '-' :: digits => (numeral 10 digits).map (- ·)
  | '+' :: digits => (numeral 10 digits).map (↑)
  | '0' :: 'x' :: digits => (numeral 16 digits).map (↑)
  | '0' :: 'X' :: digits => (numeral 16 digits).map (↑)
  | '0' :: 'o' :: digits => (numeral 8 digits).map (↑)
  | '0' :: 'O' :: digits => (numeral 8 digits).map (↑)
  | '0' :: 'b' :: digits => (numeral 2 digits).map (↑)
  | '0' :: 'B' :: digits => (numeral 2 digits).map (↑)
  | digits => (numeral 10 digits).map (↑)

/-- The thresholds of a fee schedule have to be strictly ascending.

Source: `MerchantService.updateFeeTiers` -/
def checkFeeTiers (previousThreshold : Int) : List FeeTierEntry → Except AppError Unit
  | [] => pure ()
  | tier :: tiers =>
    match bigInt tier.minVolumeMinorUnits with
    | none =>
      throw (.http 422
        ("minVolumeMinorUnits \"" ++ tier.minVolumeMinorUnits ++ "\" is not a valid integer")
        "FEE_TIER_INVALID_THRESHOLD")
    | some threshold =>
      if threshold ≤ previousThreshold then
        throw (.http 422
          ("Fee tiers must have strictly ascending minVolumeMinorUnits thresholds, with no " ++
            "duplicates") "FEE_TIER_NOT_ASCENDING")
      else checkFeeTiers threshold tiers

/-- Source: `MerchantService.updateFeeTiers` -/
def updateFeeTiers (tiers : List FeeTierEntry) : MerchantProg MerchantEntity :=
  update (.updateFeeTiers merchantId tiers) merchantId fun merchant => do
    checkFeeTiers (-1) tiers
    pure { merchant with feeTiers := if tiers = [] then none else some tiers }

/-- Source: `String.prototype.toUpperCase` -/
def toUpperCase (s : String) : String := String.ofList (s.toList.map Char.toUpper)

/-- Source: `MerchantService.updateSettlementCurrency` -/
def updateSettlementCurrency (settlementCurrency : Option String) : MerchantProg MerchantEntity :=
  update (.updateSettlementCurrency merchantId settlementCurrency) merchantId fun merchant =>
    pure { merchant with settlementCurrency := (truthy settlementCurrency).map toUpperCase }

/-- Source: `MerchantService.updateDisputeNotificationChannel` -/
def updateDisputeNotificationChannel : MerchantProg MerchantEntity :=
  update (.updateDisputeNotificationChannel merchantId route) merchantId fun merchant =>
    pure { merchant with disputeNotification := route }

/-- Source: `MerchantService.updateSubscriptionNotificationChannel` -/
def updateSubscriptionNotificationChannel : MerchantProg MerchantEntity :=
  update (.updateSubscriptionNotificationChannel merchantId route) merchantId fun merchant =>
    pure { merchant with subscriptionNotification := route }

/-- Source: `MerchantService.updateAmlReviewNotificationChannel` -/
def updateAmlReviewNotificationChannel : MerchantProg MerchantEntity :=
  update (.updateAmlReviewNotificationChannel merchantId route) merchantId fun merchant =>
    pure { merchant with amlReviewNotification := route }

/-- Source: `MerchantService.updateChargebackMonitoringNotificationChannel` -/
def updateChargebackMonitoringNotificationChannel : MerchantProg MerchantEntity :=
  update (.updateChargebackMonitoringNotificationChannel merchantId route) merchantId
    fun merchant => pure { merchant with chargebackMonitoringNotification := route }

/-- Source: `MerchantService.updateSanctionsNotificationChannel` -/
def updateSanctionsNotificationChannel : MerchantProg MerchantEntity :=
  update (.updateSanctionsNotificationChannel merchantId route) merchantId fun merchant =>
    pure { merchant with sanctionsNotification := route }

/-- Source: `MerchantService.updateCountry` -/
def updateCountry (country : Option String) : MerchantProg MerchantEntity :=
  update (.updateCountry merchantId country) merchantId fun merchant =>
    pure { merchant with country := (truthy country).map toUpperCase }

/-- Source: `MerchantService.updateMccCode` -/
def updateMccCode (mccCode : Option String) : MerchantProg MerchantEntity :=
  update (.updateMccCode merchantId mccCode) merchantId fun merchant =>
    pure { merchant with mccCode, industryRiskCategory := lookupIndustryRiskCategory mccCode }

/-- Source: `MerchantService.updatePayoutReservePolicy` -/
def updatePayoutReservePolicy (payoutReserveBps payoutReserveHoldDays : Nat) :
    MerchantProg MerchantEntity :=
  update (.updatePayoutReservePolicy merchantId payoutReserveBps payoutReserveHoldDays) merchantId
    fun merchant => pure { merchant with payoutReserveBps, payoutReserveHoldDays }

/-- Source: `MerchantService.updatePayoutRail` -/
def updatePayoutRail (payoutRail : PayoutRail) : MerchantProg MerchantEntity :=
  update (.updatePayoutRail merchantId payoutRail) merchantId fun merchant =>
    pure { merchant with payoutRail }

/-- Source: `MerchantService.updatePspEntitlement` -/
def updatePspEntitlement (enabledPspProviders : List PSPProvider) : MerchantProg MerchantEntity :=
  if enabledPspProviders = [] then
    throw (.http 422
      "enabledPspProviders cannot be empty — a merchant must be entitled to at least one PSP"
      "PSP_ENTITLEMENT_EMPTY")
  else
    update (.updatePspEntitlement merchantId enabledPspProviders) merchantId fun merchant =>
      pure { merchant with enabledPspProviders }

/-! ### Sanctions, KYC and KYB -/

/-- Source: `SanctionsScreeningService.screen` -/
def screen (ports : MerchantPorts) (legalName : Option String) (displayName : String)
    (taxId : Option String) : Except AppError SanctionsScreeningOutcome := do
  let result ← ports.screen ⟨legalName.getD displayName, truthy taxId⟩
  pure { result with confidence := if (truthy legalName).isSome then .FULL else .DEGRADED }

/-- `x.toFixed(digits)`, of an `x` that is not negative. -/
def toFixed (digits : Nat) (x : Rat) : String :=
  let n := (x * 10 ^ digits + 1 / 2).floor.toNat
  let fraction := toString (n % 10 ^ digits)
  toString (n / 10 ^ digits) ++ "." ++ "".pushn '0' (digits - fraction.length) ++ fraction

/-- Source: `MerchantService.formatMatchDetails` -/
def formatMatchDetails (matchedListEntry : Option String) (score : Option Rat) : Option String :=
  (truthy matchedListEntry).map fun entry =>
    entry ++ " (score=" ++ (score.map (toFixed 3)).getD "n/a" ++ ")"

/-- The columns that a screening sets.

Source: `MerchantService.applySanctionsScreeningResult` -/
def recordScreening (screening : SanctionsScreeningOutcome) (now : Date)
    (sanctions : SanctionsRecord) : SanctionsRecord :=
  { sanctions with
    screeningStatus := some screening.status
    screeningConfidence := some screening.confidence
    screenedAt := some now
    matchDetails := formatMatchDetails screening.matchedListEntry screening.score }

/-- The screening of what is submitted, which a hit ends.

Source: `MerchantService.submitKyc`, `MerchantService.submitKyb` -/
def screenSubmission (kind : String) (merchant : MerchantEntity)
    (submission : KycSubmission) : Except AppError SanctionsScreeningOutcome := do
  let screening ← screen ports (some submission.legalName) merchant.name (some submission.taxId)
  if screening.status = .HIT then
    throw (.http 422 ("Sanctions screening matched \"" ++
      screening.matchedListEntry.getD "undefined" ++ "\" — " ++ kind ++ " submission rejected")
      "SANCTIONS_SCREENING_HIT")
  else pure screening

/-- The columns of an application after the provider's decision.

Source: `MerchantService.submitKyc`, `MerchantService.submitKyb` -/
def decided (submission : KycSubmission) (result : VerificationResult) : KycApplication :=
  match result.status with
  | .PENDING =>
    ⟨.PENDING_REVIEW, some submission.legalName, some submission.taxId,
      some result.applicationId⟩
  | .APPROVED => ⟨.VERIFIED, some submission.legalName, some submission.taxId, none⟩
  | .REJECTED => ⟨.REJECTED, some submission.legalName, some submission.taxId, none⟩

/-- Source: `MerchantService.submitKyc` -/
def submitKyc (submission : KycSubmission) : MerchantProg MerchantEntity :=
  update (.submitKyc merchantId submission) merchantId fun merchant => do
    let screening ← screenSubmission ports "KYC" merchant submission
    let result ← ports.verifyKyc submission
    pure { merchant with
      kyc := decided submission result
      legalName := some submission.legalName
      taxId := some submission.taxId
      sanctions := recordScreening screening ports.now merchant.sanctions }

/-- Source: `MerchantService.submitKyb` -/
def submitKyb (submission : KybSubmission) : MerchantProg MerchantEntity :=
  update (.submitKyb merchantId submission) merchantId fun merchant => do
    let screening ← screenSubmission ports "KYB" merchant submission.toKycSubmission
    let result ← ports.verifyKyb submission
    pure { merchant with
      kyb := ⟨decided submission.toKycSubmission result, some submission.country,
        submission.beneficialOwners⟩
      legalName := some submission.legalName
      taxId := some submission.taxId
      sanctions := recordScreening screening ports.now merchant.sanctions }

/-- A confirmation for an application that is not pending is ignored. -/
def confirmKyc (applicationId : String) (outcome : KycStatus) : MerchantProg Unit := do
  let merchant ← findMerchantOnMaster (.kycApplicationId applicationId)
  match merchant with
  | none => pure ()
  | some merchant =>
    if merchant.kyc.status = .PENDING_REVIEW then
      save (.confirmKyc applicationId outcome)
        { merchant with kyc := { merchant.kyc with status := outcome } }
    else pure ()

/-- Source: `MerchantService.confirmKyb` -/
def confirmKyb (applicationId : String) (outcome : KycStatus) : MerchantProg Unit := do
  let merchant ← findMerchantOnMaster (.kybApplicationId applicationId)
  match merchant with
  | none => pure ()
  | some merchant =>
    if merchant.kyb.status = .PENDING_REVIEW then
      save (.confirmKyb applicationId outcome)
        { merchant with kyb := { merchant.kyb with status := outcome } }
    else pure ()

/-- Source: `MerchantService.applySanctionsScreeningResult` -/
def applySanctionsScreeningResult
    (screening : SanctionsScreeningOutcome) : MerchantProg MerchantEntity :=
  update (.applySanctionsScreeningResult merchantId screening) merchantId fun merchant =>
    pure { merchant with sanctions := recordScreening screening ports.now merchant.sanctions }

/-- Source: `MerchantService.rescreenSanctions` -/
def rescreenSanctions : MerchantProg (MerchantEntity × Option SanctionsScreeningStatus) := do
  let merchant ← getOrThrow merchantId
  let screening ← screen ports merchant.legalName merchant.name merchant.taxId
  let updated ← applySanctionsScreeningResult ports merchantId screening
  pure (updated, merchant.sanctions.screeningStatus)

/-- Source: `MerchantService.applySanctionsReview` -/
def applySanctionsReview
    (resolution : SanctionsReviewResolution) (reviewedBy : String) : MerchantProg MerchantEntity :=
  update (.applySanctionsReview merchantId resolution reviewedBy) merchantId fun merchant =>
    pure { merchant with
      sanctions := { merchant.sanctions with
        reviewResolution := some resolution
        reviewedBy := some reviewedBy
        reviewedAt := some ports.now
        screeningStatus :=
          if resolution = .CLEARED then some .CLEAR else merchant.sanctions.screeningStatus } }

/-! ### Risk management -/

/-- Source: `MerchantService.updateReservePolicy` -/
def updateReservePolicy (reserveBps reserveHoldDays : Nat) : MerchantProg MerchantEntity :=
  update (.updateReservePolicy merchantId reserveBps reserveHoldDays) merchantId fun merchant =>
    pure { merchant with reserveBps, reserveHoldDays, riskTierAutoManaged := false }

/-- Source: `MerchantService.setRiskTierAutoManaged` -/
def setRiskTierAutoManaged (enabled : Bool) : MerchantProg MerchantEntity :=
  update (.setRiskTierAutoManaged merchantId enabled) merchantId fun merchant =>
    pure { merchant with riskTierAutoManaged := enabled }

/-- Source: `MerchantService.applyAutoRiskTier` -/
def applyAutoRiskTier (reserveBps reserveHoldDays : Nat) : MerchantProg MerchantEntity :=
  update (.applyAutoRiskTier merchantId reserveBps reserveHoldDays) merchantId fun merchant =>
    pure { merchant with reserveBps, reserveHoldDays }

/-- Source: `MerchantService.applyAutoAmbiguousRiskFlag` -/
def applyAutoAmbiguousRiskFlag (flagged : Bool) (reason : String) : MerchantProg MerchantEntity :=
  update (.applyAutoAmbiguousRiskFlag merchantId flagged reason) merchantId fun merchant =>
    pure { merchant with
      ambiguousRisk := merchant.ambiguousRisk.applyAuto flagged flagged reason ports.now }

/-- Source: `MerchantService.setAmbiguousRiskFlagManual` -/
def setAmbiguousRiskFlagManual (flagged : Bool)
    (reason flaggedBy : String) : MerchantProg MerchantEntity :=
  update (.setAmbiguousRiskFlagManual merchantId flagged reason flaggedBy) merchantId
    fun merchant => pure { merchant with
      ambiguousRisk := merchant.ambiguousRisk.setManual flagged flagged reason flaggedBy ports.now }

/-- Source: `MerchantService.setAmbiguousRiskAutoManaged` -/
def setAmbiguousRiskAutoManaged (enabled : Bool) : MerchantProg MerchantEntity :=
  update (.setAmbiguousRiskAutoManaged merchantId enabled) merchantId fun merchant =>
    pure { merchant with ambiguousRisk := { merchant.ambiguousRisk with autoManaged := enabled } }

/-- Source: `MerchantService.applyAutoAmlReviewFlag` -/
def applyAutoAmlReviewFlag (flagged : Bool) (reason : String) : MerchantProg MerchantEntity :=
  update (.applyAutoAmlReviewFlag merchantId flagged reason) merchantId fun merchant =>
    pure { merchant with
      amlReview := merchant.amlReview.applyAuto flagged flagged reason ports.now }

/-- Source: `MerchantService.setAmlReviewFlagManual` -/
def setAmlReviewFlagManual (flagged : Bool)
    (reason flaggedBy : String) : MerchantProg MerchantEntity :=
  update (.setAmlReviewFlagManual merchantId flagged reason flaggedBy) merchantId fun merchant =>
    pure { merchant with
      amlReview := merchant.amlReview.setManual flagged flagged reason flaggedBy ports.now }

/-- Source: `MerchantService.setAmlReviewAutoManaged` -/
def setAmlReviewAutoManaged (enabled : Bool) : MerchantProg MerchantEntity :=
  update (.setAmlReviewAutoManaged merchantId enabled) merchantId fun merchant =>
    pure { merchant with amlReview := { merchant.amlReview with autoManaged := enabled } }

/-- Source: `MerchantService.applyAutoChargebackMonitoringTier` -/
def applyAutoChargebackMonitoringTier
    (tier : ChargebackMonitoringTier) (reason : String) : MerchantProg MerchantEntity :=
  update (.applyAutoChargebackMonitoringTier merchantId tier reason) merchantId fun merchant =>
    pure { merchant with
      chargebackMonitoring :=
        merchant.chargebackMonitoring.applyAuto tier (tier ≠ .NONE) reason ports.now }

/-- Source: `MerchantService.setChargebackMonitoringTierManual` -/
def setChargebackMonitoringTierManual
    (tier : ChargebackMonitoringTier) (reason flaggedBy : String) : MerchantProg MerchantEntity :=
  update (.setChargebackMonitoringTierManual merchantId tier reason flaggedBy) merchantId
    fun merchant => pure { merchant with
      chargebackMonitoring :=
        merchant.chargebackMonitoring.setManual tier (tier ≠ .NONE) reason flaggedBy ports.now }

/-- Source: `MerchantService.setChargebackMonitoringAutoManaged` -/
def setChargebackMonitoringAutoManaged (enabled : Bool) : MerchantProg MerchantEntity :=
  update (.setChargebackMonitoringAutoManaged merchantId enabled) merchantId fun merchant =>
    pure { merchant with
      chargebackMonitoring := { merchant.chargebackMonitoring with autoManaged := enabled } }

/-! ### Deactivation and termination -/

/-- Source: `MerchantService.setActive` -/
def setActive (isActive : Bool) : MerchantProg MerchantEntity := do
  let merchant ← update (.setActive merchantId isActive) merchantId fun merchant =>
    pure { merchant with isActive }
  if isActive then pure merchant
  else do
    ports.revokeAllForMerchant
    pure merchant

/-- Source: `MerchantService.fileMatchReport` -/
def fileMatchReport (request : MerchantRequest) (ports : MerchantPorts)
    (merchant : MerchantEntity) : MerchantProg MerchantEntity := do
  let result ← ports.report ⟨merchant.merchantId, merchant.legalName.getD merchant.name,
    merchant.termination.reasonCode, merchant.termination.reason.getD ""⟩
  let merchant := { merchant with
    termination := { merchant.termination with
      reportedAt := some result.reportedAt, reportId := some result.reportId } }
  save request merchant
  pure merchant

/-- A report that cannot be filed is only logged. -/
def terminateForCause (reasonCode : MatchReasonCode)
    (reason actingAdmin : String) : MerchantProg MerchantEntity := do
  let request := .terminateForCause merchantId reasonCode reason actingAdmin
  let merchant ← update request merchantId fun merchant =>
    pure { merchant with
      isActive := false
      termination := { merchant.termination with
        terminatedForCause := true
        reasonCode := some reasonCode
        reason := some reason
        terminatedBy := some actingAdmin
        terminatedAt := some ports.now } }
  ports.revokeAllForMerchant
  tryCatch (fileMatchReport request ports merchant) fun _ => pure merchant

/-- Source: `MerchantService.retryMatchReport` -/
def retryMatchReport : MerchantProg MerchantEntity := do
  let merchant ← getOrThrow merchantId
  if merchant.termination.terminatedForCause then
    fileMatchReport (.retryMatchReport merchantId) ports merchant
  else
    throw (.http 422 "Merchant was not terminated for cause — nothing to report"
      "NOT_TERMINATED_FOR_CAUSE")

/-! ### Creation -/

/-- The account that a connected merchant belongs to.

Source: `MerchantService.createMerchant` -/
def checkPlatform (params : CreateMerchantParams) : MerchantProg Unit :=
  match params.accountType.getD .PLATFORM, truthy params.platformMerchantId with
  | .CONNECTED, none =>
    throw (.http 409 "A CONNECTED merchant requires platformMerchantId"
      "PLATFORM_MERCHANT_ID_REQUIRED")
  | .CONNECTED, some platformMerchantId => do
      let platform ← findMerchantOnMaster (.merchantId platformMerchantId)
      match platform with
      | none =>
        throw (.http 404 s!"Platform merchant {platformMerchantId} not found"
          "PLATFORM_MERCHANT_NOT_FOUND")
      | some platform =>
        if platform.accountType = .PLATFORM then pure ()
        else
          throw (.http 409
            (platformMerchantId ++ " is itself a CONNECTED account and cannot have connected " ++
              "accounts of its own") "PLATFORM_MERCHANT_INVALID")
  | .PLATFORM, some _ =>
    throw (.http 409 "platformMerchantId may only be set for a CONNECTED merchant"
      "PLATFORM_MERCHANT_ID_NOT_ALLOWED")
  | .PLATFORM, none => pure ()

/-- The row of a new merchant.

Source: `MerchantService.createMerchant` -/
def newMerchant (params : CreateMerchantParams)
    (screening : SanctionsScreeningOutcome) (hmacSecretCiphertext : String) : MerchantEntity where
  merchantId := params.merchantId
  name := params.name
  apiKeySecretHash := ports.hash ports.apiKeySecret
  hmacSecretCiphertext
  legalName := truthy params.legalName
  taxId := truthy params.taxId
  country := (truthy params.country).map toUpperCase
  sanctions := recordScreening screening ports.now {}
  platformFeeBps := params.platformFeeBps.getD 150
  settlementCurrency := (truthy params.settlementCurrency).map toUpperCase
  reserveBps := params.reserveBps.getD 0
  reserveHoldDays := params.reserveHoldDays.getD 0
  accountType := params.accountType.getD .PLATFORM
  platformMerchantId := truthy params.platformMerchantId
  payoutReserveBps := params.payoutReserveBps.getD 0
  payoutReserveHoldDays := params.payoutReserveHoldDays.getD 0
  payoutRail := params.payoutRail.getD .STANDARD
  enabledPspProviders := params.enabledPspProviders.getD [.STRIPE, .ADYEN]
  createdAt := ports.now

/-- A merchant that was created after the first lookup makes the insertion fail. -/
def createMerchant (params : CreateMerchantParams) : MerchantProg MerchantEntity := do
  let existing ← findMerchantOnMaster (.merchantId params.merchantId)
  if existing.isSome then
    throw (.http 409 s!"Merchant {params.merchantId} already exists" "MERCHANT_ALREADY_EXISTS")
  else do
    checkPlatform params
    let screening ← screen ports params.legalName params.name params.taxId
    if screening.status = .HIT then
      throw (.http 422 ("Sanctions screening matched \"" ++
        screening.matchedListEntry.getD "undefined" ++ "\" — merchant not created")
        "SANCTIONS_SCREENING_HIT")
    else do
      let hmacSecretCiphertext ← ports.encrypt ports.hmacSecret
      let merchant := newMerchant ports params screening hmacSecretCiphertext
      act (.insert merchant) fun db =>
        if (db.get merchant.merchantId).isSome then
          throw (.plain "duplicate key value violates unique constraint")
        else pure merchant

end MerchantService

namespace MfaService

open MerchantService

variable (ports : MerchantPorts)

/-- Source: `MfaService.generateEnrollment` -/
def generateEnrollment (merchantId : String) : MerchantProg String := do
  let _ ← update (.generateEnrollment merchantId) merchantId fun merchant => do
    if merchant.mfaEnabled then
      throw (.http 409 "MFA is already enabled — disable it before re-enrolling"
        "MFA_ALREADY_ENABLED")
    else do
      let mfaSecretCiphertext ← ports.encrypt ports.totpSecret
      pure { merchant with mfaSecretCiphertext := some mfaSecretCiphertext }
  pure ports.totpSecret

/-- Source: `MfaService.isValidTotp` -/
def isValidTotp (secret code : String) : Bool :=
  match ports.verify secret code with
  | .ok valid => valid
  | .error _ => false

/-- Source: `MfaService.confirmEnrollment` -/
def confirmEnrollment (merchantId code : String) : MerchantProg (List String) := do
  let _ ← update (.confirmEnrollment merchantId code) merchantId fun merchant =>
    match truthy merchant.mfaSecretCiphertext with
    | none =>
      throw (.http 409 "No MFA enrollment in progress — call POST /auth/mfa/enroll first"
        "MFA_NOT_ENROLLING")
    | some ciphertext => do
        let secret ← ports.decrypt ciphertext
        if isValidTotp ports secret code then
          pure { merchant with
            mfaEnabled := true, mfaBackupCodeHashes := ports.backupCodes.map ports.hash }
        else throw (.http 401 "Invalid MFA code" "MFA_CODE_INVALID")
  pure ports.backupCodes

/-- A backup code is used up by the check that accepts it. -/
def verifyCode (request : MerchantRequest) (ports : MerchantPorts) (merchantId code : String) :
    MerchantProg Unit := do
  let merchant ← getOrThrow merchantId
  match merchant.mfaEnabled, truthy merchant.mfaSecretCiphertext with
  | true, some ciphertext => do
      let secret ← ports.decrypt ciphertext
      if isValidTotp ports secret code then pure ()
      else
        match merchant.mfaBackupCodeHashes.findIdx? (ports.compare code) with
        | some i =>
          save request
            { merchant with mfaBackupCodeHashes := merchant.mfaBackupCodeHashes.eraseIdx i }
        | none => throw (.http 401 "Invalid MFA code" "MFA_CODE_INVALID")
  | _, _ => throw (.http 409 "MFA is not enabled for this merchant" "MFA_NOT_ENABLED")

/-- Source: `MfaService.disableMfa` -/
def disableMfa (merchantId code : String) : MerchantProg Unit := do
  verifyCode (.disableMfa merchantId code) ports merchantId code
  let _ ← update (.disableMfa merchantId code) merchantId fun merchant =>
    pure { merchant with
      mfaEnabled := false, mfaSecretCiphertext := none, mfaBackupCodeHashes := [] }

end MfaService

/-! ### The operations together -/

/-- The program of an operation, without what it answers. -/
def MerchantRequest.program (ports : MerchantPorts) : MerchantRequest → MerchantProg Unit
  | createMerchant params => discard (MerchantService.createMerchant ports params)
  | rotateApiKeySecret id => discard (MerchantService.rotateApiKeySecret ports id)
  | rotateHmacSecret id => discard (MerchantService.rotateHmacSecret ports id)
  | updateFeeRate id bps => discard (MerchantService.updateFeeRate id bps)
  | updateFeeTiers id tiers => discard (MerchantService.updateFeeTiers id tiers)
  | updateSettlementCurrency id currency =>
    discard (MerchantService.updateSettlementCurrency id currency)
  | updateDisputeNotificationChannel id route =>
    discard (MerchantService.updateDisputeNotificationChannel id route)
  | updateSubscriptionNotificationChannel id route =>
    discard (MerchantService.updateSubscriptionNotificationChannel id route)
  | updateAmlReviewNotificationChannel id route =>
    discard (MerchantService.updateAmlReviewNotificationChannel id route)
  | updateCountry id country => discard (MerchantService.updateCountry id country)
  | updateMccCode id mccCode => discard (MerchantService.updateMccCode id mccCode)
  | updateReservePolicy id bps days => discard (MerchantService.updateReservePolicy id bps days)
  | updatePayoutReservePolicy id bps days =>
    discard (MerchantService.updatePayoutReservePolicy id bps days)
  | updatePayoutRail id rail => discard (MerchantService.updatePayoutRail id rail)
  | submitKyc id submission => discard (MerchantService.submitKyc ports id submission)
  | confirmKyc id outcome => MerchantService.confirmKyc id outcome
  | submitKyb id submission => discard (MerchantService.submitKyb ports id submission)
  | confirmKyb id outcome => MerchantService.confirmKyb id outcome
  | updatePspEntitlement id providers =>
    discard (MerchantService.updatePspEntitlement id providers)
  | setRiskTierAutoManaged id enabled => discard (MerchantService.setRiskTierAutoManaged id enabled)
  | applyAutoRiskTier id bps days => discard (MerchantService.applyAutoRiskTier id bps days)
  | applyAutoAmbiguousRiskFlag id flagged reason =>
    discard (MerchantService.applyAutoAmbiguousRiskFlag ports id flagged reason)
  | setAmbiguousRiskFlagManual id flagged reason flaggedBy =>
    discard (MerchantService.setAmbiguousRiskFlagManual ports id flagged reason flaggedBy)
  | setAmbiguousRiskAutoManaged id enabled =>
    discard (MerchantService.setAmbiguousRiskAutoManaged id enabled)
  | applyAutoAmlReviewFlag id flagged reason =>
    discard (MerchantService.applyAutoAmlReviewFlag ports id flagged reason)
  | setAmlReviewFlagManual id flagged reason flaggedBy =>
    discard (MerchantService.setAmlReviewFlagManual ports id flagged reason flaggedBy)
  | setAmlReviewAutoManaged id enabled =>
    discard (MerchantService.setAmlReviewAutoManaged id enabled)
  | applyAutoChargebackMonitoringTier id tier reason =>
    discard (MerchantService.applyAutoChargebackMonitoringTier ports id tier reason)
  | setChargebackMonitoringTierManual id tier reason flaggedBy =>
    discard (MerchantService.setChargebackMonitoringTierManual ports id tier reason flaggedBy)
  | setChargebackMonitoringAutoManaged id enabled =>
    discard (MerchantService.setChargebackMonitoringAutoManaged id enabled)
  | updateChargebackMonitoringNotificationChannel id route =>
    discard (MerchantService.updateChargebackMonitoringNotificationChannel id route)
  | rescreenSanctions id => discard (MerchantService.rescreenSanctions ports id)
  | applySanctionsScreeningResult id screening =>
    discard (MerchantService.applySanctionsScreeningResult ports id screening)
  | applySanctionsReview id resolution reviewedBy =>
    discard (MerchantService.applySanctionsReview ports id resolution reviewedBy)
  | updateSanctionsNotificationChannel id route =>
    discard (MerchantService.updateSanctionsNotificationChannel id route)
  | setActive id isActive => discard (MerchantService.setActive ports id isActive)
  | terminateForCause id reasonCode reason actingAdmin =>
    discard (MerchantService.terminateForCause ports id reasonCode reason actingAdmin)
  | retryMatchReport id => discard (MerchantService.retryMatchReport ports id)
  | generateEnrollment id => discard (MfaService.generateEnrollment ports id)
  | confirmEnrollment id code => discard (MfaService.confirmEnrollment ports id code)
  | verifyCode id code => MfaService.verifyCode (.verifyCode id code) ports id code
  | disableMfa id code => MfaService.disableMfa ports id code

/-- Any number of operations, each with what it meets, about to start.

Source: `MerchantService`; `MfaService` -/
def merchantPool (db : MerchantDb) (calls : List (MerchantRequest × MerchantPorts)) :
    Pool MerchantDb MerchantCmd AppError :=
  ⟨db, calls.map fun call => .start (call.1.program call.2)⟩

namespace Sample

/-- A merchant with a TOTP secret and without MFA. -/
def shop : MerchantEntity where
  merchantId := "m1"
  name := "Shop"
  apiKeySecretHash := "first key"
  hmacSecretCiphertext := "first secret"
  mfaSecretCiphertext := some "totp"

/-- The table with this merchant. -/
def shops : MerchantDb := Table.empty.put shop

end Sample

end OmniSwitch
