import OmniSwitch.Merchant.Service

/-!
# What the operations on a merchant change

Whatever an operation saves is the row it has last read, changed in what the operation is for.  For
the columns that security rests on, `MerchantRequest.EditsSecurity` is what each operation may do to
them, and for the backup codes `MerchantRequest.EditsCodes`; for the risk settings,
`MerchantRequest.editRisk` is what it does.

Main results:

* `program_edits`: every save is an edit of the row that was last read;
* `MerchantCmd.apply_cases`: what a command does to a row.
-/

namespace OmniSwitch

open Lib Lib.Prog MerchantCmd

namespace MerchantRequest

/-- What an operation may make of the security columns.

Source: `MerchantService`; `MfaService` -/
def EditsSecurity : MerchantRequest → Security → Security → Prop
  | setActive _ isActive, old, new => new = { old with isActive }
  | terminateForCause _ _ _ _, old, new =>
    new = { old with isActive := false, terminatedForCause := true }
  | rotateApiKeySecret _, old, new =>
    ∃ apiKeySecretHash, new = { old with apiKeySecretHash }
  | rotateHmacSecret _, old, new =>
    ∃ hmacSecretCiphertext, new = { old with hmacSecretCiphertext }
  | generateEnrollment _, old, new =>
    old.mfaEnabled = false ∧ ∃ mfaSecretCiphertext, new = { old with mfaSecretCiphertext }
  | confirmEnrollment _ _, old, new => new = { old with mfaEnabled := true }
  | disableMfa _ _, old, new =>
    new = old ∨ new = { old with mfaEnabled := false, mfaSecretCiphertext := none }
  | _, old, new => new = old

/-- What an operation makes of the risk settings.

Source: `MerchantService` -/
def editRisk : MerchantRequest → RiskSettings → RiskSettings
  | updateReservePolicy _ bps days, old => { old with reserve := ⟨(bps, days), false⟩ }
  | setRiskTierAutoManaged _ enabled, old =>
    { old with reserve := ⟨old.reserve.value, enabled⟩ }
  | applyAutoRiskTier _ bps days, old =>
    { old with reserve := ⟨(bps, days), old.reserve.autoManaged⟩ }
  | setAmbiguousRiskFlagManual _ flagged _ _, old =>
    { old with ambiguousRisk := ⟨flagged, false⟩ }
  | setAmbiguousRiskAutoManaged _ enabled, old =>
    { old with ambiguousRisk := ⟨old.ambiguousRisk.value, enabled⟩ }
  | applyAutoAmbiguousRiskFlag _ flagged _, old =>
    { old with ambiguousRisk := ⟨flagged, old.ambiguousRisk.autoManaged⟩ }
  | setAmlReviewFlagManual _ flagged _ _, old => { old with amlReview := ⟨flagged, false⟩ }
  | setAmlReviewAutoManaged _ enabled, old =>
    { old with amlReview := ⟨old.amlReview.value, enabled⟩ }
  | applyAutoAmlReviewFlag _ flagged _, old =>
    { old with amlReview := ⟨flagged, old.amlReview.autoManaged⟩ }
  | setChargebackMonitoringTierManual _ tier _ _, old =>
    { old with chargebackMonitoring := ⟨tier, false⟩ }
  | setChargebackMonitoringAutoManaged _ enabled, old =>
    { old with chargebackMonitoring := ⟨old.chargebackMonitoring.value, enabled⟩ }
  | applyAutoChargebackMonitoringTier _ tier _, old =>
    { old with chargebackMonitoring := ⟨tier, old.chargebackMonitoring.autoManaged⟩ }
  | _, old => old

/-- The hash that a code is accepted for is taken out. -/
def UsesUp (accepts : String → String → Bool) (code : String) (old new : List String) : Prop :=
  ∃ i, old.findIdx? (accepts code) = some i ∧ new = old.eraseIdx i

/-- What an operation may make of the hashes of the backup codes, and whether it leaves MFA enabled.

Source: `MfaService` -/
def EditsCodes (accepts : String → String → Bool) :
    MerchantRequest → List String → List String → Bool → Prop
  | verifyCode _ code, old, new, _ => UsesUp accepts code old new
  | disableMfa _ code, old, new, enabled =>
    UsesUp accepts code old new ∨ enabled = false ∧ new = []
  | confirmEnrollment _ _, _, _, _ => True
  | _, old, new, _ => new = old

/-- A copy is an operation's edit of a row. -/
structure Edits (accepts : String → String → Bool) (request : MerchantRequest)
    (row copy : MerchantEntity) : Prop where
  merchantId : copy.merchantId = row.merchantId
  security : request.EditsSecurity row.security copy.security
  risk : copy.risk = request.editRisk row.risk
  codes : request.EditsCodes accepts row.mfaBackupCodeHashes copy.mfaBackupCodeHashes
    copy.mfaEnabled

end MerchantRequest

/-- A save is of an edit of the row that was last read. -/
def MerchantCmd.Edits (accepts : String → String → Bool) (seen : Option MerchantDb) :
    MerchantCmd → Prop
  | save request copy =>
    ∃ db row, seen = some db ∧ db.get copy.merchantId = some row ∧ request.Edits accepts row copy
  | _ => True

/-- The same, whichever codes are accepted. -/
def MerchantCmd.EditsAny (seen : Option MerchantDb) (c : MerchantCmd) : Prop :=
  ∃ accepts, c.Edits accepts seen

variable {db : MerchantDb} {row : MerchantEntity} {accepts : String → String → Bool}
variable {seen : Option MerchantDb}

lemma only_editsAny {p : MerchantProg Unit} (h : Only (Edits accepts) seen p) :
    Only EditsAny seen p :=
  h.mono (fun _ _ hc => ⟨accepts, hc⟩) fun _ _ _ => trivial

variable (ports : MerchantPorts)

namespace MerchantService

variable {α : Type} {seen : Option MerchantDb} {request : MerchantRequest} {merchantId : String}
variable {lookup : MerchantLookup}

lemma get_of_find (h : lookup.find db = some row) :
    db.get row.merchantId = some row := by
  cases lookup with
  | merchantId id =>
    rw [Table.key_of_get h]
    exact h
  | kycApplicationId id | kybApplicationId id => exact Table.get_of_find? h

lemma sat_find {Q : Option MerchantDb → Option MerchantEntity → Prop}
    (h : ∀ db, Q (some db) (lookup.find db)) :
    Sat (Edits accepts) Q seen (findMerchantOnMaster lookup) :=
  ⟨trivial, h⟩

lemma sat_getOrThrow {Q : Option MerchantDb → MerchantEntity → Prop}
    (h : ∀ db row, db.get row.merchantId = some row → Q (some db) row) :
    Sat (Edits accepts) Q seen (getOrThrow merchantId) := by
  refine sat_bind.2 (sat_find fun db => ?_)
  cases hrow : MerchantLookup.find (.merchantId merchantId) db with
  | none => trivial
  | some row => exact h db row (get_of_find hrow)

variable {copy : MerchantEntity}

lemma sat_save (hrow : db.get row.merchantId = some row) (h : request.Edits accepts row copy)
    {Q : Option MerchantDb → Unit → Prop} (hQ : Q (some db) ()) :
    Sat (Edits accepts) Q (some db) (save request copy) :=
  ⟨⟨db, row, rfl, h.merchantId ▸ hrow, h⟩, fun _ => hQ⟩

lemma sat_update {edit : MerchantEntity → Except AppError MerchantEntity}
    (h : ∀ row copy, edit row = .ok copy → request.Edits accepts row copy) :
    Sat (Edits accepts) (fun seen copy => ∃ db row, seen = some db ∧
      db.get row.merchantId = some row ∧ edit row = .ok copy) seen
      (update request merchantId edit) := by
  refine sat_bind.2 (sat_getOrThrow fun db row hrow => ?_)
  refine sat_bind.2 (sat_liftM.2 fun copy hcopy => ?_)
  exact sat_bind.2 (sat_save hrow (h row copy hcopy) ⟨db, row, rfl, hrow, hcopy⟩)

lemma sat_update_pure {edit : MerchantEntity → MerchantEntity}
    (h : ∀ row, request.Edits accepts row (edit row)) :
    Only (Edits accepts) seen
      (update request merchantId fun row => pure (edit row)) :=
  (sat_update fun row _ hcopy => Except.ok.inj hcopy ▸ h row).mono (fun _ _ hc => hc)
    fun _ _ _ => trivial

lemma sat_rotateApiKeySecret :
    Only (Edits accepts) seen (rotateApiKeySecret ports merchantId) := by
  refine Sat.andThen (sat_update_pure fun row => ?_) fun seen merchant => ?_
  · exact ⟨rfl, ⟨_, rfl⟩, rfl, rfl⟩
  · exact sat_bind.2 (sat_liftM.2 fun _ _ => trivial)

lemma sat_rotateHmacSecret :
    Only (Edits accepts) seen (rotateHmacSecret ports merchantId) := by
  refine sat_bind.2 ((sat_update fun row copy hcopy => ?_).mono (fun _ _ hc => hc)
    fun _ _ _ => trivial)
  obtain ⟨ciphertext, -, hcopy⟩ := bind_eq_ok.1 hcopy
  cases hcopy
  exact ⟨rfl, ⟨ciphertext, rfl⟩, rfl, rfl⟩

lemma sat_updateFeeTiers (tiers : List FeeTierEntry) :
    Only (Edits accepts) seen (updateFeeTiers merchantId tiers) := by
  refine (sat_update fun row copy hcopy => ?_).mono (fun _ _ hc => hc) fun _ _ _ => trivial
  obtain ⟨-, -, hcopy⟩ := bind_eq_ok.1 hcopy
  cases hcopy
  exact ⟨rfl, rfl, rfl, rfl⟩

lemma sat_updatePspEntitlement (providers : List PSPProvider) :
    Only (Edits accepts) seen (updatePspEntitlement merchantId providers) := by
  unfold updatePspEntitlement
  split_ifs
  · trivial
  · exact sat_update_pure fun _ => ⟨rfl, rfl, rfl, rfl⟩

lemma sat_submitKyc (submission : KycSubmission) :
    Only (Edits accepts) seen (submitKyc ports merchantId submission) := by
  refine (sat_update fun row copy hcopy => ?_).mono (fun _ _ hc => hc) fun _ _ _ => trivial
  obtain ⟨screening, -, hcopy⟩ := bind_eq_ok.1 hcopy
  obtain ⟨result, -, hcopy⟩ := bind_eq_ok.1 hcopy
  cases hcopy
  exact ⟨rfl, rfl, rfl, rfl⟩

lemma sat_submitKyb (submission : KybSubmission) :
    Only (Edits accepts) seen (submitKyb ports merchantId submission) := by
  refine (sat_update fun row copy hcopy => ?_).mono (fun _ _ hc => hc) fun _ _ _ => trivial
  obtain ⟨screening, -, hcopy⟩ := bind_eq_ok.1 hcopy
  obtain ⟨result, -, hcopy⟩ := bind_eq_ok.1 hcopy
  cases hcopy
  exact ⟨rfl, rfl, rfl, rfl⟩

lemma sat_confirmKyc (applicationId : String) (outcome : KycStatus) :
    Only (Edits accepts) seen (confirmKyc applicationId outcome) := by
  refine sat_bind.2 (sat_find fun db => ?_)
  cases hrow : MerchantLookup.find (.kycApplicationId applicationId) db with
  | none => trivial
  | some row =>
    dsimp only
    split_ifs
    · refine sat_save (get_of_find hrow) ?_ trivial
      exact ⟨rfl, rfl, rfl, rfl⟩
    · trivial

lemma sat_confirmKyb (applicationId : String) (outcome : KycStatus) :
    Only (Edits accepts) seen (confirmKyb applicationId outcome) := by
  refine sat_bind.2 (sat_find fun db => ?_)
  cases hrow : MerchantLookup.find (.kybApplicationId applicationId) db with
  | none => trivial
  | some row =>
    dsimp only
    split_ifs
    · refine sat_save (get_of_find hrow) ?_ trivial
      exact ⟨rfl, rfl, rfl, rfl⟩
    · trivial

lemma sat_rescreenSanctions :
    Only (Edits accepts) seen (rescreenSanctions ports merchantId) := by
  refine sat_bind.2 (sat_getOrThrow fun db row _ => ?_)
  refine sat_bind.2 (sat_liftM.2 fun screening _ => ?_)
  refine Sat.andThen (sat_update_pure fun row => ?_) fun _ _ => trivial
  exact ⟨rfl, rfl, rfl, rfl⟩

lemma sat_setActive (isActive : Bool) :
    Only (Edits accepts) seen (setActive ports merchantId isActive) := by
  refine Sat.andThen (sat_update_pure fun row => ?_) fun seen merchant => ?_
  · exact ⟨rfl, rfl, rfl, rfl⟩
  · split_ifs
    · trivial
    · exact sat_bind.2 (sat_liftM.2 fun _ _ => trivial)

/-- The report is written to a copy that is already an edit of the row that was last read. -/
lemma sat_fileMatchReport (hrow : db.get row.merchantId = some row)
    (h : request.Edits accepts row copy) :
    Only (Edits accepts) (some db) (fileMatchReport request ports copy) := by
  refine sat_bind.2 (sat_liftM.2 fun result _ => ?_)
  refine sat_bind.2 (sat_save hrow ?_ trivial)
  exact ⟨h.merchantId, h.security, h.risk, h.codes⟩

lemma sat_terminateForCause (reasonCode : MatchReasonCode) (reason actingAdmin : String) :
    Only (Edits accepts) seen
      (terminateForCause ports merchantId reasonCode reason actingAdmin) := by
  have hedits : ∀ row copy, (pure { row with
      isActive := false
      termination := { row.termination with
        terminatedForCause := true
        reasonCode := some reasonCode
        reason := some reason
        terminatedBy := some actingAdmin
        terminatedAt := some ports.now } } : Except AppError MerchantEntity) = .ok copy →
      (MerchantRequest.terminateForCause merchantId reasonCode reason actingAdmin).Edits accepts row
        copy := by
    intro row copy hcopy
    cases hcopy
    exact ⟨rfl, rfl, rfl, rfl⟩
  refine sat_bind.2 ((sat_update hedits).mono (fun _ _ hc => hc) ?_)
  rintro _ copy ⟨db, row, rfl, hrow, hcopy⟩
  refine sat_bind.2 (sat_liftM.2 fun _ _ => ?_)
  exact (sat_fileMatchReport ports hrow (hedits row copy hcopy)).tryCatch fun _ _ => trivial

lemma sat_retryMatchReport :
    Only (Edits accepts) seen (retryMatchReport ports merchantId) := by
  refine sat_bind.2 (sat_getOrThrow fun db row hrow => ?_)
  split_ifs
  · exact sat_fileMatchReport ports hrow ⟨rfl, rfl, rfl, rfl⟩
  · trivial

lemma sat_checkPlatform (params : CreateMerchantParams) :
    Only (Edits accepts) seen (checkPlatform params) := by
  unfold checkPlatform
  split
  · trivial
  · refine sat_bind.2 (sat_find fun db => ?_)
    split
    · trivial
    · split_ifs <;> trivial
  · trivial
  · trivial

lemma sat_createMerchant (params : CreateMerchantParams) :
    Only (Edits accepts) seen (createMerchant ports params) := by
  refine sat_bind.2 (sat_find fun db => ?_)
  split_ifs
  · trivial
  · refine (sat_checkPlatform params).andThen fun seen _ => ?_
    refine sat_bind.2 (sat_liftM.2 fun screening _ => ?_)
    split_ifs
    · trivial
    · refine sat_bind.2 (sat_liftM.2 fun ciphertext _ => ?_)
      refine ⟨trivial, fun db => ?_⟩
      dsimp only
      split_ifs <;> trivial

end MerchantService

namespace MfaService

open MerchantService

variable {seen : Option MerchantDb} {request : MerchantRequest} {merchantId : String}

lemma sat_generateEnrollment :
    Only (Edits accepts) seen (generateEnrollment ports merchantId) := by
  refine sat_bind.2 ((sat_update fun row copy hcopy => ?_).mono (fun _ _ hc => hc)
    fun _ _ _ => trivial)
  split_ifs at hcopy with henabled
  obtain ⟨ciphertext, -, hcopy⟩ := bind_eq_ok.1 hcopy
  cases hcopy
  exact ⟨rfl, ⟨Bool.eq_false_iff.2 henabled, _, rfl⟩, rfl, rfl⟩

lemma sat_confirmEnrollment (code : String) :
    Only (Edits accepts) seen (confirmEnrollment ports merchantId code) := by
  refine sat_bind.2 ((sat_update fun row copy hcopy => ?_).mono (fun _ _ hc => hc)
    fun _ _ _ => trivial)
  split at hcopy
  · exact nomatch hcopy
  · obtain ⟨secret, -, hcopy⟩ := bind_eq_ok.1 hcopy
    split_ifs at hcopy
    · cases hcopy
      exact ⟨rfl, rfl, rfl, trivial⟩

lemma sat_verifyCode (code : String)
    (h : ∀ row copy : MerchantEntity, copy.merchantId = row.merchantId →
      copy.security = row.security → copy.risk = row.risk →
      MerchantRequest.UsesUp ports.compare code row.mfaBackupCodeHashes copy.mfaBackupCodeHashes →
      request.Edits ports.compare row copy) :
    Only (Edits ports.compare) seen (verifyCode request ports merchantId code) := by
  refine sat_bind.2 (sat_getOrThrow fun db row hrow => ?_)
  split
  · refine sat_bind.2 (sat_liftM.2 fun secret _ => ?_)
    split_ifs
    · trivial
    · split
      · rename_i i hfound
        refine sat_save hrow (h row _ ?_ ?_ ?_ ⟨i, hfound, ?_⟩) trivial <;> rfl
      · trivial
  · trivial

lemma sat_disableMfa (code : String) :
    Only (Edits ports.compare) seen (disableMfa ports merchantId code) := by
  refine (sat_verifyCode ports code fun row copy hid hsecurity hrisk hcodes => ?_).andThen
    fun seen _ => ?_
  · exact ⟨hid, .inl hsecurity, hrisk, .inl hcodes⟩
  · refine Sat.andThen (sat_update_pure fun row => ?_) fun _ _ => trivial
    exact ⟨rfl, .inr rfl, rfl, .inr ⟨rfl, rfl⟩⟩

end MfaService

open MerchantService MfaService in
/-- **Every save is an edit**: whatever an operation saves, it is the row that the operation has
last read, changed as the operation may change it. -/
theorem program_edits (request : MerchantRequest) (ports : MerchantPorts)
    (seen : Option MerchantDb) :
    Only (Edits ports.compare) seen (request.program ports) := by
  cases request with
  | createMerchant params => exact (sat_createMerchant ports params).discard
  | rotateApiKeySecret id => exact (sat_rotateApiKeySecret ports).discard
  | rotateHmacSecret id => exact (sat_rotateHmacSecret ports).discard
  | updateFeeTiers id tiers => exact (sat_updateFeeTiers tiers).discard
  | submitKyc id submission => exact (sat_submitKyc ports submission).discard
  | confirmKyc id outcome => exact sat_confirmKyc id outcome
  | submitKyb id submission => exact (sat_submitKyb ports submission).discard
  | confirmKyb id outcome => exact sat_confirmKyb id outcome
  | updatePspEntitlement id providers => exact (sat_updatePspEntitlement providers).discard
  | rescreenSanctions id => exact (sat_rescreenSanctions ports).discard
  | setActive id isActive => exact (sat_setActive ports isActive).discard
  | terminateForCause id reasonCode reason actingAdmin =>
    exact (sat_terminateForCause ports reasonCode reason actingAdmin).discard
  | retryMatchReport id => exact (sat_retryMatchReport ports).discard
  | generateEnrollment id => exact (sat_generateEnrollment ports).discard
  | confirmEnrollment id code => exact (sat_confirmEnrollment ports code).discard
  | verifyCode id code =>
    exact sat_verifyCode ports code fun _ _ hid hsecurity hrisk hcodes =>
      ⟨hid, hsecurity, hrisk, hcodes⟩
  | disableMfa id code => exact sat_disableMfa ports code
  -- the others change their copy without asking anyone
  | _ =>
    refine Sat.discard (sat_update_pure fun row => ?_)
    exact ⟨rfl, rfl, rfl, rfl⟩

lemma MerchantCmd.get_apply_save (request : MerchantRequest) (copy : MerchantEntity)
    (db : MerchantDb) :
    (Commands.apply (save request copy) db).get copy.merchantId =
      (db.get copy.merchantId).map copy.mergedInto :=
  Table.get_modify_self (fun _ _ => copy.merchantId_mergedInto _) db

/-- **What a command does to a row that is there**: nothing, or it saves an edit of the row that its
operation has last read. -/
theorem MerchantCmd.apply_cases {c : MerchantCmd} (hedits : c.Edits accepts seen)
    {merchantId : String} (hrow : db.get merchantId = some row) :
    (Commands.apply c db).get merchantId = some row ∧
        (∀ request copy, c = save request copy → copy.merchantId ≠ merchantId) ∨
      ∃ request copy read, c = save request copy ∧ copy.merchantId = merchantId ∧
        seen.bind (·.get merchantId) = some read ∧ request.Edits accepts read copy ∧
        (Commands.apply c db).get merchantId = some (copy.mergedInto row) := by
  cases c with
  | findOne lookup | list => exact .inl ⟨hrow, fun _ _ h => MerchantCmd.noConfusion h⟩
  | insert merchant =>
    refine .inl ⟨?_, fun _ _ h => MerchantCmd.noConfusion h⟩
    change ((if (db.get merchant.merchantId).isSome then db else db.put merchant) :
      MerchantDb).get merchantId = some row
    split_ifs with hthere
    · exact hrow
    · rw [Table.get_put_of_ne db, hrow]
      rintro rfl
      rw [hrow] at hthere
      exact hthere rfl
  | save request copy =>
    obtain ⟨db₀, read, rfl, hread, hcopy⟩ := hedits
    by_cases hid : copy.merchantId = merchantId
    · subst hid
      refine .inr ⟨request, copy, read, rfl, rfl, hread, hcopy, ?_⟩
      rw [get_apply_save, hrow]
      rfl
    · refine .inl ⟨(Table.get_modify_of_ne (fun _ _ => copy.merchantId_mergedInto _) db
        (Ne.symm hid)).trans hrow, ?_⟩
      rintro _ _ ⟨rfl, rfl⟩
      exact hid

end OmniSwitch
