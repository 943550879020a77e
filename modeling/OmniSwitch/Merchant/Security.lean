import OmniSwitch.Merchant.Edits

/-!
# Changes that security rests on

A deactivation, a termination for cause, a rotation of a secret and the enablement of MFA are to
stand until the operation that is for it undoes them.  A save writes every column of the copy, so it
also writes back what the operation read of these before another operation changed them.

Main results:

* `Current.stands`, `security_changes_stand`: one save of a current copy, and every run of them;
* `security_changes_undone`: saves of older copies.
-/

namespace OmniSwitch

open Lib Lib.Prog

/-- The changes that one kind of operation may undo. -/
inductive SecurityChange where
  | deactivation | apiKeyRotation | hmacRotation | mfaEnablement
  deriving DecidableEq, Repr

namespace MerchantRequest

/-- The change that an operation is there to undo. -/
def undoes : MerchantRequest → Option SecurityChange
  | setActive _ _ => some .deactivation
  | rotateApiKeySecret _ => some .apiKeyRotation
  | rotateHmacSecret _ => some .hmacRotation
  | disableMfa _ _ => some .mfaEnablement
  | _ => none

/-- The operation terminates a merchant. -/
def terminates : MerchantRequest → Bool
  | terminateForCause _ _ _ _ => true
  | _ => false

/-- The operation enables MFA. -/
def enablesMfa : MerchantRequest → Bool
  | confirmEnrollment _ _ => true
  | _ => false

end MerchantRequest

namespace Security

/-- Nothing was undone from `old` to `new` but what may have been. -/
structure Stands (undone : SecurityChange → Prop) (old new : Security) : Prop where
  deactivation : ¬ undone .deactivation → old.isActive = false → new.isActive = false
  termination : old.terminatedForCause = true → new.terminatedForCause = true
  apiKey : ¬ undone .apiKeyRotation → new.apiKeySecretHash = old.apiKeySecretHash
  hmac : ¬ undone .hmacRotation → new.hmacSecretCiphertext = old.hmacSecretCiphertext
  mfa : ¬ undone .mfaEnablement → old.mfaEnabled = true →
    new.mfaEnabled = true ∧ new.mfaSecretCiphertext = old.mfaSecretCiphertext

/-- No other operation has committed such a change since `read`, of a column that the operation does
not set itself. -/
def Current (request : MerchantRequest) (read now : Security) : Prop :=
  (request.undoes ≠ some .deactivation → request.terminates = false → now.isActive = false →
    read.isActive = false) ∧
  (request.terminates = false → now.terminatedForCause = true → read.terminatedForCause = true) ∧
  (request.undoes ≠ some .apiKeyRotation → read.apiKeySecretHash = now.apiKeySecretHash) ∧
  (request.undoes ≠ some .hmacRotation → read.hmacSecretCiphertext = now.hmacSecretCiphertext) ∧
  (request.undoes ≠ some .mfaEnablement → now.mfaEnabled = true →
    (request.enablesMfa = false → read.mfaEnabled = true) ∧
      read.mfaSecretCiphertext = now.mfaSecretCiphertext)

instance (request : MerchantRequest) (read now : Security) :
    Decidable (Current request read now) :=
  inferInstanceAs (Decidable (_ ∧ _ ∧ _ ∧ _ ∧ _))

variable {undone undone' : SecurityChange → Prop} {a b c : Security}

lemma Stands.refl (a : Security) : Stands undone a a :=
  ⟨fun _ h => h, fun h => h, fun _ => rfl, fun _ => rfl, fun _ h => ⟨h, rfl⟩⟩

lemma Stands.trans (h₁ : Stands undone a b) (h₂ : Stands undone b c) : Stands undone a c where
  deactivation hno h := h₂.deactivation hno (h₁.deactivation hno h)
  termination h := h₂.termination (h₁.termination h)
  apiKey hno := (h₂.apiKey hno).trans (h₁.apiKey hno)
  hmac hno := (h₂.hmac hno).trans (h₁.hmac hno)
  mfa hno h := by
    obtain ⟨henabled, hsecret⟩ := h₁.mfa hno h
    obtain ⟨henabled', hsecret'⟩ := h₂.mfa hno henabled
    exact ⟨henabled', hsecret'.trans hsecret⟩

lemma Stands.mono (hsub : ∀ change, undone change → undone' change) (h : Stands undone a b) :
    Stands undone' a b where
  deactivation hno := h.deactivation fun hu => hno (hsub _ hu)
  termination := h.termination
  apiKey hno := h.apiKey fun hu => hno (hsub _ hu)
  hmac hno := h.hmac fun hu => hno (hsub _ hu)
  mfa hno := h.mfa fun hu => hno (hsub _ hu)

variable {request : MerchantRequest} {read now new : Security}

lemma Current.stands_of_eq (h : Current request read now) (hterminates : request.terminates = false)
    (henables : request.enablesMfa = false) (hnew : new = read) :
    Stands (fun change => request.undoes = some change) now new := by
  obtain ⟨hactive, hterminated, hkey, hhmac, hmfa⟩ := h
  subst hnew
  exact
    { deactivation := fun hno => hactive hno hterminates
      termination := hterminated hterminates
      apiKey := hkey
      hmac := hhmac
      mfa := fun hno henabled => ⟨(hmfa hno henabled).1 henables, (hmfa hno henabled).2⟩ }

/-- **A save of a current copy**: it undoes nothing but what its operation is there to undo. -/
theorem Current.stands (h : Current request read now) (hedits : request.EditsSecurity read new) :
    Stands (fun change => request.undoes = some change) now new := by
  cases request with
  | setActive id isActive =>
    obtain ⟨-, hterminated, hkey, hhmac, hmfa⟩ := h
    obtain rfl := hedits
    exact ⟨fun hno => absurd rfl hno, hterminated rfl, hkey, hhmac,
      fun hno henabled => ⟨(hmfa hno henabled).1 rfl, (hmfa hno henabled).2⟩⟩
  | terminateForCause id reasonCode reason actingAdmin =>
    obtain ⟨-, -, hkey, hhmac, hmfa⟩ := h
    obtain rfl := hedits
    exact ⟨fun _ _ => rfl, fun _ => rfl, hkey, hhmac,
      fun hno henabled => ⟨(hmfa hno henabled).1 rfl, (hmfa hno henabled).2⟩⟩
  | rotateApiKeySecret id =>
    obtain ⟨hactive, hterminated, -, hhmac, hmfa⟩ := h
    obtain ⟨hash, rfl⟩ := hedits
    exact ⟨fun hno => hactive hno rfl, hterminated rfl, fun hno => absurd rfl hno, hhmac,
      fun hno henabled => ⟨(hmfa hno henabled).1 rfl, (hmfa hno henabled).2⟩⟩
  | rotateHmacSecret id =>
    obtain ⟨hactive, hterminated, hkey, -, hmfa⟩ := h
    obtain ⟨ciphertext, rfl⟩ := hedits
    exact ⟨fun hno => hactive hno rfl, hterminated rfl, hkey, fun hno => absurd rfl hno,
      fun hno henabled => ⟨(hmfa hno henabled).1 rfl, (hmfa hno henabled).2⟩⟩
  | generateEnrollment id =>
    obtain ⟨hactive, hterminated, hkey, hhmac, hmfa⟩ := h
    obtain ⟨hdisabled, ciphertext, rfl⟩ := hedits
    refine ⟨fun hno => hactive hno rfl, hterminated rfl, hkey, hhmac, fun hno henabled => ?_⟩
    -- an enrollment starts only where MFA is off, so no copy of it is current once MFA is on
    have hread : read.mfaEnabled = true := (hmfa hno henabled).1 rfl
    rw [hdisabled] at hread
    exact nomatch hread
  | confirmEnrollment id code =>
    obtain ⟨hactive, hterminated, hkey, hhmac, hmfa⟩ := h
    obtain rfl := hedits
    exact ⟨fun hno => hactive hno rfl, hterminated rfl, hkey, hhmac,
      fun hno henabled => ⟨rfl, (hmfa hno henabled).2⟩⟩
  | disableMfa id code =>
    rcases hedits with hnew | rfl
    · exact h.stands_of_eq rfl rfl hnew
    · obtain ⟨hactive, hterminated, hkey, hhmac, -⟩ := h
      exact ⟨fun hno => hactive hno rfl, hterminated rfl, hkey, hhmac,
        fun hno => absurd rfl hno⟩
  | _ => exact h.stands_of_eq rfl rfl hedits

end Security

/-! ### Interleavings -/

namespace MerchantCmd

/-- A save of the merchant's row by an operation that may undo the change. -/
def Undoes (merchantId : String) (change : SecurityChange) : MerchantCmd → Prop
  | save request copy => copy.merchantId = merchantId ∧ request.undoes = some change
  | _ => False

/-- A save of the merchant's row is of a copy that is current as to security. -/
def Current (merchantId : String) (seen : Option MerchantDb) (db : MerchantDb) : MerchantCmd → Prop
  | save request copy =>
    copy.merchantId = merchantId → ∀ read ∈ seen.bind (·.get merchantId),
      ∀ row ∈ db.get merchantId, Security.Current request read.security row.security
  | _ => True

end MerchantCmd

/-- The merchant's row is still there, and nothing of its security was undone but what may have
been. -/
def MerchantDb.Stands (merchantId : String) (undone : SecurityChange → Prop)
    (db db' : MerchantDb) : Prop :=
  ∀ row, db.get merchantId = some row →
    ∃ row', db'.get merchantId = some row' ∧ Security.Stands undone row.security row'.security

namespace MerchantDb

variable {merchantId : String} {undone : SecurityChange → Prop} {db db' db'' : MerchantDb}

lemma Stands.refl (db : MerchantDb) : db.Stands merchantId undone db :=
  fun row hrow => ⟨row, hrow, .refl _⟩

lemma Stands.trans (h₁ : db.Stands merchantId undone db')
    (h₂ : db'.Stands merchantId undone db'') : db.Stands merchantId undone db'' := by
  intro row hrow
  obtain ⟨row', hrow', hstands⟩ := h₁ row hrow
  obtain ⟨row'', hrow'', hstands'⟩ := h₂ row' hrow'
  exact ⟨row'', hrow'', hstands.trans hstands'⟩

end MerchantDb

/-- **Changes that security rests on stand**: from any point of any interleaving of operations on
the merchants, as long as every save of the merchant's row is of a current copy, no commit undoes a
deactivation, a termination for cause, the rotation of a secret or the enablement of MFA, but a
commit of `setActive`, of a rotation of the same kind or of `disableMfa`. -/
theorem security_changes_stand (db : MerchantDb) (calls : List (MerchantRequest × MerchantPorts))
    (before after : List Nat) (merchantId : String)
    (hcurrent : ∀ e ∈ (((merchantPool db calls).exec before).2.exec after).1,
      e.cmd.Current merchantId e.seen e.pre) :
    ((merchantPool db calls).exec before).2.state.Stands merchantId
      (fun change => ∃ e ∈ (((merchantPool db calls).exec before).2.exec after).1,
        e.cmd.Undoes merchantId change)
      (((merchantPool db calls).exec before).2.exec after).2.state := by
  have hpool : ∀ p ∈ (merchantPool db calls).procs, Only MerchantCmd.EditsAny p.seen p.prog :=
    List.forall_mem_map.2 fun call _ => only_editsAny (program_edits call.1 call.2 none)
  obtain ⟨-, hmid⟩ := Pool.exec_guarantees hpool before
  obtain ⟨hevents, -⟩ := Pool.exec_guarantees hmid after
  refine Pool.exec_related MerchantDb.Stands.refl (fun _ _ _ => MerchantDb.Stands.trans) after ?_
  intro e he
  obtain ⟨⟨accepts, hedits⟩, hpost⟩ := hevents e he
  rw [hpost]
  intro row hrow
  rcases MerchantCmd.apply_cases hedits hrow with
    ⟨hsame, -⟩ | ⟨request, copy, read, hsave, hid, hread, hcopy, hwritten⟩
  · exact ⟨row, hsame, .refl _⟩
  · have hnow := hcurrent e he
    rw [hsave] at hnow
    refine ⟨copy.mergedInto row, hwritten,
      ((hnow hid read hread row hrow).stands hcopy.security).mono
      fun change hchange => ⟨e, he, ?_⟩⟩
    rw [hsave]
    exact ⟨hid, hchange⟩

instance (merchantId : String) (seen : Option MerchantDb) (db : MerchantDb) (c : MerchantCmd) :
    Decidable (c.Current merchantId seen db) := by
  refine c.casesOn ?_ ?_ ?_ ?_ <;> intros <;> dsimp only [MerchantCmd.Current] <;> infer_instance

namespace Sample

/-- What the other services answer. -/
def ports : MerchantPorts := { apiKeySecret := "second key", hmacSecret := "second secret" }

/-- What security rests on, at the end of a run. -/
def securityIn (pool : Pool MerchantDb MerchantCmd AppError) : Option Security :=
  (pool.state.get "m1").map (·.security)

/-- A KYC submission. -/
def submittedKyc : MerchantRequest := .submitKyc "m1" ⟨"Shop Ltd", "12-345"⟩

/-- A termination for cause. -/
def terminated : MerchantRequest := .terminateForCause "m1" .Laundering "reported" "admin"

/-- A termination and a rotation, with two operations yet to start. -/
def secured : List (MerchantRequest × MerchantPorts) :=
  [(terminated, ports), (.rotateApiKeySecret "m1", ports), (submittedKyc, ports),
    (.updateFeeRate "m1" 200, ports)]

/-- The writer has read the row; then the other operation runs. -/
def behind (writer other : MerchantRequest) : Pool MerchantDb MerchantCmd AppError :=
  ((merchantPool shops [(writer, ports), (other, ports)]).exec [0, 1, 1, 1]).2

/-- The security after the other operation, and after the writer has saved its copy. -/
def aroundSave (writer other : MerchantRequest) : Option Security × Option Security :=
  (securityIn (behind writer other), securityIn ((behind writer other).exec [0]).2)

end Sample

open Sample

/-- After a termination and a rotation, two operations that read the row before either saves it. -/
theorem security_changes_stand_after_termination :
    (∀ e ∈ (((merchantPool shops secured).exec [0, 0, 0, 1, 1]).2.exec [2, 3, 2, 3]).1,
      e.cmd.Current "m1" e.seen e.pre) ∧
    securityIn (((merchantPool shops secured).exec [0, 0, 0, 1, 1]).2.exec [2, 3, 2, 3]).2 =
      some ⟨false, true, "second key", "first secret", false, some "totp"⟩ ∧
    ((merchantPool shops secured).exec [0, 0, 0, 1, 1]).2.state.Stands "m1"
      (fun change => ∃ e ∈
        (((merchantPool shops secured).exec [0, 0, 0, 1, 1]).2.exec [2, 3, 2, 3]).1,
        e.cmd.Undoes "m1" change)
      (((merchantPool shops secured).exec [0, 0, 0, 1, 1]).2.exec [2, 3, 2, 3]).2.state := by
  have hcurrent : ∀ e ∈ (((merchantPool shops secured).exec [0, 0, 0, 1, 1]).2.exec
      [2, 3, 2, 3]).1, e.cmd.Current "m1" e.seen e.pre := by
    decide +kernel
  exact ⟨hcurrent, by decide +kernel, security_changes_stand shops secured _ _ "m1" hcurrent⟩

/-- A KYC submission that read the row before it undoes a deactivation and a termination for cause;
a change of the fee rate undoes either rotation and the enablement of MFA. -/
theorem security_changes_undone :
    aroundSave submittedKyc (.setActive "m1" false) =
      (some ⟨false, false, "first key", "first secret", false, some "totp"⟩,
        some ⟨true, false, "first key", "first secret", false, some "totp"⟩) ∧
    aroundSave submittedKyc terminated =
      (some ⟨false, true, "first key", "first secret", false, some "totp"⟩,
        some ⟨true, false, "first key", "first secret", false, some "totp"⟩) ∧
    aroundSave (.updateFeeRate "m1" 200) (.rotateApiKeySecret "m1") =
      (some ⟨true, false, "second key", "first secret", false, some "totp"⟩,
        some ⟨true, false, "first key", "first secret", false, some "totp"⟩) ∧
    aroundSave (.updateFeeRate "m1" 200) (.rotateHmacSecret "m1") =
      (some ⟨true, false, "first key", "second secret", false, some "totp"⟩,
        some ⟨true, false, "first key", "first secret", false, some "totp"⟩) ∧
    aroundSave (.updateFeeRate "m1" 200) (.confirmEnrollment "m1" "totp") =
      (some ⟨true, false, "first key", "first secret", true, some "totp"⟩,
        some ⟨true, false, "first key", "first secret", false, some "totp"⟩) := by
  refine ⟨?_, ?_, ?_, ?_, ?_⟩ <;> decide +kernel

end OmniSwitch
