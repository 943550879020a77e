import OmniSwitch.Auth.Signatures
import OmniSwitch.Merchant.Monitoring

/-!
# What an agent's token gives access to

`roles.guard.ts` and the routes that `auth.controller.ts` and the other controllers offer to a
bearer token.  A delegation's token carries the role `AGENT`, which is on the list of one route, the
charge; the routes of `auth.controller.ts` that act on a token have no list at all, so an agent's
token passes them too.  What a route does that no agent gets to is left open.

Main results:

* `KeepsCredentials.ambiguous`, `KeepsCredentials.aml`: what a charge may write of a merchant keeps
  its credentials;
* `BearerRequest.keeps_serve`, `agents_leave_credentials`: one request of an agent, and any sequence
  of them;
* `agent_takes_mfa_over`: an agent that confirms an enrolment of its own.
-/

namespace OmniSwitch

open Lib Lib.Prog AmlReviewMonitoringService MfaService

/-! ### Credentials -/

/-- What a merchant logs in and signs with. -/
structure Credentials where
  mfaEnabled : Bool
  mfaSecretCiphertext : Option String
  mfaBackupCodeHashes : List String
  apiKeySecretHash : String
  hmacSecretCiphertext : String
  deriving DecidableEq

/-- The credentials in a row. -/
def MerchantEntity.credentials (merchant : MerchantEntity) : Credentials :=
  ⟨merchant.mfaEnabled, merchant.mfaSecretCiphertext, merchant.mfaBackupCodeHashes,
    merchant.apiKeySecretHash, merchant.hmacSecretCiphertext⟩

/-- The credentials of a merchant. -/
def MerchantDb.credentials (db : MerchantDb) (merchantId : String) : Option Credentials :=
  (db.get merchantId).map MerchantEntity.credentials

/-- A program that leaves every merchant's credentials as they are. -/
def KeepsCredentials {α : Type} (p : MerchantProg α) : Prop :=
  ∀ db : MerchantDb, MerchantDb.credentials (p.run db).1 = db.credentials

namespace KeepsCredentials

variable {α β : Type}

lemma pure (a : α) : KeepsCredentials (Pure.pure a) := fun _ => rfl

/-- Programs that keep the credentials compose. -/
lemma bind {p : MerchantProg α} {f : α → MerchantProg β} (hp : KeepsCredentials p)
    (hf : ∀ a, KeepsCredentials (f a)) : KeepsCredentials (p >>= f) := by
  intro db
  rw [run_bind]
  have hp := hp db
  rcases hrun : p.run db with ⟨db', a | a⟩
  · rwa [hrun] at hp
  · rw [hrun] at hp
    exact (hf a db').trans hp

lemma liftM (x : Except AppError α) : KeepsCredentials (MonadLiftT.monadLift x) := by
  intro db
  exact congrArg (fun result => MerchantDb.credentials (Prod.fst result)) (run_liftM x db)

lemma find (merchantId : String) :
    KeepsCredentials (MerchantService.findByMerchantId merchantId) := fun _ => rfl

/-- An update whose edit keeps the credentials keeps them in the table. -/
lemma update (request : MerchantRequest) (merchantId : String)
    {edit : MerchantEntity → Except AppError MerchantEntity}
    (hedit : ∀ merchant copy, edit merchant = .ok copy →
      copy.merchantId = merchant.merchantId ∧ copy.credentials = merchant.credentials) :
    KeepsCredentials (MerchantService.update request merchantId edit) := by
  intro db
  unfold MerchantService.update
  rw [run_bind, MerchantService.run_getOrThrow]
  cases hrow : db.get merchantId with
  | none => rfl
  | some row =>
    dsimp only [Option.elim_some]
    rw [run_bind, run_liftM]
    cases hcopy : edit row with
    | error e => rfl
    | ok copy =>
      obtain ⟨hid, hcredentials⟩ := hedit row copy hcopy
      have hkey : copy.merchantId = merchantId := hid.trans (Table.key_of_get hrow)
      funext id
      change ((db.modify copy.merchantId copy.mergedInto
        fun _ _ => copy.merchantId_mergedInto _).get id).map _ = _
      by_cases h : id = copy.merchantId
      · rw [h, Table.get_modify_self, MerchantDb.credentials, hkey, hrow]
        exact congrArg some hcredentials
      · rw [Table.get_modify_of_ne _ _ h]
        rfl

/-- The evaluation of ambiguous outcomes keeps the credentials. -/
lemma ambiguous (evaluation : AmbiguousRiskMonitoringService.Evaluation) :
    KeepsCredentials (AmbiguousRiskMonitoringService.evaluate evaluation) := by
  have hflag (reason : String) : KeepsCredentials (discard
      (MerchantService.applyAutoAmbiguousRiskFlag { now := evaluation.now } evaluation.merchantId
        true reason)) := by
    refine bind (update _ _ fun merchant copy hcopy => ?_) fun _ => pure ()
    rw [← Except.ok.inj hcopy]
    exact ⟨rfl, rfl⟩
  refine bind (find _) fun merchant => ?_
  cases merchant.filter (·.ambiguousRisk.autoManaged) with
  | none => exact pure ()
  | some merchant =>
    dsimp only
    split_ifs
    · exact hflag _
    · refine bind (liftM _) fun dailyCount => ?_
      split_ifs
      · exact hflag _
      · refine bind (liftM _) fun recent => ?_
        split_ifs
        · exact hflag _
        · exact pure ()

/-- The evaluation of hard declines keeps the credentials. -/
lemma aml (evaluation : Evaluation) :
    KeepsCredentials (evaluate evaluation) := by
  have hflag (reason : String) : KeepsCredentials (discard
      (MerchantService.applyAutoAmlReviewFlag { now := evaluation.now } evaluation.merchantId true
        reason)) := by
    refine bind (update _ _ fun merchant copy hcopy => ?_) fun _ => pure ()
    rw [← Except.ok.inj hcopy]
    exact ⟨rfl, rfl⟩
  unfold evaluate
  split_ifs
  · exact pure ()
  · refine bind (find _) fun merchant => ?_
    dsimp only
    split
    · exact pure ()
    · split_ifs
      · exact hflag _
      · refine bind (liftM _) fun hardDeclineCount => ?_
        split_ifs
        · exact pure ()
        · exact hflag _

end KeepsCredentials

/-! ### Routes -/

/-- The lists of roles that the controllers' routes ask for, the charge's apart.

Source: `Roles` -/
inductive Access where
  | admin | backOffice | merchant | reader | anyone
  deriving DecidableEq

/-- The roles of each list. -/
def Access.roles : Access → List UserRole
  | admin => [.ADMIN]
  | backOffice => [.ADMIN, .OPERATOR]
  | merchant => [.MERCHANT, .ADMIN]
  | reader => [.MERCHANT, .ADMIN, .READONLY]
  | anyone => [.MERCHANT, .ADMIN, .OPERATOR, .READONLY]

/-- The tokens and the merchants. -/
structure Accounts where
  auth : AuthState
  merchants : MerchantDb

/-- A route, with what the request asks for.  All that a charge may write of a merchant is what the
saga has the two evaluations find out; a route that asks for other roles may do anything. -/
inductive Route where
  | charge (ambiguous : Option AmbiguousRiskMonitoringService.Evaluation)
      (aml : Option Evaluation)
  | revoke
  | enrollMfa
  | confirmMfa (code : String)
  | disableMfa (code : String)
  | verifyMfa (code jti : String)
  | guarded (access : Access) (handler : AuthenticatedUser → Accounts → Accounts)

/-- The roles that `RolesGuard` asks for; the routes of `auth.controller.ts` are without that guard.

Source: `PaymentController.charge`; `AuthController` -/
def Route.roles : Route → List UserRole
  | charge _ _ => [.MERCHANT, .ADMIN, .AGENT]
  | guarded access _ => access.roles
  | _ => []

/-- Source: `AuthController.verifyMfa` -/
def Route.allowMfaPending : Route → Bool
  | verifyMfa _ _ => true
  | _ => false

/-- Source: `RolesGuard.canActivate` -/
def RolesGuard.canActivate (merchants : MerchantDb) (user : AuthenticatedUser)
    (requiredRoles : List UserRole) : Except AppError Unit :=
  if requiredRoles = [] then .ok ()
  else if !requiredRoles.any user.roles.contains then
    .error (.http 403 "Forbidden" "INSUFFICIENT_PERMISSIONS")
  else if user.roles.contains .ADMIN &&
      !((merchants.get user.merchantId).filter (·.isActive)).any (·.mfaEnabled) then
    .error (.http 403 "MFA must be enabled for ADMIN access" "MFA_REQUIRED_FOR_ADMIN")
  else .ok ()

/-- A request; `wait` is the time since the one before, and `ports` what the services answer. -/
structure BearerRequest where
  token : JwtPayload
  route : Route
  ports : MerchantPorts := {}
  wait : Nat := 0
  delay : Nat := 0

namespace BearerRequest

/-- Source: `AuthController.enrollMfa`, `AuthController.confirmMfa`, `AuthController.disableMfa`,
`AuthController.verifyMfa`, `AuthController.revokeCurrentToken` -/
def handle (r : BearerRequest) (user : AuthenticatedUser) (s : Accounts) : Accounts :=
  match r.route with
  | .charge ambiguous aml =>
    let merchants := ambiguous.elim s.merchants fun evaluation =>
      ((AmbiguousRiskMonitoringService.evaluate
        { evaluation with merchantId := user.merchantId }).run s.merchants).1
    { s with merchants := aml.elim merchants fun evaluation =>
        ((evaluate
          { evaluation with merchantId := user.merchantId }).run merchants).1 }
  | .revoke => { s with auth := AuthController.revokeCurrentToken r.token r.delay s.auth }
  | .enrollMfa =>
    { s with merchants := ((generateEnrollment r.ports user.merchantId).run s.merchants).1 }
  | .confirmMfa code =>
    { s with
      merchants := ((confirmEnrollment r.ports user.merchantId code).run s.merchants).1 }
  | .disableMfa code =>
    { s with merchants := ((disableMfa r.ports user.merchantId code).run s.merchants).1 }
  | .verifyMfa code jti =>
    match (verifyCode (.verifyCode user.merchantId code) r.ports user.merchantId code).run
      s.merchants with
    | (merchants, .error _) => { s with merchants }
    | (merchants, .ok ()) =>
      let auth := AuthController.revokeCurrentToken r.token r.delay s.auth
      ⟨AuthController.issueToken user.userId user.merchantId user.roles false jti auth, merchants⟩
  | .guarded _ handler => handler user s

/-- A request passes the guards of its route, or changes nothing.

Source: `JwtAuthGuard.canActivate`; `RolesGuard.canActivate` -/
def serve (r : BearerRequest) (s : Accounts) : Accounts :=
  let s := { s with auth := { s.auth with now := s.auth.now + r.wait } }
  let guards := do
    let user ← JwtAuthGuard.canActivate s.auth r.token r.route.allowMfaPending
    RolesGuard.canActivate s.merchants user r.route.roles
    pure user
  match guards with
  | .error _ => s
  | .ok user => r.handle user s

/-- The code is a TOTP code for the merchant's secret. -/
def Matches (ports : MerchantPorts) (merchant : MerchantEntity) (code : String) : Prop :=
  ∃ ciphertext secret, truthy merchant.mfaSecretCiphertext = some ciphertext ∧
    ports.decrypt ciphertext = .ok secret ∧ isValidTotp ports secret code = true

/-- What the request is refused for, if it is for a route of MFA: enrolment where MFA is enabled, or
a code that is not the merchant's. -/
def MfaRefused (r : BearerRequest) (s : Accounts) : Prop :=
  ∀ merchant ∈ s.merchants.get r.token.merchantId, match r.route with
    | .enrollMfa => merchant.mfaEnabled = true
    | .confirmMfa code => ¬ Matches r.ports merchant code
    | .disableMfa code => merchant.mfaEnabled = true → ¬ Matches r.ports merchant code ∧
        merchant.mfaBackupCodeHashes.findIdx? (r.ports.compare code) = none
    | .verifyMfa code _ => merchant.mfaEnabled = true → ¬ Matches r.ports merchant code ∧
        merchant.mfaBackupCodeHashes.findIdx? (r.ports.compare code) = none
    | _ => True

end BearerRequest

/-- The token of a delegation of the merchant.

Source: `DelegationService.createDelegation` -/
def JwtPayload.OfDelegation (merchantId : String) (token : JwtPayload) : Prop :=
  token.merchantId = merchantId ∧ token.roles = some [.AGENT] ∧ token.delegationId ≠ none

/-! ### What is refused -/

/-- The program fails and changes nothing. -/
def Refused {α : Type} (p : MerchantProg α) (db : MerchantDb) : Prop :=
  ∃ e, p.run db = (db, .error e)

namespace Refused

variable {α β : Type} {db : MerchantDb} {merchantId : String}
variable {f : α → MerchantProg β}

lemma bind {p : MerchantProg α} (h : Refused p db) :
    Refused (p >>= f) db := by
  obtain ⟨e, he⟩ := h
  exact ⟨e, by rw [run_bind, he]⟩

lemma getOrThrow_bind {f : MerchantEntity → MerchantProg β}
    (h : ∀ merchant ∈ db.get merchantId, Refused (f merchant) db) :
    Refused (MerchantService.getOrThrow merchantId >>= f) db := by
  unfold Refused
  rw [run_bind, MerchantService.run_getOrThrow]
  cases hrow : db.get merchantId with
  | none => exact ⟨_, rfl⟩
  | some merchant => exact h merchant hrow

lemma liftM_bind {x : Except AppError α} (h : ∀ a, x = .ok a → Refused (f a) db) :
    Refused (MonadLiftT.monadLift x >>= f) db := by
  cases x with
  | error e => exact ⟨e, rfl⟩
  | ok a => exact h a rfl

variable {request : MerchantRequest}

lemma update {edit : MerchantEntity → Except AppError MerchantEntity}
    (h : ∀ merchant ∈ db.get merchantId, ∀ copy, edit merchant ≠ .ok copy) :
    Refused (MerchantService.update request merchantId edit) db :=
  getOrThrow_bind fun merchant hmerchant => liftM_bind fun copy hcopy =>
    absurd hcopy (h merchant hmerchant copy)

/-- No enrolment is generated where MFA is enabled. -/
lemma generateEnrollment (ports : MerchantPorts)
    (h : ∀ merchant ∈ db.get merchantId, merchant.mfaEnabled = true) :
    Refused (generateEnrollment ports merchantId) db := by
  refine bind (update fun merchant hmerchant copy => ?_)
  rw [if_pos (h merchant hmerchant)]
  nofun

variable {ports : MerchantPorts}

/-- No enrolment is confirmed with a wrong code. -/
lemma confirmEnrollment {code : String}
    (h : ∀ merchant ∈ db.get merchantId, ¬ BearerRequest.Matches ports merchant code) :
    Refused (confirmEnrollment ports merchantId code) db := by
  refine bind (update fun merchant hmerchant copy => ?_)
  cases hsecret : truthy merchant.mfaSecretCiphertext with
  | none => nofun
  | some ciphertext =>
    intro hcopy
    obtain ⟨secret, hdecrypt, hcopy⟩ := bind_eq_ok.1 hcopy
    rw [if_neg fun hvalid => h merchant hmerchant ⟨ciphertext, secret, hsecret, hdecrypt, hvalid⟩]
      at hcopy
    nomatch hcopy

/-- A wrong code is refused. -/
lemma verifyCode {code : String}
    (h : ∀ merchant ∈ db.get merchantId, merchant.mfaEnabled = true → ¬ BearerRequest.Matches ports
      merchant code ∧ merchant.mfaBackupCodeHashes.findIdx? (ports.compare code) = none) :
    Refused (verifyCode request ports merchantId code) db := by
  refine getOrThrow_bind fun merchant hmerchant => ?_
  cases henabled : merchant.mfaEnabled with
  | false => exact ⟨_, rfl⟩
  | true =>
    obtain ⟨hcode, hbackup⟩ := h merchant hmerchant henabled
    cases hsecret : truthy merchant.mfaSecretCiphertext with
    | none => exact ⟨_, rfl⟩
    | some ciphertext =>
      refine liftM_bind fun secret hdecrypt => ?_
      rw [if_neg fun hvalid => hcode ⟨ciphertext, secret, hsecret, hdecrypt, hvalid⟩, hbackup]
      exact ⟨_, rfl⟩

end Refused

lemma AuthController.tokens_revokeCurrentToken (token : JwtPayload) (delay : Nat) (s : AuthState) :
    (revokeCurrentToken token delay s).tokens = s.tokens := by
  unfold revokeCurrentToken
  split
  · unfold TokenRevocation.revokeToken
    split_ifs <;> rfl
  · rfl

/-- One request of an agent that is refused on the routes of MFA keeps the credentials. -/
lemma BearerRequest.keeps_serve {merchantId : String} {r : BearerRequest}
    (hagent : r.token.OfDelegation merchantId) {s : Accounts} (hrefused : r.MfaRefused s) :
    (r.serve s).merchants.credentials = s.merchants.credentials ∧
      (r.serve s).auth.tokens = s.auth.tokens := by
  unfold serve
  dsimp only
  split
  · exact ⟨rfl, rfl⟩
  · rename_i user hguards
    obtain ⟨user', hjwt, hguards⟩ := bind_eq_ok.1 hguards
    obtain ⟨⟨⟩, hrole, huser⟩ := bind_eq_ok.1 hguards
    obtain rfl := Except.ok.inj huser
    have hvalidate := JwtAuthGuard.validate_of_canActivate hjwt
    obtain ⟨hmerchant, hroles⟩ := JwtStrategy.validate_ok hvalidate
    rw [hagent.2.1] at hroles
    unfold MfaRefused at hrefused
    unfold handle
    rw [hmerchant]
    cases hroute : r.route with
    | charge ambiguous aml =>
      refine ⟨?_, rfl⟩
      cases ambiguous with
      | none =>
        cases aml with
        | none => rfl
        | some evaluation => exact KeepsCredentials.aml _ _
      | some evaluation =>
        cases aml with
        | none => exact KeepsCredentials.ambiguous _ _
        | some evaluation' =>
          exact (KeepsCredentials.aml _ _).trans (KeepsCredentials.ambiguous _ _)
    | revoke => exact ⟨rfl, AuthController.tokens_revokeCurrentToken _ _ _⟩
    | enrollMfa =>
      simp only [hroute] at hrefused
      obtain ⟨e, he⟩ := Refused.generateEnrollment r.ports hrefused
      simp [he]
    | confirmMfa code =>
      simp only [hroute] at hrefused
      obtain ⟨e, he⟩ := Refused.confirmEnrollment hrefused
      simp [he]
    | disableMfa code =>
      simp only [hroute] at hrefused
      obtain ⟨e, he⟩ := (Refused.verifyCode hrefused).bind
      exact ⟨congrArg (fun result => MerchantDb.credentials (Prod.fst result)) he, rfl⟩
    | verifyMfa code jti =>
      simp only [hroute] at hrefused
      obtain ⟨e, he⟩ := Refused.verifyCode hrefused
      dsimp only
      rw [he]
      exact ⟨rfl, rfl⟩
    | guarded access handler =>
      rw [hroute] at hrole
      unfold RolesGuard.canActivate at hrole
      rw [hroles] at hrole
      cases access <;> cases hrole

open BearerRequest in
/-- **Agents leave a merchant's credentials**: in every sequence of requests with tokens of its
delegations of which none succeeds on a route of MFA, the merchant's credentials are those it had,
and no token is signed. -/
theorem agents_leave_credentials (merchantId : String) (s : Accounts)
    (requests : List BearerRequest) (hagent : ∀ r ∈ requests, r.token.OfDelegation merchantId)
    (hrefused : ∀ moment ∈ History.moments serve s requests, moment.1.MfaRefused moment.2) :
    (History.after serve s requests).merchants.credentials merchantId =
        s.merchants.credentials merchantId ∧
      (History.after serve s requests).auth.tokens = s.auth.tokens := by
  have hstep (r : BearerRequest) (s' : Accounts)
      (hs' : s'.merchants.credentials = s.merchants.credentials ∧ s'.auth.tokens = s.auth.tokens)
      (hr : r.token.OfDelegation merchantId ∧ r.MfaRefused s') :
      (r.serve s').merchants.credentials = s.merchants.credentials ∧
        (r.serve s').auth.tokens = s.auth.tokens := by
    have hserve := keeps_serve hr.1 hr.2
    exact ⟨hserve.1.trans hs'.1, hserve.2.trans hs'.2⟩
  have hkept := History.keeps serve hstep ⟨rfl, rfl⟩ requests fun moment hmoment => by
    have hmem := List.mem_map_of_mem (f := Prod.fst) hmoment
    rw [History.map_fst_moments] at hmem
    exact ⟨hagent _ hmem, hrefused moment hmoment⟩
  exact ⟨congrFun hkept.1 merchantId, hkept.2⟩

namespace Sample

/-- The token of a delegation of the merchant `m1`. -/
def delegationToken : JwtPayload :=
  { sub := "d1", merchantId := "m1", roles := some [.AGENT], jti := some "t1", iat := some 0,
    exp := some 86400, delegationId := some "d1" }

/-- A merchant, its MFA as given, and the token of one delegation. -/
def delegating (mfaEnabled : Bool) (mfaSecretCiphertext : Option String) : Accounts where
  auth := { now := 0, tokens := [delegationToken] }
  merchants := Table.empty.put
    { merchantId := "m1", name := "Shop", apiKeySecretHash := "key", hmacSecretCiphertext := "hmac"
      mfaEnabled := mfaEnabled, mfaSecretCiphertext := mfaSecretCiphertext
      mfaBackupCodeHashes := ["backup"] }

/-- An agent's request, by services that check a code against the secret itself. -/
def byAgent (route : Route) : BearerRequest :=
  { token := delegationToken, route, ports := { totpSecret := "agent", backupCodes := ["spare"] } }

/-- The fifth charge in a row that no PSP answers: the merchant is flagged. -/
def unansweredCharge : BearerRequest :=
  byAgent (.charge (some { merchantId := "", now := 0, dailyCount := .ok 5
                           recent := .ok (List.replicate 5 true) }) none)

end Sample

open Sample

/-- A charge that no PSP answers, an enrolment where MFA is enabled, and a guess. -/
theorem agents_leave_credentials_refused :
    (History.after BearerRequest.serve (delegating true (some "totp"))
        [unansweredCharge, byAgent .enrollMfa,
          byAgent (.verifyMfa "guess" "t2")]).merchants.credentials "m1" =
        some ⟨true, some "totp", ["backup"], "key", "hmac"⟩ ∧
      (History.after BearerRequest.serve (delegating true (some "totp"))
        [unansweredCharge, byAgent .enrollMfa, byAgent (.verifyMfa "guess" "t2")]).auth.tokens =
        [delegationToken] := by
  refine agents_leave_credentials "m1" (delegating true (some "totp"))
    [unansweredCharge, byAgent .enrollMfa, byAgent (.verifyMfa "guess" "t2")] ?_ ?_
  · intro r hr
    simp only [List.mem_cons, List.not_mem_nil, or_false] at hr
    rcases hr with rfl | rfl | rfl <;> exact ⟨rfl, rfl, nofun⟩
  · simp only [History.moments, List.forall_mem_cons]
    refine ⟨fun _ _ => trivial, fun merchant hmerchant => ?_, fun merchant hmerchant => ?_,
      List.forall_mem_nil _⟩
    · obtain rfl := Option.some.inj hmerchant
      rfl
    · obtain rfl := Option.some.inj hmerchant
      rintro -
      refine ⟨?_, rfl⟩
      rintro ⟨ciphertext, secret, hciphertext, hsecret, hvalid⟩
      obtain rfl := Option.some.inj hciphertext
      obtain rfl := Except.ok.inj hsecret
      revert hvalid
      decide

/-- An agent enrols a merchant without MFA, confirms with the secret it was given, and then gets a
token that no delegation stands behind. -/
theorem agent_takes_mfa_over :
    delegationToken.OfDelegation "m1" ∧
      (delegating false none).merchants.credentials "m1" =
        some ⟨false, none, ["backup"], "key", "hmac"⟩ ∧
      (History.after BearerRequest.serve (delegating false none)
        [byAgent .enrollMfa, byAgent (.confirmMfa "agent")]).merchants.credentials "m1" =
        some ⟨true, some "agent", ["spare"], "key", "hmac"⟩ ∧
      ∃ token ∈ (History.after BearerRequest.serve (delegating false none)
        [byAgent .enrollMfa, byAgent (.confirmMfa "agent"),
          byAgent (.verifyMfa "agent" "t2")]).auth.tokens,
        token.jti = some "t2" ∧ token.delegationId = none := by
  refine ⟨⟨rfl, rfl, nofun⟩, by decide +kernel, by decide +kernel, by decide +kernel⟩

end OmniSwitch
