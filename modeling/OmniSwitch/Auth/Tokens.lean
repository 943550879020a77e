import OmniSwitch.Lib.History
import OmniSwitch.Lib.Slot
import OmniSwitch.Lib.Table
import OmniSwitch.Money

/-!
# Tokens and their revocation

`token-revocation.service.ts`, `jwt.strategy.ts`, and what issues and revokes tokens:
`auth.controller.ts` and `delegation.service.ts`.  A token carries the second it was signed in and
the one it expires in.  It is revoked by a marker of its own in the cache, or by one of its merchant
with a time of issue; both markers expire.

A call reads the clock before its operation reaches the cache or the database: the `delay` of a
request is the time between the two.

Main results:

* `Lasting.serve`: one regular request keeps every revocation;
* `revocation_is_permanent`: so does every history of them;
* `revoked_token_accepted`: requests that are not regular, and revoked tokens that are accepted.
-/

namespace OmniSwitch

open Lib

/-! ### Tokens -/

/-- Source: `UserRole` -/
inductive UserRole where
  | ADMIN | MERCHANT | OPERATOR | READONLY | AGENT
  deriving DecidableEq, Repr

/-- Times are in seconds. -/
structure JwtPayload where
  sub : String
  merchantId : String
  email : Option String := none
  roles : Option (List UserRole) := none
  jti : Option String := none
  iat : Option Nat := none
  exp : Option Nat := none
  mfaPending : Bool := false
  delegationId : Option String := none
  deriving DecidableEq, Repr

/-- Source: `AuthenticatedUser` -/
structure AuthenticatedUser where
  userId : String
  merchantId : String
  email : Option String
  roles : List UserRole
  jti : Option String
  tokenExp : Option Nat
  mfaPending : Bool
  delegationId : Option String
  deriving DecidableEq, Repr

/-- A delegation, as far as its token goes; `signed` is whether the token has been signed yet.

Source: `Delegation` -/
structure TokenGrant where
  id : String
  merchantId : String
  jti : String
  expiresIn : Nat
  tokenExpiresAt : Nat
  signed : Bool := false
  revoked : Bool := false
  deriving DecidableEq, Repr

/-- The clock, in milliseconds; the markers; the tokens that were signed; the delegations; and what
has been revoked: merchants, each with the second of the call, and single tokens.

Source: `TokenRevocationService` -/
structure AuthState where
  now : Nat
  revokedJti : String → Slot Unit := fun _ => none
  revokedBefore : String → Slot Nat := fun _ => none
  tokens : List JwtPayload := []
  grants : Table TokenGrant.id := Table.empty
  merchantRevocations : List (String × Nat) := []
  tokenRevocations : List String := []

namespace TokenRevocation

/-- Source: `token-revocation.service.ts` `MERCHANT_REVOCATION_TTL_SECONDS` -/
def merchantRevocationTtlSeconds : Nat := 7 * 24 * 3600

/-- Source: `TokenRevocationService.revokeToken` -/
def revokeToken (jti : String) (remainingLifetimeSeconds : Int) (s : AuthState) : AuthState :=
  if remainingLifetimeSeconds ≤ 0 then s
  else { s with
    revokedJti := Function.update s.revokedJti jti
      (Slot.setEx s.now (remainingLifetimeSeconds.toNat * 1000) ()) }

/-- Source: `TokenRevocationService.isTokenRevoked` -/
def isTokenRevoked (s : AuthState) (jti : String) : Bool :=
  (Slot.read s.now (s.revokedJti jti)).isSome

/-- Source: `TokenRevocationService.revokeAllForMerchant` -/
def revokeAllForMerchant (merchantId : String) (nowSeconds : Nat) (s : AuthState) : AuthState :=
  { s with
    revokedBefore := Function.update s.revokedBefore merchantId
      (Slot.setEx s.now (merchantRevocationTtlSeconds * 1000) nowSeconds) }

/-- Source: `TokenRevocationService.isMerchantTokenRevoked` -/
def isMerchantTokenRevoked (s : AuthState) (merchantId : String) (tokenIssuedAt : Nat) : Bool :=
  (Slot.read s.now (s.revokedBefore merchantId)).any (tokenIssuedAt ≤ ·)

end TokenRevocation

namespace JwtStrategy

open TokenRevocation

/-- What Passport checks before: a token expires in the second `exp`. -/
def expired (s : AuthState) (payload : JwtPayload) : Bool := payload.exp.any (· ≤ s.now / 1000)

/-- Source: `JwtStrategy.validate` -/
def validate (s : AuthState) (payload : JwtPayload) : Except AppError AuthenticatedUser :=
  if payload.sub = "" ∨ payload.merchantId = "" then
    .error (.http 401 "Invalid JWT payload structure" "")
  else
    let tokenRevoked := (payload.jti.filter (· ≠ "")).any (isTokenRevoked s)
    let merchantRevoked :=
      (payload.iat.filter (· ≠ 0)).any (isMerchantTokenRevoked s payload.merchantId)
    if tokenRevoked || merchantRevoked then
      .error (.http 401 "Token has been revoked" "TOKEN_REVOKED")
    else
      .ok {
        userId := payload.sub
        merchantId := payload.merchantId
        email := payload.email
        roles := payload.roles.getD [.MERCHANT]
        jti := payload.jti
        tokenExp := payload.exp
        mfaPending := payload.mfaPending
        delegationId := payload.delegationId }

end JwtStrategy

open JwtStrategy

/-! ### Requests -/

/-- Source: `auth.controller.ts` `MFA_PENDING_TOKEN_TTL_SECONDS` -/
def mfaPendingTokenTtlSeconds : Nat := 300

/-- Source: `auth.controller.ts` `FULL_TOKEN_TTL_SECONDS`; `auth.module.ts` -/
def fullTokenTtlSeconds : Nat := 3600

/-- Source: `delegation.service.ts` `DEFAULT_AGENT_TOKEN_TTL_SECONDS` -/
def agentTokenTtlSeconds : Nat := 24 * 3600

/-- The lifetimes that a request for a delegation may ask for.

Source: `CreateDelegationDto.tokenTtlSeconds` -/
def admitsTtl (tokenTtlSeconds : Option Nat) : Bool :=
  tokenTtlSeconds.all fun ttl => 60 ≤ ttl ∧ ttl ≤ 30 * 24 * 3600

namespace AuthState

/-- A token is signed: `iat` is the present second. -/
def sign (s : AuthState) (payload : JwtPayload) (expiresIn : Nat) : AuthState :=
  { s with
    tokens := s.tokens ++
      [{ payload with iat := some (s.now / 1000), exp := some (s.now / 1000 + expiresIn) }] }

/-- The time that a call has read. -/
def clock (s : AuthState) (delay : Nat) : Nat := s.now - delay

end AuthState

/-- A request, with the ids it draws.  A delegation is saved before its token is signed. -/
inductive AuthRequest where
  | wait (milliseconds : Nat)
  | issueToken (sub merchantId : String) (roles : List UserRole) (mfaEnabled : Bool) (jti : String)
  | revokeCurrentToken (token : JwtPayload) (delay : Nat)
  | saveDelegation (id merchantId jti : String) (tokenTtlSeconds : Option Nat) (delay : Nat)
  | signAgentToken (id : String)
  | revokeDelegation (id : String) (delay : Nat)
  | revokeAllForMerchant (merchantId : String) (delay : Nat)

namespace AuthController

/-- The exchange of a pending token for a full one is `revokeCurrentToken` and `issueToken`. -/
def issueToken (sub merchantId : String) (roles : List UserRole) (mfaEnabled : Bool) (jti : String)
    (s : AuthState) : AuthState :=
  let payload : JwtPayload :=
    { sub := sub, merchantId := merchantId, roles := some roles, jti := some jti,
      mfaPending := mfaEnabled }
  s.sign payload (if mfaEnabled then mfaPendingTokenTtlSeconds else fullTokenTtlSeconds)

/-- Source: `AuthController.revokeCurrentToken` -/
def revokeCurrentToken (token : JwtPayload) (delay : Nat) (s : AuthState) : AuthState :=
  match token.jti.filter (· ≠ ""), token.exp.filter (· ≠ 0) with
  | some jti, some exp =>
    if token ∈ s.tokens then
      TokenRevocation.revokeToken jti ((exp : Int) - (s.clock delay / 1000 : Nat))
        { s with tokenRevocations := s.tokenRevocations ++ [jti] }
    else s
  | _, _ => s

end AuthController

namespace DelegationTokens

/-- Source: `DelegationService.createDelegation` -/
def saveDelegation (id merchantId jti : String) (tokenTtlSeconds : Option Nat) (delay : Nat)
    (s : AuthState) : AuthState :=
  if admitsTtl tokenTtlSeconds then
    let expiresIn := tokenTtlSeconds.getD agentTokenTtlSeconds
    { s with
      grants := s.grants.put
        { id := id, merchantId := merchantId, jti := jti, expiresIn := expiresIn,
          tokenExpiresAt := s.clock delay + expiresIn * 1000 } }
  else s

/-- Source: `DelegationService.createDelegation` -/
def signAgentToken (id : String) (s : AuthState) : AuthState :=
  match s.grants.get id with
  | none => s
  | some grant =>
    if grant.signed then s
    else
      let payload : JwtPayload :=
        { sub := grant.id, merchantId := grant.merchantId, roles := some [.AGENT],
          jti := some grant.jti, delegationId := some grant.id }
      { s.sign payload grant.expiresIn with
        grants := s.grants.put { grant with signed := true } }

/-- Source: `DelegationService.revoke` -/
def revoke (id : String) (delay : Nat) (s : AuthState) : AuthState :=
  match s.grants.get id with
  | none => s
  | some grant =>
    if grant.revoked then s
    else
      TokenRevocation.revokeToken grant.jti
        (((grant.tokenExpiresAt : Int) - s.clock delay) / 1000)
        { s with
          grants := s.grants.put { grant with revoked := true }
          tokenRevocations := s.tokenRevocations ++ [grant.jti] }

end DelegationTokens

/-- The state that a request leaves. -/
def AuthRequest.serve : AuthRequest → AuthState → AuthState
  | wait milliseconds, s => { s with now := s.now + milliseconds }
  | issueToken sub merchantId roles mfaEnabled jti, s =>
    AuthController.issueToken sub merchantId roles mfaEnabled jti s
  | revokeCurrentToken token delay, s => AuthController.revokeCurrentToken token delay s
  | saveDelegation id merchantId jti tokenTtlSeconds delay, s =>
    DelegationTokens.saveDelegation id merchantId jti tokenTtlSeconds delay s
  | signAgentToken id, s => DelegationTokens.signAgentToken id s
  | revokeDelegation id delay, s => DelegationTokens.revoke id delay s
  | revokeAllForMerchant merchantId delay, s =>
    TokenRevocation.revokeAllForMerchant merchantId (s.clock delay / 1000)
      { s with
        merchantRevocations := s.merchantRevocations ++ [(merchantId, s.clock delay / 1000)] }

/-! ### What a revocation has to outlast -/

namespace AuthState

/-- A token with this id, signed or yet to be signed, expires in the second `exp`. -/
def Expires (s : AuthState) (jti : String) (exp : Nat) : Prop :=
  (∃ token ∈ s.tokens, token.jti = some jti ∧ token.exp = some exp) ∨
    ∃ id grant, s.grants.get id = some grant ∧ grant.jti = jti ∧ grant.signed = false ∧
      exp = grant.tokenExpiresAt / 1000

/-- A token that expires in the second `exp` has expired, or its marker lasts as long. -/
def Covered (s : AuthState) (jti : String) (exp : Nat) : Prop :=
  exp ≤ s.now / 1000 ∨
    ∃ expiresAt, s.revokedJti jti = some ((), some expiresAt) ∧ exp * 1000 ≤ expiresAt

/-- No token and no delegation has this id yet. -/
structure Unused (s : AuthState) (jti : String) : Prop where
  nonempty : jti ≠ ""
  tokens : ∀ token ∈ s.tokens, token.jti ≠ some jti
  grants : ∀ id grant, s.grants.get id = some grant → grant.jti ≠ jti
  revoked : jti ∉ s.tokenRevocations

/-- The token has been revoked, with the merchant's others or by itself. -/
def IsRevoked (s : AuthState) (token : JwtPayload) : Prop :=
  (∃ r ∈ s.merchantRevocations, r.1 = token.merchantId ∧ ∀ iat ∈ token.iat, iat ≤ r.2) ∨
    ∃ jti ∈ s.tokenRevocations, token.jti = some jti

end AuthState

open TokenRevocation in
/-- **The condition on a request**: the ids that are drawn are new; an agent's token lives no longer
than the merchant's marker, and is signed in the second in which the end of its life was computed;
a delegation is revoked no later in a second than that; and a revocation of all tokens of a merchant
is not overtaken by one that read the clock earlier. -/
def AuthRequest.Regular : AuthRequest → AuthState → Prop
  | issueToken _ _ _ _ jti, s => s.Unused jti
  | saveDelegation _ _ jti tokenTtlSeconds _, s => s.Unused jti ∧
      tokenTtlSeconds.getD agentTokenTtlSeconds ≤ merchantRevocationTtlSeconds
  | signAgentToken id, s => ∀ grant ∈ s.grants.get id,
      s.now / 1000 + grant.expiresIn ≤ grant.tokenExpiresAt / 1000
  | revokeDelegation id delay, s => ∀ grant ∈ s.grants.get id,
      s.clock delay % 1000 ≤ grant.tokenExpiresAt % 1000
  | revokeAllForMerchant merchantId delay, s => ∀ entry ∈ s.revokedBefore merchantId,
      entry.1 ≤ s.clock delay / 1000
  | _, _ => True

open TokenRevocation in
/-- What holds after regular requests: of the tokens, of the delegations, and of the markers. -/
structure Lasting (s : AuthState) : Prop where
  clock : 1000 ≤ s.now
  issued : ∀ token ∈ s.tokens, ∃ jti iat exp, token.jti = some jti ∧ jti ≠ "" ∧
    token.iat = some iat ∧ iat ≠ 0 ∧ token.exp = some exp ∧ exp ≤ iat + merchantRevocationTtlSeconds
  same : ∀ token ∈ s.tokens, ∀ token' ∈ s.tokens, token.jti = token'.jti → token.exp = token'.exp
  granted : ∀ id grant, s.grants.get id = some grant →
    grant.jti ≠ "" ∧ grant.expiresIn ≤ merchantRevocationTtlSeconds ∧
      ∀ token ∈ s.tokens, token.jti = some grant.jti →
        grant.signed ∧ ∀ exp ∈ token.exp, exp ≤ grant.tokenExpiresAt / 1000
  distinct : ∀ id id' grant grant', s.grants.get id = some grant → s.grants.get id' = some grant' →
    grant.jti = grant'.jti → id = id'
  merchants : ∀ r ∈ s.merchantRevocations, ∃ revokedBefore expiresAt,
    s.revokedBefore r.1 = some (revokedBefore, some expiresAt) ∧ r.2 ≤ revokedBefore ∧
      (r.2 + merchantRevocationTtlSeconds) * 1000 ≤ expiresAt
  revoked : ∀ jti ∈ s.tokenRevocations, ∀ exp, s.Expires jti exp → s.Covered jti exp

namespace Lasting

open TokenRevocation

variable {s : AuthState}

/-- Nothing has been signed or revoked. -/
lemma init {now : Nat} (h : 1000 ≤ now) : Lasting { now := now } where
  clock := h
  issued := fun _ hmem => absurd hmem List.not_mem_nil
  same := fun _ hmem => absurd hmem List.not_mem_nil
  granted := fun _ _ hget => nomatch hget
  distinct := fun _ _ _ _ hget => nomatch hget
  merchants := fun _ hmem => absurd hmem List.not_mem_nil
  revoked := fun _ hmem => absurd hmem List.not_mem_nil

/-- **A revoked token is rejected** as long as it has not expired. -/
theorem rejects (h : Lasting s) {token : JwtPayload} (hmem : token ∈ s.tokens)
    (hrevoked : s.IsRevoked token) (hlive : expired s token = false) :
    ∀ user, validate s token ≠ .ok user := by
  obtain ⟨jti, iat, exp, hjti, hne, hiat, hzero, hexp, hlife⟩ := h.issued token hmem
  have hexpired : s.now / 1000 < exp := by
    unfold expired at hlive
    rw [hexp] at hlive
    simpa using hlive
  intro user hok
  unfold validate at hok
  dsimp only at hok
  split_ifs at hok with hstructure hmarked
  apply hmarked
  rw [hjti, hiat]
  rcases hrevoked with ⟨r, hr, hmerchant, hbefore⟩ | ⟨jti', hjti', heq⟩
  · -- the marker of the merchant lasts until the last of the tokens has expired
    obtain ⟨revokedBefore, expiresAt, hslot, hle, hlasts⟩ := h.merchants r hr
    have hmarker : isMerchantTokenRevoked s token.merchantId iat = true := by
      have hiat' := hbefore iat (by rw [hiat]; rfl)
      unfold isMerchantTokenRevoked
      rw [← hmerchant, hslot, Slot.read_some, if_pos (by omega)]
      simp only [Option.any_some, decide_eq_true_eq]
      omega
    simp [hzero, hmarker]
  · obtain rfl : jti = jti' := Option.some.inj (hjti.symm.trans heq)
    have hcovered := h.revoked jti hjti' exp (.inl ⟨token, hmem, hjti, hexp⟩)
    rcases hcovered with hover | ⟨expiresAt, hslot, hlasts⟩
    · omega
    · have hmarker : isTokenRevoked s jti = true := by
        unfold isTokenRevoked
        rw [hslot, Slot.read_some, if_pos (by omega)]
        rfl
      simp [hne, hmarker]

/-- Markers outlast what they have to as time passes. -/
lemma wait (h : Lasting s) (milliseconds : Nat) :
    Lasting { s with now := s.now + milliseconds } where
  clock := h.clock.trans (Nat.le_add_right _ _)
  issued := h.issued
  same := h.same
  granted := h.granted
  distinct := h.distinct
  merchants := h.merchants
  revoked := by
    intro jti hjti exp hexp
    rcases h.revoked jti hjti exp hexp with hover | hmarker
    · exact .inl (hover.trans (Nat.div_le_div_right (Nat.le_add_right _ _)))
    · exact .inr hmarker

lemma sign (h : Lasting s) {payload : JwtPayload} {jti : String} {expiresIn : Nat}
    (hjti : payload.jti = some jti) (hne : jti ≠ "")
    (hlife : expiresIn ≤ merchantRevocationTtlSeconds)
    (hnew : ∀ token ∈ s.tokens, token.jti ≠ some jti)
    (hgrants : ∀ id grant, s.grants.get id = some grant → jti = grant.jti →
      grant.signed ∧ s.now / 1000 + expiresIn ≤ grant.tokenExpiresAt / 1000)
    (hcovered : jti ∈ s.tokenRevocations → s.Covered jti (s.now / 1000 + expiresIn)) :
    Lasting (s.sign payload expiresIn) := by
  have hcases : ∀ token ∈ (s.sign payload expiresIn).tokens, token ∈ s.tokens ∨
      token.jti = some jti ∧ token.iat = some (s.now / 1000) ∧
        token.exp = some (s.now / 1000 + expiresIn) := by
    intro token hmem
    rcases List.mem_append.1 hmem with hmem | hmem
    · exact .inl hmem
    · obtain rfl := List.mem_singleton.1 hmem
      exact .inr ⟨hjti, rfl, rfl⟩
  have hsecond : s.now / 1000 ≠ 0 := (Nat.div_pos h.clock (by decide)).ne'
  refine ⟨h.clock, ?_, ?_, ?_, h.distinct, h.merchants, ?_⟩
  · intro token hmem
    rcases hcases token hmem with hmem | ⟨hid, hiat, hexp⟩
    · exact h.issued token hmem
    · exact ⟨jti, _, _, hid, hne, hiat, hsecond, hexp, Nat.add_le_add_left hlife _⟩
  · intro token hmem token' hmem' heq
    rcases hcases token hmem with hmem | ⟨hid, -, hexp⟩ <;>
      rcases hcases token' hmem' with hmem' | ⟨hid', -, hexp'⟩
    · exact h.same token hmem token' hmem' heq
    · exact absurd (heq.trans hid') (hnew token hmem)
    · exact absurd (heq.symm.trans hid) (hnew token' hmem')
    · exact hexp.trans hexp'.symm
  · intro id grant hget
    obtain ⟨hne', hle, htokens⟩ := h.granted id grant hget
    refine ⟨hne', hle, fun token hmem heq => ?_⟩
    rcases hcases token hmem with hmem | ⟨hid, -, hexp⟩
    · exact htokens token hmem heq
    · obtain ⟨hsigned, hend⟩ := hgrants id grant hget (Option.some.inj (hid.symm.trans heq))
      refine ⟨hsigned, fun exp hexp' => ?_⟩
      obtain rfl := Option.some.inj (hexp.symm.trans hexp')
      exact hend
  · intro jti' hrevoked exp hexp
    rcases hexp with ⟨token, hmem, hid', hexp⟩ | hgrant
    · rcases hcases token hmem with hmem | ⟨hid, -, hexp'⟩
      · exact h.revoked jti' hrevoked exp (.inl ⟨token, hmem, hid', hexp⟩)
      · obtain rfl := Option.some.inj (hid.symm.trans hid')
        obtain rfl := Option.some.inj (hexp'.symm.trans hexp)
        exact hcovered hrevoked
    · exact h.revoked jti' hrevoked exp (.inr hgrant)

/-- A delegation is saved. -/
lemma put (h : Lasting s) {grant : TokenGrant} (hne : grant.jti ≠ "")
    (hlife : grant.expiresIn ≤ merchantRevocationTtlSeconds)
    (htokens : ∀ token ∈ s.tokens, token.jti = some grant.jti →
      grant.signed ∧ ∀ exp ∈ token.exp, exp ≤ grant.tokenExpiresAt / 1000)
    (hother : ∀ id grant', s.grants.get id = some grant' → grant'.jti = grant.jti → id = grant.id)
    (hcovered : grant.jti ∈ s.tokenRevocations → grant.signed = false →
      s.Covered grant.jti (grant.tokenExpiresAt / 1000)) :
    Lasting { s with grants := s.grants.put grant } := by
  refine ⟨h.clock, h.issued, h.same, ?_, ?_, h.merchants, ?_⟩
  · intro id grant' hget
    rcases Table.get_put_eq_some hget with ⟨-, rfl⟩ | ⟨-, hget⟩
    · exact ⟨hne, hlife, htokens⟩
    · exact h.granted id grant' hget
  · intro id id' grant' grant'' hget hget' heq
    rcases Table.get_put_eq_some hget with ⟨hid, hrow⟩ | ⟨-, hold⟩ <;>
      rcases Table.get_put_eq_some hget' with ⟨hid', hrow'⟩ | ⟨-, hold'⟩
    · exact hid.trans hid'.symm
    · exact hid.trans (hother id' _ hold' (heq.symm.trans (congrArg _ hrow))).symm
    · exact (hother id _ hold (heq.trans (congrArg _ hrow'))).trans hid'.symm
    · exact h.distinct id id' _ _ hold hold' heq
  · intro jti hrevoked exp hexp
    rcases hexp with htoken | ⟨id, grant', hget, hjti, hsigned, hexp⟩
    · exact h.revoked jti hrevoked exp (.inl htoken)
    · rcases Table.get_put_eq_some hget with ⟨-, rfl⟩ | ⟨-, hget⟩
      · subst hjti hexp
        exact hcovered hrevoked hsigned
      · exact h.revoked jti hrevoked exp (.inr ⟨id, grant', hget, hjti, hsigned, hexp⟩)

/-- A token is revoked, with a marker that lasts as long as it would. -/
lemma revokeToken (h : Lasting s) {jti : String} (last : Nat) {remaining : Int}
    (hlast : ∀ exp, s.Expires jti exp → exp ≤ last)
    (hover : remaining ≤ 0 → last ≤ s.now / 1000)
    (hlasts : 0 < remaining → last * 1000 ≤ s.now + remaining.toNat * 1000) :
    Lasting (TokenRevocation.revokeToken jti remaining
      { s with tokenRevocations := s.tokenRevocations ++ [jti] }) := by
  have hcases : ∀ {jti' exp}, jti' ∈ s.tokenRevocations ++ [jti] → s.Expires jti' exp →
      jti' ≠ jti → s.Covered jti' exp := by
    intro jti' exp hmem hexp hne
    rcases List.mem_append.1 hmem with hmem | hmem
    · exact h.revoked jti' hmem exp hexp
    · exact absurd (List.mem_singleton.1 hmem) hne
  unfold TokenRevocation.revokeToken
  split_ifs with hremaining
  · refine ⟨h.clock, h.issued, h.same, h.granted, h.distinct, h.merchants, ?_⟩
    intro jti' hmem exp hexp
    by_cases heq : jti' = jti
    · subst heq
      exact .inl ((hlast exp hexp).trans (hover hremaining))
    · exact hcases hmem hexp heq
  · refine ⟨h.clock, h.issued, h.same, h.granted, h.distinct, h.merchants, ?_⟩
    intro jti' hmem exp hexp
    by_cases heq : jti' = jti
    · subst heq
      refine .inr ⟨s.now + remaining.toNat * 1000, Function.update_self .., ?_⟩
      exact (Nat.mul_le_mul_right 1000 (hlast exp hexp)).trans (hlasts (not_le.1 hremaining))
    · rcases hcases hmem hexp heq with hover | ⟨expiresAt, hslot, hle⟩
      · exact .inl hover
      · exact .inr ⟨expiresAt, (Function.update_of_ne heq ..).trans hslot, hle⟩

/-! ### The requests -/

/-- The token of a delegation is signed: it expires no later than the delegation says. -/
lemma signAgentToken (h : Lasting s) {id : String}
    (hend : ∀ grant ∈ s.grants.get id,
      s.now / 1000 + grant.expiresIn ≤ grant.tokenExpiresAt / 1000) :
    Lasting (DelegationTokens.signAgentToken id s) := by
  unfold DelegationTokens.signAgentToken
  cases hgrant : s.grants.get id with
  | none => exact h
  | some grant =>
    dsimp only
    split_ifs with hsigned
    · exact h
    obtain ⟨hne, hlife, htokens⟩ := h.granted id grant hgrant
    have hend := hend grant hgrant
    have hid : grant.id = id := Table.key_of_get hgrant
    have hnew : ∀ token ∈ s.tokens, token.jti ≠ some grant.jti := fun token hmem heq =>
      hsigned (htokens token hmem heq).1
    have hother : ∀ id' grant', s.grants.get id' = some grant' → grant'.jti = grant.jti →
        id' = grant.id := fun id' grant' hget heq =>
      (h.distinct id' id grant' grant hget hgrant heq).trans hid.symm
    have hput : Lasting { s with grants := s.grants.put { grant with signed := true } } :=
      h.put hne hlife (fun token hmem heq => absurd heq (hnew token hmem)) hother
        fun _ hsigned => nomatch hsigned
    refine hput.sign rfl hne hlife hnew (fun id' grant' hget heq => ?_) fun hrevoked => ?_
    · rcases Table.get_put_eq_some hget with ⟨-, rfl⟩ | ⟨hid', hget⟩
      · exact ⟨rfl, hend⟩
      · exact absurd (hother id' grant' hget heq.symm) hid'
    · -- the delegation was revoked before its token was signed
      have hbefore := h.revoked grant.jti hrevoked (grant.tokenExpiresAt / 1000)
        (.inr ⟨id, grant, hgrant, rfl, by simpa using hsigned, rfl⟩)
      rcases hbefore with hover | ⟨expiresAt, hslot, hle⟩
      · exact .inl (hend.trans hover)
      · exact .inr ⟨expiresAt, hslot, (Nat.mul_le_mul_right 1000 hend).trans hle⟩

/-- A token revokes itself. -/
lemma revokeCurrentToken (h : Lasting s) (token : JwtPayload) (delay : Nat) :
    Lasting (AuthController.revokeCurrentToken token delay s) := by
  unfold AuthController.revokeCurrentToken
  split
  · rename_i jti exp hjti hexp
    split_ifs with hmem
    · obtain ⟨hjti, -⟩ := Option.filter_eq_some_iff.1 hjti
      obtain ⟨hexp, -⟩ := Option.filter_eq_some_iff.1 hexp
      have hclock : s.clock delay ≤ s.now := Nat.sub_le _ _
      -- every token with this id expires with the one that is presented
      refine h.revokeToken exp (fun exp' hexp' => ?_) (fun hover => ?_) fun hlasts => ?_
      · rcases hexp' with ⟨token', hmem', hjti', hexp'⟩ | ⟨id, grant, hget, hjti', hsigned, -⟩
        · have hsame := h.same token hmem token' hmem' (hjti.trans hjti'.symm)
          exact (Option.some.inj (hexp.symm.trans (hsame.trans hexp'))).ge
        · have hsigned' := ((h.granted id grant hget).2.2 token hmem (hjti' ▸ hjti)).1
          rw [hsigned] at hsigned'
          exact (nomatch hsigned')
      · omega
      · omega
    · exact h
  · exact h

/-- A delegation is revoked, and its token with it. -/
lemma revokeDelegation (h : Lasting s) {id : String} {delay : Nat}
    (hearly : ∀ grant ∈ s.grants.get id, s.clock delay % 1000 ≤ grant.tokenExpiresAt % 1000) :
    Lasting (DelegationTokens.revoke id delay s) := by
  unfold DelegationTokens.revoke
  cases hgrant : s.grants.get id with
  | none => exact h
  | some grant =>
    dsimp only
    split_ifs
    · exact h
    obtain ⟨hne, hlife, htokens⟩ := h.granted id grant hgrant
    have hearly := hearly grant hgrant
    have hid : grant.id = id := Table.key_of_get hgrant
    have hother : ∀ id' grant', s.grants.get id' = some grant' → grant'.jti = grant.jti →
        id' = grant.id := fun id' grant' hget heq =>
      (h.distinct id' id grant' grant hget hgrant heq).trans hid.symm
    have hput : Lasting { s with grants := s.grants.put { grant with revoked := true } } :=
      h.put hne hlife htokens hother fun hrevoked hsigned =>
        h.revoked grant.jti hrevoked _ (.inr ⟨id, grant, hgrant, rfl, hsigned, rfl⟩)
    have hclock : s.clock delay ≤ s.now := Nat.sub_le _ _
    refine hput.revokeToken (grant.tokenExpiresAt / 1000) (fun exp hexp => ?_)
      (fun hover => ?_) fun hlasts => ?_
    · rcases hexp with ⟨token, hmem, hjti, hexp⟩ | ⟨id', grant', hget, hjti, -, rfl⟩
      · exact (htokens token hmem hjti).2 exp hexp
      · rcases Table.get_put_eq_some hget with ⟨-, rfl⟩ | ⟨hid', hget⟩
        · exact le_refl _
        · exact absurd (hother id' grant' hget hjti) hid'
    · change grant.tokenExpiresAt / 1000 ≤ s.now / 1000
      omega
    · change grant.tokenExpiresAt / 1000 * 1000 ≤ s.now + _
      omega

/-- All tokens of a merchant are revoked. -/
lemma revokeAllForMerchant (h : Lasting s) {merchantId : String} {delay : Nat}
    (hlater : ∀ entry ∈ s.revokedBefore merchantId, entry.1 ≤ s.clock delay / 1000) :
    Lasting ((AuthRequest.revokeAllForMerchant merchantId delay).serve s) := by
  have hclock : s.clock delay ≤ s.now := Nat.sub_le _ _
  refine ⟨h.clock, h.issued, h.same, h.granted, h.distinct, ?_, h.revoked⟩
  intro r hr
  by_cases hmerchant : r.1 = merchantId
  · refine ⟨s.clock delay / 1000, s.now + merchantRevocationTtlSeconds * 1000, ?_, ?_⟩
    · rw [hmerchant]
      exact Function.update_self ..
    · have hle : r.2 ≤ s.clock delay / 1000 := by
        rcases List.mem_append.1 hr with hr | hr
        · obtain ⟨revokedBefore, expiresAt, hslot, hle, -⟩ := h.merchants r hr
          rw [hmerchant] at hslot
          exact hle.trans (hlater _ hslot)
        · rw [List.mem_singleton.1 hr]
      exact ⟨hle, by omega⟩
  · rcases List.mem_append.1 hr with hr | hr
    · obtain ⟨revokedBefore, expiresAt, hslot, hrest⟩ := h.merchants r hr
      exact ⟨revokedBefore, expiresAt, (Function.update_of_ne hmerchant ..).trans hslot, hrest⟩
    · exact absurd (congrArg Prod.fst (List.mem_singleton.1 hr)) hmerchant

/-- **One request**: a regular request keeps every revocation. -/
theorem serve (h : Lasting s) (r : AuthRequest) (hr : r.Regular s) : Lasting (r.serve s) := by
  cases r with
  | wait milliseconds => exact h.wait milliseconds
  | issueToken sub merchantId roles mfaEnabled jti =>
    refine h.sign rfl hr.nonempty ?_ hr.tokens
      (fun id grant hget heq => absurd heq.symm (hr.grants id grant hget))
      fun hrevoked => absurd hrevoked hr.revoked
    split_ifs <;> decide
  | revokeCurrentToken token delay => exact h.revokeCurrentToken token delay
  | saveDelegation id merchantId jti tokenTtlSeconds delay =>
    obtain ⟨hnew, hlife⟩ := hr
    dsimp only [AuthRequest.serve, DelegationTokens.saveDelegation]
    split_ifs
    · exact h.put hnew.nonempty hlife (fun token hmem heq => absurd heq (hnew.tokens token hmem))
        (fun id' grant hget heq => absurd heq (hnew.grants id' grant hget))
        fun hrevoked _ => absurd hrevoked hnew.revoked
    · exact h
  | signAgentToken id => exact h.signAgentToken hr
  | revokeDelegation id delay => exact h.revokeDelegation hr
  | revokeAllForMerchant merchantId delay => exact h.revokeAllForMerchant hr

end Lasting

/-- **A revocation is permanent**: in every history of regular requests, a token that was signed and
has been revoked, by itself or with all tokens of its merchant that were signed by then, is rejected
as long as it has not expired. -/
theorem revocation_is_permanent (now : Nat) (hnow : 1000 ≤ now) (history : List AuthRequest)
    (hregular : ∀ moment ∈ History.moments AuthRequest.serve { now := now } history,
      moment.1.Regular moment.2) :
    ∀ token ∈ (History.after AuthRequest.serve { now := now } history).tokens,
      (History.after AuthRequest.serve { now := now } history).IsRevoked token →
      expired (History.after AuthRequest.serve { now := now } history) token = false →
      ∀ user, validate (History.after AuthRequest.serve { now := now } history) token ≠
        .ok user := by
  have hlasting : Lasting (History.after AuthRequest.serve { now := now } history) :=
    History.keeps AuthRequest.serve (fun r _ h hr => h.serve r hr) (.init hnow) history hregular
  exact fun token hmem hrevoked hlive => hlasting.rejects hmem hrevoked hlive

namespace Sample

/-- The second 1768521600, half of which has passed. -/
def midSecond : Nat := 1768521600500

/-- A day, in milliseconds. -/
def day : Nat := 24 * 3600 * 1000

/-- A delegation whose token lives for `ttl` seconds, signed after `delay`. -/
def grantToken (ttl delay : Nat) : List AuthRequest :=
  [.saveDelegation "del_1" "merchant-1" "jti-1" (some ttl) 0, .wait delay, .signAgentToken "del_1"]

/-- What requests leave that start in the middle of a second. -/
def authAfter (history : List AuthRequest) : AuthState :=
  History.after AuthRequest.serve { now := midSecond } history

/-- The tokens that are accepted and have not expired. -/
def accepted (s : AuthState) : List JwtPayload :=
  s.tokens.filter fun token =>
    !expired s token && (validate s token).isOk

/-- All tokens of the merchant are revoked, and then those of its one delegation. -/
def revokedTwice : List AuthRequest :=
  grantToken (24 * 3600) 0 ++
    [.revokeAllForMerchant "merchant-1" 0, .revokeDelegation "del_1" 0, .wait (day / 2)]

end Sample

open Sample

/-- A token of a day, revoked twice, half a day later. -/
theorem revocation_is_permanent_twice :
    (authAfter revokedTwice).tokens.map JwtPayload.jti = [some "jti-1"] ∧
      ∀ token ∈ (authAfter revokedTwice).tokens, (authAfter revokedTwice).IsRevoked token →
        expired (authAfter revokedTwice) token = false →
        ∀ user, validate (authAfter revokedTwice) token ≠ .ok user := by
  refine ⟨by decide +kernel, revocation_is_permanent midSecond (by decide) revokedTwice ?_⟩
  have hnew : AuthState.Unused { now := midSecond } "jti-1" :=
    ⟨by decide, fun _ h => absurd h List.not_mem_nil, fun _ _ h => (nomatch h), List.not_mem_nil⟩
  simp only [revokedTwice, grantToken, List.cons_append, List.nil_append, History.moments,
    List.forall_mem_cons, List.not_mem_nil, false_imp_iff, implies_true, and_true]
  refine ⟨⟨hnew, by decide⟩, trivial, ?_, ?_, ?_, trivial⟩ <;> unfold AuthRequest.Regular <;>
    decide +kernel

/-- All tokens of a merchant are revoked, and eight days later the agent's token of ten days is
accepted.  A delegation is revoked whose token was signed a second after its end of life was
computed, or later in a second than that: the token is accepted for a moment before it expires.  Two
calls that revoke all tokens of a merchant overtake each other: a token signed between them is
accepted. -/
theorem revoked_token_accepted :
    (accepted (authAfter (grantToken (10 * 24 * 3600) 0 ++
        [.revokeAllForMerchant "merchant-1" 0, .wait (8 * day)]))).map JwtPayload.jti =
          [some "jti-1"] ∧
      (authAfter (grantToken (10 * 24 * 3600) 0 ++
        [.revokeAllForMerchant "merchant-1" 0, .wait (8 * day)])).merchantRevocations =
          [("merchant-1", midSecond / 1000)] ∧
      (accepted (authAfter (grantToken 3600 1000 ++
        [.revokeDelegation "del_1" 0, .wait 3599200]))).map JwtPayload.jti = [some "jti-1"] ∧
      (accepted (authAfter (grantToken 3600 0 ++
        [.wait 100, .revokeDelegation "del_1" 0, .wait 3599200]))).map JwtPayload.jti =
          [some "jti-1"] ∧
      (accepted (authAfter [.wait 2000, .issueToken "m" "merchant-1" [.MERCHANT] false "jti-2",
        .revokeAllForMerchant "merchant-1" 0, .revokeAllForMerchant "merchant-1" 2000])).map
          JwtPayload.jti = [some "jti-2"] := by
  refine ⟨?_, ?_, ?_, ?_, ?_⟩ <;> decide +kernel

end OmniSwitch
