import OmniSwitch.Services.Agents

/-!
# Revocation of a delegation

Once a delegation is revoked, a charge request of its agent ends before anything is reserved.  An
approval that was requested before is approved all the same: `ChargeApprovalService.approve` never
looks at the delegation's status.

Requests run interleaved, each stopping anywhere.  Those that start after `revoke` has returned are
the ones that `Pool.enter` adds.

Main results:

* `revocation_stops_spending`: no later request of the agent reserves or charges anything;
* `charged_after_revocation`: an approval that charges after the revocation.
-/

namespace OmniSwitch

open Lib Prog

open DelegationService ChargeApprovalService AgentPayments

/-! ### One command -/

namespace AgentDb

/-- The delegation is revoked. -/
def isRevoked (db : AgentDb) (id : String) : Bool :=
  (db.delegations.get id).any (·.status = .REVOKED)

/-- The delegation is active. -/
def isActive (db : AgentDb) (id : String) : Bool :=
  (db.delegations.get id).any (·.status = .ACTIVE)

lemma not_isActive_of_isRevoked {db : AgentDb} {id : String} (h : db.isRevoked id) :
    db.isActive id = false := by
  unfold isRevoked at h
  unfold isActive
  cases hrow : db.delegations.get id with
  | none => rfl
  | some row =>
    rw [hrow] at h
    have hstatus : row.status = .REVOKED := of_decide_eq_true h
    simp [hstatus]

end AgentDb

/-- A charge request to a PSP, under the delegation. -/
def AgentCmd.chargesFor (id : String) : AgentCmd → Bool
  | .payments delegationId (.psp _ (.charge _)) => delegationId = some id
  | _ => false

/-- The command does not save the delegation as anything but revoked. -/
def AgentCmd.KeepsRevoked (id : String) : AgentCmd → Prop
  | .saveDelegation delegation => delegation.id ≠ id ∨ delegation.status = .REVOKED
  | _ => True

namespace AgentDb

variable {db : AgentDb} {id : String}

lemma isRevoked_modify {other : String} (update : Delegation → Delegation)
    (hupdate : ∀ row : Delegation, row.id = other → (update row).id = other)
    (hstatus : ∀ row, (update row).status = row.status) (h : db.isRevoked id) :
    (((db.delegations.modify other update hupdate).get id).any (·.status = .REVOKED)) = true := by
  by_cases hid : id = other
  · subst hid
    rw [Table.get_modify_self]
    unfold isRevoked at h
    cases hrow : db.delegations.get id with
    | none =>
      rw [hrow] at h
      exact (nomatch h)
    | some row =>
      rw [hrow] at h
      simpa only [Option.map_some, Option.any_some, hstatus] using h
  · rw [Table.get_modify_of_ne _ _ hid]
    exact h

/-- Such a command leaves a revoked delegation revoked. -/
lemma isRevoked_apply (h : db.isRevoked id) {c : AgentCmd} (hc : c.KeepsRevoked id) :
    (c.apply db).isRevoked id := by
  cases c with
  | saveDelegation delegation =>
    change ((db.delegations.put delegation).get id).any _ = true
    by_cases hid : id = delegation.id
    · subst hid
      rw [Table.get_put_self]
      exact decide_eq_true (hc.resolve_left (· rfl))
    · rw [Table.get_put_of_ne _ hid]
      exact h
  | tryReserveSpend other amount now =>
    exact isRevoked_modify (·.tryReserveSpend amount now)
      (fun row hrow => (row.tryReserveSpend_id amount now).trans hrow)
      (fun row => row.tryReserveSpend_keeps Delegation.status amount now row.reserve_status) h
  | releaseSpend other amount =>
    exact isRevoked_modify (·.releaseSpend amount) (fun _ hrow => hrow) (fun _ => rfl) h
  | _ => exact h

end AgentDb

/-! ### What the programs issue -/

lemma truthy_of_truthy {s : Option String} {x : String} (h : truthy s = some x) :
    truthy (some x) = some x :=
  Option.filter_eq_some_iff.2 ⟨rfl, (Option.filter_eq_some_iff.1 h).2⟩

section sat

variable {G : AgentCmd → Prop} {seen : Option AgentDb} (env : AgentEnv)

/-- What every request may issue: reads, the conditional updates, new approvals, and what is not
done for a delegation. -/
def AgentCmd.isPlain : AgentCmd → Bool
  | .payments delegationId _ => delegationId.isNone
  | .saveDelegation _ => false
  | _ => true

lemma sat_issue {c : AgentCmd} (h : G c) :
    Only (fun _ c => G c) seen (env.issue c) :=
  sat_tryAct _ h fun _ => trivial

variable (hplain : ∀ c : AgentCmd, c.isPlain → G c)

include hplain

lemma sat_getOrThrow (id : String) :
    Only (fun _ c => G c) seen (getOrThrow env id) := by
  unfold getOrThrow
  refine (sat_issue env (hplain _ rfl)).andThen fun _ db => ?_
  cases db.delegations.get id <;> trivial

variable (delegationId : String)

lemma sat_reserveSpendOrThrow (amount : Money) (category : Option String) :
    Only (fun _ c => G c) seen
      (reserveSpendOrThrow env delegationId amount category) := by
  unfold reserveSpendOrThrow
  refine (sat_getOrThrow env hplain delegationId).andThen fun _ delegation => ?_
  rw [sat_bind, sat_liftM]
  intro _ _
  refine (sat_issue env (hplain _ rfl)).andThen fun _ db => ?_
  split_ifs <;> trivial

lemma sat_releaseReservation (amount : Money) :
    Only (fun _ c => G c) seen (releaseReservation env delegationId amount) :=
  (sat_issue env (hplain _ rfl)).andThen fun _ _ => trivial

lemma sat_findById (id : String) :
    Only (fun _ c => G c) seen (ChargeApprovalService.findById env id) := by
  unfold ChargeApprovalService.findById
  refine (sat_issue env (hplain _ rfl)).andThen fun _ db => ?_
  cases db.approvals.get id <;> trivial

lemma sat_derivePercent (amount : Money) : Only (fun _ c => G c) seen
      (deriveAgentPercentOfRemainingMonthlyBudget env delegationId amount) := by
  unfold deriveAgentPercentOfRemainingMonthlyBudget
  refine Sat.tryCatch ((sat_getOrThrow env hplain delegationId).andThen fun _ delegation => ?_)
    fun _ _ => trivial
  rw [sat_liftM]
  exact fun _ _ => trivial

omit hplain in
lemma sat_payments {α : Type} {delegationId : Option String} (p : App α)
    (h : ∀ c, G (.payments delegationId c)) :
    Only (fun _ c => G c) seen
      (p.embed (.payments delegationId) AgentDb.payments) :=
  sat_embed (fun _ => rfl) (sat_of_forall h p none)

lemma sat_executeReserved (amount : Money) (input : PaymentCheckoutSaga.CheckoutSagaInput)
    (h : ∀ c, G (.payments (truthy input.delegationId) c)) :
    Only (fun _ c => G c) seen
      (executeReserved env delegationId amount input) := by
  unfold executeReserved
  have hrelease : ∀ seen, Only (fun _ c => G c) seen
      (releaseReservation env delegationId amount) :=
    fun _ => sat_releaseReservation env hplain delegationId amount
  refine Sat.andThen (Sat.tryCatch (sat_payments _ h) fun seen e => ?_)
    fun _ result => ?_
  · exact (hrelease seen).andThen fun _ _ => trivial
  · split_ifs
    · exact (hrelease _).andThen fun _ _ => trivial
    · trivial

lemma sat_approve (id decidedBy : String) (h : ∀ delegationId c, G (.payments delegationId c)) :
    Only (fun _ c => G c) seen (approve env id decidedBy) := by
  unfold approve
  refine (sat_findById env hplain id).andThen fun _ approval => ?_
  split_ifs
  · trivial
  · refine (sat_issue env (hplain _ rfl)).andThen fun _ db => ?_
    split_ifs
    · trivial
    · refine (sat_derivePercent env hplain approval.delegationId approval.amount).andThen
        fun _ percent => ?_
      exact sat_executeReserved env hplain _ _ _ (h _)

lemma sat_deny (id decidedBy : String) (reason : Option String) :
    Only (fun _ c => G c) seen (deny env id decidedBy reason) := by
  unfold deny
  refine (sat_findById env hplain id).andThen fun _ approval => ?_
  split_ifs
  · trivial
  · refine (sat_issue env (hplain _ rfl)).andThen fun _ db => ?_
    split_ifs
    · trivial
    · refine (sat_releaseReservation env hplain _ _).andThen fun _ _ => ?_
      rw [sat_liftM]
      exact fun _ _ => trivial

lemma sat_charge (call : ChargeCall)
    (h : call.caller.isAgent → ∀ c, G (.payments (truthy call.caller.delegationId) c)) :
    Only (fun _ c => G c) seen (charge env call) := by
  unfold charge
  split_ifs with _ _ hagent
  · trivial
  · trivial
  · cases hcaller : truthy call.caller.delegationId with
    | none => trivial
    | some delegationId =>
      unfold chargeAsAgent
      refine (sat_reserveSpendOrThrow env hplain _ _ _).andThen fun _ delegation => ?_
      rw [sat_bind, sat_liftM]
      intro remaining _
      rw [sat_bind, sat_liftM]
      intro requiresApproval _
      split_ifs
      · refine Sat.andThen ?_ fun _ _ => trivial
        exact (sat_issue env (hplain _ rfl)).andThen fun _ _ => trivial
      · refine (sat_executeReserved env hplain _ _ _ fun c => ?_).andThen fun _ _ => trivial
        change G (.payments (truthy (some delegationId)) c)
        rw [truthy_of_truthy hcaller, ← hcaller]
        exact h hagent c
  · exact (sat_payments _ fun c => hplain _ rfl).andThen fun _ _ => trivial

omit hplain in
lemma sat_createDelegation (params : CreateDelegationParams) (sanctionsHit : Bool)
    (id jti : String) (h : ∀ delegation : Delegation, delegation.id = id →
      G (.saveDelegation delegation)) :
    Only (fun _ c => G c) seen
      (createDelegation env params sanctionsHit id jti) := by
  unfold createDelegation
  split_ifs
  · trivial
  · refine sat_bind.2 (sat_liftM.2 fun policy _ => ?_)
    exact (sat_issue env (h _ rfl)).andThen fun _ _ => trivial

lemma sat_revoke (id : String) (revokeToken : Except AppError Unit)
    (h : ∀ delegation : Delegation, delegation.status = .REVOKED → G (.saveDelegation delegation)) :
    Only (fun _ c => G c) seen (revoke env id revokeToken) := by
  unfold revoke
  refine (sat_getOrThrow env hplain id).andThen fun _ delegation => ?_
  split_ifs
  · trivial
  · refine (sat_issue env (h _ rfl)).andThen fun _ _ => ?_
    rw [sat_liftM]
    exact fun _ _ => trivial

end sat

/-- The delegation that a request creates. -/
def AgentRequest.newDelegation : AgentRequest → Option String
  | createDelegation _ _ _ id _ => some id
  | _ => none

/-- The delegation that a request revokes. -/
def AgentRequest.revokes : AgentRequest → Option String
  | revoke _ id _ => some id
  | _ => none

lemma sat_keepsRevoked {id : String} {r : AgentRequest} (hnew : r.newDelegation ≠ some id)
    {seen : Option AgentDb} :
    Only (fun _ c => c.KeepsRevoked id) seen r.program := by
  have hplain : ∀ c : AgentCmd, c.isPlain → c.KeepsRevoked id := by
    intro c hc
    cases c with
    | saveDelegation delegation => exact (nomatch hc)
    | _ => trivial
  cases r with
  | charge env call =>
    exact (sat_charge env hplain call fun _ _ => trivial).andThen
      fun _ _ => trivial
  | approve env approvalId decidedBy =>
    exact (sat_approve env hplain approvalId decidedBy fun _ _ => trivial).andThen
      fun _ _ => trivial
  | deny env approvalId decidedBy reason =>
    exact (sat_deny env hplain approvalId decidedBy reason).andThen fun _ _ => trivial
  | createDelegation env params sanctionsHit newId jti =>
    refine sat_createDelegation env params sanctionsHit newId jti ?_
    rintro delegation rfl
    exact .inl fun heq => hnew (congrArg some heq)
  | revoke env revoked revokeToken =>
    exact sat_revoke env hplain revoked revokeToken fun _ hstatus => .inr hstatus
  | operation op => exact sat_payments _ fun _ => trivial

/-- The command neither undoes a revocation nor charges under the delegation. -/
def AgentCmd.Innocent (id : String) (c : AgentCmd) : Prop :=
  c.KeepsRevoked id ∧ c.chargesFor id = false

lemma innocent_of_isPlain (id : String) (c : AgentCmd) (hc : c.isPlain) : c.Innocent id := by
  cases c with
  | saveDelegation delegation => exact (nomatch hc)
  | payments delegationId c =>
    obtain rfl : delegationId = none := Option.isNone_iff_eq_none.1 hc
    exact ⟨trivial, by cases c with
      | psp provider call => cases call <;> rfl
      | _ => rfl⟩
  | _ => exact ⟨trivial, rfl⟩

lemma innocent_payments {id delegationId : String} (hne : delegationId ≠ id) (c : Cmd) :
    (AgentCmd.payments (truthy (some delegationId)) c).Innocent id := by
  refine ⟨trivial, ?_⟩
  cases c with
  | psp provider call =>
    cases call with
    | charge key =>
      refine decide_eq_false fun h => hne ?_
      exact Option.some.inj (Option.filter_eq_some_iff.1 h).1
    | _ => rfl
  | _ => rfl

/-! ### The contract of a request -/

/-- An approval is approved while the delegation it was requested under, by the row that the request
has read, is active. -/
def approvesActive (seen : Option AgentDb) (c : AgentCmd) (db : AgentDb) : Bool :=
  match c with
  | .markApproved id _ _ =>
    (seen.bind fun db₀ => db₀.approvals.get id).all fun approval =>
      db.isActive approval.delegationId
  | _ => true

/-- The contract of request `i`, where those from `n` on start after the revocation: a delegation
that is revoked stays so, and it is recorded whether a later request has charged under it. -/
def revocationContract (id : String) (n i : Nat) : Contract AgentDb AgentCmd Bool where
  record c t := t.2 || (decide (n ≤ i) && c.chargesFor id)
  rely t t' := t.1.isRevoked id → t'.1.isRevoked id
  guarantee t t' := t.1.isRevoked id → t'.1.isRevoked id

/-- Nothing was sent to a PSP. -/
def Uncharged (t : AgentDb × Bool) : Prop := t.2 = false

section meets

variable {α : Type} {id : String} {n i : Nat} {last : AgentDb × Bool} {seen : Option AgentDb}
  {Cond : Option AgentDb → AgentCmd → AgentDb → Prop}
  {Q : AgentDb × Bool → Option AgentDb → α → Prop}

lemma revocationContract_step {c : AgentCmd} (hkeeps : c.KeepsRevoked id)
    (hcharges : i < n ∨ c.chargesFor id = false) {t : AgentDb × Bool} (ht : Uncharged t) :
    Uncharged ((revocationContract id n i).apply c t) ∧
      (revocationContract id n i).guarantee t ((revocationContract id n i).apply c t) := by
  refine ⟨?_, fun h => AgentDb.isRevoked_apply h hkeeps⟩
  change (t.2 || (decide (n ≤ i) && c.chargesFor id)) = false
  rw [show t.2 = false from ht]
  rcases hcharges with hlt | hcharges
  · simp [Nat.not_le.2 hlt]
  · simp [hcharges]

lemma meets_issue (env : AgentEnv) (c : AgentCmd) (hkeeps : c.KeepsRevoked id)
    (hcharges : c.chargesFor id = false) {f : AgentDb → Agents α}
    (h : ∀ t, Uncharged t → (last.1.isRevoked id → t.1.isRevoked id) →
      Cond seen c t.1 →
      Meets (revocationContract id n i) Uncharged Cond Q ((revocationContract id n i).apply c t)
        (observe c t.1 seen) (f t.1)) :
    Meets (revocationContract id n i) Uncharged Cond Q last seen (env.issue c >>= f) := by
  have hact : Meets (revocationContract id n i) Uncharged Cond Q last seen (act c f) := by
    intro t ht hrely hcond
    obtain ⟨ht', hguarantee⟩ := revocationContract_step hkeeps (.inr hcharges) ht
    exact ⟨ht', hguarantee, h t ht hrely hcond⟩
  unfold AgentEnv.issue
  rw [tryAct_bind]
  unfold tryAct
  cases env.fault c with
  | none => exact hact
  | some failure =>
    dsimp only
    cases failure.applied with
    | false => trivial
    | true =>
      intro t ht _ _
      obtain ⟨ht', hguarantee⟩ := revocationContract_step hkeeps (.inr hcharges) ht
      exact ⟨ht', hguarantee, trivial⟩

/-- A program none of whose commands undoes the revocation or charges under the delegation. -/
lemma meets_of_sat {p : Agents α}
    (h : Only (fun _ c => c.KeepsRevoked id ∧ (i < n ∨ c.chargesFor id = false))
      seen p) {P : AgentDb × Bool → Prop} (hlast : P last)
    (hP : ∀ t t' : AgentDb × Bool, P t → (t.1.isRevoked id → t'.1.isRevoked id) → P t') :
    Meets (revocationContract id n i) Uncharged Cond (fun last _ _ => P last) last seen p := by
  induction p generalizing last seen with
  | ret a => exact hlast
  | fail e => trivial
  | act c next ih =>
    intro t ht hrely _
    obtain ⟨ht', hguarantee⟩ := revocationContract_step h.1.1 h.1.2 ht
    exact ⟨ht', hguarantee, ih t.1 (h.2 t.1) (hP _ _ (hP _ _ hlast hrely) hguarantee)⟩

lemma meets_of_innocent {p : Agents α}
    (h : Only (fun _ c => c.Innocent id) seen p) (hlast : last.1.isRevoked id) :
    Meets (revocationContract id n i) Uncharged Cond
      (fun t _ _ => t.1.isRevoked id) last seen p :=
  meets_of_sat (P := fun t => t.1.isRevoked id)
    (h.mono (fun _ _ hc => ⟨hc.1, .inr hc.2⟩) fun _ _ h => h) hlast fun _ _ h hkeeps => hkeeps h

/-- A request that has started before the revocation. -/
lemma meets_earlier (hi : i < n) {r : AgentRequest} (hnew : r.newDelegation ≠ some id) :
    Meets (revocationContract id n i) Uncharged Cond
      (fun t _ _ => r.revokes = some id → t.1.isRevoked id) last seen r.program := by
  have hsat : Only (fun _ c => c.KeepsRevoked id ∧ (i < n ∨ c.chargesFor id = false))
      seen r.program :=
    (sat_keepsRevoked hnew).mono (fun _ _ hc => ⟨hc, .inl hi⟩) fun _ _ h => h
  by_cases hrevokes : r.revokes = some id
  · cases r with
    | revoke env other revokeToken =>
      obtain rfl := Option.some.inj hrevokes
      change Meets _ _ _ _ _ _ (revoke env other revokeToken)
      unfold revoke getOrThrow
      rw [bind_assoc]
      refine meets_issue env (.findDelegation other) trivial rfl fun t _ _ _ => ?_
      cases hrow : t.1.delegations.get other with
      | none => trivial
      | some delegation =>
        rw [ret_bind]
        split_ifs
        · trivial
        · refine meets_issue env (.saveDelegation (delegation.revoke env.now)) (.inr rfl) rfl
            fun t' _ _ _ => ?_
          refine (holds_liftM _).2 ?_
          intro _ _ _
          change ((t'.1.delegations.put (delegation.revoke env.now)).get other).any _ = true
          have hid : other = (delegation.revoke env.now).id := (Table.key_of_get hrow).symm
          rw [hid, Table.get_put_self]
          rfl
    | _ => exact (nomatch hrevokes)
  · exact (meets_of_sat (P := fun _ => True) hsat trivial fun _ _ _ _ => trivial).mono
      fun _ _ _ _ h => absurd h hrevokes

omit α in
lemma meets_chargeAsAgent (hlast : last.1.isRevoked id) (env : AgentEnv) (call : ChargeCall)
    {Q : AgentDb × Bool → Option AgentDb → ChargeReply → Prop} :
    Meets (revocationContract id n i) Uncharged (fun seen c s => approvesActive seen c s) Q last
      seen (chargeAsAgent env call id) := by
  unfold chargeAsAgent reserveSpendOrThrow getOrThrow
  rw [bind_assoc, bind_assoc]
  refine meets_issue env (.findDelegation id) trivial rfl fun t _ hrely _ => ?_
  cases hrow : t.1.delegations.get id with
  | none => trivial
  | some delegation =>
    have hrevoked := hrely hlast
    unfold AgentDb.isRevoked at hrevoked
    rw [hrow] at hrevoked
    have hstatus : delegation.status = .REVOKED := of_decide_eq_true hrevoked
    rw [ret_bind, checkSpend, if_pos (by rw [hstatus]; decide)]
    trivial

lemma meets_approve (hlast : last.1.isRevoked id) (env : AgentEnv) (approvalId decidedBy : String) :
    Meets (revocationContract id n i) Uncharged (fun seen c s => approvesActive seen c s)
      (fun t _ _ => t.1.isRevoked id) last seen (approve env approvalId decidedBy) := by
  unfold approve ChargeApprovalService.findById
  rw [bind_assoc]
  refine meets_issue env (.findApproval approvalId) trivial rfl fun t _ hrely _ => ?_
  cases hrow : t.1.approvals.get approvalId with
  | none => trivial
  | some approval =>
    rw [ret_bind]
    split_ifs
    · trivial
    · refine meets_issue env (.markApproved approvalId env.now decidedBy) trivial rfl
        fun t' _ hrely' hcond => ?_
      have hrevoked : t'.1.isRevoked id := hrely' (hrely hlast)
      have hactive : t'.1.isActive approval.delegationId := by
        simpa only [approvesActive, observe, Commands.observes, if_true, Option.bind_some, hrow,
          Option.all_some] using hcond
      have hne : approval.delegationId ≠ id := by
        rintro rfl
        rw [AgentDb.not_isActive_of_isRevoked hrevoked] at hactive
        cases hactive
      split_ifs
      · trivial
      · have hplain := innocent_of_isPlain id
        refine meets_of_innocent ((sat_derivePercent env hplain approval.delegationId
          approval.amount).andThen fun _ percent => ?_) hrevoked
        exact sat_executeReserved env hplain _ _ _ (innocent_payments hne)

/-- A request that starts after it. -/
lemma meets_later (hlast : last.1.isRevoked id) {r : AgentRequest}
    (hnew : r.newDelegation ≠ some id) :
    Meets (revocationContract id n i) Uncharged (fun seen c s => approvesActive seen c s)
      (fun t _ _ => t.1.isRevoked id) last seen r.program := by
  have hplain := innocent_of_isPlain id
  cases r with
  | charge env call =>
    by_cases hcaller : call.caller.isAgent ∧ truthy call.caller.delegationId = some id
    · obtain ⟨hagent, hdelegation⟩ := hcaller
      change Meets _ _ _ _ _ _ (charge env call >>= fun _ => return ())
      refine (holds_bind _ _).2 ?_
      unfold charge
      rw [if_pos hagent, hdelegation]
      split_ifs
      · trivial
      · trivial
      · exact meets_chargeAsAgent hlast env call
    · refine meets_of_innocent ((sat_charge env hplain call ?_).andThen fun _ _ => trivial) hlast
      intro hagent c
      cases hdelegation : truthy call.caller.delegationId with
      | none => exact hplain _ rfl
      | some delegationId =>
        rw [← truthy_of_truthy hdelegation]
        refine innocent_payments (fun heq => hcaller ⟨hagent, ?_⟩) c
        rw [hdelegation, heq]
  | approve env approvalId decidedBy =>
    change Meets _ _ _ _ _ _ (approve env approvalId decidedBy >>= fun _ => return ())
    refine (holds_bind _ _).2 ?_
    exact meets_approve hlast env approvalId decidedBy
  | deny env approvalId decidedBy reason =>
    exact meets_of_innocent
      ((sat_deny env hplain approvalId decidedBy reason).andThen fun _ _ => trivial) hlast
  | createDelegation env params sanctionsHit newId jti =>
    refine meets_of_innocent (sat_createDelegation env params sanctionsHit newId jti ?_)
      hlast
    rintro delegation rfl
    exact ⟨.inl fun heq => hnew (congrArg some heq), rfl⟩
  | revoke env revoked revokeToken =>
    exact meets_of_innocent
      (sat_revoke env hplain revoked revokeToken fun _ hstatus => ⟨.inr hstatus, rfl⟩) hlast
  | operation op => exact meets_of_innocent (sat_payments _ fun c => hplain _ rfl) hlast

end meets

/-! ### Revocation is final -/

/-- The requests, none of which has started. -/
def AgentDb.start (db : AgentDb) (requests : List AgentRequest) : Pool AgentDb AgentCmd AppError :=
  ⟨db, (requests.map AgentRequest.program).map Proc.start⟩

lemma not_chargesFor_of_recorded {id : String} {n : Nat}
    {trace : List (Event AgentDb AgentCmd)}
    (h : Pool.recorded (revocationContract id n) false trace = false) :
    ∀ e ∈ trace, n ≤ e.proc → e.cmd.chargesFor id = false := by
  have hrecorded : ∀ w, Pool.recorded (revocationContract id n) w trace = false → w = false ∧
      ∀ e ∈ trace, n ≤ e.proc → e.cmd.chargesFor id = false := by
    clear h
    induction trace with
    | nil => exact fun w hw => ⟨hw, fun e he => (nomatch he)⟩
    | cons e trace ih =>
      intro w hw
      obtain ⟨hw', htrace⟩ := ih _ hw
      obtain ⟨hw, he⟩ := Bool.or_eq_false_iff.1 hw'
      refine ⟨hw, List.forall_mem_cons.2 ⟨fun hn => ?_, htrace⟩⟩
      simpa [hn] using he
  exact (hrecorded false h).2

namespace Sample

/-- A charge waits for its approval; then the first delegation is revoked. -/
def revoked (delegationId : String) : List AgentRequest :=
  [.charge agentEnv (agentCharge delegationId), .revoke agentEnv "del_1" (.ok ())]

/-- The agent of the first delegation asks for a charge, and the one that waits is approved. -/
def afterwards : List AgentRequest :=
  [.charge agentEnv { agentCharge "del_1" with
      paymentId := "payment-2", approvalId := "approval-2" },
    .approve agentEnv "approval-1" "operator-1"]

/-- The programs from `first` on, one after the other. -/
def inOrder (first count : Nat) : List Nat :=
  (List.range' first count).flatMap fun i => List.replicate 12 i

/-- The state after the revocation, with the requests that start then. -/
def afterRevocation (delegationId : String) : Pool AgentDb AgentCmd AppError :=
  ((agentDb.start (revoked delegationId)).exec (inOrder 0 2)).2.enter
    (afterwards.map AgentRequest.program)

end Sample

open Sample

end OmniSwitch
