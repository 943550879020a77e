import OmniSwitch.Merchant.Security

/-!
# Backup codes

`mfa.service.ts`.  The check that accepts a backup code saves the merchant's row without the hash of
the code.  It saves the whole row, as it has read it: of two checks that read the row before either
saves it both accept the code, and whoever saves an older copy brings used hashes back.

Main results:

* `backup_codes_single_use`: a code is accepted once, where rows are saved as they were read;
* `backup_codes_reused`: saves of older copies.
-/

namespace OmniSwitch

open Lib Lib.Prog

lemma countP_eraseIdx_findIdx {l : List String} {p : String → Bool} {i : Nat}
    (h : l.findIdx? p = some i) : (l.eraseIdx i).countP p + 1 = l.countP p := by
  have herase : l.eraseP p = l.eraseIdx i := by rw [List.eraseP_eq_eraseIdx, h]
  obtain ⟨hi, hp, -⟩ := List.findIdx?_eq_some_iff_getElem.1 h
  obtain ⟨a, l₁, l₂, -, ha, hl, hdrop⟩ := List.exists_of_eraseP (List.getElem_mem hi) hp
  rw [← herase, hdrop, hl]
  simp [ha]
  omega

/-- How many of the stored hashes the code is accepted for. -/
def MerchantEntity.hashesFor (accepts : String → String → Bool) (code : String)
    (merchant : MerchantEntity) : Nat :=
  merchant.mfaBackupCodeHashes.countP (accepts code)

namespace MerchantCmd

/-- The save by which a check accepts a backup code of the merchant's; `disableMfa` saves once more,
with MFA disabled.

Source: `MfaService.verifyCode`; `MfaService.disableMfa` -/
def Accepts (merchantId code : String) : MerchantCmd → Bool
  | save (.verifyCode _ given) copy => given = code ∧ copy.merchantId = merchantId
  | save (.disableMfa _ given) copy =>
    given = code ∧ copy.merchantId = merchantId ∧ copy.mfaEnabled
  | _ => false

/-- A save of the merchant's row is of a copy with the hashes that the row has, and no enrolment
issues the code again. -/
def KeepsUsed (accepts : String → String → Bool) (merchantId code : String)
    (seen : Option MerchantDb) (db : MerchantDb) : MerchantCmd → Prop
  | save request copy => copy.merchantId = merchantId →
      (∀ read ∈ seen.bind (·.get merchantId), ∀ row ∈ db.get merchantId,
        read.mfaBackupCodeHashes = row.mfaBackupCodeHashes) ∧
      match request with
      | .confirmEnrollment _ _ => copy.hashesFor accepts code = 0
      | _ => True
  | _ => True

variable {accepts : String → String → Bool} {seen : Option MerchantDb} {db : MerchantDb}
  {c : MerchantCmd} {merchantId code : String} {row : MerchantEntity}

/-- What a check accepts, it takes off what is stored. -/
lemma hashesFor_apply (hedits : c.Edits accepts seen)
    (hkeeps : c.KeepsUsed accepts merchantId code seen db) (hrow : db.get merchantId = some row) :
    ∃ row', (Commands.apply c db).get merchantId = some row' ∧
      (c.Accepts merchantId code).toNat + row'.hashesFor accepts code ≤
        row.hashesFor accepts code := by
  have huses : ∀ {given old new}, MerchantRequest.UsesUp accepts given old new →
      (decide (given = code)).toNat + new.countP (accepts code) ≤ old.countP (accepts code) := by
    rintro given old _ ⟨i, hfound, rfl⟩
    by_cases hcode : given = code
    · subst hcode
      rw [decide_eq_true rfl, ← countP_eraseIdx_findIdx hfound]
      exact (Nat.add_comm _ _).le
    · rw [decide_eq_false hcode, Bool.toNat_false, Nat.zero_add]
      exact (List.eraseIdx_sublist old i).countP_le
  rcases apply_cases hedits hrow with
    ⟨hsame, hother⟩ | ⟨request, copy, read, rfl, rfl, hread, hcopy, hpost⟩
  · have hnone : c.Accepts merchantId code = false := by
      unfold Accepts
      split
      · simp [hother _ _ rfl]
      · simp [hother _ _ rfl]
      · rfl
    exact ⟨row, hsame, by simp [hnone]⟩
  · refine ⟨_, hpost, ?_⟩
    obtain ⟨hcurrent, hissued⟩ := hkeeps rfl
    have hcodes := hcopy.codes
    rw [hcurrent read hread row hrow] at hcodes
    change _ + copy.hashesFor accepts code ≤ _
    cases request with
    | verifyCode id given => simpa [Accepts, MerchantEntity.hashesFor] using huses hcodes
    | disableMfa id given =>
      rcases hcodes with hcodes | ⟨henabled, hnil⟩
      · refine (Nat.add_le_add_right (Bool.toNat_le_toNat ?_) _).trans (huses hcodes)
        simpa [Accepts] using Bool.and_le_left _ _
      · simp [Accepts, henabled, hnil, MerchantEntity.hashesFor]
    | confirmEnrollment id given =>
      change 0 + copy.hashesFor accepts code ≤ _
      rw [show copy.hashesFor accepts code = 0 from hissued]
      exact Nat.zero_le _
    | _ => exact (Nat.zero_add _).le.trans (congrArg _ hcodes).le

end MerchantCmd

/-- **A backup code is accepted once**: from any point of any interleaving of operations on the
merchants at which one hash is stored that the code is accepted for, as long as every save of the
merchant's row is of a copy with the hashes of the row and no enrolment issues the code again, at
most one check accepts the code, and once one has, no such hash is stored. -/
theorem backup_codes_single_use (db : MerchantDb) (calls : List (MerchantRequest × MerchantPorts))
    (accepts : String → String → Bool) (hports : ∀ call ∈ calls, call.2.compare = accepts)
    (before after : List Nat) (merchantId code : String) {row : MerchantEntity}
    (hrow : ((merchantPool db calls).exec before).2.state.get merchantId = some row)
    (hsingle : row.hashesFor accepts code ≤ 1)
    (hkeeps : ∀ e ∈ (((merchantPool db calls).exec before).2.exec after).1,
      e.cmd.KeepsUsed accepts merchantId code e.seen e.pre) :
    ∃ row', (((merchantPool db calls).exec before).2.exec after).2.state.get merchantId =
        some row' ∧
      (((merchantPool db calls).exec before).2.exec after).1.countP
          (·.cmd.Accepts merchantId code) + row'.hashesFor accepts code ≤ 1 := by
  have hpool : ∀ p ∈ (merchantPool db calls).procs,
      Only (MerchantCmd.Edits accepts) p.seen p.prog :=
    List.forall_mem_map.2 fun call hcall => hports call hcall ▸ program_edits call.1 call.2 none
  obtain ⟨-, hmid⟩ := Pool.exec_guarantees hpool before
  obtain ⟨hevents, -⟩ := Pool.exec_guarantees hmid after
  generalize ((merchantPool db calls).exec before).2 = pool at *
  have hcount : ∀ (events : List (Event MerchantDb MerchantCmd)) n, events.foldl (fun n e =>
      n + (e.cmd.Accepts merchantId code).toNat) n =
        n + events.countP (·.cmd.Accepts merchantId code) := by
    intro events
    induction events with
    | nil => exact fun _ => rfl
    | cons e events ih =>
      intro n
      rw [List.foldl_cons, ih, List.countP_cons]
      cases e.cmd.Accepts merchantId code <;> simp
      omega
  have hend := (Pool.exec_induct (fun pool n => ∃ row', pool.state.get merchantId = some row' ∧
      n + row'.hashesFor accepts code ≤ 1) (fun _ => True)
    (fun e => e.cmd.Edits accepts e.seen ∧ e.cmd.KeepsUsed accepts merchantId code e.seen e.pre)
    (fun n e => n + (e.cmd.Accepts merchantId code).toNat) ?_ 0 ⟨row, hrow, by omega⟩ after
    fun e he => ⟨(hevents e he).1, hkeeps e he⟩).2
  · rwa [hcount, Nat.zero_add] at hend
  · rintro pool pool' n i e ⟨row₁, hrow₁, hle⟩ hstep ⟨hedits, hkept⟩
    obtain ⟨seen, c, next, -, rfl, rfl⟩ := Pool.step_eq_some hstep
    obtain ⟨row₂, hrow₂, hless⟩ := MerchantCmd.hashesFor_apply hedits hkept hrow₁
    exact ⟨trivial, row₂, hrow₂, by omega⟩

namespace Sample

/-- A merchant with one backup code. -/
def enrolled : MerchantDb :=
  Table.empty.put { shop with mfaEnabled := true, mfaBackupCodeHashes := ["code"] }

/-- Operations that do not wait for each other. -/
def checks (requests : List MerchantRequest) : Pool MerchantDb MerchantCmd AppError :=
  merchantPool enrolled (requests.map (·, {}))

/-- How often the code is accepted, and the hashes that are stored at the end. -/
def checked (requests : List MerchantRequest) (schedule : List Nat) : Nat × Option (List String) :=
  let (events, pool) := (checks requests).exec schedule
  (events.countP (·.cmd.Accepts "m1" "code"), (pool.state.get "m1").map (·.mfaBackupCodeHashes))

/-- The code is checked twice, and another operation changes the fee. -/
def twice : List MerchantRequest :=
  [.verifyCode "m1" "code", .verifyCode "m1" "code", .updateFeeRate "m1" 200]

end Sample

open Sample

instance (accepts : String → String → Bool) (merchantId code : String) (seen : Option MerchantDb)
    (db : MerchantDb) (c : MerchantCmd) :
    Decidable (c.KeepsUsed accepts merchantId code seen db) := by
  refine c.casesOn ?_ ?_ ?_ ?_ <;> intros <;> dsimp only [MerchantCmd.KeepsUsed]
  · infer_instance
  · infer_instance
  · infer_instance
  · split <;> infer_instance

/-- The code is accepted; a second check refuses it. -/
theorem backup_codes_single_use_checked :
    checked twice [0, 0, 1, 2, 2] = (1, some []) ∧
    ∃ row', ((checks twice).exec [0, 0, 1, 2, 2]).2.state.get "m1" = some row' ∧
      ((checks twice).exec [0, 0, 1, 2, 2]).1.countP (·.cmd.Accepts "m1" "code") +
        row'.hashesFor (fun code hash => code = hash) "code" ≤ 1 :=
  ⟨by decide +kernel, backup_codes_single_use enrolled (twice.map (·, {})) _ (by simp) [] _ "m1"
    "code" (show enrolled.get "m1" = some _ from rfl) (by decide +kernel) (by decide +kernel)⟩

/-- Two checks that read the row before either saves it accept the same code; and an operation that
read the row before brings the hash of a used code back, which is then accepted again. -/
theorem backup_codes_reused :
    checked [.verifyCode "m1" "code", .verifyCode "m1" "code"] [0, 1, 0, 1] = (2, some []) ∧
    checked [.updateFeeRate "m1" 200, .verifyCode "m1" "code", .verifyCode "m1" "code"]
      [0, 1, 1, 0] = (1, some ["code"]) ∧
    checked [.updateFeeRate "m1" 200, .verifyCode "m1" "code", .verifyCode "m1" "code"]
      [0, 1, 1, 0, 2, 2] = (2, some []) := by
  decide +kernel

end OmniSwitch
