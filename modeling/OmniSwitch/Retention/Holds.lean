import OmniSwitch.Retention.Restore

/-!
# Legal holds, archiving and deletion

`legal-hold.service.ts`, `run-archiving-job.ts` `archivePayments` and `run-deletion-job.ts`
`runDeletion`, statement by statement, beside updates of payments and disputes.  Each operation
first selects payments and then acts on them by id.  What a transaction has inserted is seen when it
commits; its last statement and the commit are one step, since until the commit the other operations
read the rows as they were and wait to write them.

Main results:

* `RetentionDb.Sound.apply`: a statement that finds the payments as they were selected keeps each in
  one table at most, and the held ones live;
* `retention_safe`: what holds, archiving and deletion guarantee in every interleaving whose
  statements find the payments as they were selected;
* `retention_races`: five interleavings in which one does not.
-/

namespace OmniSwitch

open Lib Prog

deriving instance DecidableEq for PaymentRow, ArchivedPayment

/-- A row of the live table. -/
structure LiveRow extends PaymentRow where
  legalHold : Bool := false
  deriving DecidableEq

/-- The payments by id, in the live table and in the archive, whose column `legal_hold` is never
set; the payment of each open dispute; the payments that reconciliation runs have flagged; and the
payments that a call of `placeHold` has returned for since they were last released. -/
structure RetentionDb where
  ids : List String
  live : String → Option LiveRow
  archive : String → Option ArchivedPayment
  openDisputes : List String := []
  mismatches : List String := []
  held : List String := []

/-- What a run of a job meets.

Source: `run-archiving-job.ts` `ARCHIVE_THRESHOLD_DAYS`; `run-deletion-job.ts`
`deletionThresholdYears` -/
structure RetentionRun where
  now : Date
  archiveThresholdDays : Nat := 180
  deletionThresholdMs : Nat := 8 * 365 * 24 * 60 * 60 * 1000
  backup : Except AppError Unit := .ok ()

/-- A statement.

Source: `LegalHoldService`; `run-archiving-job.ts` `archivePayments`; `run-deletion-job.ts`
`runDeletion` -/
inductive RetentionCmd where
  | insertSelectArchive (run : RetentionRun)
  | deleteMoved (copies : List (String × ArchivedPayment))
  | selectDeletable (run : RetentionRun)
  | deleteArchived (ids : List String)
  | selectLive (id : String)
  | updateHold (id : String) (legalHold : Bool)
  | selectArchived (id : String)
  | insertSelectLive (id : String)
  | deleteRestored (id : String) (copy : Option ArchivedPayment)
  /-- The row of a payment, if `before` is given only as long as it is unchanged. -/
  | savePayment (id : String) (before : Option PaymentRow) (row : PaymentRow)
  | openDispute (id : String)
  | closeDispute (id : String)

namespace RetentionDb

/-- Source: `run-archiving-job.ts` `archivePayments` -/
def eligible (run : RetentionRun) (db : RetentionDb) (id : String) (row : LiveRow) : Bool :=
  row.createdAt + run.archiveThresholdDays * 24 * 60 * 60 * 1000 < run.now &&
    row.status.terminal && !row.legalHold && !db.openDisputes.contains id &&
    !db.mismatches.contains id

/-- The copies of the eligible rows; a row that is in the archive is passed over.

Source: `run-archiving-job.ts` `archivePayments` -/
def copies (run : RetentionRun) (db : RetentionDb) : List (String × ArchivedPayment) :=
  db.ids.filterMap fun id =>
    if (db.archive id).isSome then none
    else ((db.live id).filter (db.eligible run id)).map fun row => (id, row.archived)

/-- Source: `run-deletion-job.ts` `runDeletion` -/
def deletable (run : RetentionRun) (db : RetentionDb) : List String :=
  db.ids.filter fun id => (db.archive id).any fun archived =>
    archived.createdAt + run.deletionThresholdMs < run.now && !db.openDisputes.contains id

end RetentionDb

/-- Source: `LegalHoldService`; `run-archiving-job.ts` `archivePayments`; `run-deletion-job.ts`
`runDeletion`; `PaymentLifecycleService.saveIfUnchanged`, `PaymentTypeOrmRepository.update` -/
def RetentionCmd.apply : RetentionCmd → RetentionDb → RetentionDb
  | deleteMoved copies, db =>
    { db with
      live := fun id =>
        if (db.archive id).isNone && (copies.lookup id).isSome then none else db.live id
      archive := fun id => (db.archive id).or (copies.lookup id) }
  | deleteArchived ids, db =>
    { db with archive := fun id => if id ∈ ids then none else db.archive id }
  | updateHold id legalHold, db =>
    { db with
      live := Function.update db.live id ((db.live id).map fun row => { row with legalHold })
      held := if legalHold then id :: db.held else db.held.filter (· ≠ id) }
  | deleteRestored id copy, db =>
    -- a live row of that id makes the insertion fail
    if (db.live id).isSome && copy.isSome then db
    else { db with
      live := Function.update db.live id
        ((db.live id).or (copy.map fun archived => ⟨archived.restored, true⟩))
      archive := Function.update db.archive id none
      held := id :: db.held }
  | savePayment id (some before) row, db =>
    { db with
      live := Function.update db.live id ((db.live id).map fun old =>
        if old.status = before.status ∧ old.refunds = before.refunds ∧
          old.captures = before.captures
        then ⟨row, old.legalHold⟩ else old) }
  | savePayment id none row, db =>
    -- a row that is not there is inserted
    { db with
      live := Function.update db.live id
        (some ⟨row, ((db.live id).map LiveRow.legalHold).getD false⟩) }
  | openDispute id, db => { db with openDisputes := id :: db.openDisputes }
  | closeDispute id, db => { db with openDisputes := db.openDisputes.erase id }
  | _, db => db

instance : Commands RetentionDb RetentionCmd where
  apply := RetentionCmd.apply
  observes
    | .insertSelectArchive _ | .selectDeletable _ | .selectLive _ | .selectArchived _
    | .insertSelectLive _ => true
    | _ => false

/-- A program over the two tables. -/
abbrev Retention := Prog RetentionDb RetentionCmd AppError Unit

namespace Retention

/-- The count of eligible rows, which is only logged, is left out.

Source: `run-archiving-job.ts` `archivePayments` -/
def archivePayments (run : RetentionRun) : Retention :=
  act (.insertSelectArchive run) fun db =>
    if db.copies run = [] then pure () else act (.deleteMoved (db.copies run)) fun _ => pure ()

/-- Source: `run-deletion-job.ts` `runDeletion` -/
def runDeletion (run : RetentionRun) : Retention :=
  act (.selectDeletable run) fun db =>
    if db.deletable run = [] then pure ()
    else do
      run.backup
      act (.deleteArchived (db.deletable run)) fun _ => pure ()

/-- Source: `LegalHoldService.placeHold` -/
def placeHold (id : String) : Retention :=
  act (.selectLive id) fun db =>
    if (db.live id).isSome then act (.updateHold id true) fun _ => pure ()
    else act (.selectArchived id) fun db =>
      if (db.archive id).isSome then
        act (.insertSelectLive id) fun db =>
          let copy := db.archive id
          act (.deleteRestored id copy) fun db =>
            if (db.live id).isSome && copy.isSome then
              throw (.plain "duplicate key value violates unique constraint")
            else pure ()
      else throw (.http 404 s!"Payment {id} not found" "PAYMENT_NOT_FOUND")

/-- Source: `LegalHoldService.releaseHold` -/
def releaseHold (id : String) : Retention :=
  act (.selectLive id) fun db =>
    if (db.live id).isSome then act (.updateHold id false) fun _ => pure ()
    else throw (.http 404 (s!"Payment {id} not found among live payments " ++
      "(a payment must be live to have its legal hold released)") "PAYMENT_NOT_FOUND")

/-- A refund, a capture or a cancellation, which is `locked`, or what a dispute does to its payment:
the row is read and then written.

Source: `PaymentLifecycleService.saveIfUnchanged`; `WebhookProcessingService.markDisputed`,
`DisputeService.resolveByPspDisputeId` -/
def updatePayment (id : String) (locked : Bool) (change : PaymentRow → PaymentRow) : Retention :=
  act (.selectLive id) fun db =>
    match db.live id with
    | none => throw (.http 404 "Payment not found" "PAYMENT_NOT_FOUND")
    | some row => act (.savePayment id (if locked then some row.toPaymentRow else none)
        (change row.toPaymentRow)) fun _ => pure ()

end Retention

/-- A call; what is done to a dispute is the one statement that commits it. -/
inductive RetentionCall where
  | archivePayments (run : RetentionRun)
  | runDeletion (run : RetentionRun)
  | placeHold (id : String)
  | releaseHold (id : String)
  | updatePayment (id : String) (locked : Bool) (change : PaymentRow → PaymentRow)
  | openDispute (id : String)
  | closeDispute (id : String)

/-- The statements of a call. -/
def RetentionCall.program : RetentionCall → Retention
  | archivePayments run => Retention.archivePayments run
  | runDeletion run => Retention.runDeletion run
  | placeHold id => Retention.placeHold id
  | releaseHold id => Retention.releaseHold id
  | updatePayment id locked change => Retention.updatePayment id locked change
  | openDispute id => act (.openDispute id) fun _ => pure ()
  | closeDispute id => act (.closeDispute id) fun _ => pure ()

/-! ### Statements that act by id -/

namespace RetentionCmd

/-- What the operation that issues a statement has seen of the payments it acts on. -/
def Selected : Option RetentionDb → RetentionCmd → Prop
  | seen, deleteMoved copies => ∃ s ∈ seen, ∀ id copy, copies.lookup id = some copy →
      ∃ row, s.live id = some row ∧ row.legalHold = false ∧ row.archived = copy
  | seen, deleteArchived ids => ∃ s ∈ seen, ∀ id ∈ ids, id ∉ s.openDisputes
  | seen, deleteRestored id copy => ∃ s ∈ seen, s.archive id = copy
  | _, _ => True

/-- The payments that the statement acts on are still what they were selected for: those to be moved
have not been written, those to be deleted have no new dispute, the one to be put on hold or to be
saved is live, and the one to be restored is in the archive. -/
def Current (seen : Option RetentionDb) (db : RetentionDb) : RetentionCmd → Prop
  | deleteMoved copies => ∀ s ∈ seen, ∀ copy ∈ copies, s.live copy.1 = db.live copy.1
  | deleteArchived ids => ∀ s ∈ seen, ∀ id ∈ ids, id ∈ db.openDisputes → id ∈ s.openDisputes
  | updateHold id true | savePayment id none _ => (db.live id).isSome
  | deleteRestored id _ => (db.archive id).isSome ∧ ∀ s ∈ seen, s.archive id = db.archive id
  | _ => True

instance (seen : Option RetentionDb) (db : RetentionDb) (c : RetentionCmd) :
    Decidable (Current seen db c) := by
  unfold Current
  split <;> infer_instance

end RetentionCmd

namespace RetentionDb

/-- A payment is in one table at most; one that is held is live and has the mark. -/
structure Sound (db : RetentionDb) : Prop where
  apart : ∀ id, (db.live id).isSome → db.archive id = none
  held : ∀ id ∈ db.held, ∃ row, db.live id = some row ∧ row.legalHold = true

/-- The payment is in one of the tables. -/
def Has (db : RetentionDb) (id : String) : Prop := (db.live id).isSome ∨ (db.archive id).isSome

/-- What a statement may do: what it archives is the live row as it was, and what it deletes for
good has neither an open dispute nor a hold. -/
structure Keeps (db db' : RetentionDb) : Prop where
  archived : ∀ id copy, db'.archive id = some copy →
    db.archive id = some copy ∨ ∃ row, db.live id = some row ∧ row.archived = copy
  deleted : ∀ id, db.Has id → ¬ db'.Has id →
    id ∉ db.openDisputes ∧ id ∉ db.held ∧ ∀ row ∈ db.live id, row.legalHold = false

/-- A statement that leaves the archive alone and deletes no live row loses nothing. -/
lemma Keeps.of_has {db db' : RetentionDb} (harchive : db'.archive = db.archive)
    (hlive : ∀ id, (db.live id).isSome → (db'.live id).isSome) : db.Keeps db' where
  archived id copy h := .inl (harchive ▸ h)
  deleted id h hgone := by
    refine absurd ?_ hgone
    unfold Has
    rw [harchive]
    exact h.imp_left (hlive id)

/-- What is copied is a live row without the mark. -/
lemma lookup_copies {run : RetentionRun} {db : RetentionDb} {id : String} {copy : ArchivedPayment}
    (h : (db.copies run).lookup id = some copy) :
    ∃ row, db.live id = some row ∧ row.legalHold = false ∧ row.archived = copy := by
  obtain ⟨l₁, l₂, hcopies, -⟩ := List.lookup_eq_some_iff.1 h
  have hmem : (id, copy) ∈ db.copies run := hcopies ▸ by simp
  obtain ⟨id', -, hid'⟩ := List.mem_filterMap.1 hmem
  split_ifs at hid' with harchive
  obtain ⟨row, hrow, hpair⟩ := Option.map_eq_some_iff.1 hid'
  obtain ⟨rfl, rfl⟩ := Prod.mk.inj hpair
  obtain ⟨hlive, heligible⟩ := Option.filter_eq_some_iff.1 hrow
  refine ⟨row, hlive, ?_, rfl⟩
  unfold eligible at heligible
  simp only [Bool.and_eq_true, Bool.not_eq_true'] at heligible
  exact heligible.1.1.2

/-- Changing a row neither inserts nor deletes one. -/
lemma isSome_update_map (live : String → Option LiveRow) (id : String) (change : LiveRow → LiveRow)
    (id' : String) :
    (Function.update live id ((live id).map change) id').isSome = (live id').isSome := by
  by_cases h : id' = id
  · rw [h, Function.update_self, Option.isSome_map]
  · rw [Function.update_of_ne h]

variable {seen : Option RetentionDb} {db : RetentionDb}

/-- The statement leaves the tables sound, and loses nothing that it has to keep. -/
def Preserves (db : RetentionDb) (c : RetentionCmd) : Prop :=
  (c.apply db).Sound ∧ db.Keeps (c.apply db)

open RetentionCmd

section statements

variable (h : db.Sound) {id : String}
include h

/-- Rows that have not been written since they were selected are moved to the archive. -/
lemma Sound.deleteMoved {copies : List (String × ArchivedPayment)}
    (hselected : (deleteMoved copies).Selected seen)
    (hcurrent : (deleteMoved copies).Current seen db) : db.Preserves (deleteMoved copies) := by
  obtain ⟨s, hs, hcopies⟩ := hselected
  -- the rows that are moved are the live ones, and not on hold
  have hrow (id : String) (copy : ArchivedPayment) (hcopy : copies.lookup id = some copy) :
      ∃ row, db.live id = some row ∧ row.legalHold = false ∧ row.archived = copy := by
    obtain ⟨l₁, l₂, rfl, -⟩ := List.lookup_eq_some_iff.1 hcopy
    exact hcurrent s hs (id, copy) (by simp) ▸ hcopies id copy hcopy
  refine ⟨⟨fun id hlive => ?_, fun id hid => ?_⟩, fun id copy hcopy => ?_,
    fun id hhas hgone => ?_⟩
  · dsimp only [RetentionCmd.apply] at hlive ⊢
    cases harchive : db.archive id with
    | some archived =>
      have hlive : (db.live id).isSome := by simpa [harchive] using hlive
      exact absurd (h.apart id hlive) (by simp [harchive])
    | none =>
      cases hcopy : copies.lookup id with
      | none => rfl
      | some copy => simp [harchive, hcopy] at hlive
  · obtain ⟨row, hlive, hheld⟩ := h.held id hid
    refine ⟨row, ?_, hheld⟩
    dsimp only [RetentionCmd.apply]
    rw [if_neg, hlive]
    rintro hmoved
    obtain ⟨copy, hcopy⟩ := Option.isSome_iff_exists.1 (Bool.and_eq_true_iff.1 hmoved).2
    obtain ⟨row', hlive', hfree, -⟩ := hrow id copy hcopy
    obtain rfl := Option.some.inj (hlive.symm.trans hlive')
    exact absurd hheld (by simp [hfree])
  · rcases Option.or_eq_some_iff.1 hcopy with hold | ⟨-, hnew⟩
    · exact .inl hold
    · obtain ⟨row, hlive, -, harchived⟩ := hrow id copy hnew
      exact .inr ⟨row, hlive, harchived⟩
  · refine absurd ?_ hgone
    dsimp only [Has, RetentionCmd.apply] at hhas ⊢
    cases harchive : db.archive id with
    | some archived => exact .inr rfl
    | none =>
      have hlive : (db.live id).isSome := by simpa [harchive] using hhas
      cases hcopy : copies.lookup id with
      | some copy => exact .inr rfl
      | none => exact .inl (by simpa using hlive)

/-- Archived rows without a new dispute are deleted. -/
lemma Sound.deleteArchived {ids : List String} (hselected : (deleteArchived ids).Selected seen)
    (hcurrent : (deleteArchived ids).Current seen db) : db.Preserves (deleteArchived ids) := by
  obtain ⟨s, hs, hids⟩ := hselected
  refine ⟨⟨fun id hlive => ?_, h.held⟩, fun id copy hcopy => ?_, fun id hhas hgone => ?_⟩
  · dsimp only [RetentionCmd.apply]
    rw [h.apart id hlive, ite_self]
  · dsimp only [RetentionCmd.apply] at hcopy
    split_ifs at hcopy
    exact .inl hcopy
  · have hlive : db.live id = none := by
      cases hlive : db.live id with
      | none => rfl
      | some row =>
        refine absurd (.inl ?_) hgone
        rw [RetentionCmd.apply, hlive]
        rfl
    have hid : id ∈ ids := by
      by_contra hid
      refine hgone (.inr ?_)
      dsimp only [RetentionCmd.apply]
      rw [if_neg hid]
      exact hhas.resolve_left (by simp [hlive])
    refine ⟨fun hdispute => hids id hid (hcurrent s hs id hid hdispute), fun hheld => ?_, ?_⟩
    · obtain ⟨row, hrow, -⟩ := h.held id hheld
      exact nomatch hlive.symm.trans hrow
    · simp [hlive]

/-- The mark of a live row is set, or that of any row is removed. -/
lemma Sound.updateHold {legalHold : Bool} (hcurrent : (updateHold id legalHold).Current seen db) :
    db.Preserves (updateHold id legalHold) := by
  have hsome := isSome_update_map db.live id fun row => { row with legalHold }
  refine ⟨⟨fun id' hlive => h.apart id' (hsome id' ▸ hlive), fun id' hid' => ?_⟩,
    .of_has rfl fun id' hlive => (hsome id').symm ▸ hlive⟩
  dsimp only [RetentionCmd.apply] at hid' ⊢
  by_cases hid : id' = id
  · subst hid
    cases legalHold with
    | false => simp at hid'
    | true =>
      obtain ⟨row, hrow⟩ := Option.isSome_iff_exists.1 hcurrent
      exact ⟨{ row with legalHold := true }, by rw [Function.update_self, hrow]; rfl, rfl⟩
  · rw [Function.update_of_ne hid]
    refine h.held id' ?_
    cases legalHold with
    | false => exact List.mem_of_mem_filter hid'
    | true => exact (List.mem_cons.1 hid').resolve_left hid

/-- A row that is still in the archive is restored with the mark. -/
lemma Sound.deleteRestored {copy : Option ArchivedPayment}
    (hselected : (deleteRestored id copy).Selected seen)
    (hcurrent : (deleteRestored id copy).Current seen db) :
    db.Preserves (deleteRestored id copy) := by
  obtain ⟨s, hs, rfl⟩ := hselected
  obtain ⟨harchive, hsame⟩ := hcurrent
  obtain ⟨archived, harchive⟩ := Option.isSome_iff_exists.1 harchive
  have hlive : db.live id = none := by
    cases hlive : db.live id with
    | none => rfl
    | some row => exact nomatch harchive.symm.trans (h.apart id (by rw [hlive]; rfl))
  unfold Preserves
  rw [RetentionCmd.apply, hsame s hs, harchive, hlive, if_neg (by simp)]
  have hlive' : Function.update db.live id (some ⟨archived.restored, true⟩) id =
      some ⟨archived.restored, true⟩ := Function.update_self ..
  refine ⟨⟨fun id' hid' => ?_, fun id' hid' => ?_⟩, fun id' copy hcopy => ?_,
    fun id' hhas hgone => ?_⟩
  · change Function.update db.archive id none id' = none
    by_cases hid : id' = id
    · rw [hid, Function.update_self]
    · rw [Function.update_of_ne hid]
      refine h.apart id' ?_
      rwa [← Function.update_of_ne hid _ db.live]
  · by_cases hid : id' = id
    · exact ⟨⟨archived.restored, true⟩, hid ▸ hlive', rfl⟩
    · obtain ⟨row, hrow, hheld⟩ := h.held id' ((List.mem_cons.1 hid').resolve_left hid)
      exact ⟨row, (Function.update_of_ne hid ..).trans hrow, hheld⟩
  · change Function.update db.archive id none id' = some copy at hcopy
    by_cases hid : id' = id
    · rw [hid, Function.update_self] at hcopy
      exact nomatch hcopy
    · rw [Function.update_of_ne hid] at hcopy
      exact .inl hcopy
  · refine absurd ?_ hgone
    by_cases hid : id' = id
    · exact .inl (by rw [hid]; exact (congrArg Option.isSome hlive').trans rfl)
    · refine hhas.imp (fun hrow => ?_) fun hrow => ?_ <;>
        exact (congrArg Option.isSome (Function.update_of_ne hid ..)).trans hrow

/-- A row that is live is written, which leaves its mark. -/
lemma Sound.savePayment {before : Option PaymentRow} {row : PaymentRow}
    (hcurrent : (savePayment id before row).Current seen db) :
    db.Preserves (savePayment id before row) := by
  obtain ⟨change, hchange, happly⟩ : ∃ change : LiveRow → LiveRow,
      (∀ old, (change old).legalHold = old.legalHold) ∧
        (RetentionCmd.savePayment id before row).apply db =
          { db with live := Function.update db.live id ((db.live id).map change) } := by
    cases before with
    | some before =>
      refine ⟨_, fun old => ?_, rfl⟩
      split_ifs <;> rfl
    | none =>
      obtain ⟨old, hold⟩ := Option.isSome_iff_exists.1 hcurrent
      exact ⟨fun old => ⟨row, old.legalHold⟩, fun _ => rfl, by rw [RetentionCmd.apply, hold]; rfl⟩
  have hsome := isSome_update_map db.live id change
  unfold Preserves
  rw [happly]
  refine ⟨⟨fun id' hlive => h.apart id' (hsome id' ▸ hlive), fun id' hid' => ?_⟩,
    .of_has rfl fun id' hlive => (hsome id').symm ▸ hlive⟩
  obtain ⟨old, hold, hheld⟩ := h.held id' hid'
  dsimp only
  by_cases hid : id' = id
  · subst hid
    exact ⟨change old, by rw [Function.update_self, hold]; rfl, (hchange old).trans hheld⟩
  · exact ⟨old, by rw [Function.update_of_ne hid]; exact hold, hheld⟩

/-- **Every statement that finds the payments as they were selected** keeps the tables sound. -/
lemma Sound.apply {c : RetentionCmd} (hselected : c.Selected seen) (hcurrent : c.Current seen db) :
    db.Preserves c := by
  cases c with
  | deleteMoved copies => exact h.deleteMoved hselected hcurrent
  | deleteArchived ids => exact h.deleteArchived hselected hcurrent
  | updateHold id legalHold => exact h.updateHold hcurrent
  | deleteRestored id copy => exact h.deleteRestored hselected hcurrent
  | savePayment id before row => exact h.savePayment hcurrent
  | openDispute id | closeDispute id => exact ⟨⟨h.apart, h.held⟩, .of_has rfl fun _ hlive => hlive⟩
  | _ => exact ⟨h, .of_has rfl fun _ hlive => hlive⟩

end statements

end RetentionDb

/-- Every call selects the payments it acts on. -/
lemma RetentionCall.sat_program (call : RetentionCall) :
    Only RetentionCmd.Selected none call.program := by
  cases call with
  | archivePayments run =>
    refine ⟨trivial, fun db => ?_⟩
    dsimp only
    split_ifs
    · trivial
    · exact ⟨⟨db, rfl, fun id copy h => RetentionDb.lookup_copies h⟩, fun _ => trivial⟩
  | runDeletion run =>
    refine ⟨trivial, fun db => ?_⟩
    dsimp only
    split_ifs
    · trivial
    · cases hbackup : run.backup with
      | error e => trivial
      | ok _ =>
        refine ⟨⟨db, rfl, fun id hid => ?_⟩, fun _ => trivial⟩
        obtain ⟨archived, -, hold⟩ := (Option.any_eq_true _ _).1 (List.mem_filter.1 hid).2
        simpa using (Bool.and_eq_true_iff.1 hold).2
  | placeHold id =>
    refine ⟨trivial, fun db => ?_⟩
    dsimp only
    split_ifs
    · exact ⟨trivial, fun _ => trivial⟩
    · refine ⟨trivial, fun db => ?_⟩
      dsimp only
      split_ifs
      · refine ⟨trivial, fun db => ⟨⟨db, rfl, rfl⟩, fun _ => ?_⟩⟩
        dsimp only
        split_ifs <;> trivial
      · trivial
  | releaseHold id =>
    refine ⟨trivial, fun db => ?_⟩
    dsimp only
    split_ifs
    · exact ⟨trivial, fun _ => trivial⟩
    · trivial
  | updatePayment id locked change =>
    refine ⟨trivial, fun db => ?_⟩
    dsimp only
    split
    · trivial
    · exact ⟨trivial, fun _ => trivial⟩
  | openDispute id | closeDispute id => exact ⟨trivial, fun _ => trivial⟩

/-- Calls to be run in any interleaving. -/
def retentionPool (db : RetentionDb) (calls : List RetentionCall) :
    Pool RetentionDb RetentionCmd AppError :=
  ⟨db, (calls.map RetentionCall.program).map Proc.start⟩

/-- **Holds and archiving are safe**, in every interleaving of calls in which each statement that
acts by id finds the payments as they were selected: a payment that `placeHold` has returned for and
that has not been released is live, with the mark, and not in the archive; what a statement archives
is the live row as last committed; and no statement deletes a payment for good that has an open
dispute or a hold. -/
theorem retention_safe (db : RetentionDb) (hdb : db.Sound) (calls : List RetentionCall)
    (schedule : List Nat)
    (hcurrent : ∀ e ∈ ((retentionPool db calls).exec schedule).1, e.cmd.Current e.seen e.pre) :
    (∀ id ∈ ((retentionPool db calls).exec schedule).2.state.held,
      (∃ row, ((retentionPool db calls).exec schedule).2.state.live id = some row ∧
        row.legalHold = true) ∧
      ((retentionPool db calls).exec schedule).2.state.archive id = none) ∧
    ∀ e ∈ ((retentionPool db calls).exec schedule).1, e.pre.Keeps e.post := by
  have hsat (p : Retention) (hp : p ∈ calls.map RetentionCall.program) :
      Only RetentionCmd.Selected none p := by
    obtain ⟨call, -, rfl⟩ := List.mem_map.1 hp
    exact call.sat_program
  have hstart : Pool.Sound RetentionDb.Sound (fun _ _ => True) RetentionCmd.Selected
      (retentionPool db calls) := Pool.sound_start hdb hsat
  have hstep (seen : Option RetentionDb) (c : RetentionCmd) (s : RetentionDb) (hs : s.Sound)
      (_ : Pool.Remembers RetentionDb.Sound (fun _ _ => True) seen s) (hselected : c.Selected seen)
      (hc : c.Current seen s) : RetentionDb.Sound (Commands.apply c s) ∧ True :=
    ⟨(hs.apply hselected hc).1, trivial⟩
  obtain ⟨hevents, hend, -⟩ := Pool.exec_sound (fun seen c s => c.Current seen s)
    (fun _ => trivial) (fun _ _ _ _ _ => trivial) hstep hstart schedule hcurrent
  refine ⟨fun id hid => ?_, fun e he => ?_⟩
  · obtain ⟨row, hrow, hheld⟩ := hend.state.held id hid
    exact ⟨⟨row, hrow, hheld⟩, hend.state.apart id (by rw [hrow]; rfl)⟩
  · have hsound := (hevents e he).1
    rw [hsound.post_eq]
    exact (hsound.pre.apply hsound.guarantee (hcurrent e he)).2

namespace Sample

/-- A payment that can be archived, and one that can be deleted. -/
def retained : RetentionDb where
  ids := ["pay-1", "pay-2"]
  live id := if id = "pay-1" then some { oldPayment none with } else none
  archive id := if id = "pay-2" then some (oldPayment none).archived else none

/-- A run after ten years. -/
def tenYears : RetentionRun := { now := 10 * 365 * 24 * 60 * 60 * 1000 }

/-- What a refund and a dispute make of the row. -/
def turned (status : PaymentStatus) (row : PaymentRow) : PaymentRow := { row with status }

/-- Both payments are put on hold before the jobs run, and one is disputed meanwhile. -/
def heldBoth : List RetentionCall :=
  [.placeHold "pay-1", .archivePayments tenYears, .placeHold "pay-2", .runDeletion tenYears,
    .updatePayment "pay-1" false (turned .DISPUTED)]

/-- What becomes of a payment: whether it is live with or without a hold, the status of its archived
row, and whether it is held. -/
def fate (calls : List RetentionCall) (schedule : List Nat) (id : String) :
    Option Bool × Option PaymentStatus × Bool :=
  let db := ((retentionPool retained calls).exec schedule).2.state
  ((db.live id).map LiveRow.legalHold, (db.archive id).map ArchivedPayment.status,
    db.held.contains id)

end Sample

open Sample

/-- Both stay live, with the mark. -/
theorem retention_safe_held :
    fate heldBoth [0, 0, 1, 4, 2, 2, 4, 2, 2, 3] "pay-2" = (some true, none, true) ∧
      ∃ row, ((retentionPool retained heldBoth).exec [0, 0, 1, 4, 2, 2, 4, 2, 2, 3]).2.state.live
        "pay-2" = some row ∧ row.legalHold = true := by
  have hsound : retained.Sound := by
    refine ⟨fun id hlive => ?_, nofun⟩
    dsimp only [retained] at hlive ⊢
    by_cases hid : id = "pay-1"
    · rw [hid, if_neg (by decide)]
    · rw [if_neg hid] at hlive
      exact nomatch hlive
  exact ⟨by decide +kernel, ((retention_safe retained hsound heldBoth
    [0, 0, 1, 4, 2, 2, 4, 2, 2, 3] (by decide +kernel)).1 "pay-2" (by decide +kernel)).1⟩

/-- The archiving job moves a payment between the two statements of a hold; a hold restores nothing
after the deletion; a refund between the two statements of the archiving job is lost; a dispute that
read its payment before the archiving job inserts it again, beside the archived row; and a payment
is deleted whose dispute was opened between the two statements of the deletion. -/
theorem retention_races :
    fate [.placeHold "pay-1", .archivePayments tenYears] [0, 1, 1, 0] "pay-1" =
        (none, some .SUCCEEDED, true) ∧
      fate [.placeHold "pay-2", .runDeletion tenYears] [0, 0, 1, 1, 0, 0] "pay-2" =
        (none, none, true) ∧
      fate [.archivePayments tenYears, .updatePayment "pay-1" true (turned .REFUNDED)] [0, 1, 1, 0]
        "pay-1" = (none, some .SUCCEEDED, false) ∧
      fate [.archivePayments tenYears, .updatePayment "pay-1" false (turned .DISPUTED)] [1, 0, 0, 1]
        "pay-1" = (some false, some .SUCCEEDED, false) ∧
      fate [.runDeletion tenYears, .openDispute "pay-2"] [0, 1, 0] "pay-2" = (none, none, false) ∧
      "pay-2" ∈ ((retentionPool retained [.runDeletion tenYears, .openDispute "pay-2"]).exec
        [0, 1, 0]).2.state.openDisputes := by
  decide +kernel

end OmniSwitch
