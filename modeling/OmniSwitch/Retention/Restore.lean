import OmniSwitch.DisputeNotifications

/-!
# A payment that comes back from the archive

`legal-hold.service.ts` `placeHold`: a hold on an archived payment moves it back to the live table.
The job that archives and the hold that restores copy the same list of columns, which is shorter
than the table's.

Main results:

* `archiving_lossless`: what comes back, if the columns that are not copied have their defaults;
* `delegation_forgotten`: a column that has not.
-/

namespace OmniSwitch

open Lib

/-- The columns that are not copied get their defaults.

Source: `LegalHoldService.placeHold`; `PaymentEntity` -/
def ArchivedPayment.restored (archived : ArchivedPayment) : PaymentRow where
  id := archived.id
  merchantId := archived.merchantId
  amountMinorUnits := archived.amountMinorUnits
  currencyCode := archived.currencyCode
  status := archived.status
  idempotencyKey := archived.idempotencyKey
  pspProvider := archived.pspProvider
  pspTransactionId := archived.pspTransactionId
  pspRawResponse := archived.pspRawResponse
  riskScore := archived.riskScore
  threeDSAuthenticated := archived.threeDSAuthenticated
  refunds := archived.refunds
  captures := archived.captures
  failureReason := archived.failureReason
  failureCode := archived.failureCode
  binInfo := archived.binInfo
  settlementConversion := archived.settlementConversion
  splits := archived.splits
  createdAt := archived.createdAt

/-- The live row stays where it is; an archived one is moved back.  The column `legal_hold` is the
argument `legalHold` of a run of the job. -/
def World.placeHold (world : World) (paymentId : String) : Except AppError World :=
  match world.live.payments.get paymentId, world.archive.find? (·.id = paymentId) with
  | some _, _ => .ok world
  | none, none => .error (.http 404 s!"Payment {paymentId} not found" "PAYMENT_NOT_FOUND")
  | none, some archived => .ok
    { live := { world.live with payments := world.live.payments.put archived.restored }
      archive := world.archive.filter (·.id ≠ paymentId) }

/-- The columns that are not copied have their defaults. -/
def PaymentRow.Copied (row : PaymentRow) : Prop :=
  row.pspRiskSignal = none ∧ row.taxRecord = none ∧ row.ambiguousResolvedBy = none ∧
    row.ambiguousResolvedReason = none ∧ row.ambiguousResolvedAt = none ∧
    row.ambiguousAutoRetryCount = 0 ∧ row.delegationId = none ∧ row.initiatedBy = .human ∧
    row.avsResult = none ∧ row.cvvResult = none ∧ row.interchangeQualification = none ∧
    row.scaExemptionRequested = none ∧ row.scaExemptionReason = none ∧
    row.scaExemptionIndicator = none ∧ row.networkTokenized = none ∧ row.paymentMethodType = none

/-- A row comes back exactly if its other columns have their defaults. -/
lemma restored_archived_eq (row : PaymentRow) : row.archived.restored = row ↔ row.Copied := by
  cases row
  simp only [PaymentRow.archived, ArchivedPayment.restored, PaymentRow.Copied, PaymentRow.mk.injEq]
  grind

/-- The same run, with a hold on the payment. -/
def ArchivingRun.holding (run : ArchivingRun) (paymentId : String) : ArchivingRun :=
  { run with legalHold := fun id => id = paymentId || run.legalHold id }

namespace World

variable (run : ArchivingRun) (world : World)

/-- The payments that the run moves. -/
def moved : List PaymentRow :=
  world.live.payments.rows.filter fun row =>
    run.eligible world.live row && !(world.archive.any (·.id = row.id))

/-- They are moved. -/
def move (rows : List PaymentRow) : World :=
  { live := { world.live with
      payments := world.live.payments.filter fun row => !(rows.any (·.id = row.id)) }
    archive := world.archive ++ rows.map PaymentRow.archived }

variable {run world} {row : PaymentRow}

/-- The rows that are left. -/
lemma mem_move {rows : List PaymentRow} : row ∈ (world.move rows).live.payments.rows ↔
    row ∈ world.live.payments.rows ∧ ∀ r ∈ rows, r.id ≠ row.id := by
  refine List.mem_filter.trans (and_congr_right fun _ => ?_)
  simp

/-- A hold keeps a payment from being moved. -/
lemma moved_holding (id : String) :
    world.moved (run.holding id) = (world.moved run).filter (·.id ≠ id) := by
  unfold moved
  rw [List.filter_filter]
  refine List.filter_congr fun row _ => ?_
  unfold ArchivingRun.eligible ArchivingRun.holding
  by_cases hid : row.id = id <;> simp [hid]

lemma eq_of_mem_moved (hrow : row ∈ world.live.payments.rows) {row' : PaymentRow}
    (hmoved : row' ∈ world.moved run) (hid : row'.id = row.id) : row' = row := by
  have hfound := Table.get_of_mem (List.mem_of_mem_filter hmoved)
  rw [hid, Table.get_of_mem hrow] at hfound
  exact (Option.some.inj hfound).symm

/-- A payment that is not moved stays. -/
lemma archivePayments_of_not_mem (hrow : row ∈ world.live.payments.rows)
    (hleft : row ∉ world.moved run) :
    archivePayments run world = archivePayments (run.holding row.id) world ∧
      (archivePayments run world).live.payments.get row.id = some row := by
  have hne (row' : PaymentRow) (hrow' : row' ∈ world.moved run) : row'.id ≠ row.id :=
    fun hid => hleft (eq_of_mem_moved hrow hrow' hid ▸ hrow')
  constructor
  · change world.move (world.moved run) = world.move (world.moved (run.holding row.id))
    rw [moved_holding, List.filter_eq_self.2 fun row' hrow' => decide_eq_true (hne row' hrow')]
  · exact Table.get_of_mem (mem_move.2 ⟨hrow, hne⟩)

/-- One that is moved comes back. -/
lemma placeHold_of_mem (hrow : row ∈ world.live.payments.rows) (hcopied : row.Copied)
    (hmoved : row ∈ world.moved run) :
    ∃ restored, (archivePayments run world).placeHold row.id = .ok restored ∧
      restored.live.payments.get row.id = some row ∧
      restored.live.payments.rows.Perm
        (archivePayments (run.holding row.id) world).live.payments.rows ∧
      restored = { archivePayments (run.holding row.id) world with
        live := { world.live with payments := restored.live.payments } } := by
  have hnew : world.archive.find? (·.id = row.id) = none := by
    have h := (Bool.and_eq_true_iff.1 (List.mem_filter.1 hmoved).2).2
    rw [Bool.not_eq_true', List.any_eq_false] at h
    exact List.find?_eq_none.2 h
  have hgone : row.id ∉ (archivePayments run world).live.payments.rows.map PaymentRow.id := by
    intro h
    obtain ⟨row', hrow', hid⟩ := List.mem_map.1 h
    exact (mem_move.1 hrow').2 row hmoved hid.symm
  have hfind : (archivePayments run world).archive.find? (·.id = row.id) = some row.archived := by
    change (world.archive ++ (world.moved run).map PaymentRow.archived).find? _ = _
    rw [List.find?_append, hnew, Option.none_or, List.find?_map]
    cases hfound : (world.moved run).find?
        ((fun a => decide (a.id = row.id)) ∘ PaymentRow.archived) with
    | none => exact absurd (decide_eq_true rfl) (List.find?_eq_none.1 hfound row hmoved)
    | some row' =>
      have hid := List.find?_some hfound
      rw [eq_of_mem_moved hrow (List.mem_of_find?_eq_some hfound) (of_decide_eq_true hid)]
      rfl
  have hkept : (archivePayments (run.holding row.id) world) =
      world.move ((world.moved run).filter (·.id ≠ row.id)) :=
    congrArg world.move (moved_holding row.id)
  have hback := (restored_archived_eq row).2 hcopied
  refine ⟨{ live := { world.live with
              payments := (archivePayments run world).live.payments.put row }
            archive := (archivePayments run world).archive.filter (·.id ≠ row.id) },
    ?_, Table.get_put_self _ row, ?_, ?_⟩
  · unfold placeHold
    rw [Table.get_eq_none_iff.2 hgone, hfind]
    dsimp only
    rw [hback]
    rfl
  · refine (List.perm_ext_iff_of_nodup (Table.keys_nodup _).of_map
      (Table.keys_nodup _).of_map).2 fun row' => ?_
    change row' ∈ (Table.put _ row).rows ↔ _
    rw [hkept, Table.rows_put_of_not_mem _ hgone, List.mem_append, List.mem_singleton]
    change row' ∈ (world.move (world.moved run)).live.payments.rows ∨ _ ↔ _
    rw [mem_move, mem_move]
    constructor
    · rintro (⟨hrow', hstays⟩ | rfl)
      · exact ⟨hrow', fun r hr => hstays r (List.mem_of_mem_filter hr)⟩
      · exact ⟨hrow, fun r hr => of_decide_eq_true (List.mem_filter.1 hr).2⟩
    · rintro ⟨hrow', hstays⟩
      by_cases hid : row'.id = row.id
      · exact .inr (Option.some.inj
          ((Table.get_of_mem hrow').symm.trans (hid ▸ Table.get_of_mem hrow)))
      · refine .inl ⟨hrow', fun r hr hsame => ?_⟩
        refine hstays r (List.mem_filter.2 ⟨hr, decide_eq_true fun h => hid ?_⟩) hsame
        exact hsame.symm.trans h
  · rw [hkept]
    change World.mk _ (List.filter _ (world.archive ++ (world.moved run).map PaymentRow.archived)) =
      World.mk _ (world.archive ++ List.map PaymentRow.archived _)
    have hothers (a : ArchivedPayment) (ha : a ∈ world.archive) :
        decide (a.id ≠ row.id) = true := by
      simpa using List.find?_eq_none.1 hnew a ha
    rw [List.filter_append, List.filter_map, List.filter_eq_self.2 hothers]
    rfl

end World

/-- **Archiving loses nothing** of a payment whose other columns have their defaults: after any run
of the job and a hold on the payment, the live table has the row it had, and everything is as if the
payment had been on hold during the run, up to the order of the rows. -/
theorem archiving_lossless (run : ArchivingRun) (world : World) (row : PaymentRow)
    (hrow : row ∈ world.live.payments.rows) (hcopied : row.Copied) :
    ∃ restored, (archivePayments run world).placeHold row.id = .ok restored ∧
      restored.live.payments.get row.id = some row ∧
      restored.live.payments.rows.Perm
        (archivePayments (run.holding row.id) world).live.payments.rows ∧
      restored = { archivePayments (run.holding row.id) world with
        live := { world.live with payments := restored.live.payments } } := by
  by_cases hmoved : row ∈ world.moved run
  · exact World.placeHold_of_mem hrow hcopied hmoved
  · obtain ⟨hsame, hget⟩ := World.archivePayments_of_not_mem hrow hmoved
    refine ⟨archivePayments run world, ?_, hget, hsame ▸ List.Perm.refl _, ?_⟩
    · unfold World.placeHold
      rw [hget]
    · rw [← hsame]
      rfl

namespace Sample

/-- An old payment of a delegation, or of none, among others. -/
def oldPayment (delegationId : Option String) : PaymentRow :=
  { id := "pay-1", merchantId := "m1", amountMinorUnits := 1000, currencyCode := "USD"
    status := .SUCCEEDED, idempotencyKey := "k1", createdAt := 0, delegationId }

/-- Two old payments. -/
def oldWorld (delegationId : Option String) : World :=
  let other := { oldPayment none with id := "pay-2", idempotencyKey := "k2" }
  ⟨{ Db.empty with payments := (Table.empty.put (oldPayment delegationId)).put other }, []⟩

/-- A run in the second year. -/
def secondYear : ArchivingRun := { now := 400 * 24 * 60 * 60 * 1000 }

end Sample

open Sample

/-- A payment without a delegation. -/
theorem archiving_lossless_plain :
    (archivePayments secondYear (oldWorld none)).archive.length = 2 ∧
      ∃ restored, (archivePayments secondYear (oldWorld none)).placeHold "pay-1" = .ok restored ∧
        restored.live.payments.get "pay-1" = some (oldPayment none) := by
  obtain ⟨restored, hrestored, hget, -⟩ := archiving_lossless secondYear (oldWorld none)
    (oldPayment none) List.mem_cons_self ⟨rfl, rfl, rfl, rfl, rfl, rfl, rfl, rfl, rfl, rfl, rfl,
      rfl, rfl, rfl, rfl, rfl⟩
  exact ⟨by decide +kernel, restored, hrestored, hget⟩

/-- A payment that was made for a delegation comes back without it. -/
theorem delegation_forgotten :
    ((oldWorld (some "d1")).live.payments.get "pay-1").map PaymentRow.delegationId =
        some (some "d1") ∧
      ((archivePayments secondYear (oldWorld (some "d1"))).placeHold "pay-1").toOption.map
        (fun world => (world.live.payments.get "pay-1").map PaymentRow.delegationId) =
        some (some none) := by
  decide +kernel

end OmniSwitch
