import OmniSwitch.Calendar
import OmniSwitch.Lib.History
import OmniSwitch.OutboxRelay

/-!
# Statements and tax forms

`merchant-statement.service.ts`, `tax-form-1099k.service.ts` and `run-archiving-job.ts`
`archiveLedgerOutbox`.  The figures of a period are computed from the events of the live outbox; the
job moves published events out of it once they are old enough.

Main results:

* `figures_complete`: the figures are those of all events, if none of them is archived;
* `january_forgotten`: one that is.
-/

namespace OmniSwitch

open Lib

/-! ### The breakdown of a period -/

/-- The figures of one currency, as they are summed up. -/
structure MutableBreakdown where
  currencyCode : String
  chargeCount : Nat := 0
  grossVolumeMinorUnits : Nat := 0
  platformFeeMinorUnits : Nat := 0
  providerFeeMinorUnits : Nat := 0
  refundedAmountMinorUnits : Nat := 0
  chargebackCount : Nat := 0
  chargebackAmountMinorUnits : Nat := 0
  marketplaceSplitProceedsMinorUnits : Int := 0
  netSettlementMinorUnits : Int := 0

/-- Source: `StatementCurrencyBreakdown` -/
structure StatementCurrencyBreakdown where
  currencyCode : String
  chargeCount : Nat
  grossVolume : Money
  platformFee : Money
  providerFee : Money
  refundedAmount : Money
  chargebackCount : Nat
  chargebackAmount : Money
  marketplaceSplitProceedsMinorUnits : Int
  netSettlementMinorUnits : Int

namespace MerchantStatementService

/-- Change the figures of a currency, which stand in the order of the currencies' first appearance.

Source: `MerchantStatementService.computeBreakdowns` (`getBreakdown`) -/
def tally (byCurrency : List MutableBreakdown) (currency : Currency)
    (change : MutableBreakdown → MutableBreakdown) : List MutableBreakdown :=
  if byCurrency.any (·.currencyCode = currency.code) then
    byCurrency.map fun b => if b.currencyCode = currency.code then change b else b
  else byCurrency ++ [change { currencyCode := currency.code }]

/-- What an entry does to the balance of its account. -/
def signed (entry : LedgerEntry) : Int := -entry.entryType.sign * entry.amount.amountMinorUnits

/-- One event.

Source: `MerchantStatementService.computeBreakdowns` -/
def tallyEvent (merchantId : String) (byCurrency : List MutableBreakdown)
    (event : LedgerOutboxEvent) : List MutableBreakdown :=
  let merchantEntries := event.entries.filter fun e =>
    e.accountType = .MERCHANT ∧ e.accountId = merchantId
  let byCurrency := merchantEntries.foldl (fun acc e => tally acc e.amount.currency fun b =>
    { b with netSettlementMinorUnits := b.netSettlementMinorUnits + signed e }) byCurrency
  let isSplit := (event.entries.filter fun e => e.accountType = .MERCHANT).length > 1
  let amountOf (accountType : AccountType) : Nat :=
    ((event.entries.find? (·.accountType = accountType)).map (·.amount.amountMinorUnits)).getD 0
  match event.eventType with
  | .PAYMENT_CHARGED | .BNPL_CAPTURED =>
    if isSplit then
      merchantEntries.foldl (fun acc e => tally acc e.amount.currency fun b =>
        { b with marketplaceSplitProceedsMinorUnits :=
            b.marketplaceSplitProceedsMinorUnits + signed e }) byCurrency
    else
      match merchantEntries.find? (·.entryType = .CREDIT) with
      | none => byCurrency
      | some credit => tally byCurrency credit.amount.currency fun b =>
        { b with
          chargeCount := b.chargeCount + 1
          grossVolumeMinorUnits := b.grossVolumeMinorUnits + credit.amount.amountMinorUnits +
            amountOf .FEE + amountOf .BNPL_PROVIDER_FEE
          platformFeeMinorUnits := b.platformFeeMinorUnits + amountOf .FEE
          providerFeeMinorUnits := b.providerFeeMinorUnits + amountOf .BNPL_PROVIDER_FEE }
  | .PAYMENT_REFUNDED | .BNPL_REFUNDED =>
    (merchantEntries.filter (·.entryType = .DEBIT)).foldl (fun acc e =>
      tally acc e.amount.currency fun b =>
        { b with refundedAmountMinorUnits :=
            b.refundedAmountMinorUnits + e.amount.amountMinorUnits }) byCurrency
  | _ => byCurrency

/-- Source: `MerchantStatementService.computeBreakdowns` -/
def close (b : MutableBreakdown) : Except AppError StatementCurrencyBreakdown := do
  let money (minorUnits : Nat) := Money.fromMinorUnits minorUnits b.currencyCode
  pure {
    currencyCode := b.currencyCode
    chargeCount := b.chargeCount
    grossVolume := ← money b.grossVolumeMinorUnits
    platformFee := ← money b.platformFeeMinorUnits
    providerFee := ← money b.providerFeeMinorUnits
    refundedAmount := ← money b.refundedAmountMinorUnits
    chargebackCount := b.chargebackCount
    chargebackAmount := ← money b.chargebackAmountMinorUnits
    marketplaceSplitProceedsMinorUnits := b.marketplaceSplitProceedsMinorUnits
    netSettlementMinorUnits := b.netSettlementMinorUnits }

/-- Source: `LedgerOutboxTypeOrmRepository.findCreatedBetween` -/
def findCreatedBetween (ledgerOutbox : List LedgerOutboxEvent) (since stop : Date) :
    List LedgerOutboxEvent :=
  (Window.during (·.createdAt) since stop ledgerOutbox).insertionSort
    fun a b => a.createdAt ≤ b.createdAt

/-- Source: `MerchantStatementService.computeBreakdowns`;
`DisputeTypeOrmRepository.findByMerchantStatusInRange` -/
def computeBreakdowns (ledgerOutbox : List LedgerOutboxEvent) (disputes : List Dispute)
    (merchantId : String) (periodStart periodEnd : Date) :
    Except AppError (List StatementCurrencyBreakdown) :=
  if periodEnd ≤ periodStart then
    throw (.http 400 "periodEnd must be after periodStart" "INVALID_PERIOD_RANGE")
  else
    let events := findCreatedBetween ledgerOutbox periodStart periodEnd
    let lostDisputes := (Window.during (·.createdAt) periodStart periodEnd disputes).filter fun d =>
      d.merchantId = merchantId ∧ d.status = .LOST
    let byCurrency := lostDisputes.foldl (fun acc d => tally acc d.amount.currency fun b =>
      { b with
        chargebackCount := b.chargebackCount + 1
        chargebackAmountMinorUnits := b.chargebackAmountMinorUnits + d.amount.amountMinorUnits })
      (events.foldl (tallyEvent merchantId) [])
    byCurrency.mapM close

end MerchantStatementService

/-! ### The form of a year -/

/-- The id and the time it is generated at are left out. -/
structure MerchantTaxForm1099K where
  merchantId : String
  taxYear : Nat
  currencyCode : String
  grossAmount : Money
  transactionCount : Nat
  monthlyAmounts : List Money
  thresholdApplied : Money
  reportable : Bool

namespace TaxForm1099KService

open MerchantStatementService

/-- The start of a month of a year, from 1970 on; January is 0. -/
def monthStart (taxYear month : Nat) : Date := Date.make taxYear month 1 0

/-- Source: `TaxForm1099KService.computeForMerchant` (`grossWithSplits`) -/
def grossWithSplits (b : StatementCurrencyBreakdown) : Nat :=
  b.grossVolume.amountMinorUnits + b.marketplaceSplitProceedsMinorUnits.toNat

/-- The amount of one month, in the currency of the form.

Source: `TaxForm1099KService.computeForMerchant` -/
def monthlyAmount (ledgerOutbox : List LedgerOutboxEvent) (disputes : List Dispute)
    (merchantId : String) (taxYear : Nat) (currencyCode : String) (month : Nat) :
    Except AppError Money := do
  let breakdowns ← computeBreakdowns ledgerOutbox disputes merchantId (monthStart taxYear month)
    (monthStart taxYear (month + 1))
  match breakdowns.find? (·.currencyCode = currencyCode) with
  | some b => Money.fromMinorUnits (grossWithSplits b) currencyCode
  | none => Money.zero currencyCode

/-- Source: `TaxForm1099KService.computeForMerchant` -/
def computeForMerchant (thresholdUsd : Rat) (ledgerOutbox : List LedgerOutboxEvent)
    (disputes : List Dispute) (merchantId : String) (taxYear : Nat) :
    Except AppError (Option MerchantTaxForm1099K) := do
  let breakdowns ← computeBreakdowns ledgerOutbox disputes merchantId (monthStart taxYear 0)
    (monthStart taxYear 12)
  let largestFirst := breakdowns.insertionSort fun a b =>
    grossWithSplits b < grossWithSplits a ∨
      grossWithSplits b = grossWithSplits a ∧ a.currencyCode ≤ b.currencyCode
  match largestFirst with
  | [] => pure none
  | dominant :: _ =>
    let currencyCode := dominant.currencyCode
    let grossAmount ← Money.fromMinorUnits (grossWithSplits dominant) currencyCode
    let monthlyAmounts ← (List.range 12).mapM
      (monthlyAmount ledgerOutbox disputes merchantId taxYear currencyCode)
    let thresholdApplied ← Money.of thresholdUsd currencyCode
    let below ← grossAmount.isLessThan thresholdApplied
    pure (some { merchantId, taxYear, currencyCode, grossAmount, monthlyAmounts, thresholdApplied
                 transactionCount := dominant.chargeCount, reportable := !below })

end TaxForm1099KService

/-! ### The outbox and its archive -/

/-- A row of the outbox.

Source: `LedgerOutboxEntity` -/
structure OutboxRecord where
  event : LedgerOutboxEvent
  status : OutboxStatus := .PENDING

/-- The id of the event. -/
def OutboxRecord.id (record : OutboxRecord) : String := record.event.id

/-- The outbox, the archive, and every event that was ever saved. -/
structure OutboxBooks where
  live : Table OutboxRecord.id := Table.empty
  archive : List OutboxRecord := []
  saved : List LedgerOutboxEvent := []

/-- The events of the live outbox. -/
def OutboxBooks.ledgerOutbox (books : OutboxBooks) : List LedgerOutboxEvent :=
  books.live.rows.map OutboxRecord.event

/-- An event is saved, an event is marked, or the job runs at a time. -/
inductive OutboxStep where
  | save (event : LedgerOutboxEvent)
  | mark (eventId : String) (status : OutboxStatus)
  | archiveLedgerOutbox (now : Date)

namespace OutboxStep

/-- Source: `run-archiving-job.ts` `ARCHIVE_THRESHOLD_DAYS` -/
def archiveThresholdDays : Nat := 180

/-- Source: `run-archiving-job.ts` `archiveLedgerOutbox` -/
def eligible (now : Date) (record : OutboxRecord) : Bool :=
  record.event.createdAt + archiveThresholdDays * msPerDay < now && record.status = .PUBLISHED

/-- Source: `run-archiving-job.ts` `archiveLedgerOutbox`; `LedgerOutboxTypeOrmRepository.save` -/
def apply : OutboxStep → OutboxBooks → OutboxBooks
  | save event, books =>
    if (books.live.get event.id).isSome then books
    else { books with live := books.live.put ⟨event, .PENDING⟩, saved := books.saved ++ [event] }
  | mark eventId status, books =>
    { books with live := books.live.modify eventId (fun r => { r with status }) fun _ h => h }
  | archiveLedgerOutbox now, books =>
    let inserted := books.live.rows.filter fun r =>
      eligible now r && !(books.archive.any (·.id = r.id))
    { books with
      live := books.live.filter fun r => !(inserted.any (·.id = r.id))
      archive := books.archive ++ inserted }

/-- A run of the job finds no event of the period that it moves. -/
def Spares (periodStart periodEnd : Date) : OutboxStep → OutboxBooks → Prop
  | archiveLedgerOutbox now, books => ∀ record ∈ books.live.rows, record.status = .PUBLISHED →
      periodStart ≤ record.event.createdAt → record.event.createdAt < periodEnd →
      now ≤ record.event.createdAt + archiveThresholdDays * msPerDay
  | _, _ => True

end OutboxStep

/-- The outbox has the events of the period that were ever saved. -/
def OutboxBooks.Complete (periodStart periodEnd : Date) (books : OutboxBooks) : Prop :=
  Window.during (·.createdAt) periodStart periodEnd books.ledgerOutbox =
    Window.during (·.createdAt) periodStart periodEnd books.saved

namespace OutboxBooks

variable {periodStart periodEnd : Date} {books : OutboxBooks}

/-- A mark leaves the events. -/
lemma ledgerOutbox_mark (eventId : String) (status : OutboxStatus) :
    ((OutboxStep.mark eventId status).apply books).ledgerOutbox = books.ledgerOutbox := by
  change (books.live.rows.map fun r => if r.id = eventId then { r with status } else r).map _ = _
  rw [List.map_map]
  refine List.map_congr_left fun r _ => ?_
  dsimp only [Function.comp_apply]
  split_ifs <;> rfl

/-- A run that spares a period leaves its events. -/
lemma during_archiveLedgerOutbox {now : Date}
    (hspares : (OutboxStep.archiveLedgerOutbox now).Spares periodStart periodEnd books) :
    Window.during (·.createdAt) periodStart periodEnd
        ((OutboxStep.archiveLedgerOutbox now).apply books).ledgerOutbox =
      Window.during (·.createdAt) periodStart periodEnd books.ledgerOutbox := by
  change List.filter _ (List.map _ (List.filter _ _)) = List.filter _ (List.map _ _)
  rw [List.filter_map, List.filter_map, List.filter_filter]
  refine congrArg _ (List.filter_congr fun record hrecord => ?_)
  refine Bool.and_eq_left_iff_imp.2 fun hperiod => ?_
  rw [Bool.not_eq_true', List.any_eq_false]
  intro moved hmoved hid
  obtain ⟨hlive, heligible⟩ := List.mem_filter.1 hmoved
  have hfound := Table.get_of_mem hlive
  rw [of_decide_eq_true hid, Table.get_of_mem hrecord] at hfound
  obtain rfl := Option.some.inj hfound
  obtain ⟨hold, hpublished⟩ := Bool.and_eq_true_iff.1 (Bool.and_eq_true_iff.1 heligible).1
  obtain ⟨hstart, hstop⟩ := of_decide_eq_true hperiod
  exact absurd (hspares record hrecord (of_decide_eq_true hpublished) hstart hstop)
    (of_decide_eq_true hold).not_ge

/-- A step that spares the period keeps it complete. -/
lemma Complete.apply (h : books.Complete periodStart periodEnd) {step : OutboxStep}
    (hspares : step.Spares periodStart periodEnd books) :
    (step.apply books).Complete periodStart periodEnd := by
  unfold Complete at h ⊢
  cases step with
  | save event =>
    rw [OutboxStep.apply]
    split_ifs with hsaved
    · exact h
    · have hnew : event.id ∉ books.live.rows.map OutboxRecord.id :=
        Table.get_eq_none_iff.1 (by simpa using hsaved)
      have hrows : (books.live.put ⟨event, .PENDING⟩).rows =
          books.live.rows ++ [⟨event, .PENDING⟩] :=
        Table.rows_put_of_not_mem _ hnew
      unfold Window.during ledgerOutbox at h ⊢
      rw [hrows, List.map_append, List.filter_append, h, List.filter_append]
      rfl
  | mark eventId status => rwa [ledgerOutbox_mark]
  | archiveLedgerOutbox now => exact (during_archiveLedgerOutbox hspares).trans h

/-- The figures of a complete period are those of all events. -/
lemma Complete.computeBreakdowns (h : books.Complete periodStart periodEnd) {since stop : Date}
    (hsince : periodStart ≤ since) (hstop : stop ≤ periodEnd) (disputes : List Dispute)
    (merchantId : String) :
    MerchantStatementService.computeBreakdowns books.ledgerOutbox disputes merchantId since stop =
      MerchantStatementService.computeBreakdowns books.saved disputes merchantId since stop := by
  have hpart (events : List LedgerOutboxEvent) : Window.during (·.createdAt) since stop events =
      Window.during (·.createdAt) since stop
        (Window.during (·.createdAt) periodStart periodEnd events) := by
    unfold Window.during
    rw [List.filter_filter]
    refine List.filter_congr fun event _ => ?_
    grind
  unfold MerchantStatementService.computeBreakdowns MerchantStatementService.findCreatedBetween
  rw [hpart, h, ← hpart]

end OutboxBooks

namespace TaxForm1099KService

lemma monthStart_le {taxYear month month' : Nat} (h : month ≤ month') (hyear : month' ≤ 12) :
    monthStart taxYear month ≤ monthStart taxYear month' := by
  have hnext (m : Nat) (hm : m < 12) : monthStart taxYear m ≤ monthStart taxYear (m + 1) := by
    unfold monthStart Date.make Date.epochDay
    dsimp only
    split_ifs <;>
      · refine Nat.add_le_add_right (Nat.mul_le_mul_right _ ?_) _
        omega
  induction month', h using Nat.le_induction with
  | base => exact le_rfl
  | succ m _ ih => exact (ih (by omega)).trans (hnext m (by omega))

lemma mapM_congr {α : Type} {f g : α → Except AppError Money} {l : List α}
    (h : ∀ a ∈ l, f a = g a) : l.mapM f = l.mapM g := by
  induction l with
  | nil => rfl
  | cons a l ih =>
    rw [List.mapM_cons, List.mapM_cons, h a List.mem_cons_self,
      ih fun b hb => h b (List.mem_cons_of_mem a hb)]

/-- So is the tax form of a complete year. -/
lemma computeForMerchant_complete {books : OutboxBooks} {taxYear : Nat}
    (h : books.Complete (monthStart taxYear 0) (monthStart taxYear 12)) (thresholdUsd : Rat)
    (disputes : List Dispute) (merchantId : String) :
    computeForMerchant thresholdUsd books.ledgerOutbox disputes merchantId taxYear =
      computeForMerchant thresholdUsd books.saved disputes merchantId taxYear := by
  have hmonth (currencyCode : String) (month : Nat) (hmonth : month ∈ List.range 12) :
      monthlyAmount books.ledgerOutbox disputes merchantId taxYear currencyCode month =
        monthlyAmount books.saved disputes merchantId taxYear currencyCode month := by
    have hyear : month + 1 ≤ 12 := List.mem_range.1 hmonth
    unfold monthlyAmount
    rw [h.computeBreakdowns (monthStart_le (Nat.zero_le _) (Nat.le_of_succ_le hyear))
      (monthStart_le hyear le_rfl)]
  have hmonths (currencyCode : String) := mapM_congr (hmonth currencyCode)
  unfold computeForMerchant
  rw [h.computeBreakdowns le_rfl le_rfl]
  simp only [hmonths]

end TaxForm1099KService

open TaxForm1099KService MerchantStatementService in
/-- **The figures of a period are those of all its events**, after every history in which no run of
the job finds a published event of the period that is more than 180 days old: the breakdowns of a
statement, and, if the period is a year, the tax form. -/
theorem figures_complete (history : List OutboxStep) (periodStart periodEnd : Date)
    (hspares : ∀ moment ∈ History.moments OutboxStep.apply {} history,
      moment.1.Spares periodStart periodEnd moment.2)
    (disputes : List Dispute) (merchantId : String) :
    let books := History.after OutboxStep.apply {} history
    computeBreakdowns books.ledgerOutbox disputes merchantId periodStart periodEnd =
        computeBreakdowns books.saved disputes merchantId periodStart periodEnd ∧
      ∀ taxYear thresholdUsd, periodStart = monthStart taxYear 0 →
        periodEnd = monthStart taxYear 12 →
        computeForMerchant thresholdUsd books.ledgerOutbox disputes merchantId taxYear =
          computeForMerchant thresholdUsd books.saved disputes merchantId taxYear := by
  have hstep (step : OutboxStep) (books : OutboxBooks)
      (hbooks : books.Complete periodStart periodEnd)
      (hstep : step.Spares periodStart periodEnd books) :
      (step.apply books).Complete periodStart periodEnd := hbooks.apply hstep
  have hstart : OutboxBooks.Complete periodStart periodEnd {} := rfl
  have hcomplete := History.keeps OutboxStep.apply hstep hstart history hspares
  refine ⟨hcomplete.computeBreakdowns le_rfl le_rfl disputes merchantId, ?_⟩
  intro taxYear thresholdUsd hyear hend
  rw [hyear, hend] at hcomplete
  exact computeForMerchant_complete hcomplete thresholdUsd disputes merchantId

namespace Sample

/-- A charge of a thousand dollars on a day of the year 2025. -/
def chargedOn (day : Nat) : LedgerOutboxEvent where
  id := "e1"
  paymentId := "pay-1"
  eventType := .PAYMENT_CHARGED
  entries := [⟨"psp", .PSP_SETTLEMENT, .DEBIT, ⟨100000, usd⟩⟩,
    ⟨"m1", .MERCHANT, .CREDIT, ⟨98500, usd⟩⟩, ⟨"platform", .FEE, .CREDIT, ⟨1500, usd⟩⟩]
  createdAt := Date.make 2025 0 day 0
  balanced := by decide +kernel

/-- The charge is published, and the job runs on a day of the same year. -/
def yearOf (day archived : Nat) : List OutboxStep :=
  [.save (chargedOn day), .mark "e1" .PUBLISHED, .archiveLedgerOutbox (Date.make 2025 0 archived 0)]

/-- Before it a charge of January 2024, which the job finds more than 180 days old. -/
def twoYears : List OutboxStep :=
  [.save { chargedOn 0 with id := "e0", createdAt := Date.make 2024 0 15 0 },
    .mark "e0" .PUBLISHED] ++ yearOf 200 210

/-- The amount of the form and of its first month, and the number of transactions. -/
def reported (events : List LedgerOutboxEvent) : Option (Option (Nat × Option Nat × Nat)) :=
  (TaxForm1099KService.computeForMerchant 600 events [] "m1" 2025).toOption.map
    (Option.map fun form => (form.grossAmount.amountMinorUnits,
      form.monthlyAmounts.head?.map Money.amountMinorUnits, form.transactionCount))

end Sample

open Sample

/-- The job runs in July 2025.  It moves the charge of January 2024, and the form of 2025 is that of
all events. -/
theorem figures_complete_summer :
    (History.after OutboxStep.apply {} twoYears).ledgerOutbox.map (·.id) = ["e1"] ∧
    (History.after OutboxStep.apply {} twoYears).saved.map (·.id) = ["e0", "e1"] ∧
    reported (History.after OutboxStep.apply {} twoYears).ledgerOutbox =
      reported (History.after OutboxStep.apply {} twoYears).saved := by
  have hspares : ∀ moment ∈ History.moments OutboxStep.apply {} twoYears,
      moment.1.Spares (TaxForm1099KService.monthStart 2025 0)
        (TaxForm1099KService.monthStart 2025 12) moment.2 := by
    simp only [twoYears, yearOf, List.cons_append, List.nil_append, History.moments,
      List.forall_mem_cons]
    refine ⟨trivial, trivial, trivial, trivial, ?_, List.forall_mem_nil _⟩
    intro record hrecord _
    rcases List.mem_pair.1 hrecord with rfl | rfl <;> decide +kernel
  refine ⟨by decide +kernel, by decide +kernel, ?_⟩
  unfold reported
  rw [(figures_complete twoYears _ _ hspares [] "m1").2 2025 600 rfl rfl]

/-- In January 2026 the form of 2025 knows nothing of a charge of January 2025 that the job moved in
August. -/
theorem january_forgotten :
    reported (History.after OutboxStep.apply {} (yearOf 15 220)).ledgerOutbox = some none ∧
      reported (History.after OutboxStep.apply {} (yearOf 15 220)).saved =
        some (some (100000, some 100000, 1)) := by
  decide +kernel

end OmniSwitch
