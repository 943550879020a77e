import OmniSwitch.Payment

/-!
# Ledger outbox events

`ledger-outbox.aggregate.ts`: double-entry events and the two factories that book a charge and a
refund.  An event carries the fact that its entries balance in every currency, which its
constructor checks.  The free-text descriptions of the entries are left out.

Main results:

* `createChargeEntries_ok`, `createRefundEntries_ok`: what the event of a charge or a refund books.
-/

namespace OmniSwitch

open Lib

/-- Source: `LedgerEntryType` -/
inductive LedgerEntryType where
  | DEBIT | CREDIT
  deriving DecidableEq, Repr

/-- The sign of an entry in a balance of debits less credits. -/
def LedgerEntryType.sign : LedgerEntryType → Int
  | DEBIT => 1
  | CREDIT => -1

/-- Source: `LedgerEntry.accountType` -/
inductive AccountType where
  | MERCHANT | PLATFORM | PSP_SETTLEMENT | FEE | RESERVE | FX_CLEARING | BNPL_SETTLEMENT
  | BNPL_PROVIDER_FEE
  deriving DecidableEq, Repr

/-- Source: `LedgerOutboxEvent.eventType` -/
inductive LedgerEventType where
  | PAYMENT_CHARGED | PAYMENT_REFUNDED | RESERVE_RELEASED | RESERVE_TOPPED_UP | BNPL_CAPTURED
  | BNPL_REFUNDED
  deriving DecidableEq, Repr

/-- Source: `LedgerEntry` -/
structure LedgerEntry where
  accountId : String
  accountType : AccountType
  entryType : LedgerEntryType
  amount : Money
  deriving DecidableEq, Repr

namespace LedgerEntry

/-- The total of the entries of one kind in one currency. -/
def total (entryType : LedgerEntryType) (code : String) (entries : List LedgerEntry) : Nat :=
  ((entries.filter fun e => e.entryType = entryType ∧ e.amount.currency.code = code).map
    (·.amount.amountMinorUnits)).sum

/-- The entries of the settlement account. -/
def settlement (entries : List LedgerEntry) : List LedgerEntry :=
  entries.filter (·.accountType = .PSP_SETTLEMENT)

/-- Debits and credits agree in every currency; the error names the first that does not. -/
def validateDoubleEntry (entries : List LedgerEntry) : Except AppError Unit :=
  match (entries.map (·.amount.currency.code)).eraseDups.find? fun code =>
      total .DEBIT code entries ≠ total .CREDIT code entries with
  | none => .ok ()
  | some code => .error (.plain (s!"Double-entry imbalance for {code}: " ++
      s!"debits={total .DEBIT code entries}, credits={total .CREDIT code entries}"))

end LedgerEntry

/-- A ledger event: entries that balance. -/
structure LedgerOutboxEvent where
  id : String
  paymentId : String
  eventType : LedgerEventType
  entries : List LedgerEntry
  createdAt : Date
  balanced : LedgerEntry.validateDoubleEntry entries = .ok ()
  deriving DecidableEq

/-- What a conversion of a payout leg came to.

Source: `ChargeLedgerParams.settlementConversion` -/
structure AppliedConversion where
  convertedAmount : Money
  rate : Rat
  provider : String
  deriving DecidableEq, Repr

/-- Source: `ChargeLedgerParams.splits` -/
structure ChargeSplit where
  merchantId : String
  amount : Money
  settlementConversion : Option AppliedConversion := none
  deriving DecidableEq, Repr

namespace LedgerOutboxEvent

/-- Source: `LedgerOutboxEvent.create` -/
def create (id paymentId : String) (eventType : LedgerEventType) (entries : List LedgerEntry)
    (now : Date) : Except AppError LedgerOutboxEvent :=
  match h : LedgerEntry.validateDoubleEntry entries with
  | .ok () => .ok ⟨id, paymentId, eventType, entries, now, h⟩
  | .error e => .error e

variable {paymentId : String} {eventType : LedgerEventType} {entries : List LedgerEntry}
  {event : LedgerOutboxEvent}
variable {id : String} {now : Date}

lemma create_ok (h : create id paymentId eventType entries now = .ok event) :
    event.paymentId = paymentId ∧ event.eventType = eventType ∧ event.entries = entries := by
  unfold create at h
  split at h
  · obtain rfl := Except.ok.inj h
    exact ⟨rfl, rfl, rfl⟩
  · nomatch h

/-! ### Charges -/

/-- The payout of `amount` to `merchantId`: one credit, or the two legs of a conversion through
the clearing account and the credit of the converted amount.

Source: `LedgerOutboxEvent.createChargeEntries` -/
def payoutEntries (merchantId : String) (amount : Money) :
    Option AppliedConversion → List LedgerEntry
  | none => [⟨merchantId, .MERCHANT, .CREDIT, amount⟩]
  | some conversion =>
    [⟨"FX_CLEARING_ACCOUNT", .FX_CLEARING, .CREDIT, amount⟩,
      ⟨"FX_CLEARING_ACCOUNT", .FX_CLEARING, .DEBIT, conversion.convertedAmount⟩,
      ⟨merchantId, .MERCHANT, .CREDIT, conversion.convertedAmount⟩]

/-- The loop over the splits: what is left of the payout after them, and their entries.

Source: `LedgerOutboxEvent.createChargeEntries` -/
def splitEntries (remaining : Money) :
    List ChargeSplit → Except AppError (Money × List LedgerEntry)
  | [] => .ok (remaining, [])
  | split :: splits => do
      let remaining ← remaining.subtract split.amount
      let (left, entries) ← splitEntries remaining splits
      .ok (left, payoutEntries split.merchantId split.amount split.settlementConversion ++ entries)

/-- The payout of a charge: what is left of the net amount after the reserve.

Source: `LedgerOutboxEvent.createChargeEntries` -/
def payoutAmount (netAmount : Money) : Option Money → Except AppError Money
  | some reserve => netAmount.subtract reserve
  | none => .ok netAmount

/-- Source: `LedgerOutboxEvent.createChargeEntries` -/
def createChargeEntries (id paymentId merchantId : String) (amount platformFee : Money)
    (settlementConversion : Option AppliedConversion) (reserveHold : Option Money)
    (splits : Option (List ChargeSplit)) (now : Date) : Except AppError LedgerOutboxEvent := do
  let netAmount ← amount.subtract platformFee
  let payout ← payoutAmount netAmount reserveHold
  let (remaining, splitLegs) ← splitEntries payout (splits.getD [])
  let reserveLeg := match reserveHold with
    | some reserve => [⟨s!"{merchantId}_RESERVE", .RESERVE, .CREDIT, reserve⟩]
    | none => []
  let remainingLeg :=
    if remaining.isZero then [] else payoutEntries merchantId remaining settlementConversion
  create id paymentId .PAYMENT_CHARGED
    ([⟨"PSP_SETTLEMENT_ACCOUNT", .PSP_SETTLEMENT, .DEBIT, amount⟩,
      ⟨"PLATFORM_FEE_ACCOUNT", .FEE, .CREDIT, platformFee⟩] ++
      reserveLeg ++ splitLegs ++ remainingLeg) now

/-! ### Refunds -/

variable (convertTo : Money.ConvertTo) (events : List LedgerOutboxEvent)

/-- The debit of `amount` to `accountId`, if there is any, at the rate of the original payout if
there was one.

Source: `LedgerOutboxEvent.createRefundEntries` -/
def debitEntries (accountId : String) (amount : Money)
    (settlementConversion : Option SettlementConversion) : Except AppError (List LedgerEntry) :=
  if amount.amountMinorUnits = 0 then .ok []
  else match settlementConversion with
    | none => .ok [⟨accountId, .MERCHANT, .DEBIT, amount⟩]
    | some conversion => do
        let convertedAmount ← convertTo amount conversion.currency conversion.rate
        .ok [⟨"FX_CLEARING_ACCOUNT", .FX_CLEARING, .DEBIT, amount⟩,
          ⟨"FX_CLEARING_ACCOUNT", .FX_CLEARING, .CREDIT, convertedAmount⟩,
          ⟨accountId, .MERCHANT, .DEBIT, convertedAmount⟩]

/-- The loop over the splits of the original charge: each recipient's share of the refund,
rounded down, with its entries, and the shares' total.

Source: `LedgerOutboxEvent.createRefundEntries` -/
def splitRefundEntries (convertTo : Money.ConvertTo) (refund : Money) (chargeMinorUnits : Nat) :
    List PaymentSplit → Except AppError (Nat × List LedgerEntry)
  | [] => .ok (0, [])
  | split :: splits => do
      if chargeMinorUnits = 0 then .error (.plain "Division by zero")
      else
        let debit := split.amount.amountMinorUnits * refund.amountMinorUnits / chargeMinorUnits
        let entries ←
          debitEntries convertTo split.merchantId ⟨debit, refund.currency⟩
            split.settlementConversion
        let (total, rest) ← splitRefundEntries convertTo refund chargeMinorUnits splits
        .ok (debit + total, entries ++ rest)

/-- The recipients' part of a refund; without the original charge there is none.

Source: `LedgerOutboxEvent.createRefundEntries` -/
def connectedEntries (refund : Money)
    (splits : Option (List PaymentSplit)) : Option Money → Except AppError (Nat × List LedgerEntry)
  | some charge => splitRefundEntries convertTo refund charge.amountMinorUnits (splits.getD [])
  | none => .ok (0, [])

/-- A total of shares above the refund leaves nothing for the platform to be debited, as a
negative remainder does in the source. -/
def createRefundEntries (id paymentId merchantId : String) (refundAmount : Money)
    (settlementConversion : Option SettlementConversion) (splits : Option (List PaymentSplit))
    (originalChargeAmount : Option Money) (now : Date) : Except AppError LedgerOutboxEvent := do
  let (connectedTotal, splitLegs) ←
    connectedEntries convertTo refundAmount splits originalChargeAmount
  let platformLeg ← debitEntries convertTo merchantId
    ⟨refundAmount.amountMinorUnits - connectedTotal, refundAmount.currency⟩ settlementConversion
  create id paymentId .PAYMENT_REFUNDED
    ([⟨"PSP_SETTLEMENT_ACCOUNT", .PSP_SETTLEMENT, .CREDIT, refundAmount⟩] ++
      splitLegs ++ platformLeg) now

/-! ### What an event settles -/

/-- The settlement entries of an event in one currency: debits less credits. -/
def settled (event : LedgerOutboxEvent) (c : Currency) : Int :=
  (LedgerEntry.total .DEBIT c.code (LedgerEntry.settlement event.entries) : Int) -
    LedgerEntry.total .CREDIT c.code (LedgerEntry.settlement event.entries)

/-- The settlement credits of an event in one currency. -/
def credited (event : LedgerOutboxEvent) (c : Currency) : Nat :=
  LedgerEntry.total .CREDIT c.code (LedgerEntry.settlement event.entries)

/-- The event books `amount` for `paymentId`: one settlement entry, of the given kind. -/
structure Books (event : LedgerOutboxEvent) (paymentId : String) (eventType : LedgerEventType)
    (entryType : LedgerEntryType) (amount : Money) : Prop where
  paymentId : event.paymentId = paymentId
  eventType : event.eventType = eventType
  settlement : LedgerEntry.settlement event.entries =
    [⟨"PSP_SETTLEMENT_ACCOUNT", .PSP_SETTLEMENT, entryType, amount⟩]

/-- The event books a charge. -/
abbrev Charges (event : LedgerOutboxEvent) (paymentId : String) (amount : Money) : Prop :=
  event.Books paymentId .PAYMENT_CHARGED .DEBIT amount

/-- The event books a refund. -/
abbrev Refunds (event : LedgerOutboxEvent) (paymentId : String) (amount : Money) : Prop :=
  event.Books paymentId .PAYMENT_REFUNDED .CREDIT amount

/-- A payout is booked on the account of a merchant, or through the clearing account. -/
def IsPayout (entry : LedgerEntry) : Prop :=
  entry.accountType = .MERCHANT ∨ entry.accountType = .FX_CLEARING

lemma isPayout_payoutEntries (merchantId : String) (amount : Money)
    (conversion : Option AppliedConversion) :
    ∀ entry ∈ payoutEntries merchantId amount conversion, IsPayout entry := by
  cases conversion <;> simp [payoutEntries, IsPayout]

lemma isPayout_splitEntries {remaining left : Money} {splits : List ChargeSplit}
    (h : splitEntries remaining splits = .ok (left, entries)) :
    ∀ entry ∈ entries, IsPayout entry := by
  induction splits generalizing remaining left entries with
  | nil =>
    obtain ⟨-, rfl⟩ := Prod.mk.inj (Except.ok.inj h)
    exact fun _ h => absurd h List.not_mem_nil
  | cons split splits ih =>
    simp only [splitEntries, bind_eq_ok] at h
    obtain ⟨next, -, ⟨left', rest⟩, hrest, h⟩ := h
    obtain ⟨-, rfl⟩ := Prod.mk.inj (Except.ok.inj h)
    exact List.forall_mem_append.2 ⟨isPayout_payoutEntries _ _ _, ih hrest⟩

variable {amount : Money}
variable {merchantId : String}

/-- The entries of a charge: its settlement, the fee, the reserve, and payouts. -/
lemma createChargeEntries_entries {platformFee : Money}
    {settlementConversion : Option AppliedConversion} {reserveHold : Option Money}
    {splits : Option (List ChargeSplit)}
    (h : createChargeEntries id paymentId merchantId amount platformFee settlementConversion
      reserveHold splits now = .ok event) :
    event.paymentId = paymentId ∧ event.eventType = .PAYMENT_CHARGED ∧
      ∃ legs, (∀ entry ∈ legs, IsPayout entry) ∧ event.entries =
        ⟨"PSP_SETTLEMENT_ACCOUNT", .PSP_SETTLEMENT, .DEBIT, amount⟩ ::
        ⟨"PLATFORM_FEE_ACCOUNT", .FEE, .CREDIT, platformFee⟩ ::
        ((reserveHold.map fun reserve =>
          ⟨s!"{merchantId}_RESERVE", .RESERVE, .CREDIT, reserve⟩).toList
          ++ legs) := by
  simp only [createChargeEntries, bind_eq_ok] at h
  obtain ⟨net, -, payout, -, ⟨remaining, splitLegs⟩, hsplit, h⟩ := h
  obtain ⟨hid, htype, hentries⟩ := create_ok h
  refine ⟨hid, htype, splitLegs ++
    if remaining.isZero then [] else payoutEntries merchantId remaining settlementConversion,
    List.forall_mem_append.2 ⟨isPayout_splitEntries hsplit, ?_⟩, ?_⟩
  · split_ifs
    · exact fun _ h => absurd h List.not_mem_nil
    · exact isPayout_payoutEntries _ _ _
  · rw [hentries]
    cases reserveHold <;> simp

/-- A charge event is for its payment and settles exactly the charged amount, as one debit. -/
lemma createChargeEntries_ok {platformFee : Money} {settlementConversion : Option AppliedConversion}
    {reserveHold : Option Money} {splits : Option (List ChargeSplit)}
    (h : createChargeEntries id paymentId merchantId amount platformFee settlementConversion
      reserveHold splits now = .ok event) :
    event.Charges paymentId amount := by
  obtain ⟨hid, htype, legs, hlegs, hentries⟩ := createChargeEntries_entries h
  refine ⟨hid, htype, ?_⟩
  have hnone : LedgerEntry.settlement legs = [] := by
    refine List.filter_eq_nil_iff.2 fun entry hentry => ?_
    rcases hlegs entry hentry with h | h <;> simp [h]
  rw [hentries]
  unfold LedgerEntry.settlement at *
  cases reserveHold <;> simp [hnone]

variable {convertTo : Money.ConvertTo}

lemma settlement_debitEntries {accountId : String} {conversion : Option SettlementConversion}
    (h : debitEntries convertTo accountId amount conversion = .ok entries) :
    LedgerEntry.settlement entries = [] := by
  unfold debitEntries at h
  split_ifs at h
  · obtain rfl := Except.ok.inj h
    rfl
  · cases conversion with
    | none =>
      obtain rfl := Except.ok.inj h
      rfl
    | some conversion =>
      obtain ⟨converted, -, h⟩ := bind_eq_ok.1 h
      obtain rfl := Except.ok.inj h
      rfl

lemma settlement_splitRefundEntries {refund : Money} {charge total : Nat}
    {splits : List PaymentSplit}
    (h : splitRefundEntries convertTo refund charge splits = .ok (total, entries)) :
    LedgerEntry.settlement entries = [] := by
  induction splits generalizing total entries with
  | nil =>
    obtain ⟨-, rfl⟩ := Prod.mk.inj (Except.ok.inj h)
    rfl
  | cons split splits ih =>
    unfold splitRefundEntries at h
    split at h
    · nomatch h
    · simp only [bind_eq_ok] at h
      obtain ⟨legs, hlegs, ⟨total', rest⟩, hrest, h⟩ := h
      obtain ⟨-, rfl⟩ := Prod.mk.inj (Except.ok.inj h)
      have hlegs := settlement_debitEntries hlegs
      unfold LedgerEntry.settlement at *
      rw [List.filter_append, hlegs, ih hrest, List.append_nil]

/-- A refund event is for its payment and settles exactly the refunded amount, as one credit. -/
lemma createRefundEntries_ok {refundAmount : Money}
    {settlementConversion : Option SettlementConversion} {splits : Option (List PaymentSplit)}
    {originalChargeAmount : Option Money}
    (h : createRefundEntries convertTo id paymentId merchantId refundAmount settlementConversion
      splits originalChargeAmount now = .ok event) :
    event.Refunds paymentId refundAmount := by
  simp only [createRefundEntries, bind_eq_ok] at h
  obtain ⟨⟨connected, splitLegs⟩, hsplit, platformLeg, hplatform, h⟩ := h
  obtain ⟨hid, htype, hentries⟩ := create_ok h
  refine ⟨hid, htype, ?_⟩
  have hlegs : LedgerEntry.settlement splitLegs = [] := by
    cases originalChargeAmount with
    | some charge => exact settlement_splitRefundEntries hsplit
    | none =>
      obtain ⟨-, rfl⟩ := Prod.mk.inj (Except.ok.inj hsplit)
      rfl
  have hplatform := settlement_debitEntries hplatform
  rw [hentries]
  unfold LedgerEntry.settlement at *
  rw [List.filter_append, List.filter_append, hlegs, hplatform]
  rfl

variable {entryType : LedgerEntryType}

lemma Books.settled (h : event.Books paymentId eventType entryType amount) :
    event.settled amount.currency = entryType.sign * amount.amountMinorUnits := by
  unfold LedgerOutboxEvent.settled
  rw [h.settlement]
  cases entryType <;> simp [LedgerEntry.total, LedgerEntryType.sign]

/-- What the events of one payment settle in one currency. -/
def settledBy (paymentId : String) (c : Currency) : Int :=
  ((events.filter (·.paymentId = paymentId)).map (·.settled c)).sum

/-- The settlement entries of one kind in the events of one type of one payment, in one currency. -/
def bookedBy (paymentId : String) (eventType : LedgerEventType)
    (entryType : LedgerEntryType) (c : Currency) : Nat :=
  ((events.filter fun e => e.paymentId = paymentId ∧ e.eventType = eventType).map fun e =>
    LedgerEntry.total entryType c.code (LedgerEntry.settlement e.entries)).sum

/-- The settlement debits of one payment in one currency, whatever the events' type. -/
def debitedBy (paymentId : String) (c : Currency) : Nat :=
  ((events.filter (·.paymentId = paymentId)).map fun e =>
    LedgerEntry.total .DEBIT c.code (LedgerEntry.settlement e.entries)).sum

lemma bookedBy_add_settledBy_le (paymentId : String)
    (eventType : LedgerEventType) (c : Currency) :
    (bookedBy events paymentId eventType .CREDIT c : Int) + settledBy events paymentId c ≤
      debitedBy events paymentId c := by
  induction events with
  | nil => exact le_rfl
  | cons e events ih =>
    unfold bookedBy settledBy debitedBy at *
    by_cases hid : e.paymentId = paymentId
    · by_cases htype : e.eventType = eventType <;> simp [hid, htype, settled] at ih ⊢ <;> omega
    · simp only [List.filter_cons, hid, false_and, decide_false] at ih ⊢
      exact ih

lemma settledBy_append_event (event : LedgerOutboxEvent) (paymentId : String) (c : Currency) :
    settledBy (events ++ [event]) paymentId c =
      settledBy events paymentId c +
        if event.paymentId = paymentId then event.settled c else 0 := by
  unfold settledBy
  rw [List.filter_append, List.map_append, List.sum_append]
  split_ifs with h <;> simp [h]

lemma bookedBy_append_of_ne (h : event.paymentId ≠ paymentId ∨ event.eventType ≠ eventType)
    (events : List LedgerOutboxEvent) (entryType : LedgerEntryType) (c : Currency) :
    bookedBy (events ++ [event]) paymentId eventType entryType c =
      bookedBy events paymentId eventType entryType c := by
  have hnot : ¬ (event.paymentId = paymentId ∧ event.eventType = eventType) := by tauto
  simp [bookedBy, hnot]

lemma bookedBy_append (h : event.Books paymentId eventType entryType amount)
    (events : List LedgerOutboxEvent) :
    bookedBy (events ++ [event]) paymentId eventType entryType amount.currency =
      bookedBy events paymentId eventType entryType amount.currency +
        amount.amountMinorUnits := by
  simp [bookedBy, h.paymentId, h.eventType, h.settlement, LedgerEntry.total]

end LedgerOutboxEvent

end OmniSwitch
