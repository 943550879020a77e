import OmniSwitch.Ledger.Postings
import OmniSwitch.Lib.Shares

/-!
# What a refund takes back from whom

`createRefundEntries` reverses a charge in proportion: the recipient of a split is debited its share
of the refund, rounded down, and the charging merchant the rest.  A debit is the reversal of a
payout, entry by entry, at the rate that the payout was recorded with.

Main results:

* `createRefundEntries_of_legs`: a refund reverses payouts;
* `refunds_in_proportion`: what any sequence of refunds takes from whom.
-/

namespace OmniSwitch

open Lib

/-! ### Postings taken back -/

/-- The other side. -/
def LedgerEntryType.opposite : LedgerEntryType → LedgerEntryType
  | DEBIT => CREDIT
  | CREDIT => DEBIT

variable {entries : List LedgerEntry}

namespace LedgerEntry

/-- The entry that reverses another. -/
def reversed (e : LedgerEntry) : LedgerEntry := { e with entryType := e.entryType.opposite }

/-- Debits less credits. -/
def balance (code : String) (entries : List LedgerEntry) : Int :=
  total .DEBIT code entries - total .CREDIT code entries

section

variable {code : String}

@[simp] lemma balance_nil : balance code [] = 0 := rfl

@[simp] lemma balance_append (xs ys : List LedgerEntry) :
    balance code (xs ++ ys) = balance code xs + balance code ys := by
  unfold balance
  rw [total_append, total_append]
  omega

lemma entryType_reversed {e : LedgerEntry} {entryType : LedgerEntryType} :
    e.reversed.entryType = entryType ↔ e.entryType = entryType.opposite := by
  unfold reversed
  cases e.entryType <;> cases entryType <;> simp [LedgerEntryType.opposite]

lemma total_reversed (entryType : LedgerEntryType) (entries : List LedgerEntry) :
    total entryType code (entries.map reversed) = total entryType.opposite code entries := by
  unfold total
  rw [List.filter_map, List.map_map]
  simp only [Function.comp_def, entryType_reversed]
  rfl

@[simp] lemma balance_reversed (entries : List LedgerEntry) :
    balance code (entries.map reversed) = -balance code entries := by
  unfold balance
  rw [total_reversed, total_reversed]
  simp only [LedgerEntryType.opposite]
  omega

lemma Nets.balance {c : Currency} {n : Nat} (h : Nets entries c n) (code : String) :
    LedgerEntry.balance code entries = -(if c.code = code then n else 0 : Nat) := by
  unfold LedgerEntry.balance
  rw [h code]
  omega

lemma validate_of_balance (h : ∀ code, balance code entries = 0) :
    validateDoubleEntry entries = .ok () := by
  refine validateDoubleEntry_of_balanced fun code => ?_
  have hcode := h code
  unfold balance at hcode
  omega

end

end LedgerEntry

/-- What the recipient of a split is debited for a refund of a charge, before any conversion.

Source: `LedgerOutboxEvent.createRefundEntries` -/
def PaymentSplit.shareOf (split : PaymentSplit) (chargeMinorUnits : Nat) (refund : Money) : Money :=
  ⟨share split.amount.amountMinorUnits chargeMinorUnits refund.amountMinorUnits, refund.currency⟩

/-- A split as it is recorded with the payment. -/
def ChargeSplit.recorded (split : ChargeSplit) : PaymentSplit :=
  ⟨split.merchantId, split.amount, split.settlementConversion.map fun conversion =>
    ⟨conversion.convertedAmount.currency.code, conversion.rate, conversion.provider⟩⟩

variable {convertTo : Money.ConvertTo}

namespace LedgerOutboxEvent

open LedgerEntry

/-- A recorded conversion, applied to an amount.

Source: `LedgerOutboxEvent.createRefundEntries` (`pushConvertedDebit`) -/
def replay (convertTo : Money.ConvertTo) (amount : Money) :
    Option SettlementConversion → Except AppError (Option AppliedConversion)
  | none => .ok none
  | some conversion => do
      let convertedAmount ← convertTo amount conversion.currency conversion.rate
      .ok (some ⟨convertedAmount, conversion.rate, conversion.provider⟩)

lemma debitEntries_eq (convertTo : Money.ConvertTo) (accountId : String) (amount : Money)
    (conversion : Option SettlementConversion) :
    debitEntries convertTo accountId amount conversion =
      if amount.amountMinorUnits = 0 then .ok []
      else (do
        let applied ← replay convertTo amount conversion
        .ok ((payoutEntries accountId amount applied).map reversed)) := by
  unfold debitEntries
  split_ifs with hzero
  · rfl
  · cases conversion with
    | none => rfl
    | some conversion =>
      unfold replay
      dsimp only
      cases convertTo amount conversion.currency conversion.rate <;> rfl

variable {conversion : Option SettlementConversion}
variable {accountId : String}

lemma balance_debitEntries {amount : Money}
    (h : debitEntries convertTo accountId amount conversion = .ok entries) (code : String) :
    balance code entries =
      (if amount.currency.code = code then amount.amountMinorUnits else 0 : Nat) := by
  rw [debitEntries_eq] at h
  split_ifs at h with hzero
  · obtain rfl := Except.ok.inj h
    simp [hzero]
  · obtain ⟨applied, -, h⟩ := bind_eq_ok.1 h
    obtain rfl := Except.ok.inj h
    rw [balance_reversed, (nets_payoutEntries accountId amount applied).balance, neg_neg]

lemma posted_debitEntries {amount : Money}
    (h : debitEntries convertTo accountId amount conversion = .ok entries) :
    amount.amountMinorUnits = 0 ∧ posted .MERCHANT .DEBIT entries = [] ∨
      amount.amountMinorUnits ≠ 0 ∧ ∃ applied, replay convertTo amount conversion = .ok applied ∧
        posted .MERCHANT .DEBIT entries = [(accountId, payoutOf amount applied)] := by
  rw [debitEntries_eq] at h
  split_ifs at h with hzero
  · obtain rfl := Except.ok.inj h
    exact .inl ⟨hzero, rfl⟩
  · obtain ⟨applied, happlied, h⟩ := bind_eq_ok.1 h
    obtain rfl := Except.ok.inj h
    refine .inr ⟨hzero, applied, happlied, ?_⟩
    unfold posted
    rw [List.filter_map, List.map_map]
    simp only [Function.comp_def, entryType_reversed]
    exact posted_payoutEntries _ _ _

/-- The legs of a refund that the recipients of splits bear. -/
def splitLegs (convertTo : Money.ConvertTo) (refund : Money) (chargeMinorUnits : Nat)
    (splits : List PaymentSplit) : Except AppError (List (List LedgerEntry)) :=
  splits.mapM fun split => debitEntries convertTo split.merchantId
    (split.shareOf chargeMinorUnits refund) split.settlementConversion

/-- What the recipients bear of a refund, in minor units. -/
def sharesTotal (refund : Money) (chargeMinorUnits : Nat) (splits : List PaymentSplit) : Nat :=
  (splits.map fun split => (split.shareOf chargeMinorUnits refund).amountMinorUnits).sum

section legs

variable {convertTo : Money.ConvertTo} {refund : Money} {charge : Nat}
  {splits : List PaymentSplit} {legs : List (List LedgerEntry)}

lemma splitRefundEntries_eq (hcharge : charge ≠ 0) (refund : Money)
    (splits : List PaymentSplit) :
    splitRefundEntries convertTo refund charge splits = (do
      let legs ← splitLegs convertTo refund charge splits
      .ok (sharesTotal refund charge splits, legs.flatten)) := by
  induction splits with
  | nil => rfl
  | cons split splits ih =>
    unfold splitRefundEntries
    rw [if_neg hcharge, ih]
    unfold splitLegs
    rw [List.mapM_cons]
    cases hleg : debitEntries convertTo split.merchantId (split.shareOf charge refund)
      split.settlementConversion with
    | error e =>
      unfold PaymentSplit.shareOf share at hleg
      dsimp only
      rw [hleg]
      rfl
    | ok leg =>
      unfold PaymentSplit.shareOf share at hleg
      dsimp only
      rw [hleg]
      cases splits.mapM fun split => debitEntries convertTo split.merchantId
        (split.shareOf charge refund) split.settlementConversion <;> rfl

lemma splitLegs_cons {split : PaymentSplit}
    (h : splitLegs convertTo refund charge (split :: splits) = .ok legs) :
    ∃ leg rest, debitEntries convertTo split.merchantId (split.shareOf charge refund)
        split.settlementConversion = .ok leg ∧
      splitLegs convertTo refund charge splits = .ok rest ∧ legs = leg :: rest := by
  unfold splitLegs at h
  rw [List.mapM_cons] at h
  obtain ⟨leg, hleg, h⟩ := bind_eq_ok.1 h
  obtain ⟨rest, hrest, h⟩ := bind_eq_ok.1 h
  exact ⟨leg, rest, hleg, hrest, (Except.ok.inj h).symm⟩

lemma balance_splitLegs (h : splitLegs convertTo refund charge splits = .ok legs)
    (code : String) :
    balance code legs.flatten =
      (if refund.currency.code = code then sharesTotal refund charge splits else 0 : Nat) := by
  induction splits generalizing legs with
  | nil =>
    obtain rfl := Except.ok.inj h
    simp [sharesTotal]
  | cons split splits ih =>
    obtain ⟨leg, rest, hleg, hrest, rfl⟩ := splitLegs_cons h
    have hbalance := balance_debitEntries hleg code
    have hih := ih hrest
    have htotal : sharesTotal refund charge (split :: splits) =
        (split.shareOf charge refund).amountMinorUnits + sharesTotal refund charge splits := rfl
    rw [List.flatten_cons, balance_append, hbalance, hih, htotal,
      show (split.shareOf charge refund).currency = refund.currency from rfl]
    split_ifs <;> simp

end legs

variable {refund charge : Money} {merchantId : String}

/-- **A refund event reverses payouts**: the recipients' legs, and the charging merchant's for what
is left; it is booked exactly if the conversions go through and the shares are within the refund. -/
theorem createRefundEntries_of_legs {splits : List PaymentSplit} {legs : List (List LedgerEntry)}
    {leg : List LedgerEntry} (hcharge : charge.amountMinorUnits ≠ 0)
    (hlegs : splitLegs convertTo refund charge.amountMinorUnits splits = .ok legs)
    (hle : sharesTotal refund charge.amountMinorUnits splits ≤ refund.amountMinorUnits)
    (hleg : debitEntries convertTo merchantId ⟨refund.amountMinorUnits - sharesTotal refund
      charge.amountMinorUnits splits, refund.currency⟩ conversion = .ok leg) (id paymentId : String)
    (now : Date) :
    ∃ event, createRefundEntries convertTo id paymentId merchantId refund conversion (some splits)
        (some charge) now = .ok event ∧
      event.entries = [⟨"PSP_SETTLEMENT_ACCOUNT", .PSP_SETTLEMENT, .CREDIT, refund⟩] ++
        legs.flatten ++ leg := by
  have hvalid : validateDoubleEntry
      ([⟨"PSP_SETTLEMENT_ACCOUNT", .PSP_SETTLEMENT, .CREDIT, refund⟩] ++ legs.flatten ++ leg) =
        .ok () := by
    refine validate_of_balance fun code => ?_
    rw [balance_append, balance_append, balance_splitLegs hlegs, balance_debitEntries hleg,
      (nets_credit _ _ refund).balance]
    dsimp only
    split_ifs <;> omega
  refine ⟨⟨id, paymentId, .PAYMENT_REFUNDED, _, now, hvalid⟩, ?_, rfl⟩
  unfold createRefundEntries connectedEntries
  dsimp only [Option.getD_some]
  rw [splitRefundEntries_eq hcharge, hlegs]
  refine bind_eq_ok.2 ⟨_, rfl, ?_⟩
  dsimp only
  rw [hleg]
  exact create_eq_ok hvalid

/-- The legs that a refund event consists of. -/
structure TakesBack (event : LedgerOutboxEvent) (convertTo : Money.ConvertTo) (merchantId : String)
    (refund : Money) (charge : Nat) (conversion : Option SettlementConversion)
    (splits : List PaymentSplit) (legs : List (List LedgerEntry)) (leg : List LedgerEntry) :
    Prop where
  recipients : splitLegs convertTo refund charge splits = .ok legs
  rest : debitEntries convertTo merchantId
    ⟨refund.amountMinorUnits - sharesTotal refund charge splits, refund.currency⟩ conversion =
      .ok leg
  entries : event.entries =
    [⟨"PSP_SETTLEMENT_ACCOUNT", .PSP_SETTLEMENT, .CREDIT, refund⟩] ++ legs.flatten ++ leg

variable {splits : Option (List PaymentSplit)}

/-- A refund event as the services ask for it: the original amount comes with the splits. -/
lemma createRefundEntries_takesBack {id paymentId : String} {now : Date} {event : LedgerOutboxEvent}
    (h : createRefundEntries convertTo id paymentId merchantId refund conversion splits (splits.map
      fun _ => charge) now = .ok event) :
    (charge.amountMinorUnits ≠ 0 ∨ splits.getD [] = []) ∧
      ∃ legs leg, event.TakesBack convertTo merchantId refund charge.amountMinorUnits conversion
        (splits.getD []) legs leg := by
  simp only [createRefundEntries, bind_eq_ok] at h
  obtain ⟨⟨connected, splitLegs'⟩, hconnected, leg, hleg, h⟩ := h
  have hentries := (create_ok h).2.2
  cases splits with
  | none =>
    obtain ⟨rfl, rfl⟩ := Prod.mk.inj (Except.ok.inj hconnected)
    exact ⟨.inr rfl, [], leg, rfl, hleg, hentries⟩
  | some splits =>
    simp only [Option.map_some, connectedEntries, Option.getD_some] at hconnected ⊢
    by_cases hcharge : charge.amountMinorUnits = 0
    · -- the division by zero is reached by the first split
      cases splits with
      | nil =>
        obtain ⟨rfl, rfl⟩ := Prod.mk.inj (Except.ok.inj hconnected)
        exact ⟨.inr rfl, [], leg, rfl, hleg, hentries⟩
      | cons split splits =>
        unfold splitRefundEntries at hconnected
        rw [if_pos hcharge] at hconnected
        cases hconnected
    · rw [splitRefundEntries_eq hcharge] at hconnected
      obtain ⟨legs, hlegs, hconnected⟩ := bind_eq_ok.1 hconnected
      obtain ⟨rfl, rfl⟩ := Prod.mk.inj (Except.ok.inj hconnected)
      exact ⟨.inl hcharge, legs, leg, hlegs, hleg, hentries⟩

/-! ### Without conversions -/

/-- What a refund is to take, before any conversion: each recipient's share, and from the charging
merchant the rest. -/
def debitsOf (merchantId : String) (refund : Money) (charge : Nat) (splits : List PaymentSplit) :
    List (String × Money) :=
  splits.map (fun split => (split.merchantId, split.shareOf charge refund)) ++
    [(merchantId, ⟨refund.amountMinorUnits - sharesTotal refund charge splits, refund.currency⟩)]

variable (postings : List (String × Money))

/-- The postings of an amount. -/
def nonzero : List (String × Money) :=
  postings.filter fun x => x.2.amountMinorUnits ≠ 0

lemma nonzero_append (xs ys : List (String × Money)) :
    nonzero (xs ++ ys) = nonzero xs ++ nonzero ys := List.filter_append ..

/-- What the postings come to. -/
def unitsOf : Nat :=
  (postings.map fun x => x.2.amountMinorUnits).sum

lemma unitsOf_nonzero : unitsOf (nonzero postings) = unitsOf postings := by
  induction postings with
  | nil => rfl
  | cons x xs ih =>
    by_cases hzero : x.2.amountMinorUnits = 0
    · have hdrop : nonzero (x :: xs) = nonzero xs := by simp [nonzero, hzero]
      rw [hdrop, ih]
      simp [unitsOf, hzero]
    · have hkeep : nonzero (x :: xs) = x :: nonzero xs := by simp [nonzero, hzero]
      rw [hkeep]
      simp only [unitsOf, List.map_cons, List.sum_cons] at ih ⊢
      rw [ih]

lemma sumTo_nonzero (account : String) (c : Currency) (postings : List (String × Money)) :
    sumTo account c (nonzero postings) = sumTo account c postings := by
  induction postings with
  | nil => rfl
  | cons x xs ih =>
    by_cases hzero : x.2.amountMinorUnits = 0
    · have hdrop : nonzero (x :: xs) = nonzero xs := by simp [nonzero, hzero]
      rw [hdrop, ih, sumTo_cons, hzero, ite_self, Nat.zero_add]
    · have hkeep : nonzero (x :: xs) = x :: nonzero xs := by simp [nonzero, hzero]
      rw [hkeep, sumTo_cons, sumTo_cons, ih]

lemma debitEntries_none (convertTo : Money.ConvertTo) (accountId : String) (amount : Money) :
    ∃ entries, debitEntries convertTo accountId amount none = .ok entries ∧
      posted .MERCHANT .DEBIT entries = nonzero [(accountId, amount)] := by
  by_cases hzero : amount.amountMinorUnits = 0
  · refine ⟨[], ?_, by simp [nonzero, hzero]⟩
    rw [debitEntries_eq, if_pos hzero]
  · refine ⟨[⟨accountId, .MERCHANT, .DEBIT, amount⟩], ?_, ?_⟩
    · rw [debitEntries_eq, if_neg hzero]
      rfl
    · simp [nonzero, hzero, posted]

lemma splitLegs_none (convertTo : Money.ConvertTo) (refund : Money) (charge : Nat)
    {splits : List PaymentSplit} (hsplits : ∀ s ∈ splits, s.settlementConversion = none) :
    ∃ legs, splitLegs convertTo refund charge splits = .ok legs ∧
      posted .MERCHANT .DEBIT legs.flatten =
        nonzero (splits.map fun s => (s.merchantId, s.shareOf charge refund)) := by
  induction splits with
  | nil => exact ⟨[], rfl, rfl⟩
  | cons split splits ih =>
    rw [List.forall_mem_cons] at hsplits
    obtain ⟨leg, hleg, hposted⟩ :=
      debitEntries_none convertTo split.merchantId (split.shareOf charge refund)
    obtain ⟨legs, hlegs, hrest⟩ := ih hsplits.2
    refine ⟨leg :: legs, ?_, ?_⟩
    · unfold splitLegs at hlegs ⊢
      rw [List.mapM_cons, hsplits.1, hleg, hlegs]
      rfl
    · rw [List.flatten_cons, posted_append, hposted, hrest, ← nonzero_append]
      rfl

lemma createRefundEntries_none (convertTo : Money.ConvertTo) (hcharge : charge.amountMinorUnits ≠ 0)
    (hsplits : ∀ s ∈ splits.getD [], s.settlementConversion = none)
    (hle : sharesTotal refund charge.amountMinorUnits (splits.getD []) ≤ refund.amountMinorUnits)
    (id paymentId merchantId : String) (now : Date) :
    ∃ event, createRefundEntries convertTo id paymentId merchantId refund none splits
        (splits.map fun _ => charge) now = .ok event ∧
      posted .MERCHANT .DEBIT event.entries =
        nonzero (debitsOf merchantId refund charge.amountMinorUnits (splits.getD [])) := by
  obtain ⟨legs, hlegs, hposted⟩ := splitLegs_none convertTo refund charge.amountMinorUnits hsplits
  obtain ⟨leg, hleg, hrest⟩ := debitEntries_none convertTo merchantId
    ⟨refund.amountMinorUnits - sharesTotal refund charge.amountMinorUnits (splits.getD []),
      refund.currency⟩
  obtain ⟨event, hevent, hentries⟩ : ∃ event, createRefundEntries convertTo id paymentId merchantId
      refund none splits (splits.map fun _ => charge) now = .ok event ∧
      event.entries = [⟨"PSP_SETTLEMENT_ACCOUNT", .PSP_SETTLEMENT, .CREDIT, refund⟩] ++
        legs.flatten ++ leg := by
    cases splits with
    | none =>
      -- without splits there is no loop, as over an empty list
      obtain rfl := Except.ok.inj hlegs
      obtain ⟨event, hevent, hentries⟩ := createRefundEntries_of_legs hcharge
        (show splitLegs convertTo refund charge.amountMinorUnits [] = .ok [] from rfl)
        (Nat.zero_le _) hleg id paymentId now
      refine ⟨event, ?_, hentries⟩
      rw [← hevent]
      rfl
    | some splits => exact createRefundEntries_of_legs hcharge hlegs hle hleg id paymentId now
  refine ⟨event, hevent, ?_⟩
  unfold debitsOf
  rw [hentries, posted_append, posted_append, hposted, hrest, nonzero_append]
  rfl

end LedgerOutboxEvent

/-! ### The refunds of a payment -/

/-- A refund that the PSP has made, as it is recorded. -/
structure RefundCall where
  refundId : String
  eventId : String
  amount : Money
  reason : String := "requested_by_customer"
  pspRefundId : Option String := none
  now : Date := 0

namespace PaymentAggregate

/-- The payment after a refund, with the event that books it.

Source: `PaymentLifecycleService.refund` -/
def bookRefund (convertTo : Money.ConvertTo) (p : PaymentAggregate) (call : RefundCall) :
    Except AppError (PaymentAggregate × LedgerOutboxEvent) := do
  let refunded ← p.refund call.refundId call.amount call.reason call.pspRefundId call.now
  let event ← LedgerOutboxEvent.createRefundEntries convertTo call.eventId refunded.id
    refunded.merchantId call.amount refunded.settlementConversion refunded.splits
    (refunded.splits.map fun _ => refunded.amount) call.now
  .ok (refunded, event)

/-- Refunds that are booked one after the other. -/
def bookRefunds (convertTo : Money.ConvertTo) (p : PaymentAggregate) :
    List RefundCall → Except AppError (PaymentAggregate × List LedgerOutboxEvent)
  | [] => .ok (p, [])
  | call :: calls => do
      let (refunded, event) ← p.bookRefund convertTo call
      let (last, events) ← bookRefunds convertTo refunded calls
      .ok (last, event :: events)

/-- What the calls refund. -/
def refundedBy (calls : List RefundCall) : Nat :=
  (calls.map (·.amount.amountMinorUnits)).sum

/-- The payment after a refund. -/
def refundedWith (p : PaymentAggregate) (call : RefundCall) : PaymentAggregate :=
  { p with
    refunds := p.refunds ++
      [⟨call.refundId, call.amount, call.reason, call.now, call.pspRefundId⟩]
    status := if p.refundedMinorUnits + call.amount.amountMinorUnits = p.amount.amountMinorUnits
      then .REFUNDED else .PARTIALLY_REFUNDED }

variable {p : PaymentAggregate}

lemma refund_of_le {call : RefundCall}
    (hstatus : p.status = .SUCCEEDED ∨ p.status = .PARTIALLY_REFUNDED)
    (hcurrency : ∀ r ∈ p.refunds, r.amount.currency = p.amount.currency)
    (hamount : call.amount.currency = p.amount.currency)
    (hle : p.refundedMinorUnits + call.amount.amountMinorUnits ≤ p.amount.amountMinorUnits) :
    p.refund call.refundId call.amount call.reason call.pspRefundId call.now =
      .ok (p.refundedWith call) := by
  obtain ⟨p', hp'⟩ : ∃ p', p.refund call.refundId call.amount call.reason call.pspRefundId
      call.now = .ok p' := by
    have hadd : Money.add ⟨p.refundedMinorUnits, p.amount.currency⟩ call.amount =
        .ok ⟨p.refundedMinorUnits + call.amount.amountMinorUnits, p.amount.currency⟩ :=
      Money.add_eq_ok.2 ⟨hamount.symm, rfl⟩
    have hwithin : Money.isGreaterThan ⟨p.refundedMinorUnits + call.amount.amountMinorUnits,
        p.amount.currency⟩ p.amount = .ok false :=
      Money.isGreaterThan_eq_ok.2 ⟨rfl, by simpa using hle⟩
    unfold refund
    rw [if_neg (by tauto), totalRefunded_eq_ok.2 ⟨hcurrency, rfl⟩]
    simp only [bind, Except.bind, hadd, hwithin]
    exact ⟨_, rfl⟩
  rw [hp', (refund_ok hp').2.2.2.2]
  rfl

lemma bookRefunds_takesBack {last : PaymentAggregate} {calls : List RefundCall}
    {events : List LedgerOutboxEvent} (h : p.bookRefunds convertTo calls = .ok (last, events)) :
    (calls ≠ [] → p.refundedMinorUnits + refundedBy calls ≤ p.amount.amountMinorUnits) ∧
      (∀ call ∈ calls, call.amount.currency = p.amount.currency) ∧
      List.Forall₂ (fun call event =>
        (p.amount.amountMinorUnits ≠ 0 ∨ p.splits.getD [] = []) ∧
          ∃ legs leg, LedgerOutboxEvent.TakesBack event convertTo p.merchantId call.amount
            p.amount.amountMinorUnits p.settlementConversion (p.splits.getD []) legs leg)
        calls events := by
  induction calls generalizing p events with
  | nil =>
    obtain ⟨-, rfl⟩ := Prod.mk.inj (Except.ok.inj h)
    exact ⟨fun h => absurd rfl h, fun _ h => (nomatch h), .nil⟩
  | cons call calls ih =>
    simp only [bookRefunds, bookRefund, bind_eq_ok] at h
    obtain ⟨_, ⟨refunded, hrefunded, event, hevent, hbooked⟩, ⟨last', rest⟩, hrest, h⟩ := h
    obtain rfl := Except.ok.inj hbooked
    obtain ⟨rfl, rfl⟩ := Prod.mk.inj (Except.ok.inj h)
    obtain ⟨-, -, hcurrency, hle, rfl⟩ := refund_ok hrefunded
    obtain ⟨hwithin, hcurrencies, hall⟩ := ih hrest
    refine ⟨fun _ => ?_, List.forall_mem_cons.2 ⟨hcurrency, hcurrencies⟩,
      .cons (LedgerOutboxEvent.createRefundEntries_takesBack hevent) hall⟩
    by_cases hnil : calls = []
    · subst hnil
      simpa [refundedBy] using hle
    · have hwithin := hwithin hnil
      simp only [refundedMinorUnits, refundedBy, List.map_append, List.sum_append, List.map_cons,
        List.map_nil, List.sum_cons, List.sum_nil] at hwithin ⊢
      omega

section proportion

variable (convertTo : Money.ConvertTo) {p : PaymentAggregate}

/-- A payment that can be refunded by `n` more units, has no conversions, and whose splits are
within its amount. -/
structure Refundable (p : PaymentAggregate) (n : Nat) : Prop where
  status : 0 < n → p.status = .SUCCEEDED ∨ p.status = .PARTIALLY_REFUNDED
  currency : ∀ r ∈ p.refunds, r.amount.currency = p.amount.currency
  within : p.refundedMinorUnits + n ≤ p.amount.amountMinorUnits
  positive : 0 < p.amount.amountMinorUnits
  unconverted : p.settlementConversion = none
  plain : ∀ s ∈ p.splits.getD [], s.settlementConversion = none
  splits : ((p.splits.getD []).map (·.amount.amountMinorUnits)).sum ≤ p.amount.amountMinorUnits

omit convertTo in
lemma Refundable.sharesTotal_le {n : Nat} (h : p.Refundable n) (refund : Money) :
    LedgerOutboxEvent.sharesTotal refund p.amount.amountMinorUnits (p.splits.getD []) ≤
      refund.amountMinorUnits := by
  have hle := sum_share_parts_le h.splits h.positive refund.amountMinorUnits
  rw [List.map_map] at hle
  exact hle

/-- A refund within what is left is booked. -/
lemma Refundable.bookRefund {n : Nat} {call : RefundCall}
    (h : p.Refundable (call.amount.amountMinorUnits + n))
    (hcurrency : call.amount.currency = p.amount.currency)
    (hpositive : 0 < call.amount.amountMinorUnits) :
    ∃ refunded event, p.bookRefund convertTo call = .ok (refunded, event) ∧
      refunded.Refundable n ∧ refunded.amount = p.amount ∧ refunded.merchantId = p.merchantId ∧
      refunded.splits = p.splits ∧
      LedgerEntry.posted .MERCHANT .DEBIT event.entries = LedgerOutboxEvent.nonzero
        (LedgerOutboxEvent.debitsOf p.merchantId call.amount p.amount.amountMinorUnits
          (p.splits.getD [])) := by
  have hwithin := h.within
  have hrefund := refund_of_le (h.status (by omega)) h.currency hcurrency (by omega)
  obtain ⟨event, hevent, hposted⟩ := LedgerOutboxEvent.createRefundEntries_none convertTo
    h.positive.ne' h.plain (h.sharesTotal_le call.amount) call.eventId p.id p.merchantId call.now
  refine ⟨p.refundedWith call, event, ?_, ?_, rfl, rfl, rfl, hposted⟩
  · unfold PaymentAggregate.bookRefund
    rw [hrefund]
    refine bind_eq_ok.2 ⟨_, rfl, bind_eq_ok.2 ⟨event, ?_, rfl⟩⟩
    rw [show (p.refundedWith call).settlementConversion = none from h.unconverted]
    exact hevent
  · refine ⟨fun hn => ?_, ?_, ?_, h.positive, h.unconverted, h.plain, h.splits⟩
    · unfold refundedWith
      rw [if_neg (by omega)]
      exact .inr rfl
    · intro r hr
      rcases List.mem_append.1 hr with hr | hr
      · exact h.currency r hr
      · rw [List.mem_singleton.1 hr]
        exact hcurrency
    · simp only [refundedWith, refundedMinorUnits, List.map_append, List.sum_append, List.map_cons,
        List.map_nil, List.sum_cons, List.sum_nil] at hwithin ⊢
      omega

/-- So is every sequence of them. -/
lemma Refundable.bookRefunds {calls : List RefundCall} (h : p.Refundable (refundedBy calls))
    (hcalls : ∀ call ∈ calls, call.amount.currency = p.amount.currency ∧
      0 < call.amount.amountMinorUnits) :
    ∃ last events, p.bookRefunds convertTo calls = .ok (last, events) ∧
      List.Forall₂ (fun call event => LedgerEntry.posted .MERCHANT .DEBIT event.entries =
        LedgerOutboxEvent.nonzero (LedgerOutboxEvent.debitsOf p.merchantId call.amount
          p.amount.amountMinorUnits (p.splits.getD []))) calls events := by
  induction calls generalizing p with
  | nil => exact ⟨p, [], rfl, .nil⟩
  | cons call calls ih =>
    rw [List.forall_mem_cons] at hcalls
    obtain ⟨refunded, event, hbook, hrefundable, hamount, hmerchant, hsplits, hposted⟩ :=
      Refundable.bookRefund convertTo h hcalls.1.1 hcalls.1.2
    obtain ⟨last, events, hevents, hall⟩ := ih hrefundable (by rw [hamount]; exact hcalls.2)
    rw [hamount, hmerchant, hsplits] at hall
    refine ⟨last, event :: events, ?_, .cons hposted hall⟩
    unfold PaymentAggregate.bookRefunds
    rw [hbook]
    refine bind_eq_ok.2 ⟨_, rfl, ?_⟩
    dsimp only
    rw [hevents]
    rfl

end proportion

end PaymentAggregate

/-- The service books a refund so. -/
lemma PaymentLifecycle.refund_eq_bookRefund (env : RefundEnv) (payment : PaymentAggregate)
    (params : RefundParams) :
    refund env payment params = (do
      let (provider, txId, refundAmount) ← checkRefund payment params
      callPsp provider (.refund txId env.refundId refundAmount params.idempotencyKey)
      let pspResult ← env.answer
      checkRefundAnswer pspResult
      let (refunded, event) ← payment.bookRefund env.convertTo
        ⟨env.refundId, env.eventId, refundAmount, params.reason.getD "requested_by_customer",
          some pspResult.pspRefundId, env.now⟩
      saveIfUnchanged payment.toPersistence refunded event none env.now
      return refunded) := by
  unfold refund
  refine bind_congr fun checked => ?_
  obtain ⟨provider, txId, refundAmount⟩ := checked
  refine bind_congr fun _ => bind_congr fun answer => bind_congr fun _ => ?_
  unfold PaymentAggregate.bookRefund
  rw [Prog.liftM_bind_bind]
  refine bind_congr fun refunded => ?_
  rw [Prog.liftM_bind_bind]
  rfl

/-! ### Recipients -/

namespace LedgerOutboxEvent

open LedgerEntry

/-- What the splits of a recipient come to. -/
def recipientTotal (account : String) (units : PaymentSplit → Nat) (splits : List PaymentSplit) :
    Nat :=
  ((splits.filter (·.merchantId = account)).map units).sum

lemma recipientTotal_cons (account : String) (units : PaymentSplit → Nat) (split : PaymentSplit)
    (splits : List PaymentSplit) :
    recipientTotal account units (split :: splits) =
      (if split.merchantId = account then units split else 0) +
        recipientTotal account units splits := by
  by_cases h : split.merchantId = account <;> simp [recipientTotal, h]

lemma sumTo_debitsOf {account merchantId : String} (haccount : account ≠ merchantId)
    (refund : Money) (charge : Nat) (splits : List PaymentSplit) :
    sumTo account refund.currency (debitsOf merchantId refund charge splits) =
      recipientTotal account (fun s => (s.shareOf charge refund).amountMinorUnits) splits := by
  unfold debitsOf
  rw [sumTo_append, sumTo_cons, if_neg (fun h => haccount h.1.symm), sumTo_nil, Nat.add_zero]
  induction splits with
  | nil => rfl
  | cons split splits ih =>
    rw [List.map_cons, sumTo_cons, recipientTotal_cons, ih]
    simp [PaymentSplit.shareOf]

/-- Refunds of a charge within its amount take from a recipient no more than its splits, and when
they make up the amount, less than one unit for each split and refund is missing. -/
lemma recipientTotal_share (account : String) {charge : Nat} (hcharge : 0 < charge)
    (splits : List PaymentSplit) {refunds : List Money}
    (hle : (refunds.map Money.amountMinorUnits).sum ≤ charge) :
    (refunds.map fun refund => recipientTotal account
        (fun s => (s.shareOf charge refund).amountMinorUnits) splits).sum ≤
        recipientTotal account (·.amount.amountMinorUnits) splits ∧
      ((refunds.map Money.amountMinorUnits).sum = charge →
        recipientTotal account (·.amount.amountMinorUnits) splits +
            splits.countP (·.merchantId = account) ≤
          (refunds.map fun refund => recipientTotal account
            (fun s => (s.shareOf charge refund).amountMinorUnits) splits).sum +
            splits.countP (·.merchantId = account) * refunds.length) := by
  induction splits with
  | nil => simp [recipientTotal]
  | cons split splits ih =>
    have hshare : (refunds.map fun refund =>
        (split.shareOf charge refund).amountMinorUnits).sum =
        ((refunds.map Money.amountMinorUnits).map
          (share split.amount.amountMinorUnits charge)).sum := by
      rw [List.map_map]
      rfl
    simp only [recipientTotal_cons, List.sum_map_add, List.countP_cons]
    by_cases hrecipient : split.merchantId = account
    · have hupper := sum_share_le split.amount.amountMinorUnits hle hcharge
      rw [← hshare] at hupper
      simp only [hrecipient, if_true, decide_true]
      refine ⟨Nat.add_le_add hupper ih.1, fun hall => ?_⟩
      have hlower := le_sum_share_add split.amount.amountMinorUnits hall hcharge
      rw [← hshare, List.length_map] at hlower
      have hrest := ih.2 hall
      rw [Nat.add_mul, Nat.one_mul]
      omega
    · simp only [hrecipient, if_false, decide_false, Nat.zero_add]
      simpa using ih

end LedgerOutboxEvent

open LedgerEntry LedgerOutboxEvent PaymentAggregate in
/-- **Refunds are in proportion.**  However a charge without conversions is refunded, as long as the
refunds are within its amount: each goes through, and its debits, none of them below zero, add up to
it; from each split no more than its amount is taken; and when the refunds make up the charge, less
than one unit for each of them is missing, so that a single full refund takes back every split.  The
same in terms of accounts: of a recipient with several splits less than one unit for each is
missing. -/
theorem refunds_in_proportion (convertTo : Money.ConvertTo) {p : PaymentAggregate}
    {calls : List RefundCall} (hstatus : p.status = .SUCCEEDED) (hfresh : p.refunds = [])
    (hpositive : 0 < p.amount.amountMinorUnits)
    (hsplits : ((p.splits.getD []).map (·.amount.amountMinorUnits)).sum ≤ p.amount.amountMinorUnits)
    (hunconverted : p.settlementConversion = none ∧
      ∀ s ∈ p.splits.getD [], s.settlementConversion = none)
    (hcalls : ∀ call ∈ calls, call.amount.currency = p.amount.currency ∧
      0 < call.amount.amountMinorUnits)
    (hle : refundedBy calls ≤ p.amount.amountMinorUnits) :
    ∃ last events, p.bookRefunds convertTo calls = .ok (last, events) ∧
      List.Forall₂ (fun call event =>
        posted .MERCHANT .DEBIT event.entries = nonzero (debitsOf p.merchantId call.amount
          p.amount.amountMinorUnits (p.splits.getD [])) ∧
        sharesTotal call.amount p.amount.amountMinorUnits (p.splits.getD []) ≤
          call.amount.amountMinorUnits ∧
        unitsOf (posted .MERCHANT .DEBIT event.entries) = call.amount.amountMinorUnits)
        calls events ∧
      (∀ split ∈ p.splits.getD [],
        (calls.map fun call =>
          (split.shareOf p.amount.amountMinorUnits call.amount).amountMinorUnits).sum ≤
            split.amount.amountMinorUnits ∧
        (refundedBy calls = p.amount.amountMinorUnits → split.amount.amountMinorUnits <
          (calls.map fun call =>
            (split.shareOf p.amount.amountMinorUnits call.amount).amountMinorUnits).sum +
              calls.length)) ∧
      ∀ account ≠ p.merchantId,
        (events.map fun event => sumTo account p.amount.currency
          (posted .MERCHANT .DEBIT event.entries)).sum ≤
            recipientTotal account (·.amount.amountMinorUnits) (p.splits.getD []) ∧
        (refundedBy calls = p.amount.amountMinorUnits →
          recipientTotal account (·.amount.amountMinorUnits) (p.splits.getD []) +
              (p.splits.getD []).countP (·.merchantId = account) ≤
            (events.map fun event => sumTo account p.amount.currency
              (posted .MERCHANT .DEBIT event.entries)).sum +
              (p.splits.getD []).countP (·.merchantId = account) * calls.length) := by
  have hrefundable : p.Refundable (refundedBy calls) := by
    refine ⟨fun _ => .inl hstatus, ?_, ?_, hpositive, hunconverted.1, hunconverted.2, hsplits⟩
    · rw [hfresh]
      exact fun _ h => (nomatch h)
    · unfold refundedMinorUnits
      rw [hfresh]
      simpa using hle
  obtain ⟨last, events, hevents, hposted⟩ := hrefundable.bookRefunds convertTo hcalls
  have hamounts : (calls.map RefundCall.amount).map Money.amountMinorUnits =
      calls.map (·.amount.amountMinorUnits) := List.map_map
  refine ⟨last, events, hevents, ?_, fun split _ => ?_, fun account haccount => ?_⟩
  · refine hposted.imp fun call event h => ⟨h, hrefundable.sharesTotal_le call.amount, ?_⟩
    have hshares := hrefundable.sharesTotal_le call.amount
    rw [h, unitsOf_nonzero]
    simp only [unitsOf, debitsOf, List.map_append, List.sum_append, List.map_map, List.map_cons,
      List.map_nil, List.sum_cons, List.sum_nil, Nat.add_zero]
    exact Nat.add_sub_cancel' hshares
  · have hshare : (calls.map fun call =>
        (split.shareOf p.amount.amountMinorUnits call.amount).amountMinorUnits).sum =
        ((calls.map (·.amount.amountMinorUnits)).map
          (share split.amount.amountMinorUnits p.amount.amountMinorUnits)).sum := by
      rw [List.map_map]
      rfl
    rw [hshare]
    refine ⟨sum_share_le _ hle hpositive, fun hall => ?_⟩
    have hlower := le_sum_share_add split.amount.amountMinorUnits hall hpositive
    rwa [List.length_map] at hlower
  · -- what the events take from the account is its shares of the calls
    have hsum : (events.map fun event => sumTo account p.amount.currency
        (posted .MERCHANT .DEBIT event.entries)).sum =
        ((calls.map RefundCall.amount).map fun refund => recipientTotal account
          (fun s => (s.shareOf p.amount.amountMinorUnits refund).amountMinorUnits)
          (p.splits.getD [])).sum := by
      clear hevents hle hrefundable hamounts
      induction hposted with
      | nil => rfl
      | @cons call event calls events h _ ih =>
        rw [List.forall_mem_cons] at hcalls
        rw [List.map_cons, List.sum_cons, ih hcalls.2, h, sumTo_nonzero, ← hcalls.1.1,
          sumTo_debitsOf haccount]
        rfl
    have htotals := @recipientTotal_share account _ hpositive (p.splits.getD [])
      (calls.map RefundCall.amount) (by rw [hamounts]; exact hle)
    rw [hsum]
    rw [hamounts, List.length_map] at htotals
    exact htotals

namespace Sample

/-- Ten dollars, of which two sellers were paid a part. -/
def sold : PaymentAggregate :=
  { PaymentAggregate.create "payment-1" tenDollars "key-1" "platform-1" none none none 0 with
    status := .SUCCEEDED
    splits := some [⟨"seller-1", ⟨333, usd⟩, none⟩, ⟨"seller-2", ⟨200, usd⟩, none⟩] }

/-- Three refunds that make up the sale. -/
def threeRefunds : List RefundCall :=
  [⟨"refund-1", "event-2", ⟨250, usd⟩, "", none, 0⟩,
    ⟨"refund-2", "event-3", ⟨250, usd⟩, "", none, 0⟩,
    ⟨"refund-3", "event-4", ⟨500, usd⟩, "", none, 0⟩]

end Sample

open LedgerEntry Sample in
/-- Three refunds that make up ten dollars: a seller who was paid 333 cents is debited at least 331
of them. -/
theorem refunds_in_proportion_thrice :
    ∃ last events, sold.bookRefunds Money.convertTo threeRefunds = .ok (last, events) ∧
      (events.map fun event =>
        sumTo "seller-1" usd (posted .MERCHANT .DEBIT event.entries)).sum ≤ 333 ∧
      331 ≤ (events.map fun event =>
        sumTo "seller-1" usd (posted .MERCHANT .DEBIT event.entries)).sum := by
  obtain ⟨last, events, hevents, -, -, htotals⟩ := refunds_in_proportion Money.convertTo
    (show sold.status = .SUCCEEDED from rfl) rfl (by decide) (by decide) ⟨rfl, by decide⟩
    (show ∀ call ∈ threeRefunds, call.amount.currency = sold.amount.currency ∧
      0 < call.amount.amountMinorUnits by decide) (by decide)
  obtain ⟨hle, hge⟩ := htotals "seller-1" (by decide)
  have hge := hge (by decide)
  rw [show sold.amount.currency = usd from rfl] at hle hge
  rw [show LedgerOutboxEvent.recipientTotal "seller-1" (·.amount.amountMinorUnits)
      (sold.splits.getD []) = 333 by decide] at hle hge
  rw [show (sold.splits.getD []).countP (·.merchantId = "seller-1") = 1 by decide,
    show threeRefunds.length = 3 from rfl] at hge
  exact ⟨last, events, hevents, hle, by omega⟩

end OmniSwitch
