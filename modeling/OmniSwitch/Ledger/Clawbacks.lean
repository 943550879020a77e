import Mathlib.Algebra.BigOperators.Ring.Finset
import OmniSwitch.Ledger.Refunds
import OmniSwitch.Settlement

/-!
# Converted payouts taken back in parts

A recipient that is settled in a currency of its own is credited its split converted, and rounded
half up.  Each refund converts its share of the split at the same rate and rounds again, so that the
parts may come to more than the whole: by up to one half for each refund that is rounded up.

Main results:

* `clawbacks_within_payout`: what is taken back is within the payout, if few refunds are rounded up;
* `clawbacks_exceed_payout`: two refunds that take back more.
-/

namespace OmniSwitch

open Lib ChargeSplit

/-! ### Rounding -/

/-- The number is rounded up. -/
def roundsUp (x : Rat) : Bool := 1 / 2 ≤ x - x.floor

lemma mathRound_le (x : Rat) : (mathRound x : Rat) ≤ x + 1 / 2 := by
  unfold mathRound
  exact Rat.floor_le _

variable {x : Rat}

lemma mathRound_le_of_not_roundsUp (h : roundsUp x = false) :
    (mathRound x : Rat) ≤ x := by
  have hlt : x - x.floor < 1 / 2 := not_le.1 (of_decide_eq_false h)
  have hround : mathRound x ≤ x.floor := by
    unfold mathRound
    rw [← Int.lt_add_one_iff, Rat.floor_lt_iff]
    push_cast
    linarith
  have hfloor := Rat.floor_le x
  have hcast : (mathRound x : Rat) ≤ (x.floor : Rat) := by exact_mod_cast hround
  exact hcast.trans hfloor

lemma mathRound_mono {y : Rat} (h : x ≤ y) : mathRound x ≤ mathRound y := by
  unfold mathRound
  exact Rat.floor_monotone (by linarith)

/-- Rounded numbers exceed their sum by at most one half for each that is rounded up. -/
lemma sum_mathRound_le_add (xs : List Rat) :
    ((xs.map mathRound).sum : Rat) ≤ xs.sum + (xs.countP roundsUp : Rat) / 2 := by
  induction xs with
  | nil => simp
  | cons x xs ih =>
    rw [List.map_cons, List.sum_cons, List.sum_cons, List.countP_cons, Int.cast_add, Nat.cast_add]
    cases hup : roundsUp x with
    | false =>
      have hx := mathRound_le_of_not_roundsUp hup
      rw [if_neg Bool.false_ne_true, Nat.cast_zero]
      linarith
    | true =>
      have hx := mathRound_le x
      rw [if_pos rfl, Nat.cast_one]
      linarith

lemma sum_mathRound_le {xs : List Rat} (h : xs.countP roundsUp ≤ 1) :
    (xs.map mathRound).sum ≤ mathRound xs.sum := by
  have hsum := sum_mathRound_le_add xs
  have hcount : (xs.countP roundsUp : Rat) ≤ 1 := by exact_mod_cast h
  unfold mathRound at hsum ⊢
  rw [Rat.le_floor_iff]
  linarith

/-- Shares of a part, converted at one rate and rounded one by one, come to no more than the part,
converted and rounded, if at most one of them is rounded up. -/
lemma sum_mathRound_share_le {part charge : Nat} {ns : List Nat} {rate : Rat} (hrate : 0 ≤ rate)
    (hcharge : 0 < charge) (hle : ns.sum ≤ charge)
    (hcount : (ns.countP fun n => roundsUp ((share part charge n : Nat) * rate)) ≤ 1) :
    (ns.map fun n => mathRound ((share part charge n : Nat) * rate)).sum ≤
      mathRound (part * rate) := by
  have hsum : (ns.map fun n => ((share part charge n : Nat) : Rat) * rate).sum ≤ part * rate := by
    rw [List.sum_map_mul_right]
    refine mul_le_mul_of_nonneg_right ?_ hrate
    have hshares := sum_share_le part hle hcharge
    have hcast : ((ns.map (share part charge)).sum : Rat) ≤ part := by exact_mod_cast hshares
    rwa [Nat.cast_list_sum, List.map_map] at hcast
  have hround := @sum_mathRound_le (ns.map fun n => ((share part charge n : Nat) : Rat) * rate)
    (by rw [List.countP_map]; exact hcount)
  rw [List.map_map] at hround
  exact hround.trans (mathRound_mono hsum)

/-! ### What a conversion comes to -/

variable {c : Currency}

namespace Money

/-- The amount in another currency, before it is rounded to minor units.

Source: `Money.convertTo` -/
def convertedUnits (m : Money) (c : Currency) (rate : Rat) : Rat :=
  m.amount * rate * c.decimalFactor

/-- A rate between minor units. -/
def unitRate (a b : Currency) (rate : Rat) : Rat := rate * b.decimalFactor / a.decimalFactor

lemma convertedUnits_eq (n : Nat) (a c : Currency) (rate : Rat) :
    convertedUnits ⟨n, a⟩ c rate = n * unitRate a c rate := by
  unfold convertedUnits unitRate amount
  ring

variable {rate : Rat}

lemma unitRate_nonneg (a b : Currency) (h : 0 < rate) : 0 ≤ unitRate a b rate := by
  unfold unitRate
  positivity

variable {converted : Money}

lemma convertTo_code_eq_ok {m : Money} (h : m.convertTo c.code rate = .ok converted) :
    converted.currency = c ∧
      (converted.amountMinorUnits : Int) = mathRound (m.convertedUnits c rate) := by
  unfold convertTo of at h
  rw [Currency.of_code] at h
  simp only [bind, Except.bind, make] at h
  split_ifs at h with hneg
  obtain rfl := Except.ok.inj h
  exact ⟨rfl, Int.toNat_of_nonneg (not_lt.1 hneg)⟩

lemma convertTo_currency {m : Money} {code : String} (h : m.convertTo code rate = .ok converted) :
    m.convertTo converted.currency.code rate = .ok converted := by
  obtain ⟨c, hc, hof⟩ := bind_eq_ok.1 h
  obtain ⟨c', hc', hmake⟩ := bind_eq_ok.1 hof
  obtain rfl := Except.ok.inj (hc.symm.trans hc')
  have hcurrency : converted.currency = c := by
    unfold make at hmake
    split_ifs at hmake
    exact (Except.ok.inj hmake) ▸ rfl
  rw [hcurrency]
  unfold convertTo of
  rw [Currency.of_code]
  exact hmake

end Money

namespace LedgerOutboxEvent

open LedgerEntry

/-- What is taken in one currency for an amount, at a recorded conversion if there is one. -/
def takenIn (c : Currency) (amount : Money) : Option SettlementConversion → Nat
  | none => if amount.currency = c then amount.amountMinorUnits else 0
  | some conversion => if conversion.currency = c.code then
      (mathRound (amount.convertedUnits c conversion.rate)).toNat else 0

/-- The conversion is to a currency, by its code. -/
def ToCurrency (conversion : Option SettlementConversion) : Prop :=
  ∀ x ∈ conversion, ∃ c : Currency, x.currency = c.code

variable {conversion : Option SettlementConversion}

lemma units_replay {amount : Money} {applied : Option AppliedConversion}
    (hcurrency : ToCurrency conversion)
    (h : replay Money.convertTo amount conversion = .ok applied) :
    (if (payoutOf amount applied).currency = c then (payoutOf amount applied).amountMinorUnits
      else 0) = takenIn c amount conversion := by
  cases conversion with
  | none =>
    obtain rfl := Except.ok.inj h
    rfl
  | some conversion =>
    obtain ⟨converted, hconverted, h⟩ := bind_eq_ok.1 h
    obtain rfl := Except.ok.inj h
    obtain ⟨target, htarget⟩ := hcurrency conversion rfl
    rw [htarget] at hconverted
    obtain ⟨rfl, hunits⟩ := Money.convertTo_code_eq_ok hconverted
    unfold takenIn payoutOf
    dsimp only
    rw [htarget]
    by_cases hc : converted.currency = c
    · subst hc
      rw [if_pos rfl, if_pos rfl, ← hunits, Int.toNat_natCast]
    · have hcode : converted.currency.code ≠ c.code := by
        intro hcode
        exact hc (Currency.equals_iff.1 (by simp [Currency.equals, hcode]))
      rw [if_neg hc, if_neg hcode]

variable {account : String}

lemma sumTo_debitEntries {accountId : String} {amount : Money} {entries : List LedgerEntry}
    (hcurrency : ToCurrency conversion)
    (h : debitEntries Money.convertTo accountId amount conversion = .ok entries) :
    sumTo account c (posted .MERCHANT .DEBIT entries) =
      if accountId = account then takenIn c amount conversion else 0 := by
  rcases posted_debitEntries h with ⟨hzero, hposted⟩ | ⟨-, applied, happlied, hposted⟩
  · -- nothing converts to nothing
    have htaken : takenIn c amount conversion = 0 := by
      cases conversion with
      | none => simp [takenIn, hzero]
      | some conversion =>
        have hround : mathRound 0 = 0 := by decide +kernel
        simp [takenIn, Money.convertedUnits, Money.amount, hzero, hround]
    rw [hposted, htaken, ite_self]
    rfl
  · rw [hposted, sumTo_cons, sumTo_nil, Nat.add_zero, ← units_replay hcurrency happlied]
    dsimp only
    by_cases haccount : accountId = account <;> simp [haccount]

variable {splits : List PaymentSplit} {legs : List (List LedgerEntry)}

lemma sumTo_splitLegs {refund : Money} {charge : Nat}
    (hcurrency : ∀ s ∈ splits, ToCurrency s.settlementConversion)
    (h : splitLegs Money.convertTo refund charge splits = .ok legs) :
    sumTo account c (posted .MERCHANT .DEBIT legs.flatten) = recipientTotal account
      (fun s => takenIn c (s.shareOf charge refund) s.settlementConversion) splits := by
  induction splits generalizing legs with
  | nil =>
    obtain rfl := Except.ok.inj h
    rfl
  | cons split splits ih =>
    obtain ⟨leg, rest, hleg, hrest, rfl⟩ := splitLegs_cons h
    rw [List.forall_mem_cons] at hcurrency
    rw [List.flatten_cons, posted_append, sumTo_append, sumTo_debitEntries hcurrency.1 hleg,
      ih hcurrency.2 hrest, recipientTotal_cons]

/-- What a refund takes from one who is not the charging merchant, conversions included. -/
lemma TakesBack.sumTo {event : LedgerOutboxEvent} {merchantId : String} {refund : Money}
    {charge : Nat} {leg : List LedgerEntry}
    (h : event.TakesBack Money.convertTo merchantId refund charge conversion splits legs leg)
    (haccount : account ≠ merchantId)
    (hcurrency : ∀ s ∈ splits, ToCurrency s.settlementConversion) :
    LedgerEntry.sumTo account c (posted .MERCHANT .DEBIT event.entries) = recipientTotal account
      (fun s => takenIn c (s.shareOf charge refund) s.settlementConversion) splits := by
  have hleg : LedgerEntry.sumTo account c (posted .MERCHANT .DEBIT leg) = 0 := by
    refine sumTo_eq_zero fun x hx => ?_
    rcases posted_debitEntries h.rest with ⟨-, hposted⟩ | ⟨-, applied, -, hposted⟩
    · rw [hposted] at hx
      nomatch hx
    · rw [hposted, List.mem_singleton] at hx
      rw [hx]
      exact haccount.symm
  rw [h.entries, posted_append, posted_append, sumTo_append, sumTo_append, hleg,
    sumTo_splitLegs hcurrency h.recipients]
  simp [posted]

end LedgerOutboxEvent

/-! ### Refund after refund -/

/-- Of the refunds of a charge, at most one has a share of the split that is rounded up when it is
converted. -/
def ChargeSplit.RoundsUpOnce (split : ChargeSplit) (charge : Nat) (refunds : List Money) : Prop :=
  ∀ conversion ∈ split.settlementConversion, (refunds.countP fun refund =>
    roundsUp (Money.convertedUnits
      ⟨share split.amount.amountMinorUnits charge refund.amountMinorUnits, refund.currency⟩
      conversion.convertedAmount.currency conversion.rate)) ≤ 1

/-- A split was credited with what its amount is converted to, at a positive rate.

Source: `charge-ledger-params-resolver.service.ts` `resolveSplitConversion` -/
def ChargeSplit.Converted (split : ChargeSplit) : Prop :=
  ∀ conversion ∈ split.settlementConversion, 0 < conversion.rate ∧
    ∃ target, split.amount.convertTo target conversion.rate = .ok conversion.convertedAmount

namespace LedgerOutboxEvent

open LedgerEntry

section

variable {charge : Nat} {refunds : List Money} {c : Currency}

/-- What refunds take from the recipient of one split is at most what it was credited. -/
lemma sum_takenIn_le {split : ChargeSplit} (hcharge : 0 < charge)
    (hle : (refunds.map Money.amountMinorUnits).sum ≤ charge)
    (hcurrency : ∀ refund ∈ refunds, refund.currency = split.amount.currency)
    (hconverted : split.Converted) (honce : split.RoundsUpOnce charge refunds) :
    (refunds.map fun refund => takenIn c (split.recorded.shareOf charge refund)
        split.recorded.settlementConversion).sum ≤
      if split.payout.2.currency = c then split.payout.2.amountMinorUnits else 0 := by
  unfold payout
  cases hconversion : split.settlementConversion with
  | none =>
    have htaken : (refunds.map fun refund => takenIn c (split.recorded.shareOf charge refund)
        split.recorded.settlementConversion) = refunds.map fun refund =>
        if split.amount.currency = c then
          share split.amount.amountMinorUnits charge refund.amountMinorUnits else 0 := by
      refine List.map_congr_left fun refund hrefund => ?_
      unfold recorded
      rw [hconversion, ← hcurrency refund hrefund]
      rfl
    rw [htaken]
    unfold payoutOf
    by_cases hc : split.amount.currency = c
    · simp only [hc, if_true]
      simpa [Function.comp_def] using sum_share_le split.amount.amountMinorUnits hle hcharge
    · simp [hc]
  | some conversion =>
    obtain ⟨hrate, target, htarget⟩ := hconverted conversion hconversion
    have honce := honce conversion hconversion
    obtain ⟨-, hunits⟩ := Money.convertTo_code_eq_ok (Money.convertTo_currency htarget)
    unfold payoutOf
    dsimp only
    by_cases hc : conversion.convertedAmount.currency = c
    · subst hc
      have hshare : ∀ refund ∈ refunds, (split.recorded.shareOf charge refund).convertedUnits
          conversion.convertedAmount.currency conversion.rate =
          (share split.amount.amountMinorUnits charge refund.amountMinorUnits : Nat) *
            Money.unitRate split.amount.currency conversion.convertedAmount.currency
              conversion.rate := by
        intro refund hrefund
        unfold PaymentSplit.shareOf
        rw [hcurrency refund hrefund, Money.convertedUnits_eq]
        rfl
      have hbound := sum_mathRound_share_le (Money.unitRate_nonneg split.amount.currency
        conversion.convertedAmount.currency hrate) hcharge hle (by
          refine le_trans (le_of_eq ?_) honce
          rw [List.countP_map]
          refine List.countP_congr fun refund hrefund => ?_
          rw [Function.comp_apply, ← hshare refund hrefund]
          rfl)
      rw [← Money.convertedUnits_eq, List.map_map] at hbound
      rw [if_pos rfl, ← Int.ofNat_le]
      refine le_trans (le_of_eq ?_) (hbound.trans (le_of_eq hunits.symm))
      rw [Nat.cast_list_sum, List.map_map]
      refine congrArg List.sum (List.map_congr_left fun refund hrefund => ?_)
      have htaken : takenIn conversion.convertedAmount.currency
          (split.recorded.shareOf charge refund) split.recorded.settlementConversion =
          (mathRound ((split.recorded.shareOf charge refund).convertedUnits
            conversion.convertedAmount.currency conversion.rate)).toNat := by
        rw [show split.recorded.settlementConversion = some
          ⟨conversion.convertedAmount.currency.code, conversion.rate, conversion.provider⟩ by
            unfold recorded
            rw [hconversion]
            rfl]
        exact if_pos rfl
      rw [Function.comp_apply, htaken, hshare refund hrefund]
      exact Int.toNat_of_nonneg (mathRound_nonneg (mul_nonneg (Nat.cast_nonneg _)
        (Money.unitRate_nonneg _ _ hrate)))
    · have hcode : conversion.convertedAmount.currency.code ≠ c.code := by
        intro hcode
        exact hc (Currency.equals_iff.1 (by simp [Currency.equals, hcode]))
      have hzero : ∀ refund, takenIn c (split.recorded.shareOf charge refund)
          split.recorded.settlementConversion = 0 := by
        intro refund
        unfold recorded
        simp [hconversion, takenIn, hcode]
      simp [hzero, hc]

lemma sum_recipientTotal_le {splits : List ChargeSplit} (account : String) (hcharge : 0 < charge)
    (hle : (refunds.map Money.amountMinorUnits).sum ≤ charge)
    (hsplits : ∀ split ∈ splits, (∀ refund ∈ refunds, refund.currency = split.amount.currency) ∧
      split.Converted ∧ split.RoundsUpOnce charge refunds) :
    (refunds.map fun refund => recipientTotal account
        (fun s => takenIn c (s.shareOf charge refund) s.settlementConversion)
        (splits.map recorded)).sum ≤
      sumTo account c (splits.map payout) := by
  induction splits with
  | nil => simp [recipientTotal]
  | cons split splits ih =>
    rw [List.forall_mem_cons] at hsplits
    obtain ⟨⟨hcurrency, hconverted, honce⟩, hrest⟩ := hsplits
    have hhead := @sum_takenIn_le _ _ c split hcharge hle hcurrency hconverted honce
    simp only [List.map_cons, recipientTotal_cons, List.sum_map_add, sumTo_cons]
    refine Nat.add_le_add ?_ (ih hrest)
    by_cases haccount : split.merchantId = account
    · simp only [recorded, payout, haccount, if_true, true_and] at hhead ⊢
      exact hhead
    · simp [recorded, haccount]

end

end LedgerOutboxEvent

open LedgerEntry PaymentAggregate in
/-- **What is taken back is within the payout.**  Refunds of a charge, at most one of which is
rounded up for each converted split, take from a recipient in every currency no more than it was
credited. -/
theorem clawbacks_within_payout {p last : PaymentAggregate} {calls : List RefundCall}
    {events : List LedgerOutboxEvent} {splits : List ChargeSplit}
    (hrecorded : p.splits = some (toPaymentSplits splits))
    (hcurrency : ∀ split ∈ splits, split.amount.currency = p.amount.currency)
    (hconverted : ∀ split ∈ splits, split.Converted)
    (honce : ∀ split ∈ splits,
      split.RoundsUpOnce p.amount.amountMinorUnits (calls.map RefundCall.amount))
    (hbooked : p.bookRefunds Money.convertTo calls = .ok (last, events)) :
    ∀ account ≠ p.merchantId, ∀ c,
      (events.map fun event => sumTo account c (posted .MERCHANT .DEBIT event.entries)).sum ≤
        sumTo account c (splits.map payout) := by
  intro account haccount c
  obtain ⟨hwithin, hcurrencies, htaken⟩ := bookRefunds_takesBack hbooked
  rw [hrecorded, Option.getD_some] at htaken
  unfold toPaymentSplits at htaken
  have hcodes : ∀ s ∈ splits.map recorded,
      LedgerOutboxEvent.ToCurrency s.settlementConversion := by
    intro s hs x hx
    obtain ⟨split, -, rfl⟩ := List.mem_map.1 hs
    obtain ⟨conversion, -, rfl⟩ := Option.mem_map.1 hx
    exact ⟨_, rfl⟩
  have hsum : (events.map fun event => sumTo account c
      (posted .MERCHANT .DEBIT event.entries)).sum =
      ((calls.map RefundCall.amount).map fun refund => LedgerOutboxEvent.recipientTotal account
        (fun s => LedgerOutboxEvent.takenIn c (s.shareOf p.amount.amountMinorUnits refund)
          s.settlementConversion) (splits.map recorded)).sum := by
    clear hbooked hwithin hcurrencies honce
    induction htaken with
    | nil => rfl
    | cons h _ ih =>
      obtain ⟨-, legs, leg, htakes⟩ := h
      rw [List.map_cons, List.sum_cons, ih, htakes.sumTo haccount hcodes]
      rfl
  rw [hsum]
  by_cases hnil : calls = []
  · subst hnil
    exact Nat.zero_le _
  by_cases hempty : splits = []
  · subst hempty
    refine le_of_eq (List.sum_eq_zero fun x hx => ?_)
    obtain ⟨refund, -, rfl⟩ := List.mem_map.1 hx
    rfl
  have hpositive : 0 < p.amount.amountMinorUnits := by
    cases htaken with
    | nil => exact absurd rfl hnil
    | cons h _ => exact Nat.pos_of_ne_zero (h.1.resolve_right (by simpa using hempty))
  refine LedgerOutboxEvent.sum_recipientTotal_le account hpositive ?_ fun split hsplit =>
    ⟨?_, hconverted split hsplit, honce split hsplit⟩
  · have hwithin := hwithin hnil
    rw [List.map_map]
    exact (Nat.le_add_left _ _).trans hwithin
  · intro refund hrefund
    obtain ⟨call, hcall, rfl⟩ := List.mem_map.1 hrefund
    exact (hcurrencies call hcall).trans (hcurrency split hsplit).symm

namespace Sample

/-- A part of 3.33 dollars that was paid out as 3 euros. -/
def paidInEuros : ChargeSplit := ⟨"seller-1", ⟨333, usd⟩, some ⟨⟨300, eur⟩, 9 / 10, "fixed"⟩⟩

/-- The sale, with a seller who is paid in euros. -/
def soldInEuros : PaymentAggregate := { sold with splits := some (toPaymentSplits [paidInEuros]) }

/-- Two refunds that make up the sale. -/
def twoRefunds : List RefundCall :=
  [⟨"refund-1", "event-2", ⟨250, usd⟩, "", none, 0⟩,
    ⟨"refund-2", "event-3", ⟨750, usd⟩, "", none, 0⟩]

end Sample

open LedgerEntry Sample in
/-- Only the first of two refunds is rounded up. -/
theorem clawbacks_within_payout_twice :
    ∃ last events, soldInEuros.bookRefunds Money.convertTo twoRefunds = .ok (last, events) ∧
      (events.map fun event =>
        sumTo "seller-1" eur (posted .MERCHANT .DEBIT event.entries)).sum ≤ 300 := by
  cases hbooked : soldInEuros.bookRefunds Money.convertTo twoRefunds with
  | error e =>
    have hok : (soldInEuros.bookRefunds Money.convertTo twoRefunds).toOption.isSome := by
      decide +kernel
    rw [hbooked] at hok
    nomatch hok
  | ok booked =>
    refine ⟨booked.1, booked.2, rfl, ?_⟩
    have hconverted : ∀ split ∈ [paidInEuros], split.Converted := by
      intro split hsplit conversion hconversion
      obtain rfl := List.mem_singleton.1 hsplit
      obtain rfl := Option.some.inj hconversion
      exact ⟨by decide +kernel, "EUR", by decide +kernel⟩
    have honce : ∀ split ∈ [paidInEuros], split.RoundsUpOnce
        soldInEuros.amount.amountMinorUnits (twoRefunds.map RefundCall.amount) := by
      intro split hsplit conversion hconversion
      obtain rfl := List.mem_singleton.1 hsplit
      obtain rfl := Option.some.inj hconversion
      decide +kernel
    exact clawbacks_within_payout (show soldInEuros.splits = some _ from rfl) (by decide)
      hconverted honce hbooked "seller-1" (by decide) eur

namespace Sample

open PaymentCheckoutSaga PaymentLifecycle

/-- A sale of which a seller who is settled in euros gets a part. -/
def sale (share : Nat) : Db :=
  ((execute { answered .SUCCEEDED with booking := ⟨"event-1", "hold-1", 0, marketplace⟩ }
    { input with
      merchantId := "platform-1"
      splits := [⟨"seller-1", ⟨share, usd⟩⟩] }).run Db.empty).1

/-- Half of the payment is refunded. -/
def refundHalf (refundId : String) (db : Db) : Db :=
  ((refundCall (refundEnv refundId) input.paymentId ⟨some 5, none, refundId⟩).run db).1

/-- What the ledger has on one side of an account. -/
def ledgerTotal (entryType : LedgerEntryType) (account : String) (c : Currency) (db : Db) : Nat :=
  (db.ledgerOutbox.map fun event =>
    LedgerEntry.sumTo account c (LedgerEntry.posted .MERCHANT entryType event.entries)).sum

end Sample

open Sample in
/-- Of a sale of ten dollars 3.30 go to a seller, who is credited 2.97 euros.  Each of two refunds
of one half takes 1.65 dollars of it, which is 1.485 euros, and is rounded up: 2.98 euros are
debited. -/
theorem clawbacks_exceed_payout :
    ledgerTotal .CREDIT "seller-1" eur (sale 330) = 297 ∧
      ledgerTotal .DEBIT "seller-1" eur
        (refundHalf "refund-2" (refundHalf "refund-1" (sale 330))) = 298 := by
  decide +kernel

end OmniSwitch
