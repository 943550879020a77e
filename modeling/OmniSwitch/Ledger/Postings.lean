import OmniSwitch.Services.Booking

/-!
# What a charge posts to whom

The resolver and `createChargeEntries` compute the net amount, the payout and the remainder each on
its own.  Here the two are put together: which accounts a charge that the resolver accepts is posted
to, and with what.

Main results:

* `createChargeEntries_divides`: an event divides the amount that it collects;
* `charge_conserves_money`: so does every charge that the resolver accepts.
-/

namespace OmniSwitch

open Lib

namespace LedgerEntry

/-- The postings of one kind to accounts of one type: each account, with its amount. -/
def posted (accountType : AccountType) (entryType : LedgerEntryType)
    (entries : List LedgerEntry) : List (String × Money) :=
  (entries.filter fun e => e.accountType = accountType ∧ e.entryType = entryType).map fun e =>
    (e.accountId, e.amount)

/-- What the postings come to for one account, in one currency. -/
def sumTo (account : String) (c : Currency) (postings : List (String × Money)) : Nat :=
  ((postings.filter fun x => x.1 = account ∧ x.2.currency = c).map (·.2.amountMinorUnits)).sum

section

variable {accountType : AccountType} {entryType : LedgerEntryType} {account : String}
  {c : Currency}

@[simp] lemma posted_nil : posted accountType entryType [] = [] := rfl

@[simp] lemma posted_append (xs ys : List LedgerEntry) :
    posted accountType entryType (xs ++ ys) =
      posted accountType entryType xs ++ posted accountType entryType ys := by
  simp [posted]

@[simp] lemma sumTo_nil : sumTo account c [] = 0 := rfl

@[simp] lemma sumTo_append (xs ys : List (String × Money)) :
    sumTo account c (xs ++ ys) = sumTo account c xs + sumTo account c ys := by
  simp [sumTo]

lemma sumTo_cons (x : String × Money) (xs : List (String × Money)) :
    sumTo account c (x :: xs) =
      (if x.1 = account ∧ x.2.currency = c then x.2.amountMinorUnits else 0) +
        sumTo account c xs := by
  by_cases h : x.1 = account ∧ x.2.currency = c <;> simp [sumTo, h]

lemma sumTo_eq_zero {postings : List (String × Money)} (h : ∀ x ∈ postings, x.1 ≠ account) :
    sumTo account c postings = 0 := by
  induction postings with
  | nil => rfl
  | cons x xs ih =>
    rw [List.forall_mem_cons] at h
    rw [sumTo_cons, if_neg (fun hx => h.1 hx.1), ih h.2]

end

lemma balanced_of_validate {entries : List LedgerEntry}
    (h : validateDoubleEntry entries = .ok ()) (code : String) :
    total .DEBIT code entries = total .CREDIT code entries := by
  unfold validateDoubleEntry at h
  split at h
  · rename_i hnone
    by_cases hmem : code ∈ entries.map (·.amount.currency.code)
    · have hcode := List.find?_eq_none.1 hnone code (by simpa using hmem)
      simpa using hcode
    · -- no entry is in this currency
      have hzero : ∀ entryType, total entryType code entries = 0 := by
        intro entryType
        have hfilter : entries.filter (fun e => e.entryType = entryType ∧
            e.amount.currency.code = code) = [] := by
          refine List.filter_eq_nil_iff.2 fun e he hcode => hmem ?_
          exact List.mem_map.2 ⟨e, he, (of_decide_eq_true hcode).2⟩
        unfold total
        rw [hfilter]
        rfl
      rw [hzero, hzero]
  · nomatch h

end LedgerEntry

/-- What a payee of `amount` is credited: the amount, or what it was converted to.

Source: `LedgerOutboxEvent.createChargeEntries` -/
def payoutOf (amount : Money) : Option AppliedConversion → Money
  | none => amount
  | some conversion => conversion.convertedAmount

/-- What a recipient is paid. -/
def ChargeSplit.payout (split : ChargeSplit) : String × Money :=
  (split.merchantId, payoutOf split.amount split.settlementConversion)

/-- The fee, the reserve and the recipients with their shares are the same; the conversions may
differ. -/
structure ChargeLedgerParams.SameShares (params params' : ChargeLedgerParams) : Prop where
  platformFee : params'.platformFee = params.platformFee
  reserveHold : params'.reserveHold = params.reserveHold
  splits : (params'.splits.getD []).map (fun s => (s.merchantId, s.amount)) =
    (params.splits.getD []).map fun s => (s.merchantId, s.amount)

namespace LedgerOutboxEvent

open LedgerEntry

/-- The event collects `amount` and divides it into the fee, the reserve, the splits and the
remainder, and credits each payee with its payout; a remainder of zero is no posting.

Source: `LedgerOutboxEvent.createChargeEntries` -/
structure Divides (event : LedgerOutboxEvent) (merchantId : String) (amount fee : Money)
    (conversion : Option AppliedConversion) (reserve : Option Money) (splits : List ChargeSplit)
    (remainder : Money) : Prop where
  currency : remainder.currency = amount.currency
  conserved : amount.amountMinorUnits = fee.amountMinorUnits +
    reserve.elim 0 Money.amountMinorUnits + splitsTotal splits + remainder.amountMinorUnits
  collected : posted .PSP_SETTLEMENT .DEBIT event.entries = [("PSP_SETTLEMENT_ACCOUNT", amount)]
  platform : posted .FEE .CREDIT event.entries = [("PLATFORM_FEE_ACCOUNT", fee)]
  withheld : posted .RESERVE .CREDIT event.entries =
    reserve.toList.map fun held => (s!"{merchantId}_RESERVE", held)
  merchants : posted .MERCHANT .CREDIT event.entries = splits.map ChargeSplit.payout ++
    if remainder.isZero then [] else [(merchantId, payoutOf remainder conversion)]

lemma posted_payoutEntries (merchantId : String) (amount : Money)
    (conversion : Option AppliedConversion) :
    posted .MERCHANT .CREDIT (payoutEntries merchantId amount conversion) =
      [(merchantId, payoutOf amount conversion)] := by
  cases conversion <;> rfl

lemma posted_payoutEntries_of_ne {accountType : AccountType} (hm : accountType ≠ .MERCHANT)
    (hx : accountType ≠ .FX_CLEARING) (entryType : LedgerEntryType) (merchantId : String)
    (amount : Money) (conversion : Option AppliedConversion) :
    posted accountType entryType (payoutEntries merchantId amount conversion) = [] := by
  cases conversion <;> simp [posted, payoutEntries, hm.symm, hx.symm]

section

variable {remaining left : Money} {splits : List ChargeSplit} {entries : List LedgerEntry}

lemma splitEntries_posts (h : splitEntries remaining splits = .ok (left, entries)) :
    left.currency = remaining.currency ∧
      remaining.amountMinorUnits = splitsTotal splits + left.amountMinorUnits ∧
      posted .MERCHANT .CREDIT entries = splits.map ChargeSplit.payout ∧
      ∀ accountType entryType, accountType ≠ .MERCHANT → accountType ≠ .FX_CLEARING →
        posted accountType entryType entries = [] := by
  induction splits generalizing remaining left entries with
  | nil =>
    obtain ⟨rfl, rfl⟩ := Prod.mk.inj (Except.ok.inj h)
    exact ⟨rfl, by simp [splitsTotal], rfl, fun _ _ _ _ => rfl⟩
  | cons split splits ih =>
    simp only [splitEntries, bind_eq_ok] at h
    obtain ⟨next, hnext, ⟨left', rest⟩, hrest, h⟩ := h
    obtain ⟨rfl, rfl⟩ := Prod.mk.inj (Except.ok.inj h)
    obtain ⟨-, hle, rfl⟩ := Money.subtract_eq_ok.1 hnext
    obtain ⟨hcurrency, hamount, hposted, hother⟩ := ih hrest
    refine ⟨hcurrency, ?_, ?_, fun accountType entryType hm hx => ?_⟩
    · simp only [splitsTotal, List.map_cons, List.sum_cons] at hamount ⊢
      omega
    · rw [posted_append, posted_payoutEntries, hposted]
      rfl
    · rw [posted_append, posted_payoutEntries_of_ne hm hx, hother accountType entryType hm hx,
        List.nil_append]

end

variable {merchantId : String} {conversion : Option AppliedConversion} {reserve : Option Money}
  {event : LedgerOutboxEvent}

/-- **Every charge event divides the amount it collects.** -/
theorem createChargeEntries_divides {id paymentId : String} {amount fee : Money}
    {splits : Option (List ChargeSplit)} {now : Date}
    (h : createChargeEntries id paymentId merchantId amount fee conversion reserve splits now = .ok
      event) :
    ∃ remainder, event.Divides merchantId amount fee conversion reserve (splits.getD [])
      remainder := by
  simp only [createChargeEntries, bind_eq_ok] at h
  obtain ⟨net, hnet, payout, hpayout, ⟨remaining, legs⟩, hlegs, h⟩ := h
  obtain ⟨-, -, hentries⟩ := create_ok h
  obtain ⟨-, hfee, rfl⟩ := Money.subtract_eq_ok.1 hnet
  obtain ⟨hcurrency, hamount, hmerchants, hother⟩ := splitEntries_posts hlegs
  obtain ⟨hpayoutCurrency, hpayoutAmount⟩ : payout.currency = amount.currency ∧
      amount.amountMinorUnits - fee.amountMinorUnits =
        reserve.elim 0 Money.amountMinorUnits + payout.amountMinorUnits := by
    cases reserve with
    | none =>
      obtain rfl := Except.ok.inj hpayout
      simp
    | some held =>
      obtain ⟨-, hle, rfl⟩ := Money.subtract_eq_ok.1 hpayout
      dsimp only at hle ⊢
      simp only [Option.elim_some]
      exact ⟨trivial, by omega⟩
  -- the remainder's leg posts to the merchant and to the clearing account only
  have hleg : ∀ accountType entryType, accountType ≠ .MERCHANT → accountType ≠ .FX_CLEARING →
      posted accountType entryType (if remaining.isZero then [] else
        payoutEntries merchantId remaining conversion) = [] := by
    intro accountType entryType hm hx
    split_ifs
    · rfl
    · exact posted_payoutEntries_of_ne hm hx _ _ _ _
  have hremaining : posted .MERCHANT .CREDIT (if remaining.isZero then [] else
      payoutEntries merchantId remaining conversion) =
      if remaining.isZero then [] else [(merchantId, payoutOf remaining conversion)] := by
    split_ifs
    · rfl
    · exact posted_payoutEntries _ _ _
  refine ⟨remaining, hcurrency.trans hpayoutCurrency, by omega, ?_, ?_, ?_, ?_⟩ <;>
    rw [hentries, posted_append, posted_append, posted_append]
  case refine_4 =>
    rw [hmerchants, hremaining]
    cases reserve <;> rfl
  all_goals
    rw [hother _ _ (by decide) (by decide), hleg _ _ (by decide) (by decide)]
    cases reserve <;> rfl

lemma Divides.remainder_eq {amount fee remainder : Money} {splits : List ChargeSplit}
    (h : event.Divides merchantId amount fee conversion reserve splits remainder) :
    remainder = ⟨amount.amountMinorUnits - fee.amountMinorUnits -
      reserve.elim 0 Money.amountMinorUnits - splitsTotal splits, amount.currency⟩ := by
  have hconserved := h.conserved
  have hcurrency := h.currency
  obtain ⟨units, currency⟩ := remainder
  dsimp only at hconserved hcurrency
  rw [hcurrency]
  congr 1
  omega

end LedgerOutboxEvent

namespace ChargeLedgerParamsResolver

variable {env : ChargeEnv} {merchantId : String} {amount : Money} {splits : List RequestedSplit}

/-- What is left of a charge for the charging merchant. -/
def remainderOf (env : ChargeEnv) (merchantId : String) (amount : Money)
    (splits : List RequestedSplit) : Money :=
  ⟨(netOf env merchantId amount).amountMinorUnits -
    (reserveOf env merchantId amount).amountMinorUnits - requestedTotal splits, amount.currency⟩

lemma convert_eq_some {m : Money} {currency : Option String} {conversion : AppliedConversion}
    (h : convert env m currency = some conversion) :
    ∃ target, currency = some target ∧ target ≠ m.currency.code ∧
      env.convertTo m target conversion.rate = .ok conversion.convertedAmount := by
  unfold convert at h
  split at h
  · nomatch h
  · rename_i target htarget
    split_ifs at h with hsame
    split at h
    · nomatch h
    · rename_i rate provider hrate
      split at h
      · rename_i converted hconverted
        obtain rfl := Option.some.inj h
        exact ⟨target, (Option.filter_eq_some_iff.1 htarget).1, hsame, hconverted⟩
      · nomatch h

lemma paramsOf_splits :
    ((paramsOf env merchantId amount splits).splits.getD []).map
      (fun s => (s.merchantId, s.amount)) = splits.map fun s => (s.merchantId, s.amount) := by
  unfold paramsOf
  cases splits <;> simp

variable {params : ChargeLedgerParams}

lemma taken_paramsOf (h : (paramsOf env merchantId amount splits).SameShares params) :
    params.platformFee = feeOf env merchantId amount ∧
      (params.reserveHold.map (·.amount)).elim 0 Money.amountMinorUnits =
        (reserveOf env merchantId amount).amountMinorUnits ∧
      LedgerOutboxEvent.splitsTotal (params.splits.getD []) = requestedTotal splits := by
  refine ⟨h.platformFee, ?_, ?_⟩
  · rw [h.reserveHold, Option.elim_map]
    exact reserveParams_amount _ _
  · have hshares := congrArg (List.map fun x : String × Money => x.2.amountMinorUnits)
      (h.splits.trans paramsOf_splits)
    rw [List.map_map, List.map_map] at hshares
    exact congrArg List.sum hshares

lemma exists_charge_of_fits (hfits : Fits env merchantId amount splits)
    (h : (paramsOf env merchantId amount splits).SameShares params) (id paymentId : String)
    (now : Date) :
    ∃ event, LedgerOutboxEvent.createChargeEntries id paymentId merchantId amount
      params.platformFee params.settlementConversion (params.reserveHold.map (·.amount))
      params.splits now = .ok event := by
  obtain ⟨hfee, hreserve, htotal⟩ := taken_paramsOf h
  refine LedgerOutboxEvent.createChargeEntries_of_le ?_ ?_ ?_ ?_ id paymentId merchantId _ now
  · rw [hfee]
    rfl
  · intro held hheld
    rw [h.reserveHold] at hheld
    obtain ⟨reserve, hreserve, rfl⟩ := Option.map_eq_some_iff.1 hheld
    have hcurrency := reserveParams_currency hreserve
    exact hcurrency
  · intro split hsplit
    have hmem : (split.merchantId, split.amount) ∈
        splits.map fun s => (s.merchantId, s.amount) := by
      rw [← paramsOf_splits, ← h.splits]
      exact List.mem_map_of_mem hsplit
    obtain ⟨requested, hrequested, heq⟩ := List.mem_map.1 hmem
    rw [← (Prod.mk.inj heq).2]
    exact hfits.currencies requested hrequested
  · rw [hfee, hreserve, htotal]
    exact hfits.within

end ChargeLedgerParamsResolver

open ChargeLedgerParamsResolver LedgerEntry in
/-- **A charge that the resolver accepts conserves money.**  It can be booked, whichever of its
payouts are converted and whatever the conversions come to; the event balances in every currency;
the fee, the reserve, the splits and a remainder add up to the amount; and the remainder, or what it
was converted to, is what the charging merchant is credited. -/
theorem charge_conserves_money {env : ChargeEnv} {merchantId : String} {amount : Money}
    {splits : List RequestedSplit} {params : ChargeLedgerParams}
    (hresolve : resolve env merchantId amount splits = .ok params) :
    ∃ remainder : Money,
      (∀ conversion, params.settlementConversion = some conversion →
        ∃ target, env.convertTo remainder target conversion.rate =
          .ok conversion.convertedAmount) ∧
      ∀ params' : ChargeLedgerParams, params.SameShares params' →
        ∀ (id paymentId : String) (now : Date), ∃ event,
          LedgerOutboxEvent.createChargeEntries id paymentId merchantId amount
            params'.platformFee params'.settlementConversion (params'.reserveHold.map (·.amount))
            params'.splits now = .ok event ∧
          (∀ code, total .DEBIT code event.entries = total .CREDIT code event.entries) ∧
          event.Divides merchantId amount params'.platformFee params'.settlementConversion
            (params'.reserveHold.map (·.amount)) (params'.splits.getD []) remainder ∧
          (isActiveRecipient env merchantId merchantId = false → ∀ c,
            sumTo merchantId c (posted .MERCHANT .CREDIT event.entries) =
              if remainder.isZero = false ∧
                  (payoutOf remainder params'.settlementConversion).currency = c
              then (payoutOf remainder params'.settlementConversion).amountMinorUnits else 0) := by
  obtain ⟨hfits, rfl⟩ := resolve_eq_ok.1 hresolve
  refine ⟨remainderOf env merchantId amount splits, ?_, ?_⟩
  · intro conversion hconversion
    obtain ⟨target, -, -, hconverted⟩ := convert_eq_some hconversion
    exact ⟨target, hconverted⟩
  intro params' hsame id paymentId now
  obtain ⟨hfee, hreserve, htotal⟩ := taken_paramsOf hsame
  obtain ⟨event, hevent⟩ := exists_charge_of_fits hfits hsame id paymentId now
  obtain ⟨remainder, hdivides⟩ := LedgerOutboxEvent.createChargeEntries_divides hevent
  -- the remainder that the factory computes is the resolver's
  obtain rfl : remainder = remainderOf env merchantId amount splits := by
    rw [hdivides.remainder_eq, hfee, hreserve, htotal]
    rfl
  refine ⟨event, hevent, balanced_of_validate event.balanced, hdivides, fun hself c => ?_⟩
  have hothers : sumTo merchantId c ((params'.splits.getD []).map ChargeSplit.payout) = 0 := by
    refine sumTo_eq_zero fun x hx heq => ?_
    obtain ⟨split, hsplit, rfl⟩ := List.mem_map.1 hx
    have hmem : (split.merchantId, split.amount) ∈
        splits.map fun s => (s.merchantId, s.amount) := by
      rw [← paramsOf_splits, ← hsame.splits]
      exact List.mem_map_of_mem hsplit
    obtain ⟨requested, hrequested, hpair⟩ := List.mem_map.1 hmem
    have hactive := hfits.recipients requested hrequested
    rw [(Prod.mk.inj hpair).1, show split.merchantId = merchantId from heq, hself] at hactive
    nomatch hactive
  rw [hdivides.merchants, sumTo_append, hothers, Nat.zero_add]
  by_cases hzero : (remainderOf env merchantId amount splits).isZero
  · simp [hzero]
  · simp [hzero, sumTo_cons]

namespace Sample

/-- Euros. -/
def eur : Currency := ⟨"EUR", by decide, by decide⟩

/-- A platform with a reserve of ten percent that is settled in euros, and two sellers, one of whom
is settled in euros, too. -/
def marketplace : ChargeEnv where
  findByMerchantId id :=
    if id = "platform-1" then
      some { merchantId := id, reserveBps := 1000, settlementCurrency := some "EUR"
             payoutReserveBps_le := noReserve_le }
    else if id = "seller-1" then
      some { merchantId := id, accountType := .CONNECTED, platformMerchantId := some "platform-1",
             settlementCurrency := some "EUR", payoutReserveBps_le := noReserve_le }
    else some { merchantId := id, accountType := .CONNECTED,
                platformMerchantId := some "platform-1", payoutReserveBps_le := noReserve_le }
  volume := 0
  getRate _ _ := some (9 / 10, "fixed")

/-- Two sellers. -/
def twoSellers : List RequestedSplit := [⟨"seller-1", ⟨333, usd⟩⟩, ⟨"seller-2", ⟨200, usd⟩⟩]

end Sample

open ChargeLedgerParamsResolver LedgerEntry Sample in
/-- Ten dollars, of which two sellers get a part. -/
theorem charge_conserves_money_marketplace :
    ∃ params remainder, resolve marketplace "platform-1" tenDollars twoSellers = .ok params ∧
      ∃ event, LedgerOutboxEvent.createChargeEntries "event-1" "payment-1" "platform-1" tenDollars
          params.platformFee params.settlementConversion (params.reserveHold.map (·.amount))
          params.splits 0 = .ok event ∧
        event.Divides "platform-1" tenDollars params.platformFee params.settlementConversion
          (params.reserveHold.map (·.amount)) (params.splits.getD []) remainder := by
  obtain ⟨params, hparams⟩ := exists_resolve_iff.2
    (show Fits marketplace "platform-1" tenDollars twoSellers from
      ⟨by decide, by decide, by decide +kernel⟩)
  obtain ⟨remainder, -, hall⟩ := charge_conserves_money hparams
  obtain ⟨event, hevent, -, hdivides, -⟩ := hall params ⟨rfl, rfl, rfl⟩ "event-1" "payment-1" 0
  exact ⟨params, remainder, hparams, event, hevent, hdivides⟩

end OmniSwitch
