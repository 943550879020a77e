import OmniSwitch.Services.Ambiguous

/-!
# When a charge can be booked

`charge-ledger-params-resolver.service.ts` and `ledger-outbox.aggregate.ts` together: the resolver
accepts a charge exactly when the platform's fee, the reserve and the splits fit into its amount
and every recipient is a connected account, and a charge that it accepts can always be turned into
a ledger event.  So a booking fails only where the resolver refuses it.

Main results:

* `resolve_eq_ok`: which charges the resolver accepts;
* `LedgerOutboxEvent.createChargeEntries_of_resolve`: what it accepts can be booked.
-/

namespace OmniSwitch

open Lib ChargeLedgerParamsResolver Money

/-! ### Entries that balance -/

variable {entries : List LedgerEntry}

namespace LedgerEntry

lemma total_append (entryType : LedgerEntryType) (code : String) (xs ys : List LedgerEntry) :
    total entryType code (xs ++ ys) = total entryType code xs + total entryType code ys := by
  simp [total, List.filter_append]

lemma validateDoubleEntry_of_balanced
    (h : ∀ code, total .DEBIT code entries = total .CREDIT code entries) :
    validateDoubleEntry entries = .ok () := by
  unfold validateDoubleEntry
  rw [List.find?_eq_none.2 (by simp [h])]

/-- The entries credit `n` minor units of `c` more than they debit, and balance in every other
currency. -/
def Nets (entries : List LedgerEntry) (c : Currency) (n : Nat) : Prop :=
  ∀ code, total .CREDIT code entries =
    total .DEBIT code entries + if c.code = code then n else 0

lemma nets_nil (c : Currency) : Nets [] c 0 := by
  intro code
  simp [total]

lemma nets_credit (accountId : String) (accountType : AccountType) (amount : Money) :
    Nets [⟨accountId, accountType, .CREDIT, amount⟩] amount.currency amount.amountMinorUnits := by
  intro code
  by_cases h : amount.currency.code = code <;> simp [total, h]

lemma Nets.append {xs ys : List LedgerEntry} {c : Currency} {m n : Nat} (hx : Nets xs c m)
    (hy : Nets ys c n) : Nets (xs ++ ys) c (m + n) := by
  intro code
  have hx := hx code
  have hy := hy code
  rw [total_append, total_append]
  split_ifs at * <;> omega

lemma Nets.validate {amount : Money} (h : Nets entries amount.currency amount.amountMinorUnits)
    (accountId : String) (accountType : AccountType) :
    validateDoubleEntry (⟨accountId, accountType, .DEBIT, amount⟩ :: entries) = .ok () := by
  refine validateDoubleEntry_of_balanced fun code => ?_
  have hcode := h code
  rw [← List.singleton_append, total_append, total_append, hcode]
  by_cases hc : amount.currency.code = code <;> simp [total, hc, Nat.add_comm]

end LedgerEntry

namespace LedgerOutboxEvent

open LedgerEntry

lemma create_eq_ok {id paymentId : String} {eventType : LedgerEventType} {now : Date}
    (h : validateDoubleEntry entries = .ok ()) :
    create id paymentId eventType entries now =
      .ok ⟨id, paymentId, eventType, entries, now, h⟩ := by
  unfold create
  split
  · rfl
  · rename_i e he
    exact absurd (h.symm.trans he) (by simp)

lemma nets_payoutEntries (merchantId : String) (amount : Money)
    (conversion : Option AppliedConversion) :
    Nets (payoutEntries merchantId amount conversion) amount.currency amount.amountMinorUnits := by
  cases conversion with
  | none => exact nets_credit _ _ _
  | some conversion =>
    intro code
    by_cases h : amount.currency.code = code <;>
      by_cases h' : conversion.convertedAmount.currency.code = code <;>
      simp [payoutEntries, total, h, h', Nat.add_comm]

/-- What the splits come to. -/
def splitsTotal (splits : List ChargeSplit) : Nat :=
  (splits.map (·.amount.amountMinorUnits)).sum

lemma splitEntries_of_le {payout : Money} {splits : List ChargeSplit}
    (hcur : ∀ split ∈ splits, split.amount.currency = payout.currency)
    (hle : splitsTotal splits ≤ payout.amountMinorUnits) :
    ∃ entries, splitEntries payout splits =
        .ok (⟨payout.amountMinorUnits - splitsTotal splits, payout.currency⟩, entries) ∧
      Nets entries payout.currency (splitsTotal splits) := by
  induction splits generalizing payout with
  | nil => exact ⟨[], rfl, nets_nil _⟩
  | cons split splits ih =>
    have htotal : splitsTotal (split :: splits) =
        split.amount.amountMinorUnits + splitsTotal splits := by
      simp [splitsTotal]
    rw [htotal] at hle ⊢
    have hhead := hcur split List.mem_cons_self
    have hsub := subtract_eq_ok.2 ⟨hhead.symm, (by omega), rfl⟩
    obtain ⟨entries, hentries, hnets⟩ := @ih
      ⟨payout.amountMinorUnits - split.amount.amountMinorUnits, payout.currency⟩
      (fun s hs => hcur s (List.mem_cons_of_mem _ hs)) (Nat.le_sub_of_add_le' hle)
    refine ⟨payoutEntries split.merchantId split.amount split.settlementConversion ++ entries,
      ?_, ?_⟩
    · simp only [splitEntries, bind_eq_ok]
      refine ⟨_, hsub, _, hentries, ?_⟩
      rw [Nat.sub_sub]
    · have hpayout := nets_payoutEntries split.merchantId split.amount split.settlementConversion
      rw [hhead] at hpayout
      exact hpayout.append hnets

/-- The reserve's credit.

Source: `LedgerOutboxEvent.createChargeEntries` -/
def reserveEntries (merchantId : String) : Option Money → List LedgerEntry
  | some reserve => [⟨s!"{merchantId}_RESERVE", .RESERVE, .CREDIT, reserve⟩]
  | none => []

variable {reserve : Option Money}

lemma nets_reserveEntries {c : Currency} (hreserve : ∀ r ∈ reserve, r.currency = c)
    (merchantId : String) :
    Nets (reserveEntries merchantId reserve) c (reserve.elim 0 amountMinorUnits) := by
  cases reserve with
  | none => exact nets_nil _
  | some r =>
    rw [← hreserve r rfl]
    exact nets_credit _ _ _

lemma nets_remaining (merchantId : String) (conversion : Option AppliedConversion)
    (remaining : Money) :
    Nets (if remaining.isZero then [] else payoutEntries merchantId remaining conversion)
      remaining.currency remaining.amountMinorUnits := by
  split_ifs with hzero
  · rw [show remaining.amountMinorUnits = 0 from by simpa [isZero] using hzero]
    exact nets_nil _
  · exact nets_payoutEntries _ _ _

/-- A charge whose parts fit can be booked. -/
lemma createChargeEntries_of_le {amount fee : Money} {splits : Option (List ChargeSplit)}
    (hfee : fee.currency = amount.currency) (hreserve : ∀ r ∈ reserve, r.currency = amount.currency)
    (hsplits : ∀ split ∈ splits.getD [], split.amount.currency = amount.currency)
    (hle : fee.amountMinorUnits + (reserve.elim 0 amountMinorUnits) + splitsTotal (splits.getD [])
      ≤ amount.amountMinorUnits) (id paymentId merchantId : String)
    (conversion : Option AppliedConversion) (now : Date) :
    ∃ event, createChargeEntries id paymentId merchantId amount fee conversion reserve splits now =
      .ok event := by
  -- what is left of the amount after each of the three
  have hnet : amount.subtract fee =
      .ok ⟨amount.amountMinorUnits - fee.amountMinorUnits, amount.currency⟩ :=
    subtract_eq_ok.2 ⟨hfee.symm, by omega, rfl⟩
  have hpayout : payoutAmount ⟨amount.amountMinorUnits - fee.amountMinorUnits, amount.currency⟩
      reserve = .ok ⟨amount.amountMinorUnits - fee.amountMinorUnits -
        reserve.elim 0 amountMinorUnits, amount.currency⟩ := by
    cases reserve with
    | none => rfl
    | some r =>
      refine subtract_eq_ok.2 ⟨(hreserve r rfl).symm, ?_, rfl⟩
      change r.amountMinorUnits ≤ amount.amountMinorUnits - fee.amountMinorUnits
      simp only [Option.elim_some] at hle
      omega
  obtain ⟨legs, hlegs, hnets⟩ := @splitEntries_of_le
    ⟨amount.amountMinorUnits - fee.amountMinorUnits - reserve.elim 0 amountMinorUnits,
      amount.currency⟩ (splits.getD []) hsplits (by dsimp only; omega)
  have hfeeNets := nets_credit "PLATFORM_FEE_ACCOUNT" .FEE fee
  rw [hfee] at hfeeNets
  have hall := ((hfeeNets.append (nets_reserveEntries hreserve merchantId)).append hnets).append
    (nets_remaining merchantId conversion ⟨amount.amountMinorUnits - fee.amountMinorUnits -
      reserve.elim 0 amountMinorUnits - splitsTotal (splits.getD []), amount.currency⟩)
  rw [show fee.amountMinorUnits + reserve.elim 0 amountMinorUnits +
      splitsTotal (splits.getD []) + (amount.amountMinorUnits - fee.amountMinorUnits -
        reserve.elim 0 amountMinorUnits - splitsTotal (splits.getD [])) =
      amount.amountMinorUnits by omega] at hall
  exact ⟨_, bind_eq_ok.2 ⟨_, hnet, bind_eq_ok.2 ⟨_, hpayout, bind_eq_ok.2 ⟨_, hlegs,
    create_eq_ok (hall.validate "PSP_SETTLEMENT_ACCOUNT" .PSP_SETTLEMENT)⟩⟩⟩⟩

end LedgerOutboxEvent

/-! ### When the resolver accepts -/

/-- A number of basis points of an amount, rounded.

Source: `charge-ledger-params-resolver.service.ts` `resolve` (`amount.multiply(bps / 10_000)`) -/
def Money.basisPoints (m : Money) (bps : Nat) : Money :=
  ⟨(mathRound (m.amountMinorUnits * (bps / 10000))).toNat, m.currency⟩

lemma Money.multiply_basisPoints (m : Money) (bps : Nat) :
    m.multiply (bps / 10000) = .ok (m.basisPoints bps) := by
  have hnonneg : (0 : Rat) ≤ bps / 10000 := by positivity
  exact m.multiply_of_nonneg hnonneg

lemma Money.basisPoints_zero (m : Money) : m.basisPoints 0 = ⟨0, m.currency⟩ := by
  have hround : mathRound 0 = 0 := by decide +kernel
  simp [basisPoints, hround]

variable {params : ChargeLedgerParams}

namespace ChargeLedgerParamsResolver

/-- The platform's fee. -/
def feeOf (env : ChargeEnv) (merchantId : String) (amount : Money) : Money :=
  amount.basisPoints (resolvePlatformFeeBps env (env.findByMerchantId merchantId))

/-- What is left of a charge after the fee, if the fee is within it. -/
def netOf (env : ChargeEnv) (merchantId : String) (amount : Money) : Money :=
  ⟨amount.amountMinorUnits - (feeOf env merchantId amount).amountMinorUnits, amount.currency⟩

/-- The reserve. -/
def reserveOf (env : ChargeEnv) (merchantId : String) (amount : Money) : Money :=
  (netOf env merchantId amount).basisPoints
    ((env.findByMerchantId merchantId).elim 0 Merchant.reserveBps)

/-- The total that is asked for in splits, in minor units. -/
def requestedTotal (splits : List RequestedSplit) : Nat :=
  (splits.map (·.amount.amountMinorUnits)).sum

section

variable {env : ChargeEnv} {merchantId : String} {amount : Money} {splits : List RequestedSplit}

lemma splitTotal_eq_ok {start total : Money} :
    splitTotal env merchantId start splits = .ok total ↔
      (∀ split ∈ splits, isActiveRecipient env merchantId split.merchantId ∧
        split.amount.currency = start.currency) ∧
      total = ⟨start.amountMinorUnits + requestedTotal splits, start.currency⟩ := by
  induction splits generalizing start with
  | nil =>
    simp only [splitTotal, requestedTotal, List.map_nil, List.sum_nil, Nat.add_zero]
    exact ⟨fun h => ⟨by simp, (Except.ok.inj h).symm⟩, fun h => h.2 ▸ rfl⟩
  | cons split splits ih =>
    have hsum : requestedTotal (split :: splits) =
        split.amount.amountMinorUnits + requestedTotal splits := by
      simp [requestedTotal]
    simp only [List.forall_mem_cons, hsum]
    unfold splitTotal
    split_ifs with hactive
    · simp only [bind_eq_ok, add_eq_ok]
      constructor
      · rintro ⟨next, ⟨hcur, rfl⟩, h⟩
        obtain ⟨hall, rfl⟩ := ih.1 h
        exact ⟨⟨⟨hactive, hcur.symm⟩, hall⟩, by simp [Nat.add_assoc]⟩
      · rintro ⟨⟨⟨-, hcur⟩, hall⟩, rfl⟩
        exact ⟨_, ⟨hcur.symm, rfl⟩, ih.2 ⟨hall, by simp [Nat.add_assoc]⟩⟩
    · exact ⟨fun h => (by cases h), fun h => absurd h.1.1.1 hactive⟩

/-- The reserve's part of the parameters; a rate of zero is no reserve. -/
def reserveParams (merchant : Option Merchant) (net : Money) : Option ReserveParams :=
  merchant.bind fun merchant => if merchant.reserveBps = 0 then none else
    some ⟨net.basisPoints merchant.reserveBps, merchant.reserveHoldDays, net⟩

lemma reserveParams_amount (merchant : Option Merchant) (net : Money) :
    (reserveParams merchant net).elim 0 (·.amount.amountMinorUnits) =
      (net.basisPoints (merchant.elim 0 Merchant.reserveBps)).amountMinorUnits := by
  cases merchant with
  | none => rw [Option.elim_none, basisPoints_zero]; rfl
  | some merchant =>
    by_cases h : merchant.reserveBps = 0 <;>
      simp [reserveParams, h, basisPoints_zero]

lemma reserveParams_currency {merchant : Option Merchant} {net : Money} {r : ReserveParams}
    (h : reserveParams merchant net = some r) : r.amount.currency = net.currency := by
  obtain ⟨merchant, -, h⟩ := Option.bind_eq_some_iff.1 h
  split_ifs at h
  exact (Option.some.inj h) ▸ rfl

lemma resolveReserve_eq_ok {net : Money} {result : Option ReserveParams × Money}
    (merchant : Option Merchant) :
    resolveReserve merchant net = .ok result ↔
      (net.basisPoints (merchant.elim 0 Merchant.reserveBps)).amountMinorUnits ≤
        net.amountMinorUnits ∧
      result = (reserveParams merchant net, ⟨net.amountMinorUnits -
        (net.basisPoints (merchant.elim 0 Merchant.reserveBps)).amountMinorUnits,
        net.currency⟩) := by
  unfold resolveReserve reserveParams
  cases merchant with
  | none =>
    simp only [Option.elim_none, basisPoints_zero, Nat.zero_le, true_and, Option.bind_none,
      Nat.sub_zero]
    exact ⟨fun h => (Except.ok.inj h).symm, fun h => h ▸ rfl⟩
  | some merchant =>
    simp only [Option.elim_some, Option.bind_some]
    split_ifs with h0
    · simp only [h0, basisPoints_zero, Nat.zero_le, true_and, Nat.sub_zero]
      exact ⟨fun h => (Except.ok.inj h).symm, fun h => h ▸ rfl⟩
    · rw [multiply_basisPoints]
      simp only [bind_eq_ok, Except.ok.injEq, subtract_eq_ok]
      constructor
      · rintro ⟨_, rfl, _, ⟨-, hle, rfl⟩, rfl⟩
        exact ⟨hle, rfl⟩
      · rintro ⟨hle, rfl⟩
        exact ⟨_, rfl, _, ⟨rfl, hle, rfl⟩, rfl⟩

lemma resolveSplits_eq_ok {payout : Money} {result : Option (List ChargeSplit) × Money} :
    resolveSplits env merchantId payout splits = .ok result ↔
      (∀ split ∈ splits, isActiveRecipient env merchantId split.merchantId ∧
        split.amount.currency = payout.currency) ∧
      requestedTotal splits ≤ payout.amountMinorUnits ∧
      result = (if splits.isEmpty then none else some (splits.map fun split =>
          ⟨split.merchantId, split.amount,
            resolveSplitConversion env split.merchantId split.amount⟩),
        ⟨payout.amountMinorUnits - requestedTotal splits, payout.currency⟩) := by
  unfold resolveSplits
  split_ifs with hempty
  · obtain rfl := List.isEmpty_iff.1 hempty
    simp only [requestedTotal, List.map_nil, List.sum_nil, Nat.zero_le, true_and, Nat.sub_zero]
    exact ⟨fun h => ⟨by simp, (Except.ok.inj h).symm⟩, fun h => h.2 ▸ rfl⟩
  · have hzero : zero payout.currency.code = .ok ⟨0, payout.currency⟩ :=
      fromMinorUnits_code 0 payout.currency
    have htotal : (⟨0 + requestedTotal splits, payout.currency⟩ : Money) =
        ⟨requestedTotal splits, payout.currency⟩ := by rw [Nat.zero_add]
    simp only [hzero, bind_eq_ok, Except.ok.injEq, exists_eq_left', splitTotal_eq_ok, htotal,
      isGreaterThan_eq_ok]
    constructor
    · rintro ⟨_, ⟨hall, rfl⟩, _, ⟨-, rfl⟩, h⟩
      split_ifs at h with hgt
      obtain ⟨_, hsub, h⟩ := bind_eq_ok.1 h
      obtain ⟨-, hle, rfl⟩ := subtract_eq_ok.1 hsub
      exact ⟨hall, hle, (Except.ok.inj h).symm⟩
    · rintro ⟨hall, hle, rfl⟩
      refine ⟨_, ⟨hall, rfl⟩, _, ⟨rfl, rfl⟩, ?_⟩
      rw [if_neg (by simpa using hle)]
      exact bind_eq_ok.2 ⟨_, subtract_eq_ok.2 ⟨rfl, hle, rfl⟩, rfl⟩

/-- The fee, the reserve and the splits are within the amount, and every recipient is a connected
account of the merchant.

Source: `charge-ledger-params-resolver.service.ts` `resolve` -/
structure Fits (env : ChargeEnv) (merchantId : String) (amount : Money)
    (splits : List RequestedSplit) : Prop where
  recipients : ∀ split ∈ splits, isActiveRecipient env merchantId split.merchantId
  currencies : ∀ split ∈ splits, split.amount.currency = amount.currency
  within : (feeOf env merchantId amount).amountMinorUnits +
    (reserveOf env merchantId amount).amountMinorUnits + requestedTotal splits ≤
      amount.amountMinorUnits

/-- The parameters of a charge that is accepted. -/
def paramsOf (env : ChargeEnv) (merchantId : String) (amount : Money)
    (splits : List RequestedSplit) : ChargeLedgerParams where
  platformFee := feeOf env merchantId amount
  settlementConversion := convert env
    ⟨(netOf env merchantId amount).amountMinorUnits -
      (reserveOf env merchantId amount).amountMinorUnits - requestedTotal splits, amount.currency⟩
    ((env.findByMerchantId merchantId).bind Merchant.settlementCurrency)
  reserveHold := reserveParams (env.findByMerchantId merchantId) (netOf env merchantId amount)
  splits := if splits.isEmpty then none else some (splits.map fun split =>
    ⟨split.merchantId, split.amount, resolveSplitConversion env split.merchantId split.amount⟩)
  enabledPspProviders := (env.findByMerchantId merchantId).map Merchant.enabledPspProviders

/-- **The resolver accepts exactly the charges that fit.** -/
theorem resolve_eq_ok :
    resolve env merchantId amount splits = .ok params ↔
      Fits env merchantId amount splits ∧ params = paramsOf env merchantId amount splits := by
  unfold resolve
  dsimp only
  rw [multiply_basisPoints]
  simp only [bind_eq_ok, Except.ok.injEq, exists_eq_left', subtract_eq_ok,
    resolveReserve_eq_ok, resolveSplits_eq_ok]
  constructor
  · rintro ⟨_, ⟨-, hfee, rfl⟩, _, ⟨hreserve, rfl⟩, _, ⟨hall, htotal, rfl⟩, rfl⟩
    refine ⟨⟨fun split hsplit => (hall split hsplit).1, fun split hsplit => (hall split hsplit).2,
      ?_⟩, rfl⟩
    change (feeOf env merchantId amount).amountMinorUnits ≤ _ at hfee
    change (reserveOf env merchantId amount).amountMinorUnits ≤
      amount.amountMinorUnits - (feeOf env merchantId amount).amountMinorUnits at hreserve
    change _ ≤ amount.amountMinorUnits - (feeOf env merchantId amount).amountMinorUnits -
      (reserveOf env merchantId amount).amountMinorUnits at htotal
    omega
  · rintro ⟨hfits, rfl⟩
    have hwithin := hfits.within
    refine ⟨_, ⟨rfl, ?_, rfl⟩, _, ⟨?_, rfl⟩, _,
      ⟨fun split hsplit => ⟨hfits.recipients split hsplit, hfits.currencies split hsplit⟩, ?_, rfl⟩,
      rfl⟩
    · change (feeOf env merchantId amount).amountMinorUnits ≤ _
      omega
    · change (reserveOf env merchantId amount).amountMinorUnits ≤
        amount.amountMinorUnits - (feeOf env merchantId amount).amountMinorUnits
      omega
    · change _ ≤ amount.amountMinorUnits - (feeOf env merchantId amount).amountMinorUnits -
        (reserveOf env merchantId amount).amountMinorUnits
      omega

/-- When the resolver accepts a charge. -/
lemma exists_resolve_iff :
    (∃ params, resolve env merchantId amount splits = .ok params) ↔
      Fits env merchantId amount splits := by
  simp [resolve_eq_ok]

end

end ChargeLedgerParamsResolver

variable {splits : List RequestedSplit}

/-- **What the resolver accepts can be booked**: the ledger event of the charge exists. -/
theorem LedgerOutboxEvent.createChargeEntries_of_resolve {env : ChargeEnv} {merchantId : String}
    {amount : Money} (h : resolve env merchantId amount splits = .ok params)
    (id paymentId merchantId' : String) (now : Date) :
    ∃ event, createChargeEntries id paymentId merchantId' amount params.platformFee
      params.settlementConversion (params.reserveHold.map (·.amount)) params.splits now =
        .ok event := by
  obtain ⟨hfits, rfl⟩ := resolve_eq_ok.1 h
  have hsplits : (paramsOf env merchantId amount splits).splits.getD [] =
      splits.map fun split => ⟨split.merchantId, split.amount,
        resolveSplitConversion env split.merchantId split.amount⟩ := by
    cases splits <;> rfl
  refine createChargeEntries_of_le ?_ ?_ ?_ ?_ id paymentId merchantId' _ now
  · rfl
  · intro r hr
    obtain ⟨reserve, hreserve, rfl⟩ := Option.map_eq_some_iff.1 hr
    have hcur := reserveParams_currency hreserve
    exact hcur
  · rw [hsplits]
    intro split hsplit
    obtain ⟨requested, hrequested, rfl⟩ := List.mem_map.1 hsplit
    exact hfits.currencies requested hrequested
  · rw [hsplits]
    have hreserve := reserveParams_amount
      (env.findByMerchantId merchantId)
      (netOf env merchantId amount)
    have htotal : splitsTotal (splits.map fun split => ⟨split.merchantId, split.amount,
        resolveSplitConversion env split.merchantId split.amount⟩) =
        requestedTotal splits := by
      simp [splitsTotal, requestedTotal, Function.comp_def]
    rw [htotal, Option.elim_map]
    refine le_trans (le_of_eq ?_) hfits.within
    exact congrArg (_ + · + _) hreserve

/-! ### The booking alone -/

/-- A charge that the resolver accepted is booked: the payment is saved as it is, with a charge of
its amount in the ledger. -/
lemma run_bookCharge {env : BookingEnv} {payment : PaymentAggregate}
    (h : resolve env.charge payment.merchantId payment.amount splits = .ok params) (db : Db) :
    ∃ p event hold, (bookCharge env payment params).run db =
        (db.commit p.toPersistence event hold env.now, .ok p) ∧
      payment.SameRecords p ∧ p.status = payment.status ∧
      event.Charges payment.id payment.amount := by
  obtain ⟨hconv, hconv'⟩ := payment.recordConversion_sameRecords payment.amount params env.now
  obtain ⟨hfin, hfin'⟩ :=
    (payment.recordConversion payment.amount params env.now).finalizeSplits_sameRecords params
  have hsame := hconv.trans hfin
  unfold bookCharge
  generalize (payment.recordConversion payment.amount params env.now).finalizeSplits params =
    booked at hsame hfin'
  obtain ⟨event, hevent⟩ := LedgerOutboxEvent.createChargeEntries_of_resolve h env.eventId booked.id
    booked.merchantId env.now
  have hcharges := LedgerOutboxEvent.createChargeEntries_ok hevent
  rw [hsame.id] at hcharges
  refine ⟨booked, event, params.reserveHold.map fun reserve =>
    ReserveHold.create env.holdId booked.id booked.merchantId reserve env.now, ?_, hsame,
    hfin'.trans hconv', hcharges⟩
  dsimp only
  rw [hsame.amount, run_liftM_bind, hevent]
  rfl

end OmniSwitch
