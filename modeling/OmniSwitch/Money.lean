import Mathlib.Data.Rat.Floor
import Mathlib.Data.List.DropRight
import OmniSwitch.Lib.Prog

/-!
# Currencies and money

`currency.vo.ts` and `money.vo.ts`.  A `Currency` is an upper-case three-character code and a
`Money` a number of minor units of one currency; both carry what their private constructors
check, so an amount below zero or an unnormalised code cannot be built.  JavaScript numbers are
modelled by exact rationals and `Math.round` by rounding half up.

Main results:

* `Currency.normalize_normalize`: the codes that `Currency.of` accepts are normalised;
* `Money.add_eq_ok`, `Money.subtract_eq_ok`, `Money.sum_eq_ok`: when the operations succeed, and
  with what amount;
* `Money.multiply_of_le_one`: a part of an amount is no more than the amount.
-/

namespace OmniSwitch

open Lib

/-- What the application throws: an HTTP exception with its body, a plain `Error`, or an error
of a PSP call with the two properties the routing code looks at.

Source: `payment-lifecycle.service.ts`, `payment-processor.factory.ts` -/
inductive AppError where
  | http (statusCode : Nat) (error code : String)
  | plain (message : String)
  | psp (message : String) (isAmbiguousOutcome : Bool) (statusCode : Option Nat)
  deriving DecidableEq, Repr

/-- Milliseconds since the epoch. -/
abbrev Date := Nat

/-! ### Currency -/

/-- `toUpperCase().trim()`.

Source: `Currency.of` -/
def Currency.normalize (code : String) : String :=
  String.ofList (((code.toList.map Char.toUpper).dropWhile Char.isWhitespace).rdropWhile
    Char.isWhitespace)

lemma toUpper_of_not_lower {c : Char} (h : ¬ ('a'.val ≤ c.val ∧ c.val ≤ 'z'.val)) :
    c.toUpper = c :=
  dif_neg h

/-- Upper case is idempotent on a character. -/
lemma toUpper_toUpper (c : Char) : c.toUpper.toUpper = c.toUpper := by
  by_cases h : 'a'.val ≤ c.val ∧ c.val ≤ 'z'.val
  · have hv : c.toUpper.val = c.val + ('A'.val - 'a'.val) := by
      unfold Char.toUpper
      rw [dif_pos h]
    refine toUpper_of_not_lower ?_
    rw [hv]
    grind
  · rw [toUpper_of_not_lower h, toUpper_of_not_lower h]

/-- What is trimmed on both sides has nothing left to trim on the left. -/
lemma dropWhile_rdropWhile {α : Type} (p : α → Bool) (l : List α) :
    ((l.dropWhile p).rdropWhile p).dropWhile p = (l.dropWhile p).rdropWhile p := by
  cases h : (l.dropWhile p).rdropWhile p with
  | nil => rfl
  | cons x xs =>
    -- the trimmed list starts as `l.dropWhile p` does, with an element that fails `p`
    obtain ⟨t, ht⟩ : (x :: xs) <+: l.dropWhile p := h ▸ List.rdropWhile_prefix p _
    have hne : l.dropWhile p ≠ [] := by simp [← ht]
    have hx : p x = false := by
      have := List.head_dropWhile_not p hne
      simpa [← ht] using this
    exact List.dropWhile_cons_of_neg (by simp [hx])

/-- A normalised code stays as it is. -/
lemma Currency.normalize_normalize (code : String) :
    normalize (normalize code) = normalize code := by
  unfold normalize
  generalize hl : code.toList.map Char.toUpper = l
  have hup : ∀ c ∈ l, c.toUpper = c := by
    subst hl
    intro c hc
    obtain ⟨d, -, rfl⟩ := List.mem_map.1 hc
    exact toUpper_toUpper d
  have hsub : ∀ c ∈ (l.dropWhile Char.isWhitespace).rdropWhile Char.isWhitespace, c ∈ l :=
    fun c hc => List.dropWhile_subset _ ((List.rdropWhile_prefix _ _).subset hc)
  have hmap : ((l.dropWhile Char.isWhitespace).rdropWhile Char.isWhitespace).map Char.toUpper =
      (l.dropWhile Char.isWhitespace).rdropWhile Char.isWhitespace := by
    conv_rhs => rw [← List.map_id ((l.dropWhile Char.isWhitespace).rdropWhile _)]
    exact List.map_congr_left fun c hc => hup c (hsub c hc)
  rw [String.toList_ofList, hmap, dropWhile_rdropWhile, List.rdropWhile_idempotent]

/-- A currency: a normalised three-character code. -/
structure Currency where
  code : String
  normalized : Currency.normalize code = code
  length_eq : code.length = 3
  deriving DecidableEq, Repr

namespace Currency

/-- The codes of the currencies without decimals. -/
def zeroDecimal : List String :=
  ["BIF", "CLP", "DJF", "GNF", "JPY", "KMF", "KRW", "MGA", "PYG", "RWF", "UGX", "VND", "VUV",
    "XAF", "XOF", "XPF"]

/-- The codes of the currencies with three decimals. -/
def threeDecimal : List String := ["BHD", "IQD", "JOD", "KWD", "LYD", "OMR", "TND"]

/-- `CURRENCY_MAP[code] ?? 2`: every code the map lists with two decimals has the default.

Source: `Currency.CURRENCY_MAP` -/
def minorUnits (c : Currency) : Nat :=
  if c.code ∈ zeroDecimal then 0 else if c.code ∈ threeDecimal then 3 else 2

/-- The number of minor units in a major one. -/
def decimalFactor (c : Currency) : Nat := 10 ^ c.minorUnits

/-- Source: `Currency.of` -/
def of (code : String) : Except AppError Currency :=
  if h : (normalize code).length = 3 then
    .ok ⟨normalize code, normalize_normalize code, h⟩
  else
    .error (.plain s!"Invalid currency code: {code}. Must be 3 characters (ISO-4217).")

/-- Source: `Currency.equals` -/
def equals (a b : Currency) : Bool := a.code == b.code

@[simp] lemma equals_iff {a b : Currency} : a.equals b = true ↔ a = b := by
  obtain ⟨a, _, _⟩ := a
  obtain ⟨b, _, _⟩ := b
  simp [equals]

@[simp] lemma of_code (c : Currency) : of c.code = .ok c := by
  obtain ⟨code, hn, hl⟩ := c
  simp [of, hn, hl]

end Currency

/-! ### Money -/

/-- `Math.round`: the nearest integer, halves upwards. -/
def mathRound (x : Rat) : Int := (x + 1 / 2).floor

lemma mathRound_nonneg {x : Rat} (h : 0 ≤ x) : 0 ≤ mathRound x := by
  unfold mathRound
  rw [Rat.le_floor_iff]
  push_cast
  linarith

/-- A number of minor units of one currency.  The private constructor refuses negative amounts,
so the minor units are a natural number. -/
structure Money where
  amountMinorUnits : Nat
  currency : Currency
  deriving DecidableEq, Repr

namespace Money

/-- The private constructor, on a number of minor units that may be negative.

Source: `Money.constructor` -/
def make (minorUnits : Int) (currency : Currency) : Except AppError Money :=
  if minorUnits < 0 then
    .error (.plain s!"Money amount cannot be negative: {minorUnits}")
  else
    .ok ⟨minorUnits.toNat, currency⟩

/-- Source: `Money.of` -/
def of (amount : Rat) (currencyCode : String) : Except AppError Money := do
  let currency ← Currency.of currencyCode
  make (mathRound (amount * currency.decimalFactor)) currency

/-- Source: `Money.fromMinorUnits` -/
def fromMinorUnits (minorUnits : Nat) (currencyCode : String) : Except AppError Money := do
  let currency ← Currency.of currencyCode
  .ok ⟨minorUnits, currency⟩

/-- Source: `Money.zero` -/
def zero (currencyCode : String) : Except AppError Money := fromMinorUnits 0 currencyCode

/-- The amount in major units. -/
def amount (m : Money) : Rat := m.amountMinorUnits / m.currency.decimalFactor

/-- `toFixed(digits)` of a whole number of `10 ^ -digits`. -/
def toFixed (minorUnits digits : Nat) : String :=
  if digits = 0 then toString minorUnits
  else
    let fraction := toString (minorUnits % 10 ^ digits)
    toString (minorUnits / 10 ^ digits) ++ "." ++
      String.ofList (List.replicate (digits - fraction.length) '0') ++ fraction

/-- Source: `Money.toString` -/
protected def toString (m : Money) : String :=
  toFixed m.amountMinorUnits m.currency.minorUnits ++ " " ++ m.currency.code

/-- Source: `Money.assertSameCurrency` -/
def assertSameCurrency (a b : Money) : Except AppError Unit :=
  if a.currency.equals b.currency then .ok ()
  else .error (.plain (s!"Currency mismatch: {a.currency.code} vs {b.currency.code}. " ++
    "Use convertTo() first."))

/-- Source: `Money.add` -/
def add (a b : Money) : Except AppError Money := do
  assertSameCurrency a b
  .ok ⟨a.amountMinorUnits + b.amountMinorUnits, a.currency⟩

/-- Source: `Money.subtract` -/
def subtract (a b : Money) : Except AppError Money := do
  assertSameCurrency a b
  if a.amountMinorUnits < b.amountMinorUnits then
    .error (.plain s!"Subtraction would result in negative money: {a.toString} - {b.toString}")
  else
    .ok ⟨a.amountMinorUnits - b.amountMinorUnits, a.currency⟩

/-- Source: `Money.multiply` -/
def multiply (m : Money) (factor : Rat) : Except AppError Money :=
  make (mathRound (m.amountMinorUnits * factor)) m.currency

/-- The rate snapshot the source attaches to the result is read by nothing modelled here. -/
def convertTo (m : Money) (targetCurrencyCode : String) (rate : Rat) : Except AppError Money := do
  let _ ← Currency.of targetCurrencyCode
  of (m.amount * rate) targetCurrencyCode

/-- The type of `convertTo`: an amount, the code of a currency, and a rate.  The source computes in
floating point, so the calls take the function as part of what they meet outside; the one above, on
exact rationals, is the default.

Source: `Money.convertTo` -/
abbrev ConvertTo := Money → String → Rat → Except AppError Money

/-- Source: `Money.isZero` -/
def isZero (m : Money) : Bool := m.amountMinorUnits == 0

/-- Source: `Money.isGreaterThan` -/
def isGreaterThan (a b : Money) : Except AppError Bool := do
  assertSameCurrency a b
  .ok (decide (b.amountMinorUnits < a.amountMinorUnits))

/-- Source: `Money.isLessThan` -/
def isLessThan (a b : Money) : Except AppError Bool := do
  assertSameCurrency a b
  .ok (decide (a.amountMinorUnits < b.amountMinorUnits))

/-- Source: `Money.equals` -/
def equals (a b : Money) : Bool :=
  a.currency.equals b.currency && a.amountMinorUnits == b.amountMinorUnits

/-- `reduce((sum, x) => sum.add(x.amount), Money.zero(code))`.

Source: `PaymentAggregate.totalRefunded` -/
def sum (currencyCode : String) (amounts : List Money) : Except AppError Money := do
  let start ← zero currencyCode
  amounts.foldlM add start

/-! ### When the operations succeed -/

variable {a b : Money}

@[simp] lemma assertSameCurrency_eq_ok {u : Unit} :
    assertSameCurrency a b = .ok u ↔ a.currency = b.currency := by
  unfold assertSameCurrency
  split_ifs with h
  · simpa using h
  · simpa using h

lemma add_eq_ok {c : Money} :
    a.add b = .ok c ↔
      a.currency = b.currency ∧ c = ⟨a.amountMinorUnits + b.amountMinorUnits, a.currency⟩ := by
  simp only [add, bind_eq_ok, assertSameCurrency_eq_ok, exists_and_left, exists_const,
    Except.ok.injEq]
  exact and_congr_right fun _ => eq_comm

lemma subtract_eq_ok {c : Money} :
    a.subtract b = .ok c ↔ a.currency = b.currency ∧ b.amountMinorUnits ≤ a.amountMinorUnits ∧
      c = ⟨a.amountMinorUnits - b.amountMinorUnits, a.currency⟩ := by
  simp only [subtract, bind_eq_ok, assertSameCurrency_eq_ok, exists_and_left, exists_const]
  refine and_congr_right fun _ => ?_
  split_ifs with h
  · simp [h]
  · exact ⟨fun h' => ⟨not_lt.1 h, (Except.ok.inj h').symm⟩, fun h' => h'.2 ▸ rfl⟩

lemma isGreaterThan_eq_ok {r : Bool} :
    a.isGreaterThan b = .ok r ↔
      a.currency = b.currency ∧ r = decide (b.amountMinorUnits < a.amountMinorUnits) := by
  simp only [isGreaterThan, bind_eq_ok, assertSameCurrency_eq_ok, exists_and_left, exists_const,
    Except.ok.injEq]
  exact and_congr_right fun _ => eq_comm

@[simp] lemma equals_iff : a.equals b = true ↔ a = b := by
  obtain ⟨a, ca⟩ := a
  obtain ⟨b, cb⟩ := b
  simp [equals, and_comm]

@[simp] lemma fromMinorUnits_code (n : Nat) (c : Currency) :
    fromMinorUnits n c.code = .ok ⟨n, c⟩ := by
  unfold fromMinorUnits
  rw [Currency.of_code]
  rfl

/-- A factor that is not negative gives an amount of money. -/
lemma multiply_of_nonneg (m : Money) {factor : Rat} (h : 0 ≤ factor) :
    m.multiply factor = .ok ⟨(mathRound (m.amountMinorUnits * factor)).toNat, m.currency⟩ :=
  if_neg (mathRound_nonneg (mul_nonneg (Nat.cast_nonneg _) h)).not_gt

/-- A factor of at most one gives no more than the amount. -/
lemma multiply_of_le_one (m : Money) {factor : Rat} (h₀ : 0 ≤ factor) (h₁ : factor ≤ 1) :
    ∃ n ≤ m.amountMinorUnits, m.multiply factor = .ok ⟨n, m.currency⟩ := by
  have hhigh : mathRound (m.amountMinorUnits * factor) ≤ m.amountMinorUnits := by
    unfold mathRound
    have := mul_le_of_le_one_right (Nat.cast_nonneg (α := Rat) m.amountMinorUnits) h₁
    rw [← Int.lt_add_one_iff, Rat.floor_lt_iff]
    push_cast
    linarith
  exact ⟨_, Int.toNat_le.2 hhigh, m.multiply_of_nonneg h₀⟩

/-- A running total adds up the minor units of summands in its own currency. -/
lemma foldlM_add_eq_ok {start total : Money} {amounts : List Money} :
    amounts.foldlM add start = .ok total ↔
      (∀ m ∈ amounts, m.currency = start.currency) ∧
        total = ⟨start.amountMinorUnits + (amounts.map amountMinorUnits).sum,
          start.currency⟩ := by
  induction amounts generalizing start with
  | nil =>
    simp only [List.foldlM_nil, List.map_nil, List.sum_nil, Nat.add_zero]
    exact ⟨fun h => ⟨by simp, (Except.ok.inj h).symm⟩, fun h => h.2 ▸ rfl⟩
  | cons m amounts ih =>
    simp only [List.foldlM_cons, List.forall_mem_cons, List.map_cons, List.sum_cons]
    constructor
    · intro h
      obtain ⟨next, hadd, h⟩ := bind_eq_ok.1 h
      obtain ⟨hcur, rfl⟩ := add_eq_ok.1 hadd
      obtain ⟨hall, rfl⟩ := ih.1 h
      exact ⟨⟨hcur.symm, hall⟩, by simp [Nat.add_assoc]⟩
    · rintro ⟨⟨hcur, hall⟩, rfl⟩
      rw [add_eq_ok.2 ⟨hcur.symm, rfl⟩]
      exact ih.2 ⟨hall, by simp [Nat.add_assoc]⟩

/-- A running total in the currency `c` succeeds exactly when every summand is in `c`, and is
then the sum of the minor units. -/
lemma sum_eq_ok {c : Currency} {amounts : List Money} {total : Money} :
    sum c.code amounts = .ok total ↔
      (∀ m ∈ amounts, m.currency = c) ∧ total = ⟨(amounts.map amountMinorUnits).sum, c⟩ := by
  unfold sum zero
  rw [fromMinorUnits_code]
  refine foldlM_add_eq_ok.trans ?_
  simp only [Nat.zero_add]

end Money

namespace Sample

/-- US dollars. -/
def usd : Currency := ⟨"USD", by decide, by decide⟩

/-- Ten US dollars. -/
def tenDollars : Money := ⟨1000, usd⟩

end Sample

end OmniSwitch
