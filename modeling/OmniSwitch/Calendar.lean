import OmniSwitch.Payment

/-!
# The UTC calendar

The accessors of JavaScript's `Date` that the billing schedule and the month buckets of a
delegation use: the year, month and day of the month a time falls in, the setters, which carry a
month or a day that does not exist over into the next one, and the text of a time.  A time is in
milliseconds since the start of 1970.

Main results:

* `monthDays_fields`: the fields of a time are those of its day;
* `toISOString_injective`: a time can be read off its text.
-/

namespace OmniSwitch

/-- A day, in milliseconds. -/
def msPerDay : Nat := 24 * 60 * 60 * 1000

namespace Date

/-- The days from 1 March of the year 0 to the start of 1970. -/
def epochDay : Nat := 719468

variable (t : Date)

/-- A year from March to February, the month of it (March is 0), and the day of that month.

The leap day is the last day of such a year, so the months before it have fixed lengths. -/
def marchDate : Nat × Nat × Nat :=
  let day := t / msPerDay + epochDay
  -- 400 years are a whole number of days: 146097
  let dayOfEra := day % 146097
  let yearOfEra := (dayOfEra - dayOfEra / 1460 + dayOfEra / 36524 - dayOfEra / 146096) / 365
  let dayOfYear := dayOfEra - (365 * yearOfEra + yearOfEra / 4 - yearOfEra / 100)
  let month := (5 * dayOfYear + 2) / 153
  (yearOfEra + day / 146097 * 400, month, dayOfYear - (153 * month + 2) / 5 + 1)

/-- Source: `Date.prototype.getUTCMonth` (January is 0) -/
def getUTCMonth : Nat :=
  let month := (marchDate t).2.1
  if month < 10 then month + 2 else month - 10

/-- Source: `Date.prototype.getUTCFullYear` -/
def getUTCFullYear : Nat :=
  let (year, month, _) := marchDate t
  if month < 10 then year else year + 1

/-- Source: `Date.prototype.getUTCDate` (the day of the month, from 1) -/
def getUTCDate : Nat := (marchDate t).2.2

/-- The time of a year, month and day of the month at a time of the day.  A month beyond December
counts into the next years, and a day beyond the end of the month into the next months. -/
def make (fullYear month date msOfDay : Nat) : Date :=
  let year := fullYear + month / 12
  let month := month % 12
  let (year, month) := if month < 2 then (year - 1, month + 10) else (year, month - 2)
  let yearOfEra := year % 400
  let dayOfYear := (153 * month + 2) / 5
  let dayOfEra := yearOfEra * 365 + yearOfEra / 4 - yearOfEra / 100 + dayOfYear
  (year / 400 * 146097 + dayOfEra + date - 1 - epochDay) * msPerDay + msOfDay

/-- Source: `Date.prototype.setUTCDate` -/
def setUTCDate (date : Nat) : Date :=
  make t.getUTCFullYear t.getUTCMonth date (t % msPerDay)

/-- Source: `Date.prototype.setUTCMonth` -/
def setUTCMonth (month : Nat) : Date :=
  make t.getUTCFullYear month t.getUTCDate (t % msPerDay)

/-- Source: `Date.prototype.setUTCFullYear` -/
def setUTCFullYear (fullYear : Nat) : Date :=
  make fullYear t.getUTCMonth t.getUTCDate (t % msPerDay)

/-- A number with leading zeros. -/
def pad (digits n : Nat) : String :=
  String.ofList (List.replicate (digits - (toString n).length) '0') ++ toString n

/-- Source: `Date.prototype.toISOString` -/
def toISOString : String :=
  let year := t.getUTCFullYear
  let seconds := t % msPerDay / 1000
  (if year < 10000 then pad 4 year else s!"+{pad 6 year}") ++
    s!"-{pad 2 (t.getUTCMonth + 1)}-{pad 2 t.getUTCDate}T{pad 2 (seconds / 3600)}:" ++
    s!"{pad 2 (seconds / 60 % 60)}:{pad 2 (seconds % 60)}.{pad 3 (t % 1000)}Z"

/-- 29 February 2024, noon. -/
example : make 2024 1 29 43200000 = 1709208000000 ∧ getUTCFullYear 1709208000000 = 2024 ∧
    getUTCMonth 1709208000000 = 1 ∧ getUTCDate 1709208000000 = 29 := by
  decide

example : toISOString 1709208000000 = "2024-02-29T12:00:00.000Z" := by decide

/-! ### Months and days -/

/-- The days from 1 March of the year 0 to the first of a month of a year that starts in March. -/
def marchDays (year month : Nat) : Nat :=
  year / 400 * 146097 +
    (year % 400 * 365 + year % 400 / 4 - year % 400 / 100 + (153 * month + 2) / 5)

/-- The same, for the months from January of the year 0 on. -/
def monthDays (n : Nat) : Nat :=
  if n % 12 < 2 then marchDays (n / 12 - 1) (n % 12 + 10) else marchDays (n / 12) (n % 12 - 2)

lemma make_eq (fullYear month date msOfDay : Nat) :
    make fullYear month date msOfDay =
      (monthDays (12 * fullYear + month) + date - 1 - epochDay) * msPerDay + msOfDay := by
  have hyear : (12 * fullYear + month) / 12 = fullYear + month / 12 := by omega
  have hmonth : (12 * fullYear + month) % 12 = month % 12 := by omega
  unfold make monthDays marchDays
  rw [hyear, hmonth]
  dsimp only
  split_ifs <;> with_reducible rfl

lemma monthDays_lt_succ {n : Nat} (h : 12 ≤ n) : monthDays n < monthDays (n + 1) := by
  unfold monthDays marchDays
  split_ifs <;> omega

lemma monthDays_strictMono {m n : Nat} (hm : 12 ≤ m) (h : m < n) :
    monthDays m < monthDays n := by
  induction n, h using Nat.le_induction with
  | base => exact monthDays_lt_succ hm
  | succ n hn ih => exact ih.trans (monthDays_lt_succ (by omega))

/-- The day of the era is one of the year that is found for it. -/
lemma dayOfEra_bounds {dayOfEra yearOfEra : Nat} (h : dayOfEra < 146097)
    (hyear : yearOfEra =
      (dayOfEra - dayOfEra / 1460 + dayOfEra / 36524 - dayOfEra / 146096) / 365) :
    365 * yearOfEra + yearOfEra / 4 - yearOfEra / 100 ≤ dayOfEra ∧
      dayOfEra ≤ 365 * yearOfEra + yearOfEra / 4 - yearOfEra / 100 + 365 := by
  -- the last day of an era is a leap day, and the only day of its fifth century
  have hcentury : dayOfEra / 36524 = 0 ∨ dayOfEra / 36524 = 1 ∨ dayOfEra / 36524 = 2 ∨
      dayOfEra / 36524 = 3 ∨ dayOfEra = 146096 := by
    omega
  rcases hcentury with h' | h' | h' | h' | rfl
  · have : yearOfEra / 100 = 0 := by omega
    omega
  · have : yearOfEra / 100 = 1 := by omega
    omega
  · have : yearOfEra / 100 = 2 := by omega
    omega
  · have : yearOfEra / 100 = 3 := by omega
    omega
  · subst hyear
    decide

lemma marchDays_eq {day era dayOfEra yearOfEra dayOfYear month : Nat}
    (hera : era * 146097 + dayOfEra = day) (hdoe : dayOfEra < 146097)
    (hyear : yearOfEra =
      (dayOfEra - dayOfEra / 1460 + dayOfEra / 36524 - dayOfEra / 146096) / 365)
    (hdoy : dayOfYear = dayOfEra - (365 * yearOfEra + yearOfEra / 4 - yearOfEra / 100))
    (hmonth : month = (5 * dayOfYear + 2) / 153) :
    marchDays (yearOfEra + era * 400) month + (dayOfYear - (153 * month + 2) / 5 + 1) = day + 1 ∧
      month < 12 ∧ dayOfYear - (153 * month + 2) / 5 + 1 ≤ 31 := by
  obtain ⟨hfirst, hlast⟩ := dayOfEra_bounds hdoe hyear
  have hle : dayOfYear ≤ 365 := by omega
  have hsum : yearOfEra * 365 + yearOfEra / 4 - yearOfEra / 100 + dayOfYear = dayOfEra := by omega
  have hbefore : (153 * month + 2) / 5 ≤ dayOfYear := by omega
  obtain ⟨rest, hrest⟩ := Nat.exists_eq_add_of_le hbefore
  refine ⟨?_, by omega, by omega⟩
  have hera' : (yearOfEra + era * 400) / 400 = era := by omega
  have hyoe : (yearOfEra + era * 400) % 400 = yearOfEra := by omega
  rw [marchDays, hera', hyoe, ← hera, ← hsum, hrest, Nat.add_sub_cancel_left]
  simp only [Nat.add_assoc]

/-- **The fields of a time are those of its day.** -/
theorem monthDays_fields : monthDays (12 * t.getUTCFullYear + t.getUTCMonth) + t.getUTCDate =
        t / msPerDay + epochDay + 1 ∧
      1 ≤ t.getUTCFullYear ∧ t.getUTCMonth < 12 ∧ t.getUTCDate ≤ 31 := by
  have hmarch : marchDays (marchDate t).1 (marchDate t).2.1 + (marchDate t).2.2 =
      t / msPerDay + epochDay + 1 ∧ (marchDate t).2.1 < 12 ∧ (marchDate t).2.2 ≤ 31 :=
    marchDays_eq (Nat.div_add_mod' _ _) (Nat.mod_lt _ (by decide)) rfl rfl rfl
  have hyear : 400 ≤ (marchDate t).1 := by
    have hera : 1 ≤ (t / msPerDay + epochDay) / 146097 :=
      Nat.div_pos ((by decide : 146097 ≤ epochDay).trans (Nat.le_add_left _ _)) (by decide)
    exact (Nat.mul_le_mul_right 400 hera).trans (Nat.le_add_left _ _)
  unfold getUTCFullYear getUTCMonth getUTCDate
  generalize marchDate t = fields at hmarch hyear ⊢
  obtain ⟨year, month, date⟩ := fields
  obtain ⟨hdays, hmonth, hdate⟩ := hmarch
  rw [← hdays]
  dsimp only at hmonth hyear ⊢
  split_ifs with h
  · refine ⟨congrArg (· + date) ?_, by omega, by omega, hdate⟩
    rw [monthDays, if_neg (by omega)]
    congr 1 <;> omega
  · refine ⟨congrArg (· + date) ?_, by omega, by omega, hdate⟩
    rw [monthDays, if_pos (by omega)]
    congr 1 <;> omega

/-- A time is made of its fields. -/
lemma make_fields : make t.getUTCFullYear t.getUTCMonth t.getUTCDate (t % msPerDay) = t := by
  rw [make_eq, (monthDays_fields t).1, Nat.add_sub_cancel, Nat.add_sub_cancel, Nat.div_add_mod']

lemma lt_make {t fullYear month date : Nat}
    (h : t / msPerDay + epochDay + 1 < monthDays (12 * fullYear + month) + date) :
    t < make fullYear month date (t % msPerDay) := by
  have hday : t / msPerDay < monthDays (12 * fullYear + month) + date - 1 - epochDay := by omega
  rw [make_eq]
  calc t = t / msPerDay * msPerDay + t % msPerDay := (Nat.div_add_mod' _ _).symm
    _ < _ := Nat.add_lt_add_right (Nat.mul_lt_mul_of_pos_right hday (by decide)) _

/-! ### The text of a time -/

lemma toList_pad (digits n : Nat) : (pad digits n).toList =
    List.replicate (digits - (Nat.toDigits 10 n).length) '0' ++ Nat.toDigits 10 n := by
  simp [pad, Nat.toString_eq_repr, Nat.toList_repr, ← String.length_toList]

lemma ofDigitChars_pad (digits n : Nat) : Nat.ofDigitChars 10 (pad digits n).toList 0 = n := by
  rw [toList_pad]
  generalize digits - (Nat.toDigits 10 n).length = k
  induction k with
  | zero => exact Nat.ofDigitChars_toDigits (by decide) (by decide)
  | succ k ih => rwa [List.replicate_succ, List.cons_append, Nat.ofDigitChars_cons]

lemma length_pad {digits n : Nat} (hpos : 0 < digits) (h : n < 10 ^ digits) :
    (pad digits n).toList.length = digits := by
  have hle := (Nat.length_toDigits_le_iff (by decide) hpos).2 h
  rw [toList_pad, List.length_append, List.length_replicate]
  omega

/-- A field is read off the end of a text, if its width is known. -/
lemma append_pad_inj {digits m n : Nat} (hpos : 0 < digits) (hm : m < 10 ^ digits)
    (hn : n < 10 ^ digits) {c : Char} {l l' : List Char}
    (h : l ++ c :: (pad digits m).toList = l' ++ c :: (pad digits n).toList) :
    l = l' ∧ m = n := by
  obtain ⟨hrest, hpad⟩ := List.append_inj' h
    (congrArg (· + 1) ((length_pad hpos hm).trans (length_pad hpos hn).symm))
  rw [← ofDigitChars_pad digits m, (List.cons.inj hpad).2, ofDigitChars_pad]
  exact ⟨hrest, rfl⟩

/-- The text of a year, which has a sign from 10000 on. -/
def yearText (year : Nat) : List Char :=
  if year < 10000 then (pad 4 year).toList else '+' :: (pad 6 year).toList

lemma yearText_injective : Function.Injective yearText := by
  have hplus : ∀ {n year : Nat}, year < 10000 →
      (pad 4 year).toList ≠ '+' :: (pad 6 n).toList := by
    intro n year hyear h
    have hlength := congrArg List.length h
    rw [length_pad (by decide) hyear, toList_pad, List.length_cons, List.length_append,
      List.length_replicate] at hlength
    omega
  intro year year' h
  unfold yearText at h
  split_ifs at h with hyear hyear' hyear'
  · rw [← ofDigitChars_pad 4 year, h, ofDigitChars_pad]
  · exact absurd h (hplus hyear)
  · exact absurd h.symm (hplus hyear')
  · rw [← ofDigitChars_pad 6 year, (List.cons.inj h).2, ofDigitChars_pad]

/-- The text of the fields of a time. -/
def isoText (year month date seconds ms : Nat) : List Char :=
  yearText year ++ '-' :: (pad 2 month).toList ++ '-' :: (pad 2 date).toList ++
    'T' :: (pad 2 (seconds / 3600)).toList ++ ':' :: (pad 2 (seconds / 60 % 60)).toList ++
    ':' :: (pad 2 (seconds % 60)).toList ++ '.' :: (pad 3 ms).toList ++ ['Z']

lemma toList_toISOString : t.toISOString.toList = isoText t.getUTCFullYear
    (t.getUTCMonth + 1) t.getUTCDate (t % msPerDay / 1000) (t % 1000) := by
  have htext : ∀ year month date seconds ms : Nat,
      ((if year < 10000 then pad 4 year else s!"+{pad 6 year}") ++
        s!"-{pad 2 month}-{pad 2 date}T{pad 2 (seconds / 3600)}:" ++
        s!"{pad 2 (seconds / 60 % 60)}:{pad 2 (seconds % 60)}.{pad 3 ms}Z").toList =
      isoText year month date seconds ms := by
    intro year month date seconds ms
    unfold isoText yearText
    split_ifs <;> simp [toString]
  exact htext _ _ _ _ _

/-- The year may be of any width, but the fields after it are not: they are read from the end. -/
lemma isoText_inj {year year' month month' date date' seconds seconds' ms ms' : Nat}
    (hbounds : month ≤ 12 ∧ date ≤ 31 ∧ seconds < 86400 ∧ ms < 1000)
    (hbounds' : month' ≤ 12 ∧ date' ≤ 31 ∧ seconds' < 86400 ∧ ms' < 1000)
    (h : isoText year month date seconds ms = isoText year' month' date' seconds' ms') :
    year = year' ∧ month = month' ∧ date = date' ∧ seconds = seconds' ∧ ms = ms' := by
  obtain ⟨h, -⟩ := List.append_inj' h rfl
  obtain ⟨h, hms⟩ := append_pad_inj (by decide) (by omega) (by omega) h
  obtain ⟨h, hseconds⟩ := append_pad_inj (by decide) (by omega) (by omega) h
  obtain ⟨h, hminutes⟩ := append_pad_inj (by decide) (by omega) (by omega) h
  obtain ⟨h, hhours⟩ := append_pad_inj (by decide) (by omega) (by omega) h
  obtain ⟨h, hdate⟩ := append_pad_inj (by decide) (by omega) (by omega) h
  obtain ⟨h, hmonth⟩ := append_pad_inj (by decide) (by omega) (by omega) h
  exact ⟨yearText_injective h, hmonth, hdate, by omega, hms⟩

/-- **A time can be read off its text.** -/
theorem toISOString_injective : Function.Injective toISOString := by
  have hday : ∀ t : Nat, t % msPerDay / 1000 < 86400 ∧ t % 1000 < 1000 ∧
      t % msPerDay = t % msPerDay / 1000 * 1000 + t % 1000 := by
    intro t
    unfold msPerDay
    omega
  have hbounds : ∀ t : Date, t.getUTCMonth + 1 ≤ 12 ∧ t.getUTCDate ≤ 31 ∧
      t % msPerDay / 1000 < 86400 ∧ t % 1000 < 1000 := fun t =>
    ⟨(monthDays_fields t).2.2.1, (monthDays_fields t).2.2.2, (hday t).1, (hday t).2.1⟩
  intro t t' h
  have htext := congrArg String.toList h
  rw [toList_toISOString, toList_toISOString] at htext
  obtain ⟨hyear, hmonth, hdate, hseconds, hms⟩ := isoText_inj (hbounds t) (hbounds t') htext
  rw [← make_fields t, ← make_fields t', hyear, Nat.succ.inj hmonth, hdate, (hday t).2.2,
    (hday t').2.2, hseconds, hms]

end Date

end OmniSwitch
