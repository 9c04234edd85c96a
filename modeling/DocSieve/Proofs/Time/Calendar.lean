-- SUMMARY: Day numbers count the days of years and months, and every day number is that of exactly one date.
import Mathlib.Tactic.IntervalCases
import DocSieve.Time.Calendar

/-!
# Counting days

The closed formula for the days before a year is checked against a calendar
that is written out: the lengths of the twelve months, the year as their sum,
and the days to a date as a sum over the years and months in between. The
inverse finds a year from the mean length of one, which is off by one at most,
and then walks through its months.
-/

namespace DocSieve.Date

/-! ## The calendar -/

/-- The leap years of the proleptic Gregorian calendar. -/
def LeapYear (year : Int) : Prop := 4 ∣ year ∧ (¬ 100 ∣ year ∨ 400 ∣ year)

instance (year : Int) : Decidable (LeapYear year) := inferInstanceAs (Decidable (_ ∧ _))

/-- The lengths of the months of a year, from January on. -/
def monthLengths (year : Int) : List Nat :=
  [31, if LeapYear year then 29 else 28, 31, 30, 31, 30, 31, 31, 30, 31, 30, 31]

/-- The length of a year. -/
def yearLength (year : Int) : Nat := (monthLengths year).sum

/-- The date stands in the calendar. -/
def InCalendar (d : Date) : Prop :=
  1 ≤ d.month ∧ 1 ≤ d.day ∧
    ∃ length, (monthLengths d.year)[d.month - 1]? = some length ∧ d.day ≤ length

/-- The days of `n` years from the first one on. -/
def yearsLength (first : Int) (n : Nat) : Nat :=
  ((List.range n).map fun k : Nat => yearLength (first + k)).sum

/-- The days from the start of 1970 to the date: those of the years in between,
counted backwards before 1970, of the months before the date, and of the days
before it. -/
def daysSince1970 (d : Date) : Int :=
  yearsLength 1970 (d.year - 1970).toNat - yearsLength d.year (1970 - d.year).toNat
    + ((monthLengths d.year).take (d.month - 1)).sum + (d.day - 1)

variable {d : Date} {year : Int} {month : Nat}

/-! ## Lengths -/

theorem isLeap_iff : isLeap year = true ↔ LeapYear year := by
  simp only [isLeap, LeapYear, Bool.and_eq_true, Bool.or_eq_true, decide_eq_true_eq]
  omega

theorem yearLength_eq : yearLength year = if LeapYear year then 366 else 365 := by
  unfold yearLength monthLengths
  split <;> rfl

theorem monthLength_eq (h : 1 ≤ month) (h' : month ≤ 12) :
    (monthLengths year)[month - 1]? = some (monthLength year month) := by
  unfold monthLengths monthLength
  simp only [← isLeap_iff]
  interval_cases month <;> simp

theorem isValid_iff : d.isValid = true ↔ d.InCalendar := by
  simp only [isValid, InCalendar, Bool.and_eq_true, decide_eq_true_eq]
  constructor
  · rintro ⟨⟨⟨hlow, hhigh⟩, hday⟩, hlength⟩
    exact ⟨hlow, hday, _, monthLength_eq hlow hhigh, hlength⟩
  · rintro ⟨hlow, hday, length, hlength, hle⟩
    have hhigh : d.month ≤ 12 := by
      have := (List.getElem?_eq_some_iff.mp hlength).1
      simp only [monthLengths, List.length_cons, List.length_nil] at this
      omega
    rw [monthLength_eq hlow hhigh] at hlength
    cases hlength
    exact ⟨⟨⟨hlow, hhigh⟩, hday⟩, hle⟩

/-! ## Day numbers -/

theorem daysBeforeYear_succ (year : Int) :
    daysBeforeYear (year + 1) = daysBeforeYear year + yearLength year := by
  unfold daysBeforeYear
  rw [yearLength_eq]
  split
  · rename_i h
    unfold LeapYear at h
    push_cast
    omega
  · rename_i h
    unfold LeapYear at h
    push_cast
    omega

theorem yearsLength_eq (first : Int) (n : Nat) :
    (yearsLength first n : Int) = daysBeforeYear (first + n) - daysBeforeYear first := by
  induction n with
  | zero => simp [yearsLength]
  | succ n ih =>
    have hlast : yearsLength first (n + 1) = yearsLength first n + yearLength (first + n) := by
      simp [yearsLength, List.range_succ]
    have hnext : first + ((n + 1 : Nat) : Int) = first + n + 1 := by omega
    rw [hlast, hnext, daysBeforeYear_succ]
    omega

theorem daysBeforeMonth_succ (year : Int) (h : 1 ≤ month) :
    daysBeforeMonth year (month + 1) = daysBeforeMonth year month + monthLength year month := by
  obtain ⟨m, rfl⟩ := Nat.exists_eq_add_of_le' h
  simp [daysBeforeMonth, List.range_succ]

theorem sum_take_monthLengths (year : Int) (h : 1 ≤ month) (h' : month ≤ 13) :
    ((monthLengths year).take (month - 1)).sum = daysBeforeMonth year month := by
  induction month, h using Nat.le_induction with
  | base => simp [daysBeforeMonth]
  | succ month h ih =>
    have hlast : (monthLengths year)[month - 1]? = _ := monthLength_eq h (by omega)
    obtain ⟨hlt, hget⟩ := List.getElem?_eq_some_iff.mp hlast
    rw [daysBeforeMonth_succ year h, ← ih (by omega), ← hget]
    have hmonth : month + 1 - 1 = month - 1 + 1 := by omega
    rw [hmonth, List.take_succ_eq_append_getElem hlt, List.sum_append, List.sum_singleton]

/-- The number of a date counts the days. -/
theorem dayNumber_eq (h : d.InCalendar) : d.dayNumber = d.daysSince1970 := by
  have hvalid := isValid_iff.mpr h
  simp only [isValid, Bool.and_eq_true, decide_eq_true_eq] at hvalid
  have hmonths : ((monthLengths d.year).take (d.month - 1)).sum = daysBeforeMonth d.year d.month :=
    sum_take_monthLengths d.year (by omega) (by omega)
  have hyears : (yearsLength 1970 (d.year - 1970).toNat : Int)
      - yearsLength d.year (1970 - d.year).toNat =
      daysBeforeYear d.year - daysBeforeYear 1970 := by
    rw [yearsLength_eq, yearsLength_eq]
    rcases le_total 1970 d.year with hle | hle
    · rw [Int.toNat_of_nonneg (by omega), Int.toNat_of_nonpos (by omega)]
      simp
    · rw [Int.toNat_of_nonneg (a := 1970 - d.year) (by omega), Int.toNat_of_nonpos (by omega)]
      simp
  rw [dayNumber, daysSince1970, hyears, hmonths, epoch]
  omega

/-! ## Dates of day numbers -/

theorem yearOf_spec (n : Int) :
    daysBeforeYear (yearOf n) ≤ n ∧ n < daysBeforeYear (yearOf n + 1) := by
  obtain ⟨y, hy⟩ : ∃ y, n * 400 / 146097 = y := ⟨_, rfl⟩
  simp only [yearOf, hy]
  split
  · rw [sub_add_cancel]
    unfold daysBeforeYear at *
    omega
  · split
    · unfold daysBeforeYear at *
      omega
    · omega

theorem daysBeforeMonth_year (year : Int) : daysBeforeMonth year 13 = yearLength year := by
  rw [← sum_take_monthLengths year (by decide) (by decide)]
  rfl

/-- Walking through the months up to December ends in the one that holds the day. -/
theorem monthOf_spec (year : Int) {month left n : Nat} (h : 1 ≤ month) (hleft : month + left = 12)
    (hn : daysBeforeMonth year month + n < yearLength year) :
    let found := monthOf year month left n
    month ≤ found.1 ∧ found.1 ≤ 12 ∧ 1 ≤ found.2 ∧ found.2 ≤ monthLength year found.1 ∧
      daysBeforeMonth year found.1 + found.2 = daysBeforeMonth year month + n + 1 := by
  induction left generalizing month n with
  | zero =>
    obtain rfl : month = 12 := by omega
    have hlast := daysBeforeMonth_succ year h
    rw [daysBeforeMonth_year] at hlast
    simp only [monthOf]
    omega
  | succ left ih =>
    simp only [monthOf]
    split
    · dsimp only
      omega
    · have hsucc := daysBeforeMonth_succ year h
      have hrest := @ih (month + 1) (n - monthLength year month) (by omega) (by omega) (by omega)
      dsimp only at hrest ⊢
      omega

/-- The date of a number stands in the calendar and has that number. -/
theorem ofDayNumber_spec (n : Int) :
    (ofDayNumber n).InCalendar ∧ (ofDayNumber n).dayNumber = n := by
  obtain ⟨hlow, hhigh⟩ := yearOf_spec (n + epoch)
  rw [daysBeforeYear_succ] at hhigh
  obtain ⟨day, hday⟩ := Int.eq_ofNat_of_zero_le (sub_nonneg.mpr hlow)
  have hstart : daysBeforeMonth (yearOf (n + epoch)) 1 = 0 := rfl
  have hmonth := @monthOf_spec (yearOf (n + epoch)) 1 11 day le_rfl rfl (by omega)
  have hdate : ofDayNumber n = ⟨yearOf (n + epoch), (monthOf (yearOf (n + epoch)) 1 11 day).1,
      (monthOf (yearOf (n + epoch)) 1 11 day).2⟩ := by
    simp only [ofDayNumber, hday, Int.toNat_natCast]
  rw [hdate, ← isValid_iff]
  dsimp only at hmonth
  constructor
  · simp only [isValid, Bool.and_eq_true, decide_eq_true_eq]
    omega
  · simp only [dayNumber]
    omega

/-- The date of a number lies that many days behind the start of 1970. -/
theorem daysSince1970_ofDayNumber (n : Int) : (ofDayNumber n).daysSince1970 = n := by
  obtain ⟨hdate, hn⟩ := ofDayNumber_spec n
  rw [← dayNumber_eq hdate, hn]

end DocSieve.Date
