-- SUMMARY: Dates of the proleptic Gregorian calendar and their day numbers.

/-!
# Calendar

Days are numbered from the first of January 1970. Years are integers, so the
year before 0 is -1, and the leap year rule holds for all of them.
-/

namespace DocSieve

structure Date where
  year : Int
  month : Nat
  day : Nat
deriving DecidableEq

namespace Date

/-! ## Lengths -/

/-- Every fourth year is a leap year, of the centuries only every fourth. -/
def isLeap (year : Int) : Bool := year % 4 = 0 && (year % 100 ≠ 0 || year % 400 = 0)

/-- The number of days in a month. -/
def monthLength (year : Int) (month : Nat) : Nat :=
  if month = 2 then (if isLeap year then 29 else 28)
  else if month = 4 ∨ month = 6 ∨ month = 9 ∨ month = 11 then 30
  else 31

/-- A date is valid when its month and its day exist. -/
def isValid (d : Date) : Bool :=
  1 ≤ d.month && d.month ≤ 12 && 1 ≤ d.day && d.day ≤ monthLength d.year d.month

/-! ## Day numbers -/

/-- The days from the start of year 0 to the start of `year`: 365 for each
year between them and one more for each leap year. -/
def daysBeforeYear (year : Int) : Int :=
  365 * year + (year + 3) / 4 - (year + 99) / 100 + (year + 399) / 400

/-- The days of a year before its `month`. -/
def daysBeforeMonth (year : Int) (month : Nat) : Nat :=
  (List.range (month - 1)).foldl (fun days m => days + monthLength year (m + 1)) 0

/-- The days from the start of year 0 to the start of 1970. -/
def epoch : Int := daysBeforeYear 1970

/-- The number of a date. -/
def dayNumber (d : Date) : Int :=
  daysBeforeYear d.year + daysBeforeMonth d.year d.month + d.day - 1 - epoch

/-! ## Dates of day numbers -/

/-- The year that holds the day `n` days after the start of year 0. The mean
length of a year gives it up to one. -/
def yearOf (n : Int) : Int :=
  let y := n * 400 / 146097
  if n < daysBeforeYear y then y - 1
  else if daysBeforeYear (y + 1) ≤ n then y + 1
  else y

/-- The month and the day of the month of the day `n` days after the start of
`month`, where `left` months follow. -/
def monthOf (year : Int) (month : Nat) : Nat → Nat → Nat × Nat
  | 0, n => (month, n + 1)
  | left + 1, n =>
    if n < monthLength year month then (month, n + 1)
    else monthOf year (month + 1) left (n - monthLength year month)

/-- The date with the given number. -/
def ofDayNumber (n : Int) : Date :=
  let year := yearOf (n + epoch)
  let (month, day) := monthOf year 1 11 (n + epoch - daysBeforeYear year).toNat
  ⟨year, month, day⟩

end Date

end DocSieve
