-- SUMMARY: Instants of universal time, their order, their text, and wall times with an offset.
import DocSieve.Text.Digit
import DocSieve.Time.Calendar

/-!
# Instants

An instant counts seconds from the start of 1970 in universal time. A leap
second is the second before it gone on for longer: its fraction starts at one
whole second.
-/

namespace DocSieve

/-- An instant: seconds since the start of 1970, and billionths of a second
on top of them. -/
structure Instant where
  seconds : Int
  nanos : Nat
deriving DecidableEq

namespace Instant

/-- The billionths of a second in one. -/
def nanosPerSecond : Nat := 1000000000

/-- The seconds of a day. -/
def secondsPerDay : Nat := 86400

/-- Instants are ordered by their seconds, then by their fractions. -/
def order (a b : Instant) : Ordering := (compare a.seconds b.seconds).then (compare a.nanos b.nanos)

/-- Whether the instant lies in a leap second. -/
def isLeap (i : Instant) : Bool := nanosPerSecond ≤ i.nanos

/-! ## The text -/

/-- The text of a year: four digits, with a sign outside the years 0 to 9999. -/
def yearText (year : Int) : String :=
  if 0 ≤ year ∧ year ≤ 9999 then Text.padded 4 year.toNat
  else (if year < 0 then "-" else "+") ++ Text.padded 4 year.natAbs

/-- The fraction of a second with none, three, six or nine digits, as few as
are exact. -/
def fractionText (nanos : Nat) : String :=
  if nanos = 0 then ""
  else if nanos % 1000000 = 0 then "." ++ Text.padded 3 (nanos / 1000000)
  else if nanos % 1000 = 0 then "." ++ Text.padded 6 (nanos / 1000)
  else "." ++ Text.padded 9 nanos

/-- The text of an instant in universal time. A leap second is second 60. -/
def toText (i : Instant) : String :=
  let date := Date.ofDayNumber (i.seconds / secondsPerDay)
  let second := (i.seconds % secondsPerDay).toNat
  let extra := i.nanos / nanosPerSecond
  yearText date.year ++ "-" ++ Text.padded 2 date.month ++ "-" ++ Text.padded 2 date.day
    ++ "T" ++ Text.padded 2 (second / 3600) ++ ":" ++ Text.padded 2 (second / 60 % 60)
    ++ ":" ++ Text.padded 2 (second % 60 + extra) ++ fractionText (i.nanos % nanosPerSecond) ++ "Z"

end Instant

/-! ## Wall times -/

/-- A date and a time of day as a clock shows them, and how far ahead of
universal time the clock is, in seconds. -/
structure WallTime where
  date : Date
  hour : Nat
  minute : Nat
  second : Nat
  nanos : Nat
  offset : Int
deriving DecidableEq

namespace WallTime

/-- Whether the date and the time of day exist. Any minute may have a second
numbered 60. -/
def isValid (w : WallTime) : Bool :=
  w.date.isValid && w.hour < 24 && w.minute < 60 && w.second ≤ 60

/-- The instant of a wall time. -/
def instant (w : WallTime) : Instant :=
  let leap := w.second / 60
  let time := w.hour * 3600 + w.minute * 60 + (w.second - leap)
  ⟨w.date.dayNumber * Instant.secondsPerDay + time - w.offset,
    w.nanos + leap * Instant.nanosPerSecond⟩

/-- The instant of a wall time, if it exists. -/
def instant? (w : WallTime) : Option Instant := if w.isValid then some w.instant else none

end WallTime

end DocSieve
