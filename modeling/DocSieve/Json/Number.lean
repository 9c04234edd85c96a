-- SUMMARY: JSON numbers: integers kept exactly, doubles, their order and their text, and numerals as they are written.
import DocSieve.Number.Shortest
import DocSieve.Number.Word
import DocSieve.Text.Digit

/-!
# JSON numbers

A number is an integer or a finite double. Numerals are the written form. A
numeral without fraction and exponent is an integer if 64 bits hold it, with
or without a sign, and every other numeral is a double.
-/

namespace DocSieve.Json

/-- A number of a document. -/
inductive Number where
  /-- An integer of at least `-2 ^ 63` and less than `2 ^ 64`. -/
  | int (n : Int)
  /-- Any other number. -/
  | double (d : Double)
deriving DecidableEq

namespace Number

/-- The number as a signed 64-bit integer, if it is one. -/
def int64? : Number → Option Int
  | .int n => if isInt64 n then some n else none
  | .double _ => none

/-- The double nearest to the number. -/
def toDouble : Number → Double
  | .int n => .ofInt n
  | .double d => d

/-- Two signed 64-bit integers are compared exactly, any other two numbers as
doubles. -/
def order (a b : Number) : Ordering :=
  match a.int64?, b.int64? with
  | some m, some n => compare m n
  | _, _ => a.toDouble.order b.toDouble

/-- The text of a number. -/
def toText : Number → String
  | .int n => toString n
  | .double d => d.toText

end Number

/-! ## Numerals -/

/-- The exponent of a numeral. -/
structure Exponent where
  negative : Bool
  digits : List Nat
deriving DecidableEq

/-- A number as it is written. An empty fraction stands for none. -/
structure Numeral where
  negative : Bool
  whole : List Nat
  fraction : List Nat
  exponent : Option Exponent
deriving DecidableEq

namespace Numeral

/-- Appends digits to a significand as long as it stays below `2 ^ 64`, and
counts the digits that are left out. -/
def absorb (significand : Nat) : List Nat → Nat × Nat
  | [] => (significand, 0)
  | d :: ds =>
    let next := significand * 10 + d
    if isWord64 next then absorb next ds else (significand, ds.length + 1)

/-- The largest power of ten that one scaling step uses. -/
def maxPower : Nat := 308

/-- The magnitude of the double nearest to `10 ^ e`. -/
def power (e : Nat) : Nat := Double.nearest (Nat.pow 10 e * Double.unit) 1

/-- Divides a magnitude by `10 ^ e`, in steps of at most `maxPower`. -/
def divPower (m e : Nat) : Nat :=
  if e ≤ maxPower then Double.divMagnitude m (power e)
  else if m = 0 then 0
  else divPower (Double.divMagnitude m (power maxPower)) (e - maxPower)
termination_by e
decreasing_by
  have : 0 < maxPower := by decide
  omega

/-- Multiplies a magnitude by `10 ^ e`, `none` beyond the range of doubles. -/
def mulPower? (m e : Nat) : Option Nat :=
  if e ≤ maxPower then
    let p := Double.mulMagnitude m (power e)
    if p < Double.limit then some p else none
  else if m = 0 then some 0
  else none

/-- The double made of a significand and a power of ten. The significand is
rounded, then scaled with one more rounding. -/
def scaled? (significand : Nat) (exponent : Int) : Option Nat :=
  let m := Double.nearest (significand * Double.unit) 1
  if 0 ≤ exponent then mulPower? m exponent.toNat else some (divPower m (-exponent).toNat)

/-- The bound on the digits of an exponent. -/
def maxExponent : Nat := 2147483648

/-- The magnitude of a numeral whose significand stands for itself times ten
to the power of `shift`. An exponent beyond the bound leaves only zero or
nothing. -/
def magnitude? (significand : Nat) (shift : Int) : Option Exponent → Option Nat
  | none => scaled? significand shift
  | some e =>
    let n := Text.ofDigits e.digits
    if n < maxExponent then
      scaled? significand (if e.negative then shift - n else shift + n)
    else if significand = 0 ∨ e.negative then some 0
    else none

/-- The number that a numeral stands for, `none` if it is out of range. -/
def number? (t : Numeral) : Option Number :=
  let (whole, left) := absorb 0 t.whole
  if t.fraction.isEmpty ∧ t.exponent.isNone ∧ left = 0 then
    if !t.negative then some (.int whole)
    else if whole ≠ 0 ∧ isInt64 (-whole) then some (.int (-whole))
    else some (.double ⟨true, (Double.ofNat whole).magnitude⟩)
  else
    let (significand, lost) := absorb whole t.fraction
    let shift : Int := left - ((t.fraction.length - lost : Nat) : Int)
    (magnitude? significand shift t.exponent).map fun m => .double ⟨t.negative, m⟩

end Numeral

end DocSieve.Json
