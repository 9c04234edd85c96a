-- SUMMARY: The shortest decimal text that reads back as a given double.
import DocSieve.Number.Double

/-!
# Shortest decimal text of a double

Of the decimals that round to a double, the one with the fewest digits is
written, and of those with the same number of digits the nearest one.
-/

namespace DocSieve

/-- The decimal number `digits * 10 ^ exponent`. -/
structure Decimal where
  digits : Nat
  exponent : Int

namespace Decimal

/-- The same number without zeros at the end of its digits. -/
def trim (d : Decimal) : Nat → Decimal
  | 0 => d
  | fuel + 1 =>
    if d.digits ≠ 0 ∧ d.digits % 10 = 0 then trim ⟨d.digits / 10, d.exponent + 1⟩ fuel else d

end Decimal

namespace Double

/-! ## The rounding interval -/

/-- The interval of reals that round to a double, in quarters of a unit, and
whether its ends belong to it. -/
structure Interval where
  low : Nat
  high : Nat
  closed : Bool

/-- The rounding interval of a positive magnitude. Below a power of two the
next double is only half as far. -/
def interval (m : Nat) : Interval :=
  let step := Nat.pow 2 (spareBits m)
  let narrow : Bool := 1 < step && m == Nat.pow 2 52 * step
  ⟨4 * m - (if narrow then step else 2 * step), 4 * m + 2 * step, m / step % 2 = 0⟩

/-- Whether `c / scale` quarters lie in the interval. -/
def Interval.holds (i : Interval) (scale c : Nat) : Bool :=
  if i.closed then i.low * scale ≤ c && c ≤ i.high * scale
  else i.low * scale < c && c < i.high * scale

/-! ## Choosing the digits -/

/-- The exponent of the first decimal digit of a positive magnitude. -/
def leadingExponent (m : Nat) : Int :=
  ((toString (m * Nat.pow 10 400 / unit)).length : Int) - 401

/-- The nearer of the two neighbours of `m` on the grid of multiples of
`10 ^ g` that round to `m`, if any does. A tie goes to the even one. -/
def onGrid? (m : Nat) (g : Int) : Option Decimal :=
  let scale := Nat.pow 10 (-g).toNat
  let num := m * scale
  let den := unit * Nat.pow 10 g.toNat
  let low := num / den
  let rest := num % den
  let fits (c : Nat) : Bool := (interval m).holds scale (4 * c * den)
  let preferHigh : Bool := den < 2 * rest || (2 * rest == den && low % 2 == 1)
  if fits low && fits (low + 1) then some ⟨if preferHigh then low + 1 else low, g⟩
  else if fits low then some ⟨low, g⟩
  else if fits (low + 1) then some ⟨low + 1, g⟩
  else none

/-- The shortest decimal that rounds to a positive magnitude. Seventeen digits
always suffice. -/
def shortest (m : Nat) : Decimal :=
  let lead := leadingExponent m
  let found := (List.range 17).findSome? fun (k : Nat) => onGrid? m (lead - k)
  (found.getD ⟨0, 0⟩).trim 20

/-! ## The text -/

/-- The decimal text of a double: positional while the point stands at most
sixteen places after the first digit or four zeros before it, with a signed
exponent otherwise, and always with a point or an exponent. -/
def toText (d : Double) : String :=
  let sign := if d.negative then "-" else ""
  if d.magnitude = 0 then sign ++ "0.0"
  else
    let dec := shortest d.magnitude
    let digits := toString dec.digits
    let point : Int := digits.length + dec.exponent
    let zeros (n : Int) : String := String.ofList (List.replicate n.toNat '0')
    let cs := digits.toList
    if 0 ≤ dec.exponent ∧ point ≤ 16 then sign ++ digits ++ zeros dec.exponent ++ ".0"
    else if 0 < point ∧ point ≤ 16 then
      sign ++ String.ofList (cs.take point.toNat) ++ "." ++ String.ofList (cs.drop point.toNat)
    else if -5 < point ∧ point ≤ 0 then sign ++ "0." ++ zeros (-point) ++ digits
    else
      let fraction := if digits.length = 1 then "" else "." ++ String.ofList (cs.drop 1)
      let exponent := (if 0 < point then "+" else "") ++ toString (point - 1)
      sign ++ String.ofList (cs.take 1) ++ fraction ++ "e" ++ exponent

end Double

end DocSieve
