-- SUMMARY: Finite doubles as exact integers, their order, and rounding of quotients to them.

/-!
# Finite doubles

Every finite double is a whole number of units of `2 ^ -1074`. Holding that
number makes the order of doubles the order of integers, and each operation
an exact integer operation followed by one rounding.
-/

namespace DocSieve

/-- A finite double: a sign and a magnitude in units of `2 ^ -1074`. A zero
keeps its sign. -/
structure Double where
  negative : Bool
  magnitude : Nat
deriving DecidableEq

namespace Double

/-- The units in the number one. -/
def unit : Nat := Nat.pow 2 1074

/-- The magnitude at which the finite doubles end. -/
def limit : Nat := Nat.pow 2 1024 * unit

/-- The value in units. -/
def value (d : Double) : Int := if d.negative then -(d.magnitude : Int) else d.magnitude

/-- Doubles are ordered by value, so the two zeros are equal. -/
def order (a b : Double) : Ordering := compare a.value b.value

/-- The number with the other sign. -/
def neg (d : Double) : Double := { d with negative := !d.negative }

/-! ## Rounding -/

/-- The binary places that a magnitude of about `q` units gives up, so that 53
significant bits stay. -/
def spareBits (q : Nat) : Nat := q.log2 + 1 - 53

/-- `num / den` units rounded to the nearest double, a tie to the even
significand. -/
def nearest (num den : Nat) : Nat :=
  let spare := spareBits (num / den)
  let step := den * Nat.pow 2 spare
  let low := num / step
  let rest := num % step
  let up := step < 2 * rest ∨ (2 * rest = step ∧ low % 2 = 1)
  (if up then low + 1 else low) * Nat.pow 2 spare

/-- The nearest double to a natural number. -/
def ofNat (n : Nat) : Double := ⟨false, nearest (n * unit) 1⟩

/-- The nearest double to an integer. -/
def ofInt (n : Int) : Double := ⟨n < 0, nearest (n.natAbs * unit) 1⟩

/-- The rounded product of two magnitudes. -/
def mulMagnitude (a b : Nat) : Nat := nearest (a * b) unit

/-- The rounded quotient of two magnitudes. -/
def divMagnitude (a b : Nat) : Nat := nearest (a * unit) b

end Double

end DocSieve
