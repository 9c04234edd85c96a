-- SUMMARY: Sets of characters given as a list of code point ranges.

/-!
# Character ranges
-/

namespace DocSieve.Text

/-- A set of characters, as closed ranges of code points. -/
structure Ranges where
  /-- The ranges, each as its first and its last code point. -/
  bounds : List (Nat × Nat)

/-- Whether `c` lies in one of the ranges. -/
def Ranges.holds (rs : Ranges) (c : Char) : Bool :=
  rs.bounds.any fun b => b.1 ≤ c.toNat && c.toNat ≤ b.2

end DocSieve.Text
