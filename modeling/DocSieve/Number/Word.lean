-- SUMMARY: The integers that 64 bits hold, with a sign and without.

/-!
# 64-bit integers
-/

namespace DocSieve

/-- Whether 64 bits with a sign hold an integer. -/
def isInt64 (n : Int) : Bool := -9223372036854775808 ≤ n && n ≤ 9223372036854775807

/-- Whether 64 bits without a sign hold a number. -/
def isWord64 (n : Nat) : Bool := n ≤ 18446744073709551615

end DocSieve
