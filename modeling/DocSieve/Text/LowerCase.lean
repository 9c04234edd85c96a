-- SUMMARY: Full Unicode lower-casing of a text, with the final form of sigma.
import DocSieve.Text.CaseTable

/-!
# Lower-casing

Each character is replaced by its lower-case form, without regard to a
language. Two characters need more than the table of single mappings: the
dotted capital I becomes two characters, and the capital sigma becomes the
final sigma at the end of a word.
-/

namespace DocSieve.Text

/-! ## One character -/

/-- The lower-case form of `c` in a run that holds it. -/
def CaseRun.image? (r : CaseRun) (c : Char) : Option Char :=
  let n := c.toNat
  if r.first ≤ n ∧ n ≤ r.last ∧ (n - r.first) % r.step = 0 then
    some (Char.ofNat (r.image + (n - r.first)))
  else none

/-- The single lower-case character of `c`, `c` itself if it has none. -/
def lowerSimple (c : Char) : Char :=
  (lowerRuns.findSome? (·.image? c)).getD c

/-- The lower-case form of `c` where its neighbours do not matter. -/
def lowerChar (c : Char) : List Char :=
  if c = 'İ' then ['i', '\u0307'] else [lowerSimple c]

/-! ## Final sigma -/

/-- Whether the first character of `cs` that case rules do not look through is
a cased one. -/
def startsCased (cs : List Char) : Bool :=
  match cs.dropWhile caseIgnorableRanges.holds with
  | [] => false
  | c :: _ => casedRanges.holds c

/-- A capital sigma ends a word when a cased character comes before it and
none follows. The characters before it are given nearest first. -/
def lowerSigma (before after : List Char) : Char :=
  if startsCased before && !startsCased after then 'ς' else 'σ'

/-! ## A text -/

/-- Lower-cases a list of characters that stands behind `before`, which is
given nearest first. -/
def lowerAfter (before : List Char) : List Char → List Char
  | [] => []
  | c :: cs =>
    (if c = 'Σ' then [lowerSigma before cs] else lowerChar c) ++ lowerAfter (c :: before) cs

/-- The lower-case form of a text. -/
def lower (s : String) : String := String.ofList (lowerAfter [] s.toList)

end DocSieve.Text
