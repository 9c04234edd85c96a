-- SUMMARY: The grammar of JSON: the texts that are written for a tree.
import DocSieve.Json.Reader

/-!
# The grammar of JSON

A tree says what a text holds, and many texts hold the same: blanks may stand
between any two signs, a character of a string may be written as itself or as
an escape, and an exponent has its optional plus. The grammar relates a tree
to all of its texts, without a reader's fuel and rests.
-/

namespace DocSieve.Json

open Text (Glyph decimal?)

/-- Blanks only. -/
def Blanks (cs : List Char) : Prop := ∀ c ∈ cs, isSpace c = true

theorem blanks_nil : Blanks [] := nofun

/-! ## Strings -/

/-- Four hexadecimal digits and the number that they spell. -/
inductive FourHex : Nat → List Char → Prop where
  | of {a b c d : Char} {w x y z : Nat} : hexDigit? a = some w → hexDigit? b = some x →
      hexDigit? c = some y → hexDigit? d = some z →
      FourHex (((w * 16 + x) * 16 + y) * 16 + z) [a, b, c, d]

/-- The first half of a surrogate pair. -/
def IsHigh (n : Nat) : Prop := 0xD800 ≤ n ∧ n ≤ 0xDBFF

/-- The second half of a surrogate pair. -/
def IsLow (n : Nat) : Prop := 0xDC00 ≤ n ∧ n ≤ 0xDFFF

instance (n : Nat) : Decidable (IsHigh n) := inferInstanceAs (Decidable (_ ∧ _))

instance (n : Nat) : Decidable (IsLow n) := inferInstanceAs (Decidable (_ ∧ _))

/-- The letters of the short escapes, with what they stand for. -/
def shortEscapes : List (Char × Char) :=
  [('"', '"'), ('\\', '\\'), ('/', '/'), ('b', '\x08'), ('f', '\x0c'), ('n', '\n'), ('r', '\r'),
   ('t', '\t')]

/-- The text goes on with the second half of a surrogate pair. -/
def StartsLow (cs : List Char) : Prop :=
  ∃ n ds rest, FourHex n ds ∧ IsLow n ∧ cs = '\\' :: 'u' :: ds ++ rest

/-- What stands between the quotes of a string. Half a surrogate pair is a hole. -/
inductive StringBody : List Glyph → List Char → Prop where
  | nil : StringBody [] []
  | plain {c : Char} {s : List Glyph} {cs : List Char} : c ≠ '"' → c ≠ '\\' → 0x20 ≤ c.toNat →
      StringBody s cs → StringBody (some c :: s) (c :: cs)
  | short {letter c : Char} {s : List Glyph} {cs : List Char} : (letter, c) ∈ shortEscapes →
      StringBody s cs → StringBody (some c :: s) ('\\' :: letter :: cs)
  | unicode {n : Nat} {ds : List Char} {s : List Glyph} {cs : List Char} : FourHex n ds →
      ¬ IsHigh n → ¬ IsLow n → StringBody s cs →
      StringBody (some (Char.ofNat n) :: s) ('\\' :: 'u' :: ds ++ cs)
  | pair {high low : Nat} {ds ds' : List Char} {s : List Glyph} {cs : List Char} :
      FourHex high ds → IsHigh high → FourHex low ds' → IsLow low → StringBody s cs →
      StringBody (some (Char.ofNat (0x10000 + (high - 0xD800) * 0x400 + (low - 0xDC00))) :: s)
        ('\\' :: 'u' :: ds ++ '\\' :: 'u' :: ds' ++ cs)
  | loneHigh {n : Nat} {ds : List Char} {s : List Glyph} {cs : List Char} : FourHex n ds →
      IsHigh n → ¬ StartsLow cs → StringBody s cs →
      StringBody (none :: s) ('\\' :: 'u' :: ds ++ cs)
  | loneLow {n : Nat} {ds : List Char} {s : List Glyph} {cs : List Char} : FourHex n ds →
      IsLow n → StringBody s cs → StringBody (none :: s) ('\\' :: 'u' :: ds ++ cs)

/-- A string between its quotes. -/
inductive StringText (s : List Glyph) : List Char → Prop where
  | of {cs : List Char} : StringBody s cs → StringText s ('"' :: cs ++ ['"'])

/-! ## Numbers -/

/-- One digit or more. -/
def Digits (ds : List Nat) (cs : List Char) : Prop := ds ≠ [] ∧ cs.map decimal? = ds.map some

inductive FractionText : List Nat → List Char → Prop where
  | missing : FractionText [] []
  | given {ds : List Nat} {cs : List Char} : Digits ds cs → FractionText ds ('.' :: cs)

inductive ExponentText : Option Exponent → List Char → Prop where
  | missing : ExponentText none []
  | plus {letter : Char} {sign : List Char} {ds : List Nat} {cs : List Char} :
      letter ∈ ['e', 'E'] → sign ∈ [[], ['+']] → Digits ds cs →
      ExponentText (some ⟨false, ds⟩) (letter :: sign ++ cs)
  | minus {letter : Char} {ds : List Nat} {cs : List Char} : letter ∈ ['e', 'E'] →
      Digits ds cs → ExponentText (some ⟨true, ds⟩) (letter :: '-' :: cs)

/-- A zero in front of the point stands alone. -/
inductive NumeralText : Numeral → List Char → Prop where
  | of {negative : Bool} {whole fraction : List Nat} {exponent : Option Exponent}
      {ws fs es : List Char} : Digits whole ws → (whole.head? = some 0 → whole.length = 1) →
      FractionText fraction fs → ExponentText exponent es →
      NumeralText ⟨negative, whole, fraction, exponent⟩
        ((if negative then ['-'] else []) ++ ws ++ fs ++ es)

/-! ## Values -/

/-- What a piece of text is read as: a value, or what follows the opening
bracket of an array or an object, of which there is at least one. -/
inductive Phrase where
  | value (t : Tree)
  | items (ts : List Tree)
  | members (ms : List (List Glyph × Tree))

/-- The texts of a phrase. -/
inductive Written : Phrase → List Char → Prop where
  | null : Written (.value .null) ['n', 'u', 'l', 'l']
  | bool (b : Bool) :
      Written (.value (.bool b)) (if b then ['t', 'r', 'u', 'e'] else ['f', 'a', 'l', 's', 'e'])
  | number {n : Numeral} {cs : List Char} : NumeralText n cs → Written (.value (.number n)) cs
  | string {s : List Glyph} {cs : List Char} : StringText s cs → Written (.value (.string s)) cs
  | emptyArray {a : List Char} : Blanks a →
      Written (.value (.array [] true)) ('[' :: a ++ [']'])
  | array {ts : List Tree} {cs : List Char} : Written (.items ts) cs →
      Written (.value (.array ts true)) ('[' :: cs)
  | emptyObject {a : List Char} : Blanks a →
      Written (.value (.object [] true)) ('\x7b' :: a ++ ['\x7d'])
  | object {ms : List (List Glyph × Tree)} {cs : List Char} : Written (.members ms) cs →
      Written (.value (.object ms true)) ('\x7b' :: cs)
  | lastItem {t : Tree} {a cs b : List Char} : Blanks a → Written (.value t) cs → Blanks b →
      Written (.items [t]) (a ++ cs ++ b ++ [']'])
  | item {t : Tree} {ts : List Tree} {a cs b more : List Char} : Blanks a →
      Written (.value t) cs → Blanks b → Written (.items ts) more →
      Written (.items (t :: ts)) (a ++ cs ++ b ++ ',' :: more)
  | lastMember {name : List Glyph} {t : Tree} {a ns b c cs d : List Char} : Blanks a →
      StringText name ns → Blanks b → Blanks c → Written (.value t) cs → Blanks d →
      Written (.members [(name, t)]) (a ++ ns ++ b ++ ':' :: c ++ cs ++ d ++ ['\x7d'])
  | member {name : List Glyph} {t : Tree} {ms : List (List Glyph × Tree)}
      {a ns b c cs d more : List Char} : Blanks a → StringText name ns → Blanks b → Blanks c →
      Written (.value t) cs → Blanks d → Written (.members ms) more →
      Written (.members ((name, t) :: ms)) (a ++ ns ++ b ++ ':' :: c ++ cs ++ d ++ ',' :: more)

/-- An optional text as a tree, null if it is absent. -/
def Tree.ofText? : Option String → Tree
  | some s => .string (Text.glyphs s)
  | none => .null

/-- A text that holds the value `t` and nothing else. -/
def Tree.IsOf (t : Tree) (text : String) : Prop :=
  ∃ a cs b, Blanks a ∧ Written (.value t) cs ∧ Blanks b ∧ text.toList = a ++ cs ++ b

end DocSieve.Json
