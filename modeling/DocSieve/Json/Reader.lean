-- SUMMARY: Reading a JSON text into a tree.
import DocSieve.Json.Tree

/-!
# Reading JSON

Each reader takes the glyphs from a place in the text on and gives what it
read together with what follows, or no rest if the text broke.
-/

namespace DocSieve.Json

open Text (Glyph decimal?)

/-! ## Blanks and words -/

/-- The four blanks of JSON. -/
def isSpace (c : Char) : Bool := c = ' ' || c = '\n' || c = '\t' || c = '\r'

/-- The text without the blanks in front. -/
def skipSpace : List Glyph → List Glyph
  | some c :: cs => if isSpace c then skipSpace cs else some c :: cs
  | cs => cs

/-- The text behind `word`, if it starts with it. -/
def afterWord? (word : List Char) (cs : List Glyph) : Option (List Glyph) :=
  if cs.take word.length = word.map some then some (cs.drop word.length) else none

/-! ## Strings -/

/-- The value of a hexadecimal digit. -/
def hexDigit? (c : Char) : Option Nat :=
  if '0' ≤ c ∧ c ≤ '9' then some (c.toNat - '0'.toNat)
  else if 'a' ≤ c ∧ c ≤ 'f' then some (c.toNat - 'a'.toNat + 10)
  else if 'A' ≤ c ∧ c ≤ 'F' then some (c.toNat - 'A'.toNat + 10)
  else none

/-- The number of a four-digit escape, and the text behind it. -/
def hexEscape? : List Glyph → Option (Nat × List Glyph)
  | some a :: some b :: some c :: some d :: cs => do
    let a ← hexDigit? a
    let b ← hexDigit? b
    let c ← hexDigit? c
    let d ← hexDigit? d
    some (((a * 16 + b) * 16 + c) * 16 + d, cs)
  | _ => none

/-- The second half of a surrogate pair, if one is escaped here. -/
def lowSurrogate? : List Glyph → Option (Nat × List Glyph)
  | some '\\' :: some 'u' :: cs => do
    let (n, cs) ← hexEscape? cs
    if 0xDC00 ≤ n ∧ n ≤ 0xDFFF then some (n, cs) else none
  | _ => none

/-- The glyph of an escaped number. A pair of surrogates is one character, and
a surrogate on its own is a hole. -/
def unicodeEscape? (cs : List Glyph) : Option (Glyph × List Glyph) := do
  let (n, cs) ← hexEscape? cs
  if 0xD800 ≤ n ∧ n ≤ 0xDBFF then
    match lowSurrogate? cs with
    | some (low, cs) => some (some (Char.ofNat (0x10000 + (n - 0xD800) * 0x400 + (low - 0xDC00))), cs)
    | none => some (none, cs)
  else if 0xDC00 ≤ n ∧ n ≤ 0xDFFF then some (none, cs)
  else some (some (Char.ofNat n), cs)

/-- The glyph of an escape, whose backslash has been read. -/
def escape? : List Glyph → Option (Glyph × List Glyph)
  | some 'u' :: cs => unicodeEscape? cs
  | some '"' :: cs => some (some '"', cs)
  | some '\\' :: cs => some (some '\\', cs)
  | some '/' :: cs => some (some '/', cs)
  | some 'b' :: cs => some (some '\x08', cs)
  | some 'f' :: cs => some (some '\x0c', cs)
  | some 'n' :: cs => some (some '\n', cs)
  | some 'r' :: cs => some (some '\r', cs)
  | some 't' :: cs => some (some '\t', cs)
  | _ => none

/-- The glyphs of a string whose opening quote has been read, and the text
behind its closing quote. -/
def stringBody? (fuel : Nat) (cs : List Glyph) : Option (List Glyph × List Glyph) :=
  match fuel, cs with
  | 0, _ => none
  | _, [] => none
  | _, some '"' :: cs => some ([], cs)
  | fuel + 1, some '\\' :: cs => do
    let (g, cs) ← escape? cs
    let (s, cs) ← stringBody? fuel cs
    some (g :: s, cs)
  | fuel + 1, none :: cs => do
    let (s, cs) ← stringBody? fuel cs
    some (none :: s, cs)
  | fuel + 1, some c :: cs =>
    if c.toNat < 0x20 then none
    else do
      let (s, cs) ← stringBody? fuel cs
      some (some c :: s, cs)

/-- The glyphs of a string whose opening quote has been read. -/
def string? (cs : List Glyph) : Option (List Glyph × List Glyph) := stringBody? (cs.length + 1) cs

/-! ## Numbers -/

/-- The digits in front. -/
def spanDigits : List Glyph → List Nat × List Glyph
  | some c :: cs =>
    match decimal? c with
    | some d => let more := spanDigits cs; (d :: more.1, more.2)
    | none => ([], some c :: cs)
  | cs => ([], cs)

/-- The digits in front, of which there has to be one. -/
def digits? (cs : List Glyph) : Option (List Nat × List Glyph) :=
  let (ds, cs) := spanDigits cs
  if ds.isEmpty then none else some (ds, cs)

/-- The digits before the point. A zero in front stands alone. -/
def whole? (cs : List Glyph) : Option (List Nat × List Glyph) := do
  let (ds, cs) ← digits? cs
  if ds.head? = some 0 ∧ ds.length ≠ 1 then none else some (ds, cs)

/-- The fraction, which may be missing. -/
def fraction? : List Glyph → Option (List Nat × List Glyph)
  | some '.' :: cs => digits? cs
  | cs => some ([], cs)

/-- The digits of an exponent behind its sign. -/
def exponentDigits? : List Glyph → Option (Exponent × List Glyph)
  | some '-' :: cs => (digits? cs).map fun (ds, cs) => (⟨true, ds⟩, cs)
  | some '+' :: cs => (digits? cs).map fun (ds, cs) => (⟨false, ds⟩, cs)
  | cs => (digits? cs).map fun (ds, cs) => (⟨false, ds⟩, cs)

/-- The exponent, which may be missing. -/
def exponent? : List Glyph → Option (Option Exponent × List Glyph)
  | some 'e' :: cs => (exponentDigits? cs).map fun (e, cs) => (some e, cs)
  | some 'E' :: cs => (exponentDigits? cs).map fun (e, cs) => (some e, cs)
  | cs => some (none, cs)

/-- A number without its sign. -/
def unsigned? (negative : Bool) (cs : List Glyph) : Option (Numeral × List Glyph) := do
  let (whole, cs) ← whole? cs
  let (fraction, cs) ← fraction? cs
  let (exponent, cs) ← exponent? cs
  some (⟨negative, whole, fraction, exponent⟩, cs)

/-- A number. -/
def numeral? : List Glyph → Option (Numeral × List Glyph)
  | some '-' :: cs => unsigned? true cs
  | cs => unsigned? false cs

/-! ## Values -/

/-- What a reader of values gives: a tree, and the rest unless the text broke. -/
abbrev Progress := Tree × Option (List Glyph)

/-- What is made of something that may have been read. -/
def Progress.of (make : α → Tree) : Option (α × List Glyph) → Progress
  | some (a, cs) => (make a, some cs)
  | none => (.broken, none)

mutual

/-- The value in front. -/
def readValue (fuel : Nat) (cs : List Glyph) : Progress :=
  match fuel, skipSpace cs with
  | 0, _ => (.broken, none)
  | _, some 'n' :: cs => .of (fun _ => .null) ((afterWord? ['u', 'l', 'l'] cs).map ((), ·))
  | _, some 't' :: cs => .of (fun _ => .bool true) ((afterWord? ['r', 'u', 'e'] cs).map ((), ·))
  | _, some 'f' :: cs => .of (fun _ => .bool false) ((afterWord? ['a', 'l', 's', 'e'] cs).map ((), ·))
  | _, some '"' :: cs => .of .string (string? cs)
  | fuel + 1, some '[' :: cs =>
    match skipSpace cs with
    | some ']' :: cs => (.array [] true, some cs)
    | cs =>
      let (items, rest) := readItems fuel cs
      (.array items rest.isSome, rest)
  | fuel + 1, some '{' :: cs =>
    match skipSpace cs with
    | some '}' :: cs => (.object [] true, some cs)
    | some '"' :: cs =>
      let (members, rest) := readMembers fuel cs
      (.object members rest.isSome, rest)
    | _ => (.object [] false, none)
  | _, cs => .of .number (numeral? cs)

/-- The items of an array, of which there is at least one, up to its end. -/
def readItems (fuel : Nat) (cs : List Glyph) : List Tree × Option (List Glyph) :=
  match fuel with
  | 0 => ([], none)
  | fuel + 1 =>
    match readValue fuel cs with
    | (item, none) => ([item], none)
    | (item, some cs) =>
      match skipSpace cs with
      | some ',' :: cs =>
        let (items, rest) := readItems fuel cs
        (item :: items, rest)
      | some ']' :: cs => ([item], some cs)
      | _ => ([item], none)

/-- The members of an object up to its end. The opening quote of the first
name has been read. -/
def readMembers (fuel : Nat) (cs : List Glyph) :
    List (List Glyph × Tree) × Option (List Glyph) :=
  match fuel with
  | 0 => ([], none)
  | fuel + 1 =>
    match string? cs with
    | none => ([], none)
    | some (name, cs) =>
      match skipSpace cs with
      | some ':' :: cs =>
        match readValue fuel cs with
        | (value, none) => ([(name, value)], none)
        | (value, some cs) =>
          match skipSpace cs with
          | some ',' :: cs =>
            match skipSpace cs with
            | some '"' :: cs =>
              let (members, rest) := readMembers fuel cs
              ((name, value) :: members, rest)
            | _ => ([(name, value)], none)
          | some '}' :: cs => ([(name, value)], some cs)
          | _ => ([(name, value)], none)
      | _ => ([(name, .broken)], none)

end

/-- The tree of the value in front, and the text behind it. Every second step
takes a glyph at least, so the fuel suffices. -/
def Tree.read (cs : List Glyph) : Progress := readValue (2 * cs.length + 2) cs

end DocSieve.Json
