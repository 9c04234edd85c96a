-- SUMMARY: Reading timestamps: the internet date and time format that documents store, and the formats that a filter may use.
import DocSieve.Time.Instant

/-!
# Timestamps as text

A filter gives an instant in one of three formats. The format is chosen by the
pattern of the text, in which the digits of any script count, and only then
is the text read, which takes ASCII digits. A document may store any text of
the internet date and time format as well.
-/

namespace DocSieve.Stamp

open Text

/-! ## Parts -/

/-- The text behind the character `c`. -/
def after? (c : Char) : List Char → Option (List Char)
  | d :: cs => if d = c then some cs else none
  | [] => none

/-- A date: four digits, two and two, with hyphens between them. -/
def date? (cs : List Char) : Option (Date × List Char) := do
  let (year, cs) ← readDigits? 4 cs
  let cs ← after? '-' cs
  let (month, cs) ← readDigits? 2 cs
  let cs ← after? '-' cs
  let (day, cs) ← readDigits? 2 cs
  some (⟨year, month, day⟩, cs)

/-- A time of day to the second, with colons between its parts. -/
def time? (cs : List Char) : Option ((Nat × Nat × Nat) × List Char) := do
  let (hour, cs) ← readDigits? 2 cs
  let cs ← after? ':' cs
  let (minute, cs) ← readDigits? 2 cs
  let cs ← after? ':' cs
  let (second, cs) ← readDigits? 2 cs
  some ((hour, minute, second), cs)

/-- The billionths of a second that the digits of a fraction spell. Those
after the ninth are dropped. -/
def fractionNanos (ds : List Nat) : Nat :=
  ofDigits (ds.take 9) * Nat.pow 10 (9 - ds.length)

/-- A fraction of a second, which may be missing but not empty. -/
def fraction? : List Char → Option (Nat × List Char)
  | '.' :: cs =>
    let (ds, cs) := spanDigits cs
    if ds.isEmpty then none else some (fractionNanos ds, cs)
  | cs => some (0, cs)

/-- Hours and minutes of an offset, less than a day in size. -/
def offsetSize? (cs : List Char) : Option (Nat × List Char) := do
  let (hours, cs) ← readDigits? 2 cs
  let cs ← after? ':' cs
  let (minutes, cs) ← readDigits? 2 cs
  if hours < 24 ∧ minutes < 60 then some (hours * 3600 + minutes * 60, cs) else none

/-- The offset from universal time in seconds. The minus may be a hyphen or
the minus sign. -/
def offset? : List Char → Option (Int × List Char)
  | 'Z' :: cs | 'z' :: cs => some (0, cs)
  | '+' :: cs => (offsetSize? cs).map fun (n, cs) => (n, cs)
  | '-' :: cs | '\u2212' :: cs => (offsetSize? cs).map fun (n, cs) => (-n, cs)
  | _ => none

/-! ## The internet format -/

/-- The wall time of a text of the internet format. -/
def internetTime? (cs : List Char) : Option WallTime := do
  let (date, cs) ← date? cs
  match cs with
  | [] => none
  | c :: cs =>
    if c ≠ 'T' ∧ c ≠ 't' ∧ c ≠ ' ' then none
    else
      let ((hour, minute, second), cs) ← time? cs
      let (nanos, cs) ← fraction? cs
      let (offset, cs) ← offset? cs
      if cs.isEmpty then some ⟨date, hour, minute, second, nanos, offset⟩ else none

/-- The instant of a text of the internet format. -/
def internet? (s : String) : Option Instant := (internetTime? s.toList).bind (·.instant?)

/-! ## The formats of a filter -/

/-- The formats in which a filter gives an instant. -/
inductive Format where
  /-- A date, which stands for its start. -/
  | day
  /-- A date and a time in universal time. -/
  | clock
  /-- A date, a time with six decimal places, and an offset. -/
  | zoned
deriving DecidableEq

namespace Format

/-- The texts of a format, with 0 for any digit. -/
def patterns : Format → List String
  | .day => ["0000-00-00"]
  | .clock => ["0000-00-00T00:00:00"]
  | .zoned => ["0000-00-00T00:00:00.000000Z", "0000-00-00T00:00:00.000000+00:00",
      "0000-00-00T00:00:00.000000-00:00"]

/-- Whether a text has the form of a pattern. -/
def fits : List Char → List Char → Bool
  | [], [] => true
  | p :: ps, c :: cs => (if p = '0' then isDecimalDigit c else c = p) && fits ps cs
  | _, _ => false

/-- Whether a text has the form of one of the texts of a format. -/
def admits (f : Format) (s : String) : Bool :=
  f.patterns.any fun p => fits p.toList s.toList

/-- The wall time of a text of the format. -/
def wallTime? (f : Format) (cs : List Char) : Option WallTime :=
  match f with
  | .day => do
    let (date, cs) ← date? cs
    if cs.isEmpty then some ⟨date, 0, 0, 0, 0, 0⟩ else none
  | .clock => do
    let (date, cs) ← date? cs
    let cs ← after? 'T' cs
    let ((hour, minute, second), cs) ← time? cs
    if cs.isEmpty then some ⟨date, hour, minute, second, 0, 0⟩ else none
  | .zoned => internetTime? cs

end Format

/-- What is wrong with the instant of a filter. -/
inductive OperandError where
  /-- The text has none of the forms. -/
  | unknownFormat
  /-- The text names no instant, or one in a leap second. -/
  | noSuchInstant
deriving DecidableEq

/-- The instant that a filter gives as a text. -/
def operand (s : String) : Except OperandError Instant :=
  match [Format.day, .clock, .zoned].find? (·.admits s) with
  | none => .error .unknownFormat
  | some f =>
    match (f.wallTime? s.toList).bind (·.instant?) with
    | some i => if i.isLeap then .error .noSuchInstant else .ok i
    | none => .error .noSuchInstant

/-- The instant that a document stores as a text. -/
def stored? (s : String) : Option Instant := internet? s <|> (operand s).toOption

end DocSieve.Stamp
