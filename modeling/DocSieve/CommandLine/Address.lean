-- SUMMARY: Socket addresses as text: an IPv4 or a bracketed IPv6 address, a colon and a port.
import DocSieve.Text.Digit

/-!
# Socket addresses

An IPv4 address has four decimal parts without leading zeros. An IPv6 address
has eight hexadecimal groups, of which two colons may stand for one or more
that are zero, and the last two may be written as an IPv4 address. It may name
a scope behind a percent sign.
-/

namespace DocSieve

inductive HostAddress where
  | v4 (octets : List Nat)
  | v6 (groups : List Nat) (scope : Nat)
deriving DecidableEq

/-- An address to listen on. -/
structure SocketAddress where
  host : HostAddress
  port : Nat
deriving DecidableEq

namespace SocketAddress

/-! ## Numbers -/

/-- The value of a digit in base 10 or 16. -/
def digit? (base : Nat) (c : Char) : Option Nat :=
  let n := c.toNat
  let d :=
    if '0' ≤ c ∧ c ≤ '9' then some (n - '0'.toNat)
    else if 'a' ≤ c ∧ c ≤ 'f' then some (n - 'a'.toNat + 10)
    else if 'A' ≤ c ∧ c ≤ 'F' then some (n - 'A'.toNat + 10)
    else none
  d.filter (· < base)

/-- The digits at the front of a text, and what follows them. -/
def spanDigits (base : Nat) : List Char → List Nat × List Char
  | [] => ([], [])
  | c :: cs =>
    match digit? base c with
    | some d => let more := spanDigits base cs; (d :: more.1, more.2)
    | none => ([], c :: cs)

/-- The number below `bound` that the digits at the front of a text spell, and
what follows them. There may be at most `width` digits, and a zero in front of
others only if `zeros` says so. -/
def number? (base bound : Nat) (width : Option Nat) (zeros : Bool) (cs : List Char) :
    Option (Nat × List Char) :=
  let (ds, rest) := spanDigits base cs
  let n := ds.foldl (fun n d => n * base + d) 0
  let fits := width.all (ds.length ≤ ·)
  let bare := zeros || ds.length ≤ 1 || ds.head? ≠ some 0
  if ds ≠ [] && fits && bare && n < bound then some (n, rest) else none

/-- What follows the character `c`. -/
def skip? (c : Char) : List Char → Option (List Char)
  | d :: cs => if d = c then some cs else none
  | [] => none

/-! ## IPv4 -/

/-- A part of an IPv4 address. -/
def octet? (cs : List Char) : Option (Nat × List Char) := number? 10 256 (some 3) false cs

/-- The four parts of an IPv4 address. -/
def octets? (cs : List Char) : Option ((Nat × Nat × Nat × Nat) × List Char) := do
  let (a, cs) ← octet? cs
  let (b, cs) ← octet? (← skip? '.' cs)
  let (c, cs) ← octet? (← skip? '.' cs)
  let (d, cs) ← octet? (← skip? '.' cs)
  some ((a, b, c, d), cs)

/-! ## IPv6 -/

/-- The groups at the front of a text, what follows them, and whether the last
two are written as an IPv4 address. -/
structure Groups where
  groups : List Nat
  endsInV4 : Bool
  rest : List Char

/-- Up to `left` groups. All but the first one of an address follow a colon. -/
def readGroups (first : Bool) (cs : List Char) : Nat → Groups
  | 0 => ⟨[], false, cs⟩
  | left + 1 =>
    let start := if first then some cs else skip? ':' cs
    match if left = 0 then none else start.bind octets? with
    | some ((a, b, c, d), rest) => ⟨[a * 256 + b, c * 256 + d], true, rest⟩
    | none =>
      match start.bind (number? 16 65536 (some 4) true) with
      | some (group, rest) =>
        let more := readGroups false rest left
        { more with groups := group :: more.groups }
      | none => ⟨[], false, cs⟩

/-- The eight groups of an IPv6 address. -/
def groups? (cs : List Char) : Option (List Nat × List Char) :=
  let front := readGroups true cs 8
  if front.groups.length = 8 then some (front.groups, front.rest)
  else if front.endsInV4 then none
  else do
    let cs ← skip? ':' (← skip? ':' front.rest)
    let back := readGroups true cs (7 - front.groups.length)
    let zeros := 8 - front.groups.length - back.groups.length
    some (front.groups ++ List.replicate zeros 0 ++ back.groups, back.rest)

/-- The number of a scope behind a percent sign, zero if there is none. -/
def scope (cs : List Char) : Nat × List Char :=
  ((skip? '%' cs).bind (number? 10 4294967296 none true)).getD (0, cs)

/-! ## Addresses -/

/-- A port behind a colon. -/
def port? (cs : List Char) : Option (Nat × List Char) :=
  (skip? ':' cs).bind (number? 10 65536 none true)

/-- An IPv4 address with a port. -/
def v4? (cs : List Char) : Option (SocketAddress × List Char) := do
  let ((a, b, c, d), cs) ← octets? cs
  let (port, cs) ← port? cs
  some (⟨.v4 [a, b, c, d], port⟩, cs)

/-- An IPv6 address in brackets with a port. -/
def v6? (cs : List Char) : Option (SocketAddress × List Char) := do
  let (groups, cs) ← groups? (← skip? '[' cs)
  let (scope, cs) := scope cs
  let (port, cs) ← port? (← skip? ']' cs)
  some (⟨.v6 groups scope, port⟩, cs)

/-- The socket address of a text. -/
def ofText? (s : String) : Option SocketAddress :=
  match v4? s.toList <|> v6? s.toList with
  | some (address, []) => some address
  | _ => none

end SocketAddress

end DocSieve
