-- SUMMARY: Request targets: the path of a target, percent-decoding, and the routes that paths lead to.
import DocSieve.Files.Entry
import DocSieve.Text.Pieces

/-!
# Targets and routes

A target is a path, or a scheme and a host before a path. What follows a
question mark or a number sign does not matter.
-/

namespace DocSieve.Target

/-! ## Paths -/

/-- What follows a scheme and a host. -/
def afterHost? : List Char → Option (List Char)
  | [] => none
  | ':' :: '/' :: '/' :: cs =>
    match cs.dropWhile (· ≠ '/') with
    | [] => some ['/']
    | path => some path
  | _ :: cs => afterHost? cs

/-- The path of a target. -/
def path (target : String) : String :=
  let cs := target.toList.takeWhile fun c => c ≠ '?' && c ≠ '#'
  if cs.head? = some '/' then String.ofList cs
  else String.ofList ((afterHost? cs).getD cs)

/-! ## Percent-decoding -/

/-- The value of a hexadecimal digit. -/
def hexDigit? (b : UInt8) : Option UInt8 :=
  if 0x30 ≤ b ∧ b ≤ 0x39 then some (b - 0x30)
  else if 0x41 ≤ b ∧ b ≤ 0x46 then some (b - 0x41 + 10)
  else if 0x61 ≤ b ∧ b ≤ 0x66 then some (b - 0x61 + 10)
  else none

/-- The byte that two hexadecimal digits spell. -/
def hexByte? (a b : UInt8) : Option UInt8 := do
  let high ← hexDigit? a
  let low ← hexDigit? b
  some (high * 16 + low)

/-- The bytes that stand behind percent signs and two digits. A percent sign
without them stands for itself. -/
def decode : List UInt8 → List UInt8
  | [] => []
  | 0x25 :: a :: b :: bs =>
    match hexByte? a b with
    | some byte => byte :: decode bs
    | none => 0x25 :: decode (a :: b :: bs)
  | b :: bs => b :: decode bs

/-- The text that a piece of a path stands for, if it is one. -/
def decodeText? (piece : String) : Option String :=
  (Files.Entry.textOfBytes ⟨(decode piece.toUTF8.toList).toArray⟩).toOption

/-! ## Routes -/

/-- What a path leads to. -/
inductive Route where
  | health
  /-- The queries of a collection, whose name is still encoded. -/
  | query (collection : String)
deriving DecidableEq

/-- The methods that a route has. -/
def Route.methods : Route → String
  | .health => "GET,HEAD"
  | .query _ => "POST"

/-- The route of a path. -/
def route? (path : String) : Option Route :=
  match Text.pieces '/' path with
  | ["", "health"] => some .health
  | ["", "collections", name, "query"] => some (.query name)
  | _ => none

end DocSieve.Target
