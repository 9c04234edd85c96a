-- SUMMARY: Decoding a JSON text into what the program wants: values, texts, lists, and records with named members.
import DocSieve.Json.Fault
import DocSieve.Json.Reader
import DocSieve.Json.Value

/-!
# Decoding

A decoder walks a tree from left to right and stops at the first fault. It is
given the number of levels that arrays and objects may still nest.

A record is an object with known members, or an array that gives them in the
order in which they are declared. Members of other names are skipped: they
have to be JSON, but may nest as deep as they like.
-/

namespace DocSieve.Json

/-- A decoder: from the levels of nesting that are left and a tree. -/
abbrev Decoder (α : Type) := Nat → Tree → Except Fault α

/-- The levels of nesting that a text may have. -/
def maxNesting : Nat := 127

/-- The result of decoding one part, its place counted from the whole. -/
def part (step : Step) (r : Except Fault α) : Except Fault α := r.mapError (·.inside step)

/-- Opens one level of nesting. -/
def enter (room : Nat) (k : Nat → Except Fault α) : Except Fault α :=
  match room with
  | 0 => .error .malformed
  | room + 1 => k room

/-! ## Any value -/

mutual

/-- The value of a tree that is JSON to its end, within the levels of nesting
that are left, with numbers in range and strings without holes. The last of
several members of one name counts. -/
def Tree.value? (room : Nat) : Tree → Option Value
  | .null => some .null
  | .bool b => some (.bool b)
  | .number t => t.number?.map .number
  | .string s => (Tree.text? s).map .string
  | .array items closed =>
    match room with
    | 0 => none
    | room + 1 => do
      let vs ← itemValues? room items
      if closed then some (.array vs) else none
  | .object members closed =>
    match room with
    | 0 => none
    | room + 1 => do
      let ms ← memberValues? room [] members
      if closed then some (.object ms) else none
  | .broken => none

/-- The values of the items of an array. -/
def itemValues? (room : Nat) : List Tree → Option (List Value)
  | [] => some []
  | t :: ts => do
    let v ← t.value? room
    let vs ← itemValues? room ts
    some (v :: vs)

/-- The members of an object, added to those before them. -/
def memberValues? (room : Nat) (before : List (String × Value)) :
    List (List Text.Glyph × Tree) → Option (List (String × Value))
  | [] => some before
  | (name, t) :: ms => do
    let name ← Tree.text? name
    let v ← t.value? room
    memberValues? room (setMember name v before) ms

end

namespace Decoder

def anyValue : Decoder Value := fun room t =>
  match t.value? room with
  | some v => .ok v
  | none => .error .malformed

/-! ## Texts and options -/

/-- A string, which an error calls `wanted`. -/
def stringAs (wanted : Wanted) : Decoder String := fun _ t =>
  match t with
  | .string s =>
    match Tree.text? s with
    | some s => .ok s
    | none => .error .malformed
  | t => .error (t.unexpected wanted)

def string : Decoder String := stringAs .text

/-- Null, or something that `d` decodes. -/
def optional (d : Decoder α) : Decoder (Option α) := fun room t =>
  match t with
  | .null => .ok none
  | t => (d room t).map some

/-- Null and nothing else. -/
def unit : Decoder Unit := fun _ t =>
  match t with
  | .null => .ok ()
  | t => .error (t.unexpected .unit)

/-- An integer from 0 to 65535. -/
def port : Decoder Nat := fun _ t =>
  match t with
  | .number n =>
    match n.number? with
    | some (.int i) =>
      if 0 ≤ i ∧ i < 65536 then .ok i.toNat
      else .error (.misshapen [] (.invalidValue (.number (.int i)) .port))
    | _ => .error (t.unexpected .port)
  | t => .error (t.unexpected .port)

/-! ## Lists -/

/-- The items of an array from the one numbered `index` on. -/
def items (d : Decoder α) (room : Nat) : Nat → List Tree → Except Fault (List α)
  | _, [] => .ok []
  | index, t :: ts => do
    let a ← part (.item index) (d room t)
    let as ← items d room (index + 1) ts
    return a :: as

/-- An array of things that `d` decodes. -/
def sequence (d : Decoder α) : Decoder (List α) := fun room t =>
  match t with
  | .array ts closed =>
    enter room fun room => do
      let as ← items d room 0 ts
      if closed then return as else .error .malformed
  | t => .error (t.unexpected .sequence)

/-! ## Maps -/

/-- The entries of a map, added to those before them. The last of several
entries of one name counts. -/
def entries (d : Decoder α) (room : Nat) (before : List (String × α)) :
    List (List Text.Glyph × Tree) → Except Fault (List (String × α))
  | [] => .ok before
  | (name, t) :: ms =>
    match Tree.text? name with
    | none => .error .malformed
    | some name => do
      let a ← part (.member name) (d room t)
      entries d room (setMember name a before) ms

/-- An object of any names with things that `d` decodes. -/
def map (d : Decoder α) : Decoder (List (String × α)) := fun room t =>
  match t with
  | .object ms closed =>
    enter room fun room => do
      let es ← entries d room [] ms
      if closed then return es else .error .malformed
  | t => .error (t.unexpected .map)

/-! ## Records -/

/-- A member of a record: its name, whether it has to be given, and how its
value is put into the record. -/
structure Member (α : Type) where
  name : String
  needed : Bool
  read : Decoder (α → α)

/-- A member that has to be given, decoded by `d` and stored by `set`. -/
def Member.required (name : String) (d : Decoder β) (set : β → α → α) : Member α :=
  ⟨name, true, fun room t => (d room t).map set⟩

/-- A member that may be left out, decoded by `d` and stored by `set`. -/
def Member.optional (name : String) (d : Decoder β) (set : β → α → α) : Member α :=
  ⟨name, false, fun room t => (d room t).map set⟩

/-- Goes through the members of an object. `seen` are the names met so far. -/
def fill (known : List (Member α)) (room : Nat) (seen : List String) (a : α) :
    List (List Text.Glyph × Tree) → Except Fault (List String × α)
  | [] => .ok (seen, a)
  | (name, t) :: ms =>
    match Tree.text? name with
    | none => .error .malformed
    | some name =>
      match known.find? (·.name = name) with
      | none => if t.sound then fill known room seen a ms else .error .malformed
      | some m =>
        if name ∈ seen then .error (.misshapen [] (.duplicateField name))
        else do
          let set ← part (.member name) (m.read room t)
          fill known room (name :: seen) (set a) ms

/-- Goes through an array that gives the members in order, from the one
numbered `index` on. -/
def fillInOrder (label : String) (count room : Nat) (closed : Bool) :
    Nat → List (Member α) → α → List Tree → Except Fault α
  | index, m :: known, a, t :: ts => do
    let set ← part (.item index) (m.read room t)
    fillInOrder label count room closed (index + 1) known (set a) ts
  | index, m :: known, a, [] =>
    if !closed then .error .malformed
    else if m.needed then .error (.misshapen [] (.invalidLength index label count))
    else fillInOrder label count room closed (index + 1) known a []
  | _, [], a, ts => if ts.isEmpty && closed then .ok a else .error .malformed

/-- The record `label` with the given members, each of which starts as in
`start`. -/
def record (label : String) (known : List (Member α)) (start : α) : Decoder α := fun room t =>
  match t with
  | .object ms closed =>
    enter room fun room => do
      let (seen, a) ← fill known room [] start ms
      if !closed then .error .malformed
      else
        match known.find? fun m => m.needed && m.name ∉ seen with
        | some m => .error (.misshapen [] (.missingField m.name))
        | none => .ok a
  | .array ts closed =>
    enter room fun room => fillInOrder label known.length room closed 0 known start ts
  | t => .error (t.unexpected (.record label))

/-! ## Texts as a whole -/

/-- Decodes the value at the front of a text, whatever follows it. -/
def front (d : Decoder α) (cs : List Text.Glyph) : Except Fault α :=
  d maxNesting (Tree.read cs).1

/-- Decodes a text that holds one value and nothing else. -/
def run (d : Decoder α) (text : String) : Except Fault α := do
  let (t, rest) := Tree.read (Text.glyphs text)
  let a ← d maxNesting t
  match rest.map skipSpace with
  | some [] => return a
  | _ => .error .malformed

end Decoder

end DocSieve.Json
