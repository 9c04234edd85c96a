-- SUMMARY: Media types of request bodies, and whether one stands for JSON.

/-!
# Media types

A media type is a type, a slash, a subtype and parameters. It stands for JSON
if the type is `application` and the subtype is `json` or ends in `+json`. The
letter case of ASCII letters does not matter.
-/

namespace DocSieve.MediaType

/-- Whether a character may stand in a name. -/
def isToken (c : Char) : Bool :=
  c.isAlphanum || "!#$%&'*+-.^_\x60|~".toList.contains c

/-- Whether a character may stand in a quoted value. -/
def isQuoted (c : Char) : Bool := 0x20 ≤ c.toNat && c.toNat < 0x7F

/-! ## Parameters -/

/-- Where a reader of parameters stands. -/
inductive Place where
  /-- Before a name. -/
  | start
  /-- Inside a name. -/
  | name
  /-- Before a value. -/
  | equals
  /-- Inside a value that is not quoted. -/
  | value
  /-- Behind the quote that opens a value. -/
  | quote
  /-- Inside a quoted value. -/
  | quoted
  /-- Behind a quoted value. -/
  | closed
deriving DecidableEq

/-- Where the next character leads, if it fits. A quote that directly follows
the opening one belongs to the value. -/
def Place.step? (p : Place) (c : Char) : Option Place :=
  match p with
  | .start => if c = ' ' then some .start else if isToken c then some .name else none
  | .name => if isToken c then some .name else if c = '=' then some .equals else none
  | .equals => if c = '"' then some .quote else if isToken c then some .value else none
  | .value => if isToken c then some .value else if c = ';' then some .start else none
  | .quote => if isQuoted c then some .quoted else none
  | .quoted => if c = '"' then some .closed else if isQuoted c then some .quoted else none
  | .closed => if c = ';' then some .start else if c = ' ' then some .closed else none

/-- Whether parameters may end here. -/
def Place.isEnd : Place → Bool
  | .start | .equals | .value | .closed => true
  | .name | .quote | .quoted => false

/-- Whether characters are the rest of well-formed parameters. -/
def areParameters (p : Place) : List Char → Bool
  | [] => p.isEnd
  | c :: cs =>
    match p.step? c with
    | some p => areParameters p cs
    | none => false

/-! ## Types -/

/-- The part of a text before the first separator, and what follows it. -/
def cut (separator : Char) : List Char → List Char × Option (List Char)
  | [] => ([], none)
  | c :: cs =>
    if c = separator then ([], some cs)
    else
      let (front, rest) := cut separator cs
      (c :: front, rest)

/-- The part of a text before its last separator, and what follows it. A
separator in front of the whole text does not count. -/
def cutLast (separator : Char) (cs : List Char) : List Char × Option (List Char) :=
  match cut separator cs.reverse with
  | (_, none) => (cs, none)
  | (_, some []) => (cs, none)
  | (last, some front) => (front.reverse, some last.reverse)

/-- Whether a text is the given one in lower case. -/
def isNamed (name : String) (cs : List Char) : Bool := cs.map Char.toLower = name.toList

/-- Whether a media type stands for JSON. -/
def isJson (s : String) : Bool :=
  match cut '/' s.toList with
  | (_, none) => false
  | (type, some rest) =>
    let (subtype, parameters) := cut ';' rest
    let (base, suffix) := cutLast '+' subtype
    type.all isToken && subtype.all isToken && isNamed "application" type
      && (isNamed "json" base || suffix.any (isNamed "json"))
      && (parameters.map (areParameters .start)).getD true

end DocSieve.MediaType
