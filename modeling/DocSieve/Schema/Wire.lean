-- SUMMARY: Schemas as JSON: reading the text of a schema and writing a schema as a value.
import DocSieve.Json.Decode
import DocSieve.Schema.FieldType

/-!
# Schemas as JSON

A field is an object whose member `type` names the type, or gives its number.
An object field has a member `fields` besides, and all other members of a
field are skipped.
-/

namespace DocSieve

open Json

namespace FieldType

/-! ## Reading a field -/

/-- The types in the order of their numbers, an object without its fields. -/
def all : List FieldType := [.text, .integerId, .timestamp, .bool, .float, .object []]

/-- The type that a member `type` gives, an object without its fields. -/
def ofTag (t : Tree) : Except Fault FieldType :=
  match t.found? with
  | some (.string s) =>
    match all.find? (·.name = s) with
    | some type => .ok type
    | none => .error (.misshapen [] (.unknownVariant s (all.map name)))
  | some (.number (.int i)) =>
    if i < 0 then .error (t.unexpected .variantName)
    else
      match all[i.toNat]? with
      | some type => .ok type
      | none => .error (.misshapen [] (.invalidValue (.number (.int i)) (.variantIndex all.length)))
  | _ => .error (t.unexpected .variantName)

/-- What the one member of that name gives, none if there is no such member. -/
def member (name : String) (d : Tree → Except Fault α) (found : Option α) :
    List (List Text.Glyph × Tree) → Except Fault (Option α)
  | [] => .ok found
  | (n, t) :: ms =>
    if Tree.text? n = some name then
      match found with
      | some _ => .error (.misshapen [] (.duplicateField name))
      | none => do
        let a ← part (.member name) (d t)
        member name d (some a) ms
    else member name d found ms

/-- What the one member of that name gives, which has to be there. -/
def requiredMember (name : String) (d : Tree → Except Fault α)
    (ms : List (List Text.Glyph × Tree)) : Except Fault α := do
  match ← member name d none ms with
  | some a => return a
  | none => .error (.misshapen [] (.missingField name))

def label : String := "FieldDef"

/-- A field. Its text must be JSON as a whole before anything else about it
is judged. -/
def decode (room : Nat) (t : Tree) : Except Fault FieldType :=
  match room, t with
  | room + 1, .object ms _ =>
    if (t.value? (room + 1)).isNone then .error .malformed
    else do
      match ← requiredMember "type" ofTag ms with
      | .object _ =>
        let fields ← requiredMember "fields" (Decoder.map (fun _ => decode room) (room + 1)) ms
        return .object fields
      | type => return type
  | 0, .object _ _ => .error .malformed
  | _, t => .error (t.unexpected (.record label))

/-! ## Writing a field -/

mutual

def toValue : FieldType → Value
  | .object fields => .object [("type", .string "object"), ("fields", .object (fieldValues fields))]
  | .text => .object [("type", .string "string")]
  | .integerId => .object [("type", .string "integer_id")]
  | .timestamp => .object [("type", .string "timestamp")]
  | .bool => .object [("type", .string "bool")]
  | .float => .object [("type", .string "float")]

/-- The fields of an object as members. -/
def fieldValues : List (String × FieldType) → List (String × Value)
  | [] => []
  | (name, t) :: fields => (name, t.toValue) :: fieldValues fields

end

end FieldType

/-! ## Schemas -/

namespace EntitySchema

def label : String := "EntitySchema"

def members : List (Decoder.Member EntitySchema) :=
  [.required "entity" Decoder.string fun a s => { s with entity := a },
   .optional "description" (Decoder.optional Decoder.string) fun a s => { s with description := a },
   .required "fields" (Decoder.map FieldType.decode) fun a s => { s with fields := a }]

def decoder : Decoder EntitySchema := Decoder.record label members ⟨"", none, []⟩

def parse (text : String) : Except Fault EntitySchema := decoder.run text

/-- A schema as a value. A description that is not given is left out. -/
def toValue (s : EntitySchema) : Value :=
  .object <| ("entity", .string s.entity)
    :: (match s.description with
        | some d => [("description", .string d)]
        | none => [])
    ++ [("fields", .object (FieldType.fieldValues s.fields))]

end EntitySchema

end DocSieve
