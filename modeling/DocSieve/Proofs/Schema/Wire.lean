-- SUMMARY: Schemas survive the wire: every text that holds one is decoded to the same schema.
import DocSieve.Proofs.Filter.Wire
import DocSieve.Proofs.Json.Nesting
import DocSieve.Proofs.Schema.Same

/-!
# Schemas on the wire

The two members that say what a field is may stand anywhere among other members
of its object, and an object field has such objects inside. A field is taken
whole before it is looked at, so its other members have to be values as well,
within the levels of nesting that the text may have.
-/

namespace DocSieve

open Json Json.Decoder

open Text (Glyph glyphs)

variable {name : String} {ms others : List (List Glyph × Tree)}

/-! ## One member -/

namespace FieldType

section Member

variable {α : Type} {d : Tree → Except Fault α} {t : Tree} {a : α}

/-- Members of other names are passed over. -/
theorem member_append (h : ∀ m ∈ others, Tree.text? m.1 ≠ some name) (found : Option α) :
    member name d found (others ++ ms) = member name d found ms := by
  induction others with
  | nil => rfl
  | cons m others ih =>
    obtain ⟨n, t⟩ := m
    obtain ⟨hn, hothers⟩ := List.forall_mem_cons.mp h
    simp [member, hn, ih hothers]

/-- The one member of a name is found wherever it stands. -/
theorem requiredMember_of_perm (hperm : ms.Perm ((glyphs name, t) :: others))
    (hothers : ∀ m ∈ others, Tree.text? m.1 ≠ some name) (ha : d t = .ok a) :
    requiredMember name d ms = .ok a := by
  obtain ⟨before, after, rfl⟩ := List.append_of_mem (hperm.mem_iff.mpr (.head _))
  have hrest : (before ++ after).Perm others :=
    (List.perm_cons _).mp (List.perm_middle.symm.trans hperm)
  have hbefore : ∀ m ∈ before, Tree.text? m.1 ≠ some name := fun m hm =>
    hothers m (hrest.mem_iff.mp (List.mem_append_left _ hm))
  have hafter : ∀ m ∈ after, Tree.text? m.1 ≠ some name := fun m hm =>
    hothers m (hrest.mem_iff.mp (List.mem_append_right _ hm))
  have hfound : member name d (some a) after = .ok (some a) := by
    rw [← List.append_nil after, member_append hafter]
    rfl
  simp [requiredMember, member_append hbefore, member, part, ha, hfound]

end Member

end FieldType

/-! ## Fields -/

/-- Members of other names than `known`, with values. -/
def Others (known : List String) (ms : List (List Glyph × Tree)) : Prop :=
  ∀ m ∈ ms, (∃ name, m.1 = glyphs name ∧ name ∉ known) ∧ m.2.Plain

namespace Others

variable {known : List String}

theorem nil : Others known [] := nofun

theorem text?_ne (h : Others known ms) (hname : name ∈ known) :
    ∀ m ∈ ms, Tree.text? m.1 ≠ some name := by
  intro m hm
  obtain ⟨⟨n, hn, hnew⟩, -⟩ := h m hm
  rw [hn, text?_glyphs]
  rintro ⟨⟩
  exact hnew hname

theorem isPlain (h : Others known ms) : ∀ m ∈ ms, (Tree.text? m.1).isSome ∧ m.2.Plain := by
  intro m hm
  obtain ⟨⟨n, hn, -⟩, hplain⟩ := h m hm
  exact ⟨by simp [hn], hplain⟩

end Others

/-- A type with the tree of a field, or fields with the members of an object. -/
inductive SchemaPart where
  | type (t : FieldType) (tree : Tree)
  | fields (fields : List (String × FieldType)) (members : List (List Glyph × Tree))

/-- The tree or the members spell that part of a schema. The members that say
what a field is stand anywhere among others. -/
inductive Spelled : SchemaPart → Prop where
  | leaf {t : FieldType} {others ms : List (List Glyph × Tree)} :
      (∀ fields, t ≠ .object fields) → Others ["type"] others →
      ms.Perm ((glyphs "type", .string (glyphs t.name)) :: others) →
      Spelled (.type t (.object ms true))
  | object {fields : List (String × FieldType)} {members others ms : List (List Glyph × Tree)} :
      Spelled (.fields fields members) → Others ["type", "fields"] others →
      ms.Perm ((glyphs "type", .string (glyphs "object")) ::
        (glyphs "fields", .object members true) :: others) →
      Spelled (.type (.object fields) (.object ms true))
  | noFields : Spelled (.fields [] [])
  | field {name : String} {t : FieldType} {tree : Tree} {fields : List (String × FieldType)}
      {members : List (List Glyph × Tree)} : Spelled (.type t tree) →
      Spelled (.fields fields members) →
      Spelled (.fields ((name, t) :: fields) ((glyphs name, tree) :: members))

/-! ## Decoding fields -/

namespace FieldType

/-- A field whose tree has a value is judged by its two members. -/
theorem decode_of_plain {room : Nat} {closed : Bool} (h : (Tree.object ms closed).Plain)
    (hroom : (Tree.object ms closed).nesting ≤ room + 1) :
    decode (room + 1) (.object ms closed) = (do
      match ← requiredMember "type" ofTag ms with
      | .object _ =>
        let fields ← requiredMember "fields" (Decoder.map (fun _ => decode room) (room + 1)) ms
        return .object fields
      | type => return type) := by
  have hvalue := ((Tree.object ms closed).isSome_value?_iff (room + 1)).mpr ⟨h, hroom⟩
  rw [decode]
  exact if_neg (by simp [← Option.not_isSome, hvalue])

theorem ofTag_name {t : FieldType} (ht : ∀ fields, t ≠ .object fields) :
    ofTag (.string (glyphs t.name)) = .ok t := by
  cases t with
  | object fields => exact absurd rfl (ht fields)
  | text | integerId | timestamp | bool | float => rfl

theorem ofTag_object : ofTag (.string (glyphs "object")) = .ok (.object []) := rfl

end FieldType

namespace Spelled

/-- What spells a part of a schema has a value. -/
theorem isPlain {p : SchemaPart} (h : Spelled p) :
    match p with
    | .type _ tree => tree.Plain
    | .fields _ members => PlainMembers members := by
  induction h with
  | leaf _ hothers hperm =>
    refine ⟨plainMembers_iff.mpr fun m hm => ?_, rfl⟩
    rcases List.mem_cons.mp (hperm.mem_iff.mp hm) with rfl | hm
    · simp [Tree.Plain]
    · exact hothers.isPlain m hm
  | object _ hothers hperm ih =>
    refine ⟨plainMembers_iff.mpr fun m hm => ?_, rfl⟩
    rcases List.mem_cons.mp (hperm.mem_iff.mp hm) with rfl | hm
    · simp [Tree.Plain]
    rcases List.mem_cons.mp hm with rfl | hm
    · simpa [Tree.Plain] using ih
    · exact hothers.isPlain m hm
  | noFields => trivial
  | field _ _ ih ihmore => exact ⟨by simp, ih, ihmore⟩

/-- **Spelled fields decode**, as long as they nest no deeper than there is room
for. -/
theorem decodes {p : SchemaPart} (h : Spelled p) :
    match p with
    | .type t tree => t.Distinct → ∀ room, tree.nesting ≤ room →
      FieldType.decode room tree = .ok t
    | .fields fields members => DistinctIn fields → ∀ room, memberNesting members ≤ room →
      List.Forall₂ (fun f m => m.1 = glyphs f.1 ∧ FieldType.decode room m.2 = .ok f.2)
        fields members := by
  induction h with
  | @leaf t others ms ht hothers hperm =>
    rintro - (_ | room) hroom
    · simp [Tree.nesting] at hroom
    have hplain : (Tree.object ms true).Plain := (leaf ht hothers hperm).isPlain
    have htype := FieldType.requiredMember_of_perm hperm (hothers.text?_ne (by simp))
      (FieldType.ofTag_name ht)
    rw [FieldType.decode_of_plain hplain hroom, htype]
    cases t with
    | object fields => exact absurd rfl (ht fields)
    | text | integerId | timestamp | bool | float => rfl
  | @object fields members others ms hfields hothers hperm ih =>
    rintro hdistinct (_ | room) hroom
    · simp [Tree.nesting] at hroom
    have hplain : (Tree.object ms true).Plain := (object hfields hothers hperm).isPlain
    have hinner : (Tree.object members true).nesting ≤ room :=
      memberNesting_le_iff.mp (Nat.le_of_succ_le_succ hroom) _
        (hperm.mem_iff.mpr (.tail _ (.head _)))
    -- The fields are read with the room of the field, though they lie deeper.
    have hmap : Decoder.map (fun _ => FieldType.decode room) (room + 1) (.object members true) =
        .ok fields :=
      map_eq_ok (ih hdistinct room (Nat.le_of_succ_le hinner)) (distinctIn_iff.mp hdistinct).1
    have htype := FieldType.requiredMember_of_perm hperm
      (List.forall_mem_cons.mpr ⟨by simp, hothers.text?_ne (by simp)⟩) FieldType.ofTag_object
    have hfields := FieldType.requiredMember_of_perm (hperm.trans (.swap _ _ _))
      (List.forall_mem_cons.mpr ⟨by simp, hothers.text?_ne (by simp)⟩) hmap
    rw [FieldType.decode_of_plain hplain hroom, htype]
    simp [hfields]
  | noFields => exact fun _ _ _ => .nil
  | field _ _ ih ihmore =>
    rintro ⟨-, ht, hfields⟩ room hroom
    obtain ⟨hroom, hmore⟩ := Nat.max_le.mp hroom
    exact .cons ⟨rfl, ih ht room hroom⟩ (ihmore hfields room hmore)

end Spelled

/-! ## Writing fields -/

mutual

/-- The serialization of a type spells it, and nests as its value does. -/
theorem FieldType.exists_spelled_writesAs : ∀ t : FieldType, ∃ tree, Spelled (.type t tree) ∧
    t.toValue.WritesAs tree ∧ tree.nesting = t.toValue.nesting
  | .object fields => by
    obtain ⟨members, hspelled, hwrites, hnesting⟩ := exists_spelled_writesAs_fields fields
    refine ⟨_, .object hspelled .nil .rfl, ?_, ?_⟩
    · exact Value.writesAs_object (.cons ⟨rfl, Value.writesAs_string _⟩
        (.cons ⟨rfl, Value.writesAs_object hwrites⟩ .nil))
    · simp [Tree.nesting, memberNesting, FieldType.toValue, Value.nesting, valueMemberNesting,
        hnesting]
  | .text | .integerId | .timestamp | .bool | .float => by
    refine ⟨_, .leaf nofun .nil .rfl, ?_, rfl⟩
    exact Value.writesAs_object (.cons ⟨rfl, Value.writesAs_string _⟩ .nil)

theorem exists_spelled_writesAs_fields : ∀ fields : List (String × FieldType),
    ∃ members, Spelled (.fields fields members) ∧
      List.Forall₂ Value.MemberWritesAs (FieldType.fieldValues fields) members ∧
      memberNesting members = valueMemberNesting (FieldType.fieldValues fields)
  | [] => ⟨[], .noFields, .nil, rfl⟩
  | (name, t) :: fields => by
    obtain ⟨tree, hspelled, hwrites, hnesting⟩ := t.exists_spelled_writesAs
    obtain ⟨members, hspelledAll, hwritesAll, hnestingAll⟩ := exists_spelled_writesAs_fields fields
    refine ⟨_, .field hspelled hspelledAll, .cons ⟨rfl, hwrites⟩ hwritesAll, ?_⟩
    simp [memberNesting, FieldType.fieldValues, valueMemberNesting, hnesting, hnestingAll]

end

/-! ## Schemas -/

namespace EntitySchema

variable {s : EntitySchema} {fields : List (List Glyph × Tree)}

theorem tolerant : Tolerant EntitySchema.members ⟨"", none, []⟩ where
  distinct := by decide
  commute := by
    simp only [members, List.pairwise_cons, List.mem_cons, List.not_mem_nil, or_false,
      forall_eq_or_imp, forall_eq]
    refine ⟨⟨?_, ?_⟩, ?_, nofun, .nil⟩ <;>
      exact Member.commutesWith_of_set rfl rfl fun _ _ _ => rfl
  ignoreNull := by
    simp only [members, List.mem_cons, List.not_mem_nil, or_false, forall_eq_or_imp, forall_eq]
    refine ⟨?_, Member.ignoresNull_optional rfl, ?_⟩ <;> rintro room g ⟨⟩

/-- The members of a schema, a description that it does not have as null. -/
def memberTrees (s : EntitySchema) (fields : Tree) : List (List Glyph × Tree) :=
  [(glyphs "entity", .string (glyphs s.entity)),
   (glyphs "description", .ofText? s.description), (glyphs "fields", fields)]

/-- The tree is that of an object with the members of the schema, reworked, whose
fields are spelled in their order. -/
def Spells (s : EntitySchema) (t : Tree) : Prop :=
  ∃ fields ms, Spelled (.fields s.fields fields) ∧
    (Tree.object fields true).nesting < maxNesting ∧
    Reworked (members.map (·.name)) (s.memberTrees (.object fields true)) ms ∧
    t = .object ms true

/-- The text holds the schema: it is written for a tree that spells it, with its
fields in some order. -/
def HeldBy (s : EntitySchema) (text : String) : Prop :=
  ∃ s' t, s.Same s' ∧ s'.Spells t ∧ t.IsOf text

theorem decoder_memberTrees (h : Spelled (.fields s.fields fields))
    (hnesting : (Tree.object fields true).nesting < maxNesting) (hdistinct : s.Distinct) :
    decoder maxNesting (.object (s.memberTrees (.object fields true)) true) = .ok s := by
  have hroom : memberNesting fields ≤ 125 := by
    simp only [Tree.nesting, maxNesting] at hnesting
    omega
  have hmap := map_eq_ok (d := FieldType.decode) (h.decodes hdistinct 125 hroom)
    (distinctIn_iff.mp hdistinct).1
  simp [decoder, record, enter, maxNesting, memberTrees, fill, members, part, Member.optional,
    Member.required, string_glyphs, optional_string_ofText?, hmap, Except.map]

theorem Spells.parse_eq {t : Tree} {text : String} (h : s.Spells t) (hdistinct : s.Distinct)
    (htext : t.IsOf text) : parse text = .ok s := by
  obtain ⟨fields, ms, hfields, hnesting, hms, rfl⟩ := h
  exact Decoder.run_eq_ok_iff.mpr ⟨_, htext,
    record_reworked tolerant hms (decoder_memberTrees hfields hnesting hdistinct)⟩

/-- The serialization leaves out a description that is not given. -/
theorem exists_spells_writesAs (s : EntitySchema) (hnesting : s.toValue.nesting ≤ maxNesting) :
    ∃ t, s.Spells t ∧ s.toValue.WritesAs t := by
  obtain ⟨fields, hspelled, hwrites, hfields⟩ := exists_spelled_writesAs_fields s.fields
  have hroom : (Tree.object fields true).nesting < maxNesting := by
    simp only [toValue, Value.nesting, List.cons_append, valueMemberNesting,
      valueMemberNesting_append] at hnesting
    simp only [Tree.nesting, hfields]
    omega
  let entity := (glyphs "entity", Tree.string (glyphs s.entity))
  let description := Clause.givenTree "description" s.description
  let object := (glyphs "fields", Tree.object fields true)
  refine ⟨_, ⟨fields, entity :: description ++ [object], hspelled, hroom, ?_, rfl⟩,
    Value.writesAs_object (.cons ⟨rfl, Value.writesAs_string _⟩ (List.rel_append ?_ ?_))⟩
  · exact Clause.reworked_given _ [entity] [object] "description" s.description
  · cases hdescription : s.description with
    | none => simp [description, hdescription, Clause.givenTree]
    | some d =>
      simp only [description, hdescription, Clause.givenTree]
      exact .cons ⟨rfl, Value.writesAs_string d⟩ .nil
  · exact .cons ⟨rfl, Value.writesAs_object hwrites⟩ .nil

/-- **Schemas survive the wire.** A schema that nests within the levels of a text
is decoded from its own serialization as it is. From every text that its sender
may make of it, with members in any order and members of other names in the
schema and in every field, the same schema is decoded: it is valid if this one
is, and every path resolves alike. -/
theorem same_from_every_text (hdistinct : s.Distinct)
    (hnesting : s.toValue.nesting ≤ maxNesting) :
    parse s.toValue.toText = .ok s ∧ s.HeldBy s.toValue.toText ∧
    ∀ text, s.HeldBy text → ∃ s', parse text = .ok s' ∧ s.Same s' ∧
      (s'.structureError? = none ↔ s.structureError? = none) ∧
      (s'.structureError? = some .unnamedEntity ↔ s.structureError? = some .unnamedEntity) ∧
      ∀ path, s'.resolve path = s.resolve path := by
  obtain ⟨t, ht, hwrites⟩ := s.exists_spells_writesAs hnesting
  refine ⟨ht.parse_eq hdistinct hwrites.isOf, ⟨s, t, .refl, ht, hwrites.isOf⟩, ?_⟩
  rintro text ⟨s', t', hsame, ht', htext⟩
  exact ⟨s', ht'.parse_eq (hsame.distinct hdistinct) htext, hsame, hsame.valid_iff,
    hsame.unnamed_iff, hsame.resolve_eq hdistinct⟩

/-- A schema with an object field. -/
def jobSchema : EntitySchema :=
  ⟨"job", none, [("title", .text), ("at", .object [("since", .timestamp)])]⟩

/-- A text of that schema: the fields come first and in the other order, and the
object field has another member before its type. -/
def jobText : String :=
  "\x7b\"fields\":\x7b\"at\":\x7b\"fields\":\x7b\"since\":\x7b\"type\":\"timestamp\"\x7d\x7d," ++
    "\"nullable\":true,\"type\":\"object\"\x7d,\"title\":\x7b\"type\":\"string\"\x7d\x7d," ++
    "\"entity\":\"job\"\x7d"

/-- The tree of a field with nothing but its type. -/
def leafTree (type : String) : Tree := .object [(glyphs "type", .string (glyphs type))] true

/-- The fields of the text. -/
def jobFields : List (List Glyph × Tree) :=
  [(glyphs "at", .object [(glyphs "fields", .object [(glyphs "since", leafTree "timestamp")] true),
      (glyphs "nullable", .bool true), (glyphs "type", .string (glyphs "object"))] true),
   (glyphs "title", leafTree "string")]

theorem jobFields_spelled :
    Spelled (.fields [("at", .object [("since", .timestamp)]), ("title", .text)] jobFields) := by
  have hleaf {t : FieldType} (ht : ∀ fields, t ≠ .object fields) :
      Spelled (.type t (leafTree t.name)) :=
    .leaf ht .nil .rfl
  have hothers : Others ["type", "fields"] [(glyphs "nullable", .bool true)] := by
    simp only [Others, List.forall_mem_singleton]
    exact ⟨⟨_, rfl, by decide⟩, trivial⟩
  have hsince : Spelled (.fields [("since", .timestamp)] [(glyphs "since", leafTree "timestamp")]) :=
    .field (hleaf (t := .timestamp) nofun) .noFields
  have hat := Spelled.object hsince hothers (@List.perm_append_comm _ [_, _] [_])
  exact .field hat (.field (hleaf (t := .text) nofun) .noFields)

theorem jobText_isOf : Tree.IsOf
    (.object [(glyphs "fields", .object jobFields true), (glyphs "entity", .string (glyphs "job"))]
      true) jobText := by
  let leaf (type : String) : Value := .object [("type", .string type)]
  have hleaf (type : String) : (leaf type).WritesAs (leafTree type) :=
    Value.writesAs_object (.cons ⟨rfl, Value.writesAs_string type⟩ .nil)
  have htext : jobText = Value.toText (.object [("fields", .object
      [("at", .object [("fields", .object [("since", leaf "timestamp")]), ("nullable", .bool true),
        ("type", .string "object")]), ("title", leaf "string")]), ("entity", .string "job")]) := by
    decide +kernel
  rw [htext]
  refine (Value.writesAs_object (.cons ⟨rfl, Value.writesAs_object (.cons ⟨rfl, ?_⟩
    (.cons ⟨rfl, hleaf "string"⟩ .nil))⟩ (.cons ⟨rfl, Value.writesAs_string "job"⟩ .nil))).isOf
  exact Value.writesAs_object
    (.cons ⟨rfl, Value.writesAs_object (.cons ⟨rfl, hleaf "timestamp"⟩ .nil)⟩
      (.cons ⟨rfl, .bool true⟩ (.cons ⟨rfl, Value.writesAs_string "object"⟩ .nil)))

theorem jobSchema_heldBy : jobSchema.HeldBy jobText :=
  ⟨⟨"job", none, [("at", .object [("since", .timestamp)]), ("title", .text)]⟩, _,
    ⟨rfl, rfl, .perm (.swap _ _ _)⟩, ⟨jobFields, _, jobFields_spelled, by decide,
      .trans (.perm (@List.perm_append_comm _ [_] [_, _])) .leaveOut, rfl⟩, jobText_isOf⟩

/-- The theorem for that text. -/
theorem same_from_every_text_job :
    jobSchema.HeldBy jobText ∧ ∃ s, parse jobText = .ok s ∧ jobSchema.Same s ∧
      s.resolve ⟨["at", "since"]⟩ = .ok ⟨.timestamp, ⟨["at", "since"]⟩⟩ := by
  have hdistinct : jobSchema.Distinct := by
    simp [Distinct, jobSchema, DistinctIn, FieldType.Distinct]
  have hnesting : jobSchema.toValue.nesting ≤ maxNesting := by decide
  obtain ⟨-, -, htexts⟩ := same_from_every_text hdistinct hnesting
  obtain ⟨s, hparse, hsame, -, -, hresolve⟩ := htexts jobText jobSchema_heldBy
  exact ⟨jobSchema_heldBy, s, hparse, hsame, hresolve _⟩

/-- Arrays around an empty array. -/
def nestedArrays : Nat → Value
  | 0 => .array []
  | n + 1 => .array [nestedArrays n]

def nestedArrayTree : Nat → Tree
  | 0 => .array [] true
  | n + 1 => .array [nestedArrayTree n] true

theorem nestedArrays_writesAs : ∀ n, (nestedArrays n).WritesAs (nestedArrayTree n)
  | 0 => Value.writesAs_array .nil
  | n + 1 => Value.writesAs_array (.cons (nestedArrays_writesAs n) .nil)

/-- Two members that may not be added to a field. A number below the largest
double is refused, since its digits are rounded before they are scaled. Arrays
that nest too deep are refused, though there is no object in them. -/
theorem added_member_refused :
    let schema (others : List (String × Value)) : Value :=
      .object [("entity", .string "e"),
        ("fields", .object [("a", .object (("type", .string "string") :: others))])]
    parse (schema []).toText = .ok ⟨"e", none, [("a", .text)]⟩ ∧
      1797693134862315708 * Nat.pow 10 290 ≤ (Nat.pow 2 53 - 1) * Nat.pow 2 971 ∧
      (parse ("\x7b\"entity\":\"e\",\"fields\":\x7b\"a\":\x7b\"type\":\"string\"," ++
        "\"x\":1797693134862315708e290\x7d\x7d\x7d")).error? = some .malformed ∧
      (parse (schema [("x", nestedArrays 124)]).toText).error? = some .malformed := by
  intro schema
  refine ⟨?plain, by decide +kernel, by decide +kernel, ?arrays⟩
  case plain =>
    have hdistinct : Distinct ⟨"e", none, [("a", .text)]⟩ := by
      simp [Distinct, DistinctIn, FieldType.Distinct]
    obtain ⟨t, ht, hwrites⟩ := exists_spells_writesAs ⟨"e", none, [("a", .text)]⟩ (by decide)
    exact ht.parse_eq hdistinct hwrites.isOf
  case arrays =>
    have hwrites : (schema [("x", nestedArrays 124)]).WritesAs
        (.object [(glyphs "entity", .string (glyphs "e")), (glyphs "fields", .object [(glyphs "a",
          .object [(glyphs "type", .string (glyphs "string")),
            (glyphs "x", nestedArrayTree 124)] true)] true)] true) :=
      Value.writesAs_object (.cons ⟨rfl, Value.writesAs_string "e"⟩ (.cons ⟨rfl,
        Value.writesAs_object (.cons ⟨rfl, Value.writesAs_object
          (.cons ⟨rfl, Value.writesAs_string "string"⟩
            (.cons ⟨rfl, nestedArrays_writesAs 124⟩ .nil))⟩ .nil)⟩ .nil))
    rw [parse, Decoder.run_of_isOf hwrites.isOf]
    decide +kernel

end EntitySchema

end DocSieve
