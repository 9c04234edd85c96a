-- SUMMARY: Requests and clauses survive the wire: every text that holds one is decoded to it.
import DocSieve.Filter.Request
import DocSieve.Proofs.Json.Exactness
import DocSieve.Proofs.Json.Printing
import DocSieve.Proofs.Json.Record

/-!
# Requests on the wire
-/

namespace DocSieve

open Json Json.Decoder

open Text (Glyph glyphs)

/-! ## Clauses -/

namespace Operator

theorem ofName_name (op : Operator) : ofName op.name = .ok op := by
  cases op <;> rfl

theorem optional_decoder_ofText? (op : Option Operator) (room : Nat) :
    Decoder.optional Operator.decoder room (.ofText? (op.map name)) = .ok op := by
  cases op with
  | none => rfl
  | some op => simp [Tree.ofText?, Decoder.optional, decoder, ofGlyphs, ofName_name, Except.map]

end Operator

namespace Clause

theorem tolerant : Tolerant Clause.members Clause.empty where
  distinct := by decide
  commute := by
    simp only [members, List.pairwise_cons, List.mem_cons, List.not_mem_nil, or_false,
      forall_eq_or_imp, forall_eq]
    refine ⟨⟨?_, ?_, ?_⟩, ⟨?_, ?_⟩, ?_, nofun, .nil⟩ <;>
      exact Member.commutesWith_of_set rfl rfl fun _ _ _ => rfl
  ignoreNull := by
    simp only [members, List.mem_cons, List.not_mem_nil, or_false,
      forall_eq_or_imp, forall_eq]
    exact ⟨Member.ignoresNull_string, Member.ignoresNull_optional rfl,
      Member.ignoresNull_optional rfl, Member.ignoresNull_optional rfl⟩

/-- The members of a clause, those that it does not give as null. -/
def memberTrees (c : Clause) : List (List Glyph × Tree) :=
  [(glyphs "field", .string (glyphs c.field)),
   (glyphs "operator", .ofText? (c.operator.map Operator.name)),
   (glyphs "value", .ofText? c.value), (glyphs "otherValue", .ofText? c.otherValue)]

theorem decoder_memberTrees (c : Clause) (room : Nat) :
    Clause.decoder (room + 1) (.object c.memberTrees true) = .ok c := by
  simp [decoder, record, enter, memberTrees, fill, members, part, Member.optional, string_glyphs,
    optional_string_ofText?, Operator.optional_decoder_ofText?, Except.map]

/-- The tree is that of an object with the members of the clause, reworked. -/
def Spells (c : Clause) (t : Tree) : Prop :=
  ∃ ms, Reworked (members.map (·.name)) c.memberTrees ms ∧ t = .object ms true

/-- The text holds the clause: it is written for a tree that spells it. -/
def HeldBy (c : Clause) (text : String) : Prop := ∃ t, c.Spells t ∧ t.IsOf text

theorem Spells.decoder_eq {c : Clause} {t : Tree} (h : c.Spells t) (room : Nat) :
    Clause.decoder (room + 1) t = .ok c := by
  obtain ⟨ms, hms, rfl⟩ := h
  exact record_reworked tolerant hms (c.decoder_memberTrees room)

theorem HeldBy.parse_eq {c : Clause} {text : String} (h : c.HeldBy text) :
    Clause.parse text = .ok c := by
  obtain ⟨t, ht, htext⟩ := h
  exact Decoder.run_eq_ok_iff.mpr ⟨t, htext, ht.decoder_eq 126⟩

/-- A member that the serialization has only if there is a text for it. -/
def givenTree (name : String) : Option String → List (List Glyph × Tree)
  | some s => [(glyphs name, .string (glyphs s))]
  | none => []

theorem given_writesAs {α : Type} {f : α → Value} {g : α → String}
    (h : ∀ a, f a = .string (g a)) (name : String) (o : Option α) :
    List.Forall₂ Value.MemberWritesAs (given name f o) (givenTree name (o.map g)) := by
  cases o with
  | none => exact .nil
  | some a => exact .cons ⟨rfl, h a ▸ Value.writesAs_string _⟩ .nil

theorem reworked_given (known : List String) (before after : List (List Glyph × Tree))
    (name : String) (o : Option String) :
    Reworked known (before ++ (glyphs name, .ofText? o) :: after)
      (before ++ (givenTree name o ++ after)) := by
  cases o with
  | none => exact .trans (.perm List.perm_middle) .leaveOut
  | some s => exact .perm .rfl

/-- The serialization leaves out what is not given. -/
theorem exists_spells_writesAs (c : Clause) : ∃ t, c.Spells t ∧ c.toValue.WritesAs t := by
  let field := (glyphs "field", Tree.string (glyphs c.field))
  let operator := givenTree "operator" (c.operator.map Operator.name)
  let value := givenTree "value" c.value
  let otherValue := givenTree "otherValue" c.otherValue
  refine ⟨_, ⟨field :: operator ++ value ++ otherValue, ?_, rfl⟩, Value.writesAs_object ?_⟩
  · have h₁ := reworked_given (members.map (·.name)) [field]
      [(glyphs "value", .ofText? c.value), (glyphs "otherValue", .ofText? c.otherValue)]
      "operator" (c.operator.map Operator.name)
    have h₂ := reworked_given (members.map (·.name)) (field :: operator)
      [(glyphs "otherValue", .ofText? c.otherValue)] "value" c.value
    have h₃ := reworked_given (members.map (·.name)) (field :: operator ++ value) []
      "otherValue" c.otherValue
    rw [List.append_nil] at h₃
    refine .trans h₁ (.trans ?_ h₃)
    rw [List.append_assoc]
    exact h₂
  · refine List.rel_append (List.rel_append (.cons ⟨rfl, Value.writesAs_string _⟩ ?_) ?_) ?_
    · exact given_writesAs (fun _ => rfl) "operator" c.operator
    · simpa using given_writesAs (g := id) (fun _ => rfl) "value" c.value
    · simpa using given_writesAs (g := id) (fun _ => rfl) "otherValue" c.otherValue

end Clause

/-! ## Requests -/

namespace Request

theorem tolerant : Tolerant Request.members Request.empty where
  distinct := by decide
  commute := by
    simp only [members, List.pairwise_cons, List.mem_cons, List.not_mem_nil, or_false,
      forall_eq_or_imp, forall_eq]
    refine ⟨⟨?_, ?_⟩, ?_, nofun, .nil⟩ <;>
      exact Member.commutesWith_of_set rfl rfl fun _ _ _ => rfl
  ignoreNull := by
    simp only [members, List.mem_cons, List.not_mem_nil, or_false, forall_eq_or_imp, forall_eq]
    exact ⟨Member.ignoresNull_optional rfl, Member.ignoresNull_optional rfl,
      Member.ignoresNull_optional rfl⟩

/-- The tree spells the clauses, if there are any, one by one. -/
inductive SpellsFilters : Option (List Clause) → Tree → Prop where
  | missing : SpellsFilters none .null
  | given {cs : List Clause} {ts : List Tree} : List.Forall₂ Clause.Spells cs ts →
      SpellsFilters (some cs) (.array ts true)

/-- The members of a request, those that it does not give as null. -/
def memberTrees (r : Request) (filters : Tree) : List (List Glyph × Tree) :=
  [(glyphs "filters", filters), (glyphs "orderBy", .ofText? r.orderBy),
   (glyphs "orderDirection", .ofText? r.orderDirection)]

/-- The tree is that of an object with the members of the request, reworked, and
so are the objects in it that spell the clauses. -/
def Spells (r : Request) (t : Tree) : Prop :=
  ∃ filters ms, SpellsFilters r.filters filters ∧
    Reworked (members.map (·.name)) (r.memberTrees filters) ms ∧ t = .object ms true

/-- The text holds the request: it is written for a tree that spells it. -/
def HeldBy (r : Request) (text : String) : Prop := ∃ t, r.Spells t ∧ t.IsOf text

theorem SpellsFilters.decoder_eq {filters : Option (List Clause)} {t : Tree}
    (h : SpellsFilters filters t) (room : Nat) :
    Decoder.optional (Decoder.sequence Clause.decoder) (room + 2) t = .ok filters := by
  cases h with
  | missing => rfl
  | given h =>
    have hitems := items_eq_ok (h.imp fun _ _ hc => hc.decoder_eq room) 0
    simp [Decoder.optional, Decoder.sequence, enter, hitems, Except.map]

theorem decoder_memberTrees {r : Request} {filters : Tree} (h : SpellsFilters r.filters filters)
    (room : Nat) : Request.decoder (room + 3) (.object (r.memberTrees filters) true) = .ok r := by
  simp [decoder, record, enter, memberTrees, fill, members, part, Member.optional,
    h.decoder_eq, optional_string_ofText?, Except.map]

theorem HeldBy.parse_eq {r : Request} {text : String} (h : r.HeldBy text) :
    Request.parse text = .ok r := by
  obtain ⟨_, ⟨filters, ms, hfilters, hms, rfl⟩, htext⟩ := h
  exact Decoder.run_eq_ok_iff.mpr
    ⟨_, htext, record_reworked tolerant hms (decoder_memberTrees hfilters 124)⟩

theorem exists_spellsFilters_writesAs (filters : Option (List Clause)) :
    ∃ t, SpellsFilters filters t ∧
      Value.WritesAs ((filters.map fun cs => .array (cs.map Clause.toValue)).getD .null) t := by
  cases filters with
  | none => exact ⟨.null, .missing, Value.writesAs_null⟩
  | some cs =>
    have hclauses : ∃ ts, List.Forall₂ Clause.Spells cs ts ∧
        List.Forall₂ Value.WritesAs (cs.map Clause.toValue) ts := by
      induction cs with
      | nil => exact ⟨[], .nil, .nil⟩
      | cons c cs ih =>
        obtain ⟨ts, hspells, hwrites⟩ := ih
        obtain ⟨t, ht, hwrite⟩ := c.exists_spells_writesAs
        exact ⟨t :: ts, .cons ht hspells, .cons hwrite hwrites⟩
    obtain ⟨ts, hspells, hwrites⟩ := hclauses
    exact ⟨.array ts true, .given hspells, Value.writesAs_array hwrites⟩

theorem exists_spells_writesAs (r : Request) : ∃ t, r.Spells t ∧ r.toValue.WritesAs t := by
  obtain ⟨filters, hspells, hwrites⟩ := exists_spellsFilters_writesAs r.filters
  refine ⟨_, ⟨filters, _, hspells, .perm .rfl, rfl⟩, Value.writesAs_object ?_⟩
  exact .cons ⟨rfl, hwrites⟩ (.cons ⟨rfl, Value.writesAs_ofText? _⟩
    (.cons ⟨rfl, Value.writesAs_ofText? _⟩ .nil))

/-- **Requests and clauses survive the wire.** Each is decoded from its own
serialization, and from every text that its sender may make of it: with other
blanks and escapes, and in each object with the members in another order,
members of other names added, and nulls left out. -/
theorem wire_round_trip :
    (∀ r : Request, Request.parse r.toValue.toText = .ok r ∧ r.HeldBy r.toValue.toText ∧
      ∀ text, r.HeldBy text → Request.parse text = .ok r) ∧
    ∀ c : Clause, Clause.parse c.toValue.toText = .ok c ∧ c.HeldBy c.toValue.toText ∧
      ∀ text, c.HeldBy text → Clause.parse text = .ok c := by
  refine ⟨fun r => ?_, fun c => ?_⟩
  · obtain ⟨t, ht, hwrites⟩ := r.exists_spells_writesAs
    have hheld : r.HeldBy r.toValue.toText := ⟨t, ht, hwrites.isOf⟩
    exact ⟨hheld.parse_eq, hheld, fun _ h => h.parse_eq⟩
  · obtain ⟨t, ht, hwrites⟩ := c.exists_spells_writesAs
    have hheld : c.HeldBy c.toValue.toText := ⟨t, ht, hwrites.isOf⟩
    exact ⟨hheld.parse_eq, hheld, fun _ h => h.parse_eq⟩

/-- A request with one clause. -/
def nameStartsWithA : Request := ⟨some [.of "name" .startsWith "A"], none, none⟩

/-- A text of that request: another member comes first, the nulls are missing,
and the clause has its value in front and one letter of it escaped. -/
def reworkedText : String :=
  "\x7b\"page\":[1], \"filters\":[\x7b\"value\":\"\\u0041\",\"field\":\"name\"," ++
    "\"operator\":\"STARTS_WITH\"\x7d]\x7d"

/-- The value of the other member. -/
def pageTree : Tree := .array [.number ⟨false, [1], [], none⟩] true

/-- The clause of the text. -/
def clauseTree : Tree :=
  .object [(glyphs "value", .string (glyphs "A")), (glyphs "field", .string (glyphs "name")),
    (glyphs "operator", .string (glyphs "STARTS_WITH"))] true

theorem pageTree_written : Written (.value pageTree) ['[', '1', ']'] := by
  have hdigits : Digits [1] ['1'] := ⟨by decide, by decide⟩
  have hnumber : NumeralText ⟨false, [1], [], none⟩ ['1'] :=
    .of hdigits (by decide) .missing .missing
  exact .array (.lastItem (a := []) (b := []) blanks_nil (.number hnumber) blanks_nil)

theorem nameStartsWithA_spells : nameStartsWithA.Spells
    (.object [(glyphs "page", pageTree), (glyphs "filters", .array [clauseTree] true)] true) := by
  have hclause : Clause.Spells (.of "name" .startsWith "A") clauseTree :=
    ⟨_, .trans (.perm (@List.perm_append_comm _ [_, _] [_, _]))
      (.trans (.perm (.swap _ _ _)) .leaveOut), rfl⟩
  refine ⟨_, _, .given (.cons hclause .nil), ?_, rfl⟩
  exact .trans (.perm (@List.perm_append_comm _ [_] [_, _]))
    (.trans .leaveOut (.trans .leaveOut (.insert (by decide) pageTree_written)))

theorem reworkedText_isOf : Tree.IsOf
    (.object [(glyphs "page", pageTree), (glyphs "filters", .array [clauseTree] true)] true)
    reworkedText := by
  have hhex : FourHex 0x41 ['0', '0', '4', '1'] :=
    @FourHex.of '0' '0' '4' '1' 0 0 4 1 (by decide) (by decide) (by decide) (by decide)
  have hletter : StringText (glyphs "A") ['"', '\\', 'u', '0', '0', '4', '1', '"'] :=
    .of (.unicode hhex (by decide) (by decide) .nil)
  have hnil := blanks_nil
  have hspace : Blanks [' '] := by simp [Blanks, isSpace]
  have hclause : Written (.value clauseTree) _ :=
    .object (.member hnil (stringText_writeString "value") hnil hnil (.string hletter) hnil
      (.member hnil (stringText_writeString "field") hnil hnil (Value.writesAs_string "name") hnil
        (.lastMember hnil (stringText_writeString "operator") hnil hnil
          (Value.writesAs_string "STARTS_WITH") hnil)))
  refine ⟨[], _, [], hnil, .object (.member hnil (stringText_writeString "page") hnil hnil
    pageTree_written hnil (.lastMember hspace (stringText_writeString "filters") hnil hnil
      (.array (.lastItem hnil hclause hnil)) hnil)), hnil, ?_⟩
  decide +kernel

theorem nameStartsWithA_heldBy : nameStartsWithA.HeldBy reworkedText :=
  ⟨_, nameStartsWithA_spells, reworkedText_isOf⟩

/-- The theorem for that text. -/
theorem wire_round_trip_reworked :
    nameStartsWithA.HeldBy reworkedText ∧ Request.parse reworkedText = .ok nameStartsWithA :=
  ⟨nameStartsWithA_heldBy, (wire_round_trip.1 nameStartsWithA).2.2 _ nameStartsWithA_heldBy⟩

end Request

end DocSieve
