-- SUMMARY: Compiled queries with the same serialized form are the same query.
import DocSieve.Proofs.Filter.Compile
import DocSieve.Proofs.Json.Same
import DocSieve.Proofs.Time.Printed
import DocSieve.Proofs.Time.Stamp

/-!
# Serialized queries

A serialized query is a tagged object for each condition and one for the
ordering. Tags, names of tests and directions are told apart by their texts, and
paths and instants by theirs, as far as compiling makes them: the names of a
compiled path have no dots in them, and a compiled instant lies in no leap
second. So the serialized form determines the query.
-/

namespace DocSieve

open Json

variable {α : Type}

/-- Items that go together in no other way than as equals make equal lists. -/
theorem eq_of_forall₂ {R : α → α → Prop} {as bs : List α} (h : List.Forall₂ R as bs)
    (heq : ∀ a ∈ as, ∀ b ∈ bs, R a b → a = b) : as = bs := by
  induction h with
  | nil => rfl
  | cons hab _ ih =>
    rw [heq _ List.mem_cons_self _ List.mem_cons_self hab,
      ih fun a ha b hb => heq a (List.mem_cons_of_mem _ ha) b (List.mem_cons_of_mem _ hb)]

/-! ## Names -/

theorem TextTest.name_inj {t t' : TextTest} (h : t.name = t'.name) : t = t' := by
  cases t <;> cases t' <;> first | rfl | exact absurd h (by decide)

theorem Direction.name_inj {d d' : Direction} (h : d.name = d'.name) : d = d' := by
  cases d <;> cases d' <;> first | rfl | exact absurd h (by decide)

theorem SortKey.name_inj {k k' : SortKey} (h : k.name = k'.name) : k = k' := by
  cases k <;> cases k' <;> first | rfl | exact absurd h (by decide)

/-- A path is determined by its text, as long as its names have no dots. -/
theorem FieldPath.eq_of_toText {p p' : FieldPath} {s s' : String} (hp : Dotted s p.segments)
    (hp' : Dotted s' p'.segments) (h : p.toText = p'.toText) : p = p' := by
  have hs : s = s' := by rw [← hp.joined, ← hp'.joined]; exact h
  exact FieldPath.mk.injEq .. ▸ hp.unique (hs ▸ hp')

/-! ## Comparisons -/

namespace Comparison

variable {c c' : Comparison α} {f : α → Value}

/-- The bounds of a comparison. -/
def bounds : Comparison α → List α
  | .eq bound | .ne bound | .gt bound | .lt bound => [bound]
  | .between low high => [low, high]

/-- The name that a comparison is serialized under. -/
def tag : Comparison α → String
  | .eq _ => "eq"
  | .ne _ => "ne"
  | .gt _ => "gt"
  | .lt _ => "lt"
  | .between _ _ => "between"

/-- What a comparison is serialized as under its name. -/
def payload (f : α → Value) : Comparison α → Value
  | .eq bound | .ne bound | .gt bound | .lt bound => f bound
  | .between low high => .array [f low, f high]

theorem toValue_eq (f : α → Value) (c : Comparison α) :
    c.toValue f = .object [(c.tag, c.payload f)] := by
  cases c <;> rfl

theorem eq_of_tag (htag : c.tag = c'.tag) (hbounds : c.bounds = c'.bounds) : c = c' := by
  cases c <;> cases c' <;> simp_all [tag, bounds]

theorem same_bounds (htag : c.tag = c'.tag) (h : (c.payload f).Same (c'.payload f)) :
    List.Forall₂ (fun a b => (f a).Same (f b)) c.bounds c'.bounds := by
  cases c <;> cases c' <;> simp_all [tag, payload, bounds, Value.Same.array_iff]

theorem eq_of_same (hf : ∀ a ∈ c.bounds, ∀ b ∈ c'.bounds, (f a).Same (f b) → a = b)
    (h : (c.toValue f).Same (c'.toValue f)) : c = c' := by
  rw [toValue_eq, toValue_eq] at h
  obtain ⟨htag, hpayload⟩ := h.single
  exact eq_of_tag htag (eq_of_forall₂ (same_bounds htag hpayload) hf)

end Comparison

/-! ## Conditions -/

namespace Condition

variable {k k' : Condition}

/-- The instants that a condition compares with. -/
def instants : Condition → List Instant
  | .timestamp _ comparison => comparison.bounds
  | .text .. | .integer .. => []

/-- What compiling makes sure of: the names of the field are those of a dotted
text, and the instants lie in no leap second. -/
structure IsRegular (k : Condition) : Prop where
  dotted : ∃ s, Dotted s k.field.segments
  noLeap : ∀ i ∈ k.instants, i.isLeap = false

/-- The name of a kind of condition. -/
def kind : Condition → String
  | .text .. => "text"
  | .timestamp .. => "timestamp"
  | .integer .. => "integer"

theorem toValue_eq (k : Condition) :
    ∃ members, k.toValue =
      .object (("type", .string k.kind) :: ("field", .string k.field.toText) :: members) := by
  cases k <;> exact ⟨_, rfl⟩

/-- The kind and the field of a condition stand in its serialized form. -/
theorem kind_and_field_eq (hk : k.IsRegular) (hk' : k'.IsRegular) (h : k.toValue.Same k'.toValue) :
    k.kind = k'.kind ∧ k.field = k'.field := by
  obtain ⟨members, hm⟩ := k.toValue_eq
  obtain ⟨members', hm'⟩ := k'.toValue_eq
  rw [hm, hm'] at h
  have hkind := Value.Same.string_iff.mp (h.member "type" rfl rfl)
  have hfield := Value.Same.string_iff.mp (h.member "field" rfl rfl)
  obtain ⟨s, hs⟩ := hk.dotted
  obtain ⟨s', hs'⟩ := hk'.dotted
  exact ⟨hkind, FieldPath.eq_of_toText hs hs' hfield⟩

theorem eq_of_same (hk : k.IsRegular) (hk' : k'.IsRegular) (h : k.toValue.Same k'.toValue) :
    k = k' := by
  obtain ⟨hkind, hfield⟩ := kind_and_field_eq hk hk' h
  cases k with
  | text field test operand =>
    cases k' with
    | text field' test' operand' =>
      have hop := Value.Same.string_iff.mp (h.member "op" rfl rfl)
      have hvalue := Value.Same.string_iff.mp (h.member "value" rfl rfl)
      exact text.injEq .. ▸ ⟨hfield, TextTest.name_inj hop, hvalue⟩
    | timestamp | integer => simp [kind] at hkind
  | timestamp field comparison =>
    cases k' with
    | timestamp field' comparison' =>
      have hcmp := h.member "cmp" rfl rfl
      have hcomparison : comparison = comparison' := Comparison.eq_of_same (fun i hi j hj hsame =>
        Instant.toText_inj (hk.noLeap i hi) (hk'.noLeap j hj) (Value.Same.string_iff.mp hsame)) hcmp
      exact timestamp.injEq .. ▸ ⟨hfield, hcomparison⟩
    | text | integer => simp [kind] at hkind
  | integer field comparison =>
    cases k' with
    | integer field' comparison' =>
      have hcmp := h.member "cmp" rfl rfl
      have hcomparison : comparison = comparison' :=
        Comparison.eq_of_same (fun m _ n _ hsame => Value.Same.int_iff.mp hsame) hcmp
      exact integer.injEq .. ▸ ⟨hfield, hcomparison⟩
    | text | timestamp => simp [kind] at hkind

end Condition

/-! ## What compiling makes -/

theorem Operator.mem_bounds_of_comparison {op : Operator} {type : SemanticType} {path : FieldPath}
    {read : String → Except FilterError α} {value : String} {other : Option String}
    {c : Comparison α} (h : op.comparison type path read value other = .ok c) :
    ∀ bound ∈ c.bounds, ∃ operand, read operand = .ok bound := by
  cases op with
  | equals | notEquals | greaterThan | lessThan =>
    obtain ⟨bound, hread, rfl⟩ := Except.map_eq_ok_iff.mp h
    simp only [Comparison.bounds, List.forall_mem_singleton]
    exact ⟨value, hread⟩
  | between =>
    simp only [comparison] at h
    split at h
    · cases h
    · rename_i other _
      obtain ⟨low, hlow, h⟩ := Except.bind_eq_ok_iff.mp h
      obtain ⟨high, hhigh, h⟩ := Except.bind_eq_ok_iff.mp h
      cases h
      simp only [Comparison.bounds, List.forall_mem_cons]
      exact ⟨⟨value, hlow⟩, ⟨other, hhigh⟩, List.forall_mem_nil _⟩
  | contains | startsWith | endsWith => cases h

/-- The instants of a condition are read from operands, which are in no leap second. -/
theorem ResolvedField.noLeap_of_condition {f : ResolvedField} {op : Operator} {value : String}
    {other : Option String} {k : Condition} (h : f.condition op value other = .ok k) :
    ∀ i ∈ k.instants, i.isLeap = false := by
  unfold condition at h
  split at h
  · split at h
    · cases h
      exact List.forall_mem_nil _
    · cases h
  · obtain ⟨comparison, hcomparison, rfl⟩ := Except.map_eq_ok_iff.mp h
    intro i hi
    obtain ⟨operand, hread⟩ := Operator.mem_bounds_of_comparison hcomparison i hi
    exact Stamp.isLeap_of_operand (Except.mapError_eq_ok_iff.mp hread)
  · obtain ⟨comparison, -, rfl⟩ := Except.map_eq_ok_iff.mp h
    exact List.forall_mem_nil _
  · cases h

theorem Clause.isRegular_of_compile {r : Registry} {entity : String} {c : Clause} {k : Condition}
    (h : c.compile r entity = .ok k) : k.IsRegular := by
  refine ⟨⟨c.field, compile_names h⟩, ?_⟩
  rcases c.compile_cases r entity with
    ⟨op, value, names, t, -, -, -, -, -, -, -, hc⟩ | ⟨-, e, he, -⟩
  · exact ResolvedField.noLeap_of_condition (hc.symm.trans h)
  · cases he.symm.trans h

/-! ## Queries -/

theorem OrderBy.eq_of_same {o o' : OrderBy} (h : o.toValue.Same o'.toValue) : o = o' := by
  have hfield := Value.Same.string_iff.mp (h.member "field" rfl rfl)
  have hdirection := Value.Same.string_iff.mp (h.member "direction" rfl rfl)
  have hkey := Value.Same.string_iff.mp (h.member "key" rfl rfl)
  exact OrderBy.mk.injEq .. ▸ ⟨hfield, Direction.name_inj hdirection, SortKey.name_inj hkey⟩

theorem OrderBy.eq_of_rel {o o' : Option OrderBy}
    (h : Option.Rel Value.Same (o.map toValue) (o'.map toValue)) : o = o' := by
  cases o with
  | none =>
    cases o' with
    | none => rfl
    | some o' => cases h
  | some o =>
    cases o' with
    | none => cases h
    | some o' => exact congrArg some (eq_of_same (Option.rel_some_some.mp h))

namespace Query

variable {p p' : Query}

/-- The query is what some request compiles to, with a denylist or without. -/
def IsCompiled (p : Query) : Prop :=
  ∃ (r : Registry) (entity : String) (q : Request),
    r.compile entity q = .ok p ∨ ∃ d, r.compileAllowed d entity q = .ok p

theorem IsCompiled.isRegular (h : p.IsCompiled) : ∀ k ∈ p.conditions, k.IsRegular := by
  have hcompile : ∃ (r : Registry) (entity : String) (q : Request), r.compile entity q = .ok p := by
    obtain ⟨r, entity, q, h | ⟨d, h⟩⟩ := h
    · exact ⟨r, entity, q, h⟩
    · exact ⟨r, entity, d.stripRequest q, h⟩
  obtain ⟨r, entity, q, h⟩ := hcompile
  obtain ⟨hconditions, -⟩ := Registry.compile_ok_iff.mp h
  intro k hk
  obtain ⟨c, -, hc⟩ := Clause.exists_compile_of_mem hconditions hk
  exact Clause.isRegular_of_compile hc

theorem lookup_order (value : Value) (o : Option OrderBy) :
    (("predicate", value) :: Clause.given "order" OrderBy.toValue o).lookup "order" =
      o.map OrderBy.toValue := by
  cases o <;> rfl

/-- **A serialized query loses nothing.** Two queries that requests compile to,
under any schemas and denylists, are serialized to the same JSON value only if
they are the same query, with the same conditions in the same order and the same
ordering. Then they match the same documents. -/
theorem serialization_loses_nothing (hp : p.IsCompiled) (hp' : p'.IsCompiled) :
    (p.toValue.Same p'.toValue ↔ p = p') ∧
    (p.toValue.Same p'.toValue → ∀ document, p.admits document = p'.admits document) := by
  have heq (h : p.toValue.Same p'.toValue) : p = p' := by
    have hpredicate := Value.Same.array_iff.mp (h.member "predicate" rfl rfl)
    rw [List.forall₂_map_left_iff, List.forall₂_map_right_iff] at hpredicate
    have hconditions : p.conditions = p'.conditions :=
      eq_of_forall₂ hpredicate fun k hk k' hk' =>
        Condition.eq_of_same (hp.isRegular k hk) (hp'.isRegular k' hk')
    have horder := h.lookup "order"
    rw [lookup_order, lookup_order] at horder
    exact Query.mk.injEq .. ▸ ⟨hconditions, OrderBy.eq_of_rel horder⟩
  refine ⟨⟨heq, ?_⟩, fun h document => by rw [heq h]⟩
  rintro rfl
  exact .refl _

/-- An hour before the year 0, given on two clocks, and a microsecond later. -/
theorem serialization_loses_nothing_before_year_zero :
    let r : Registry := ⟨[⟨"logins", none, [("at", .timestamp)]⟩]⟩
    let r' : Registry := ⟨[⟨"visits", none, [("by", .text), ("at", .timestamp)]⟩]⟩
    let before (operand : String) : Request := ⟨some [.of "at" .lessThan operand], none, none⟩
    ∃ p p' later, r.compile "logins" (before "0000-01-01T00:00:00.000000+01:00") = .ok p ∧
      r'.compile "visits" (before "0000-01-01T01:30:00.000000+02:30") = .ok p' ∧
      r'.compile "visits" (before "0000-01-01T01:30:00.000001+02:30") = .ok later ∧
      p.toValue.Same p'.toValue ∧ p = p' ∧ ¬ p.toValue.Same later.toValue := by
  intro r r' before
  let query (i : Instant) : Query := ⟨[.timestamp ⟨["at"]⟩ (.lt i)], none⟩
  have hp : r.compile "logins" (before "0000-01-01T00:00:00.000000+01:00") =
      .ok (query ⟨-62167222800, 0⟩) := Except.toOption_eq_some_iff.mp (by decide +kernel)
  have hp' : r'.compile "visits" (before "0000-01-01T01:30:00.000000+02:30") =
      .ok (query ⟨-62167222800, 0⟩) := Except.toOption_eq_some_iff.mp (by decide +kernel)
  have hlater : r'.compile "visits" (before "0000-01-01T01:30:00.000001+02:30") =
      .ok (query ⟨-62167222800, 1000⟩) := Except.toOption_eq_some_iff.mp (by decide +kernel)
  obtain ⟨hequal, -⟩ := serialization_loses_nothing ⟨r, _, _, .inl hp⟩ ⟨r', _, _, .inl hp'⟩
  obtain ⟨hdiffer, -⟩ := serialization_loses_nothing ⟨r, _, _, .inl hp⟩ ⟨r', _, _, .inl hlater⟩
  have hsame := Value.Same.refl (query ⟨-62167222800, 0⟩).toValue
  refine ⟨_, _, _, hp, hp', hlater, hsame, hequal.mp hsame, ?_⟩
  rw [hdiffer]
  decide

end Query

end DocSieve
