-- SUMMARY: Well-typed clauses, as a table of operators and operands for each type, and compiling as checking them.
import DocSieve.Proofs.Except
import DocSieve.Proofs.Schema.Declaration

/-!
# Well-typed clauses

The rules a clause has to follow are stated here without an order: a complete
clause, a declared field, an operator of its type, and operands of its type.
Compiling accepts exactly the clauses that follow them. What the order of the
checks does decide is the error, and `Clause.Checked` holds all of them that
come before an operand is read.
-/

namespace DocSieve

/-! ## The rules -/

/-- The operators of a type. A type without operators is not filtered. -/
def FieldType.operators : FieldType → List Operator
  | .text => [.equals, .contains, .startsWith, .endsWith, .notEquals]
  | .timestamp | .integerId => [.equals, .greaterThan, .lessThan, .between, .notEquals]
  | .bool | .float | .object _ => []

/-- Whether a text is an operand for fields of a type. -/
def FieldType.Reads (t : FieldType) (operand : String) : Prop :=
  match t with
  | .integerId => ∃ n, Text.int64 operand = .ok n
  | .timestamp => ∃ i, Stamp.operand operand = .ok i
  | _ => True

/-- The texts that an operator takes as its operands. -/
def Operator.operands (op : Operator) (value : String) (other : Option String) : List String :=
  value :: if op = .between then other.toList else []

/-- `BETWEEN` has a second operand that is not empty. -/
def Operator.HasOther (op : Operator) (other : Option String) : Prop :=
  op = .between → ∃ w, other = some w ∧ w ≠ ""

/-- The clause passes every check that does not read an operand. -/
structure Clause.Checked (r : Registry) (entity : String) (c : Clause) (op : Operator)
    (value : String) (t : FieldType) : Prop where
  field_ne : c.field ≠ ""
  operator_eq : c.operator = some op
  value_eq : c.value = some value
  value_ne : value ≠ ""
  declared : ∃ names, Dotted c.field names ∧ (∀ n ∈ names, Text.isBlank n = false) ∧
    r.Declares entity names t
  supported : op ∈ t.operators
  other : op.HasOther c.otherValue

/-- The clause passes every check. -/
def Clause.WellTyped (r : Registry) (entity : String) (c : Clause) : Prop :=
  ∃ op value t, c.Checked r entity op value t ∧
    ∀ operand ∈ op.operands value c.otherValue, t.Reads operand

/-- The clause fails in nothing but an operand that should be an instant. -/
def Clause.MisreadsInstant (r : Registry) (entity : String) (c : Clause) : Prop :=
  ∃ op value, c.Checked r entity op value .timestamp ∧
    ∃ operand ∈ op.operands value c.otherValue, ¬ FieldType.timestamp.Reads operand

/-! ## Comparisons -/

/-- The operators that compare by order. -/
def Operator.ordered : List Operator := FieldType.timestamp.operators

/-- A comparison is refused for its operator, then for a second operand that
is not there, then for an operand that cannot be read. -/
theorem Operator.comparison_cases {α : Type} (op : Operator) (type : SemanticType)
    (path : FieldPath) (read : String → Except FilterError α) (value : String)
    (other : Option String) :
    (op ∉ Operator.ordered ∧
      op.comparison type path read value other = .error (.unsupportedOperator op type path)) ∨
    (¬ op.HasOther other ∧
      op.comparison type path read value other = .error (.missingOther path)) ∨
    (op ∈ Operator.ordered ∧ op.HasOther other ∧
      (∀ operand ∈ op.operands value other, ∃ a, read operand = .ok a) ∧
      ∃ cmp, op.comparison type path read value other = .ok cmp) ∨
    (op ∈ Operator.ordered ∧ op.HasOther other ∧
      ∃ operand ∈ op.operands value other, ∃ e, read operand = .error e ∧
        op.comparison type path read value other = .error e) := by
  cases op
  case contains | startsWith | endsWith => exact .inl ⟨by decide, rfl⟩
  case equals | notEquals | greaterThan | lessThan =>
    have hother (o : Operator) (h : o ≠ .between) : o.HasOther other := fun h' => absurd h' h
    cases hv : read value with
    | ok a =>
      refine .inr (.inr (.inl ⟨by decide, hother _ (by decide), ?_, ?_⟩))
      · simp [Operator.operands, hv]
      · simp [Operator.comparison, hv]
    | error e =>
      refine .inr (.inr (.inr ⟨by decide, hother _ (by decide), value, ?_, e, hv, ?_⟩))
      · simp [Operator.operands]
      · simp [Operator.comparison, hv]
  case between =>
    cases hw : other.filter (· ≠ "") with
    | none =>
      refine .inr (.inl ⟨?_, by simp only [Operator.comparison, hw]⟩)
      intro h
      obtain ⟨w, rfl, hne⟩ := h rfl
      simp [hne] at hw
    | some w =>
      obtain ⟨rfl, hne⟩ := Option.filter_eq_some_iff.mp hw
      have hother : Operator.between.HasOther (some w) := fun _ => ⟨w, rfl, by simpa using hne⟩
      cases hv : read value with
      | error e =>
        refine .inr (.inr (.inr ⟨by decide, hother, value, ?_, e, hv, ?_⟩))
        · simp [Operator.operands]
        · simp only [Operator.comparison, hw, hv, Except.bind_error]
      | ok a =>
        cases hx : read w with
        | error e =>
          refine .inr (.inr (.inr ⟨by decide, hother, w, ?_, e, hx, ?_⟩))
          · simp [Operator.operands]
          · simp only [Operator.comparison, hw, hv, hx, Except.bind_ok, Except.bind_error]
        | ok b =>
          refine .inr (.inr (.inl ⟨by decide, hother, ?_, .between a b, ?_⟩))
          · simp [Operator.operands, hv, hx]
          · simp only [Operator.comparison, hw, hv, hx, Except.bind_ok, Except.pure_eq_ok]

theorem Operator.comparison_ok_iff {α : Type} {op : Operator} {type : SemanticType}
    {path : FieldPath} {read : String → Except FilterError α} {value : String}
    {other : Option String} :
    (∃ cmp, op.comparison type path read value other = .ok cmp) ↔
      op ∈ Operator.ordered ∧ op.HasOther other ∧
        ∀ operand ∈ op.operands value other, ∃ a, read operand = .ok a := by
  rcases op.comparison_cases type path read value other with
    ⟨h, hr⟩ | ⟨h, hr⟩ | ⟨hop, hother, hread, hr⟩ | ⟨hop, hother, w, hw, e, he, hr⟩
  · simp [hr, h]
  · simp [hr, h]
  · exact ⟨fun _ => ⟨hop, hother, hread⟩, fun _ => hr⟩
  · simp only [hr, reduceCtorEq, exists_false, false_iff]
    rintro ⟨-, -, hread⟩
    obtain ⟨a, ha⟩ := hread w hw
    cases he.symm.trans ha

theorem Operator.comparison_error {α : Type} {op : Operator} {type : SemanticType}
    {path : FieldPath} {read : String → Except FilterError α} {value : String}
    {other : Option String} {e : FilterError}
    (h : op.comparison type path read value other = .error e) :
    (¬ (op ∈ Operator.ordered ∧ op.HasOther other) ∧ e.kind = .filter) ∨
    (op ∈ Operator.ordered ∧ op.HasOther other ∧
      ∃ operand ∈ op.operands value other, read operand = .error e) := by
  rcases op.comparison_cases type path read value other with
    ⟨hop, hr⟩ | ⟨hop, hr⟩ | ⟨-, -, -, cmp, hr⟩ | ⟨hop, hother, w, hw, e', he, hr⟩
  · cases hr.symm.trans h
    exact .inl ⟨fun h => hop h.1, rfl⟩
  · cases hr.symm.trans h
    exact .inl ⟨fun h => hop h.2, rfl⟩
  · cases hr.symm.trans h
  · cases hr.symm.trans h
    exact .inr ⟨hop, hother, w, hw, he⟩

/-! ## Conditions -/

theorem integerOperand_ok_iff {path : FieldPath} {operand : String} :
    (∃ n, integerOperand path operand = .ok n) ↔ FieldType.integerId.Reads operand := by
  simp [integerOperand, FieldType.Reads, Except.mapError_eq_ok_iff]

theorem instantOperand_ok_iff {operand : String} :
    (∃ i, instantOperand operand = .ok i) ↔ FieldType.timestamp.Reads operand := by
  simp [instantOperand, FieldType.Reads, Except.mapError_eq_ok_iff]

/-- A condition is made of an operator of the type and operands of the type. -/
theorem ResolvedField.condition_ok_iff {t : FieldType} {path : FieldPath} {op : Operator}
    {value : String} {other : Option String} :
    (∃ k, (ResolvedField.mk t.semantic path).condition op value other = .ok k) ↔
      op ∈ t.operators ∧ op.HasOther other ∧
        ∀ operand ∈ op.operands value other, t.Reads operand := by
  cases t with
  | text =>
    cases op <;>
      simp [condition, FieldType.semantic, Operator.textTest?, FieldType.operators,
        FieldType.Reads, Operator.HasOther]
  | timestamp =>
    have h := @Operator.comparison_ok_iff Instant op .timestamp path instantOperand value other
    simp only [instantOperand_ok_iff] at h
    simp only [condition, FieldType.semantic, Except.exists_map_eq_ok_iff]
    exact h
  | integerId =>
    have h := @Operator.comparison_ok_iff Int op .integerId path (integerOperand path) value other
    simp only [integerOperand_ok_iff] at h
    simp only [condition, FieldType.semantic, Except.exists_map_eq_ok_iff]
    exact h
  | bool | float | object => simp [condition, FieldType.semantic, FieldType.operators]

theorem ResolvedField.condition_field {f : ResolvedField} {op : Operator} {value : String}
    {other : Option String} {k : Condition} (h : f.condition op value other = .ok k) :
    k.field = f.path := by
  unfold condition at h
  split at h
  · split at h
    · cases h; rfl
    · cases h
  · obtain ⟨cmp, -, rfl⟩ := Except.map_eq_ok_iff.mp h
    rfl
  · obtain ⟨cmp, -, rfl⟩ := Except.map_eq_ok_iff.mp h
    rfl
  · cases h

/-- A condition fails on a date when an operand of a timestamp is not one, and
all else is right. -/
theorem ResolvedField.condition_error_kind {t : FieldType} {path : FieldPath} {op : Operator}
    {value : String} {other : Option String} {e : FilterError}
    (h : (ResolvedField.mk t.semantic path).condition op value other = .error e) :
    e.kind = .dateFormat ↔
      t = .timestamp ∧ op ∈ t.operators ∧ op.HasOther other ∧
        ∃ operand ∈ op.operands value other, ¬ t.Reads operand := by
  cases t with
  | text =>
    simp only [condition, FieldType.semantic] at h
    split at h <;> cases h
    simp [FilterError.kind]
  | timestamp =>
    cases hc : op.comparison .timestamp path instantOperand value other with
    | ok cmp => simp [condition, FieldType.semantic, hc] at h
    | error e' =>
      simp only [condition, FieldType.semantic, hc, Except.map_error, Except.error.injEq] at h
      subst h
      rcases Operator.comparison_error hc with ⟨hno, hk⟩ | ⟨hop, hother, w, hw, he⟩
      · simp only [hk, reduceCtorEq, true_and, false_iff]
        exact fun ⟨hop, hother, _⟩ => hno ⟨hop, hother⟩
      · have hkind : e'.kind = .dateFormat := by
          unfold instantOperand at he
          cases hs : Stamp.operand w <;> simp only [hs, Except.mapError_error, reduceCtorEq,
            Except.mapError_ok, Except.error.injEq] at he
          rw [← he]; rfl
        refine iff_of_true hkind ⟨rfl, hop, hother, w, hw, ?_⟩
        rw [← instantOperand_ok_iff, he]
        simp
  | integerId =>
    have hkind : e.kind = .filter := by
      cases hc : op.comparison .integerId path (integerOperand path) value other with
      | ok cmp => simp [condition, FieldType.semantic, hc] at h
      | error e' =>
        simp only [condition, FieldType.semantic, hc, Except.map_error, Except.error.injEq] at h
        subst h
        rcases Operator.comparison_error hc with ⟨-, hk⟩ | ⟨-, -, w, -, he⟩
        · exact hk
        · unfold integerOperand at he
          cases hs : Text.int64 w <;> simp only [hs, Except.mapError_error, reduceCtorEq,
            Except.mapError_ok, Except.error.injEq] at he
          rw [← he]; rfl
    simp [hkind]
  | bool | float | object =>
    cases h
    simp [FilterError.kind]

/-! ## Clauses -/

theorem Clause.isComplete_iff {c : Clause} :
    c.isComplete = true ↔
      c.field ≠ "" ∧ (∃ op, c.operator = some op) ∧ ∃ value, c.value = some value ∧ value ≠ "" := by
  simp [isComplete, Option.isSome_iff_exists, Option.any_eq_true, and_assoc]

/-- Opens the compiling of a complete clause on a field that resolves. -/
theorem Clause.compile_eq_condition {r : Registry} {entity : String} {c : Clause} {op : Operator}
    {value : String} {f : ResolvedField} (hop : c.operator = some op) (hv : c.value = some value)
    (hfield : c.field ≠ "") (hne : value ≠ "")
    (hf : r.resolveField entity c.field = .ok f) :
    c.compile r entity = f.condition op value c.otherValue := by
  have hcomplete : c.isComplete = true := isComplete_iff.mpr ⟨hfield, ⟨op, hop⟩, value, hv, hne⟩
  simp [compile, hop, hv, hcomplete, hf]

/-- A clause on a declared field is compiled by the type of the field. -/
theorem Clause.compile_of_declares {r : Registry} {entity field : String} {names : List String}
    {t : FieldType} {op : Operator} {value : String} (hdot : Dotted field names)
    (hblank : ∀ n ∈ names, Text.isBlank n = false) (ht : r.Declares entity names t)
    (hne : value ≠ "") (other : Option String) :
    Clause.compile r entity ⟨field, some op, some value, other⟩ =
      (ResolvedField.mk t.semantic ⟨names⟩).condition op value other := by
  have hfield : r.resolveField entity field = .ok ⟨t.semantic, ⟨names⟩⟩ :=
    Registry.resolveField_eq_ok_iff.mpr ⟨names, t, hdot, hblank, ht, rfl⟩
  exact compile_eq_condition (c := ⟨field, some op, some value, other⟩) rfl rfl
    (hdot.ne_empty hblank) hne hfield

theorem Clause.compile_eq_ok_iff_of_declares {r : Registry} {entity field : String}
    {names : List String} {t : FieldType} {op : Operator} {value : String} {other : Option String}
    {k : Condition} (hdot : Dotted field names) (hblank : ∀ n ∈ names, Text.isBlank n = false)
    (ht : r.Declares entity names t) :
    Clause.compile r entity ⟨field, some op, some value, other⟩ = .ok k ↔
      value ≠ "" ∧ (ResolvedField.mk t.semantic ⟨names⟩).condition op value other = .ok k := by
  by_cases hne : value = ""
  · simp [hne, compile, isComplete]
  · rw [compile_of_declares hdot hblank ht hne]
    exact (and_iff_right hne).symm

/-- A clause that no field is found for is refused before its operator is
looked at. -/
theorem Clause.compile_cases (r : Registry) (entity : String) (c : Clause) :
    (∃ op value names t, c.field ≠ "" ∧ c.operator = some op ∧ c.value = some value ∧ value ≠ "" ∧
      Dotted c.field names ∧ (∀ n ∈ names, Text.isBlank n = false) ∧ r.Declares entity names t ∧
      c.compile r entity =
        (ResolvedField.mk t.semantic ⟨names⟩).condition op value c.otherValue) ∨
    ((∀ op value t, ¬ c.Checked r entity op value t) ∧
      ∃ e, c.compile r entity = .error e ∧ e.kind = .filter) := by
  by_cases hcomplete : c.isComplete = true
  · obtain ⟨hfield, ⟨op, hop⟩, value, hv, hne⟩ := isComplete_iff.mp hcomplete
    cases hf : r.resolveField entity c.field with
    | ok f =>
      obtain ⟨names, t, hdot, hblank, ht, rfl⟩ := Registry.resolveField_eq_ok_iff.mp hf
      exact .inl ⟨op, value, names, t, hfield, hop, hv, hne, hdot, hblank, ht,
        compile_eq_condition hop hv hfield hne hf⟩
    | error e =>
      refine .inr ⟨fun _ _ t h => ?_, .schema e, ?_, rfl⟩
      · obtain ⟨names, hdot, hblank, ht⟩ := h.declared
        have := Registry.resolveField_eq_ok_iff.mpr ⟨names, t, hdot, hblank, ht, rfl⟩
        cases hf.symm.trans this
      · simp [compile, hop, hv, hcomplete, hf]
  · refine .inr ⟨fun op value _ h => hcomplete (isComplete_iff.mpr
      ⟨h.field_ne, ⟨op, h.operator_eq⟩, value, h.value_eq, h.value_ne⟩),
      .incompleteClause c.field, ?_, rfl⟩
    unfold compile
    split
    · rw [if_neg hcomplete]
    · rfl

end DocSieve
