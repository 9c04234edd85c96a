-- SUMMARY: What a clause asks of a document, said without compiling it, and compiled conditions as the same thing.
import Mathlib.Algebra.Ring.Int.Defs
import DocSieve.Proofs.Filter.Compile
import DocSieve.Proofs.Text.Integer
import DocSieve.Proofs.Time.Stamp

/-!
# Meaning of clauses

`Clause.MetBy` reads a clause as it stands: the declared type of its field, the
value in the document, and the relation that the operator names between the
value and the operands. A clause that compiles admits the documents that meet
it and no others. A value that is missing, null or of another type meets
nothing, since each rule names the kind of value it needs.
-/

namespace DocSieve

open Json

/-! ## Relations -/

/-- The relation that an operator names between a text and its operand. -/
def Operator.RelatesText (op : Operator) (text operand : String) : Prop :=
  match op with
  | .equals => text = operand
  | .notEquals => text ≠ operand
  | .contains => ∃ before after, text = before ++ operand ++ after
  | .startsWith => ∃ after, text = operand ++ after
  | .endsWith => ∃ before, text = before ++ operand
  | .greaterThan | .lessThan | .between => False

/-- The relation that an operator names between a value and one or two bounds. -/
def Operator.RelatesOrder {α : Type} [LE α] [LT α] (op : Operator) (a low : α)
    (high : Option α) : Prop :=
  match op with
  | .equals => a = low
  | .notEquals => a ≠ low
  | .greaterThan => low < a
  | .lessThan => a < low
  | .between => low ≤ a ∧ ∃ h, high = some h ∧ a ≤ h
  | .contains | .startsWith | .endsWith => False

/-- The relation that an operator names between a value of a document and the
operands, by the declared type of the field. -/
def FieldType.Relates (t : FieldType) (op : Operator) (operand : String) (other : Option String)
    (x : Value) : Prop :=
  match t with
  | .text => ∃ s, x = .string s ∧ op.RelatesText (Text.lower s) (Text.lower operand)
  | .integerId => ∃ n low, x = .number (.int n) ∧ (-2 ^ 63 ≤ n ∧ n < 2 ^ 63) ∧
      Text.int64 operand = .ok low ∧
      op.RelatesOrder n low (other.bind fun w => (Text.int64 w).toOption)
  | .timestamp => ∃ s i low, x = .string s ∧
      (Stamp.internet? s = some i ∨ Stamp.operand s = .ok i) ∧ Stamp.operand operand = .ok low ∧
      op.RelatesOrder i low (other.bind fun w => (Stamp.operand w).toOption)
  | .bool | .float | .object _ => False

/-- A document meets a clause of an entity: the names of the field lead to a
value that stands to the operands as the operator says. -/
def Clause.MetBy (r : Registry) (entity : String) (c : Clause) (document : Value) : Prop :=
  ∃ names t op operand x, Dotted c.field names ∧ r.Declares entity names t ∧
    c.operator = some op ∧ c.value = some operand ∧ FieldPath.Reaches document names x ∧
    t.Relates op operand c.otherValue x

theorem Clause.metBy_iff {r : Registry} {entity : String} {c : Clause} {document : Value}
    {names : List String} {t : FieldType} {op : Operator} {operand : String}
    (hdot : Dotted c.field names) (ht : r.Declares entity names t)
    (hop : c.operator = some op) (hv : c.value = some operand) :
    c.MetBy r entity document ↔
      ∃ x, FieldPath.Reaches document names x ∧ t.Relates op operand c.otherValue x := by
  constructor
  · rintro ⟨names', t', op', operand', x, hdot', ht', hop', hv', hx, hrel⟩
    cases hdot.unique hdot'
    cases ht.unique ht'
    cases hop.symm.trans hop'
    cases hv.symm.trans hv'
    exact ⟨x, hx, hrel⟩
  · rintro ⟨x, hx, hrel⟩
    exact ⟨names, t, op, operand, x, hdot, ht, hop, hv, hx, hrel⟩

/-! ## Tests and comparisons -/

theorem TextTest.occursIn_iff {needle cs : List Char} :
    occursIn needle cs = true ↔ needle <:+: cs := by
  induction cs with
  | nil => simp [occursIn]
  | cons c cs ih => rw [occursIn, Bool.or_eq_true, ih, List.isPrefixOf_iff_prefix, List.infix_cons_iff]

/-- A test in lower case is the relation that its operator names. -/
theorem TextTest.holds_iff {op : Operator} {test : TextTest} (h : op.textTest? = some test)
    (operand text : String) :
    test.holds operand.toList text.toList = true ↔ op.RelatesText text operand := by
  cases op <;> cases h
  case equals => simp [holds, Operator.RelatesText, String.toList_inj]
  case notEquals => simp [holds, Operator.RelatesText, String.toList_inj]
  case contains =>
    simp only [holds, occursIn_iff, Operator.RelatesText]
    constructor
    · rintro ⟨before, after, h⟩
      exact ⟨String.ofList before, String.ofList after, by simp [← String.toList_inj, ← h]⟩
    · rintro ⟨before, after, rfl⟩
      exact ⟨before.toList, after.toList, by simp⟩
  case startsWith =>
    simp only [holds, List.isPrefixOf_iff_prefix, Operator.RelatesText]
    constructor
    · rintro ⟨after, h⟩
      exact ⟨String.ofList after, by simp [← String.toList_inj, ← h]⟩
    · rintro ⟨after, rfl⟩
      exact ⟨after.toList, by simp⟩
  case endsWith =>
    simp only [holds, List.isSuffixOf_iff_suffix, Operator.RelatesText]
    constructor
    · rintro ⟨before, h⟩
      exact ⟨String.ofList before, by simp [← String.toList_inj, ← h]⟩
    · rintro ⟨before, rfl⟩
      exact ⟨before.toList, by simp⟩

/-- A comparison is the relation that its operator names, between the value and
what the operands read as. -/
theorem Operator.comparison_holds_iff {α : Type} [LinearOrder α] {order : α → α → Ordering}
    (horder : ∀ a b, order a b = compare a b) {op : Operator} {type : SemanticType}
    {path : FieldPath} {read : String → Except FilterError α} {value : String}
    {other : Option String} {cmp : Comparison α}
    (h : op.comparison type path read value other = .ok cmp) (a : α) :
    cmp.holds order a = true ↔ ∃ low, read value = .ok low ∧
      op.RelatesOrder a low (other.bind fun w => (read w).toOption) := by
  cases op
  case contains | startsWith | endsWith => cases h
  case equals | notEquals | greaterThan | lessThan =>
    obtain ⟨low, hlow, rfl⟩ := Except.map_eq_ok_iff.mp h
    simp [Comparison.holds, horder, hlow, RelatesOrder, compare_lt_iff_lt, compare_gt_iff_gt]
  case between =>
    simp only [comparison] at h
    split at h
    · cases h
    · rename_i w hw
      obtain ⟨rfl, -⟩ := Option.filter_eq_some_iff.mp hw
      obtain ⟨low, hlow, h⟩ := Except.bind_eq_ok_iff.mp h
      obtain ⟨high, hhigh, h⟩ := Except.bind_eq_ok_iff.mp h
      cases h
      simp [Comparison.holds, horder, hlow, hhigh, RelatesOrder, Except.toOption,
        compare_lt_iff_lt, compare_gt_iff_gt]

/-! ## Conditions -/

theorem Condition.admits_iff {k : Condition} {document : Value} :
    k.admits document = true ↔
      ∃ x, FieldPath.Reaches document k.field.segments x ∧ k.accepts x = true := by
  simp [admits_eq_any, FieldPath.lookup, FieldPath.reaches_iff_follow, Option.any_eq_true]

theorem Json.Value.int64?_eq_some_iff {x : Value} {n : Int} :
    x.int64? = some n ↔ x = .number (.int n) ∧ (-2 ^ 63 ≤ n ∧ n < 2 ^ 63) := by
  cases x with
  | number m =>
    cases m with
    | int m =>
      simp only [int64?, Number.int64?, Option.ite_none_right_eq_some, Option.some.injEq,
        Value.number.injEq, Number.int.injEq]
      constructor
      · rintro ⟨hm, rfl⟩; exact ⟨rfl, isInt64_iff.mp hm⟩
      · rintro ⟨rfl, hm⟩; exact ⟨isInt64_iff.mpr hm, rfl⟩
    | double d => simp [int64?, Number.int64?]
  | _ => simp [int64?]

theorem Json.Value.text?_eq_some_iff {x : Value} {s : String} :
    x.text? = some s ↔ x = .string s := by
  cases x <;> simp [text?]

/-- A condition accepts the values that stand to its operands as its operator
says. -/
theorem ResolvedField.condition_accepts_iff {t : FieldType} {path : FieldPath} {op : Operator}
    {value : String} {other : Option String} {k : Condition}
    (h : (ResolvedField.mk t.semantic path).condition op value other = .ok k) (x : Value) :
    k.accepts x = true ↔ t.Relates op value other x := by
  cases t with
  | text =>
    cases htest : op.textTest? with
    | none => simp [condition, FieldType.semantic, htest] at h
    | some test =>
      simp only [condition, FieldType.semantic, htest, Except.ok.injEq] at h
      subst h
      simp [Condition.accepts, Option.any_eq_true, Value.text?_eq_some_iff, FieldType.Relates,
        TextTest.holds_iff htest]
  | integerId =>
    obtain ⟨cmp, hcmp, rfl⟩ := Except.map_eq_ok_iff.mp h
    have horder (m n : Int) : compare m n = compare m n := rfl
    have hholds := Operator.comparison_holds_iff horder hcmp
    simp only [Condition.accepts, Option.any_eq_true, Value.int64?_eq_some_iff, hholds,
      FieldType.Relates, integerOperand, Except.mapError_eq_ok_iff, Except.toOption_mapError]
    constructor
    · rintro ⟨n, ⟨rfl, hn⟩, low, hlow, hrel⟩
      exact ⟨n, low, rfl, hn, hlow, hrel⟩
    · rintro ⟨n, low, rfl, hn, hlow, hrel⟩
      exact ⟨n, ⟨rfl, hn⟩, low, hlow, hrel⟩
  | timestamp =>
    obtain ⟨cmp, hcmp, rfl⟩ := Except.map_eq_ok_iff.mp h
    have hholds := Operator.comparison_holds_iff Instant.order_eq_compare hcmp
    simp only [Condition.accepts, Option.any_eq_true, Value.instant?, Option.bind_eq_some_iff,
      Value.text?_eq_some_iff, Stamp.stored_eq_some_iff, hholds, FieldType.Relates, instantOperand,
      Except.mapError_eq_ok_iff, Except.toOption_mapError]
    constructor
    · rintro ⟨i, ⟨s, rfl, hi⟩, low, hlow, hrel⟩
      exact ⟨s, i, low, rfl, hi, hlow, hrel⟩
    · rintro ⟨s, i, low, rfl, hi, hlow, hrel⟩
      exact ⟨i, ⟨s, rfl, hi⟩, low, hlow, hrel⟩
  | bool | float | object => cases h

/-- What a clause compiles to admits the documents that meet the clause. -/
theorem Clause.compile_admits_iff {r : Registry} {entity : String} {c : Clause} {k : Condition}
    (h : c.compile r entity = .ok k) (document : Value) :
    k.admits document = true ↔ c.MetBy r entity document := by
  rcases c.compile_cases r entity with
    ⟨op, value, names, t, -, hop, hv, -, hdot, -, ht, hc⟩ | ⟨-, e, he, -⟩
  · have hk := hc.symm.trans h
    rw [Condition.admits_iff, Clause.metBy_iff hdot ht hop hv, ResolvedField.condition_field hk]
    simp only [ResolvedField.condition_accepts_iff hk]
  · cases he.symm.trans h

/-- The documents that meet all conditions of a list of clauses meet all the
clauses. -/
theorem Clause.compileAll_admits_iff {r : Registry} {entity : String} {cs : List Clause}
    {ks : List Condition} (h : Clause.compileAll r entity cs = .ok ks) (document : Value) :
    ks.all (·.admits document) = true ↔ ∀ c ∈ cs, c.MetBy r entity document := by
  have hks := Clause.compileAll_eq_ok_iff.mp h
  clear h
  induction hks with
  | nil => simp
  | cons hk _ ih => simp [compile_admits_iff hk, ih]

end DocSieve
