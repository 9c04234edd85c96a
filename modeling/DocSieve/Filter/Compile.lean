-- SUMMARY: Compiling requests against the schemas of a registry: fields are resolved, operands read, operators matched to types.
import DocSieve.Filter.Denylist
import DocSieve.Filter.Error
import DocSieve.Filter.Query
import DocSieve.Schema.Registry

/-!
# Compiling requests

The type of a field decides which operators it has and how an operand is read.
The first clause that cannot be compiled decides the error.
-/

namespace DocSieve

open Json

/-! ## Operators and types -/

/-- The test that an operator makes on texts. -/
def Operator.textTest? : Operator → Option TextTest
  | .equals => some .equals
  | .contains => some .contains
  | .startsWith => some .startsWith
  | .endsWith => some .endsWith
  | .notEquals => some .notEquals
  | .greaterThan | .lessThan | .between => none

/-- The comparison that an operator makes on the ordered values of a type.
`read` reads an operand. -/
def Operator.comparison (op : Operator) (type : SemanticType) (path : FieldPath)
    (read : String → Except FilterError α) (value : String) (other : Option String) :
    Except FilterError (Comparison α) :=
  match op with
  | .equals => .eq <$> read value
  | .notEquals => .ne <$> read value
  | .greaterThan => .gt <$> read value
  | .lessThan => .lt <$> read value
  | .between =>
    match other.filter (· ≠ "") with
    | none => .error (.missingOther path)
    | some other => do
      let low ← read value
      let high ← read other
      return .between low high
  | .contains | .startsWith | .endsWith => .error (.unsupportedOperator op type path)

/-! ## Operands -/

/-- An integer operand. -/
def integerOperand (path : FieldPath) (value : String) : Except FilterError Int :=
  (Text.int64 value).mapError (.notInteger value path)

/-- A timestamp operand. -/
def instantOperand (value : String) : Except FilterError Instant :=
  (Stamp.operand value).mapError (.notInstant value)

/-! ## Clauses -/

/-- The condition of an operator with its operands on a resolved field. -/
def ResolvedField.condition (f : ResolvedField) (op : Operator) (value : String)
    (other : Option String) : Except FilterError Condition :=
  match f.type with
  | .text =>
    match op.textTest? with
    | some test => .ok (.text f.path test (Text.lower value))
    | none => .error (.unsupportedOperator op f.type f.path)
  | .timestamp => .timestamp f.path <$> op.comparison f.type f.path instantOperand value other
  | .integerId =>
    .integer f.path <$> op.comparison f.type f.path (integerOperand f.path) value other
  | .other name => .error (.unfilterableType f.path name)

/-- Resolves the field of a clause. -/
def Registry.resolveField (r : Registry) (entity field : String) :
    Except SchemaError ResolvedField := do
  r.resolve entity (← FieldPath.parse field)

/-- Compiles a clause. -/
def Clause.compile (r : Registry) (entity : String) (c : Clause) : Except FilterError Condition :=
  match c.operator, c.value with
  | some op, some value =>
    if c.isComplete then do
      let f ← (r.resolveField entity c.field).mapError .schema
      f.condition op value c.otherValue
    else .error (.incompleteClause c.field)
  | _, _ => .error (.incompleteClause c.field)

/-- Compiles clauses in their order. -/
def Clause.compileAll (r : Registry) (entity : String) :
    List Clause → Except FilterError (List Condition)
  | [] => .ok []
  | c :: cs => do
    let condition ← c.compile r entity
    let conditions ← compileAll r entity cs
    return condition :: conditions

/-! ## Ordering -/

/-- What an ordering by a field compares. A field that resolves to no type is
compared by value. -/
def Registry.sortKey (r : Registry) (entity field : String) : SortKey :=
  match r.resolveField entity field with
  | .ok ⟨.timestamp, _⟩ => .instant
  | _ => .value

/-- The ordering that a request asks for. It takes a field that is not empty
and a known direction. -/
def Registry.orderBy? (r : Registry) (entity : String) (field direction : Option String) :
    Option OrderBy := do
  let field ← field.filter (· ≠ "")
  let direction ← direction.bind Direction.ofText?
  some ⟨field, direction, r.sortKey entity field⟩

/-! ## Requests -/

namespace Registry

/-- Compiles a request against the schema of an entity. -/
def compile (r : Registry) (entity : String) (q : Request) : Except FilterError Query := do
  let conditions ← Clause.compileAll r entity (q.filters.getD [])
  return ⟨conditions, r.orderBy? entity q.orderBy q.orderDirection⟩

/-- Compiles what a denylist leaves of a request. -/
def compileAllowed (r : Registry) (d : Denylist) (entity : String) (q : Request) :
    Except FilterError Query :=
  r.compile entity (d.stripRequest q)

end Registry

end DocSieve
