-- SUMMARY: The operands that a clause on an integer field takes, the bounds that they become, and the documents that a written integer finds.
import DocSieve.Proofs.Filter.Meaning

/-!
# Integer operands

A clause on an integer field compiles if its operands spell signed 64-bit
integers, and these integers are the bounds of its condition. Nothing is cut
off and nothing wraps, so the decimal text of an integer finds the documents
that store this integer.
-/

namespace DocSieve

open Json Text

variable {r : Registry} {entity field : String} {names : List String} {path : FieldPath}
  {value other : String} {k : Condition} {n : Int}

/-! ## Operands -/

theorem integerOperand_eq_ok_iff : integerOperand path value = .ok n ↔ SpellsInt64 value n := by
  rw [integerOperand, Except.mapError_eq_ok_iff, int64_eq_ok_iff]

theorem ResolvedField.equals_eq_ok_iff {other : Option String} :
    (ResolvedField.mk .integerId path).condition .equals value other = .ok k ↔
      ∃ n, SpellsInt64 value n ∧ k = .integer path (.eq n) := by
  simp only [condition, Operator.comparison, Except.map_eq_ok_iff, integerOperand_eq_ok_iff]
  constructor
  · rintro ⟨_, ⟨n, hn, rfl⟩, rfl⟩
    exact ⟨n, hn, rfl⟩
  · rintro ⟨n, hn, rfl⟩
    exact ⟨_, ⟨n, hn, rfl⟩, rfl⟩

theorem ResolvedField.between_eq_ok_iff :
    (ResolvedField.mk .integerId path).condition .between value (some other) = .ok k ↔
      ∃ low high, SpellsInt64 value low ∧ SpellsInt64 other high ∧
        k = .integer path (.between low high) := by
  by_cases hother : other = ""
  · subst hother
    have hnone : (some "").filter (· ≠ "") = none := rfl
    simp only [condition, Operator.comparison, hnone, Except.map_error, reduceCtorEq, false_iff]
    rintro ⟨low, high, -, hhigh, -⟩
    exact hhigh.ne_empty rfl
  · have hsome : (some other).filter (· ≠ "") = some other := by simp [hother]
    simp only [condition, Operator.comparison, hsome, Except.map_eq_ok_iff, Except.bind_eq_ok_iff,
      integerOperand_eq_ok_iff, Except.pure_eq_ok, Except.ok.injEq]
    constructor
    · rintro ⟨_, ⟨low, hlow, high, hhigh, rfl⟩, rfl⟩
      exact ⟨low, high, hlow, hhigh, rfl⟩
    · rintro ⟨low, high, hlow, hhigh, rfl⟩
      exact ⟨_, ⟨low, hlow, high, hhigh, rfl⟩, rfl⟩

/-! ## Stored integers -/

/-- A condition of equality accepts its bound and nothing else. -/
theorem Condition.integer_eq_accepts_iff (hlow : -2 ^ 63 ≤ n) (hhigh : n < 2 ^ 63) {x : Value} :
    (Condition.integer path (.eq n)).accepts x = true ↔ x = .int n := by
  simp only [accepts, Comparison.holds, Option.any_eq_true, Value.int64?_eq_some_iff,
    decide_eq_true_eq, compare_eq_iff_eq]
  constructor
  · rintro ⟨m, ⟨rfl, -⟩, rfl⟩
    rfl
  · rintro rfl
    exact ⟨n, ⟨rfl, hlow, hhigh⟩, rfl⟩

/-- **Integer operands are read exactly.** A clause of equality on an integer
field compiles if and only if its operand is an optional sign and then ASCII
digits, zeros in front included, of an integer that 64 bits hold, and its bound
is this integer. So it is with both operands of `BETWEEN`. The decimal text of
each such integer, the least and the greatest included, makes a condition that
lets through the documents that store the integer, and no others. (The field is
one that a clause can name: no text is the path of a blank name.) -/
theorem Registry.integer_operands_exact (hdot : Dotted field names)
    (hblank : ∀ n ∈ names, isBlank n = false) (ht : r.Declares entity names .integerId)
    (unused : Option String) :
    (∀ value k, Clause.compile r entity ⟨field, some .equals, some value, unused⟩ = .ok k ↔
      ∃ n, SpellsInt64 value n ∧ k = .integer ⟨names⟩ (.eq n)) ∧
    (∀ value other k,
      Clause.compile r entity ⟨field, some .between, some value, some other⟩ = .ok k ↔
        ∃ low high, SpellsInt64 value low ∧ SpellsInt64 other high ∧
          k = .integer ⟨names⟩ (.between low high)) ∧
    ∀ n, -2 ^ 63 ≤ n → n < 2 ^ 63 → ∃ k,
      Clause.compile r entity ⟨field, some .equals, some (toString n), unused⟩ = .ok k ∧
        ∀ document, k.admits document = true ↔ FieldPath.Reaches document names (.int n) := by
  have hcompile {op : Operator} {value : String} {other : Option String} {k : Condition} :
      Clause.compile r entity ⟨field, some op, some value, other⟩ = .ok k ↔
        value ≠ "" ∧ (ResolvedField.mk .integerId ⟨names⟩).condition op value other = .ok k :=
    Clause.compile_eq_ok_iff_of_declares hdot hblank ht
  refine ⟨?equals, ?between, ?stored⟩
  case equals =>
    intro value k
    rw [hcompile, ResolvedField.equals_eq_ok_iff]
    exact and_iff_right_of_imp fun ⟨n, hn, _⟩ => hn.ne_empty
  case between =>
    intro value other k
    rw [hcompile, ResolvedField.between_eq_ok_iff]
    exact and_iff_right_of_imp fun ⟨low, high, hlow, _⟩ => hlow.ne_empty
  case stored =>
    intro n hlow hhigh
    have hn : SpellsInt64 (toString n) n := ⟨spellsInteger_toString n, hlow, hhigh⟩
    refine ⟨.integer ⟨names⟩ (.eq n), ?_, ?_⟩
    · exact hcompile.mpr ⟨hn.ne_empty, ResolvedField.equals_eq_ok_iff.mpr ⟨n, hn, rfl⟩⟩
    · intro document
      simp [Condition.admits_iff, Condition.integer_eq_accepts_iff hlow hhigh, Condition.field]

/-- The least and the greatest integer, with a sign and zeros in front, and the
integer behind the greatest. -/
theorem Registry.integer_operands_exact_extremes :
    let r : Registry := ⟨[⟨"staff", none, [("job", .object [("id", .integerId)])]⟩]⟩
    let equals (value : String) := Clause.compile r "staff" (.of "job.id" .equals value)
    let path : FieldPath := ⟨["job", "id"]⟩
    equals "+0009223372036854775807" = .ok (.integer path (.eq 9223372036854775807)) ∧
    (∀ k, equals "9223372036854775808" ≠ .ok k) ∧
    Clause.compile r "staff" (.between "job.id" "-9223372036854775808" "-0") =
      .ok (.integer path (.between (-9223372036854775808) 0)) ∧
    ∃ k, equals "-9223372036854775808" = .ok k ∧
      k.admits (.object [("job", .object [("id", .int (-9223372036854775808))])]) = true := by
  intro r equals path
  have hdot : Dotted "job.id" ["job", "id"] := dotted_iff.mpr (by decide +kernel)
  have hblank : ∀ n ∈ ["job", "id"], isBlank n = false := by decide +kernel
  have ht : r.Declares "staff" ["job", "id"] .integerId := ⟨_, rfl, .nested rfl (.field rfl)⟩
  have hspells {s : String} {n : Int} (h : (int64 s).toOption = some n) : SpellsInt64 s n :=
    int64_eq_ok_iff.mp (Except.toOption_eq_some_iff.mp h)
  obtain ⟨hequals, hbetween, hstored⟩ := integer_operands_exact hdot hblank ht none
  refine ⟨?greatest, ?above, ?both, ?least⟩
  case greatest => exact (hequals _ _).mpr ⟨_, hspells (by decide +kernel), rfl⟩
  case above =>
    intro k hk
    obtain ⟨n, hn, -⟩ := (hequals _ _).mp hk
    cases int64_eq_ok_iff.mpr hn
  case both =>
    exact (hbetween _ _ _).mpr ⟨_, _, hspells (by decide +kernel), hspells (by decide +kernel), rfl⟩
  case least =>
    obtain ⟨k, hk, hadmits⟩ := hstored (-9223372036854775808) (by decide) (by decide)
    exact ⟨k, hk, (hadmits _).mpr (.member rfl (.member rfl .here))⟩

end DocSieve
