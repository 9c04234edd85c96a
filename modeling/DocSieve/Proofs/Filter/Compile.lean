-- SUMMARY: Compiling clause lists: what is accepted, what each clause becomes, and which clause decides an error.
import Mathlib.Data.List.Forall2
import DocSieve.Proofs.Filter.Typing

/-!
# Compiling clauses

Compiling takes the clauses one by one. It accepts a list when every clause is
well typed, makes one condition of each, and otherwise stops at the first
clause that is not. Neither the other clauses nor the ordering has a part in
what becomes of a clause.
-/

namespace DocSieve

/-- Of two lists that go together, each item of the second has one of the first. -/
theorem exists_mem_of_forall₂ {α β : Type} {R : α → β → Prop} {as : List α} {bs : List β} {b : β}
    (h : List.Forall₂ R as bs) (hb : b ∈ bs) : ∃ a ∈ as, R a b := by
  induction h with
  | nil => cases hb
  | cons hab _ ih =>
    rcases List.mem_cons.mp hb with rfl | hb
    · exact ⟨_, List.mem_cons_self, hab⟩
    · obtain ⟨a, ha, hab⟩ := ih hb
      exact ⟨a, List.mem_cons_of_mem _ ha, hab⟩

namespace Clause

variable {r : Registry} {entity : String}

/-! ## One clause -/

theorem compile_ok_iff {c : Clause} :
    (∃ k, c.compile r entity = .ok k) ↔ c.WellTyped r entity := by
  rcases c.compile_cases r entity with
    ⟨op, value, names, t, hfield, hop, hv, hne, hdot, hblank, ht, hc⟩ | ⟨hno, e, he, -⟩
  · rw [hc, ResolvedField.condition_ok_iff]
    constructor
    · rintro ⟨hsupp, hother, hread⟩
      exact ⟨op, value, t, ⟨hfield, hop, hv, hne, ⟨names, hdot, hblank, ht⟩, hsupp, hother⟩, hread⟩
    · rintro ⟨op', value', t', hchecked, hread⟩
      obtain ⟨names', hdot', -, ht'⟩ := hchecked.declared
      cases hdot.unique hdot'
      cases ht.unique ht'
      cases hop.symm.trans hchecked.operator_eq
      cases hv.symm.trans hchecked.value_eq
      exact ⟨hchecked.supported, hchecked.other, hread⟩
  · simp only [he, reduceCtorEq, exists_false, false_iff]
    rintro ⟨op, value, t, hchecked, -⟩
    exact hno op value t hchecked

theorem compile_error_kind {c : Clause} {e : FilterError} (h : c.compile r entity = .error e) :
    e.kind = .dateFormat ↔ c.MisreadsInstant r entity := by
  rcases c.compile_cases r entity with
    ⟨op, value, names, t, hfield, hop, hv, hne, hdot, hblank, ht, hc⟩ | ⟨hno, e', he, hk⟩
  · rw [ResolvedField.condition_error_kind (hc.symm.trans h)]
    constructor
    · rintro ⟨rfl, hsupp, hother, hread⟩
      exact ⟨op, value, ⟨hfield, hop, hv, hne, ⟨names, hdot, hblank, ht⟩, hsupp, hother⟩, hread⟩
    · rintro ⟨op', value', hchecked, hread⟩
      obtain ⟨names', hdot', -, ht'⟩ := hchecked.declared
      cases hdot.unique hdot'
      cases ht.unique ht'
      cases hop.symm.trans hchecked.operator_eq
      cases hv.symm.trans hchecked.value_eq
      exact ⟨rfl, hchecked.supported, hchecked.other, hread⟩
  · cases he.symm.trans h
    simp only [hk, reduceCtorEq, false_iff]
    rintro ⟨op, value, hchecked, -⟩
    exact hno op value _ hchecked

/-- A condition looks at the field that its clause names. -/
theorem compile_names {c : Clause} {k : Condition} (h : c.compile r entity = .ok k) :
    Dotted c.field k.field.segments := by
  rcases c.compile_cases r entity with ⟨op, value, names, t, -, -, -, -, hdot, -, -, hc⟩ | ⟨-, e, he, -⟩
  · rw [ResolvedField.condition_field (hc.symm.trans h)]
    exact hdot
  · cases he.symm.trans h

/-! ## A list of clauses -/

theorem compileAll_eq_ok_iff {cs : List Clause} {ks : List Condition} :
    compileAll r entity cs = .ok ks ↔ List.Forall₂ (fun c k => c.compile r entity = .ok k) cs ks := by
  induction cs generalizing ks with
  | nil =>
    rw [List.forall₂_nil_left_iff]
    exact ⟨fun h => by cases h; rfl, fun h => by rw [h]; rfl⟩
  | cons c cs ih =>
    simp only [compileAll, Except.bind_eq_ok_iff, Except.pure_eq_ok, Except.ok.injEq,
      List.forall₂_cons_left_iff, ih]
    constructor
    · rintro ⟨k, hk, ks, hks, rfl⟩
      exact ⟨k, ks, hk, hks, rfl⟩
    · rintro ⟨k, ks, hk, hks, rfl⟩
      exact ⟨k, hk, ks, hks, rfl⟩

/-- Each condition comes from a clause. -/
theorem exists_compile_of_mem {cs : List Clause} {ks : List Condition} {k : Condition}
    (h : compileAll r entity cs = .ok ks) (hk : k ∈ ks) : ∃ c ∈ cs, c.compile r entity = .ok k := by
  obtain ⟨c, hmem, hc⟩ := exists_mem_of_forall₂ (compileAll_eq_ok_iff.mp h) hk
  exact ⟨c, hmem, hc⟩

theorem compileAll_ok_iff {cs : List Clause} :
    (∃ ks, compileAll r entity cs = .ok ks) ↔ ∀ c ∈ cs, ∃ k, c.compile r entity = .ok k := by
  induction cs with
  | nil => simp [compileAll]
  | cons c cs ih =>
    rw [List.forall_mem_cons, ← ih]
    simp only [compileAll, Except.bind_eq_ok_iff, Except.pure_eq_ok, Except.ok.injEq]
    constructor
    · rintro ⟨_, k, hk, ks, hks, -⟩
      exact ⟨⟨k, hk⟩, ks, hks⟩
    · rintro ⟨⟨k, hk⟩, ks, hks⟩
      exact ⟨_, k, hk, ks, hks, rfl⟩

/-- The first clause that does not compile decides the error. -/
theorem compileAll_error {cs : List Clause} {e : FilterError}
    (h : compileAll r entity cs = .error e) :
    ∃ before c after, cs = before ++ c :: after ∧
      (∀ b ∈ before, ∃ k, b.compile r entity = .ok k) ∧ c.compile r entity = .error e := by
  induction cs with
  | nil => cases h
  | cons c cs ih =>
    cases hc : c.compile r entity with
    | error e' =>
      simp only [compileAll, hc, Except.bind_error, Except.error.injEq] at h
      exact ⟨[], c, cs, rfl, by simp, hc.trans (by rw [h])⟩
    | ok k =>
      cases hcs : compileAll r entity cs with
      | ok ks => simp [compileAll, hc, hcs] at h
      | error e' =>
        simp only [compileAll, hc, hcs, Except.bind_ok, Except.bind_error, Except.error.injEq] at h
        obtain ⟨before, b, after, rfl, hbefore, hb⟩ := ih (hcs.trans (by rw [h]))
        exact ⟨c :: before, b, after, rfl, List.forall_mem_cons.mpr ⟨⟨k, hc⟩, hbefore⟩, hb⟩

end Clause

namespace Registry

/-! ## A request -/

/-- The conditions of a request come from its clauses alone. -/
theorem compile_conditions (r : Registry) (entity : String) (q : Request) :
    (·.conditions) <$> r.compile entity q = Clause.compileAll r entity (q.filters.getD []) := by
  unfold compile
  cases Clause.compileAll r entity (q.filters.getD []) <;> rfl

theorem compile_ok_iff {r : Registry} {entity : String} {q : Request} {p : Query} :
    r.compile entity q = .ok p ↔
      Clause.compileAll r entity (q.filters.getD []) = .ok p.conditions ∧
        p.order = r.orderBy? entity q.orderBy q.orderDirection := by
  obtain ⟨conditions, order⟩ := p
  unfold compile
  cases Clause.compileAll r entity (q.filters.getD []) <;> simp [eq_comm]

theorem compile_error_iff {r : Registry} {entity : String} {q : Request} {e : FilterError} :
    r.compile entity q = .error e ↔
      Clause.compileAll r entity (q.filters.getD []) = .error e := by
  unfold compile
  cases Clause.compileAll r entity (q.filters.getD []) <;> simp

/-- An ordering is by the field that was asked for. -/
theorem orderBy?_field {r : Registry} {entity : String} {field direction : Option String}
    {o : OrderBy} (h : r.orderBy? entity field direction = some o) : field = some o.field := by
  obtain ⟨f, hf, h⟩ := Option.bind_eq_some_iff.mp h
  obtain ⟨_, -, h⟩ := Option.bind_eq_some_iff.mp h
  cases h
  exact (Option.filter_eq_some_iff.mp hf).1

theorem compile_single_error {r : Registry} {entity : String} {c : Clause} {e : FilterError}
    (h : c.compile r entity = .error e) : r.compile entity ⟨some [c], none, none⟩ = .error e := by
  rw [compile_error_iff]
  simp [Clause.compileAll, h]

theorem compile_single_ok {r : Registry} {entity : String} {c : Clause} {k : Condition}
    (h : c.compile r entity = .ok k) :
    r.compile entity ⟨some [c], none, none⟩ = .ok ⟨[k], none⟩ := by
  rw [compile_ok_iff]
  simp [Clause.compileAll, h, orderBy?]

/-- **Compiling is type checking.** A request compiles when all its clauses are
well typed, whatever ordering it asks for. Each condition is the one that its
clause gives by itself, on the field that the clause names. An error is the one
that the first ill-typed clause gives by itself, and its code tells an operand
that should be an instant from everything else. -/
theorem compile_accepts_exactly_wellTyped (r : Registry) (entity : String) (q : Request) :
    ((∃ p, r.compile entity q = .ok p) ↔ ∀ c ∈ q.filters.getD [], c.WellTyped r entity) ∧
    (∀ p, r.compile entity q = .ok p →
      List.Forall₂ (fun c k => r.compile entity ⟨some [c], none, none⟩ = .ok ⟨[k], none⟩ ∧
        Dotted c.field k.field.segments) (q.filters.getD []) p.conditions) ∧
    (∀ e, r.compile entity q = .error e → ∃ before c after,
      q.filters.getD [] = before ++ c :: after ∧
      (∀ b ∈ before, b.WellTyped r entity) ∧ ¬ c.WellTyped r entity ∧
      r.compile entity ⟨some [c], none, none⟩ = .error e ∧
      (e.code = "FILTER_INVALID_DATE_FORMAT" ↔ c.MisreadsInstant r entity) ∧
      (e.code = "FILTER_INVALID" ↔ ¬ c.MisreadsInstant r entity)) ∧
    (∀ field direction,
      (·.conditions) <$> r.compile entity { q with orderBy := field, orderDirection := direction } =
        (·.conditions) <$> r.compile entity q) := by
  refine ⟨?accepts, ?conditions, ?error, ?ordering⟩
  case accepts =>
    have hall : (∃ p, r.compile entity q = .ok p) ↔
        ∃ ks, Clause.compileAll r entity (q.filters.getD []) = .ok ks := by
      rw [← Except.exists_map_eq_ok_iff (f := Query.conditions), compile_conditions]
    simp only [hall, Clause.compileAll_ok_iff, Clause.compile_ok_iff]
  case conditions =>
    intro p hp
    obtain ⟨hconditions, -⟩ := compile_ok_iff.mp hp
    refine (Clause.compileAll_eq_ok_iff.mp hconditions).imp fun c k hk => ?_
    exact ⟨compile_single_ok hk, Clause.compile_names hk⟩
  case error =>
    intro e he
    obtain ⟨before, c, after, hcs, hbefore, hc⟩ :=
      Clause.compileAll_error (compile_error_iff.mp he)
    have hkind := Clause.compile_error_kind hc
    refine ⟨before, c, after, hcs, fun b hb => Clause.compile_ok_iff.mp (hbefore b hb), ?_,
      compile_single_error hc, ?_, ?_⟩
    · rw [← Clause.compile_ok_iff, hc]
      simp
    · rw [← hkind]
      cases hk : e.kind <;> simp [FilterError.code, hk, FilterErrorKind.code]
    · rw [← hkind]
      cases hk : e.kind <;> simp [FilterError.code, hk, FilterErrorKind.code]
  case ordering =>
    intro field direction
    rw [compile_conditions, compile_conditions]

end Registry

end DocSieve
