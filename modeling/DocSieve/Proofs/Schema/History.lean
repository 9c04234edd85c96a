-- SUMMARY: What a sequence of registrations leaves behind: the first valid schema of each entity, whatever fails in between.
import Mathlib.Data.List.Nodup
import DocSieve.Proofs.Filter.Compile
import DocSieve.Proofs.Schema.Registration

/-!
# Histories of a registry

A registry is filled by calls, some of which fail. What it holds in the end can
be read off the schemas alone: each entity has the first valid schema that was
offered for it. So a registered entity is never touched again, and valid schemas
of different entities may come in any order.
-/

namespace DocSieve

namespace Registry

variable {r r' : Registry} {s : EntitySchema} {entity : String}

/-! ## Calls -/

/-- The registry after a call. A call that fails leaves it as it was. -/
def attempt (r : Registry) (s : EntitySchema) : Registry :=
  match r.register s with
  | .ok r' => r'
  | .error _ => r

/-- The registry after calls, one after the other. -/
def attemptAll (r : Registry) (ss : List EntitySchema) : Registry := ss.foldl attempt r

/-- What the calls answer. -/
def answers (r : Registry) : List EntitySchema → List (Except SchemaError Unit)
  | [] => []
  | s :: ss => (r.register s).map (fun _ => ()) :: (r.attempt s).answers ss

theorem attempt_of_ok (h : r.register s = .ok r') : r.attempt s = r' := by
  simp [attempt, h]

theorem attempt_of_error {e : SchemaError} (h : r.register s = .error e) : r.attempt s = r := by
  simp [attempt, h]

@[simp] theorem attemptAll_nil (r : Registry) : r.attemptAll [] = r := rfl

@[simp] theorem attemptAll_cons (r : Registry) (s : EntitySchema) (ss : List EntitySchema) :
    r.attemptAll (s :: ss) = (r.attempt s).attemptAll ss := rfl

theorem attemptAll_append (r : Registry) (ss ts : List EntitySchema) :
    r.attemptAll (ss ++ ts) = (r.attemptAll ss).attemptAll ts := by
  simp [attemptAll]

/-- A call fails on a malformed schema, and then on a registered entity. -/
theorem register_cases (r : Registry) (s : EntitySchema) :
    (∃ e, s.structureError? = some e ∧
      r.register s = .error (.malformed inMemory (.structure e))) ∨
    (s.structureError? = none ∧ (∃ t, r.get? s.entity = some t) ∧
      r.register s = .error (.duplicateEntity s.entity)) ∨
    (s.structureError? = none ∧ r.get? s.entity = none ∧
      r.register s = .ok ⟨r.schemas ++ [s]⟩) := by
  unfold register insert
  cases hs : s.structureError? with
  | some e => exact .inl ⟨e, rfl, rfl⟩
  | none =>
    cases hr : r.get? s.entity with
    | some t => exact .inr (.inl ⟨rfl, ⟨t, rfl⟩, rfl⟩)
    | none => exact .inr (.inr ⟨rfl, rfl, rfl⟩)

/-! ## What one call does -/

/-- A call gives an entity without a schema the schema it offers, if that is
valid, and changes nothing else. -/
theorem get?_attempt (r : Registry) (s : EntitySchema) (entity : String) :
    (r.attempt s).get? entity =
      (r.get? entity).or ([s].find? fun s => s.entity = entity ∧ s.structureError? = none) := by
  rcases r.register_cases s with ⟨e, he, h⟩ | ⟨hs, ⟨t, ht⟩, h⟩ | ⟨hs, hr, h⟩
  · simp [attempt_of_error h, he]
  · rw [attempt_of_error h]
    by_cases hentity : s.entity = entity
    · simp [← hentity, ht]
    · simp [hentity]
  · rw [attempt_of_ok h]
    simp [get?, List.find?_append, hs]

/-- The schemas of a registry are valid, and no two are of one entity. -/
structure WellFormed (r : Registry) : Prop where
  valid : ∀ s ∈ r.schemas, s.structureError? = none
  distinct : (r.schemas.map (·.entity)).Nodup

theorem wellFormed_empty : empty.WellFormed := ⟨by simp [empty], by simp [empty]⟩

theorem get?_empty (entity : String) : empty.get? entity = none := rfl

theorem get?_eq_none_iff : r.get? entity = none ↔ entity ∉ r.schemas.map (·.entity) := by
  simp [get?]

theorem WellFormed.attempt (h : r.WellFormed) (s : EntitySchema) : (r.attempt s).WellFormed := by
  rcases r.register_cases s with ⟨e, he, hs⟩ | ⟨-, -, hs⟩ | ⟨hvalid, hnew, hs⟩
  · rwa [attempt_of_error hs]
  · rwa [attempt_of_error hs]
  · rw [attempt_of_ok hs]
    constructor
    · intro t ht
      rcases List.mem_append.mp ht with ht | ht
      · exact h.valid t ht
      · rw [List.mem_singleton.mp ht]
        exact hvalid
    · rw [List.map_append, List.nodup_append_comm]
      exact List.nodup_cons.mpr ⟨get?_eq_none_iff.mp hnew, h.distinct⟩

/-- Every schema of a registry is the one of its entity. -/
theorem WellFormed.get?_eq_some_iff (h : r.WellFormed) :
    r.get? entity = some s ↔ s ∈ r.schemas ∧ s.entity = entity := by
  constructor
  · intro hs
    exact ⟨List.mem_of_find?_eq_some hs, by simpa using List.find?_some hs⟩
  · rintro ⟨hs, rfl⟩
    obtain ⟨t, ht⟩ : ∃ t, r.get? s.entity = some t := by
      cases hr : r.get? s.entity with
      | some t => exact ⟨t, rfl⟩
      | none => exact absurd (List.mem_map_of_mem hs) (get?_eq_none_iff.mp hr)
    have hentity : t.entity = s.entity := by simpa using List.find?_some ht
    rw [ht, List.inj_on_of_nodup_map h.distinct (List.mem_of_find?_eq_some ht) hs hentity]

/-- Registries of the same schemas have the same schema for each entity. -/
theorem WellFormed.get?_eq_of_perm (h : r.WellFormed) (h' : r'.WellFormed)
    (hperm : r.schemas.Perm r'.schemas) (entity : String) : r.get? entity = r'.get? entity := by
  ext s
  rw [h.get?_eq_some_iff, h'.get?_eq_some_iff, hperm.mem_iff]

/-- A call that succeeds adds one schema. -/
theorem size_attempt (r : Registry) (s : EntitySchema) :
    (r.attempt s).size = r.size + if (r.register s).isOk then 1 else 0 := by
  rcases r.register_cases s with ⟨e, -, h⟩ | ⟨-, -, h⟩ | ⟨-, -, h⟩
  · simp [attempt_of_error h, h, Except.isOk, Except.toBool]
  · simp [attempt_of_error h, h, Except.isOk, Except.toBool]
  · simp [attempt_of_ok h, h, size, Except.isOk, Except.toBool]

/-! ## What a sequence of calls does -/

/-- After calls, an entity has the schema it had before, and otherwise the first
valid one that was offered for it. -/
theorem get?_attemptAll (r : Registry) (ss : List EntitySchema) (entity : String) :
    (r.attemptAll ss).get? entity =
      (r.get? entity).or (ss.find? fun s => s.entity = entity ∧ s.structureError? = none) := by
  induction ss generalizing r with
  | nil => simp
  | cons s ss ih =>
    rw [attemptAll_cons, ih, get?_attempt, Option.or_assoc, ← List.find?_append]
    rfl

theorem WellFormed.attemptAll (h : r.WellFormed) (ss : List EntitySchema) :
    (r.attemptAll ss).WellFormed := by
  induction ss generalizing r with
  | nil => exact h
  | cons s ss ih => exact ih (h.attempt s)

theorem size_attemptAll (r : Registry) (ss : List EntitySchema) :
    (r.attemptAll ss).size = r.size + (r.answers ss).countP (·.isOk) := by
  induction ss generalizing r with
  | nil => rfl
  | cons s ss ih =>
    have hmap : ((r.register s).map fun _ => ()).isOk = (r.register s).isOk := by
      cases r.register s <;> rfl
    rw [attemptAll_cons, ih, size_attempt, answers, List.countP_cons, hmap]
    omega

/-- Valid schemas of different entities, none of which is registered yet, are
all taken in. -/
theorem attemptAll_of_valid {ss : List EntitySchema} (hvalid : ∀ s ∈ ss, s.structureError? = none)
    (hdistinct : ((r.schemas ++ ss).map (·.entity)).Nodup) :
    r.attemptAll ss = ⟨r.schemas ++ ss⟩ := by
  induction ss generalizing r with
  | nil => simp
  | cons s ss ih =>
    have hnew : r.get? s.entity = none := by
      rw [get?_eq_none_iff]
      intro hmem
      rw [List.map_append, List.nodup_append] at hdistinct
      exact hdistinct.2.2 _ hmem _ (by simp) rfl
    have hs : r.attempt s = ⟨r.schemas ++ [s]⟩ :=
      attempt_of_ok (register_eq_ok_iff.mpr ⟨hvalid s List.mem_cons_self, hnew, rfl⟩)
    rw [attemptAll_cons, hs, ih (fun t ht => hvalid t (List.mem_cons_of_mem _ ht))]
    · simp
    · simpa using hdistinct

/-! ## What depends on an entity -/

/-- Two registries answer alike whatever is asked of an entity. -/
structure AgreeOn (r r' : Registry) (entity : String) : Prop where
  get? : r.get? entity = r'.get? entity
  resolve : ∀ path, r.resolve entity path = r'.resolve entity path
  compile : ∀ q, r.compile entity q = r'.compile entity q
  compileAllowed : ∀ d q, r.compileAllowed d entity q = r'.compileAllowed d entity q

/-- What is asked of an entity depends on its schema alone. -/
theorem AgreeOn.of_get? (h : r.get? entity = r'.get? entity) : r.AgreeOn r' entity := by
  have hresolve : r.resolve entity = r'.resolve entity := by
    funext path
    unfold Registry.resolve
    rw [h]
  have hfield : r.resolveField entity = r'.resolveField entity := by
    funext field
    unfold resolveField
    rw [hresolve]
  have hclauses (cs : List Clause) :
      Clause.compileAll r entity cs = Clause.compileAll r' entity cs := by
    induction cs with
    | nil => rfl
    | cons c cs ih =>
      rw [Clause.compileAll, Clause.compileAll, ih, Clause.compile, Clause.compile, hfield]
  have hcompile (q : Request) : r.compile entity q = r'.compile entity q := by
    unfold Registry.compile orderBy? sortKey
    rw [hclauses, hfield]
  exact ⟨h, congrFun hresolve, hcompile, fun d q => hcompile (d.stripRequest q)⟩

/-! ## The history of a registry -/

/-- **What registering leaves behind.** After any calls on the empty registry,
each entity has the first valid schema that was offered for it, every schema is
valid and the one of its entity, and the schemas are as many as the calls that
succeeded. The next call fails exactly on a malformed schema or on an entity
with a valid schema before, with the code of the first whenever the schema is
malformed, and a call that fails might as well not have been made. What is asked
of a registered entity has the same answer after any further calls, and valid
schemas of different entities give the same registry in any order. -/
theorem registry_holds_first_valid (ss : List EntitySchema) :
    (∀ entity, (empty.attemptAll ss).get? entity =
      ss.find? fun s => s.entity = entity ∧ s.structureError? = none) ∧
    (∀ s ∈ (empty.attemptAll ss).schemas, s.structureError? = none ∧
      (empty.attemptAll ss).get? s.entity = some s) ∧
    (empty.attemptAll ss).size = (empty.answers ss).countP (·.isOk) ∧
    (∀ s, (∃ e, (empty.attemptAll ss).register s = .error e) ↔
      s.structureError? ≠ none ∨ ∃ t ∈ ss, t.entity = s.entity ∧ t.structureError? = none) ∧
    (∀ s e, (empty.attemptAll ss).register s = .error e →
      e.code = (if s.structureError? = none then "QG_DUPLICATE_ENTITY" else "QG_MALFORMED_SCHEMA") ∧
      ∀ later, empty.attemptAll (ss ++ s :: later) = empty.attemptAll (ss ++ later)) ∧
    (∀ entity s, (empty.attemptAll ss).get? entity = some s →
      ∀ later, (empty.attemptAll ss).AgreeOn (empty.attemptAll (ss ++ later)) entity) ∧
    (∀ ss', ss.Perm ss' → (∀ s ∈ ss, s.structureError? = none) → (ss.map (·.entity)).Nodup →
      (empty.attemptAll ss).schemas.Perm (empty.attemptAll ss').schemas ∧
      ∀ entity, (empty.attemptAll ss).AgreeOn (empty.attemptAll ss') entity) := by
  have hfirst (ss : List EntitySchema) (entity : String) : (empty.attemptAll ss).get? entity =
      ss.find? fun s => s.entity = entity ∧ s.structureError? = none := by
    rw [get?_attemptAll, get?_empty, Option.none_or]
  have hwell (ss : List EntitySchema) : (empty.attemptAll ss).WellFormed :=
    wellFormed_empty.attemptAll ss
  refine ⟨hfirst ss, ?stored, ?count, ?fails, ?failed, ?frame, ?order⟩
  case stored =>
    intro s hs
    exact ⟨(hwell ss).valid s hs, (hwell ss).get?_eq_some_iff.mpr ⟨hs, rfl⟩⟩
  case count =>
    rw [size_attemptAll]
    exact Nat.zero_add _
  case fails =>
    intro s
    have hknown : (∃ t, (empty.attemptAll ss).get? s.entity = some t) ↔
        ∃ t ∈ ss, t.entity = s.entity ∧ t.structureError? = none := by
      simp only [hfirst, ← Option.isSome_iff_exists, List.find?_isSome, decide_eq_true_eq]
    rw [← hknown]
    rcases (empty.attemptAll ss).register_cases s with ⟨e, he, h⟩ | ⟨hs, ht, h⟩ | ⟨hs, hr, h⟩
    · simp [h, he]
    · simp [h, ht]
    · simp [h, hs, hr]
  case failed =>
    intro s e he
    constructor
    · rcases (empty.attemptAll ss).register_cases s with ⟨d, hd, h⟩ | ⟨hs, -, h⟩ | ⟨-, -, h⟩
      · cases he.symm.trans h
        simp [hd, SchemaError.code]
      · cases he.symm.trans h
        simp [hs, SchemaError.code]
      · cases he.symm.trans h
    · intro later
      rw [attemptAll_append, attemptAll_append, attemptAll_cons, attempt_of_error he]
  case frame =>
    intro entity s hs later
    apply AgreeOn.of_get?
    rw [attemptAll_append, get?_attemptAll (empty.attemptAll ss), hs, Option.some_or]
  case order =>
    intro ss' hperm hvalid hdistinct
    have hvalid' : ∀ s ∈ ss', s.structureError? = none :=
      fun s hs => hvalid s (hperm.mem_iff.mpr hs)
    have hdistinct' : (ss'.map (·.entity)).Nodup := (hperm.map _).nodup hdistinct
    have hschemas : (empty.attemptAll ss).schemas.Perm (empty.attemptAll ss').schemas := by
      rw [attemptAll_of_valid (r := empty) hvalid hdistinct,
        attemptAll_of_valid (r := empty) hvalid' hdistinct']
      exact hperm
    exact ⟨hschemas,
      fun entity => .of_get? ((hwell ss).get?_eq_of_perm (hwell ss') hschemas entity)⟩

end Registry

end DocSieve
