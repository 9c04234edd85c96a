-- SUMMARY: The fields that a schema declares, nested ones included, and resolving a path as finding its declaration.
import DocSieve.Proofs.Except
import DocSieve.Proofs.Schema.PathText
import DocSieve.Filter.Compile

/-!
# Declared fields

`Declares` says which names lead to which declaration, without an order of
checks and without errors. Resolving a path succeeds on the declared names and
on no others.
-/

namespace DocSieve

/-- Following the names through object fields leads to the declaration of a
field of type `t`. -/
inductive Declares : List (String × FieldType) → List String → FieldType → Prop where
  | field {fields : List (String × FieldType)} {n : String} {t : FieldType} :
      fields.lookup n = some t → Declares fields [n] t
  | nested {fields inner : List (String × FieldType)} {n : String} {names : List String}
      {t : FieldType} :
      fields.lookup n = some (.object inner) → Declares inner names t →
        Declares fields (n :: names) t

theorem Declares.ne_nil {fields : List (String × FieldType)} {names : List String} {t : FieldType}
    (h : Declares fields names t) : names ≠ [] := by
  cases h <;> simp

/-- Names lead to one declaration at most. -/
theorem Declares.unique {fields : List (String × FieldType)} {names : List String}
    {t u : FieldType} (ht : Declares fields names t) (hu : Declares fields names u) : t = u := by
  induction ht with
  | field hn =>
    cases hu with
    | field hm => exact Option.some.inj (hn.symm.trans hm)
    | nested _ hm => exact absurd rfl hm.ne_nil
  | nested hn ht ih =>
    cases hu with
    | field => exact absurd rfl ht.ne_nil
    | nested hm hu =>
      cases hn.symm.trans hm
      exact ih hu

namespace EntitySchema

theorem walk_eq_ok_iff {s : EntitySchema} {path : FieldPath} {names : List String}
    {fields : List (String × FieldType)} {f : ResolvedField} :
    s.walk path names fields = .ok f ↔ ∃ t, Declares fields names t ∧ f = ⟨t.semantic, path⟩ := by
  induction names generalizing fields with
  | nil =>
    constructor
    · intro h; cases h
    · rintro ⟨t, ht, -⟩; exact absurd rfl ht.ne_nil
  | cons n names ih =>
    constructor
    · intro h
      unfold walk at h
      split at h
      · cases h
      · rename_i t hn
        cases h
        exact ⟨t, .field hn, rfl⟩
      · rename_i inner hn _
        obtain ⟨t, ht, rfl⟩ := ih.mp h
        exact ⟨t, .nested hn ht, rfl⟩
      · cases h
    · rintro ⟨t, ht, rfl⟩
      cases ht with
      | field hn => simp [walk, hn]
      | nested hn ht =>
        have hwalk := ih.mpr ⟨t, ht, rfl⟩
        cases names with
        | nil => exact absurd rfl ht.ne_nil
        | cons m names => simpa [walk, hn] using hwalk

end EntitySchema

namespace Registry

/-- The entity has a schema, and the names lead to a field of type `t` in it. -/
def Declares (r : Registry) (entity : String) (names : List String) (t : FieldType) : Prop :=
  ∃ s, r.get? entity = some s ∧ DocSieve.Declares s.fields names t

theorem Declares.unique {r : Registry} {entity : String} {names : List String} {t u : FieldType}
    (ht : r.Declares entity names t) (hu : r.Declares entity names u) : t = u := by
  obtain ⟨s, hs, ht⟩ := ht
  obtain ⟨s', hs', hu⟩ := hu
  cases hs.symm.trans hs'
  exact ht.unique hu

theorem resolve_eq_ok_iff {r : Registry} {entity : String} {p : FieldPath} {f : ResolvedField} :
    r.resolve entity p = .ok f ↔
      ∃ t, r.Declares entity p.segments t ∧ f = ⟨t.semantic, p⟩ := by
  unfold resolve Declares
  cases hs : r.get? entity with
  | none => simp
  | some s => simp [EntitySchema.resolve, EntitySchema.walk_eq_ok_iff]

/-- The field of a clause resolves when its text spells names that are not
blank and lead to a declaration. -/
theorem resolveField_eq_ok_iff {r : Registry} {entity field : String} {f : ResolvedField} :
    r.resolveField entity field = .ok f ↔
      ∃ names t, Dotted field names ∧ (∀ n ∈ names, Text.isBlank n = false) ∧
        r.Declares entity names t ∧ f = ⟨t.semantic, ⟨names⟩⟩ := by
  rw [resolveField, Except.bind_eq_ok_iff]
  constructor
  · rintro ⟨p, hp, hf⟩
    obtain ⟨hdot, hblank⟩ := FieldPath.parse_eq_ok_iff.mp hp
    obtain ⟨t, ht, rfl⟩ := resolve_eq_ok_iff.mp hf
    exact ⟨p.segments, t, hdot, hblank, ht, rfl⟩
  · rintro ⟨names, t, hdot, hblank, ht, rfl⟩
    exact ⟨⟨names⟩, FieldPath.parse_eq_ok_iff.mpr ⟨hdot, hblank⟩,
      resolve_eq_ok_iff.mpr ⟨t, ht, rfl⟩⟩

end Registry

end DocSieve
