-- SUMMARY: Registered schemas: what a registry takes in, and which of the declared fields a dotted text reaches.
import DocSieve.Proofs.Except
import DocSieve.Proofs.Schema.Declaration

/-!
# Registered schemas

A registry takes in a schema whose field names are neither empty nor dotted, so
the names that lead to a declared field can be told apart again once they are
joined with dots. The text of a path asks for more than that: none of its names
is blank. A field below a blank name is taken in and never reached.
-/

namespace DocSieve

/-! ## Field names -/

theorem mem_of_lookup {α : Type} {members : List (String × α)} {n : String} {a : α}
    (h : members.lookup n = some a) : (n, a) ∈ members := by
  obtain ⟨before, after, rfl, -⟩ := List.lookup_eq_some_iff.mp h
  simp

theorem isFieldName_iff {n : String} : isFieldName n = true ↔ n ≠ "" ∧ '.' ∉ n.toList := by
  simp [isFieldName]

theorem badNameIn?_eq_none_iff {fields : List (String × FieldType)} :
    badNameIn? fields = none ↔
      ∀ f ∈ fields, isFieldName f.1 = true ∧ f.2.badName? = none := by
  induction fields with
  | nil => simp [badNameIn?]
  | cons f fields ih =>
    obtain ⟨n, t⟩ := f
    rw [List.forall_mem_cons, ← ih, badNameIn?]
    by_cases hn : isFieldName n = true
    · simp [hn]
    · simp [hn]

/-- Every name on the way to a declared field is a field name. -/
theorem Declares.isFieldName {fields : List (String × FieldType)} {names : List String}
    {t : FieldType} (ht : Declares fields names t) (hfields : badNameIn? fields = none) :
    ∀ n ∈ names, isFieldName n = true := by
  induction ht with
  | @field fields n t hn =>
    have hgood := badNameIn?_eq_none_iff.mp hfields (n, t) (mem_of_lookup hn)
    intro m hm
    rw [List.mem_singleton.mp hm]
    exact hgood.1
  | @nested fields inner n names t hn _ ih =>
    have hgood := badNameIn?_eq_none_iff.mp hfields (n, .object inner) (mem_of_lookup hn)
    intro m hm
    rcases List.mem_cons.mp hm with rfl | hm
    · exact hgood.1
    · exact ih (by simpa [FieldType.badName?] using hgood.2) m hm

namespace EntitySchema

theorem structureError?_eq_none_iff {s : EntitySchema} :
    s.structureError? = none ↔ Text.isBlank s.entity = false ∧ badNameIn? s.fields = none := by
  unfold structureError?
  by_cases hentity : Text.isBlank s.entity = true
  · simp [hentity]
  · simp [hentity]

end EntitySchema

namespace Registry

variable {r r' : Registry} {s : EntitySchema}

/-! ## Registering -/

/-- A registry takes in a schema of good structure for an entity that it does
not know yet, and keeps the schemas that it has. -/
theorem register_eq_ok_iff :
    r.register s = .ok r' ↔
      s.structureError? = none ∧ r.get? s.entity = none ∧ r' = ⟨r.schemas ++ [s]⟩ := by
  unfold register insert
  cases hs : s.structureError? with
  | some e => simp
  | none =>
    cases hr : r.get? s.entity with
    | some s' => simp
    | none => simp [eq_comm]

/-- A schema that was taken in is the one of its entity. -/
theorem get?_of_register (h : r.register s = .ok r') : r'.get? s.entity = some s := by
  obtain ⟨-, hnew, rfl⟩ := register_eq_ok_iff.mp h
  unfold get? at hnew ⊢
  rw [List.find?_append, hnew]
  simp

/-! ## Declared fields as texts -/

/-- The names that lead to a declared field are spelled by their joined text. -/
theorem dotted_of_register (h : r.register s = .ok r') {names : List String} {t : FieldType}
    (ht : DocSieve.Declares s.fields names t) : Dotted (String.intercalate "." names) names := by
  obtain ⟨hstructure, -, -⟩ := register_eq_ok_iff.mp h
  obtain ⟨-, hfields⟩ := EntitySchema.structureError?_eq_none_iff.mp hstructure
  refine ⟨ht.ne_nil, ?_, rfl⟩
  intro n hn
  exact (isFieldName_iff.mp (ht.isFieldName hfields n hn)).2

/-- **Which declared fields have a text.** The joined names of a declared field
are read as a path exactly if none of them is blank, and the path is then these
names. Their path resolves to the declared type in any case. -/
theorem declared_field_has_text (h : r.register s = .ok r') {names : List String} {t : FieldType}
    (ht : DocSieve.Declares s.fields names t) :
    FieldPath.parse (String.intercalate "." names) =
      (if names.any Text.isBlank then .error (.emptyPath (String.intercalate "." names))
        else .ok ⟨names⟩) ∧
    r'.resolve s.entity ⟨names⟩ = .ok ⟨t.semantic, ⟨names⟩⟩ := by
  constructor
  · have hpieces := dotted_iff.mp (dotted_of_register h ht)
    unfold FieldPath.parse FieldPath.ofText?
    rw [← hpieces]
    by_cases hblank : names.any Text.isBlank = true
    · simp [hblank]
    · simp [hblank]
  · apply resolve_eq_ok_iff.mpr
    exact ⟨t, ⟨s, get?_of_register h, ht⟩, rfl⟩

/-- A field below an object field, whose name has a blank in it. -/
theorem declared_field_has_text_nested :
    let s : EntitySchema := ⟨"staff", none, [("job", .object [("pay grade", .integerId)])]⟩
    empty.register s = .ok ⟨[s]⟩ ∧
    FieldPath.parse "job.pay grade" = .ok ⟨["job", "pay grade"]⟩ ∧
    Registry.resolve ⟨[s]⟩ "staff" ⟨["job", "pay grade"]⟩ =
      .ok ⟨.integerId, ⟨["job", "pay grade"]⟩⟩ := by
  intro s
  have hregister : empty.register s = .ok ⟨[s]⟩ :=
    register_eq_ok_iff.mpr ⟨by decide +kernel, rfl, rfl⟩
  have hdeclares : DocSieve.Declares s.fields ["job", "pay grade"] .integerId :=
    .nested rfl (.field rfl)
  have htext : String.intercalate "." ["job", "pay grade"] = "job.pay grade" := by decide +kernel
  have hblank : ["job", "pay grade"].any Text.isBlank = false := by decide +kernel
  obtain ⟨hparse, hresolve⟩ := declared_field_has_text hregister hdeclares
  rw [htext, hblank] at hparse
  exact ⟨hregister, hparse, hresolve⟩

/-- A field named by one blank is taken in, and its name is no path. -/
theorem blank_field_has_no_text :
    let s : EntitySchema := ⟨"e", none, [(" ", .text)]⟩
    empty.register s = .ok ⟨[s]⟩ ∧ DocSieve.Declares s.fields [" "] .text ∧
      FieldPath.parse (String.intercalate "." [" "]) = .error (.emptyPath " ") :=
  ⟨register_eq_ok_iff.mpr ⟨by decide +kernel, rfl, rfl⟩, .field rfl, by decide +kernel⟩

end Registry

end DocSieve
