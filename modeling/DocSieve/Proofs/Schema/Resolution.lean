-- SUMMARY: Resolving a path follows it to its declaration, or fails at the first name that cannot be passed, with the error for that name.
import Mathlib.Logic.ExistsUnique
import DocSieve.Proofs.Except
import DocSieve.Proofs.Schema.Declaration

/-!
# Where a path stops

A path either leads to a declaration or has a first name that stops it: one that
is not declared at its level, or one with names behind it whose field is no
object. `StopsAt` says so without an error and without an order of checks. The
walk over the names ends at the declaration or at that name, and the error it
gives says which of the two reasons it is.
-/

namespace DocSieve

/-! ## The name that stops a path -/

/-- The names before position `k` lead through object fields to `level`, and the
name `n` at that position cannot be passed. -/
inductive StopsAt : List (String × FieldType) → List String → Nat →
    List (String × FieldType) → String → Prop where
  | undeclared {level : List (String × FieldType)} {n : String} {names : List String} :
      level.lookup n = none → StopsAt level (n :: names) 0 level n
  | noObject {level : List (String × FieldType)} {n : String} {names : List String}
      {t : FieldType} :
      level.lookup n = some t → (∀ inner, t ≠ .object inner) → names ≠ [] →
        StopsAt level (n :: names) 0 level n
  | inside {fields inner level : List (String × FieldType)} {m n : String} {names : List String}
      {k : Nat} :
      fields.lookup m = some (.object inner) → StopsAt inner names k level n →
        StopsAt fields (m :: names) (k + 1) level n

section Stops

variable {fields level level' : List (String × FieldType)} {names : List String} {k k' : Nat}
  {n n' : String}

theorem StopsAt.getElem? (h : StopsAt fields names k level n) : names[k]? = some n := by
  induction h with
  | undeclared | noObject => rfl
  | inside _ _ ih => exact ih

/-- A path stops at one name only. -/
theorem StopsAt.unique (h : StopsAt fields names k level n)
    (h' : StopsAt fields names k' level' n') : k = k' := by
  induction h generalizing k' with
  | undeclared hn =>
    cases h' with
    | undeclared | noObject => rfl
    | inside hm => cases hn.symm.trans hm
  | noObject hn hscalar =>
    cases h' with
    | undeclared | noObject => rfl
    | inside hm => exact absurd (Option.some.inj (hn.symm.trans hm)) (hscalar _)
  | inside hm _ ih =>
    cases h' with
    | undeclared hn => cases hn.symm.trans hm
    | noObject hn hscalar => exact absurd (Option.some.inj (hn.symm.trans hm)) (hscalar _)
    | inside hm' h' =>
      cases hm.symm.trans hm'
      rw [ih h']

/-- Names lead to a declaration unless one of them stops the path. -/
theorem exists_declares_or_stopsAt (hne : names ≠ []) :
    (∃ t, Declares fields names t) ∨ ∃ k level n, StopsAt fields names k level n := by
  induction names generalizing fields with
  | nil => exact absurd rfl hne
  | cons n names ih =>
    cases hn : fields.lookup n with
    | none => exact .inr ⟨0, fields, n, .undeclared hn⟩
    | some t =>
      by_cases hlast : names = []
      · subst hlast
        exact .inl ⟨t, .field hn⟩
      · cases t with
        | object inner =>
          rcases @ih inner hlast with ⟨t, ht⟩ | ⟨k, level, m, hm⟩
          · exact .inl ⟨t, .nested hn ht⟩
          · exact .inr ⟨k + 1, level, m, .inside hn hm⟩
        | _ => exact .inr ⟨0, fields, n, .noObject hn (by simp) hlast⟩

end Stops

/-! ## Errors -/

/-- The message shows the name of the field and the path. -/
def SchemaError.Shows (e : SchemaError) (name path : String) : Prop :=
  ∃ between, e.message = "Field '" ++ name ++ "' " ++ between ++ "(path '" ++ path ++ "')"

theorem SchemaError.unknownField_shows (entity n : String) (path : FieldPath) :
    (unknownField entity n path).Shows n path.toText := by
  have hmessage : (unknownField entity n path).message = "Field '" ++ n ++
      "' does not exist on '" ++ entity ++ "' (path '" ++ path.toText ++ "')" := rfl
  have hname : "' does not exist on '" = "' " ++ "does not exist on '" := by simp
  have hpath : "' (path '" = "' " ++ "(path '" := by simp
  refine ⟨"does not exist on '" ++ entity ++ "' ", ?_⟩
  simp only [hmessage, hname, hpath, String.append_assoc]

theorem SchemaError.notAnObject_shows (entity n typeName : String) (path : FieldPath) :
    (notAnObject entity n typeName path).Shows n path.toText := by
  have hmessage : (notAnObject entity n typeName path).message = "Field '" ++ n ++ "' on '" ++
      entity ++ "' is of type " ++ typeName ++ " and has no nested fields (path '" ++
      path.toText ++ "')" := rfl
  have hname : "' on '" = "' " ++ "on '" := by simp
  have hpath : " and has no nested fields (path '" = " and has no nested fields " ++ "(path '" := by
    simp
  refine ⟨"on '" ++ entity ++ "' is of type " ++ typeName ++ " and has no nested fields ", ?_⟩
  simp only [hmessage, hname, hpath, String.append_assoc]

/-- A path that is read from a text has the names that the text spells. -/
theorem FieldPath.dotted_of_parse {text : String} {p : FieldPath}
    (h : FieldPath.parse text = .ok p) : Dotted text p.segments :=
  (FieldPath.parse_eq_ok_iff.mp h).1

namespace EntitySchema

variable {s : EntitySchema} {path : FieldPath} {fields level : List (String × FieldType)}
  {names : List String} {k : Nat} {n text : String}

/-- The walk ends at the name that stops the path, with the error for the reason. -/
theorem walk_of_stopsAt (h : StopsAt fields names k level n) :
    level.lookup n = none ∧ s.walk path names fields = .error (.unknownField s.entity n path) ∨
    ∃ t, level.lookup n = some t ∧ k + 1 < names.length ∧ (∀ inner, t ≠ .object inner) ∧
      s.walk path names fields = .error (.notAnObject s.entity n t.name path) := by
  induction h with
  | undeclared hn => exact .inl ⟨hn, by simp [walk, hn]⟩
  | @noObject level n names t hn hscalar hnames =>
    refine .inr ⟨t, hn, ?_, hscalar, ?_⟩
    · have := List.length_pos_iff.mpr hnames
      simp only [List.length_cons]
      omega
    · obtain ⟨m, rest, rfl⟩ := List.exists_cons_of_ne_nil hnames
      cases t with
      | object inner => exact absurd rfl (hscalar inner)
      | _ => simp [walk, hn]
  | @inside fields inner level m n names k hm hstops ih =>
    have hnames : names ≠ [] := by
      rintro rfl
      cases hstops
    have hwalk : s.walk path (m :: names) fields = s.walk path names inner := by
      cases names with
      | nil => exact absurd rfl hnames
      | cons n names => simp [walk, hm]
    rw [hwalk]
    rcases ih with hunknown | ⟨t, hn, hlength, hscalar, herror⟩
    · exact .inl hunknown
    · exact .inr ⟨t, hn, by simpa using hlength, hscalar, herror⟩

/-- **Resolving a path is exact.** It succeeds if and only if the names lead
through object fields to a declaration, and gives the type of that and the path.
It fails if and only if one name is the first that cannot be passed. The error
then says that this name is unknown exactly if it is not declared at its level,
and that it is no object exactly if it is declared, is not the last name and is
no object. It shows the name and the whole path. The path is never too short to
have a last name, and never runs out. -/
theorem resolve_exact (hp : FieldPath.parse text = .ok path) (s : EntitySchema) :
    0 < path.segments.length ∧
    (∀ f, s.resolve path = .ok f ↔
      ∃ t, Declares s.fields path.segments t ∧ f = ⟨t.semantic, path⟩) ∧
    ((∃ e, s.resolve path = .error e) ↔
      ∃! k, ∃ level n, StopsAt s.fields path.segments k level n) ∧
    (∀ k level n, StopsAt s.fields path.segments k level n →
      path.segments[k]? = some n ∧ ∃ e, s.resolve path = .error e ∧
        (e.code = "QG_UNKNOWN_FIELD" ↔ level.lookup n = none) ∧
        (e.code = "QG_NOT_AN_OBJECT" ↔ ∃ t, level.lookup n = some t ∧
          k + 1 < path.segments.length ∧ ∀ inner, t ≠ .object inner) ∧
        e.Shows n text) ∧
    ∀ e, s.resolve path = .error e → e.code ≠ "QG_EMPTY_PATH" := by
  have hdot := FieldPath.dotted_of_parse hp
  have herror (k : Nat) (level : List (String × FieldType)) (n : String)
      (h : StopsAt s.fields path.segments k level n) : ∃ e, s.resolve path = .error e ∧
        (e.code = "QG_UNKNOWN_FIELD" ↔ level.lookup n = none) ∧
        (e.code = "QG_NOT_AN_OBJECT" ↔ ∃ t, level.lookup n = some t ∧
          k + 1 < path.segments.length ∧ ∀ inner, t ≠ .object inner) ∧
        e.Shows n text ∧ e.code ≠ "QG_EMPTY_PATH" := by
    rw [← hdot.joined]
    rcases walk_of_stopsAt h with ⟨hn, hwalk⟩ | ⟨t, hn, hlength, hscalar, hwalk⟩
    · exact ⟨_, hwalk, by simp [SchemaError.code, hn], by simp [SchemaError.code, hn],
        SchemaError.unknownField_shows _ _ _, by simp [SchemaError.code]⟩
    · exact ⟨_, hwalk, by simp [SchemaError.code, hn],
        iff_of_true rfl ⟨t, hn, hlength, hscalar⟩,
        SchemaError.notAnObject_shows _ _ _ _, by simp [SchemaError.code]⟩
  have hok (f : ResolvedField) : s.resolve path = .ok f ↔
      ∃ t, Declares s.fields path.segments t ∧ f = ⟨t.semantic, path⟩ := walk_eq_ok_iff
  have hstops {e : SchemaError} (he : s.resolve path = .error e) :
      ∃ k level n, StopsAt s.fields path.segments k level n := by
    refine (exists_declares_or_stopsAt hdot.ne_nil).resolve_left ?_
    rintro ⟨t, ht⟩
    cases he.symm.trans ((hok _).mpr ⟨t, ht, rfl⟩)
  refine ⟨List.length_pos_iff.mpr hdot.ne_nil, hok, ?fails, ?error, ?never⟩
  case fails =>
    constructor
    · rintro ⟨e, he⟩
      obtain ⟨k, level, n, h⟩ := hstops he
      exact ⟨k, ⟨level, n, h⟩, fun k' ⟨level', n', h'⟩ => h'.unique h⟩
    · rintro ⟨k, ⟨level, n, h⟩, -⟩
      obtain ⟨e, he, -⟩ := herror k level n h
      exact ⟨e, he⟩
  case error =>
    intro k level n h
    obtain ⟨e, he, hunknown, hobject, hshows, -⟩ := herror k level n h
    exact ⟨h.getElem?, e, he, hunknown, hobject, hshows⟩
  case never =>
    intro e he
    obtain ⟨k, level, n, h⟩ := hstops he
    obtain ⟨e', he', -, -, -, hnever⟩ := herror k level n h
    cases he.symm.trans he'
    exact hnever

/-- A path that goes on behind a field that is no object, one with a name that is
not declared, and one that leads to a field. -/
theorem resolve_exact_staff :
    let s : EntitySchema := ⟨"staff", none, [("job", .object [("title", .text), ("pay", .float)])]⟩
    s.resolve ⟨["job", "title"]⟩ = .ok ⟨.text, ⟨["job", "title"]⟩⟩ ∧
    (∃ e, s.resolve ⟨["job", "pay", "net"]⟩ = .error e ∧ e.code = "QG_NOT_AN_OBJECT" ∧
      e.Shows "pay" "job.pay.net") ∧
    ∃ e, s.resolve ⟨["job", "level", "name"]⟩ = .error e ∧ e.code = "QG_UNKNOWN_FIELD" ∧
      e.Shows "level" "job.level.name" := by
  intro s
  have htitle : FieldPath.parse "job.title" = .ok ⟨["job", "title"]⟩ :=
    Except.toOption_eq_some_iff.mp (by decide +kernel)
  have hpay : FieldPath.parse "job.pay.net" = .ok ⟨["job", "pay", "net"]⟩ :=
    Except.toOption_eq_some_iff.mp (by decide +kernel)
  have hlevel : FieldPath.parse "job.level.name" = .ok ⟨["job", "level", "name"]⟩ :=
    Except.toOption_eq_some_iff.mp (by decide +kernel)
  obtain ⟨-, hok, -⟩ := resolve_exact htitle s
  obtain ⟨-, -, -, herror, -⟩ := resolve_exact hpay s
  obtain ⟨-, e, he, -, hobject, hshows⟩ := herror 1 _ "pay"
    (.inside rfl (.noObject rfl (by simp) (by simp)))
  obtain ⟨-, -, -, herror', -⟩ := resolve_exact hlevel s
  obtain ⟨-, e', he', hunknown, -, hshows'⟩ := herror' 1 _ "level" (.inside rfl (.undeclared rfl))
  refine ⟨(hok _).mpr ⟨.text, .nested rfl (.field rfl), rfl⟩,
    ⟨e, he, hobject.mpr ⟨.float, rfl, by decide, by simp⟩, hshows⟩,
    e', he', hunknown.mpr rfl, hshows'⟩

end EntitySchema

end DocSieve
