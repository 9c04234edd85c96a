-- SUMMARY: Documents that conform to a schema, and the agreement of walking through the schema with walking through such a document.
import DocSieve.Proofs.Filter.Algebra

/-!
# Conforming documents

A document conforms to a schema when its members are exactly the declared
fields and each holds a value of its declared type, nested objects included.
The same names then lead through both: to a declaration in the schema if and
only if to a value in the document, and the value is one of the declared type.
-/

namespace DocSieve

open Json

/-- The value is one of the type. An object has exactly the members that are
declared. -/
inductive FieldType.Describes : FieldType → Value → Prop where
  /-- A text, an integer of 64 bits, or the text of an instant. -/
  | stored {t : FieldType} {x : Value} : t.Stores x → Describes t x
  | bool (b : Bool) : Describes .bool (.bool b)
  | float (n : Number) : Describes .float (.number n)
  | object {fields : List (String × FieldType)} {members : List (String × Value)} :
      (∀ n, (fields.lookup n).isSome = (members.lookup n).isSome) →
      (∀ n t x, fields.lookup n = some t → members.lookup n = some x → Describes t x) →
      Describes (.object fields) (.object members)

/-- The document conforms to the schema. -/
def EntitySchema.ConformsTo (s : EntitySchema) (document : Value) : Prop :=
  (FieldType.object s.fields).Describes document

variable {fields : List (String × FieldType)} {names : List String} {t : FieldType}
  {v x document : Value}

/-! ## One step -/

namespace FieldType.Describes

/-- The declared field of that name has a value of its type. -/
theorem exists_member {n : String} (h : (FieldType.object fields).Describes v)
    (hn : fields.lookup n = some t) :
    ∃ members x, v = .object members ∧ members.lookup n = some x ∧ t.Describes x := by
  cases h with
  | stored h => exact h.elim
  | @object _ members hsame hmembers =>
    have hsome : (members.lookup n).isSome = true := by rw [← hsame n, hn]; rfl
    obtain ⟨x, hx⟩ := Option.isSome_iff_exists.mp hsome
    exact ⟨members, x, rfl, hx, hmembers n t x hn hx⟩

/-- The member of that name is a declared field, and its value is of its type. -/
theorem exists_field {n : String} {members : List (String × Value)}
    (h : (FieldType.object fields).Describes (.object members)) (hn : members.lookup n = some x) :
    ∃ t, fields.lookup n = some t ∧ t.Describes x := by
  cases h with
  | stored h => exact h.elim
  | object hsame hmembers =>
    have hsome : (fields.lookup n).isSome = true := by rw [hsame n, hn]; rfl
    obtain ⟨t, ht⟩ := Option.isSome_iff_exists.mp hsome
    exact ⟨t, ht, hmembers n t x ht hn⟩

/-- Only the value of an object field has members. -/
theorem eq_object {members : List (String × Value)} (h : t.Describes (.object members)) :
    ∃ inner, t = .object inner := by
  cases h with
  | object => exact ⟨_, rfl⟩
  | stored h =>
    cases t with
    | text => obtain ⟨_, ⟨⟩⟩ := h
    | integerId => obtain ⟨_, ⟨⟩, -⟩ := h
    | timestamp => obtain ⟨_, _, ⟨⟩, -⟩ := h
    | bool | float | object => exact h.elim

/-- Objects conform member by member. -/
theorem object_cons {n : String} {members : List (String × Value)} (ht : t.Describes x)
    (h : (FieldType.object fields).Describes (.object members)) :
    (FieldType.object ((n, t) :: fields)).Describes (.object ((n, x) :: members)) := by
  cases h with
  | stored h => exact h.elim
  | object hsame hmembers =>
    refine .object (fun m => ?_) (fun m u y hu hy => ?_)
    · by_cases hm : m = n
      · simp [hm]
      · simpa [List.lookup_cons, beq_false_of_ne hm] using hsame m
    · by_cases hm : m = n
      · simp only [hm, List.lookup_cons_self, Option.some.injEq] at hu hy
        exact hu ▸ hy ▸ ht
      · simp only [List.lookup_cons, beq_false_of_ne hm] at hu hy
        exact hmembers m u y hu hy

/-! ## Both walks -/

/-- Names that lead to a declaration lead to a value of its type. -/
theorem reaches_of_declares (h : (FieldType.object fields).Describes v)
    (ht : Declares fields names t) : ∃ x, FieldPath.Reaches v names x ∧ t.Describes x := by
  induction ht generalizing v with
  | field hn =>
    obtain ⟨members, x, rfl, hx, hdescribes⟩ := h.exists_member hn
    exact ⟨x, .member hx .here, hdescribes⟩
  | nested hn _ ih =>
    obtain ⟨members, w, rfl, hw, hdescribes⟩ := h.exists_member hn
    obtain ⟨x, hx, hdescribes⟩ := ih hdescribes
    exact ⟨x, .member hw hx, hdescribes⟩

/-- Names that lead to a value lead to a declaration that it is a value of. -/
theorem declares_of_reaches (h : (FieldType.object fields).Describes v) (hnames : names ≠ [])
    (hx : FieldPath.Reaches v names x) : ∃ t, Declares fields names t ∧ t.Describes x := by
  induction hx generalizing fields with
  | here => exact absurd rfl hnames
  | @member members n names w x hn hx ih =>
    obtain ⟨t, ht, hdescribes⟩ := h.exists_field hn
    cases names with
    | nil =>
      cases hx
      exact ⟨t, .field ht, hdescribes⟩
    | cons m names =>
      -- the walk goes on below `w`, so `w` is an object and `t` an object field
      cases hx with
      | member hm hx =>
        obtain ⟨inner, rfl⟩ := hdescribes.eq_object
        obtain ⟨u, hu, hdescribes⟩ := ih hdescribes (by simp)
        exact ⟨u, .nested ht hu, hdescribes⟩

end FieldType.Describes

/-! ## Conditions -/

/-- The type of the values that a condition judges. -/
def Condition.type : Condition → FieldType
  | .text _ _ _ => .text
  | .timestamp _ _ => .timestamp
  | .integer _ _ => .integerId

theorem ResolvedField.condition_type {path : FieldPath} {op : Operator} {value : String}
    {other : Option String} {k : Condition}
    (h : (ResolvedField.mk t.semantic path).condition op value other = .ok k) : k.type = t := by
  cases t with
  | text =>
    simp only [condition, FieldType.semantic] at h
    split at h <;> cases h
    rfl
  | timestamp | integerId =>
    obtain ⟨cmp, -, rfl⟩ := Except.map_eq_ok_iff.mp h
    rfl
  | bool | float | object => cases h

theorem Condition.describes_type {k : Condition} (h : k.type.Describes x) : k.type.Stores x := by
  cases k <;> cases h <;> assumption

/-- A condition looks at a field that is declared with the type that it judges. -/
theorem Clause.compile_declares {r : Registry} {entity : String} {c : Clause} {k : Condition}
    (h : c.compile r entity = .ok k) : r.Declares entity k.field.segments k.type := by
  rcases c.compile_cases r entity with
    ⟨op, value, names, t, -, -, -, -, -, -, ht, hc⟩ | ⟨-, e, he, -⟩
  · have hk := hc.symm.trans h
    rw [ResolvedField.condition_field hk, ResolvedField.condition_type hk]
    exact ht
  · cases he.symm.trans h

/-! ## Agreement -/

namespace EntitySchema

/-- **Both walks end alike.** On a conforming document a path leads to a value of
the declared type if it resolves, and nowhere if it does not. So a condition of a
clause that compiles always finds a value of the type that it judges. -/
theorem resolve_agrees_with_lookup {s : EntitySchema} {document : Value}
    (h : s.ConformsTo document) :
    (∀ p : FieldPath, p.segments ≠ [] →
      (∀ f, s.resolve p = .ok f → ∃ t x, Declares s.fields p.segments t ∧ f = ⟨t.semantic, p⟩ ∧
        p.lookup document = some x ∧ t.Describes x) ∧
      ∀ e, s.resolve p = .error e → p.lookup document = none) ∧
    ∀ (r : Registry) (entity : String), r.get? entity = some s →
      ∀ (c : Clause) (k : Condition), c.compile r entity = .ok k →
        ∃ x, k.field.lookup document = some x ∧ k.type.Stores x := by
  refine ⟨fun p hp => ⟨fun f hf => ?_, fun e he => ?_⟩, fun r entity hr c k hk => ?_⟩
  · obtain ⟨t, ht, rfl⟩ := walk_eq_ok_iff.mp hf
    obtain ⟨x, hx, hdescribes⟩ := h.reaches_of_declares ht
    exact ⟨t, x, ht, rfl, FieldPath.reaches_iff_follow.mp hx, hdescribes⟩
  · rw [Option.eq_none_iff_forall_ne_some]
    intro x hx
    obtain ⟨t, ht, -⟩ := h.declares_of_reaches hp (FieldPath.reaches_iff_follow.mpr hx)
    cases he.symm.trans (walk_eq_ok_iff.mpr ⟨t, ht, rfl⟩)
  · obtain ⟨s', hs', ht⟩ := Clause.compile_declares hk
    cases hr.symm.trans hs'
    obtain ⟨x, hx, hdescribes⟩ := h.reaches_of_declares ht
    exact ⟨x, FieldPath.reaches_iff_follow.mp hx, Condition.describes_type hdescribes⟩

/-- Staff have a name and a job with a grade and a date. -/
def staffWithJobs : EntitySchema :=
  ⟨"staff", none, [("name", .text), ("job", .object [("grade", .integerId), ("since", .timestamp)])]⟩

/-- A record of the staff, whose date is given with an offset. -/
def adasRecord : Value :=
  .object [("name", .string "Ada"),
    ("job", .object [("grade", .int 3), ("since", .string "2024-07-15T23:30:00-05:30")])]

theorem staffWithJobs_conformsTo : staffWithJobs.ConformsTo adasRecord := by
  have hempty : (FieldType.object []).Describes (.object []) := .object (fun _ => rfl) nofun
  have hgrade : FieldType.integerId.Stores (.int 3) := ⟨3, rfl, by decide⟩
  have hsince : FieldType.timestamp.Stores (.string "2024-07-15T23:30:00-05:30") :=
    ⟨_, ⟨1721106000, 0⟩, rfl, by decide +kernel⟩
  have hjob := FieldType.Describes.object_cons (n := "grade") (.stored hgrade)
    (.object_cons (n := "since") (.stored hsince) hempty)
  exact .object_cons (.stored ⟨_, rfl⟩) (.object_cons hjob hempty)

/-- A path to the date, one that goes on behind it, and a clause on the grade. -/
theorem resolve_agrees_with_lookup_staff :
    let registry : Registry := ⟨[staffWithJobs]⟩
    let clause : Clause := ⟨"job.grade", some .between, some "2", some "4"⟩
    staffWithJobs.ConformsTo adasRecord ∧
    (∃ (t : FieldType) (x : Value), staffWithJobs.resolve ⟨["job", "since"]⟩ = .ok ⟨t.semantic, ⟨["job", "since"]⟩⟩ ∧
      FieldPath.lookup ⟨["job", "since"]⟩ adasRecord = some x ∧ t.Describes x) ∧
    staffWithJobs.resolve ⟨["job", "since", "day"]⟩ =
      .error (.notAnObject "staff" "since" "timestamp" ⟨["job", "since", "day"]⟩) ∧
    FieldPath.lookup ⟨["job", "since", "day"]⟩ adasRecord = none ∧
    ∃ k x, clause.compile registry "staff" = .ok k ∧ k.field.lookup adasRecord = some x ∧
      k.type.Stores x := by
  intro registry clause
  obtain ⟨hwalks, hclauses⟩ := resolve_agrees_with_lookup staffWithJobs_conformsTo
  have hok : staffWithJobs.resolve ⟨["job", "since"]⟩ = .ok ⟨.timestamp, ⟨["job", "since"]⟩⟩ := rfl
  have herror : staffWithJobs.resolve ⟨["job", "since", "day"]⟩ =
      .error (.notAnObject "staff" "since" "timestamp" ⟨["job", "since", "day"]⟩) := rfl
  have hcompile : clause.compile registry "staff" =
      .ok (.integer ⟨["job", "grade"]⟩ (.between 2 4)) := by decide +kernel
  obtain ⟨t, x, -, ht, hx, hdescribes⟩ := (hwalks _ (by decide)).1 _ hok
  obtain ⟨y, hy, hstores⟩ := hclauses registry "staff" rfl clause _ hcompile
  exact ⟨staffWithJobs_conformsTo, ⟨t, x, hok.trans (congrArg _ ht), hx, hdescribes⟩, herror,
    (hwalks _ (by decide)).2 _ herror, _, y, hcompile, hy, hstores⟩

end EntitySchema

end DocSieve
