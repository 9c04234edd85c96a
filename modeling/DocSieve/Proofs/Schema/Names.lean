-- SUMMARY: Checking a schema finds a bad name wherever there is one, in whatever order the fields of each object are looked at.
import DocSieve.Proofs.Schema.Same

/-!
# Names at every depth

The check of a schema stops at the first bad name. It leaves a field behind only
when the name of the field and all names below it are good, so it misses none,
and what it stops at is a name of the schema. The order of the fields decides
which bad name that is, but not whether there is one.
-/

namespace DocSieve

variable {fields fields' : List (String × FieldType)} {n : String}

/-! ## The names of a schema -/

/-- A field of that name is declared among the fields or below one of them. -/
inductive NameIn : List (String × FieldType) → String → Prop where
  | here {fields : List (String × FieldType)} {n : String} {t : FieldType} :
      (n, t) ∈ fields → NameIn fields n
  | inside {fields inner : List (String × FieldType)} {m n : String} :
      (m, .object inner) ∈ fields → NameIn inner n → NameIn fields n

theorem NameIn.of_subset (h : NameIn fields n) (hsub : fields ⊆ fields') : NameIn fields' n := by
  cases h with
  | here hmem => exact .here (hsub hmem)
  | inside hmem hn => exact .inside (hsub hmem) hn

/-! ## What the check finds -/

theorem isFieldName_eq_false_iff : isFieldName n = false ↔ n = "" ∨ '.' ∈ n.toList := by
  rw [Bool.eq_false_iff, ne_eq, isFieldName_iff, not_and_or, not_not, not_not]

mutual

/-- A bad name that is found in a type is one below it. -/
theorem FieldType.nameIn_of_badName? : ∀ {t : FieldType}, t.badName? = some n →
    (∃ inner, t = .object inner ∧ NameIn inner n) ∧ isFieldName n = false
  | .object inner, h => by
    obtain ⟨hn, hbad⟩ := nameIn_of_badNameIn? h
    exact ⟨⟨inner, rfl, hn⟩, hbad⟩

theorem nameIn_of_badNameIn? : ∀ {fields : List (String × FieldType)},
    badNameIn? fields = some n → NameIn fields n ∧ isFieldName n = false
  | (m, t) :: fields, h => by
    rw [badNameIn?] at h
    split at h
    · rw [Option.orElse_eq_orElse, Option.orElse_eq_or, Option.or_eq_some_iff] at h
      rcases h with ht | ⟨-, hfields⟩
      · obtain ⟨⟨inner, rfl, hn⟩, hbad⟩ := FieldType.nameIn_of_badName? ht
        exact ⟨.inside List.mem_cons_self hn, hbad⟩
      · obtain ⟨hn, hbad⟩ := nameIn_of_badNameIn? hfields
        exact ⟨hn.of_subset (List.subset_cons_self _ _), hbad⟩
    · rename_i hm
      cases h
      exact ⟨.here List.mem_cons_self, Bool.eq_false_iff.mpr hm⟩

end

/-- Where no bad name is found, all names are good. -/
theorem NameIn.isFieldName (h : NameIn fields n) (hfields : badNameIn? fields = none) :
    isFieldName n = true := by
  induction h with
  | here hmem => exact (badNameIn?_eq_none_iff.mp hfields _ hmem).1
  | inside hmem _ ih => exact ih (badNameIn?_eq_none_iff.mp hfields _ hmem).2

theorem badNameIn?_eq_none_iff_forall_nameIn :
    badNameIn? fields = none ↔ ∀ n, NameIn fields n → isFieldName n = true := by
  refine ⟨fun h n hn => hn.isFieldName h, fun h => ?_⟩
  cases hbad : badNameIn? fields with
  | none => rfl
  | some n =>
    obtain ⟨hn, hfalse⟩ := nameIn_of_badNameIn? hbad
    rw [h n hn] at hfalse
    cases hfalse

/-! ## The order of fields -/

theorem SameFields.symm (h : SameFields fields fields') : SameFields fields' fields := by
  induction h with
  | perm hperm => exact .perm hperm.symm
  | inside _ ih => exact .inside ih
  | trans _ _ ih ih' => exact .trans ih' ih

theorem NameIn.of_same (hn : NameIn fields n) (h : SameFields fields fields') :
    NameIn fields' n := by
  induction h with
  | perm hperm => exact hn.of_subset hperm.subset
  | @inside name inner inner' fields _ ih =>
    cases hn with
    | here hmem =>
      rcases List.mem_cons.mp hmem with heq | hmem
      · cases heq
        exact .here List.mem_cons_self
      · exact .here (List.mem_cons_of_mem _ hmem)
    | inside hmem hn =>
      rcases List.mem_cons.mp hmem with heq | hmem
      · cases heq
        exact .inside List.mem_cons_self (ih hn)
      · exact .inside (List.mem_cons_of_mem _ hmem) hn
  | trans _ _ ih ih' => exact ih' (ih hn)

theorem SameFields.nameIn_iff (h : SameFields fields fields') :
    NameIn fields' n ↔ NameIn fields n :=
  ⟨fun hn => hn.of_same h.symm, fun hn => hn.of_same h⟩

/-! ## Schemas -/

namespace EntitySchema

variable {s s' : EntitySchema}

theorem structureError?_eq_invalidFieldName_iff :
    s.structureError? = some (.invalidFieldName n) ↔
      Text.isBlank s.entity = false ∧ badNameIn? s.fields = some n := by
  unfold structureError?
  by_cases hentity : Text.isBlank s.entity = true
  · simp [hentity]
  · simp [hentity]

theorem structureError?_eq_unnamedEntity_iff :
    s.structureError? = some .unnamedEntity ↔ Text.isBlank s.entity = true := by
  unfold structureError?
  by_cases hentity : Text.isBlank s.entity = true
  · simp [hentity]
  · simp [hentity]

/-- **Checking a schema reaches every name.** In whatever order the fields of its
objects come, a schema is valid if and only if the name of its entity is not
blank and no name, at whatever depth, is empty or has a dot in it. It is refused
for its entity exactly if that name is blank. Otherwise it is refused for a name
in it that is empty or has a dot, and the message shows this name. Whether it is
valid does not depend on the order. -/
theorem check_reaches_every_name (h : s.Same s') :
    (s'.structureError? = none ↔ Text.isBlank s.entity = false ∧
      ∀ n, NameIn s.fields n → n ≠ "" ∧ '.' ∉ n.toList) ∧
    (s'.structureError? = some .unnamedEntity ↔ Text.isBlank s.entity = true) ∧
    (∀ e, s'.structureError? = some e → e ≠ .unnamedEntity →
      ∃ n, e.message = "Invalid field name '" ++ n ++ "'" ∧ NameIn s.fields n ∧
        (n = "" ∨ '.' ∈ n.toList)) ∧
    (s'.structureError? = none ↔ s.structureError? = none) := by
  refine ⟨?valid, ?unnamed, ?named, h.valid_iff⟩
  case valid =>
    rw [h.valid_iff, structureError?_eq_none_iff, badNameIn?_eq_none_iff_forall_nameIn]
    simp only [isFieldName_iff]
  case unnamed =>
    rw [h.unnamed_iff, structureError?_eq_unnamedEntity_iff]
  case named =>
    intro e he hne
    cases e with
    | unnamedEntity => exact absurd rfl hne
    | invalidFieldName n =>
      obtain ⟨-, hfound⟩ := structureError?_eq_invalidFieldName_iff.mp he
      obtain ⟨hn, hbad⟩ := nameIn_of_badNameIn? hfound
      exact ⟨n, rfl, h.fields.nameIn_iff.mp hn, isFieldName_eq_false_iff.mp hbad⟩

/-- Two bad names at different depths, of which the order decides which one is
found. -/
theorem check_reaches_every_name_reordered :
    let s : EntitySchema := ⟨"staff", none,
      [("job", .object [("title", .text), ("pay.grade", .integerId)]), ("", .text)]⟩
    let s' : EntitySchema := ⟨"staff", none,
      [("", .text), ("job", .object [("pay.grade", .integerId), ("title", .text)])]⟩
    s.Same s' ∧
    s.structureError? = some (.invalidFieldName "pay.grade") ∧
    s'.structureError? = some (.invalidFieldName "") ∧ s'.structureError? ≠ none ∧
    (∃ n, "Invalid field name ''" = "Invalid field name '" ++ n ++ "'" ∧ NameIn s.fields n ∧
      (n = "" ∨ '.' ∈ n.toList)) ∧
    (∃ n, "Invalid field name 'pay.grade'" = "Invalid field name '" ++ n ++ "'" ∧
      NameIn s.fields n ∧ (n = "" ∨ '.' ∈ n.toList)) := by
  intro s s'
  have hinside : SameFields s.fields
      [("job", .object [("pay.grade", .integerId), ("title", .text)]), ("", .text)] :=
    .inside (.perm (.swap _ _ _))
  have hsame : s.Same s' := ⟨rfl, rfl, hinside.trans (.perm (.swap _ _ _))⟩
  have hs : s.structureError? = some (.invalidFieldName "pay.grade") := by decide +kernel
  have hs' : s'.structureError? = some (.invalidFieldName "") := by decide +kernel
  obtain ⟨-, -, hnamed, hverdict⟩ := check_reaches_every_name hsame
  obtain ⟨-, -, hnamed', -⟩ := check_reaches_every_name (.refl : s.Same s)
  refine ⟨hsame, hs, hs', ?_, hnamed _ hs' nofun, hnamed' _ hs nofun⟩
  rw [ne_eq, hverdict, hs]
  nofun

end EntitySchema

end DocSieve
