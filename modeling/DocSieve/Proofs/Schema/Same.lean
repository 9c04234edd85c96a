-- SUMMARY: Schemas that differ in the order of their fields only, and what does not depend on that order.
import Mathlib.Data.List.Nodup
import DocSieve.Proofs.Schema.Registration

/-!
# The same schema

The fields of an object are a map, and a list of them has an order besides. Two
schemas are the same when only that order tells them apart, in whatever object.
They resolve every path alike and are valid together. Of several names that no
path reaches, the one that is found first may differ.
-/

namespace DocSieve

/-! ## Distinct names -/

mutual

/-- No object of the type declares a name twice. -/
def FieldType.Distinct : FieldType → Prop
  | .object fields => DistinctIn fields
  | _ => True

def DistinctIn : List (String × FieldType) → Prop
  | [] => True
  | (name, t) :: fields => name ∉ fields.map (·.1) ∧ t.Distinct ∧ DistinctIn fields

end

variable {fields fields' : List (String × FieldType)}

theorem distinctIn_iff :
    DistinctIn fields ↔ (fields.map (·.1)).Nodup ∧ ∀ f ∈ fields, f.2.Distinct := by
  induction fields with
  | nil => simp [DistinctIn]
  | cons f fields ih =>
    obtain ⟨name, t⟩ := f
    rw [DistinctIn, ih, List.map_cons, List.nodup_cons, List.forall_mem_cons]
    exact ⟨fun ⟨hname, ht, hnodup, htypes⟩ => ⟨⟨hname, hnodup⟩, ht, htypes⟩,
      fun ⟨⟨hname, hnodup⟩, ht, htypes⟩ => ⟨hname, ht, hnodup, htypes⟩⟩

section Lookup

variable {α : Type} {members members' : List (String × α)} {n : String} {a : α}

theorem lookup_eq_some_iff_of_nodup (h : (members.map (·.1)).Nodup) :
    members.lookup n = some a ↔ (n, a) ∈ members := by
  refine ⟨mem_of_lookup, fun hmem => ?_⟩
  cases hlookup : members.lookup n with
  | none => simpa using List.lookup_eq_none_iff.mp hlookup _ hmem
  | some b =>
    cases List.inj_on_of_nodup_map h hmem (mem_of_lookup hlookup) rfl
    rfl

/-- Among distinct names the order makes no difference to what is found. -/
theorem lookup_eq_of_perm (h : (members.map (·.1)).Nodup) (hperm : members.Perm members')
    (n : String) : members.lookup n = members'.lookup n := by
  have h' : (members'.map (·.1)).Nodup := (hperm.map _).nodup h
  ext a
  rw [lookup_eq_some_iff_of_nodup h, lookup_eq_some_iff_of_nodup h', hperm.mem_iff]

end Lookup

/-! ## The same fields -/

/-- The fields are the same but for their order, inside objects as well. -/
inductive SameFields : List (String × FieldType) → List (String × FieldType) → Prop where
  | perm {fields fields' : List (String × FieldType)} : fields.Perm fields' →
      SameFields fields fields'
  | inside {name : String} {inner inner' fields : List (String × FieldType)} :
      SameFields inner inner' →
      SameFields ((name, .object inner) :: fields) ((name, .object inner') :: fields)
  | trans {fields fields' fields'' : List (String × FieldType)} : SameFields fields fields' →
      SameFields fields' fields'' → SameFields fields fields''

namespace SameFields

theorem distinctIn (h : SameFields fields fields') (hdistinct : DistinctIn fields) :
    DistinctIn fields' := by
  induction h with
  | perm hperm =>
    obtain ⟨hnodup, htypes⟩ := distinctIn_iff.mp hdistinct
    exact distinctIn_iff.mpr
      ⟨(hperm.map _).nodup hnodup, fun f hf => htypes f (hperm.mem_iff.mpr hf)⟩
  | inside _ ih =>
    obtain ⟨hname, hinner, hfields⟩ := hdistinct
    exact ⟨hname, ih hinner, hfields⟩
  | trans _ _ ih ih' => exact ih' (ih hdistinct)

theorem badNameIn?_eq_none_iff (h : SameFields fields fields') :
    badNameIn? fields' = none ↔ badNameIn? fields = none := by
  induction h with
  | perm hperm => simp only [DocSieve.badNameIn?_eq_none_iff, hperm.mem_iff]
  | inside _ ih =>
    simp only [DocSieve.badNameIn?_eq_none_iff, List.forall_mem_cons, FieldType.badName?] at ih ⊢
    rw [ih]
  | trans _ _ ih ih' => exact ih'.trans ih

end SameFields

namespace EntitySchema

variable {s s' : EntitySchema} {path : FieldPath}

/-- Of a schema, a walk uses the entity only. -/
theorem walk_eq_of_entity (h : s'.entity = s.entity) (names : List String)
    (fields : List (String × FieldType)) :
    s'.walk path names fields = s.walk path names fields := by
  induction names generalizing fields with
  | nil => rfl
  | cons n names ih =>
    unfold walk
    rw [h]
    split
    · rfl
    · rfl
    · exact ih _
    · rfl

theorem walk_congr (h : ∀ n, fields.lookup n = fields'.lookup n) (names : List String) :
    s.walk path names fields = s.walk path names fields' := by
  cases names with
  | nil => rfl
  | cons n names =>
    unfold walk
    rw [h n]

theorem walk_eq_of_sameFields (h : SameFields fields fields') (hdistinct : DistinctIn fields)
    (names : List String) : s.walk path names fields = s.walk path names fields' := by
  induction h generalizing names with
  | perm hperm => exact walk_congr (lookup_eq_of_perm (distinctIn_iff.mp hdistinct).1 hperm) names
  | @inside name inner inner' fields _ ih =>
    obtain ⟨-, hinner, -⟩ := hdistinct
    cases names with
    | nil => rfl
    | cons n names =>
      by_cases hn : n = name
      · subst hn
        unfold walk
        simp only [List.lookup_cons_self]
        cases names with
        | nil => rfl
        | cons m names => exact ih hinner (m :: names)
      · unfold walk
        simp only [List.lookup_cons, beq_false_of_ne hn]
  | trans h _ ih ih' => exact (ih hdistinct names).trans (ih' (h.distinctIn hdistinct) names)

/-- The names of each object are distinct. -/
def Distinct (s : EntitySchema) : Prop := DistinctIn s.fields

/-- The schemas differ in the order of fields at most. -/
structure Same (s s' : EntitySchema) : Prop where
  entity : s'.entity = s.entity
  description : s'.description = s.description
  fields : SameFields s.fields s'.fields

namespace Same

theorem refl : s.Same s := ⟨rfl, rfl, .perm .rfl⟩

theorem distinct (h : s.Same s') (hdistinct : s.Distinct) : s'.Distinct :=
  h.fields.distinctIn hdistinct

theorem resolve_eq (h : s.Same s') (hdistinct : s.Distinct) (path : FieldPath) :
    s'.resolve path = s.resolve path := by
  rw [resolve, resolve, walk_eq_of_entity h.entity, walk_eq_of_sameFields h.fields hdistinct]

theorem valid_iff (h : s.Same s') : s'.structureError? = none ↔ s.structureError? = none := by
  rw [structureError?_eq_none_iff, structureError?_eq_none_iff, h.entity,
    h.fields.badNameIn?_eq_none_iff]

theorem unnamed_iff (h : s.Same s') :
    s'.structureError? = some .unnamedEntity ↔ s.structureError? = some .unnamedEntity := by
  simp [structureError?, h.entity]

end Same

end EntitySchema

end DocSieve
