-- SUMMARY: Equality of JSON values, in which the order of members has no part.
import Mathlib.Data.List.Forall2
import Mathlib.Data.Option.Defs
import DocSieve.Proofs.Schema.Same

/-!
# The same JSON value

The members of an object are a map, and a list of them has an order besides. Two
values are the same when they are built alike and have, in every object, the same
members under the same names.
-/

namespace DocSieve.Json.Value

/-- The values are equal as JSON values. -/
inductive Same : Value → Value → Prop where
  | null : Same .null .null
  | bool (b : Bool) : Same (.bool b) (.bool b)
  | number (n : Number) : Same (.number n) (.number n)
  | string (s : String) : Same (.string s) (.string s)
  | array {items items' : List Value} : List.Forall₂ Same items items' →
      Same (.array items) (.array items')
  | object {members members' : List (String × Value)} :
      (∀ name, Option.Rel Same (members.lookup name) (members'.lookup name)) →
      Same (.object members) (.object members')

variable {v w : Value} {items items' : List Value} {members members' : List (String × Value)}
  {name name' : String}

theorem Same.refl (v : Value) : v.Same v := by
  match v with
  | .null => exact .null
  | .bool b => exact .bool b
  | .number n => exact .number n
  | .string s => exact .string s
  | .array items =>
    exact .array (List.forall₂_same.mpr fun v hv => refl v)
  | .object members =>
    refine .object fun name => ?_
    cases h : members.lookup name with
    | none => exact .none
    | some v => exact .some (refl v)
termination_by v
decreasing_by
  · have := List.sizeOf_lt_of_mem hv
    simp only [array.sizeOf_spec]
    omega
  · have := List.sizeOf_lt_of_mem (mem_of_lookup h)
    simp only [object.sizeOf_spec, Prod.mk.sizeOf_spec] at this ⊢
    omega

/-- The order of the members makes no difference. -/
theorem Same.of_perm (h : (members.map (·.1)).Nodup) (hperm : members.Perm members') :
    (Value.object members).Same (Value.object members') := by
  refine .object fun name => ?_
  rw [lookup_eq_of_perm h hperm]
  cases members'.lookup name with
  | none => exact .none
  | some v => exact .some (.refl v)

/-! ## What the same values have in common -/

theorem Same.array_iff :
    (Value.array items).Same (Value.array items') ↔ List.Forall₂ Same items items' := by
  constructor
  · intro h
    cases h with
    | array hitems => exact hitems
  · exact .array

/-- The same objects have the same members. -/
theorem Same.lookup (h : (Value.object members).Same (Value.object members')) (name : String) :
    Option.Rel Same (members.lookup name) (members'.lookup name) := by
  cases h with
  | object hmembers => exact hmembers name

theorem Same.member (h : (Value.object members).Same (Value.object members')) (name : String)
    (hv : members.lookup name = some v) (hw : members'.lookup name = some w) : v.Same w := by
  have hname := h.lookup name
  rwa [hv, hw, Option.rel_some_some] at hname

theorem Same.string_iff {s t : String} : (Value.string s).Same (Value.string t) ↔ s = t := by
  constructor
  · intro h
    cases h with
    | string => rfl
  · rintro rfl
    exact .string s

theorem Same.int_iff {m n : Int} : (Value.int m).Same (Value.int n) ↔ m = n := by
  constructor
  · intro h
    cases h with
    | number => rfl
  · rintro rfl
    exact .number _

/-- An object with one member. -/
theorem Same.single (h : (Value.object [(name, v)]).Same (.object [(name', w)])) :
    name = name' ∧ v.Same w := by
  have hname := h.lookup name
  rw [List.lookup_cons_self, List.lookup_cons] at hname
  split at hname
  · rename_i heq
    exact ⟨eq_of_beq heq, by simpa using hname⟩
  · simp at hname

end DocSieve.Json.Value
