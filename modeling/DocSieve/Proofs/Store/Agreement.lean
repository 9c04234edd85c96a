-- SUMMARY: Documents that agree except at one path, and the queries that cannot tell them apart.
import Mathlib.Data.List.Forall2
import DocSieve.Proofs.Path
import DocSieve.Proofs.Store.Sorting

/-!
# Agreement off a path

What stands at one path does not show at any other one. A longer path leads to
nothing, since there is no object at the end of the first, and a shorter one
leads to an object, which no condition accepts and which ranks with all other
objects. So a query that does not look at the path itself selects the same
positions whatever stands there.
-/

namespace DocSieve

open Json

/-! ## Documents -/

namespace Json.Value

/-- Objects that differ at most in what `names` lead to, which is in neither of
them an object. There are objects on the way. -/
inductive AgreeOff : List String → Value → Value → Prop where
  | last {n : String} {members members' : List (String × Value)} :
      (∀ m, m ≠ n → members.lookup m = members'.lookup m) →
      (∀ x, members.lookup n = some x → x.isObject = false) →
      (∀ x, members'.lookup n = some x → x.isObject = false) →
      AgreeOff [n] (.object members) (.object members')
  | nested {n : String} {names : List String} {members members' : List (String × Value)}
      {v v' : Value} :
      (∀ m, m ≠ n → members.lookup m = members'.lookup m) →
      members.lookup n = some v → members'.lookup n = some v' → AgreeOff names v v' →
      AgreeOff (n :: names) (.object members) (.object members')

/-- What two paths lead to is the same, or an object in both. -/
inductive Indistinct : Option Value → Option Value → Prop where
  | same {x : Option Value} : Indistinct x x
  | objects {members members' : List (String × Value)} :
      Indistinct (some (.object members)) (some (.object members'))

end Json.Value

/-- Nothing stands below a value that is not an object. -/
theorem FieldPath.follow_of_not_isObject {v : Value} {n : String} {names : List String}
    (h : v.isObject = false) : follow (n :: names) v = none := by
  cases v with
  | object members => cases h
  | _ => rfl

theorem Json.Value.AgreeOff.follow {names path : List String} {v v' : Value}
    (h : AgreeOff names v v') (hpath : path ≠ names) :
    Indistinct (FieldPath.follow path v) (FieldPath.follow path v') := by
  induction h generalizing path with
  | @last n members members' hrest hlast hlast' =>
    cases path with
    | nil => exact .objects
    | cons m path =>
      by_cases hm : m = n
      · subst hm
        cases path with
        | nil => exact absurd rfl hpath
        | cons m' path =>
          have hnone {ms : List (String × Value)}
              (hms : ∀ x, ms.lookup m = some x → x.isObject = false) :
              FieldPath.follow (m :: m' :: path) (.object ms) = none := by
            refine Option.bind_eq_none_iff.mpr fun x hx => ?_
            exact FieldPath.follow_of_not_isObject (hms x hx)
          rw [hnone hlast, hnone hlast']
          exact .same
      · simp only [FieldPath.follow, get?, hrest m hm]
        exact .same
  | @nested n names members members' v v' hrest hv hv' _ ih =>
    cases path with
    | nil => exact .objects
    | cons m path =>
      by_cases hm : m = n
      · subst hm
        simp only [FieldPath.follow, get?, hv, hv', Option.bind_some]
        exact ih fun h => hpath (h ▸ rfl)
      · simp only [FieldPath.follow, get?, hrest m hm]
        exact .same

/-! ## Conditions and orders -/

theorem Condition.any_accepts_eq {x x' : Option Value} (h : Value.Indistinct x x') (k : Condition) :
    x.any k.accepts = x'.any k.accepts := by
  cases h with
  | same => rfl
  | objects => cases k <;> rfl

theorem Condition.admits_eq {k : Condition} {names : List String} {v v' : Value}
    (h : Value.AgreeOff names v v') (hk : k.field.segments ≠ names) : k.admits v = k.admits v' := by
  rw [k.admits_eq_any, k.admits_eq_any]
  exact k.any_accepts_eq (h.follow hk)

theorem SortKey.order_eq {x x' y y' : Option Value} (hx : Value.Indistinct x x')
    (hy : Value.Indistinct y y') (key : SortKey) : key.order x y = key.order x' y' := by
  have hinstant {z z' : Option Value} (hz : Value.Indistinct z z') :
      z.bind Value.instant? = z'.bind Value.instant? := by
    cases hz <;> rfl
  cases key with
  | instant => simp only [order, hinstant hx, hinstant hy]
  | value =>
    cases hx with
    | same =>
      cases hy with
      | same => rfl
      | objects => rcases x with _ | x <;> [rfl; (cases x <;> rfl)]
    | objects =>
      cases hy with
      | same => rcases y with _ | y <;> [rfl; (cases y <;> rfl)]
      | objects => rfl

theorem OrderBy.compareAt_eq {o : OrderBy} {path : FieldPath} {names : List String}
    {v v' w w' : Value} (hv : Value.AgreeOff names v v') (hw : Value.AgreeOff names w w')
    (hpath : path.segments ≠ names) : o.compareAt path v w = o.compareAt path v' w' :=
  congrArg o.direction.apply (SortKey.order_eq (hv.follow hpath) (hw.follow hpath) o.key)

/-! ## Queries -/

/-- A query that does not look at the field of these names. -/
structure Query.Avoids (q : Query) (names : List String) : Prop where
  conditions : ∀ k ∈ q.conditions, k.field.segments ≠ names
  order : ∀ o ∈ q.order, ∀ path, FieldPath.ofText? o.field = some path → path.segments ≠ names

theorem Query.Avoids.admits_eq {q : Query} {names : List String} {v v' : Value}
    (hq : q.Avoids names) (h : Value.AgreeOff names v v') : q.admits v = q.admits v' := by
  have hall {l : List Condition} (hl : ∀ k ∈ l, k.field.segments ≠ names) :
      l.all (·.admits v) = l.all (·.admits v') := by
    induction l with
    | nil => rfl
    | cons k l ih =>
      obtain ⟨hk, hl⟩ := List.forall_mem_cons.mp hl
      rw [List.all_cons, List.all_cons, Condition.admits_eq h hk, ih hl]
  exact hall hq.conditions

theorem OrderBy.sortBy_congr {α : Type} {o : OrderBy} {sorting : Sorting} {f g : α → Value}
    {as : List α}
    (h : ∀ path, FieldPath.ofText? o.field = some path → ∀ a ∈ as, ∀ b ∈ as,
      o.compareAt path (f a) (f b) = o.compareAt path (g a) (g b)) :
    o.sortBy sorting f as = o.sortBy sorting g as := by
  unfold sortBy
  cases hpath : FieldPath.ofText? o.field with
  | none => rfl
  | some path => exact Sorting.sort_congr (h path hpath)

/-- The same positions are selected from documents that agree off a field that
the query does not look at, or sorting both is given up. -/
theorem Query.Avoids.positions_eq {q : Query} {names : List String} {c c' : Collection}
    (hq : q.Avoids names) (h : List.Forall₂ (Value.AgreeOff names) c.documents c'.documents)
    (sorting : Sorting) : c.positions sorting q = c'.positions sorting q := by
  have hsize : c.size = c'.size := h.length_eq
  have hat : ∀ i ∈ List.range c.size, Value.AgreeOff names (c.documentAt i) (c'.documentAt i) := by
    intro i hi
    have hlt : i < c.documents.length := List.mem_range.mp hi
    have hlt' : i < c'.documents.length := h.length_eq ▸ hlt
    have hget := (List.forall₂_iff_get.mp h).2 i hlt hlt'
    simpa [Collection.documentAt, hlt, hlt'] using hget
  have hfound : (List.range c.size).filter (fun i => q.admits (c.documentAt i)) =
      (List.range c'.size).filter fun i => q.admits (c'.documentAt i) := by
    rw [← hsize]
    exact List.filter_congr fun i hi => hq.admits_eq (hat i hi)
  unfold Collection.positions
  rw [← hfound]
  cases horder : q.order with
  | none => rfl
  | some o =>
    refine OrderBy.sortBy_congr fun path hpath i hi j hj => ?_
    exact OrderBy.compareAt_eq (hat i (List.mem_filter.mp hi).1) (hat j (List.mem_filter.mp hj).1)
      (hq.order o horder path hpath)

end DocSieve
