-- SUMMARY: What sorting does to a list whatever the order is: it permutes it or gives up, and it looks at comparisons only.
import Mathlib.Data.List.FinRange
import Mathlib.Data.List.Induction
import DocSieve.Store.Collection

/-!
# Sorting

None of these facts needs an order with any law. Sorting rearranges a list or
gives up, and what it does depends on the outcomes of the comparisons alone:
lists whose elements compare alike, position by position, fare alike.
-/

namespace DocSieve

open Json

variable {α β : Type} {order : β → β → Ordering}

/-! ## Insertion -/

theorem insertLast_map (f : α → β) (a : α) (as : List α) :
    insertLast order (f a) (as.map f) =
      (insertLast (fun x y => order (f x) (f y)) a as).map f := by
  induction as with
  | nil => rfl
  | cons b as ih =>
    simp only [List.map_cons, insertLast]
    split <;> simp [ih]

theorem stableSort_concat (order : α → α → Ordering) (as : List α) (a : α) :
    stableSort order (as ++ [a]) = (insertLast order a (stableSort order as).reverse).reverse := by
  simp [stableSort]

theorem stableSort_map (f : α → β) (as : List α) :
    stableSort order (as.map f) = (stableSort (fun x y => order (f x) (f y)) as).map f := by
  induction as using List.reverseRecOn with
  | nil => rfl
  | append_singleton as a ih =>
    rw [List.map_append, List.map_singleton, stableSort_concat, stableSort_concat, ih,
      ← List.map_reverse, insertLast_map, List.map_reverse]

/-! ## Any sort -/

namespace Sorting

variable {sorting : Sorting} {as bs : List α}

/-- Sorting arranges the positions of a list. -/
theorem sort_eq_arrange (sorting : Sorting) (order : α → α → Ordering) (as : List α) {n : Nat}
    (h : as.length = n) :
    sorting.sort order as =
      (sorting.arrange n fun i j => order as[i] as[j]).map (·.map (as[·])) := by
  subst h
  rfl

theorem sort_perm {order : α → α → Ordering} (h : sorting.sort order as = some bs) :
    bs.Perm as := by
  rw [sort_eq_arrange sorting order as rfl] at h
  obtain ⟨positions, hpositions, rfl⟩ := Option.map_eq_some_iff.mp h
  exact ((sorting.perm hpositions).map _).trans (.of_eq (List.map_getElem_finRange as))

theorem sort_map (sorting : Sorting) (f : α → β) (as : List α) :
    sorting.sort order (as.map f) =
      (sorting.sort (fun x y => order (f x) (f y)) as).map (·.map f) := by
  rw [sort_eq_arrange sorting order (as.map f) (List.length_map f),
    sort_eq_arrange sorting _ as rfl]
  simp [Option.map_map, Function.comp_def]

theorem sort_congr {order order' : α → α → Ordering}
    (h : ∀ a ∈ as, ∀ b ∈ as, order a b = order' a b) :
    sorting.sort order as = sorting.sort order' as := by
  have hsame : (fun i j : Fin as.length => order as[i] as[j]) = fun i j => order' as[i] as[j] := by
    funext i j
    exact h _ (List.getElem_mem i.isLt) _ (List.getElem_mem j.isLt)
  rw [sort_eq_arrange sorting order as rfl, hsame, sort_eq_arrange sorting order' as rfl]

end Sorting

/-! ## Documents -/

namespace OrderBy

/-- Sorts anything that stands for documents. -/
def sortBy (o : OrderBy) (sorting : Sorting) (document : α → Value) (as : List α) :
    Option (List α) :=
  match FieldPath.ofText? o.field with
  | some path => sorting.sort (fun a b => o.compareAt path (document a) (document b)) as
  | none => some as

theorem sort_map (o : OrderBy) (sorting : Sorting) (document : α → Value) (as : List α) :
    o.sort sorting (as.map document) = (o.sortBy sorting document as).map (·.map document) := by
  unfold sort sortBy
  cases FieldPath.ofText? o.field with
  | none => rfl
  | some path => exact sorting.sort_map document as

theorem sort_perm {o : OrderBy} {sorting : Sorting} {documents sorted : List Value}
    (h : o.sort sorting documents = some sorted) : sorted.Perm documents := by
  unfold sort at h
  split at h
  · exact Sorting.sort_perm h
  · cases h
    exact .refl _

end OrderBy

namespace Collection

/-- A query selects the documents that it admits, each as often as it is
stored. -/
theorem run_perm {c : Collection} {sorting : Sorting} {q : Query} {documents : List Value}
    (h : c.run sorting q = some documents) : documents.Perm (c.documents.filter q.admits) := by
  unfold run at h
  split at h
  · exact OrderBy.sort_perm h
  · cases h
    exact .refl _

/-! ## Positions -/

/-- The document at a position, null beyond the last one. -/
def documentAt (c : Collection) (i : Nat) : Value := c.documents.getD i .null

/-- The positions of the documents that a query asks for, in the order that it
asks for. -/
def positions (c : Collection) (sorting : Sorting) (q : Query) : Option (List Nat) :=
  let found := (List.range c.size).filter fun i => q.admits (c.documentAt i)
  match q.order with
  | some o => o.sortBy sorting c.documentAt found
  | none => some found

theorem range_map_documentAt (c : Collection) : (List.range c.size).map c.documentAt = c.documents := by
  refine List.ext_getElem (by simp [size]) fun i hi hi' => ?_
  simp [documentAt, hi']

/-- A query on documents is a query on their positions. -/
theorem run_eq_positions (c : Collection) (sorting : Sorting) (q : Query) :
    c.run sorting q = (c.positions sorting q).map (·.map c.documentAt) := by
  have hfound : c.documents.filter q.admits =
      ((List.range c.size).filter fun i => q.admits (c.documentAt i)).map c.documentAt := by
    conv_lhs => rw [← c.range_map_documentAt]
    exact List.filter_map
  unfold run positions
  rw [hfound]
  cases q.order with
  | none => rfl
  | some o => exact o.sort_map sorting _ _

end Collection

end DocSieve
