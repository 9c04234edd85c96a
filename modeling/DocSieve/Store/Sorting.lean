-- SUMMARY: What a sort may do with a list, and sorting by insertion.

/-!
# Sorts

A sort compares elements and arranges them. With a total preorder there is one
way to do so that puts them in order and keeps those of the same rank as they
came. With any other order the elements come in some arrangement, or the sort
gives up.
-/

namespace DocSieve

/-- With a stable sort `i` stands before `j`. -/
def StandsBefore (order : Fin n → Fin n → Ordering) (i j : Fin n) : Prop :=
  order i j = .lt ∨ order i j = .eq ∧ i < j

/-- A sort. It sees a list through the comparisons of its positions only. -/
structure Sorting where
  /-- The positions of `n` elements as they are arranged, unless the sort gives
  up. -/
  arrange (n : Nat) (order : Fin n → Fin n → Ordering) : Option (List (Fin n))
  /-- No element is lost, and none comes twice. -/
  perm {n : Nat} {order : Fin n → Fin n → Ordering} {positions : List (Fin n)} :
    arrange n order = some positions → positions.Perm (List.finRange n)
  /-- A total preorder is sorted by, stably. -/
  stable {n : Nat} (order : Fin n → Fin n → Ordering) : Std.TransCmp order →
    ∃ positions, arrange n order = some positions ∧ positions.Pairwise (StandsBefore order)

/-- Sorts a list. -/
def Sorting.sort (s : Sorting) (order : α → α → Ordering) (as : List α) : Option (List α) :=
  let elements := as.toArray
  (s.arrange elements.size fun i j => order elements[i] elements[j]).map (·.map (elements[·]))

/-! ## Insertion -/

/-- Puts `a` into a list that is sorted from the last to the first. It goes in
front of the elements that are not after it. -/
def insertLast (order : α → α → Ordering) (a : α) : List α → List α
  | [] => [a]
  | b :: bs => if order a b = .lt then b :: insertLast order a bs else a :: b :: bs

/-- Sorts a list, with elements of the same rank in their order. -/
def stableSort (order : α → α → Ordering) (as : List α) : List α :=
  (as.foldl (fun sorted a => insertLast order a sorted) []).reverse

theorem insertLast_perm (order : α → α → Ordering) (a : α) (bs : List α) :
    (insertLast order a bs).Perm (a :: bs) := by
  induction bs with
  | nil => exact .refl _
  | cons b bs ih =>
    unfold insertLast
    split
    · exact (ih.cons b).trans (.swap a b bs)
    · exact .refl _

theorem foldl_insertLast_perm (order : α → α → Ordering) (as sorted : List α) :
    (as.foldl (fun sorted a => insertLast order a sorted) sorted).Perm (as ++ sorted) := by
  induction as generalizing sorted with
  | nil => exact .refl _
  | cons a as ih =>
    rw [List.foldl_cons]
    exact (ih _).trans (((insertLast_perm order a sorted).append_left as).trans List.perm_middle)

theorem stableSort_perm (order : α → α → Ordering) (as : List α) :
    (stableSort order as).Perm as := by
  have h := foldl_insertLast_perm order as []
  rw [List.append_nil] at h
  exact (List.reverse_perm _).trans h

section Positions

variable {n : Nat} {order : Fin n → Fin n → Ordering} {i : Fin n} {js : List (Fin n)}

theorem StandsBefore.isLE {i j : Fin n} (h : StandsBefore order i j) : (order i j).isLE := by
  rcases h with h | ⟨h, -⟩ <;> rw [h] <;> rfl

/-- A position that is behind all others goes in front of those of the same rank. -/
theorem insertLast_pairwise (horder : Std.TransCmp order) (hi : ∀ j ∈ js, j < i)
    (hjs : js.Pairwise fun j k => StandsBefore order k j) :
    (insertLast order i js).Pairwise fun j k => StandsBefore order k j := by
  induction js with
  | nil => exact List.pairwise_singleton _ _
  | cons j js ih =>
    obtain ⟨hj, hrest⟩ := List.pairwise_cons.mp hjs
    unfold insertLast
    split
    · rename_i hlt
      refine List.pairwise_cons.mpr ⟨?_, ih (fun k hk => hi k (List.mem_cons_of_mem _ hk)) hrest⟩
      intro k hk
      rcases List.mem_cons.mp ((insertLast_perm order i js).mem_iff.mp hk) with rfl | hk
      · exact .inl hlt
      · exact hj k hk
    · rename_i hnlt
      refine List.pairwise_cons.mpr ⟨?_, hjs⟩
      intro k hk
      have hswap : order j i = (order i j).swap := Std.OrientedCmp.eq_swap
      have hji : (order j i).isLE := by
        rw [hswap]
        cases ho : order i j <;> simp_all
      have hki : (order k i).isLE := by
        rcases List.mem_cons.mp hk with rfl | hk
        · exact hji
        · exact Std.TransCmp.isLE_trans (hj k hk).isLE hji
      cases ho : order k i with
      | lt => exact .inl ho
      | eq => exact .inr ⟨ho, hi k hk⟩
      | gt => simp [ho] at hki

theorem foldl_insertLast_pairwise (horder : Std.TransCmp order) {is sorted : List (Fin n)}
    (his : is.Pairwise (· < ·)) (hbehind : ∀ i ∈ is, ∀ j ∈ sorted, j < i)
    (hsorted : sorted.Pairwise fun j k => StandsBefore order k j) :
    (is.foldl (fun sorted i => insertLast order i sorted) sorted).Pairwise
      fun j k => StandsBefore order k j := by
  induction is generalizing sorted with
  | nil => exact hsorted
  | cons i is ih =>
    obtain ⟨hi, his⟩ := List.pairwise_cons.mp his
    obtain ⟨hfirst, hrest⟩ := List.forall_mem_cons.mp hbehind
    refine ih his ?_ (insertLast_pairwise horder hfirst hsorted)
    intro k hk j hj
    rcases List.mem_cons.mp ((insertLast_perm order i sorted).mem_iff.mp hj) with rfl | hj
    · exact hi k hk
    · exact hrest k hk j hj

theorem stableSort_pairwise (horder : Std.TransCmp order) :
    (stableSort order (List.finRange n)).Pairwise (StandsBefore order) :=
  List.pairwise_reverse.mpr <| foldl_insertLast_pairwise horder (List.pairwise_lt_finRange n)
    (fun _ _ _ h => nomatch h) .nil

end Positions

/-- The length up to which insertion never gives up. -/
def Sorting.shortLength : Nat := 20

/-- Sorts by insertion. A longer list that is not in order then is given up. -/
def Sorting.insertion : Sorting where
  arrange n order :=
    let positions := stableSort order (List.finRange n)
    if n ≤ shortLength ∨ positions.Pairwise fun i j => (order i j).isLE then some positions
    else none
  perm h := by
    obtain ⟨-, h⟩ := Option.ite_none_right_eq_some.mp h
    cases h
    exact stableSort_perm _ _
  stable {n} order horder := by
    have hpositions := stableSort_pairwise horder
    exact ⟨_, if_pos (.inr (hpositions.imp StandsBefore.isLE)), hpositions⟩

end DocSieve
