-- SUMMARY: Texts are compared part by part, and numbers of a fixed width as the numbers they are.
import Mathlib.Data.String.Basic
import DocSieve.Proofs.Text.Digit

/-!
# The order of texts

Texts are ordered by their characters, from the first on. Parts of a fixed width
are therefore compared one after the other, and a number that is padded with
zeros stands among the others of its width where the number stands.
-/

namespace DocSieve

/-! ## Comparing by parts -/

/-- A comparison is decided by a part that comes first, and by the rest only
where this part is the same. -/
theorem compare_eq_then {α β : Type} [LinearOrder α] [LinearOrder β] {a b : α} {x y : β}
    {rest : Ordering} (hlt : x < y → a < b) (hgt : y < x → b < a)
    (heq : x = y → compare a b = rest) : compare a b = (compare x y).then rest := by
  rcases lt_trichotomy x y with h | h | h
  · rw [compare_lt_iff_lt.mpr h, compare_lt_iff_lt.mpr (hlt h), Ordering.lt_then]
  · rw [compare_eq_iff_eq.mpr h, heq h, Ordering.eq_then]
  · rw [compare_gt_iff_gt.mpr h, compare_gt_iff_gt.mpr (hgt h), Ordering.gt_then]

/-- Two comparisons agree if they agree on what is smaller. -/
theorem compare_congr {α β : Type} [LinearOrder α] [LinearOrder β] {a b : α} {x y : β}
    (hlt : a < b ↔ x < y) (hgt : b < a ↔ y < x) : compare a b = compare x y := by
  have hparts : compare a b = (compare x y).then .eq :=
    compare_eq_then hlt.mpr hgt.mpr fun heq => compare_eq_iff_eq.mpr <|
      le_antisymm (not_lt.mp (mt hgt.mp heq.le.not_gt)) (not_lt.mp (mt hlt.mp heq.ge.not_gt))
  rw [hparts, Ordering.then_eq]

namespace Text

variable {as bs cs ds : List Char}

theorem compare_append (h : as.length = bs.length) :
    compare (as ++ cs) (bs ++ ds) = (compare as bs).then (compare cs ds) := by
  induction as generalizing bs with
  | nil =>
    obtain rfl := List.length_eq_zero_iff.mp h.symm
    rfl
  | cons a as ih =>
    cases bs with
    | nil => cases h
    | cons b bs =>
      rw [List.cons_append, List.cons_append, List.compare_cons_cons, ih (Nat.succ.inj h),
        List.compare_cons_cons, Ordering.then_assoc]

theorem compare_cons (c : Char) (cs ds : List Char) :
    compare (c :: cs) (c :: ds) = compare cs ds := by
  simp [List.compare_cons_cons]

theorem compare_lt_iff : compare as bs = .lt ↔ as < bs := by
  induction as generalizing bs with
  | nil =>
    cases bs with
    | nil => simp
    | cons b bs => exact iff_of_true rfl (List.nil_lt_cons b bs)
  | cons a as ih =>
    cases bs with
    | nil => exact iff_of_false nofun (List.not_lt_nil _)
    | cons b bs =>
      rw [List.compare_cons_cons, Ordering.then_eq_lt, ih, List.cons_lt_cons_iff,
        compare_lt_iff_lt, compare_eq_iff_eq]

/-- Texts are compared as lists of characters. -/
theorem compare_toList (s t : String) : compare s t = compare s.toList t.toList := by
  rcases lt_trichotomy s t with h | rfl | h
  · rw [compare_lt_iff_lt.mpr h, compare_lt_iff.mpr (String.lt_iff_toList_lt.mp h)]
  · simp
  · rw [compare_gt_iff_gt.mpr h, Std.OrientedOrd.eq_swap (a := s.toList),
      compare_lt_iff.mpr (String.lt_iff_toList_lt.mp h), Ordering.swap_lt]

/-! ## Padded numbers -/

variable {m n width : Nat}

theorem length_padded (hwidth : width ≠ 0) (h : n < 10 ^ width) :
    (padded width n).toList.length = width := by
  obtain ⟨ds, rfl, hds, rfl⟩ := exists_digits width h
  have hne : ds ≠ [] := by
    rintro rfl
    exact hwidth rfl
  rw [padded_ofDigits hne hds, length_digitText]

theorem compare_digitChar (hm : m < 10) (hn : n < 10) :
    compare (Nat.digitChar m) (Nat.digitChar n) = compare m n := by
  have hall : ∀ m < 10, ∀ n < 10,
      compare (Nat.digitChar m) (Nat.digitChar n) = compare m n := by
    decide
  exact hall m hm n hn

/-- Padded numbers of one width are ordered as numbers. -/
theorem compare_padded (hwidth : 1 ≤ width) (hm : m < 10 ^ width) (hn : n < 10 ^ width) :
    compare (padded width m).toList (padded width n).toList = compare m n := by
  induction width, hwidth using Nat.le_induction generalizing m n with
  | base =>
    rw [pow_one] at hm hn
    have hone {k : Nat} (hk : k < 10) : (padded 1 k).toList = [Nat.digitChar k] := by
      rw [padded_toList, Nat.toDigits_of_lt_base hk]
      rfl
    rw [hone hm, hone hn, List.compare_cons_cons, compare_digitChar hm hn]
    simp
  | succ width hwidth ih =>
    rw [Nat.pow_succ] at hm hn
    have hm' : m / 10 < 10 ^ width := by omega
    have hn' : n / 10 < 10 ^ width := by omega
    have hlength :
        (padded width (m / 10)).toList.length = (padded width (n / 10)).toList.length := by
      rw [length_padded (by omega) hm', length_padded (by omega) hn']
    have hlast : compare [Nat.digitChar (m % 10)] [Nat.digitChar (n % 10)] =
        compare (m % 10) (n % 10) := by
      rw [List.compare_cons_cons, compare_digitChar (by omega) (by omega)]
      simp
    rw [padded_succ_toList (by omega), padded_succ_toList (by omega), compare_append hlength,
      ih hm' hn', hlast]
    -- the last digit decides only where the digits before it are the same
    exact (compare_eq_then (by omega) (by omega) fun heq =>
      compare_congr (by omega) (by omega)).symm

/-- A padded number at the front decides before what follows it. -/
theorem compare_padded_append (hwidth : 1 ≤ width) (hm : m < 10 ^ width) (hn : n < 10 ^ width) :
    compare ((padded width m).toList ++ cs) ((padded width n).toList ++ ds) =
      (compare m n).then (compare cs ds) := by
  have hlength : (padded width m).toList.length = (padded width n).toList.length := by
    rw [length_padded (by omega) hm, length_padded (by omega) hn]
  rw [compare_append hlength, compare_padded hwidth hm hn]

end Text

end DocSieve
