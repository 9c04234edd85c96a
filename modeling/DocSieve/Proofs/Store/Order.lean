-- SUMMARY: The order of values is a total preorder apart from integers that are compared through a double they both round to.
import DocSieve.Proofs.Number.Rounding
import DocSieve.Store.Sort

/-!
# Order of values

Comparing two values the other way round gives the opposite result, always.
The order is transitive but for one kind of triple. Signed 64-bit integers are
compared exactly and other numbers as doubles, so a double can be equal to two
integers that are not equal to each other.
-/

namespace DocSieve

open Json

/-! ## Numbers -/

namespace Json.Number

variable {a b c : Number} {m n : Int}

theorem eq_int_of_int64? (h : a.int64? = some m) : a = .int m := by
  cases a with
  | int n =>
    simp only [int64?, Option.ite_none_right_eq_some, Option.some.injEq] at h
    exact h.2 ▸ rfl
  | double d => cases h

theorem order_of_int64? (ha : a.int64? = some m) (hb : b.int64? = some n) :
    a.order b = compare m n := by
  simp [order, ha, hb]

theorem order_of_int64?_eq_none (h : a.int64? = none ∨ b.int64? = none) :
    a.order b = compare a.toDouble.value b.toDouble.value := by
  unfold order
  rcases h with h | h
  · simp only [h]; rfl
  · cases ha : a.int64? <;> simp only [h] <;> rfl

theorem order_swap (a b : Number) : b.order a = (a.order b).swap := by
  cases ha : a.int64? with
  | none =>
    rw [order_of_int64?_eq_none (.inl ha), order_of_int64?_eq_none (.inr ha)]
    exact Std.OrientedOrd.eq_swap
  | some m =>
    cases hb : b.int64? with
    | none =>
      rw [order_of_int64?_eq_none (.inl hb), order_of_int64?_eq_none (.inr hb)]
      exact Std.OrientedOrd.eq_swap
    | some n =>
      rw [order_of_int64? ha hb, order_of_int64? hb ha]
      exact Std.OrientedOrd.eq_swap

/-- However numbers are compared, their doubles are not the other way round. -/
theorem toDouble_le_of_order (h : (a.order b).isLE) : a.toDouble.value ≤ b.toDouble.value := by
  cases ha : a.int64? with
  | none => exact Std.isLE_compare.mp (order_of_int64?_eq_none (.inl ha) ▸ h)
  | some m =>
    cases hb : b.int64? with
    | none => exact Std.isLE_compare.mp (order_of_int64?_eq_none (.inr hb) ▸ h)
    | some n =>
      rw [order_of_int64? ha hb, Std.isLE_compare] at h
      rw [eq_int_of_int64? ha, eq_int_of_int64? hb]
      exact Double.ofInt_value_mono h

/-! ## Triples out of order -/

/-- Two signed 64-bit integers, the greater one first, around a number that is
none and that equals both of them as a double. -/
structure Blurred (a b c : Number) : Prop where
  descending : ∃ m n, a.int64? = some m ∧ c.int64? = some n ∧ n < m
  other : b.int64? = none
  left : a.toDouble.value = b.toDouble.value
  right : b.toDouble.value = c.toDouble.value

/-- The order of three numbers is transitive unless they are blurred. -/
theorem order_trans_iff (a b c : Number) :
    ((a.order b).isLE → (b.order c).isLE → (a.order c).isLE) ↔ ¬ Blurred a b c := by
  constructor
  · rintro htrans ⟨⟨m, n, ha, hc, hlt⟩, hb, hleft, hright⟩
    have hab : (a.order b).isLE := by
      rw [order_of_int64?_eq_none (.inr hb), Std.isLE_compare]
      exact hleft.le
    have hbc : (b.order c).isLE := by
      rw [order_of_int64?_eq_none (.inl hb), Std.isLE_compare]
      exact hright.le
    have hac := htrans hab hbc
    rw [order_of_int64? ha hc, Std.isLE_compare] at hac
    omega
  · intro hblurred hab hbc
    have hleft := toDouble_le_of_order hab
    have hright := toDouble_le_of_order hbc
    cases ha : a.int64? with
    | none =>
      rw [order_of_int64?_eq_none (.inl ha), Std.isLE_compare]
      exact hleft.trans hright
    | some m =>
      cases hc : c.int64? with
      | none =>
        rw [order_of_int64?_eq_none (.inr hc), Std.isLE_compare]
        exact hleft.trans hright
      | some n =>
        rw [order_of_int64? ha hc, Std.isLE_compare]
        cases hb : b.int64? with
        | some k =>
          rw [order_of_int64? ha hb, Std.isLE_compare] at hab
          rw [order_of_int64? hb hc, Std.isLE_compare] at hbc
          exact hab.trans hbc
        | none =>
          -- between two integers the doubles of all three are equal
          by_contra hlt
          have hback : c.toDouble.value ≤ a.toDouble.value := by
            rw [eq_int_of_int64? ha, eq_int_of_int64? hc]
            exact Double.ofInt_value_mono (by omega)
          exact hblurred ⟨⟨m, n, ha, hc, by omega⟩, hb, by omega, by omega⟩

/-- One of the integers is so great that a double does not hold it exactly. -/
theorem Blurred.exceeds (h : Blurred a b c) :
    ∃ n : Int, (a = .int n ∨ c = .int n) ∧ 2 ^ 53 < n.natAbs := by
  obtain ⟨m, n, ha, hc, hlt⟩ := h.descending
  by_contra hnone
  have hsmall : m.natAbs ≤ 2 ^ 53 ∧ n.natAbs ≤ 2 ^ 53 :=
    ⟨not_lt.mp fun hm => hnone ⟨m, .inl (eq_int_of_int64? ha), hm⟩,
      not_lt.mp fun hn => hnone ⟨n, .inr (eq_int_of_int64? hc), hn⟩⟩
  have heq : (m : Int) * Double.unit = n * Double.unit := by
    rw [← Double.ofInt_value_of_natAbs_le hsmall.1, ← Double.ofInt_value_of_natAbs_le hsmall.2]
    have hvalue := h.left.trans h.right
    rwa [eq_int_of_int64? ha, eq_int_of_int64? hc] at hvalue
  obtain ⟨e, he⟩ := Double.exists_unit_eq
  have hunit : (Double.unit : Int) ≠ 0 := by
    rw [he]
    exact_mod_cast Nat.ne_of_gt (Nat.two_pow_pos e)
  exact absurd (Int.eq_of_mul_eq_mul_right hunit heq) (by omega)

end Json.Number

/-! ## Values -/

namespace Json.Value

variable {a b c : Value}

theorem order_swap (a b : Value) : b.order a = (a.order b).swap := by
  cases a <;> cases b <;>
    first
    | exact Number.order_swap _ _
    | exact Std.OrientedOrd.eq_swap

/-- Values of different kinds are ordered by their kinds. -/
theorem order_of_rank_ne (h : a.rank ≠ b.rank) : a.order b = compare a.rank b.rank := by
  cases a <;> cases b <;>
    first
    | rfl
    | exact absurd rfl h

theorem rank_le_of_order (h : (a.order b).isLE) : a.rank ≤ b.rank := by
  by_cases hrank : a.rank = b.rank
  · exact hrank.le
  · rwa [order_of_rank_ne hrank, Std.isLE_compare] at h

/-- The order is transitive unless it compares three blurred numbers. -/
theorem order_trans (hnumbers : ∀ x y z, a = .number x → b = .number y → c = .number z →
    ¬ Number.Blurred x y z) (hab : (a.order b).isLE) (hbc : (b.order c).isLE) :
    (a.order c).isLE := by
  have hle := rank_le_of_order hab
  have hle' := rank_le_of_order hbc
  by_cases hac : a.rank = c.rank
  · have hrank : a.rank = b.rank ∧ b.rank = c.rank := by omega
    obtain ⟨hb, hc⟩ := hrank
    cases a with
    | null | array | object => cases c <;> first | rfl | cases hac
    | bool x =>
      cases b <;> cases hb
      cases c <;> cases hc
      exact Std.TransOrd.isLE_trans hab hbc
    | number x =>
      cases b <;> cases hb
      cases c <;> cases hc
      exact (Number.order_trans_iff _ _ _).mpr (hnumbers _ _ _ rfl rfl rfl) hab hbc
    | string x =>
      cases b <;> cases hb
      cases c <;> cases hc
      exact Std.TransOrd.isLE_trans hab hbc
  · rw [order_of_rank_ne hac, Std.isLE_compare]
    omega

end Json.Value

/-! ## Missing values -/

section Missing

variable {α : Type} {order : α → α → Ordering}

theorem orderMissing_swap (hswap : ∀ a b, order b a = (order a b).swap) (a b : Option α) :
    orderMissing order b a = (orderMissing order a b).swap := by
  cases a with
  | none => cases b <;> rfl
  | some a =>
    cases b with
    | none => rfl
    | some b => exact hswap a b

theorem orderMissing_trans {a b c : Option α}
    (htrans : ∀ x ∈ a, ∀ y ∈ b, ∀ z ∈ c,
      (order x y).isLE → (order y z).isLE → (order x z).isLE)
    (hab : (orderMissing order a b).isLE) (hbc : (orderMissing order b c).isLE) :
    (orderMissing order a c).isLE := by
  cases a with
  | none => cases c <;> rfl
  | some a =>
    cases b with
    | none => cases hab
    | some b =>
      cases c with
      | none => cases hbc
      | some c => exact htrans a rfl b rfl c rfl hab hbc

end Missing

/-! ## Sort keys -/

namespace SortKey

variable {a b c : Option Value}

/-- Three values that are blurred numbers. -/
def Blurred (a b c : Option Value) : Prop :=
  ∃ x y z, a = some (.number x) ∧ b = some (.number y) ∧ c = some (.number z) ∧
    Number.Blurred x y z

theorem value_order_swap (a b : Option Value) : value.order b a = (value.order a b).swap :=
  orderMissing_swap Value.order_swap a b

theorem value_order_trans_iff (a b c : Option Value) :
    ((value.order a b).isLE → (value.order b c).isLE → (value.order a c).isLE) ↔
      ¬ Blurred a b c := by
  constructor
  · rintro htrans ⟨x, y, z, rfl, rfl, rfl, hblurred⟩
    exact (Number.order_trans_iff x y z).mp htrans hblurred
  · intro hblurred hab hbc
    apply orderMissing_trans ?_ hab hbc
    intro x hx y hy z hz hxy hyz
    apply Value.order_trans ?_ hxy hyz
    rintro l m n rfl rfl rfl h
    exact hblurred ⟨l, m, n, hx, hy, hz, h⟩

/-- **The order by value is a total preorder but for blurred numbers.** Of two
values one comes first or they are equal, and the order is transitive on three
values exactly if they are not blurred numbers. Integers become doubles by
rounding to nearest, ties to even. -/
theorem value_order_preorder_iff (a b c : Option Value) :
    value.order b a = (value.order a b).swap ∧
    (((value.order a b).isLE → (value.order b c).isLE → (value.order a c).isLE) ↔
      ¬ Blurred a b c) ∧
    ∀ n : Int, (Double.ofInt n).negative = decide (n < 0) ∧
      Double.Rounds (n.natAbs * Double.unit) 1 (Double.ofInt n).magnitude :=
  ⟨value_order_swap a b, value_order_trans_iff a b c, fun n => ⟨rfl, Double.ofInt_rounds n⟩⟩

/-- The double `2 ^ 53` is equal to the integer `2 ^ 53` and to the next one. -/
theorem value_order_not_transitive :
    (value.order (some (.int (2 ^ 53 + 1))) (some (.number (.double (.ofInt (2 ^ 53)))))).isLE ∧
    (value.order (some (.number (.double (.ofInt (2 ^ 53))))) (some (.int (2 ^ 53)))).isLE ∧
    value.order (some (.int (2 ^ 53 + 1))) (some (.int (2 ^ 53))) = .gt := by
  decide +kernel

end SortKey

end DocSieve
