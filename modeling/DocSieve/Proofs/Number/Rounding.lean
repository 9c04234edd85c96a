-- SUMMARY: Rounding goes to a nearest double and, in a tie, to the even one; it keeps the order and what needs no rounding.
import Mathlib.Data.Nat.Dist
import Mathlib.Tactic.Ring
import DocSieve.Number.Double

/-!
# Rounding

A quotient lies between two neighbours on the grid of its magnitude, and there
is no double strictly between these. Everything else follows from that: the
result is a nearest double, a tie goes to the even significand, and rounding
keeps the order.
-/

namespace DocSieve

namespace Double

/-- A magnitude of at most 53 significant bits. -/
def Significant (x : Nat) : Prop := ∃ m e, m < 2 ^ 53 ∧ x = m * 2 ^ e

/-- A significand of one bit more is allowed if it is the power of two. -/
theorem Significant.of_le {m e : Nat} (h : m ≤ 2 ^ 53) : Significant (m * 2 ^ e) := by
  rcases Nat.lt_or_eq_of_le h with hlt | rfl
  · exact ⟨m, e, hlt, rfl⟩
  · exact ⟨1, 53 + e, by omega, by rw [Nat.pow_add, Nat.one_mul]⟩

/-- The magnitude `r` is the one that `num / den` rounds to. -/
structure Rounds (num den r : Nat) : Prop where
  significant : Significant r
  closest : ∀ x, Significant x → Nat.dist num (r * den) ≤ Nat.dist num (x * den)
  /-- In a tie, the significand is even. -/
  even : ∀ x, Significant x → x ≠ r → Nat.dist num (r * den) = Nat.dist num (x * den) →
    2 * Nat.dist r x ∣ r

/-! ## The grid -/

/-- Two neighbours on a grid of step `2 ^ e`: they have 53 significant bits, or
the grid is the finest one. -/
structure Grid (low e : Nat) : Prop where
  low_lt : low < 2 ^ 53
  normal : e = 0 ∨ 2 ^ 52 ≤ low

theorem Grid.of_quotient (q : Nat) : Grid (q / 2 ^ spareBits q) (spareBits q) := by
  have hlt : q < 2 ^ (q.log2 + 1) := Nat.lt_log2_self
  by_cases h : q.log2 + 1 ≤ 53
  · have hspare : spareBits q = 0 := by unfold spareBits; omega
    refine ⟨?_, .inl hspare⟩
    rw [hspare, Nat.pow_zero, Nat.div_one]
    exact hlt.trans_le (Nat.pow_le_pow_right (by omega) h)
  · have hspare : q.log2 = spareBits q + 52 := by unfold spareBits; omega
    rw [hspare] at hlt
    have hq : q ≠ 0 := by rintro rfl; simp at h
    have hle : 2 ^ (spareBits q + 52) ≤ q := hspare ▸ Nat.log2_self_le hq
    refine ⟨?_, .inr ?_⟩
    · rw [Nat.div_lt_iff_lt_mul (Nat.two_pow_pos _), ← Nat.pow_add]
      exact hlt.trans_eq (congrArg _ (by omega))
    · rw [Nat.le_div_iff_mul_le (Nat.two_pow_pos _), ← Nat.pow_add]
      exact (congrArg _ (by omega)).trans_le hle

theorem Grid.significant {low e : Nat} (h : Grid low e) :
    Significant (low * 2 ^ e) ∧ Significant ((low + 1) * 2 ^ e) :=
  ⟨.of_le (Nat.le_of_lt h.low_lt), .of_le h.low_lt⟩

/-- No magnitude of 53 significant bits lies strictly between neighbours. -/
theorem Grid.gap {low e x : Nat} (h : Grid low e) (hx : Significant x) :
    x ≤ low * 2 ^ e ∨ (low + 1) * 2 ^ e ≤ x := by
  obtain ⟨m, k, hm, rfl⟩ := hx
  by_cases hk : e ≤ k
  · have hsplit : m * 2 ^ k = m * 2 ^ (k - e) * 2 ^ e := by
      rw [Nat.mul_assoc, ← Nat.pow_add, Nat.sub_add_cancel hk]
    rw [hsplit]
    rcases Nat.lt_or_ge low (m * 2 ^ (k - e)) with hlt | hge
    · exact .inr (Nat.mul_le_mul_right _ hlt)
    · exact .inl (Nat.mul_le_mul_right _ hge)
  · obtain rfl | hlow := h.normal
    · omega
    · left
      calc m * 2 ^ k ≤ 2 ^ 53 * 2 ^ (e - 1) :=
            Nat.mul_le_mul (by omega) (Nat.pow_le_pow_right (by omega) (by omega))
        _ = 2 ^ 52 * 2 ^ e := by rw [← Nat.pow_add, ← Nat.pow_add]; congr 1; omega
        _ ≤ low * 2 ^ e := Nat.mul_le_mul_right _ hlow

/-! ## Rounding to a neighbour -/

/-- A quotient lies between neighbours, and rounds to the one on its side of
the middle. In the middle it rounds to the even one. -/
theorem nearest_cases (num : Nat) {den : Nat} (hden : 0 < den) :
    ∃ low e, Grid low e ∧ low * 2 ^ e * den ≤ num ∧ num < (low + 1) * 2 ^ e * den ∧
      (nearest num den = low * 2 ^ e ∧
          (2 * num < low * 2 ^ e * den + (low + 1) * 2 ^ e * den ∨
            2 * num = low * 2 ^ e * den + (low + 1) * 2 ^ e * den ∧ low % 2 = 0) ∨
        nearest num den = (low + 1) * 2 ^ e ∧
          (low * 2 ^ e * den + (low + 1) * 2 ^ e * den < 2 * num ∨
            2 * num = low * 2 ^ e * den + (low + 1) * 2 ^ e * den ∧ low % 2 = 1)) := by
  let e := spareBits (num / den)
  let step := den * 2 ^ e
  let low := num / step
  have hlow : num / den / 2 ^ e = low := Nat.div_div_eq_div_mul _ _ _
  have hpos : 0 < step := Nat.mul_pos hden (Nat.two_pow_pos _)
  have hnum : step * low + num % step = num := Nat.div_add_mod num step
  have hrest : num % step < step := Nat.mod_lt _ hpos
  have hat : low * 2 ^ e * den = step * low := by ring
  have hnext : (low + 1) * 2 ^ e * den = step * low + step := by ring
  have hnearest : nearest num den =
      (if step < 2 * (num % step) ∨ 2 * (num % step) = step ∧ low % 2 = 1 then low + 1 else low)
        * 2 ^ e := rfl
  refine ⟨low, e, hlow ▸ Grid.of_quotient _, by omega, by omega, ?_⟩
  rw [hat, hnext, hnearest]
  split
  · right
    exact ⟨rfl, by omega⟩
  · left
    exact ⟨rfl, by omega⟩

section

variable {l h a y : Nat}

/-- Of the numbers outside a gap, the lower end is closest to those in the
lower half. In a tie the other number is the upper end. -/
private theorem lower_end_closest (hl : l ≤ a) (hh : a < h) (hy : y ≤ l ∨ h ≤ y)
    (hmiddle : 2 * a ≤ l + h) :
    Nat.dist a l ≤ Nat.dist a y ∧
      (Nat.dist a l = Nat.dist a y → y = l ∨ y = h ∧ 2 * a = l + h) := by
  unfold Nat.dist
  omega

private theorem upper_end_closest (hl : l ≤ a) (hh : a < h) (hy : y ≤ l ∨ h ≤ y)
    (hmiddle : l + h ≤ 2 * a) :
    Nat.dist a h ≤ Nat.dist a y ∧
      (Nat.dist a h = Nat.dist a y → y = h ∨ y = l ∧ 2 * a = l + h) := by
  unfold Nat.dist
  omega

end

/-- Rounding goes to a nearest magnitude, and in a tie to the even one. -/
theorem nearest_rounds (num : Nat) {den : Nat} (hden : 0 < den) :
    Rounds num den (nearest num den) := by
  obtain ⟨low, e, hgrid, hat, hnext, hside⟩ := nearest_cases num hden
  have hgap {x : Nat} (hx : Significant x) :
      x * den ≤ low * 2 ^ e * den ∨ (low + 1) * 2 ^ e * den ≤ x * den :=
    (hgrid.gap hx).imp (Nat.mul_le_mul_right den) (Nat.mul_le_mul_right den)
  have hcancel {x r : Nat} (h : x * den = r * den) : x = r := Nat.eq_of_mul_eq_mul_right hden h
  have hpair : Nat.dist (low * 2 ^ e) ((low + 1) * 2 ^ e) = 2 ^ e := by
    rw [Nat.add_one_mul, Nat.dist_eq_sub_of_le (Nat.le_add_right _ _), Nat.add_sub_cancel_left]
  obtain ⟨hr, hmiddle⟩ | ⟨hr, hmiddle⟩ := hside
  · rw [hr]
    refine ⟨hgrid.significant.1, fun x hx => ?_, fun x hx hne htie => ?_⟩
    · exact (lower_end_closest hat hnext (hgap hx) (by omega)).1
    · obtain h | ⟨h, htwice⟩ := (lower_end_closest hat hnext (hgap hx) (by omega)).2 htie
      · exact absurd (hcancel h) hne
      · have heven : low % 2 = 0 := by omega
        rw [hcancel h, hpair]
        exact Nat.mul_dvd_mul_right (Nat.dvd_of_mod_eq_zero heven) _
  · rw [hr]
    refine ⟨hgrid.significant.2, fun x hx => ?_, fun x hx hne htie => ?_⟩
    · exact (upper_end_closest hat hnext (hgap hx) (by omega)).1
    · obtain h | ⟨h, htwice⟩ := (upper_end_closest hat hnext (hgap hx) (by omega)).2 htie
      · exact absurd (hcancel h) hne
      · have heven : (low + 1) % 2 = 0 := by omega
        rw [hcancel h, Nat.dist_comm, hpair]
        exact Nat.mul_dvd_mul_right (Nat.dvd_of_mod_eq_zero heven) _

/-! ## Consequences -/

/-- Rounding keeps the order. -/
theorem nearest_mono {m n den : Nat} (hden : 0 < den) (h : m ≤ n) :
    nearest m den ≤ nearest n den := by
  by_contra hlt
  have hm := (nearest_rounds m hden).closest _ (nearest_rounds n hden).significant
  have hn := (nearest_rounds n hden).closest _ (nearest_rounds m hden).significant
  have hmul : nearest n den * den < nearest m den * den :=
    Nat.mul_lt_mul_of_pos_right (by omega) hden
  have heq : m = n := by unfold Nat.dist at hm hn; omega
  exact hlt (heq ▸ le_rfl)

/-- What 53 bits hold needs no rounding. -/
theorem nearest_of_significant {x : Nat} (h : Significant x) : nearest x 1 = x := by
  have hle := (nearest_rounds x Nat.one_pos).closest x h
  unfold Nat.dist at hle
  omega

/-! ## Integers -/

theorem exists_unit_eq : ∃ e, unit = 2 ^ e := by
  unfold unit
  generalize 1074 = n
  exact ⟨n, rfl⟩

/-- The double of an integer has the sign of the integer. -/
theorem ofInt_value (n : Int) :
    (ofInt n).value = if n < 0 then -(nearest (n.natAbs * unit) 1 : Int)
      else nearest (n.natAbs * unit) 1 := by
  simp [value, ofInt]

theorem ofInt_rounds (n : Int) : Rounds (n.natAbs * unit) 1 (ofInt n).magnitude :=
  nearest_rounds _ Nat.one_pos

theorem ofInt_value_mono {m n : Int} (h : m ≤ n) : (ofInt m).value ≤ (ofInt n).value := by
  have hmono {k l : Int} (hkl : k.natAbs ≤ l.natAbs) :
      nearest (k.natAbs * unit) 1 ≤ nearest (l.natAbs * unit) 1 :=
    nearest_mono Nat.one_pos (Nat.mul_le_mul_right unit hkl)
  rw [ofInt_value, ofInt_value]
  split
  · split
    · -- of two negative integers the smaller one has the greater magnitude
      have hle := hmono (k := n) (l := m) (by omega)
      omega
    · omega
  · split
    · omega
    · have hle := hmono (k := m) (l := n) (by omega)
      omega

/-- Integers up to `2 ^ 53` are doubles. -/
theorem ofInt_value_of_natAbs_le {n : Int} (h : n.natAbs ≤ 2 ^ 53) :
    (ofInt n).value = n * unit := by
  have hsig : Significant (n.natAbs * unit) := by
    obtain ⟨e, he⟩ := exists_unit_eq
    exact he ▸ .of_le h
  rw [ofInt_value, nearest_of_significant hsig]
  push_cast
  split <;> rename_i hn
  · rw [abs_of_neg hn]; ring
  · rw [abs_of_nonneg (by omega)]

end Double

end DocSieve
