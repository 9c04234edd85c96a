-- SUMMARY: The order of instants as a linear order, and the texts that both readers of timestamps take.
import Mathlib.Data.Prod.Lex
import DocSieve.Time.Stamp

/-!
# Instants and their texts

Instants are ordered by their seconds, then by their fractions, so a leap
second lies behind every fraction of the second before it. A text that a filter
accepts as an instant is either no text of the internet format or the same
instant in it, so the two readers of a stored timestamp never disagree.
-/

namespace DocSieve

namespace Instant

/-! ## Order -/

instance : LinearOrder Instant :=
  LinearOrder.lift' (fun i => toLex (i.seconds, i.nanos)) fun i j h => by
    obtain ⟨hs, hn⟩ := Prod.mk.inj (toLex.injective h)
    cases i; cases j
    simp_all

theorem lt_iff {i j : Instant} :
    i < j ↔ i.seconds < j.seconds ∨ i.seconds = j.seconds ∧ i.nanos < j.nanos :=
  Prod.Lex.toLex_lt_toLex

theorem order_eq_compare (i j : Instant) : i.order j = compare i j := by
  unfold order
  rcases lt_trichotomy i j with h | rfl | h
  · rw [compare_lt_iff_lt.mpr h]
    rcases lt_iff.mp h with hs | ⟨hs, hn⟩
    · rw [compare_lt_iff_lt.mpr hs, Ordering.lt_then]
    · rw [hs, compare_eq_iff_eq.mpr rfl, Ordering.eq_then, compare_lt_iff_lt.mpr hn]
  · simp
  · rw [compare_gt_iff_gt.mpr h]
    rcases lt_iff.mp h with hs | ⟨hs, hn⟩
    · rw [compare_gt_iff_gt.mpr hs, Ordering.gt_then]
    · rw [hs, compare_eq_iff_eq.mpr rfl, Ordering.eq_then, compare_gt_iff_gt.mpr hn]

/-! ## Leap seconds -/

/-- A leap second comes after all of the second that it belongs to. -/
theorem lt_leap_iff {i j : Instant} (hi : i.isLeap = true) (hj : j.isLeap = false) :
    j < i ↔ j.seconds ≤ i.seconds := by
  simp only [isLeap, decide_eq_true_eq, decide_eq_false_iff_not] at hi hj
  rw [lt_iff]
  omega

/-- A leap second comes before the next second. -/
theorem leap_lt_iff {i j : Instant} (hi : i.isLeap = true) (hj : j.isLeap = false) :
    i < j ↔ i.seconds < j.seconds := by
  rw [← not_le, le_iff_lt_or_eq, lt_leap_iff hi hj]
  have hne : j ≠ i := by
    rintro rfl
    cases hi.symm.trans hj
  simp [hne]

end Instant

namespace Stamp

/-! ## Both readers -/

/-- A date alone is not a text of the internet format, and neither is a date
and a time without an offset. -/
theorem Format.internetTime_of_wallTime {f : Format} {cs : List Char} {w : WallTime}
    (h : f.wallTime? cs = some w) : internetTime? cs = none ∨ internetTime? cs = some w := by
  cases f with
  | day =>
    obtain ⟨⟨date, rest⟩, hdate, h⟩ := Option.bind_eq_some_iff.mp h
    cases rest with
    | nil => exact .inl (by simp [internetTime?, hdate])
    | cons c rest => simp at h
  | clock =>
    obtain ⟨⟨date, rest⟩, hdate, h⟩ := Option.bind_eq_some_iff.mp h
    obtain ⟨rest', hT, h⟩ := Option.bind_eq_some_iff.mp h
    obtain ⟨⟨⟨hour, minute, second⟩, rest''⟩, htime, h⟩ := Option.bind_eq_some_iff.mp h
    cases rest'' with
    | cons c rest'' => simp at h
    | nil =>
      cases rest with
      | nil => simp [after?] at hT
      | cons c rest =>
        simp only [after?, Option.ite_none_right_eq_some, Option.some.injEq] at hT
        obtain ⟨rfl, rfl⟩ := hT
        exact .inl (by simp [internetTime?, hdate, htime, fraction?, offset?])
  | zoned => exact .inr h

theorem operand_eq_ok {s : String} {i : Instant} (h : operand s = .ok i) :
    ∃ f : Format, f.admits s ∧ (f.wallTime? s.toList).bind (·.instant?) = some i ∧
      i.isLeap = false := by
  unfold operand at h
  split at h
  · cases h
  · rename_i f hf
    split at h
    · rename_i j hj
      split at h
      · cases h
      · rename_i hleap
        cases h
        exact ⟨f, by simpa using List.find?_some hf, hj, by simpa using hleap⟩
    · cases h

/-- A filter gives no leap second. -/
theorem isLeap_of_operand {s : String} {i : Instant} (h : operand s = .ok i) : i.isLeap = false := by
  obtain ⟨_, -, -, hleap⟩ := operand_eq_ok h
  exact hleap

theorem internet_of_operand {s : String} {i : Instant} (h : operand s = .ok i) :
    internet? s = none ∨ internet? s = some i := by
  obtain ⟨f, -, hw, -⟩ := operand_eq_ok h
  obtain ⟨w, hw, hi⟩ := Option.bind_eq_some_iff.mp hw
  rcases Format.internetTime_of_wallTime hw with h | h
  · exact .inl (by simp [internet?, h])
  · exact .inr (by simp [internet?, h, hi])

/-- A document stores an instant as a text of the internet format or of a
filter, in no order of preference. -/
theorem stored_eq_some_iff {s : String} {i : Instant} :
    stored? s = some i ↔ internet? s = some i ∨ operand s = .ok i := by
  unfold stored?
  constructor
  · intro h
    cases hi : internet? s with
    | some j => simp_all
    | none =>
      cases ho : operand s <;> simp_all [Except.toOption]
  · rintro (h | h)
    · simp [h]
    · rcases internet_of_operand h with hi | hi <;> simp [hi, h, Except.toOption]

end Stamp

end DocSieve
