-- SUMMARY: Numbers of a fixed width as text: what is read back is what was written, and nothing else is read.
import Mathlib.Algebra.Ring.Nat
import Mathlib.Data.List.Induction
import DocSieve.Text.Digit

/-!
# Digits

A list of digit values stands between a number and its text. Padding with
zeros on the left makes the text of a given width unique, so reading that many
digits accepts the padded texts of the numbers below a power of ten.
-/

namespace DocSieve.Text

variable {cs rest : List Char} {ds : List Nat} {c : Char} {d n width : Nat}

/-! ## One digit -/

theorem decimal?_digitChar (h : d < 10) : decimal? (Nat.digitChar d) = some d := by
  decide +revert

theorem eq_digitChar_of_decimal? (h : decimal? c = some d) : d < 10 ∧ c = Nat.digitChar d := by
  unfold decimal? at h
  split at h
  · rename_i hc
    cases h
    have hlow : 48 ≤ c.toNat := hc.1
    have hhigh : c.toNat ≤ 57 := hc.2
    have hzero : '0'.toNat = 48 := rfl
    have hsmall : c.toNat - '0'.toNat < 10 := by omega
    refine ⟨hsmall, Char.toNat_inj.mp ?_⟩
    rw [Nat.toNat_digitChar_of_lt_ten hsmall]
    omega
  · cases h

/-! ## Lists of digits -/

/-- The values are digits. -/
def AreDigits (ds : List Nat) : Prop := ∀ d ∈ ds, d < 10

instance (ds : List Nat) : Decidable (AreDigits ds) :=
  inferInstanceAs (Decidable (∀ d ∈ ds, d < 10))

/-- The text of a list of digits. -/
def digitText (ds : List Nat) : List Char := ds.map Nat.digitChar

theorem length_digitText (ds : List Nat) : (digitText ds).length = ds.length := List.length_map _

theorem filterMap_digitText (h : AreDigits ds) : (digitText ds).filterMap decimal? = ds := by
  induction ds with
  | nil => rfl
  | cons d ds ih =>
    obtain ⟨hd, hds⟩ := List.forall_mem_cons.mp h
    rw [digitText, List.map_cons, List.filterMap_cons_some (decimal?_digitChar hd)]
    exact congrArg (d :: ·) (ih hds)

/-- Characters all of which are digits are the text of their values. -/
theorem eq_digitText_of_length (h : (cs.filterMap decimal?).length = cs.length) :
    AreDigits (cs.filterMap decimal?) ∧ cs = digitText (cs.filterMap decimal?) := by
  induction cs with
  | nil => exact ⟨by simp [AreDigits], rfl⟩
  | cons c cs ih =>
    cases hc : decimal? c with
    | none =>
      rw [List.filterMap_cons_none hc] at h
      have hle := List.length_filterMap_le decimal? cs
      simp only [List.length_cons] at h
      omega
    | some d =>
      rw [List.filterMap_cons_some hc] at h ⊢
      obtain ⟨hds, hcs⟩ := ih (by simpa using h)
      obtain ⟨hd, rfl⟩ := eq_digitChar_of_decimal? hc
      exact ⟨List.forall_mem_cons.mpr ⟨hd, hds⟩, congrArg (Nat.digitChar d :: ·) hcs⟩

theorem ofDigits_concat (ds : List Nat) (d : Nat) :
    ofDigits (ds ++ [d]) = ofDigits ds * 10 + d := by
  simp [ofDigits]

theorem ofDigits_lt (h : AreDigits ds) : ofDigits ds < 10 ^ ds.length := by
  induction ds using List.reverseRecOn with
  | nil => decide
  | append_singleton ds d ih =>
    have hds := ih fun e he => h e (by simp [he])
    have hd : d < 10 := h d (by simp)
    rw [ofDigits_concat, List.length_append, List.length_singleton, Nat.pow_succ]
    omega

/-- Every number below a power of ten has its digits. -/
theorem exists_digits (width : Nat) (h : n < 10 ^ width) :
    ∃ ds, ds.length = width ∧ AreDigits ds ∧ ofDigits ds = n := by
  induction width generalizing n with
  | zero => exact ⟨[], rfl, by simp [AreDigits], by simp [ofDigits]; omega⟩
  | succ width ih =>
    rw [Nat.pow_succ] at h
    obtain ⟨ds, hlength, hds, hn⟩ := @ih (n / 10) (by omega)
    refine ⟨ds ++ [n % 10], by simp [hlength], ?_, ?_⟩
    · intro d hd
      rcases List.mem_append.mp hd with hd | hd
      · exact hds d hd
      · obtain rfl := List.mem_singleton.mp hd
        omega
    · rw [ofDigits_concat, hn]
      omega

/-! ## Padded numbers -/

theorem padded_toList (width n : Nat) :
    (padded width n).toList =
      List.replicate (width - (Nat.toDigits 10 n).length) '0' ++ Nat.toDigits 10 n := by
  have hlength : n.repr.length = (Nat.toDigits 10 n).length := by
    rw [← String.length_toList, Nat.toList_repr]
  simp [padded, hlength]

/-- The last digit of a padded number stands apart. -/
theorem padded_succ_toList (hwidth : width ≠ 0) (n : Nat) :
    (padded (width + 1) n).toList = (padded width (n / 10)).toList ++ [Nat.digitChar (n % 10)] := by
  rw [padded_toList, padded_toList]
  by_cases h : n < 10
  · rw [Nat.toDigits_of_lt_base h, Nat.div_eq_of_lt h, Nat.mod_eq_of_lt h]
    obtain ⟨w, rfl⟩ := Nat.exists_eq_succ_of_ne_zero hwidth
    have hzero : Nat.toDigits 10 0 = ['0'] := rfl
    simp [hzero, List.replicate_succ']
  · rw [Nat.toDigits_of_base_le (by decide) (by omega)]
    simp

/-- A padded number is the text of its digits. -/
theorem padded_ofDigits (hne : ds ≠ []) (h : AreDigits ds) :
    (padded ds.length (ofDigits ds)).toList = digitText ds := by
  induction ds using List.reverseRecOn with
  | nil => exact absurd rfl hne
  | append_singleton ds d ih =>
    have hd : d < 10 := h d (by simp)
    by_cases hds : ds = []
    · subst hds
      simp [ofDigits, digitText, padded_toList, Nat.toDigits_of_lt_base hd]
    · have hlast := padded_succ_toList (mt List.length_eq_zero_iff.mp hds) (ofDigits ds * 10 + d)
      rw [ofDigits_concat, List.length_append, List.length_singleton, hlast]
      have hdiv : (ofDigits ds * 10 + d) / 10 = ofDigits ds := by omega
      have hmod : (ofDigits ds * 10 + d) % 10 = d := by omega
      rw [hdiv, hmod, ih hds fun e he => h e (by simp [he])]
      simp [digitText]

/-- A padded number has digits, also where it is wider than it is padded to. -/
theorem exists_digits_padded (hwidth : width ≠ 0) (n : Nat) :
    ∃ ds, ds ≠ [] ∧ AreDigits ds ∧ ofDigits ds = n ∧ (padded width n).toList = digitText ds := by
  obtain ⟨places, hplaces⟩ : ∃ places, max width (Nat.toDigits 10 n).length = places := ⟨_, rfl⟩
  have hlt : n < 10 ^ places :=
    (Nat.length_toDigits_le_iff (by decide) (by omega)).mp (by omega)
  obtain ⟨ds, hlength, hds, rfl⟩ := exists_digits places hlt
  have hne : ds ≠ [] := by
    rintro rfl
    simp only [List.length_nil] at hlength
    omega
  have hsame : padded width (ofDigits ds) = padded ds.length (ofDigits ds) := by
    rw [← String.toList_inj, padded_toList, padded_toList]
    congr 2
    omega
  exact ⟨ds, hne, hds, rfl, by rw [hsame, padded_ofDigits hne hds]⟩

/-! ## Reading -/

theorem readDigits?_digitText (h : AreDigits ds) (rest : List Char) :
    readDigits? ds.length (digitText ds ++ rest) = some (ofDigits ds, rest) := by
  have htake : (digitText ds ++ rest).take ds.length = digitText ds := by
    rw [← length_digitText, List.take_left]
  have hdrop : (digitText ds ++ rest).drop ds.length = rest := by
    rw [← length_digitText, List.drop_left]
  simp [readDigits?, htake, hdrop, filterMap_digitText h]

/-- Reading digits takes the padded numbers of the width. -/
theorem readDigits?_eq_some_iff (hwidth : width ≠ 0) :
    readDigits? width cs = some (n, rest) ↔
      n < 10 ^ width ∧ cs = (padded width n).toList ++ rest := by
  constructor
  · intro h
    simp only [readDigits?, Option.ite_none_right_eq_some, Option.some.injEq, Prod.mk.injEq] at h
    obtain ⟨hlength, hn, hrest⟩ := h
    have htake : (cs.take width).length ≤ width := List.length_take_le _ _
    have hle := List.length_filterMap_le decimal? (cs.take width)
    have hall : ((cs.take width).filterMap decimal?).length = (cs.take width).length := by omega
    obtain ⟨hds, hcs⟩ := eq_digitText_of_length hall
    have hne : (cs.take width).filterMap decimal? ≠ [] := by
      intro hnil
      rw [hnil, List.length_nil] at hlength
      exact hwidth hlength.symm
    have hpadded := padded_ofDigits hne hds
    rw [hlength, hn, ← hcs] at hpadded
    have hlt := ofDigits_lt hds
    rw [hlength, hn] at hlt
    exact ⟨hlt, by rw [hpadded, ← hrest, List.take_append_drop]⟩
  · rintro ⟨hn, hcs⟩
    obtain ⟨ds, hlength, hds, hn⟩ := exists_digits width hn
    have hne : ds ≠ [] := by
      rintro rfl
      exact hwidth hlength.symm
    rw [hcs, ← hn, ← hlength, padded_ofDigits hne hds]
    exact readDigits?_digitText hds rest

/-- A list of characters that does not go on with a digit. -/
def NoDigit (rest : List Char) : Prop := ∀ c ∈ rest.head?, decimal? c = none

theorem spanDigits_digitText (h : AreDigits ds) (hrest : NoDigit rest) :
    spanDigits (digitText ds ++ rest) = (ds, rest) := by
  induction ds with
  | nil =>
    cases rest with
    | nil => rfl
    | cons c rest => simp [digitText, spanDigits, hrest c rfl]
  | cons d ds ih =>
    obtain ⟨hd, hds⟩ := List.forall_mem_cons.mp h
    have hmore := ih hds
    rw [digitText, List.map_cons, List.cons_append, spanDigits, decimal?_digitChar hd]
    rw [digitText] at hmore
    simp only [hmore]

/-- The digits at the front are the text of digits. -/
theorem spanDigits_spec (cs : List Char) :
    AreDigits (spanDigits cs).1 ∧ cs = digitText (spanDigits cs).1 ++ (spanDigits cs).2 := by
  induction cs with
  | nil => exact ⟨by simp [spanDigits, AreDigits], rfl⟩
  | cons c cs ih =>
    unfold spanDigits
    cases hc : decimal? c with
    | none => exact ⟨by simp [AreDigits], rfl⟩
    | some d =>
      obtain ⟨hd, rfl⟩ := eq_digitChar_of_decimal? hc
      exact ⟨List.forall_mem_cons.mpr ⟨hd, ih.1⟩, congrArg (Nat.digitChar d :: ·) ih.2⟩

end DocSieve.Text
