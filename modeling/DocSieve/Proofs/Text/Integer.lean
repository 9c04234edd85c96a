-- SUMMARY: The texts that are read as signed 64-bit integers, with the integer that each of them spells.
import Mathlib.Tactic.Ring
import DocSieve.Proofs.Text.Digit
import DocSieve.Text.Integer

/-!
# Integers as text

The reader appends one digit after the other and stops at the first number that
64 bits do not hold. A digit never moves a number towards zero, so where the
last number is in range, all numbers before it are. The reader therefore takes
the texts of the integers in range, however many zeros lead, and no others.
-/

namespace DocSieve

theorem isInt64_iff {n : Int} : isInt64 n = true ↔ -2 ^ 63 ≤ n ∧ n < 2 ^ 63 := by
  simp only [isInt64, Bool.and_eq_true, decide_eq_true_eq]
  omega

namespace Text

variable {cs : List Char} {c : Char} {ds es : List Nat} {m n sign : Int}

/-! ## Integers as they are written -/

/-- The characters are a sign or none and then one ASCII digit or more. They
spell the integer in decimal. -/
inductive SpellsInteger : List Char → Int → Prop where
  | unsigned {ds : List Nat} : ds ≠ [] → AreDigits ds → SpellsInteger (digitText ds) (ofDigits ds)
  | plus {ds : List Nat} : ds ≠ [] → AreDigits ds →
      SpellsInteger ('+' :: digitText ds) (ofDigits ds)
  | minus {ds : List Nat} : ds ≠ [] → AreDigits ds →
      SpellsInteger ('-' :: digitText ds) (-ofDigits ds)

theorem padded_one (k : Nat) : padded 1 k = toString k := by
  have hlength : 0 < (Nat.toDigits 10 k).length := Nat.length_toDigits_pos
  have hnone : 1 - (Nat.toDigits 10 k).length = 0 := by omega
  rw [← String.toList_inj, padded_toList, hnone]
  exact Nat.toList_repr.symm

theorem exists_digits_toString (k : Nat) :
    ∃ ds, ds ≠ [] ∧ AreDigits ds ∧ ofDigits ds = k ∧ (toString k).toList = digitText ds := by
  rw [← padded_one]
  exact exists_digits_padded one_ne_zero k

/-- The decimal text of an integer spells it. -/
theorem spellsInteger_toString (n : Int) : SpellsInteger (toString n).toList n := by
  cases n with
  | ofNat k =>
    obtain ⟨ds, hne, hds, rfl, htext⟩ := exists_digits_toString k
    exact htext ▸ .unsigned hne hds
  | negSucc k =>
    obtain ⟨ds, hne, hds, hk, htext⟩ := exists_digits_toString (k + 1)
    have hminus : toString (Int.negSucc k) = "-" ++ toString (k + 1) := rfl
    have hn : Int.negSucc k = -ofDigits ds := by omega
    rw [hminus, String.toList_append, htext, hn]
    exact .minus hne hds

/-! ## Appending digits -/

/-- A number does not get smaller when digits are put behind it. -/
theorem ofDigits_le_append (es ds : List Nat) : ofDigits es ≤ ofDigits (es ++ ds) := by
  induction ds using List.reverseRecOn with
  | nil => rw [List.append_nil]
  | append_singleton ds d ih =>
    rw [← List.append_assoc, ofDigits_concat]
    omega

/-- Digits are appended to a number on the side of zero that the sign says, as
long as 64 bits hold the number. -/
structure Appends (sign : Int) (read : Int → List Char → Except IntegerError Int) : Prop where
  nil : ∀ n, read n [] = .ok n
  cons : ∀ n c cs m, read n (c :: cs) = .ok m ↔
    ∃ d, decimal? c = some d ∧ isInt64 (n * 10 + sign * d) = true ∧
      read (n * 10 + sign * d) cs = .ok m

theorem appends_extendUp : Appends 1 extendUp where
  nil _ := rfl
  cons n c cs m := by
    rw [extendUp]
    cases decimal? c with
    | none => simp
    | some d => by_cases hnext : isInt64 (n * 10 + d) = true <;> simp [hnext]

theorem appends_extendDown : Appends (-1) extendDown where
  nil _ := rfl
  cons n c cs m := by
    rw [extendDown]
    simp only [Int.neg_one_mul, ← Int.sub_eq_add_neg]
    cases decimal? c with
    | none => simp
    | some d => by_cases hnext : isInt64 (n * 10 - d) = true <;> simp [hnext]

namespace Appends

variable {read : Int → List Char → Except IntegerError Int}

/-- Where digits lead to an integer in range, so do fewer of them. -/
theorem isInt64_of_append (hsign : sign = 1 ∨ sign = -1)
    (h : isInt64 (sign * ofDigits (es ++ ds)) = true) : isInt64 (sign * ofDigits es) = true := by
  have hle := ofDigits_le_append es ds
  rw [isInt64_iff] at h ⊢
  rcases hsign with rfl | rfl <;> omega

/-- With the digits `es` read, the rest is read if it is digits only and the
whole number is in range. -/
theorem eq_ok_iff (hread : Appends sign read) (hsign : sign = 1 ∨ sign = -1)
    (hes : isInt64 (sign * ofDigits es) = true) :
    read (sign * ofDigits es) cs = .ok m ↔ ∃ ds, AreDigits ds ∧ cs = digitText ds ∧
      m = sign * ofDigits (es ++ ds) ∧ isInt64 m = true := by
  induction cs generalizing es with
  | nil =>
    rw [hread.nil]
    constructor
    · intro h
      cases h
      exact ⟨[], by simp [AreDigits], rfl, by rw [List.append_nil], hes⟩
    · rintro ⟨ds, -, hcs, rfl, -⟩
      rw [List.map_eq_nil_iff.mp hcs.symm, List.append_nil]
  | cons c cs ih =>
    have hstep (d : Nat) : sign * ofDigits es * 10 + sign * d = sign * ofDigits (es ++ [d]) := by
      rw [ofDigits_concat]
      push_cast
      ring
    rw [hread.cons]
    constructor
    · rintro ⟨d, hd, hnext, hmore⟩
      rw [hstep] at hnext hmore
      obtain ⟨hlt, rfl⟩ := eq_digitChar_of_decimal? hd
      obtain ⟨ds, hds, rfl, hm, hrange⟩ := (ih hnext).mp hmore
      rw [List.append_assoc] at hm
      exact ⟨d :: ds, List.forall_mem_cons.mpr ⟨hlt, hds⟩, rfl, hm, hrange⟩
    · rintro ⟨ds, hds, hcs, hm, hrange⟩
      cases ds with
      | nil => cases hcs
      | cons d ds =>
        obtain ⟨hlt, hds⟩ := List.forall_mem_cons.mp hds
        obtain ⟨rfl, rfl⟩ := List.cons.inj hcs
        -- only the whole number is known to be in range, and it bounds this one
        rw [← List.singleton_append, ← List.append_assoc] at hm
        have hnext := isInt64_of_append hsign (hm ▸ hrange)
        refine ⟨d, decimal?_digitChar hlt, ?_⟩
        rw [hstep]
        exact ⟨hnext, (ih hnext).mpr ⟨ds, hds, rfl, hm, hrange⟩⟩

theorem zero_eq_ok_iff (hread : Appends sign read) (hsign : sign = 1 ∨ sign = -1) :
    read 0 cs = .ok m ↔
      ∃ ds, AreDigits ds ∧ cs = digitText ds ∧ m = sign * ofDigits ds ∧ isInt64 m = true := by
  have hzero : sign * ofDigits [] = 0 := Int.mul_zero sign
  rw [← hzero, hread.eq_ok_iff hsign (by rw [hzero]; rfl)]
  rfl

end Appends

theorem extendUp_eq_ok_iff :
    extendUp 0 cs = .ok m ↔
      ∃ ds, AreDigits ds ∧ cs = digitText ds ∧ m = ofDigits ds ∧ isInt64 m = true := by
  simpa using appends_extendUp.zero_eq_ok_iff (.inl rfl)

theorem extendDown_eq_ok_iff :
    extendDown 0 cs = .ok m ↔
      ∃ ds, AreDigits ds ∧ cs = digitText ds ∧ m = -ofDigits ds ∧ isInt64 m = true := by
  simpa using appends_extendDown.zero_eq_ok_iff (.inr rfl)

/-! ## Reading -/

theorem readInt64_digit {d : Nat} (h : decimal? c = some d) :
    readInt64 (c :: cs) = extendUp 0 (c :: cs) := by
  have hplus : c ≠ '+' := by
    rintro rfl
    cases h
  have hminus : c ≠ '-' := by
    rintro rfl
    cases h
  simp [readInt64, hplus, hminus]

theorem spellsInteger_of_readInt64 (h : readInt64 cs = .ok n) :
    SpellsInteger cs n ∧ isInt64 n = true := by
  unfold readInt64 at h
  split at h
  case h_1 | h_2 | h_3 => cases h
  -- no arm is left with an empty rest, so there is a digit behind the sign
  case h_4 rest hrest =>
    obtain ⟨ds, hds, rfl, rfl, hrange⟩ := extendDown_eq_ok_iff.mp h
    refine ⟨.minus ?_ hds, hrange⟩
    rintro rfl
    exact hrest rfl
  case h_5 rest hrest =>
    obtain ⟨ds, hds, rfl, rfl, hrange⟩ := extendUp_eq_ok_iff.mp h
    refine ⟨.plus ?_ hds, hrange⟩
    rintro rfl
    exact hrest rfl
  case h_6 hempty _ _ _ _ =>
    obtain ⟨ds, hds, rfl, rfl, hrange⟩ := extendUp_eq_ok_iff.mp h
    refine ⟨.unsigned ?_ hds, hrange⟩
    rintro rfl
    exact hempty rfl

theorem SpellsInteger.readInt64_eq (h : SpellsInteger cs n) (hrange : isInt64 n = true) :
    readInt64 cs = .ok n := by
  cases h with
  | @unsigned ds hne hds =>
    have hread := extendUp_eq_ok_iff.mpr ⟨ds, hds, rfl, rfl, hrange⟩
    cases ds with
    | nil => exact absurd rfl hne
    | cons d ds =>
      have hd := decimal?_digitChar (List.forall_mem_cons.mp hds).1
      exact (readInt64_digit hd).trans hread
  | @plus ds hne hds =>
    have hread := extendUp_eq_ok_iff.mpr ⟨ds, hds, rfl, rfl, hrange⟩
    cases ds with
    | nil => exact absurd rfl hne
    | cons d ds => exact hread
  | @minus ds hne hds =>
    have hread := extendDown_eq_ok_iff.mpr ⟨ds, hds, rfl, rfl, hrange⟩
    cases ds with
    | nil => exact absurd rfl hne
    | cons d ds => exact hread

/-- The integers that are read are those that are spelled, as far as 64 bits
hold them. -/
theorem readInt64_eq_ok_iff : readInt64 cs = .ok n ↔ SpellsInteger cs n ∧ isInt64 n = true :=
  ⟨spellsInteger_of_readInt64, fun ⟨hspells, hrange⟩ => hspells.readInt64_eq hrange⟩

/-- The text spells an integer that 64 bits with a sign hold. -/
structure SpellsInt64 (s : String) (n : Int) : Prop where
  spells : SpellsInteger s.toList n
  low : -2 ^ 63 ≤ n
  high : n < 2 ^ 63

theorem int64_eq_ok_iff {s : String} : int64 s = .ok n ↔ SpellsInt64 s n := by
  rw [int64, readInt64_eq_ok_iff, isInt64_iff]
  exact ⟨fun ⟨hspells, hlow, hhigh⟩ => ⟨hspells, hlow, hhigh⟩, fun h => ⟨h.spells, h.low, h.high⟩⟩

theorem SpellsInt64.ne_empty {s : String} (h : SpellsInt64 s n) : s ≠ "" := by
  rintro rfl
  cases int64_eq_ok_iff.mpr h

end Text

end DocSieve
