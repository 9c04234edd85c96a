-- SUMMARY: Lower-casing a part of a text gives a part of the lower-cased text exactly if each capital sigma keeps its form.
import Mathlib.Data.List.Basic
import DocSieve.Text.LowerCase

/-!
# Lower-casing parts of a text

Every character but the capital sigma has one lower-case form wherever it
stands. The form of a capital sigma depends on its neighbours, so a part of a
text that is lower-cased by itself may differ from what becomes of it in the
text, and it does so in the place of a capital sigma only.
-/

namespace DocSieve.Text

variable {before before' after after' cs ds : List Char}

/-! ## A part of a text -/

/-- The lower-case form of `cs` where it stands between `before`, which is given
nearest first, and `after`. -/
def lowerBetween (before : List Char) (cs after : List Char) : List Char :=
  match cs with
  | [] => []
  | c :: cs =>
    (if c = 'Σ' then [lowerSigma before (cs ++ after)] else lowerChar c)
      ++ lowerBetween (c :: before) cs after

theorem lowerAfter_append (before cs after : List Char) :
    lowerAfter before (cs ++ after) =
      lowerBetween before cs after ++ lowerAfter (cs.reverse ++ before) after := by
  induction cs generalizing before with
  | nil => rfl
  | cons c cs ih => simp [lowerAfter, lowerBetween, ih]

/-- A text is a part of itself with nothing around it. -/
theorem lowerAfter_eq_lowerBetween (before cs : List Char) :
    lowerAfter before cs = lowerBetween before cs [] := by
  simpa [lowerAfter] using lowerAfter_append before cs []

/-- How long a lower-case form is does not depend on the neighbours. -/
theorem length_lowerBetween (before after before' after' cs : List Char) :
    (lowerBetween before cs after).length = (lowerBetween before' cs after').length := by
  induction cs generalizing before before' with
  | nil => rfl
  | cons c cs ih =>
    simp only [lowerBetween, List.length_append, ih (c :: before) (c :: before')]
    split <;> rfl

/-! ## Capital sigmas -/

/-- Each capital sigma of `cs` has the same form between one pair of texts as
between another. -/
def SigmasAgree (before after before' after' cs : List Char) : Prop :=
  ∀ front back, cs = front ++ 'Σ' :: back →
    lowerSigma (front.reverse ++ before) (back ++ after) =
      lowerSigma (front.reverse ++ before') (back ++ after')

theorem sigmasAgree_cons {c : Char} :
    SigmasAgree before after before' after' (c :: cs) ↔
      (c = 'Σ' → lowerSigma before (cs ++ after) = lowerSigma before' (cs ++ after')) ∧
        SigmasAgree (c :: before) after (c :: before') after' cs := by
  constructor
  · intro h
    refine ⟨?_, ?_⟩
    · rintro rfl
      exact h [] cs rfl
    · rintro front back rfl
      simpa using h (c :: front) back rfl
  · rintro ⟨hhead, htail⟩ front back heq
    cases front with
    | nil =>
      obtain ⟨rfl, rfl⟩ := List.cons.inj heq
      exact hhead rfl
    | cons d front =>
      obtain ⟨rfl, rfl⟩ := List.cons.inj heq
      simpa using htail front back rfl

/-- A part of a text is lower-cased alike in two places exactly if its capital
sigmas are. -/
theorem lowerBetween_eq_iff :
    lowerBetween before cs after = lowerBetween before' cs after' ↔
      SigmasAgree before after before' after' cs := by
  induction cs generalizing before before' with
  | nil => simp [lowerBetween, SigmasAgree]
  | cons c cs ih =>
    rw [sigmasAgree_cons, ← ih, lowerBetween, lowerBetween]
    by_cases hc : c = 'Σ'
    · simp [hc]
    · simp [hc]

/-- Each capital sigma of `cs` has the same form between the two texts as if
`cs` stood alone. -/
def KeepsSigmas (before cs after : List Char) : Prop :=
  SigmasAgree before.reverse after [] [] cs

theorem keepsSigmas_iff :
    KeepsSigmas before cs after ↔ lowerBetween before.reverse cs after = lowerAfter [] cs := by
  rw [lowerAfter_eq_lowerBetween, lowerBetween_eq_iff, KeepsSigmas]

theorem lowerAfter_eq_append (before cs after : List Char) :
    lowerAfter [] (before ++ cs ++ after) =
      lowerBetween [] before (cs ++ after) ++ lowerBetween before.reverse cs after
        ++ lowerAfter ((before ++ cs).reverse) after := by
  rw [List.append_assoc, lowerAfter_append, lowerAfter_append]
  simp

theorem KeepsSigmas.isInfix (h : KeepsSigmas before cs after) :
    lowerAfter [] cs <:+: lowerAfter [] (before ++ cs ++ after) := by
  rw [lowerAfter_eq_append, keepsSigmas_iff.mp h]
  exact ⟨_, _, rfl⟩

theorem isPrefix_iff_keepsSigmas :
    lowerAfter [] cs <+: lowerAfter [] (cs ++ after) ↔ KeepsSigmas [] cs after := by
  rw [lowerAfter_append, keepsSigmas_iff]
  constructor
  · intro h
    have hlength := length_lowerBetween [] after [] [] cs
    rw [← lowerAfter_eq_lowerBetween] at hlength
    have hpart := List.prefix_of_prefix_length_le h (List.prefix_append _ _) (Nat.le_of_eq hlength.symm)
    exact (hpart.eq_of_length hlength.symm).symm
  · intro h
    rw [← h]
    exact List.prefix_append _ _

theorem isSuffix_iff_keepsSigmas :
    lowerAfter [] cs <:+ lowerAfter [] (before ++ cs) ↔ KeepsSigmas before cs [] := by
  rw [lowerAfter_append, List.append_nil, lowerAfter_eq_lowerBetween before.reverse,
    keepsSigmas_iff]
  constructor
  · intro h
    have hlength := length_lowerBetween before.reverse [] [] [] cs
    rw [← lowerAfter_eq_lowerBetween [] cs] at hlength
    have hpart := List.suffix_of_suffix_length_le h (List.suffix_append _ _) (Nat.le_of_eq hlength.symm)
    exact (hpart.eq_of_length hlength.symm).symm
  · intro h
    rw [← h]
    exact List.suffix_append _ _

/-! ## Where sigmas keep their form -/

theorem keepsSigmas_of_notMem (h : 'Σ' ∉ cs) : KeepsSigmas before cs after := by
  rintro front back rfl
  simp at h

theorem startsCased_append (cs ds : List Char) :
    startsCased (cs ++ ds) =
      if cs.all caseIgnorableRanges.holds then startsCased ds else startsCased cs := by
  induction cs with
  | nil => rfl
  | cons c cs ih =>
    by_cases hc : caseIgnorableRanges.holds c = true
    · simp only [startsCased, List.cons_append, List.dropWhile_cons, hc, if_true, List.all_cons,
        Bool.true_and] at ih ⊢
      exact ih
    · simp [startsCased, hc]

theorem startsCased_of_all {cs : List Char} (h : cs.all caseIgnorableRanges.holds = true) :
    startsCased cs = false := by
  have happend := startsCased_append cs []
  rwa [List.append_nil, if_pos h] at happend

/-- What is not cased has no effect on sigmas that stand beyond other characters. -/
theorem startsCased_append_of_uncased (h : startsCased ds = false) :
    startsCased (cs ++ ds) = startsCased cs := by
  rw [startsCased_append]
  split
  · rename_i hall
    rw [h, startsCased_of_all hall]
  · rfl

/-- A part with no cased character next to it keeps its sigmas. -/
theorem keepsSigmas_of_uncased (hbefore : startsCased before.reverse = false)
    (hafter : startsCased after = false) : KeepsSigmas before cs after := by
  intro front back _
  simp [lowerSigma, startsCased_append_of_uncased hbefore, startsCased_append_of_uncased hafter]

end DocSieve.Text
