-- SUMMARY: Texts that differ in case only have one lower-case form, which lower-casing leaves as it is.
import DocSieve.Text.LowerCase

/-!
# Texts in another case

Lower-casing runs over a text once. That nothing is left to do after it needs
the table: no lower-case form is a character that has one of its own. That
ASCII letters may be switched before it needs the two properties that decide
the form of a sigma: an ASCII letter has them alike in both cases.
-/

namespace DocSieve.Text

variable {c d : Char} {cs before : List Char} {s t : String}

/-! ## Runs of the table -/

namespace CaseRun

/-- The run lowers into characters, from its first one to its last. -/
def lowersIntoChars (r : CaseRun) : Bool :=
  Nat.blt (r.image + (r.last - r.first)) 0xD800 ||
    (Nat.blt 0xDFFF r.image && Nat.blt (r.image + (r.last - r.first)) 0x110000)

/-- No lower-case form of `r` is a character of `q`: one run ends before the
other starts, or their steps never meet. -/
def apart (r q : CaseRun) : Bool :=
  Nat.blt q.last r.image || (Nat.blt (r.image + (r.last - r.first)) q.first ||
    ((r.first == r.last || r.step % q.step == 0) && r.image % q.step != q.first % q.step))

/-- The dotted capital I as a run, without the dot that its form goes on with. -/
def dottedI : CaseRun := ⟨0x130, 0x130, 1, 0x69⟩

variable {r q : CaseRun}

theorem image?_eq_some_iff :
    r.image? c = some d ↔
      (r.first ≤ c.toNat ∧ c.toNat ≤ r.last ∧ (c.toNat - r.first) % r.step = 0) ∧
        Char.ofNat (r.image + (c.toNat - r.first)) = d := by
  simp [image?]

theorem toNat_of_image? (hchars : r.lowersIntoChars = true) (h : r.image? c = some d) :
    d.toNat = r.image + (c.toNat - r.first) := by
  obtain ⟨⟨hfirst, hlast, -⟩, rfl⟩ := image?_eq_some_iff.mp h
  have hvalid : (r.image + (c.toNat - r.first)).isValidChar := by
    simp only [lowersIntoChars, Bool.or_eq_true, Bool.and_eq_true, Nat.blt_eq] at hchars
    unfold Nat.isValidChar
    omega
  rw [Char.ofNat, dif_pos hvalid]
  rfl

/-- A lower-case form of a run is no character of a run apart from it. -/
theorem image?_eq_none_of_apart (hchars : r.lowersIntoChars = true) (hapart : r.apart q = true)
    (h : r.image? c = some d) : q.image? d = none := by
  have hd := toNat_of_image? hchars h
  obtain ⟨⟨hfirst, hlast, hstep⟩, -⟩ := image?_eq_some_iff.mp h
  rw [Option.eq_none_iff_forall_ne_some]
  intro e he
  obtain ⟨⟨hfirst', hlast', hstep'⟩, -⟩ := image?_eq_some_iff.mp he
  simp only [apart, Bool.or_eq_true, Bool.and_eq_true, Nat.blt_eq, beq_iff_eq, bne_iff_ne]
    at hapart
  rcases hapart with hbehind | hbefore | ⟨hsteps, hmeet⟩
  · omega
  · omega
  · -- a form has the remainder of the first form of `r`, a character of `q` that of its first one
    apply hmeet
    have hr : q.step ∣ c.toNat - r.first := by
      rcases hsteps with hone | hdvd
      · simp [show c.toNat - r.first = 0 by omega]
      · exact Nat.dvd_trans (Nat.dvd_of_mod_eq_zero hdvd) (Nat.dvd_of_mod_eq_zero hstep)
    have hform : d.toNat % q.step = r.image % q.step := by
      rw [hd, Nat.add_mod, Nat.mod_eq_zero_of_dvd hr, Nat.add_zero, Nat.mod_mod]
    rw [← hform, ← Nat.sub_add_cancel hfirst', Nat.add_mod, hstep', Nat.zero_add, Nat.mod_mod]

/-- No lower-case form of the table is lowered again. -/
theorem lowerRuns_closed :
    (lowerRuns.all fun r => r.lowersIntoChars && (dottedI :: lowerRuns).all r.apart) = true := by
  decide +kernel

end CaseRun

/-! ## Characters that are lower-cased already -/

/-- Lower-casing keeps the character wherever it stands. -/
def IsLower (c : Char) : Prop := c ≠ 'Σ' ∧ lowerChar c = [c]

instance (c : Char) : Decidable (IsLower c) := inferInstanceAs (Decidable (_ ∧ _))

theorem isLower_of_image? {r : CaseRun} (hr : r ∈ lowerRuns) (h : r.image? c = some d) :
    IsLower d := by
  have hclosed := List.all_eq_true.mp CaseRun.lowerRuns_closed r hr
  obtain ⟨hchars, hapart⟩ := Bool.and_eq_true_iff.mp hclosed
  have hnone : ∀ q ∈ CaseRun.dottedI :: lowerRuns, q.image? d = none := fun q hq =>
    CaseRun.image?_eq_none_of_apart hchars (List.all_eq_true.mp hapart q hq) h
  obtain ⟨hdotted, hruns⟩ := List.forall_mem_cons.mp hnone
  have hsimple : lowerSimple d = d := by
    rw [lowerSimple, List.findSome?_eq_none_iff.mpr hruns]
    rfl
  constructor
  · rintro rfl
    exact absurd hsimple (by decide +kernel)
  · have hd : d ≠ 'İ' := by
      rintro rfl
      exact absurd hdotted (by decide)
    rw [lowerChar, if_neg hd, hsimple]

/-- What a character is lowered to is lower-cased already. -/
theorem isLower_of_mem_lowerChar (hc : c ≠ 'Σ') (h : d ∈ lowerChar c) : IsLower d := by
  unfold lowerChar at h
  split at h
  · have hparts : ∀ d ∈ ['i', '\u0307'], IsLower d :=
      List.forall_mem_cons.mpr
        ⟨by decide +kernel, List.forall_mem_singleton.mpr (by decide +kernel)⟩
    exact hparts d h
  · rename_i hI
    obtain rfl := List.mem_singleton.mp h
    cases hruns : lowerRuns.findSome? (·.image? c) with
    | none =>
      have hsimple : lowerSimple c = c := by rw [lowerSimple, hruns]; rfl
      rw [hsimple]
      exact ⟨hc, by rw [lowerChar, if_neg hI, hsimple]⟩
    | some d =>
      obtain ⟨r, hr, himage⟩ := List.exists_of_findSome?_eq_some hruns
      rw [lowerSimple, hruns]
      exact isLower_of_image? hr himage

theorem isLower_lowerSigma (before after : List Char) : IsLower (lowerSigma before after) := by
  unfold lowerSigma
  split <;> decide +kernel

theorem forall_isLower_lowerAfter (before cs : List Char) :
    ∀ c ∈ lowerAfter before cs, IsLower c := by
  induction cs generalizing before with
  | nil => simp [lowerAfter]
  | cons c cs ih =>
    rw [lowerAfter, List.forall_mem_append]
    refine ⟨?_, ih (c :: before)⟩
    intro d hd
    split at hd
    · obtain rfl := List.mem_singleton.mp hd
      exact isLower_lowerSigma before cs
    · rename_i hc
      exact isLower_of_mem_lowerChar hc hd

theorem lowerAfter_eq_self (h : ∀ c ∈ cs, IsLower c) : lowerAfter before cs = cs := by
  induction cs generalizing before with
  | nil => rfl
  | cons c cs ih =>
    obtain ⟨⟨hsigma, hc⟩, hcs⟩ := List.forall_mem_cons.mp h
    rw [lowerAfter, if_neg hsigma, hc, ih hcs, List.singleton_append]

/-- A lower-case form is its own lower-case form. -/
theorem lower_lower (s : String) : lower (lower s) = lower s := by
  unfold lower
  rw [String.toList_ofList, lowerAfter_eq_self (forall_isLower_lowerAfter [] s.toList)]

theorem lower_eq_empty_iff : lower s = "" ↔ s = "" := by
  rw [lower, ← String.toList_inj, ← String.toList_inj, String.toList_ofList, String.toList_empty]
  cases s.toList with
  | nil => simp [lowerAfter]
  | cons c cs =>
    have hform : lowerChar c ≠ [] := by
      unfold lowerChar
      split <;> simp
    rw [lowerAfter]
    split <;> simp [hform]

/-! ## ASCII letters in the other case -/

/-- Lower-casing treats both characters alike, as itself and as a neighbour. -/
structure Alike (c d : Char) : Prop where
  sigma : c = 'Σ' ↔ d = 'Σ'
  form : lowerChar c = lowerChar d
  ignorable : caseIgnorableRanges.holds c = caseIgnorableRanges.holds d
  cased : casedRanges.holds c = casedRanges.holds d

/-- An ASCII letter is not looked through. -/
theorem not_caseIgnorable_of_letter
    (h : 0x41 ≤ c.toNat ∧ c.toNat ≤ 0x5A ∨ 0x61 ≤ c.toNat ∧ c.toNat ≤ 0x7A) :
    caseIgnorableRanges.holds c = false := by
  have hranges : ∀ b ∈ caseIgnorableRanges.bounds,
      b.2 < 0x41 ∨ 0x5A < b.1 ∧ b.2 < 0x61 ∨ 0x7A < b.1 := by
    decide +kernel
  refine List.any_eq_false.mpr fun b hb => ?_
  have hb := hranges b hb
  simp only [Bool.and_eq_true, decide_eq_true_eq]
  omega

/-- An ASCII letter in lower case and in upper case are alike. -/
theorem alike_toLower (c : Char) : Alike c.toLower c := by
  by_cases hrange : 'A'.val ≤ c.val ∧ c.val ≤ 'Z'.val
  · have hletters : ∀ n < 26, let c := Char.ofNat (0x41 + n)
        c ≠ 'Σ' ∧ lowerChar c = [c.toLower] ∧ c.toLower.toNat = 0x61 + n ∧
        casedRanges.holds c.toLower = casedRanges.holds c := by
      decide +kernel
    have hlow : 0x41 ≤ c.toNat := hrange.1
    have hhigh : c.toNat ≤ 0x5A := hrange.2
    obtain ⟨n, hn⟩ := Nat.exists_eq_add_of_le hlow
    obtain ⟨hsigma, hform, hlower, hcased⟩ := hletters n (by omega)
    rw [← hn, Char.ofNat_toNat] at hsigma hform hlower hcased
    obtain ⟨hsigma', hform'⟩ := isLower_of_mem_lowerChar hsigma (hform ▸ List.mem_singleton_self _)
    have hignorable := not_caseIgnorable_of_letter (.inl ⟨hlow, hhigh⟩)
    have hignorable' := not_caseIgnorable_of_letter (c := c.toLower) (.inr (by omega))
    exact ⟨iff_of_false hsigma' hsigma, hform'.trans hform.symm,
      hignorable'.trans hignorable.symm, hcased⟩
  · have hself : c.toLower = c := dif_neg hrange
    rw [hself]
    exact ⟨.rfl, rfl, rfl, rfl⟩

theorem startsCased_map_toLower (cs : List Char) :
    startsCased (cs.map Char.toLower) = startsCased cs := by
  induction cs with
  | nil => rfl
  | cons c cs ih =>
    have hc := alike_toLower c
    unfold startsCased at ih ⊢
    simp only [List.map_cons, List.dropWhile_cons, hc.ignorable]
    cases caseIgnorableRanges.holds c with
    | true => exact ih
    | false => exact hc.cased

/-- The case of ASCII letters does not matter, neither in a text nor in front of it. -/
theorem lowerAfter_map_toLower (before cs : List Char) :
    lowerAfter (before.map Char.toLower) (cs.map Char.toLower) = lowerAfter before cs := by
  induction cs generalizing before with
  | nil => rfl
  | cons c cs ih =>
    have hc := alike_toLower c
    have hrest := ih (c :: before)
    rw [List.map_cons] at hrest
    rw [List.map_cons, lowerAfter, lowerAfter, hrest, hc.form, lowerSigma, lowerSigma,
      startsCased_map_toLower, startsCased_map_toLower]
    simp only [hc.sigma]

/-! ## Texts in another case -/

/-- The texts differ in case only: ASCII letters are switched, or a text stands
for its lower-case form, any number of times. -/
inductive Recased : String → String → Prop where
  | letters {s t : String} : s.toList.map Char.toLower = t.toList.map Char.toLower → Recased s t
  | lowered (s : String) : Recased s (lower s)
  | symm {s t : String} : Recased s t → Recased t s
  | trans {s t u : String} : Recased s t → Recased t u → Recased s u

theorem Recased.lower_eq (h : Recased s t) : lower s = lower t := by
  induction h with
  | @letters s t heq =>
    have hs := lowerAfter_map_toLower [] s.toList
    have ht := lowerAfter_map_toLower [] t.toList
    unfold lower
    rw [← hs, ← ht, heq]
  | lowered s => exact (lower_lower s).symm
  | symm _ ih => exact ih.symm
  | trans _ _ ih ih' => exact ih.trans ih'

theorem Recased.eq_empty_iff (h : Recased s t) : s = "" ↔ t = "" := by
  rw [← lower_eq_empty_iff, h.lower_eq, lower_eq_empty_iff]

end DocSieve.Text
