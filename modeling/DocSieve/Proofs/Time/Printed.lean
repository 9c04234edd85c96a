-- SUMMARY: The text of an instant determines the instant, in every year.
import DocSieve.Proofs.Time.Writing

/-!
# Printed instants

The text of an instant has no fixed width: years outside the four-digit range
have a sign and may have more digits, and the fraction has as few digits as it
needs. Each part still ends where the text says so, because no part goes on
behind the first character that is no digit. The parts are therefore read off one
after the other, and different instants have different texts.
-/

namespace DocSieve

namespace Text

variable {cs cs' ds es : List Char} {m n width : Nat}

/-! ## Where a number ends -/

/-- Digits end where a character stands that is none. -/
theorem digitText_append_inj {ds es : List Nat} (hds : AreDigits ds) (hes : AreDigits es)
    (hcs : NoDigit cs) (hcs' : NoDigit cs') (h : digitText ds ++ cs = digitText es ++ cs') :
    ds = es ∧ cs = cs' := by
  have hspan := spanDigits_digitText hds hcs
  rw [h, spanDigits_digitText hes hcs'] at hspan
  obtain ⟨hdigits, hrest⟩ := Prod.mk.inj hspan
  exact ⟨hdigits.symm, hrest.symm⟩

/-- A padded number ends where its digits end. -/
theorem padded_append_inj (hwidth : width ≠ 0) (hcs : NoDigit cs) (hcs' : NoDigit cs')
    (h : (padded width m).toList ++ cs = (padded width n).toList ++ cs') : m = n ∧ cs = cs' := by
  obtain ⟨ds, -, hds, rfl, hm⟩ := exists_digits_padded hwidth m
  obtain ⟨es, -, hes, rfl, hn⟩ := exists_digits_padded hwidth n
  rw [hm, hn] at h
  obtain ⟨rfl, hrest⟩ := digitText_append_inj hds hes hcs hcs' h
  exact ⟨rfl, hrest⟩

theorem noDigit_cons {c : Char} (h : decimal? c = none) (cs : List Char) : NoDigit (c :: cs) := by
  simp [NoDigit, h]

end Text

namespace Instant

open Text

variable {cs cs' : List Char} {m n : Nat} {y z : Int} {i j : Instant}

/-! ## Years -/

/-- What stands before the digits of a year. -/
def yearSign (year : Int) : List Char :=
  if 0 ≤ year ∧ year ≤ 9999 then [] else if year < 0 then ['-'] else ['+']

theorem yearText_toList (year : Int) :
    (yearText year).toList = yearSign year ++ (padded 4 year.natAbs).toList := by
  unfold yearText yearSign
  split
  · rename_i h
    have hyear : year.toNat = year.natAbs := by omega
    rw [hyear, List.nil_append]
  · split <;> simp

/-- The sign is what stands before the first digit. -/
theorem takeWhile_yearSign (y : Int) (n : Nat) (cs : List Char) :
    (yearSign y ++ ((padded 4 n).toList ++ cs)).takeWhile (fun c => (decimal? c).isNone) =
      yearSign y := by
  obtain ⟨ds, hne, hds, -, htext⟩ := exists_digits_padded (by decide : 4 ≠ 0) n
  have hdigits : ((padded 4 n).toList ++ cs).takeWhile (fun c => (decimal? c).isNone) = [] := by
    cases ds with
    | nil => exact absurd rfl hne
    | cons d ds =>
      rw [htext, digitText, List.map_cons, List.cons_append, List.takeWhile_cons,
        decimal?_digitChar (hds d List.mem_cons_self)]
      rfl
  rw [List.takeWhile_append_of_pos, hdigits, List.append_nil]
  unfold yearSign
  intro c hc
  split at hc
  · cases hc
  · split at hc <;> (obtain rfl := List.mem_singleton.mp hc; decide)

theorem yearSign_eq_minus_iff : yearSign y = ['-'] ↔ y < 0 := by
  unfold yearSign
  split
  · simp
    omega
  · split
    · simpa
    · simpa using by omega

/-- A year ends at the hyphen behind its digits. -/
theorem yearText_append_inj
    (h : (yearText y).toList ++ '-' :: cs = (yearText z).toList ++ '-' :: cs') :
    y = z ∧ cs = cs' := by
  rw [yearText_toList, yearText_toList, List.append_assoc, List.append_assoc] at h
  have hsign := congrArg (List.takeWhile fun c => (decimal? c).isNone) h
  rw [takeWhile_yearSign, takeWhile_yearSign] at hsign
  rw [hsign] at h
  obtain ⟨habs, hrest⟩ := padded_append_inj (by decide) (noDigit_cons (by decide) _)
    (noDigit_cons (by decide) _) (List.append_cancel_left h)
  have hneg : y < 0 ↔ z < 0 := by
    rw [← yearSign_eq_minus_iff, ← yearSign_eq_minus_iff, hsign]
  exact ⟨by omega, List.tail_eq_of_cons_eq hrest⟩

/-! ## Fractions -/

/-- A point and a padded number are a fraction with the digits of the number. -/
theorem exists_fraction_padded {places : Nat} (hplaces : places ≠ 0) (hle : places ≤ 9)
    (h : n < 10 ^ places) :
    ∃ ds, AreDigits ds ∧ Stamp.billionths ds = n * 10 ^ (9 - places) ∧
      "." ++ padded places n = Stamp.fractionText ds := by
  obtain ⟨ds, rfl, hds, rfl⟩ := exists_digits places h
  have hne : ds ≠ [] := by
    rintro rfl
    exact hplaces rfl
  exact ⟨ds, hds, Stamp.billionths_of_length hle, (Stamp.fractionText_eq hne hds).symm⟩

theorem exists_fraction (h : n < nanosPerSecond) :
    ∃ ds, AreDigits ds ∧ Stamp.billionths ds = n ∧ fractionText n = Stamp.fractionText ds := by
  unfold nanosPerSecond at h
  unfold fractionText
  split
  · rename_i hzero
    exact ⟨[], by simp [AreDigits], hzero ▸ rfl, rfl⟩
  · split
    · obtain ⟨ds, hds, hvalue, htext⟩ :=
        exists_fraction_padded (n := n / 1000000) (by decide : 3 ≠ 0) (by decide) (by omega)
      exact ⟨ds, hds, by omega, htext⟩
    · split
      · obtain ⟨ds, hds, hvalue, htext⟩ :=
          exists_fraction_padded (n := n / 1000) (by decide : 6 ≠ 0) (by decide) (by omega)
        exact ⟨ds, hds, by omega, htext⟩
      · obtain ⟨ds, hds, hvalue, htext⟩ :=
          exists_fraction_padded (n := n) (by decide : 9 ≠ 0) (by decide) (by omega)
        exact ⟨ds, hds, by omega, htext⟩

/-- A fraction ends where the `Z` stands. -/
theorem fractionText_append_inj (hm : m < nanosPerSecond) (hn : n < nanosPerSecond)
    (h : (fractionText m).toList ++ 'Z' :: cs = (fractionText n).toList ++ 'Z' :: cs') :
    m = n ∧ cs = cs' := by
  obtain ⟨ds, hds, rfl, hm⟩ := exists_fraction hm
  obtain ⟨es, hes, rfl, hn⟩ := exists_fraction hn
  rw [hm, hn] at h
  have hread (ds : List Nat) (hds : AreDigits ds) (cs : List Char) :
      Stamp.fraction? ((Stamp.fractionText ds).toList ++ 'Z' :: cs) = some (_, 'Z' :: cs) :=
    Stamp.fraction?_fractionText hds (noDigit_cons (by decide) _) (by simp)
  have hsame := hread ds hds cs
  rw [h, hread es hes cs'] at hsame
  obtain ⟨hvalue, hrest⟩ := Prod.mk.inj (Option.some.inj hsame)
  exact ⟨hvalue.symm, (List.tail_eq_of_cons_eq hrest).symm⟩

/-! ## Instants -/

/-- The parts of the text of an instant that lies in no leap second. -/
theorem toText_toList (h : i.isLeap = false) :
    let date := Date.ofDayNumber (i.seconds / secondsPerDay)
    let second := (i.seconds % secondsPerDay).toNat
    i.toText.toList = (yearText date.year).toList ++ '-' :: ((padded 2 date.month).toList ++
      '-' :: ((padded 2 date.day).toList ++ 'T' :: ((padded 2 (second / 3600)).toList ++
      ':' :: ((padded 2 (second / 60 % 60)).toList ++ ':' :: ((padded 2 (second % 60)).toList ++
      ((fractionText i.nanos).toList ++ ['Z'])))))) := by
  have hnanos : i.nanos < nanosPerSecond := by simpa [isLeap] using h
  simp [toText, Nat.div_eq_of_lt hnanos, Nat.mod_eq_of_lt hnanos]

/-- What follows the seconds is no digit. -/
theorem noDigit_fractionText (h : n < nanosPerSecond) :
    NoDigit ((fractionText n).toList ++ ['Z']) := by
  obtain ⟨ds, -, -, htext⟩ := exists_fraction h
  rw [htext]
  cases ds with
  | nil => exact noDigit_cons (by decide) []
  | cons d ds =>
    have hpoint : (Stamp.fractionText (d :: ds)).toList ++ ['Z'] =
        '.' :: (digitText (d :: ds) ++ ['Z']) := by
      simp [Stamp.fractionText]
    rw [hpoint]
    exact noDigit_cons (by decide) _

/-- Different instants have different texts. -/
theorem toText_inj (hi : i.isLeap = false) (hj : j.isLeap = false) (h : i.toText = j.toText) :
    i = j := by
  rw [← String.toList_inj, toText_toList hi, toText_toList hj] at h
  have hnanos {i : Instant} (h : i.isLeap = false) : i.nanos < nanosPerSecond := by
    simpa [isLeap] using h
  have hmark {c : Char} {cs cs' : List Char} (hc : decimal? c = none) {m n : Nat}
      (h : (padded 2 m).toList ++ c :: cs = (padded 2 n).toList ++ c :: cs') :
      m = n ∧ cs = cs' := by
    obtain ⟨hn, hrest⟩ :=
      padded_append_inj (by decide) (noDigit_cons hc _) (noDigit_cons hc _) h
    exact ⟨hn, List.tail_eq_of_cons_eq hrest⟩
  -- the parts are read off from the left, each with what follows it
  obtain ⟨hyear, h⟩ := yearText_append_inj h
  obtain ⟨hmonth, h⟩ := hmark (by decide) h
  obtain ⟨hday, h⟩ := hmark (by decide) h
  obtain ⟨hhour, h⟩ := hmark (by decide) h
  obtain ⟨hminute, h⟩ := hmark (by decide) h
  obtain ⟨hsecond, h⟩ := padded_append_inj (by decide) (noDigit_fractionText (hnanos hi))
    (noDigit_fractionText (hnanos hj)) h
  obtain ⟨hfraction, -⟩ := fractionText_append_inj (hnanos hi) (hnanos hj) h
  have hdate : Date.ofDayNumber (i.seconds / secondsPerDay) =
      Date.ofDayNumber (j.seconds / secondsPerDay) :=
    Date.mk.injEq .. ▸ ⟨hyear, hmonth, hday⟩
  have hdays := congrArg Date.dayNumber hdate
  rw [(Date.ofDayNumber_spec _).2, (Date.ofDayNumber_spec _).2] at hdays
  have hseconds : i.seconds = j.seconds := by
    unfold secondsPerDay at hdays hhour hminute hsecond
    omega
  exact Instant.mk.injEq .. ▸ ⟨hseconds, hfraction⟩

end Instant

end DocSieve
