-- SUMMARY: Days and seconds are counted in the order of the calendar and of the clock.
import DocSieve.Proofs.Text.Order
import DocSieve.Proofs.Time.Stamp
import DocSieve.Proofs.Time.Writing

/-!
# Chronology

A date is earlier if its year is smaller, in the same year if its month is, and
in the same month if its day is. The day numbers follow this order because the
days of a year fit between its start and the start of the next one, and so do the
days of a month. The seconds of clocks with one offset follow it in the same way,
and so do the texts, which say the parts from the largest to the smallest.
-/

namespace DocSieve

open Text

/-! ## Dates -/

namespace Date

variable {d e : Date}

/-- Dates are ordered by year, month and day. -/
def order (d e : Date) : Ordering :=
  (compare d.year e.year).then ((compare d.month e.month).then (compare d.day e.day))

theorem daysBeforeYear_le {y z : Int} (h : y ≤ z) : daysBeforeYear y ≤ daysBeforeYear z := by
  induction z, h using Int.leInduction with
  | base => exact le_rfl
  | succ z _ ih =>
    rw [daysBeforeYear_succ]
    omega

theorem daysBeforeMonth_le (year : Int) {m n : Nat} (hm : 1 ≤ m) (h : m ≤ n) :
    daysBeforeMonth year m ≤ daysBeforeMonth year n := by
  induction n, h using Nat.le_induction with
  | base => exact le_rfl
  | succ n hmn ih =>
    rw [daysBeforeMonth_succ year (hm.trans hmn)]
    omega

theorem InCalendar.bounds (hd : d.InCalendar) :
    1 ≤ d.month ∧ d.month ≤ 12 ∧ 1 ≤ d.day ∧ d.day ≤ monthLength d.year d.month := by
  simpa [isValid, and_assoc] using isValid_iff.mpr hd

/-- The days of a month end where the next month starts. -/
theorem daysBeforeMonth_add_day_le (hd : d.InCalendar) :
    daysBeforeMonth d.year d.month + d.day ≤ daysBeforeMonth d.year (d.month + 1) := by
  obtain ⟨hmonth, -, -, hday⟩ := hd.bounds
  rw [daysBeforeMonth_succ d.year hmonth]
  omega

/-- The days of a year end where the next year starts. -/
theorem daysBeforeMonth_add_day_le_yearLength (hd : d.InCalendar) :
    daysBeforeMonth d.year d.month + d.day ≤ yearLength d.year := by
  obtain ⟨-, hmonth, -⟩ := hd.bounds
  have hnext : daysBeforeMonth d.year (d.month + 1) ≤ daysBeforeMonth d.year 13 :=
    daysBeforeMonth_le d.year (by omega) (by omega)
  rw [daysBeforeMonth_year] at hnext
  exact (daysBeforeMonth_add_day_le hd).trans hnext

theorem dayNumber_lt_of_year_lt (hd : d.InCalendar) (he : e.InCalendar) (h : d.year < e.year) :
    d.dayNumber < e.dayNumber := by
  have hyear : daysBeforeYear (d.year + 1) ≤ daysBeforeYear e.year := daysBeforeYear_le h
  rw [daysBeforeYear_succ] at hyear
  have hend := daysBeforeMonth_add_day_le_yearLength hd
  obtain ⟨-, -, hday, -⟩ := he.bounds
  unfold dayNumber
  omega

theorem dayNumber_lt_of_month_lt (hd : d.InCalendar) (he : e.InCalendar) (hyear : d.year = e.year)
    (h : d.month < e.month) : d.dayNumber < e.dayNumber := by
  have hmonth : daysBeforeMonth d.year (d.month + 1) ≤ daysBeforeMonth d.year e.month :=
    daysBeforeMonth_le d.year (by omega) h
  have hend := daysBeforeMonth_add_day_le hd
  obtain ⟨-, -, hday, -⟩ := he.bounds
  unfold dayNumber
  rw [← hyear]
  omega

/-- Days are numbered in the order of their dates. -/
theorem compare_dayNumber (hd : d.InCalendar) (he : e.InCalendar) :
    compare d.dayNumber e.dayNumber = d.order e :=
  compare_eq_then (dayNumber_lt_of_year_lt hd he) (dayNumber_lt_of_year_lt he hd) fun hyear =>
    compare_eq_then (dayNumber_lt_of_month_lt hd he hyear)
      (dayNumber_lt_of_month_lt he hd hyear.symm) fun hmonth => by
        unfold dayNumber
        rw [hyear, hmonth]
        exact compare_congr (by omega) (by omega)

end Date

/-! ## Wall times -/

namespace WallTime

variable {w v : WallTime}

/-- Wall times are ordered by their date and the parts of their time of day. -/
def order (w v : WallTime) : Ordering :=
  (w.date.order v.date).then <| (compare w.hour v.hour).then <|
    (compare w.minute v.minute).then <| (compare w.second v.second).then (compare w.nanos v.nanos)

/-- Clocks with the same offset show the instants in their order. -/
theorem order_counted (hw : w.Exists) (hv : v.Exists) (hoffset : w.offset = v.offset) :
    w.counted.order v.counted = w.order v := by
  have hdate : compare w.date.daysSince1970 v.date.daysSince1970 = w.date.order v.date := by
    rw [← Date.dayNumber_eq hw.date, ← Date.dayNumber_eq hv.date,
      Date.compare_dayNumber hw.date hv.date]
  obtain ⟨-, -, hhour, hminute, hsecond⟩ := hw
  obtain ⟨-, -, hhour', hminute', hsecond'⟩ := hv
  have hseconds : compare w.counted.seconds v.counted.seconds =
      (w.date.order v.date).then ((compare w.hour v.hour).then
        ((compare w.minute v.minute).then (compare w.second v.second))) := by
    rw [← hdate]
    simp only [counted]
    exact compare_eq_then (by omega) (by omega) fun _ =>
      compare_eq_then (by omega) (by omega) fun _ =>
        compare_eq_then (by omega) (by omega) fun _ => compare_congr (by omega) (by omega)
  rw [Instant.order, hseconds]
  simp only [Ordering.then_assoc]
  rfl

end WallTime

/-! ## Texts -/

section Texts

variable {d e : Date}

/-- The texts of dates are ordered as the dates. -/
theorem Date.compare_text_append (hd : d.Fits) (he : e.Fits) (cs ds : List Char) :
    compare (d.text.toList ++ cs) (e.text.toList ++ ds) = (d.order e).then (compare cs ds) := by
  have htext (d : Date) (cs : List Char) : d.text.toList ++ cs = (padded 4 d.year.toNat).toList ++
      '-' :: ((padded 2 d.month).toList ++ '-' :: ((padded 2 d.day).toList ++ cs)) := by
    simp [Date.text]
  obtain ⟨hyear, hyear', hmonth, hday⟩ := hd
  obtain ⟨heyear, heyear', hemonth, heday⟩ := he
  have hyears : compare d.year.toNat e.year.toNat = compare d.year e.year :=
    compare_congr (by omega) (by omega)
  rw [htext, htext, compare_padded_append (by decide) (by omega) (by omega), compare_cons,
    compare_padded_append (by decide) hmonth hemonth, compare_cons,
    compare_padded_append (by decide) hday heday, hyears, Date.order]
  simp only [Ordering.then_assoc]

/-- The texts of times of day are ordered as the times of day. -/
theorem Stamp.compare_clockText_append {hour minute second hour' minute' second' : Nat}
    (h : hour < 100 ∧ minute < 100 ∧ second < 100)
    (h' : hour' < 100 ∧ minute' < 100 ∧ second' < 100) (cs ds : List Char) :
    compare ((clockText hour minute second).toList ++ cs)
        ((clockText hour' minute' second').toList ++ ds) =
      (compare hour hour').then ((compare minute minute').then
        ((compare second second').then (compare cs ds))) := by
  have htext (hour minute second : Nat) (cs : List Char) :
      (clockText hour minute second).toList ++ cs = (padded 2 hour).toList ++
        ':' :: ((padded 2 minute).toList ++ ':' :: ((padded 2 second).toList ++ cs)) := by
    simp [clockText]
  rw [htext, htext, compare_padded_append (by decide) h.1 h'.1, compare_cons,
    compare_padded_append (by decide) h.2.1 h'.2.1, compare_cons,
    compare_padded_append (by decide) h.2.2 h'.2.2]

end Texts

end DocSieve
