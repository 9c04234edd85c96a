-- SUMMARY: Instants of a filter in one form are ordered as their texts, and a date is its midnight.
import DocSieve.Proofs.Filter.Instants
import DocSieve.Proofs.Time.Chronology

/-!
# Text order and time order

The formats of a filter write the parts of a wall time from the largest to the
smallest, each at its full width. Two texts of the same format, with the same
offset if they have one, are therefore in the order of their instants, and
different texts are never the same instant.
-/

namespace DocSieve

open Text

namespace Stamp

/-- Where the offset of a zoned text stands: behind the six decimal places. -/
def zoneStart : Nat := 26

/-- Two texts have the same form: they are of one format, and if they are zoned,
their offsets are written in the same way. -/
inductive SameForm (s t : String) : Prop where
  | day : Format.day.admits s = true → Format.day.admits t = true → SameForm s t
  | clock : Format.clock.admits s = true → Format.clock.admits t = true → SameForm s t
  | zoned : Format.zoned.admits s = true → Format.zoned.admits t = true →
      s.toList.drop zoneStart = t.toList.drop zoneStart → SameForm s t

variable {s t : String} {d : Date} {hour minute second : Nat} {w v : WallTime}

/-! ## What a text of each format spells -/

theorem length_dateText (h : d.Fits) : d.text.toList.length = 10 :=
  (Format.fits_length (Format.fits_day h)).symm

theorem length_clockText (h : hour < 100 ∧ minute < 100 ∧ second < 100) :
    (clockText hour minute second).toList.length = 8 :=
  (Format.fits_length (Format.fits_clock h)).symm

theorem length_day (h : Format.day.admits s = true) : s.toList.length = 10 := by
  rw [Format.admits_day] at h
  exact (Format.fits_length h).symm

theorem Spells.of_day (h : Spells s w) (hw : w.Exists) (hs : Format.day.admits s = true) :
    ∃ d : Date, w = ⟨d, 0, 0, 0, 0, 0⟩ ∧ s = d.text := by
  obtain ⟨f, hf, hread⟩ := Format.exists_wallTime? h hw
  obtain rfl := Format.eq_of_admits hf hs
  obtain ⟨d, -, hspelled⟩ := Format.wallTime?_day_iff.mp hread
  exact ⟨d, hspelled⟩

theorem Spells.of_clock (h : Spells s w) (hw : w.Exists) (hs : Format.clock.admits s = true) :
    ∃ (d : Date) (hour minute second : Nat), w = ⟨d, hour, minute, second, 0, 0⟩ ∧
      s = d.text ++ "T" ++ clockText hour minute second := by
  obtain ⟨f, hf, hread⟩ := Format.exists_wallTime? h hw
  obtain rfl := Format.eq_of_admits hf hs
  obtain ⟨d, hour, minute, second, -, -, hspelled⟩ := Format.wallTime?_clock_iff.mp hread
  exact ⟨d, hour, minute, second, hspelled⟩

theorem Spells.of_zoned (h : Spells s w) (hw : w.Exists) (hs : Format.zoned.admits s = true) :
    ∃ (d : Date) (hour minute second micros : Nat) (z : Zone), micros < 1000000 ∧ z.IsValid ∧
      w = ⟨d, hour, minute, second, 1000 * micros, z.offset⟩ ∧
      s = d.text ++ "T" ++ clockText hour minute second ++ "." ++ padded 6 micros ++ z.text := by
  have hlength := Format.length_of_admits hs
  cases h with
  | day =>
    rw [length_dateText hw.fits] at hlength
    exact absurd hlength (by decide)
  | clock =>
    rw [String.toList_append, String.toList_append, List.length_append, List.length_append,
      length_dateText hw.fits, length_clockText hw.clock] at hlength
    exact absurd hlength (by decide)
  | zoned hmicros hz =>
    exact ⟨_, _, _, _, _, _, hmicros, hz, rfl, rfl⟩

/-- The offset stands behind the date, the time and six decimal places. -/
theorem drop_zoneStart {micros : Nat} (hd : d.Fits)
    (hclock : hour < 100 ∧ minute < 100 ∧ second < 100) (hmicros : micros < 1000000)
    (zone : String) :
    (d.text ++ "T" ++ clockText hour minute second ++ "." ++ padded 6 micros ++ zone).toList.drop
      zoneStart = zone.toList := by
  have hfront : (d.text ++ "T" ++ clockText hour minute second ++ "." ++
      padded 6 micros).toList.length = zoneStart := by
    simp only [String.toList_append, List.length_append, length_dateText hd,
      length_clockText hclock, length_padded (by decide : 6 ≠ 0) hmicros]
    rfl
  rw [String.toList_append, List.drop_left' hfront]

/-! ## Texts in order -/

theorem Zone.offset_eq {z z' : Zone} (hz : z.IsValid) (hz' : z'.IsValid)
    (h : z.text.toList = z'.text.toList) : z.offset = z'.offset := by
  have hread (z : Zone) (hz : z.IsValid) : offset? z.text.toList = some (z.offset, []) :=
    offset?_eq_some_iff.mpr ⟨z, hz, rfl, (List.append_nil _).symm⟩
  have hsame := hread z hz
  rw [h, hread z' hz'] at hsame
  exact (Prod.mk.inj (Option.some.inj hsame)).1.symm

/-- The texts of the dates and of the times of day decide before what follows. -/
theorem compare_clock_append (hw : w.Exists) (hv : v.Exists) (cs ds : List Char) :
    compare (w.date.text.toList ++ 'T' :: ((clockText w.hour w.minute w.second).toList ++ cs))
        (v.date.text.toList ++ 'T' :: ((clockText v.hour v.minute v.second).toList ++ ds)) =
      (w.date.order v.date).then ((compare w.hour v.hour).then ((compare w.minute v.minute).then
        ((compare w.second v.second).then (compare cs ds)))) := by
  rw [Date.compare_text_append hw.fits hv.fits, compare_cons,
    compare_clockText_append hw.clock hv.clock]

/-- Texts that spell wall times in the same form are ordered as the wall times,
and have the same offset. -/
theorem Spells.compare_eq (hs : Spells s w) (ht : Spells t v) (hw : w.Exists) (hv : v.Exists)
    (hform : SameForm s t) : w.offset = v.offset ∧ compare s t = w.order v := by
  rw [compare_toList]
  cases hform with
  | day hs' ht' =>
    obtain ⟨d, rfl, rfl⟩ := hs.of_day hw hs'
    obtain ⟨e, rfl, rfl⟩ := ht.of_day hv ht'
    have hparts := Date.compare_text_append hw.fits hv.fits [] []
    exact ⟨rfl, by simpa [WallTime.order] using hparts⟩
  | clock hs' ht' =>
    obtain ⟨d, hour, minute, second, rfl, rfl⟩ := hs.of_clock hw hs'
    obtain ⟨e, hour', minute', second', rfl, rfl⟩ := ht.of_clock hv ht'
    have hparts := compare_clock_append hw hv [] []
    exact ⟨rfl, by simpa [WallTime.order] using hparts⟩
  | zoned hs' ht' hzone =>
    obtain ⟨d, hour, minute, second, micros, z, hmicros, hz, rfl, rfl⟩ := hs.of_zoned hw hs'
    obtain ⟨e, hour', minute', second', micros', z', hmicros', hz', rfl, rfl⟩ :=
      ht.of_zoned hv ht'
    rw [drop_zoneStart hw.fits hw.clock hmicros, drop_zoneStart hv.fits hv.clock hmicros'] at hzone
    refine ⟨Zone.offset_eq hz hz' hzone, ?_⟩
    -- the offsets are the same text, so the decimal places are the last to decide
    have hfraction :
        compare (padded 6 micros ++ z.text).toList (padded 6 micros' ++ z'.text).toList =
          compare (1000 * micros) (1000 * micros') := by
      rw [String.toList_append, String.toList_append, hzone,
        compare_padded_append (by decide) hmicros hmicros']
      simp only [Std.ReflOrd.compare_self, Ordering.then_eq]
      exact compare_congr (by omega) (by omega)
    have hparts := compare_clock_append hw hv ('.' :: (padded 6 micros ++ z.text).toList)
      ('.' :: (padded 6 micros' ++ z'.text).toList)
    rw [compare_cons, hfraction] at hparts
    simpa [WallTime.order] using hparts

/-! ## Midnight -/

theorem date?_append {cs : List Char} (h : cs.length = 10) (rest : List Char) :
    date? (cs ++ rest) = (date? cs).map fun p => (p.1, rest) := by
  -- the text of a date fills ten places, so it ends where `cs` does
  have hwhole {d : Date} (cs' rest' : List Char) (hd : d.Fits)
      (hcs : cs ++ cs' = d.text.toList ++ rest') : cs = d.text.toList ∧ cs' = rest' :=
    List.append_inj hcs (by rw [h, length_dateText hd])
  ext ⟨d, rest'⟩
  rw [date?_eq_some_iff, Option.map_eq_some_iff]
  constructor
  · rintro ⟨hd, hcs⟩
    obtain ⟨hfront, rfl⟩ := hwhole _ _ hd hcs
    have hdate : date? cs = some (d, []) :=
      date?_eq_some_iff.mpr ⟨hd, by rw [hfront, List.append_nil]⟩
    exact ⟨(d, []), hdate, rfl⟩
  · rintro ⟨⟨e, cs'⟩, hdate, heq⟩
    obtain ⟨rfl, rfl⟩ := Prod.mk.inj heq
    obtain ⟨hd, hcs⟩ := date?_eq_some_iff.mp hdate
    obtain ⟨hfront, -⟩ := hwhole [] _ hd (by rw [List.append_nil, hcs])
    exact ⟨hd, by rw [hfront]⟩

/-- A date and the zeros of a clock behind it, with or without an offset, are
read as the date. -/
theorem wallTime?_midnight (h : s.toList.length = 10) :
    Format.clock.wallTime? (s ++ "T00:00:00").toList = Format.day.wallTime? s.toList ∧
      Format.zoned.wallTime? (s ++ "T00:00:00.000000Z").toList = Format.day.wallTime? s.toList := by
  have hday := date?_append h []
  rw [List.append_nil] at hday
  rw [String.toList_append, String.toList_append]
  simp only [Format.wallTime?, internetTime?, date?_append h]
  cases hdate : date? s.toList with
  | none => exact ⟨rfl, rfl⟩
  | some found =>
    obtain ⟨d, rest⟩ := found
    rw [hdate] at hday
    obtain rfl : rest = [] := (Prod.mk.inj (Option.some.inj hday)).2
    exact ⟨rfl, rfl⟩

theorem admits_midnight (h : Format.day.admits s = true) :
    Format.clock.admits (s ++ "T00:00:00") = true ∧
      Format.zoned.admits (s ++ "T00:00:00.000000Z") = true := by
  rw [Format.admits_day] at h
  rw [Format.admits_clock, Format.admits_zoned, List.any_eq_true, String.toList_append,
    String.toList_append]
  exact ⟨Format.fits_join (by decide) h (by decide +kernel), ('Z', []), by decide,
    Format.fits_join (by decide) h (by decide +kernel)⟩

theorem operand_eq_ok_iff_of_admits {f : Format} {i : Instant} (h : f.admits s = true) :
    operand s = .ok i ↔
      (f.wallTime? s.toList).bind (·.instant?) = some i ∧ i.isLeap = false := by
  rw [operand_eq_ok_iff]
  constructor
  · rintro ⟨g, hg, hread⟩
    obtain rfl := Format.eq_of_admits hg h
    exact hread
  · intro hread
    exact ⟨f, h, hread⟩

theorem operand_midnight {i : Instant} (h : Format.day.admits s = true) :
    (operand s = .ok i ↔ operand (s ++ "T00:00:00") = .ok i) ∧
      (operand s = .ok i ↔ operand (s ++ "T00:00:00.000000Z") = .ok i) := by
  obtain ⟨hclock, hzoned⟩ := admits_midnight h
  obtain ⟨hread, hread'⟩ := wallTime?_midnight (length_day h)
  rw [operand_eq_ok_iff_of_admits h, operand_eq_ok_iff_of_admits hclock,
    operand_eq_ok_iff_of_admits hzoned, hread, hread']
  exact ⟨Iff.rfl, Iff.rfl⟩

end Stamp

theorem instantOperand_eq_ok_iff {s : String} {i : Instant} :
    instantOperand s = .ok i ↔ Stamp.operand s = .ok i :=
  Except.mapError_eq_ok_iff

/-- **Text order is time order.** Two texts of the same form that a filter takes
as instants are compared as their instants are, so different texts are different
instants. A date is the same instant as its midnight, with or without an offset. -/
theorem instants_ordered_as_texts :
    (∀ s t i j, Stamp.SameForm s t → instantOperand s = .ok i → instantOperand t = .ok j →
      i.order j = compare s t ∧ (i = j ↔ s = t)) ∧
    (∀ date i, Stamp.Format.day.admits date = true →
      (instantOperand date = .ok i ↔ instantOperand (date ++ "T00:00:00") = .ok i) ∧
      (instantOperand date = .ok i ↔ instantOperand (date ++ "T00:00:00.000000Z") = .ok i)) := by
  simp only [instantOperand_eq_ok_iff]
  refine ⟨?order, ?midnight⟩
  case order =>
    intro s t i j hform hi hj
    obtain ⟨w, hs, hw, rfl⟩ := Stamp.operand_eq_ok_iff_spells.mp hi
    obtain ⟨v, ht, hv, rfl⟩ := Stamp.operand_eq_ok_iff_spells.mp hj
    obtain ⟨hoffset, hcompare⟩ := hs.compare_eq ht hw hv hform
    have horder : w.counted.order v.counted = compare s t :=
      (WallTime.order_counted hw hv hoffset).trans hcompare.symm
    refine ⟨horder, ?_⟩
    rw [← compare_eq_iff_eq (a := s), ← horder, Instant.order_eq_compare, compare_eq_iff_eq]
  case midnight =>
    intro date i hdate
    exact Stamp.operand_midnight hdate

/-- The last moment of a leap day and the first of the day after it, on a clock
that is ahead, and the midnight of a leap day. -/
theorem instants_ordered_as_texts_leap_day :
    (∃ i j, instantOperand "2024-02-29T23:59:59.999999+05:30" = .ok i ∧
      instantOperand "2024-03-01T00:00:00.000000+05:30" = .ok j ∧ i.order j = .lt) ∧
    instantOperand "2024-02-29T00:00:00" = .ok ⟨1709164800, 0⟩ := by
  obtain ⟨horder, hmidnight⟩ := instants_ordered_as_texts
  have hi : instantOperand "2024-02-29T23:59:59.999999+05:30" = .ok ⟨1709231399, 999999000⟩ := by
    decide +kernel
  have hj : instantOperand "2024-03-01T00:00:00.000000+05:30" = .ok ⟨1709231400, 0⟩ := by
    decide +kernel
  have hform : Stamp.SameForm "2024-02-29T23:59:59.999999+05:30"
      "2024-03-01T00:00:00.000000+05:30" :=
    .zoned (by decide +kernel) (by decide +kernel) (by decide +kernel)
  have hdate : instantOperand "2024-02-29" = .ok ⟨1709164800, 0⟩ := by decide +kernel
  refine ⟨⟨_, _, hi, hj, ?_⟩, (hmidnight "2024-02-29" _ (by decide +kernel)).1.mp hdate⟩
  rw [(horder _ _ _ _ hform hi hj).1]
  decide +kernel

end DocSieve
