-- SUMMARY: The texts that a filter takes as instants, as a grammar, with the instant that each of them gives.
import DocSieve.Filter.Compile
import DocSieve.Proofs.Except
import DocSieve.Proofs.Time.Stamp
import DocSieve.Proofs.Time.Writing

/-!
# Instants of a filter

Two grammars guard an operand. The pattern of a format looks at the form of the
text and takes digits of any script, the reader behind it takes ASCII digits and
more ways to write a second, a fraction and an offset. What both take is spelled
out here once, and the instant it gives is counted in the calendar.
-/

namespace DocSieve

open Text

namespace Stamp

/-! ## Texts -/

/-- The offset is written with `Z`, or with a plus or a hyphen. -/
def Zone.IsPlain : Zone → Prop
  | .letter c => c = 'Z'
  | .ahead _ _ => True
  | .behind sign _ _ => sign = '-'

/-- The text spells the wall time in a format of the filter. -/
inductive Spells : String → WallTime → Prop where
  | day {d : Date} : Spells d.text ⟨d, 0, 0, 0, 0, 0⟩
  | clock {d : Date} {hour minute second : Nat} :
      Spells (d.text ++ "T" ++ clockText hour minute second) ⟨d, hour, minute, second, 0, 0⟩
  | zoned {d : Date} {hour minute second micros : Nat} {z : Zone} :
      micros < 1000000 → z.IsValid → z.IsPlain →
      Spells (d.text ++ "T" ++ clockText hour minute second ++ "." ++ padded 6 micros ++ z.text)
        ⟨d, hour, minute, second, 1000 * micros, z.offset⟩

/-! ## Patterns -/

namespace Format

variable {ps qs cs rest : List Char} {ds : List Nat} {c p : Char} {n width : Nat}

theorem fits_length (h : fits ps cs = true) : ps.length = cs.length := by
  fun_induction fits ps cs with
  | case1 => rfl
  | case2 p ps c cs ih =>
    rw [List.length_cons, List.length_cons, ih (Bool.and_eq_true_iff.mp h).2]
  | case3 => cases h

theorem fits_append (h : ps.length = cs.length) :
    fits (ps ++ qs) (cs ++ rest) = (fits ps cs && fits qs rest) := by
  induction ps generalizing cs with
  | nil =>
    obtain rfl := List.length_eq_zero_iff.mp h.symm
    rfl
  | cons p ps ih =>
    cases cs with
    | nil => cases h
    | cons c cs =>
      simp only [List.cons_append, fits, ih (Nat.succ.inj h), Bool.and_assoc]

theorem fits_cons_iff (hp : p ≠ '0') :
    fits (p :: ps) (c :: cs) = true ↔ c = p ∧ fits ps cs = true := by
  simp [fits, hp]

/-- Texts of two patterns with the same character between them. -/
theorem fits_join (hp : p ≠ '0') (h : fits ps cs = true) (h' : fits qs rest = true) :
    fits (ps ++ p :: qs) (cs ++ p :: rest) = true := by
  rw [fits_append (fits_length h), h, Bool.true_and, fits_cons_iff hp]
  exact ⟨rfl, h'⟩

theorem isDecimalDigit_digitChar {d : Nat} (h : d < 10) :
    isDecimalDigit (Nat.digitChar d) = true := by
  decide +revert

theorem fits_digitText (h : AreDigits ds) :
    fits (List.replicate ds.length '0') (digitText ds) = true := by
  induction ds with
  | nil => rfl
  | cons d ds ih =>
    obtain ⟨hd, hds⟩ := List.forall_mem_cons.mp h
    have hmore := ih hds
    rw [digitText] at hmore
    simp [List.replicate_succ, digitText, fits, isDecimalDigit_digitChar hd, hmore]

theorem fits_padded (hwidth : width ≠ 0) (h : n < 10 ^ width) :
    fits (List.replicate width '0') (padded width n).toList = true := by
  obtain ⟨ds, rfl, hds, rfl⟩ := exists_digits width h
  rw [padded_ofDigits (by rintro rfl; exact hwidth rfl) hds]
  exact fits_digitText hds

/-- Digits in front of a character that is none fill as many places. -/
theorem digits_of_fits {q : Char} (h : AreDigits ds) (hc : isDecimalDigit c = false)
    (hq : isDecimalDigit q = false)
    (hfits : fits (List.replicate n '0' ++ q :: qs) (digitText ds ++ c :: rest) = true) :
    ds.length = n ∧ c = q := by
  have hzero : q ≠ '0' := by
    rintro rfl
    cases hq
  induction ds generalizing n with
  | nil =>
    cases n with
    | zero =>
      exact ⟨rfl, ((fits_cons_iff hzero).mp hfits).1⟩
    | succ n =>
      simp [List.replicate_succ, digitText, fits, hc] at hfits
  | cons d ds ih =>
    obtain ⟨hd, hds⟩ := List.forall_mem_cons.mp h
    have hdigit := isDecimalDigit_digitChar hd
    cases n with
    | zero =>
      obtain ⟨heq, -⟩ := (fits_cons_iff hzero).mp hfits
      rw [heq, hq] at hdigit
      cases hdigit
    | succ n =>
      obtain ⟨-, hmore⟩ := Bool.and_eq_true_iff.mp hfits
      obtain ⟨hlength, hcq⟩ := ih hds hmore
      exact ⟨congrArg Nat.succ hlength, hcq⟩

/-! ## Formats -/

def dayPattern : List Char :=
  List.replicate 4 '0' ++ '-' :: (List.replicate 2 '0' ++ '-' :: List.replicate 2 '0')

def clockPattern : List Char :=
  List.replicate 2 '0' ++ ':' :: (List.replicate 2 '0' ++ ':' :: List.replicate 2 '0')

def sizePattern : List Char := List.replicate 2 '0' ++ ':' :: List.replicate 2 '0'

variable {d : Date} {hour minute second : Nat} {s : String} {w : WallTime}

theorem fits_day (h : d.Fits) : fits dayPattern d.text.toList = true := by
  have hyear : fits (List.replicate 4 '0') (padded 4 d.year.toNat).toList = true := by
    have := h.year_nonneg
    have := h.year_lt
    exact fits_padded (by decide) (by omega)
  have hmonth := fits_padded (by decide : 2 ≠ 0) h.month_lt
  have hday := fits_padded (by decide : 2 ≠ 0) h.day_lt
  have htext : d.text.toList = (padded 4 d.year.toNat).toList ++ '-' ::
      ((padded 2 d.month).toList ++ '-' :: (padded 2 d.day).toList) := by
    simp [Date.text]
  rw [htext]
  exact fits_join (by decide) hyear (fits_join (by decide) hmonth hday)

theorem fits_clock (h : hour < 100 ∧ minute < 100 ∧ second < 100) :
    fits clockPattern (clockText hour minute second).toList = true := by
  have hhour := fits_padded (by decide : 2 ≠ 0) h.1
  have hminute := fits_padded (by decide : 2 ≠ 0) h.2.1
  have hsecond := fits_padded (by decide : 2 ≠ 0) h.2.2
  have htext : (clockText hour minute second).toList = (padded 2 hour).toList ++ ':' ::
      ((padded 2 minute).toList ++ ':' :: (padded 2 second).toList) := by
    simp [clockText]
  rw [htext]
  exact fits_join (by decide) hhour (fits_join (by decide) hminute hsecond)

/-- The patterns of a zoned text, by the pattern of its offset. -/
def zonedPattern (offset : List Char) : List Char :=
  dayPattern ++ 'T' :: (clockPattern ++ '.' :: (List.replicate 6 '0' ++ offset))

/-- The patterns of an offset start with its letter or its sign. -/
def zonePatterns : List (Char × List Char) :=
  [('Z', []), ('+', sizePattern), ('-', sizePattern)]

theorem admits_day : Format.day.admits s = fits dayPattern s.toList := by
  rw [admits, patterns, List.any_cons, List.any_nil, Bool.or_false]
  rfl

theorem admits_clock :
    Format.clock.admits s = fits (dayPattern ++ 'T' :: clockPattern) s.toList := by
  rw [admits, patterns, List.any_cons, List.any_nil, Bool.or_false]
  rfl

theorem admits_zoned :
    Format.zoned.admits s =
      zonePatterns.any fun q => fits (zonedPattern (q.1 :: q.2)) s.toList := by
  simp only [admits, patterns, zonePatterns, List.any_cons, List.any_nil]
  rfl

/-- The lengths of the texts of a format. -/
def lengths (f : Format) : List Nat := f.patterns.map (·.toList.length)

theorem length_of_admits {f : Format} (h : f.admits s = true) : s.toList.length ∈ f.lengths := by
  obtain ⟨p, hp, hfits⟩ := List.any_eq_true.mp h
  rw [← fits_length hfits]
  exact List.mem_map_of_mem hp

/-- A text is of one format only. -/
theorem eq_of_admits {f g : Format} (hf : f.admits s = true) (hg : g.admits s = true) : f = g := by
  have hlf := length_of_admits hf
  have hlg := length_of_admits hg
  cases f <;> cases g <;> simp [lengths, patterns] at hlf hlg ⊢ <;> omega

theorem wallTime?_day_iff :
    Format.day.wallTime? s.toList = some w ↔
      ∃ d : Date, d.Fits ∧ w = ⟨d, 0, 0, 0, 0, 0⟩ ∧ s = d.text := by
  constructor
  · intro h
    obtain ⟨⟨d, rest⟩, hdate, h⟩ := Option.bind_eq_some_iff.mp h
    obtain ⟨hend, h⟩ := Option.ite_none_right_eq_some.mp h
    obtain rfl := List.isEmpty_iff.mp hend
    obtain ⟨hd, hs⟩ := date?_eq_some_iff.mp hdate
    cases h
    exact ⟨d, hd, rfl, String.toList_inj.mp (by simpa using hs)⟩
  · rintro ⟨d, hd, rfl, rfl⟩
    have hdate : date? d.text.toList = some (d, []) :=
      date?_eq_some_iff.mpr ⟨hd, (List.append_nil _).symm⟩
    simp [wallTime?, hdate]

theorem wallTime?_clock_iff :
    Format.clock.wallTime? s.toList = some w ↔
      ∃ (d : Date) (hour minute second : Nat), d.Fits ∧
        (hour < 100 ∧ minute < 100 ∧ second < 100) ∧ w = ⟨d, hour, minute, second, 0, 0⟩ ∧
        s = d.text ++ "T" ++ clockText hour minute second := by
  constructor
  · intro h
    obtain ⟨⟨d, cs₁⟩, hdate, h⟩ := Option.bind_eq_some_iff.mp h
    obtain ⟨cs₂, hT, h⟩ := Option.bind_eq_some_iff.mp h
    obtain ⟨⟨⟨hour, minute, second⟩, cs₃⟩, htime, h⟩ := Option.bind_eq_some_iff.mp h
    obtain ⟨hend, h⟩ := Option.ite_none_right_eq_some.mp h
    obtain rfl := List.isEmpty_iff.mp hend
    obtain ⟨hd, hs⟩ := date?_eq_some_iff.mp hdate
    obtain ⟨hclock, hcs₂⟩ := time?_eq_some_iff.mp htime
    cases h
    refine ⟨d, hour, minute, second, hd, hclock, rfl, String.toList_inj.mp ?_⟩
    simp [hs, after?_eq_some_iff.mp hT, hcs₂]
  · rintro ⟨d, hour, minute, second, hd, hclock, rfl, rfl⟩
    have hdate : date? (d.text ++ "T" ++ clockText hour minute second).toList =
        some (d, 'T' :: (clockText hour minute second).toList) :=
      date?_eq_some_iff.mpr ⟨hd, by simp⟩
    have htime : time? (clockText hour minute second).toList =
        some ((hour, minute, second), []) :=
      time?_eq_some_iff.mpr ⟨hclock, (List.append_nil _).symm⟩
    simp only [wallTime?, hdate, after?, htime, Option.bind_eq_bind, Option.bind_some, if_true,
      List.isEmpty_nil]

/-- A well-formed text that fits a pattern of zoned texts has the separator
`T`, six digits of a fraction, and an offset that starts as the pattern says. -/
theorem zoned_of_fits {t : Writing} {q : Char} (ht : t.IsWellFormed)
    (hq : isDecimalDigit q = false)
    (h : fits (zonedPattern (q :: qs)) t.text.toList = true) :
    t.separator = 'T' ∧ t.fraction.length = 6 ∧ t.zone.text.toList.head? = some q := by
  obtain ⟨c, zs, hzone, hc⟩ := Zone.exists_text ht.zone
  have hmarks : ∀ c ∈ Zone.marks, isDecimalDigit c = false ∧ c ≠ '.' :=
    Zone.forall_marks_iff.mpr (by decide)
  obtain ⟨hdigit, hpoint⟩ := hmarks c hc
  have htext : t.text.toList = t.date.text.toList ++ t.separator ::
      ((clockText t.hour t.minute t.second).toList ++
        ((fractionText t.fraction).toList ++ c :: zs)) := by
    simp [Writing.text, hzone]
  rw [zonedPattern, htext, fits_append (fits_length (fits_day ht.date)), Bool.and_eq_true,
    fits_cons_iff (by decide), fits_append (fits_length (fits_clock ht.clock)),
    Bool.and_eq_true] at h
  obtain ⟨-, hseparator, -, hfraction⟩ := h
  cases hds : t.fraction with
  | nil =>
    rw [hds] at hfraction
    exact absurd ((fits_cons_iff (by decide)).mp hfraction).1 hpoint
  | cons d ds =>
    have hpoints : (fractionText (d :: ds)).toList ++ c :: zs =
        '.' :: (digitText (d :: ds) ++ c :: zs) := by
      simp [fractionText]
    rw [hds, hpoints, fits_cons_iff (by decide)] at hfraction
    obtain ⟨hlength, rfl⟩ := digits_of_fits (hds ▸ ht.fraction) hdigit hq hfraction.2
    exact ⟨hseparator, hlength, by rw [hzone]; rfl⟩

theorem fits_size (h : hour < 24 ∧ minute < 60) :
    fits sizePattern (Zone.sizeText hour minute).toList = true := by
  have hhour := fits_padded (n := hour) (by decide : 2 ≠ 0) (by omega)
  have hminute := fits_padded (n := minute) (by decide : 2 ≠ 0) (by omega)
  have htext : (Zone.sizeText hour minute).toList =
      (padded 2 hour).toList ++ ':' :: (padded 2 minute).toList := by
    simp [Zone.sizeText]
  rw [htext]
  exact fits_join (by decide) hhour hminute

theorem fits_zone {z : Zone} (hz : z.IsValid) (hplain : z.IsPlain) :
    ∃ q ∈ zonePatterns, fits (q.1 :: q.2) z.text.toList = true := by
  cases z with
  | letter c =>
    obtain rfl : c = 'Z' := hplain
    exact ⟨('Z', []), by simp [zonePatterns], by simp [Zone.text, fits]⟩
  | ahead hours minutes =>
    refine ⟨('+', sizePattern), by simp [zonePatterns], ?_⟩
    have htext : (Zone.ahead hours minutes).text.toList =
        '+' :: (Zone.sizeText hours minutes).toList := by
      simp [Zone.text]
    rw [htext, fits_cons_iff (by decide)]
    exact ⟨rfl, fits_size hz⟩
  | behind sign hours minutes =>
    obtain rfl : sign = '-' := hplain
    refine ⟨('-', sizePattern), by simp [zonePatterns], ?_⟩
    have htext : (Zone.behind '-' hours minutes).text.toList =
        '-' :: (Zone.sizeText hours minutes).toList := by
      simp [Zone.text]
    rw [htext, fits_cons_iff (by decide)]
    exact ⟨rfl, fits_size hz.2⟩

/-- An offset that starts as a pattern says is plain. -/
theorem isPlain_of_head {z : Zone} {q : Char × List Char} (hz : z.IsValid) (hq : q ∈ zonePatterns)
    (h : z.text.toList.head? = some q.1) : z.IsPlain := by
  have hmarks : ∀ q ∈ zonePatterns, q.1 ≠ 'z' ∧ q.1 ≠ '\u2212' := by decide
  obtain ⟨hletter, hsign⟩ := hmarks q hq
  cases z with
  | letter c =>
    have hc : c = q.1 := by simpa [Zone.text] using h
    exact hz.resolve_right fun hlower => hletter (hc ▸ hlower)
  | ahead hours minutes => trivial
  | behind sign hours minutes =>
    have hc : sign = q.1 := by simpa [Zone.text] using h
    exact hz.1.resolve_right fun hminus => hsign (hc ▸ hminus)

/-- A writing with the separator `T` and six digits of a fraction. -/
theorem zoned_eq {t : Writing} (hds : AreDigits t.fraction) (hseparator : t.separator = 'T')
    (hlength : t.fraction.length = 6) :
    t.text = t.date.text ++ "T" ++ clockText t.hour t.minute t.second ++ "." ++
        padded 6 (ofDigits t.fraction) ++ t.zone.text ∧
      t.wallTime =
        ⟨t.date, t.hour, t.minute, t.second, 1000 * ofDigits t.fraction, t.zone.offset⟩ := by
  have hne : t.fraction ≠ [] := by
    intro hnil
    simp [hnil] at hlength
  have hnanos : billionths t.fraction = 1000 * ofDigits t.fraction := by
    rw [billionths_of_length (by omega), hlength]
    omega
  have hfraction := fractionText_eq hne hds
  rw [hlength] at hfraction
  constructor
  · rw [Writing.text, hfraction, hseparator]
    simp [String.append_assoc]
  · rw [Writing.wallTime, hnanos]

/-- What a format takes is spelled by the text. -/
theorem spells_of_wallTime? {f : Format} (hadmits : f.admits s = true)
    (h : f.wallTime? s.toList = some w) : Spells s w ∧ w.date.Fits := by
  cases f with
  | day =>
    obtain ⟨d, hd, rfl, rfl⟩ := wallTime?_day_iff.mp h
    exact ⟨.day, hd⟩
  | clock =>
    obtain ⟨d, hour, minute, second, hd, -, rfl, rfl⟩ := wallTime?_clock_iff.mp h
    exact ⟨.clock, hd⟩
  | zoned =>
    obtain ⟨t, ht, rfl, hs⟩ := internetTime?_eq_some_iff.mp h
    obtain rfl := String.toList_inj.mp hs
    rw [admits_zoned, List.any_eq_true] at hadmits
    obtain ⟨q, hq, hfits⟩ := hadmits
    have hdigits : ∀ q ∈ zonePatterns, isDecimalDigit q.1 = false := by decide
    obtain ⟨hseparator, hlength, hhead⟩ := zoned_of_fits ht (hdigits q hq) hfits
    have hmicros := ofDigits_lt ht.fraction
    rw [hlength] at hmicros
    obtain ⟨htext, hwall⟩ := zoned_eq ht.fraction hseparator hlength
    refine ⟨?_, ht.date⟩
    rw [htext, hwall]
    exact .zoned hmicros ht.zone (isPlain_of_head ht.zone hq hhead)

/-- A text that spells a time that exists is taken by one of the formats. -/
theorem exists_wallTime? (h : Spells s w) (hw : w.Exists) :
    ∃ f : Format, f.admits s = true ∧ f.wallTime? s.toList = some w := by
  have hclock := hw.clock
  cases h with
  | @day d =>
    refine ⟨.day, ?_, wallTime?_day_iff.mpr ⟨d, hw.fits, rfl, rfl⟩⟩
    rw [admits_day, fits_day hw.fits]
  | @clock d hour minute second =>
    refine ⟨.clock, ?_,
      wallTime?_clock_iff.mpr ⟨d, hour, minute, second, hw.fits, hclock, rfl, rfl⟩⟩
    have htext : (d.text ++ "T" ++ clockText hour minute second).toList =
        d.text.toList ++ 'T' :: (clockText hour minute second).toList := by
      simp
    rw [admits_clock, htext]
    exact fits_join (by decide) (fits_day hw.fits) (fits_clock hclock)
  | @zoned d hour minute second micros z hmicros hz hplain =>
    obtain ⟨ds, hlength, hds, rfl⟩ := exists_digits 6 hmicros
    obtain ⟨htext, hwall⟩ := zoned_eq (t := ⟨d, 'T', hour, minute, second, ds, z⟩) hds rfl hlength
    refine ⟨.zoned, ?_, internetTime?_eq_some_iff.mpr
      ⟨_, ⟨hw.fits, .inl rfl, hclock, hds, hz⟩, hwall, String.toList_inj.mpr htext.symm⟩⟩
    obtain ⟨q, hq, hzone⟩ := fits_zone hz hplain
    have hparts : (d.text ++ "T" ++ clockText hour minute second ++ "." ++ padded 6 (ofDigits ds)
        ++ z.text).toList = d.text.toList ++ 'T' :: ((clockText hour minute second).toList ++
          '.' :: ((padded 6 (ofDigits ds)).toList ++ z.text.toList)) := by
      simp
    have hfraction := fits_padded (by decide : 6 ≠ 0) hmicros
    rw [admits_zoned, List.any_eq_true]
    refine ⟨q, hq, ?_⟩
    rw [hparts]
    refine fits_join (by decide) (fits_day hw.fits) (fits_join (by decide) (fits_clock hclock) ?_)
    rw [fits_append (fits_length hfraction), hfraction, hzone]
    rfl

end Format

/-! ## Operands -/

theorem operand_eq_ok_iff {s : String} {i : Instant} :
    operand s = .ok i ↔ ∃ f : Format, f.admits s = true ∧
      (f.wallTime? s.toList).bind (·.instant?) = some i ∧ i.isLeap = false := by
  refine ⟨operand_eq_ok, ?_⟩
  rintro ⟨f, hf, hi, hleap⟩
  have hfind : [Format.day, .clock, .zoned].find? (·.admits s) = some f := by
    cases hfind : [Format.day, .clock, .zoned].find? (·.admits s) with
    | none =>
      have hno := List.find?_eq_none.mp hfind f (by cases f <;> simp)
      exact absurd hf hno
    | some g =>
      have hg : g.admits s = true := by simpa using List.find?_some hfind
      rw [Format.eq_of_admits hf hg]
  simp [operand, hfind, hi, hleap]

theorem Spells.nanos_lt {s : String} {w : WallTime} (h : Spells s w) : w.nanos < 10 ^ 9 := by
  cases h with
  | day | clock => simp
  | zoned hmicros =>
    dsimp only
    omega

/-- A filter takes the texts that spell a time that exists. -/
theorem operand_eq_ok_iff_spells {s : String} {i : Instant} :
    operand s = .ok i ↔ ∃ w, Spells s w ∧ w.Exists ∧ w.counted = i := by
  rw [operand_eq_ok_iff]
  constructor
  · rintro ⟨f, hf, hi, hleap⟩
    obtain ⟨w, hw, hi⟩ := Option.bind_eq_some_iff.mp hi
    obtain ⟨hspells, hfits⟩ := Format.spells_of_wallTime? hf hw
    have hyear := hfits.year_lt
    rcases (WallTime.instant?_eq_some_iff ⟨hfits.year_nonneg, by omega⟩).mp hi with hw | _
    · exact ⟨w, hspells, hw, rfl⟩
    · simp [Instant.isLeap, Instant.nanosPerSecond] at hleap
  · rintro ⟨w, hspells, hw, rfl⟩
    obtain ⟨f, hf, hread⟩ := Format.exists_wallTime? hspells hw
    have hnanos := hspells.nanos_lt
    refine ⟨f, hf, ?_, ?_⟩
    · rw [hread]
      exact (WallTime.instant?_eq_some_iff hw.year).mpr (.second hw)
    · exact decide_eq_false (not_le.mpr hnanos)

end Stamp

/-- **A filter takes exactly the texts of its three formats.** They spell a date
of the calendar in the years 0 to 9999, a time of day without leap seconds and
an offset of less than a day, and give the instant that is that far from the
start of 1970. Every other text is refused as a date. -/
theorem instantOperand_spells (s : String) :
    (∀ i, instantOperand s = .ok i ↔ ∃ w, Stamp.Spells s w ∧ w.Exists ∧ w.counted = i) ∧
    ((∃ e, instantOperand s = .error e ∧ e.kind = .dateFormat) ↔
      ∀ w, Stamp.Spells s w → ¬ w.Exists) := by
  have hok (i : Instant) : instantOperand s = .ok i ↔
      ∃ w, Stamp.Spells s w ∧ w.Exists ∧ w.counted = i := by
    rw [← Stamp.operand_eq_ok_iff_spells]
    exact Except.mapError_eq_ok_iff
  refine ⟨hok, ?_⟩
  constructor
  · rintro ⟨e, he, -⟩ w hspells hw
    rw [(hok w.counted).mpr ⟨w, hspells, hw, rfl⟩] at he
    cases he
  · intro hnone
    cases h : Stamp.operand s with
    | ok i =>
      obtain ⟨w, hspells, hw, -⟩ := Stamp.operand_eq_ok_iff_spells.mp h
      exact absurd hw (hnone w hspells)
    | error e => exact ⟨.notInstant s e, by rw [instantOperand, h]; rfl, rfl⟩

end DocSieve
