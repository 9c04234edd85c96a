-- SUMMARY: Texts of the internet date and time format as data, and the reader as accepting exactly these texts.
import Mathlib.Tactic.Ring
import DocSieve.Proofs.Text.Digit
import DocSieve.Proofs.Time.Calendar
import DocSieve.Time.Stamp

/-!
# Writings

A writing is all that a text of the internet format says: a date and a time, a
separator, the digits of a fraction and an offset with its sign. The reader
takes the texts of writings and no others, and gives the wall time that the
writing says.
-/

namespace DocSieve

open Text

/-! ## Dates and times -/

/-- `YYYY-MM-DD`. -/
def Date.text (d : Date) : String :=
  padded 4 d.year.toNat ++ "-" ++ padded 2 d.month ++ "-" ++ padded 2 d.day

/-- The numbers of the date fit into their places. -/
structure Date.Fits (d : Date) : Prop where
  year_nonneg : 0 ≤ d.year
  year_lt : d.year < 10000
  month_lt : d.month < 100
  day_lt : d.day < 100

namespace Stamp

/-- `HH:MM:SS`. -/
def clockText (hour minute second : Nat) : String :=
  padded 2 hour ++ ":" ++ padded 2 minute ++ ":" ++ padded 2 second

variable {cs rest : List Char} {c : Char} {d : Date} {hour minute second : Nat}

theorem after?_eq_some_iff : after? c cs = some rest ↔ cs = c :: rest := by
  cases cs with
  | nil => simp [after?]
  | cons d cs => simp [after?]

theorem date?_eq_some_iff : date? cs = some (d, rest) ↔ d.Fits ∧ cs = d.text.toList ++ rest := by
  simp only [date?, Option.bind_eq_bind, Option.bind_eq_some_iff, Prod.exists, Option.some.injEq,
    Prod.mk.injEq, readDigits?_eq_some_iff (by decide : 4 ≠ 0),
    readDigits?_eq_some_iff (by decide : 2 ≠ 0), after?_eq_some_iff]
  constructor
  · intro h
    obtain ⟨year, cs₁, ⟨hyear, h₀⟩, cs₂, h₁, month, cs₃, ⟨hmonth, h₂⟩, cs₄, h₃, day, cs₅,
      ⟨hday, h₄⟩, hd, h₅⟩ := h
    subst hd
    refine ⟨⟨Int.natCast_nonneg year, Int.ofNat_lt.mpr hyear, hmonth, hday⟩, ?_⟩
    rw [h₀, h₁, h₂, h₃, h₄, h₅]
    simp [Date.text]
  · intro h
    obtain ⟨hfits, hcs⟩ := h
    obtain ⟨year, hyear⟩ := Int.eq_ofNat_of_zero_le hfits.year_nonneg
    have hlt := hfits.year_lt
    refine ⟨year, _, ⟨by omega, ?_⟩, _, rfl, d.month, _, ⟨hfits.month_lt, rfl⟩, _, rfl, d.day, rest,
      ⟨hfits.day_lt, rfl⟩, ?_, rfl⟩
    · rw [hcs]
      simp [Date.text, hyear]
    · rw [← hyear]

theorem time?_eq_some_iff :
    time? cs = some ((hour, minute, second), rest) ↔
      (hour < 100 ∧ minute < 100 ∧ second < 100) ∧
        cs = (clockText hour minute second).toList ++ rest := by
  simp only [time?, Option.bind_eq_bind, Option.bind_eq_some_iff, Prod.exists, Option.some.injEq,
    Prod.mk.injEq, readDigits?_eq_some_iff (by decide : 2 ≠ 0), after?_eq_some_iff]
  constructor
  · intro h
    obtain ⟨h', cs₁, ⟨hhour, h₀⟩, cs₂, h₁, m', cs₃, ⟨hminute, h₂⟩, cs₄, h₃, s', cs₅, ⟨hsecond, h₄⟩,
      ⟨hh, hm, hs⟩, h₅⟩ := h
    subst hh hm hs
    refine ⟨⟨hhour, hminute, hsecond⟩, ?_⟩
    rw [h₀, h₁, h₂, h₃, h₄, h₅]
    simp [clockText]
  · intro h
    obtain ⟨⟨hhour, hminute, hsecond⟩, hcs⟩ := h
    refine ⟨hour, _, ⟨hhour, ?_⟩, _, rfl, minute, _, ⟨hminute, rfl⟩, _, rfl, second, rest,
      ⟨hsecond, rfl⟩, ⟨rfl, rfl, rfl⟩, rfl⟩
    rw [hcs]
    simp [clockText]

/-! ## Offsets -/

/-- An offset as it is written. -/
inductive Zone where
  /-- A letter for universal time. -/
  | letter (c : Char)
  /-- Ahead of universal time. -/
  | ahead (hours minutes : Nat)
  /-- Behind universal time, with a sign for minus. -/
  | behind (sign : Char) (hours minutes : Nat)

namespace Zone

/-- `HH:MM`. -/
def sizeText (hours minutes : Nat) : String := padded 2 hours ++ ":" ++ padded 2 minutes

def text : Zone → String
  | letter c => String.singleton c
  | ahead hours minutes => "+" ++ sizeText hours minutes
  | behind sign hours minutes => String.singleton sign ++ sizeText hours minutes

/-- How far ahead of universal time the clock is, in seconds. -/
def offset : Zone → Int
  | letter _ => 0
  | ahead hours minutes => 3600 * hours + 60 * minutes
  | behind _ hours minutes => -(3600 * hours + 60 * minutes)

/-- The offset is less than a day, and its letter or sign is one of the
internet format. -/
def IsValid : Zone → Prop
  | letter c => c = 'Z' ∨ c = 'z'
  | ahead hours minutes => hours < 24 ∧ minutes < 60
  | behind sign hours minutes => (sign = '-' ∨ sign = '\u2212') ∧ hours < 24 ∧ minutes < 60

end Zone

theorem offsetSize?_eq_some_iff {n : Nat} :
    offsetSize? cs = some (n, rest) ↔ ∃ hours minutes, (hours < 24 ∧ minutes < 60) ∧
      n = 3600 * hours + 60 * minutes ∧ cs = (Zone.sizeText hours minutes).toList ++ rest := by
  simp only [offsetSize?, Option.bind_eq_bind, Option.bind_eq_some_iff, Prod.exists,
    Option.some.injEq, Prod.mk.injEq, readDigits?_eq_some_iff (by decide : 2 ≠ 0),
    after?_eq_some_iff, Option.ite_none_right_eq_some]
  constructor
  · intro h
    obtain ⟨hours, cs₁, ⟨-, h₁⟩, cs₂, h₂, minutes, cs₃, ⟨-, h₃⟩, hsize, hn, h₄⟩ := h
    refine ⟨hours, minutes, hsize, by omega, ?_⟩
    rw [h₁, h₂, h₃, h₄]
    simp [Zone.sizeText]
  · intro h
    obtain ⟨hours, minutes, hsize, hn, hcs⟩ := h
    refine ⟨hours, _, ⟨by omega, ?_⟩, _, rfl, minutes, rest, ⟨by omega, rfl⟩, hsize, by omega, rfl⟩
    rw [hcs]
    simp [Zone.sizeText]

/-- Behind a sign stands a size. -/
theorem map_offsetSize?_eq_some {f : Nat → Int} {n : Int}
    (h : (offsetSize? cs).map (fun size => (f size.1, size.2)) = some (n, rest)) :
    ∃ hours minutes, (hours < 24 ∧ minutes < 60) ∧ f (3600 * hours + 60 * minutes) = n ∧
      cs = (Zone.sizeText hours minutes).toList ++ rest := by
  obtain ⟨⟨size, after⟩, hsize, heq⟩ := Option.map_eq_some_iff.mp h
  cases heq
  obtain ⟨hours, minutes, hz, hn, hcs⟩ := offsetSize?_eq_some_iff.mp hsize
  exact ⟨hours, minutes, hz, by rw [hn], hcs⟩

theorem offset?_eq_some_iff {n : Int} :
    offset? cs = some (n, rest) ↔
      ∃ z : Zone, z.IsValid ∧ z.offset = n ∧ cs = z.text.toList ++ rest := by
  constructor
  · intro h
    unfold offset? at h
    split at h
    · cases h
      exact ⟨.letter 'Z', .inl rfl, rfl, rfl⟩
    · cases h
      exact ⟨.letter 'z', .inr rfl, rfl, rfl⟩
    · obtain ⟨hours, minutes, hz, hn, hcs⟩ := map_offsetSize?_eq_some h
      exact ⟨.ahead hours minutes, hz, hn, by simp [hcs, Zone.text]⟩
    · obtain ⟨hours, minutes, hz, hn, hcs⟩ := map_offsetSize?_eq_some (f := (-·)) h
      exact ⟨.behind '-' hours minutes, ⟨.inl rfl, hz⟩, hn, by simp [hcs, Zone.text]⟩
    · obtain ⟨hours, minutes, hz, hn, hcs⟩ := map_offsetSize?_eq_some (f := (-·)) h
      exact ⟨.behind '\u2212' hours minutes, ⟨.inr rfl, hz⟩, hn, by simp [hcs, Zone.text]⟩
    · cases h
  · rintro ⟨z, hz, rfl, rfl⟩
    cases z with
    | letter c => rcases hz with rfl | rfl <;> rfl
    | ahead hours minutes =>
      have hsize : offsetSize? ((Zone.sizeText hours minutes).toList ++ rest) = some (_, rest) :=
        offsetSize?_eq_some_iff.mpr ⟨hours, minutes, hz, rfl, rfl⟩
      simp [offset?, Zone.text, Zone.offset, hsize]
    | behind sign hours minutes =>
      obtain ⟨hsign, hz⟩ := hz
      have hsize : offsetSize? ((Zone.sizeText hours minutes).toList ++ rest) = some (_, rest) :=
        offsetSize?_eq_some_iff.mpr ⟨hours, minutes, hz, rfl, rfl⟩
      rcases hsign with rfl | rfl <;> simp [offset?, Zone.text, Zone.offset, hsize]

/-- The letters and signs that an offset starts with. -/
def Zone.marks : List Char := ['Z', 'z', '+', '-', '\u2212']

theorem Zone.forall_marks_iff {p : Char → Prop} :
    (∀ c ∈ marks, p c) ↔ p 'Z' ∧ p 'z' ∧ p '+' ∧ p '-' ∧ p '\u2212' := by
  simp [marks]

/-- The text of an offset that is valid starts with one of the marks. -/
theorem Zone.exists_text {z : Zone} (hz : z.IsValid) :
    ∃ c cs, z.text.toList = c :: cs ∧ c ∈ marks := by
  cases z with
  | letter c => exact ⟨c, [], by simp [text], by rcases hz with rfl | rfl <;> decide⟩
  | ahead hours minutes => exact ⟨'+', (sizeText hours minutes).toList, by simp [text], by decide⟩
  | behind sign hours minutes =>
    refine ⟨sign, (sizeText hours minutes).toList, by simp [text], ?_⟩
    rcases hz.1 with rfl | rfl <;> decide

/-! ## Fractions -/

/-- A point and digits, or nothing in place of no digits. -/
def fractionText : List Nat → String
  | [] => ""
  | d :: ds => "." ++ String.ofList (digitText (d :: ds))

/-- The first nine digits, with zeros for those that are not there. -/
def billionths (ds : List Nat) : Nat := ofDigits ((ds ++ List.replicate 9 0).take 9)

variable {ds : List Nat}

theorem ofDigits_append_zeros (ds : List Nat) (n : Nat) :
    ofDigits (ds ++ List.replicate n 0) = ofDigits ds * 10 ^ n := by
  induction n with
  | zero => simp
  | succ n ih =>
    rw [List.replicate_succ', ← List.append_assoc, ofDigits_concat, ih]
    ring

theorem fractionNanos_eq (ds : List Nat) : fractionNanos ds = billionths ds := by
  have htake : (List.replicate 9 0).take (9 - ds.length) = List.replicate (9 - ds.length) 0 := by
    rw [List.take_replicate, Nat.min_eq_left (Nat.sub_le _ _)]
  rw [billionths, List.take_append, htake, ofDigits_append_zeros]
  rfl

theorem billionths_of_length (h : ds.length ≤ 9) :
    billionths ds = ofDigits ds * 10 ^ (9 - ds.length) := by
  rw [← fractionNanos_eq, fractionNanos, List.take_of_length_le h]
  rfl

/-- The digits of a fraction are its number, as wide as they are many. -/
theorem fractionText_eq (hne : ds ≠ []) (h : AreDigits ds) :
    fractionText ds = "." ++ padded ds.length (ofDigits ds) := by
  rw [← String.toList_inj, String.toList_append, padded_ofDigits hne h]
  cases ds with
  | nil => exact absurd rfl hne
  | cons d ds => simp [fractionText]

theorem fraction?_fractionText (h : AreDigits ds) (hrest : NoDigit rest)
    (hpoint : rest.head? ≠ some '.') :
    fraction? ((fractionText ds).toList ++ rest) = some (billionths ds, rest) := by
  rw [← fractionNanos_eq]
  cases ds with
  | nil =>
    have hnanos : fractionNanos [] = 0 := rfl
    have htext : (fractionText []).toList ++ rest = rest := rfl
    rw [hnanos, htext]
    unfold fraction?
    split
    · exact absurd rfl hpoint
    · rfl
  | cons d ds =>
    have hspan := spanDigits_digitText h hrest
    simp [fraction?, fractionText, hspan]

theorem exists_of_fraction? {n : Nat} (h : fraction? cs = some (n, rest)) :
    ∃ ds, AreDigits ds ∧ billionths ds = n ∧ cs = (fractionText ds).toList ++ rest := by
  unfold fraction? at h
  split at h
  · rename_i cs
    obtain ⟨hds, hcs⟩ := spanDigits_spec cs
    cases hspan : (spanDigits cs).1 with
    | nil => simp [hspan] at h
    | cons d ds =>
      rw [hspan] at hds hcs
      simp only [hspan, List.isEmpty_cons, Bool.false_eq_true, if_false, Option.some.injEq,
        Prod.mk.injEq, fractionNanos_eq] at h
      exact ⟨d :: ds, hds, h.1, by simp [fractionText, ← h.2, ← hcs]⟩
  · cases h
    exact ⟨[], by simp [AreDigits], rfl, rfl⟩

/-! ## The internet format -/

/-- What a text of the internet format says. -/
structure Writing where
  date : Date
  separator : Char
  hour : Nat
  minute : Nat
  second : Nat
  /-- The digits of the fraction. -/
  fraction : List Nat
  zone : Zone

namespace Writing

def text (t : Writing) : String :=
  t.date.text ++ String.singleton t.separator ++ clockText t.hour t.minute t.second
    ++ fractionText t.fraction ++ t.zone.text

/-- Every part fits into its place. -/
structure IsWellFormed (t : Writing) : Prop where
  date : t.date.Fits
  separator : t.separator = 'T' ∨ t.separator = 't' ∨ t.separator = ' '
  clock : t.hour < 100 ∧ t.minute < 100 ∧ t.second < 100
  fraction : AreDigits t.fraction
  zone : t.zone.IsValid

def wallTime (t : Writing) : WallTime :=
  ⟨t.date, t.hour, t.minute, t.second, billionths t.fraction, t.zone.offset⟩

end Writing

/-- The reader takes the texts of writings and no others. -/
theorem internetTime?_eq_some_iff {w : WallTime} :
    internetTime? cs = some w ↔
      ∃ t : Writing, t.IsWellFormed ∧ t.wallTime = w ∧ cs = t.text.toList := by
  constructor
  · intro h
    obtain ⟨⟨date, cs₁⟩, hdate, h⟩ := Option.bind_eq_some_iff.mp h
    cases cs₁ with
    | nil => cases h
    | cons separator cs₁ =>
      obtain ⟨hseparator, h⟩ := Option.ite_none_left_eq_some.mp h
      obtain ⟨⟨⟨hour, minute, second⟩, cs₂⟩, htime, h⟩ := Option.bind_eq_some_iff.mp h
      obtain ⟨⟨nanos, cs₃⟩, hfraction, h⟩ := Option.bind_eq_some_iff.mp h
      obtain ⟨⟨offset, cs₄⟩, hoffset, h⟩ := Option.bind_eq_some_iff.mp h
      obtain ⟨hend, h⟩ := Option.ite_none_right_eq_some.mp h
      cases h
      obtain rfl := List.isEmpty_iff.mp hend
      obtain ⟨hdate, hcs⟩ := date?_eq_some_iff.mp hdate
      obtain ⟨hclock, hcs₁⟩ := time?_eq_some_iff.mp htime
      obtain ⟨ds, hds, rfl, hcs₂⟩ := exists_of_fraction? hfraction
      obtain ⟨z, hz, rfl, hcs₃⟩ := offset?_eq_some_iff.mp hoffset
      refine ⟨⟨date, separator, hour, minute, second, ds, z⟩, ⟨hdate, ?_, hclock, hds, hz⟩, rfl, ?_⟩
      · grind
      · simp [hcs, hcs₁, hcs₂, hcs₃, Writing.text]
  · rintro ⟨t, ht, rfl, hcs⟩
    have hseparator : ¬ (t.separator ≠ 'T' ∧ t.separator ≠ 't' ∧ t.separator ≠ ' ') := by
      have := ht.separator
      tauto
    obtain ⟨c, zs, hzone, hc⟩ := Zone.exists_text ht.zone
    have hmarks : ∀ c ∈ Zone.marks, decimal? c = none ∧ c ≠ '.' :=
      Zone.forall_marks_iff.mpr (by decide)
    obtain ⟨hdigit, hpoint⟩ := hmarks c hc
    have hdate : date? cs = some (t.date, t.separator ::
        ((clockText t.hour t.minute t.second).toList ++
          ((fractionText t.fraction).toList ++ t.zone.text.toList))) :=
      date?_eq_some_iff.mpr ⟨ht.date, by simp [hcs, Writing.text]⟩
    have htime : time? ((clockText t.hour t.minute t.second).toList ++
        ((fractionText t.fraction).toList ++ t.zone.text.toList)) =
        some (_, (fractionText t.fraction).toList ++ t.zone.text.toList) :=
      time?_eq_some_iff.mpr ⟨ht.clock, rfl⟩
    have hfraction : fraction? ((fractionText t.fraction).toList ++ t.zone.text.toList) =
        some (_, t.zone.text.toList) :=
      fraction?_fractionText ht.fraction (by simp [NoDigit, hzone, hdigit])
        (by simp [hzone, hpoint])
    have hoffset : offset? t.zone.text.toList = some (_, []) :=
      offset?_eq_some_iff.mpr ⟨t.zone, ht.zone, rfl, (List.append_nil _).symm⟩
    simp [internetTime?, hdate, hseparator, htime, hfraction, hoffset, Writing.wallTime]

theorem internet?_eq_some_iff {s : String} {i : Instant} :
    internet? s = some i ↔
      ∃ t : Writing, t.IsWellFormed ∧ t.wallTime.instant? = some i ∧ s = t.text := by
  simp only [internet?, Option.bind_eq_some_iff, internetTime?_eq_some_iff, String.toList_inj]
  constructor
  · rintro ⟨_, ⟨t, ht, rfl, hs⟩, hi⟩
    exact ⟨t, ht, hi, hs⟩
  · rintro ⟨t, ht, hi, hs⟩
    exact ⟨_, ⟨t, ht, rfl, hs⟩, hi⟩

end Stamp

/-! ## Wall times -/

namespace WallTime

/-- The date and the time of day exist, in a year that four digits spell. There
are no leap seconds here. -/
structure Exists (w : WallTime) : Prop where
  date : w.date.InCalendar
  year : 0 ≤ w.date.year ∧ w.date.year ≤ 9999
  hour : w.hour < 24
  minute : w.minute < 60
  second : w.second < 60

/-- The seconds since 1970, from the days in between, the time of day and the
offset, and the billionths of a second. -/
def counted (w : WallTime) : Instant :=
  ⟨86400 * w.date.daysSince1970 + (3600 * w.hour + 60 * w.minute + w.second) - w.offset, w.nanos⟩

/-- The wall time is that of the instant. A leap second is second 60, and goes
on where second 59 ends. -/
inductive Of : WallTime → Instant → Prop where
  | second {w : WallTime} : w.Exists → Of w w.counted
  | leapSecond {w : WallTime} : w.second = 60 → Exists { w with second := 59 } →
      Of w ⟨(counted { w with second := 59 }).seconds, w.nanos + 10 ^ 9⟩

variable {w : WallTime} {i : Instant}

theorem isValid_iff :
    w.isValid = true ↔ w.date.InCalendar ∧ w.hour < 24 ∧ w.minute < 60 ∧ w.second ≤ 60 := by
  simp [isValid, Date.isValid_iff, and_assoc]

/-- The parts of a wall time that exists fit into their places. -/
theorem Exists.fits (h : w.Exists) : w.date.Fits := by
  have hvalid := Date.isValid_iff.mpr h.date
  simp only [Date.isValid, Bool.and_eq_true, decide_eq_true_eq] at hvalid
  have hlength : Date.monthLength w.date.year w.date.month ≤ 31 := by
    unfold Date.monthLength
    split
    · split <;> decide
    · split <;> decide
  obtain ⟨hlow, hhigh⟩ := h.year
  exact ⟨hlow, by omega, by omega, by omega⟩

theorem Exists.clock (h : w.Exists) : w.hour < 100 ∧ w.minute < 100 ∧ w.second < 100 := by
  obtain ⟨-, -, hhour, hminute, hsecond⟩ := h
  omega

/-- The instant of a wall time counts the seconds. -/
theorem instant_eq_counted (h : w.Exists) : w.instant = w.counted := by
  simp only [instant, counted, Date.dayNumber_eq h.date, Nat.div_eq_of_lt h.second,
    Instant.secondsPerDay, Instant.mk.injEq]
  constructor
  · push_cast
    omega
  · omega

theorem instant_leapSecond (hsecond : w.second = 60) (hdate : w.date.InCalendar) :
    w.instant = ⟨(counted { w with second := 59 }).seconds, w.nanos + 10 ^ 9⟩ := by
  simp only [instant, counted, Date.dayNumber_eq hdate, hsecond, Instant.secondsPerDay,
    Instant.nanosPerSecond, Instant.mk.injEq]
  constructor
  · push_cast
    omega
  · omega

theorem instant?_eq_some_iff (hyear : 0 ≤ w.date.year ∧ w.date.year ≤ 9999) :
    w.instant? = some i ↔ w.Of i := by
  simp only [instant?, Option.ite_none_right_eq_some, isValid_iff]
  constructor
  · rintro ⟨⟨hdate, hhour, hminute, hsecond⟩, hi⟩
    obtain rfl := Option.some.inj hi
    rcases hsecond.lt_or_eq with hlt | heq
    · have h : w.Exists := ⟨hdate, hyear, hhour, hminute, hlt⟩
      rw [instant_eq_counted h]
      exact .second h
    · rw [instant_leapSecond heq hdate]
      exact .leapSecond heq ⟨hdate, hyear, hhour, hminute, by simp⟩
  · intro h
    cases h with
    | second h =>
      exact ⟨⟨h.date, h.hour, h.minute, h.second.le⟩, by rw [instant_eq_counted h]⟩
    | leapSecond hsecond h =>
      exact ⟨⟨h.date, h.hour, h.minute, hsecond.le⟩, by rw [instant_leapSecond hsecond h.date]⟩

end WallTime

end DocSieve
