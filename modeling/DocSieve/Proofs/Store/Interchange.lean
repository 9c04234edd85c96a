-- SUMMARY: Stored texts of one instant are interchangeable, whatever offset and fraction they are written with.
import DocSieve.Filter.Compile
import DocSieve.Proofs.Store.Stability
import DocSieve.Proofs.Time.Writing

/-!
# Writings of one instant

An instant has many texts: one for each offset, each way to write the separator
and each way to go on with its fraction. All of them are read back as that
instant, so neither a condition nor a sort by instants tells them apart. The
local date and time of an instant at an offset are found by counting days the
other way round.
-/

namespace DocSieve

open Json Text

/-! ## Local times -/

namespace Date

theorem year_ofDayNumber {n : Int} (hlow : daysSince1970 ⟨0, 1, 1⟩ ≤ n)
    (hhigh : n < daysSince1970 ⟨10000, 1, 1⟩) :
    0 ≤ (ofDayNumber n).year ∧ (ofDayNumber n).year ≤ 9999 := by
  rw [← dayNumber_eq (isValid_iff.mp (by decide))] at hlow hhigh
  have hfirst : dayNumber ⟨0, 1, 1⟩ = -719528 := rfl
  have hlast : dayNumber ⟨10000, 1, 1⟩ = 2932897 := rfl
  have hepoch : epoch = 719528 := rfl
  obtain ⟨hstart, hend⟩ := yearOf_spec (n + epoch)
  have hyear : (ofDayNumber n).year = yearOf (n + epoch) := rfl
  rw [hyear]
  unfold daysBeforeYear at hstart hend
  omega

end Date

namespace Instant

/-- The instant is a second with its billionths, or lies in the leap second at
the end of a minute. -/
def IsUtc (i : Instant) : Prop :=
  i.nanos < 10 ^ 9 ∨ i.seconds % 60 = 59 ∧ 10 ^ 9 ≤ i.nanos ∧ i.nanos < 2 * 10 ^ 9

/-- At the offset the instant falls in the years 0 to 9999. -/
def InYears (i : Instant) (offset : Int) : Prop :=
  86400 * Date.daysSince1970 ⟨0, 1, 1⟩ ≤ i.seconds + offset ∧
    i.seconds + offset < 86400 * Date.daysSince1970 ⟨10000, 1, 1⟩

/-- What a clock shows that is ahead of universal time by the offset. -/
def wallTime (i : Instant) (offset : Int) : WallTime :=
  let time := ((i.seconds + offset) % 86400).toNat
  ⟨Date.ofDayNumber ((i.seconds + offset) / 86400), time / 3600, time / 60 % 60, time % 60,
    i.nanos % 10 ^ 9, offset⟩

variable {i : Instant} {offset : Int}

theorem wallTime_exists (h : i.InYears offset) : (i.wallTime offset).Exists where
  date := (Date.ofDayNumber_spec _).1
  year := by
    obtain ⟨hlow, hhigh⟩ := h
    exact Date.year_ofDayNumber (by omega) (by omega)
  hour := by
    dsimp only [wallTime]
    omega
  minute := Nat.mod_lt _ (by decide)
  second := Nat.mod_lt _ (by decide)

theorem counted_wallTime (i : Instant) (offset : Int) :
    (i.wallTime offset).counted = ⟨i.seconds, i.nanos % 10 ^ 9⟩ := by
  simp only [WallTime.counted, wallTime, Date.daysSince1970_ofDayNumber, mk.injEq, and_true]
  push_cast
  omega

end Instant

namespace Stamp

variable {i : Instant} {t : Writing}

/-! ## Writings of an instant -/

/-- The text of the writing is well-formed and says the instant. -/
structure Writing.Says (t : Writing) (i : Instant) : Prop where
  wellFormed : t.IsWellFormed
  wallTime : t.wallTime.Of i

/-- A wall time that exists says the instant that it counts. -/
theorem Writing.says_counted
    (hseparator : t.separator = 'T' ∨ t.separator = 't' ∨ t.separator = ' ')
    (hds : AreDigits t.fraction) (hz : t.zone.IsValid) (hw : t.wallTime.Exists) :
    t.Says t.wallTime.counted :=
  ⟨⟨hw.fits, hseparator, hw.clock, hds, hz⟩, .second hw⟩

/-- Every text of an instant is read back as that instant. -/
theorem Writing.Says.stored? (h : t.Says i) : stored? t.text = some i := by
  have hyear : 0 ≤ t.date.year ∧ t.date.year ≤ 9999 := by
    have hlow := h.wellFormed.date.year_nonneg
    have hhigh := h.wellFormed.date.year_lt
    omega
  apply stored_eq_some_iff.mpr
  refine .inl (internet?_eq_some_iff.mpr ⟨t, h.wellFormed, ?_, rfl⟩)
  exact (WallTime.instant?_eq_some_iff hyear).mpr h.wallTime

/-- Offsets are whole minutes. -/
theorem Zone.offset_emod (z : Zone) : z.offset % 60 = 0 := by
  cases z <;> dsimp only [offset] <;> omega

/-- An instant has a text for each offset at which it falls in the years of four
digits, with any separator and any digits that go on with its fraction. -/
theorem exists_says {z : Zone} {separator : Char} {ds : List Nat} (hi : i.IsUtc)
    (hseparator : separator = 'T' ∨ separator = 't' ∨ separator = ' ') (hz : z.IsValid)
    (hds : AreDigits ds) (hfraction : billionths ds = i.nanos % 10 ^ 9)
    (hyears : i.InYears z.offset) :
    ∃ t : Writing, t.Says i ∧ t.separator = separator ∧ t.fraction = ds ∧ t.zone = z := by
  have hw := Instant.wallTime_exists hyears
  have hcounted := i.counted_wallTime z.offset
  set w := i.wallTime z.offset with hdef
  obtain ⟨hhour, hminute, -⟩ := hw.clock
  rcases hi with hlt | ⟨hlast, hleap, hlt⟩
  · have hwall : Writing.wallTime ⟨w.date, separator, w.hour, w.minute, w.second, ds, z⟩ = w := by
      rw [Writing.wallTime, hfraction]
      rfl
    have hsays := Writing.says_counted (t := ⟨w.date, separator, w.hour, w.minute, w.second, ds, z⟩)
      hseparator hds hz (by rw [hwall]; exact hw)
    rw [hwall, hcounted, Nat.mod_eq_of_lt hlt] at hsays
    exact ⟨_, hsays, rfl, rfl, rfl⟩
  · refine ⟨⟨w.date, separator, w.hour, w.minute, 60, ds, z⟩,
      ⟨⟨hw.fits, hseparator, ⟨hhour, hminute, by simp⟩, hds, hz⟩, ?_⟩, rfl, rfl, rfl⟩
    have hsecond : w.second = 59 := by
      have := z.offset_emod
      simp only [hdef, Instant.wallTime]
      omega
    have hwall : { Writing.wallTime ⟨w.date, separator, w.hour, w.minute, 60, ds, z⟩ with
        second := 59 } = w := by
      rw [Writing.wallTime, hfraction, ← hsecond]
      rfl
    have hnanos : i.nanos % 10 ^ 9 + 10 ^ 9 = i.nanos := by omega
    have hof := WallTime.Of.leapSecond (w := Writing.wallTime ⟨w.date, separator, w.hour, w.minute,
      60, ds, z⟩) rfl (by rw [hwall]; exact hw)
    rw [hwall, hcounted] at hof
    simpa only [Writing.wallTime, hfraction, hnanos] using hof

end Stamp

/-! ## Interchangeable texts -/

open FieldPath (Reaches)

/-- Documents that store the one text where others store the other are the same
to every condition on timestamps, and tie with them when sorted by instants, so
they stay in the order in which they came. -/
structure Interchangeable (s s' : String) : Prop where
  admits : ∀ (field : FieldPath) (comparison : Comparison Instant) (d d' : Value),
    Reaches d field.segments (.string s) → Reaches d' field.segments (.string s') →
    (Condition.timestamp field comparison).admits d =
      (Condition.timestamp field comparison).admits d'
  tie : ∀ (o : OrderBy) (names : List String) (d d' : Value), o.key = .instant →
    Reaches d names (.string s) → Reaches d' names (.string s') →
    o.compareAt ⟨names⟩ d d' = .eq ∧
      ∀ e, o.compareAt ⟨names⟩ d e = o.compareAt ⟨names⟩ d' e
  sort : ∀ (o : OrderBy) (names : List String) (sorting : Sorting) (documents : List Value)
    (keep : Value → Bool), o.key = .instant → o.Follows names →
    (∀ d ∈ documents, keep d = true →
      Reaches d names (.string s) ∨ Reaches d names (.string s')) →
    ∃ sorted, o.sort sorting documents = some sorted ∧
      sorted.filter keep = documents.filter keep

section Stored

variable {i : Instant} {s s' : String} {names : List String} {d d' : Value}

/-- A document stores the instant at the names. -/
theorem bind_instant? (h : Stamp.stored? s = some i) (hd : Reaches d names (.string s)) :
    (FieldPath.follow names d).bind Value.instant? = some i := by
  rw [FieldPath.reaches_iff_follow.mp hd]
  exact h

theorem compareAt_instant {o : OrderBy} {e : Value} (hkey : o.key = .instant) :
    o.compareAt ⟨names⟩ d e = o.direction.apply
      (orderMissing Instant.order ((FieldPath.follow names d).bind Value.instant?)
        ((FieldPath.follow names e).bind Value.instant?)) := by
  rw [OrderBy.compareAt, hkey]
  rfl

theorem interchangeable_of_stored (h : Stamp.stored? s = some i) (h' : Stamp.stored? s' = some i) :
    Interchangeable s s' where
  admits field comparison d d' hd hd' := by
    rw [FieldPath.reaches_iff_follow] at hd hd'
    simp only [Condition.admits_eq_any, Condition.field, FieldPath.lookup, hd, hd',
      Condition.accepts, Option.any_some, Value.instant?, Value.text?, Option.bind_some, h, h']
  tie o names d d' hkey hd hd' := by
    have hself : Instant.order i i = .eq := by rw [Instant.order_eq_compare, compare_eq_iff_eq]
    constructor
    · rw [compareAt_instant hkey, bind_instant? h hd, bind_instant? h' hd']
      simp only [orderMissing, hself]
      cases o.direction <;> rfl
    · intro e
      rw [compareAt_instant hkey, compareAt_instant hkey, bind_instant? h hd, bind_instant? h' hd']
  sort o names sorting documents keep hkey hfollows hkeep := by
    have hranks := o.ranks_rankOrder names documents
    refine ⟨_, OrderBy.sort_eq_stableSort hfollows (.inl hkey) sorting, ?_⟩
    rw [stableSort_filter hranks]
    apply stableSort_eq_self (hranks.of_subset (List.filter_subset_self documents))
    apply List.pairwise_of_forall_mem_list
    -- all that is kept is of one rank
    have hrank : ∀ d ∈ documents.filter keep, Value.moment (FieldPath.follow names d) = i := by
      intro d hd
      obtain ⟨hd, hkept⟩ := List.mem_filter.mp hd
      rcases hkeep d hd hkept with hs | hs'
      · rw [Value.moment, bind_instant? h hs]
      · rw [Value.moment, bind_instant? h' hs']
    intro d hd d' hd'
    obtain ⟨field, direction, key⟩ := o
    obtain rfl : key = .instant := hkey
    change (direction.apply (compare (Value.moment _) (Value.moment _))).isLE
    rw [hrank d hd, hrank d' hd', compare_eq_iff_eq.mpr rfl]
    cases direction <;> rfl

end Stored

/-- **Stored timestamps are read as a filter reads them, however they are
written.** A text that a filter takes for an instant is stored as that instant.
All texts of the internet format of one instant are stored as it and are
interchangeable, and the instant has one at each offset of less than a day that
keeps it in the years of four digits, with any separator, with either letter for
universal time, and with any digits that go on with its fraction. -/
theorem writings_interchangeable :
    (∀ s i, instantOperand s = .ok i → (Value.string s).instant? = some i) ∧
    (∀ i (t t' : Stamp.Writing), t.Says i → t'.Says i →
      (Value.string t.text).instant? = some i ∧ (Value.string t'.text).instant? = some i ∧
        Interchangeable t.text t'.text) ∧
    (∀ (i : Instant) (z : Stamp.Zone) separator ds, i.IsUtc →
      (separator = 'T' ∨ separator = 't' ∨ separator = ' ') → z.IsValid → AreDigits ds →
      Stamp.billionths ds = i.nanos % 10 ^ 9 → i.InYears z.offset →
      ∃ t : Stamp.Writing, t.Says i ∧ t.separator = separator ∧ t.fraction = ds ∧ t.zone = z) := by
  refine ⟨?operand, ?writings, ?exist⟩
  case operand =>
    intro s i h
    have hoperand : Stamp.operand s = .ok i := Except.mapError_eq_ok_iff.mp h
    exact Stamp.stored_eq_some_iff.mpr (.inr hoperand)
  case writings =>
    intro i t t' ht ht'
    exact ⟨ht.stored?, ht'.stored?, interchangeable_of_stored ht.stored? ht'.stored?⟩
  case exist =>
    intro i z separator ds hi hseparator hz hds hfraction hyears
    exact Stamp.exists_says hi hseparator hz hds hfraction hyears

/-- An instant at the start of a year, written in the year before. -/
theorem writings_interchangeable_new_year :
    let i : Instant := ⟨1704069000, 0⟩
    (Value.string "2024-01-01T00:30:00").instant? = some i ∧
      Interchangeable "2023-12-31 23:00:00.000-01:30" "2024-01-01T00:30:00Z" ∧
      ∃ t : Stamp.Writing, t.Says i ∧ t.zone = .ahead 23 59 := by
  intro i
  obtain ⟨hread, hinterchange, hexists⟩ := writings_interchangeable
  have hoperand : instantOperand "2024-01-01T00:30:00" = .ok i := by decide +kernel
  let before : Stamp.Writing := ⟨⟨2023, 12, 31⟩, ' ', 23, 0, 0, [0, 0, 0], .behind '-' 1 30⟩
  have hbefore : before.wallTime.Exists :=
    ⟨Date.isValid_iff.mp (by decide), by decide, by decide, by decide, by decide⟩
  have hsays : before.Says i := by
    have hi : before.wallTime.counted = i := by
      rw [← WallTime.instant_eq_counted hbefore]
      decide +kernel
    exact hi ▸ Stamp.Writing.says_counted (by decide) (by decide) ⟨.inl rfl, by decide⟩ hbefore
  let after : Stamp.Writing := ⟨⟨2024, 1, 1⟩, 'T', 0, 30, 0, [], .letter 'Z'⟩
  have hafter : after.wallTime.Exists :=
    ⟨Date.isValid_iff.mp (by decide), by decide, by decide, by decide, by decide⟩
  have hsays' : after.Says i := by
    have hi : after.wallTime.counted = i := by
      rw [← WallTime.instant_eq_counted hafter]
      decide +kernel
    exact hi ▸ Stamp.Writing.says_counted (by decide) (by decide) (.inl rfl) hafter
  have hyears : i.InYears (Stamp.Zone.ahead 23 59).offset := by
    unfold Instant.InYears
    rw [← Date.dayNumber_eq (Date.isValid_iff.mp (by decide)),
      ← Date.dayNumber_eq (Date.isValid_iff.mp (by decide))]
    decide
  have htext : before.text = "2023-12-31 23:00:00.000-01:30" := by decide +kernel
  have htext' : after.text = "2024-01-01T00:30:00Z" := by decide +kernel
  obtain ⟨t, ht, -, -, hzone⟩ := hexists i (.ahead 23 59) 'T' [] (.inl (by decide)) (.inl rfl)
    ⟨by decide, by decide⟩ (by decide) (by decide) hyears
  rw [← htext, ← htext']
  exact ⟨hread _ i hoperand, (hinterchange i before after hsays hsays').2.2, t, ht, hzone⟩

end DocSieve
