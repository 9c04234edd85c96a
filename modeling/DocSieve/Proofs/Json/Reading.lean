-- SUMMARY: Every text of the grammar is read back as the tree that it is written for.
import DocSieve.Json.Decode
import DocSieve.Proofs.Json.Grammar

/-!
# Reading what the grammar writes

Whatever stands behind a text, its reader takes the text and leaves the rest.
For a number the rest has a say, because a digit behind it would belong to it.
The phrases are taken by induction on how they are written, and two units of
fuel for each character are enough.
-/

namespace DocSieve.Json

open Text (Glyph decimal? glyphs)

variable {cs : List Char} {rest xs : List Glyph}

/-! ## Blanks -/

@[simp] theorem skipSpace_skipSpace (xs : List Glyph) :
    skipSpace (skipSpace xs) = skipSpace xs := by
  fun_induction skipSpace xs with
  | case1 c cs h ih => exact ih
  | case2 c cs h => simp [skipSpace, h]
  | case3 xs h => rw [skipSpace.eq_2 _ h]

theorem skipSpace_blanks (h : Blanks cs) (xs : List Glyph) :
    skipSpace (cs.map some ++ xs) = skipSpace xs := by
  induction cs with
  | nil => rfl
  | cons c cs ih =>
    have hc : isSpace c = true := h c (.head _)
    simp only [List.map_cons, List.cons_append, skipSpace, hc, if_true]
    exact ih fun d hd => h d (.tail _ hd)

/-! ## Strings -/

theorem hexEscape?_of_fourHex {n : Nat} {ds : List Char} (h : FourHex n ds) (xs : List Glyph) :
    hexEscape? (ds.map some ++ xs) = some (n, xs) := by
  obtain ⟨ha, hb, hc, hd⟩ := h
  simp [hexEscape?, ha, hb, hc, hd]

theorem quote_notMem_of_fourHex {n : Nat} {ds : List Char} (h : FourHex n ds) : '"' ∉ ds := by
  obtain ⟨ha, hb, hc, hd⟩ := h
  have hquote : hexDigit? '"' = none := by decide
  intro hmem
  simp only [List.mem_cons, List.not_mem_nil, or_false] at hmem
  rcases hmem with rfl | rfl | rfl | rfl <;> simp_all

/-- What is read in front of a quote stands in the text in front of it. -/
theorem prefix_of_append_quote {ds cs : List Char} {rest xs : List Glyph} (h : '"' ∉ ds)
    (heq : cs.map some ++ some '"' :: rest = ds.map some ++ xs) : ∃ more, cs = ds ++ more := by
  induction ds generalizing cs with
  | nil => exact ⟨cs, rfl⟩
  | cons d ds ih =>
    obtain ⟨hd, hds⟩ := List.ne_and_not_mem_of_not_mem_cons h
    cases cs with
    | nil => exact absurd (by simpa using (List.cons.inj heq).1) hd
    | cons c cs =>
      obtain ⟨hc, hcs⟩ := List.cons.inj heq
      obtain ⟨more, rfl⟩ := ih hds hcs
      exact ⟨more, by simpa using hc⟩

theorem exists_fourHex_of_hexEscape? {n : Nat} (h : hexEscape? xs = some (n, rest)) :
    ∃ ds, FourHex n ds ∧ xs = ds.map some ++ rest := by
  unfold hexEscape? at h
  split at h
  · simp only [Option.bind_eq_bind, Option.bind_eq_some_iff, Option.some.injEq,
      Prod.mk.injEq] at h
    obtain ⟨w, hw, x, hx, y, hy, z, hz, rfl, rfl⟩ := h
    exact ⟨_, .of hw hx hy hz, rfl⟩
  · contradiction

theorem lowSurrogate?_of_fourHex {n : Nat} {ds : List Char} (h : FourHex n ds) (hlow : IsLow n)
    (xs : List Glyph) :
    lowSurrogate? (('\\' :: 'u' :: ds).map some ++ xs) = some (n, xs) := by
  have hrange : 0xDC00 ≤ n ∧ n ≤ 0xDFFF := hlow
  simp [lowSurrogate?, hexEscape?_of_fourHex h, hrange]

theorem exists_fourHex_of_lowSurrogate? {n : Nat} (h : lowSurrogate? xs = some (n, rest)) :
    ∃ ds, FourHex n ds ∧ IsLow n ∧ xs = ('\\' :: 'u' :: ds).map some ++ rest := by
  unfold lowSurrogate? at h
  split at h
  next xs =>
    simp only [Option.bind_eq_bind, Option.bind_eq_some_iff, Option.ite_none_right_eq_some,
      Option.some.injEq, Prod.mk.injEq, Prod.exists] at h
    obtain ⟨_, _, hhex, hrange, rfl, rfl⟩ := h
    obtain ⟨ds, hds, rfl⟩ := exists_fourHex_of_hexEscape? hhex
    exact ⟨ds, hds, hrange, rfl⟩
  next => contradiction

/-- Where no second half of a pair is written, none is read. -/
theorem lowSurrogate?_eq_none (h : ¬ StartsLow cs) :
    lowSurrogate? (cs.map some ++ some '"' :: rest) = none := by
  cases hlow : lowSurrogate? (cs.map some ++ some '"' :: rest) with
  | none => rfl
  | some read =>
    obtain ⟨ds, hds, hrange, heq⟩ := exists_fourHex_of_lowSurrogate? hlow
    have hquote : '"' ∉ '\\' :: 'u' :: ds := by
      simpa using quote_notMem_of_fourHex hds
    obtain ⟨more, rfl⟩ := prefix_of_append_quote hquote heq
    exact absurd ⟨_, ds, more, hds, hrange, rfl⟩ h

theorem escape?_of_short {letter c : Char} (h : (letter, c) ∈ shortEscapes) (xs : List Glyph) :
    escape? (some letter :: xs) = some (some c, xs) := by
  simp only [shortEscapes, List.mem_cons, Prod.mk.injEq, List.not_mem_nil, or_false] at h
  rcases h with ⟨rfl, rfl⟩ | ⟨rfl, rfl⟩ | ⟨rfl, rfl⟩ | ⟨rfl, rfl⟩ | ⟨rfl, rfl⟩ | ⟨rfl, rfl⟩ |
    ⟨rfl, rfl⟩ | ⟨rfl, rfl⟩ <;> rfl

theorem escape?_unicode {n : Nat} {ds : List Char} (h : FourHex n ds) (xs : List Glyph) :
    escape? (('u' :: ds).map some ++ xs) =
      if IsHigh n then
        match lowSurrogate? xs with
        | some (low, xs) =>
          some (some (Char.ofNat (0x10000 + (n - 0xD800) * 0x400 + (low - 0xDC00))), xs)
        | none => some (none, xs)
      else if IsLow n then some (none, xs)
      else some (some (Char.ofNat n), xs) := by
  simp only [List.map_cons, List.cons_append, escape?, unicodeEscape?, hexEscape?_of_fourHex h]
  rfl

/-- An escape takes its own characters, and one unit of fuel. -/
theorem stringBody?_escape (es : List Char) {g : Glyph} {s : List Glyph} {fuel : Nat}
    (hescape : escape? (es.map some ++ (cs.map some ++ some '"' :: rest)) =
      some (g, cs.map some ++ some '"' :: rest))
    (ih : ∀ {fuel}, cs.length ≤ fuel →
      stringBody? (fuel + 1) (cs.map some ++ some '"' :: rest) = some (s, rest))
    (hfuel : ('\\' :: es ++ cs).length ≤ fuel) :
    stringBody? (fuel + 1) (('\\' :: es ++ cs).map some ++ some '"' :: rest) =
      some (g :: s, rest) := by
  simp only [List.cons_append, List.length_cons, List.length_append] at hfuel
  obtain ⟨fuel, rfl⟩ : ∃ f, fuel = f + 1 := ⟨fuel - 1, by omega⟩
  simp only [List.cons_append, List.map_cons, List.map_append, List.append_assoc, stringBody?,
    hescape, ih (show cs.length ≤ fuel by omega), Option.bind_eq_bind, Option.bind_some]

/-- The body of a string is read up to the quote behind it. -/
theorem StringBody.reads {s : List Glyph} {cs : List Char} (h : StringBody s cs) {fuel : Nat}
    (hfuel : cs.length ≤ fuel) (rest : List Glyph) :
    stringBody? (fuel + 1) (cs.map some ++ some '"' :: rest) = some (s, rest) := by
  induction h generalizing fuel with
  | nil => rfl
  | @plain c s cs hquote hback hcontrol _ ih =>
    obtain ⟨fuel, rfl⟩ : ∃ f, fuel = f + 1 := ⟨fuel - 1, by simp at hfuel; omega⟩
    have hmore : stringBody? (fuel + 1) (cs.map some ++ some '"' :: rest) = some (s, rest) :=
      ih (by simpa using hfuel)
    simp [stringBody?, Nat.not_lt.mpr hcontrol, hmore]
  | @short letter c s cs hletter _ ih =>
    exact stringBody?_escape [letter] (escape?_of_short hletter _) ih hfuel
  | unicode hds hhigh hlow _ ih =>
    exact stringBody?_escape _ (by rw [escape?_unicode hds, if_neg hhigh, if_neg hlow]) ih hfuel
  | @pair high low ds ds' s cs hds hhigh hds' hlow _ ih =>
    refine stringBody?_escape ('u' :: ds ++ '\\' :: 'u' :: ds') ?_ ih hfuel
    rw [List.map_append, List.append_assoc, escape?_unicode hds, if_pos hhigh,
      lowSurrogate?_of_fourHex hds' hlow]
  | loneHigh hds hhigh hlow _ ih =>
    refine stringBody?_escape _ ?_ ih hfuel
    rw [escape?_unicode hds, if_pos hhigh, lowSurrogate?_eq_none hlow]
  | loneLow hds hlow _ ih =>
    have hhigh : ¬ IsHigh _ := fun h => absurd (Nat.le_trans hlow.1 h.2) (by decide)
    exact stringBody?_escape _ (by rw [escape?_unicode hds, if_neg hhigh, if_pos hlow]) ih hfuel

/-- A string is read up to its closing quote. -/
theorem StringText.reads {s : List Glyph} {cs : List Char} (h : StringText s cs)
    (rest : List Glyph) :
    ∃ body, cs.map some ++ rest = some '"' :: body ∧ string? body = some (s, rest) := by
  cases h with
  | @of cs hbody =>
    refine ⟨cs.map some ++ some '"' :: rest, by simp, ?_⟩
    rw [string?]
    exact hbody.reads (by simp) rest

/-! ## Numbers -/

/-- The text does not go on with a digit. -/
def NoDigit (xs : List Glyph) : Prop := ∀ c more, xs = some c :: more → decimal? c = none

/-- The text does not go on with anything that could belong to a number. -/
def Ends (xs : List Glyph) : Prop :=
  ∀ c more, xs = some c :: more → decimal? c = none ∧ c ∉ ['.', 'e', 'E']

theorem Ends.noDigit (h : Ends xs) : NoDigit xs := fun c more hxs => (h c more hxs).1

theorem noDigit_cons {c : Char} (h : decimal? c = none) (xs : List Glyph) :
    NoDigit (some c :: xs) := by
  rintro _ _ ⟨⟩
  exact h

theorem spanDigits_of_noDigit (h : NoDigit xs) : Json.spanDigits xs = ([], xs) := by
  match xs with
  | [] => rfl
  | none :: _ => rfl
  | some c :: more => simp [Json.spanDigits, h c more rfl]

theorem spanDigits_append {ds : List Nat} (h : cs.map decimal? = ds.map some)
    (hrest : NoDigit rest) : Json.spanDigits (cs.map some ++ rest) = (ds, rest) := by
  induction cs generalizing ds with
  | nil =>
    cases List.map_eq_nil_iff.mp h.symm
    exact spanDigits_of_noDigit hrest
  | cons c cs ih =>
    obtain ⟨d, ds, rfl, hd, hds⟩ := List.map_eq_cons_iff.mp h.symm
    simp [Json.spanDigits, ← hd, ih hds.symm]

theorem Digits.reads {ds : List Nat} (h : Digits ds cs) (hrest : NoDigit rest) :
    digits? (cs.map some ++ rest) = some (ds, rest) := by
  simp [digits?, spanDigits_append h.2 hrest, h.1]

theorem Digits.exists_cons {ds : List Nat} (h : Digits ds cs) :
    ∃ c more, cs = c :: more ∧ (decimal? c).isSome := by
  obtain ⟨hne, hmap⟩ := h
  cases ds with
  | nil => exact absurd rfl hne
  | cons d ds =>
    obtain ⟨c, more, rfl, hc, -⟩ := List.map_eq_cons_iff.mp hmap
    exact ⟨c, more, rfl, by rw [hc]; rfl⟩

theorem exponentDigits?_of_digit {c : Char} (h : (decimal? c).isSome) (xs : List Glyph) :
    exponentDigits? (some c :: xs) =
      (digits? (some c :: xs)).map fun r => (⟨false, r.1⟩, r.2) := by
  unfold exponentDigits?
  split
  next heq => cases heq; contradiction
  next heq => cases heq; contradiction
  next => rfl

theorem exponent?_of_ends (h : Ends xs) : exponent? xs = some (none, xs) := by
  unfold exponent?
  split
  next more => exact absurd (h _ more rfl).2 (by decide)
  next more => exact absurd (h _ more rfl).2 (by decide)
  next => rfl

theorem exponent?_letter {letter : Char} (h : letter ∈ ['e', 'E']) (xs : List Glyph) :
    exponent? (some letter :: xs) = (exponentDigits? xs).map fun r => (some r.1, r.2) := by
  simp only [List.mem_cons, List.not_mem_nil, or_false] at h
  rcases h with rfl | rfl <;> rfl

theorem ExponentText.reads {e : Option Exponent} {es : List Char} (h : ExponentText e es)
    (hrest : Ends rest) : exponent? (es.map some ++ rest) = some (e, rest) := by
  cases h with
  | missing => exact exponent?_of_ends hrest
  | @plus letter sign ds cs hletter hsign hds =>
    have hdigits := hds.reads hrest.noDigit
    simp only [List.mem_cons, List.not_mem_nil, or_false] at hsign
    rcases hsign with rfl | rfl
    · obtain ⟨c, more, rfl, hc⟩ := hds.exists_cons
      simp only [List.map_cons, List.cons_append, List.nil_append] at hdigits ⊢
      rw [exponent?_letter hletter, exponentDigits?_of_digit hc, hdigits]
      rfl
    · simp only [List.map_cons, List.cons_append, List.nil_append] at hdigits ⊢
      rw [exponent?_letter hletter, exponentDigits?, hdigits]
      rfl
  | @minus letter ds cs hletter hds =>
    have hdigits := hds.reads hrest.noDigit
    simp only [List.map_cons, List.cons_append]
    rw [exponent?_letter hletter, exponentDigits?, hdigits]
    rfl

/-- Neither a digit nor a point stands in front of an exponent. -/
theorem ExponentText.head {e : Option Exponent} {es : List Char} (h : ExponentText e es)
    (hrest : Ends rest) {c : Char} {more : List Glyph}
    (heq : es.map some ++ rest = some c :: more) : decimal? c = none ∧ c ≠ '.' := by
  have hletter : ∀ {letter}, letter ∈ ['e', 'E'] → decimal? letter = none ∧ letter ≠ '.' := by
    intro letter hmem
    simp only [List.mem_cons, List.not_mem_nil, or_false] at hmem
    rcases hmem with rfl | rfl <;> decide
  cases h with
  | missing => exact ⟨(hrest c more heq).1, fun h => (hrest c more heq).2 (by simp [h])⟩
  | plus hmem _ _ => cases heq; exact hletter hmem
  | minus hmem _ => cases heq; exact hletter hmem

theorem FractionText.reads {ds : List Nat} {fs : List Char} (h : FractionText ds fs)
    (hrest : ∀ c more, rest = some c :: more → decimal? c = none ∧ c ≠ '.') :
    fraction? (fs.map some ++ rest) = some (ds, rest) := by
  cases h with
  | missing =>
    simp only [List.map_nil, List.nil_append]
    unfold fraction?
    split
    next more => exact absurd rfl (hrest _ more rfl).2
    next => rfl
  | given hds => exact hds.reads fun c more heq => (hrest c more heq).1

theorem FractionText.noDigit {ds : List Nat} {fs : List Char} (h : FractionText ds fs)
    (hrest : NoDigit rest) : NoDigit (fs.map some ++ rest) := by
  cases h with
  | missing => exact hrest
  | given _ => exact noDigit_cons (by decide) _

theorem whole?_reads {ds : List Nat} (h : Digits ds cs) (hzero : ds.head? = some 0 → ds.length = 1)
    (hrest : NoDigit rest) : whole? (cs.map some ++ rest) = some (ds, rest) := by
  have hok : ¬ (ds.head? = some 0 ∧ ds.length ≠ 1) := fun h => h.2 (hzero h.1)
  rw [whole?, h.reads hrest]
  simp only [Option.bind_eq_bind, Option.bind_some, if_neg hok]

theorem numeral?_of_digit {c : Char} (h : (decimal? c).isSome) (xs : List Glyph) :
    numeral? (some c :: xs) = unsigned? false (some c :: xs) := by
  unfold numeral?
  split
  next heq => cases heq; contradiction
  next => rfl

/-- A number is read as far as it goes. -/
theorem NumeralText.reads {n : Numeral} (h : NumeralText n cs) (hrest : Ends rest) :
    numeral? (cs.map some ++ rest) = some (n, rest) := by
  cases h with
  | @of negative whole fraction exponent ws fs es hwhole hzero hfraction hexponent =>
    have hpoint := fun c more => @hexponent.head rest _ _ hrest c more
    have hunsigned : unsigned? negative (ws.map some ++ (fs.map some ++ (es.map some ++ rest))) =
        some (⟨negative, whole, fraction, exponent⟩, rest) := by
      rw [unsigned?, whole?_reads hwhole hzero
        (hfraction.noDigit fun c more heq => (hpoint c more heq).1)]
      simp only [Option.bind_eq_bind, Option.bind_some, hfraction.reads hpoint,
        hexponent.reads hrest]
    simp only [List.map_append, List.append_assoc]
    cases negative with
    | true => exact hunsigned
    | false =>
      obtain ⟨c, more, rfl, hc⟩ := hwhole.exists_cons
      exact (numeral?_of_digit hc _).trans hunsigned

/-! ## Values -/

theorem readValue_congr {ys : List Glyph} (h : skipSpace xs = skipSpace ys) (fuel : Nat) :
    readValue fuel xs = readValue fuel ys := by
  unfold readValue
  rw [h]

theorem readItems_congr {ys : List Glyph} (h : skipSpace xs = skipSpace ys) (fuel : Nat) :
    readItems fuel xs = readItems fuel ys := by
  cases fuel with
  | zero => rfl
  | succ fuel => simp only [readItems, readValue_congr h]

/-- A number starts with its sign or a digit. -/
def StartsNumber (c : Char) : Prop := c = '-' ∨ (decimal? c).isSome

theorem NumeralText.head {n : Numeral} (h : NumeralText n cs) :
    ∃ c more, cs = c :: more ∧ StartsNumber c := by
  cases h with
  | @of negative _ _ _ _ _ _ hwhole _ _ _ =>
    cases negative with
    | true => exact ⟨_, _, rfl, .inl rfl⟩
    | false =>
      obtain ⟨c, more, rfl, hc⟩ := hwhole.exists_cons
      exact ⟨_, _, rfl, .inr hc⟩

/-- No other value starts like a number. -/
theorem StartsNumber.notMem {c : Char} (h : StartsNumber c) :
    c ∉ [' ', '\n', '\t', '\r', 'n', 't', 'f', '"', '[', '\x7b', ']'] := by
  rcases h with rfl | h
  · decide
  · intro hmem
    simp only [List.mem_cons, List.not_mem_nil, or_false] at hmem
    rcases hmem with rfl | rfl | rfl | rfl | rfl | rfl | rfl | rfl | rfl | rfl | rfl <;>
      contradiction

theorem StartsNumber.not_isSpace {c : Char} (h : StartsNumber c) : isSpace c = false := by
  have := h.notMem
  simp_all [isSpace]

theorem skipSpace_of_not_isSpace {c : Char} (h : isSpace c = false) (xs : List Glyph) :
    skipSpace (some c :: xs) = some c :: xs := by
  simp [skipSpace, h]

/-- Blanks in front of a sign are passed over. -/
theorem skipSpace_sign {b : List Char} {c : Char} (hb : Blanks b) (hc : isSpace c = false)
    (xs : List Glyph) : skipSpace (b.map some ++ some c :: xs) = some c :: xs :=
  (skipSpace_blanks hb _).trans (skipSpace_of_not_isSpace hc xs)

theorem readValue_number {c : Char} (h : StartsNumber c) (fuel : Nat) (xs : List Glyph) :
    readValue (fuel + 1) (some c :: xs) = .of .number (numeral? (some c :: xs)) := by
  have hother := h.notMem
  rw [readValue.eq_def, skipSpace_of_not_isSpace h.not_isSpace]
  split <;> simp_all

/-- The first sign of a value is no blank and no closing bracket. -/
theorem Written.head {t : Tree} (h : Written (.value t) cs) :
    ∃ c more, cs = c :: more ∧ isSpace c = false ∧ c ≠ ']' := by
  generalize hp : Phrase.value t = p at h
  cases h with
  | null | emptyArray | array | emptyObject | object => exact ⟨_, _, rfl, rfl, by decide⟩
  | bool b => cases b <;> exact ⟨_, _, rfl, rfl, by decide⟩
  | string h => cases h; exact ⟨_, _, rfl, rfl, by decide⟩
  | number h =>
    obtain ⟨c, more, rfl, hc⟩ := h.head
    exact ⟨c, more, rfl, hc.not_isSpace, fun heq => hc.notMem (by simp [heq])⟩
  | _ => cases hp

theorem skipSpace_written {t : Tree} {a : List Char} (ha : Blanks a) (h : Written (.value t) cs)
    (xs : List Glyph) :
    skipSpace (a.map some ++ (cs.map some ++ xs)) = cs.map some ++ xs := by
  obtain ⟨c, more, rfl, hc, -⟩ := h.head
  rw [skipSpace_blanks ha]
  exact skipSpace_of_not_isSpace hc _

theorem skipSpace_name {name : List Glyph} {a : List Char} (ha : Blanks a)
    (h : StringText name cs) (xs : List Glyph) :
    ∃ behind, skipSpace (a.map some ++ (cs.map some ++ xs)) = some '"' :: behind ∧
      string? behind = some (name, xs) := by
  obtain ⟨behind, hcs, hstring⟩ := h.reads xs
  rw [skipSpace_blanks ha, hcs]
  exact ⟨behind, skipSpace_of_not_isSpace (by decide) _, hstring⟩

/-- No number goes on with a blank. -/
theorem ends_blanks {b : List Char} (hb : Blanks b) (h : Ends xs) : Ends (b.map some ++ xs) := by
  cases b with
  | nil => exact h
  | cons d b =>
    have hd : d = ' ' ∨ d = '\n' ∨ d = '\t' ∨ d = '\r' := by
      simpa [isSpace, or_assoc] using hb d (.head _)
    rintro _ _ ⟨⟩
    rcases hd with rfl | rfl | rfl | rfl <;> decide

theorem ends_sign {c : Char} (hc : c ∈ [',', ']', '\x7d']) (xs : List Glyph) :
    Ends (some c :: xs) := by
  rintro _ _ ⟨⟩
  simp only [List.mem_cons, List.not_mem_nil, or_false] at hc
  rcases hc with rfl | rfl | rfl <;> decide

/-! ## One step of each reader -/

section Steps

variable {fuel : Nat} {t : Tree} {name : List Glyph} {ys zs us vs behind : List Glyph}
  {ts : List Tree} {ms : List (List Glyph × Tree)}

theorem readValue_string {s : List Glyph} (h : string? xs = some (s, rest)) :
    readValue (fuel + 1) (some '"' :: xs) = (.string s, some rest) := by
  simp only [readValue, skipSpace_of_not_isSpace (show isSpace '"' = false by decide), h]
  rfl

theorem readValue_array (hclose : ∀ more, skipSpace xs ≠ some ']' :: more)
    (hitems : readItems fuel xs = (ts, some rest)) :
    readValue (fuel + 1) (some '[' :: xs) = (.array ts true, some rest) := by
  rw [← readItems_congr (skipSpace_skipSpace xs)] at hitems
  simp only [readValue, skipSpace_of_not_isSpace (show isSpace '[' = false by decide), hitems]
  rfl

theorem readValue_object (hquote : skipSpace xs = some '"' :: behind)
    (hmembers : readMembers fuel behind = (ms, some rest)) :
    readValue (fuel + 1) (some '\x7b' :: xs) = (.object ms true, some rest) := by
  simp only [readValue, skipSpace_of_not_isSpace (show isSpace '\x7b' = false by decide), hquote,
    hmembers]
  rfl

theorem readItems_last (hvalue : readValue fuel xs = (t, some ys))
    (hclose : skipSpace ys = some ']' :: rest) : readItems (fuel + 1) xs = ([t], some rest) := by
  simp only [readItems, hvalue, hclose]

theorem readItems_more (hvalue : readValue fuel xs = (t, some ys))
    (hcomma : skipSpace ys = some ',' :: zs) (hmore : readItems fuel zs = (ts, some rest)) :
    readItems (fuel + 1) xs = (t :: ts, some rest) := by
  simp only [readItems, hvalue, hcomma, hmore]

theorem readMembers_last (hname : string? xs = some (name, ys))
    (hcolon : skipSpace ys = some ':' :: zs) (hvalue : readValue fuel zs = (t, some us))
    (hclose : skipSpace us = some '\x7d' :: rest) :
    readMembers (fuel + 1) xs = ([(name, t)], some rest) := by
  simp only [readMembers, hname, hcolon, hvalue, hclose]

theorem readMembers_more (hname : string? xs = some (name, ys))
    (hcolon : skipSpace ys = some ':' :: zs) (hvalue : readValue fuel zs = (t, some us))
    (hcomma : skipSpace us = some ',' :: vs) (hquote : skipSpace vs = some '"' :: behind)
    (hmore : readMembers fuel behind = (ms, some rest)) :
    readMembers (fuel + 1) xs = ((name, t) :: ms, some rest) := by
  simp only [readMembers, hname, hcolon, hvalue, hcomma, hquote, hmore]

end Steps

/-! ## Whole phrases -/

/-- The reader of the phrase takes the text and leaves the rest. The reader of
members starts behind the first quote. -/
def Phrase.ReadsBack (cs : List Char) : Phrase → Prop
  | .value t => ∀ fuel rest, 2 * cs.length ≤ fuel + 1 → Ends rest →
      readValue (fuel + 1) (cs.map some ++ rest) = (t, some rest)
  | .items ts => ∀ fuel rest, 2 * cs.length ≤ fuel + 1 →
      readItems (fuel + 1) (cs.map some ++ rest) = (ts, some rest)
  | .members ms => ∀ fuel rest, 2 * cs.length ≤ fuel + 1 →
      ∃ behind, skipSpace (cs.map some ++ rest) = some '"' :: behind ∧
        readMembers (fuel + 1) behind = (ms, some rest)

/-- A value between blanks is read, if a sign stands behind them. -/
theorem Phrase.ReadsBack.padded {t : Tree} {a b : List Char} {c : Char}
    (h : (Phrase.value t).ReadsBack cs) (ha : Blanks a) (hb : Blanks b)
    (hc : c ∈ [',', ']', '\x7d']) {fuel : Nat} (hfuel : 2 * cs.length ≤ fuel + 1)
    (xs : List Glyph) :
    readValue (fuel + 1) (a.map some ++ (cs.map some ++ (b.map some ++ some c :: xs))) =
      (t, some (b.map some ++ some c :: xs)) :=
  (readValue_congr (skipSpace_blanks ha _) _).trans
    (h fuel _ hfuel (ends_blanks hb (ends_sign hc xs)))

/-- Items are not taken for the end of an empty array. -/
theorem Written.items_head {ts : List Tree} (h : Written (.items ts) cs) (rest more : List Glyph) :
    skipSpace (cs.map some ++ rest) ≠ some ']' :: more := by
  have hvalue : ∀ {t a cs} (behind : List Char), Blanks a → Written (.value t) cs →
      skipSpace ((a ++ cs ++ behind).map some ++ rest) ≠ some ']' :: more := by
    intro t a cs behind ha h
    obtain ⟨c, cs, rfl, -, hc⟩ := h.head
    simp only [List.map_append, List.append_assoc]
    rw [skipSpace_written ha h]
    simp [hc]
  generalize hp : Phrase.items ts = p at h
  cases h with
  | lastItem ha h _ | item ha h _ _ =>
    rw [List.append_assoc]
    exact hvalue _ ha h
  | _ => cases hp

theorem Written.readsBack {p : Phrase} (h : Written p cs) : p.ReadsBack cs := by
  -- an opening bracket and a sign behind a value each pay for one more step
  induction h with
  | null =>
    intro fuel rest hfuel hrest
    simp [readValue, skipSpace, isSpace, Progress.of, afterWord?]
  | bool b =>
    intro fuel rest hfuel hrest
    cases b <;> simp [readValue, skipSpace, isSpace, Progress.of, afterWord?]
  | number h =>
    intro fuel rest hfuel hrest
    obtain ⟨c, more, rfl, hc⟩ := h.head
    exact (readValue_number hc _ _).trans (congrArg _ (h.reads hrest))
  | string h =>
    intro fuel rest hfuel hrest
    obtain ⟨behind, hcs, hstring⟩ := h.reads rest
    rw [hcs]
    exact readValue_string hstring
  | emptyArray h | emptyObject h =>
    intro fuel rest hfuel hrest
    simp [readValue, skipSpace, isSpace, skipSpace_blanks h]
  | @array ts cs h ih =>
    intro fuel rest hfuel hrest
    simp only [List.length_cons] at hfuel
    obtain ⟨fuel, rfl⟩ : ∃ f, fuel = f + 1 := ⟨fuel - 1, by omega⟩
    exact readValue_array (h.items_head rest) (ih fuel rest (by omega))
  | @object ms cs h ih =>
    intro fuel rest hfuel hrest
    simp only [List.length_cons] at hfuel
    obtain ⟨fuel, rfl⟩ : ∃ f, fuel = f + 1 := ⟨fuel - 1, by omega⟩
    obtain ⟨behind, hquote, hmembers⟩ := ih fuel rest (by omega)
    exact readValue_object hquote hmembers
  | @lastItem t a cs b ha h hb ih =>
    intro fuel rest hfuel
    simp only [List.length_append, List.length_cons] at hfuel
    obtain ⟨fuel, rfl⟩ : ∃ f, fuel = f + 1 := ⟨fuel - 1, by omega⟩
    simp only [List.map_append, List.map_cons, List.map_nil, List.append_assoc, List.cons_append,
      List.nil_append]
    exact readItems_last (ih.padded ha hb (by decide) (by omega) _)
      (skipSpace_sign hb (by decide) _)
  | @item t ts a cs b more ha h hb hmore ih ihmore =>
    intro fuel rest hfuel
    simp only [List.length_append, List.length_cons] at hfuel
    obtain ⟨fuel, rfl⟩ : ∃ f, fuel = f + 1 := ⟨fuel - 1, by omega⟩
    simp only [List.map_append, List.map_cons, List.append_assoc, List.cons_append]
    exact readItems_more (ih.padded ha hb (by decide) (by omega) _)
      (skipSpace_sign hb (by decide) _) (ihmore fuel rest (by omega))
  | @lastMember name t a ns b c cs d ha hname hb hc h hd ih =>
    intro fuel rest hfuel
    simp only [List.length_append, List.length_cons] at hfuel
    obtain ⟨fuel, rfl⟩ : ∃ f, fuel = f + 1 := ⟨fuel - 1, by omega⟩
    simp only [List.map_append, List.map_cons, List.map_nil, List.append_assoc, List.cons_append,
      List.nil_append]
    obtain ⟨behind, hquote, hstring⟩ := skipSpace_name ha hname _
    exact ⟨behind, hquote, readMembers_last hstring (skipSpace_sign hb (by decide) _)
      (ih.padded hc hd (by decide) (by omega) _) (skipSpace_sign hd (by decide) _)⟩
  | @member name t ms a ns b c cs d more ha hname hb hc h hd hmore ih ihmore =>
    intro fuel rest hfuel
    simp only [List.length_append, List.length_cons] at hfuel
    obtain ⟨fuel, rfl⟩ : ∃ f, fuel = f + 1 := ⟨fuel - 1, by omega⟩
    simp only [List.map_append, List.map_cons, List.append_assoc, List.cons_append]
    obtain ⟨behind, hquote, hstring⟩ := skipSpace_name ha hname _
    obtain ⟨behind', hquote', hmembers⟩ := ihmore fuel rest (by omega)
    exact ⟨behind, hquote, readMembers_more hstring (skipSpace_sign hb (by decide) _)
      (ih.padded hc hd (by decide) (by omega) _) (skipSpace_sign hd (by decide) _) hquote'
      hmembers⟩

/-- **A text is read as the tree that it is written for**, and nothing but blanks
is left. -/
theorem Tree.IsOf.read {t : Tree} {text : String} (h : t.IsOf text) :
    ∃ rest, Tree.read (glyphs text) = (t, some rest) ∧ skipSpace rest = [] := by
  obtain ⟨a, cs, b, ha, ht, hb, htext⟩ := h
  have hend : Ends (b.map some ++ []) := ends_blanks hb nofun
  rw [List.append_nil] at hend
  have hvalue : ∀ fuel, 2 * cs.length ≤ fuel + 1 →
      readValue (fuel + 1) (cs.map some ++ b.map some) = (t, some (b.map some)) :=
    fun fuel hfuel => ht.readsBack fuel _ hfuel hend
  refine ⟨b.map some, ?_, by simpa [skipSpace] using skipSpace_blanks hb []⟩
  rw [Tree.read, glyphs, htext]
  simp only [List.map_append, List.append_assoc]
  rw [readValue_congr (skipSpace_blanks ha _)]
  apply hvalue
  simp only [List.length_append, List.length_map]
  omega

/-- A decoder gets the tree of a text. -/
theorem Decoder.run_of_isOf {α : Type} {d : Decoder α} {t : Tree} {text : String}
    (h : t.IsOf text) : d.run text = d maxNesting t := by
  obtain ⟨rest, hread, hrest⟩ := h.read
  unfold run
  rw [hread]
  cases hd : d maxNesting t <;> simp [hrest, hd]

end DocSieve.Json
