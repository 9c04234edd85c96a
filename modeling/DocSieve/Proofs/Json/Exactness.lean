-- SUMMARY: What is read without a break is a text of the grammar, so decoding accepts the texts of the grammar and no others.
import Mathlib.Tactic.SplitIfs
import DocSieve.Proofs.Except
import DocSieve.Proofs.Json.Reading

/-!
# Reading nothing but the grammar

The other direction: what a reader takes from a text is written for what it
gives. An escape is judged together with the string behind it, since half a
surrogate pair is a hole only if the other half does not follow. For values the
three readers are taken at once, by induction on their fuel.
-/

namespace DocSieve.Json

open Text (Glyph decimal? glyphs)

variable {cs : List Char} {rest : List Glyph} {fuel : Nat}

/-! ## Texts -/

theorem exists_of_map_eq_cons {c : Char} (h : cs.map some = some c :: rest) :
    ∃ more, cs = c :: more ∧ rest = more.map some := by
  obtain ⟨d, more, rfl, hd, rfl⟩ := List.map_eq_cons_iff.mp h
  cases hd
  exact ⟨more, rfl, rfl⟩

theorem exists_of_map_eq_append {ds : List Char} (h : cs.map some = ds.map some ++ rest) :
    ∃ more, cs = ds ++ more ∧ rest = more.map some := by
  induction ds generalizing cs with
  | nil => exact ⟨cs, rfl, h.symm⟩
  | cons d ds ih =>
    obtain ⟨more, rfl, hmore⟩ := exists_of_map_eq_cons h
    obtain ⟨more, rfl, rfl⟩ := ih hmore.symm
    exact ⟨more, rfl, rfl⟩

/-- Only blanks are skipped. -/
theorem exists_blanks (cs : List Char) :
    ∃ a more, Blanks a ∧ cs = a ++ more ∧ skipSpace (cs.map some) = more.map some := by
  induction cs with
  | nil => exact ⟨[], [], nofun, rfl, rfl⟩
  | cons c cs ih =>
    cases hc : isSpace c with
    | false => exact ⟨[], c :: cs, nofun, rfl, skipSpace_of_not_isSpace hc _⟩
    | true =>
      obtain ⟨a, more, ha, rfl, hskip⟩ := ih
      refine ⟨c :: a, more, ?_, rfl, by simpa [skipSpace, hc] using hskip⟩
      intro d hd
      rcases List.mem_cons.mp hd with rfl | hd
      · exact hc
      · exact ha d hd

/-- A sign that stands behind the blanks of a text. -/
theorem exists_blanks_of_cons {c : Char} (h : skipSpace (cs.map some) = some c :: rest) :
    ∃ a more, Blanks a ∧ cs = a ++ c :: more ∧ rest = more.map some := by
  obtain ⟨a, more, ha, rfl, hskip⟩ := exists_blanks cs
  obtain ⟨more, rfl, rfl⟩ := exists_of_map_eq_cons (hskip.symm.trans h)
  exact ⟨a, more, ha, rfl, rfl⟩

/-! ## Strings -/

theorem not_startsLow {body tail : List Char}
    (h : lowSurrogate? ((body ++ tail).map some) = none) : ¬ StartsLow body := by
  rintro ⟨n, ds, more, hds, hlow, rfl⟩
  rw [List.append_assoc, List.map_append, lowSurrogate?_of_fourHex hds hlow] at h
  contradiction

theorem short_of_escape? {letter : Char} {g : Glyph} {xs : List Glyph} (hu : letter ≠ 'u')
    (h : escape? (some letter :: xs) = some (g, rest)) :
    ∃ c, (letter, c) ∈ shortEscapes ∧ g = some c ∧ rest = xs := by
  unfold escape? at h
  split at h
  case h_1 heq => cases heq; exact absurd rfl hu
  case h_10 => contradiction
  all_goals
    rename_i heq
    cases heq
    cases h
    exact ⟨_, by simp [shortEscapes], rfl, rfl⟩

/-- What an escape adds to the string in front of which it stands. -/
theorem exists_escape {g : Glyph} (h : escape? (cs.map some) = some (g, rest)) :
    ∃ es more, cs = es ++ more ∧ rest = more.map some ∧
      ∀ s body tail, more = body ++ tail → StringBody s body →
        StringBody (g :: s) ('\\' :: es ++ body) := by
  cases cs with
  | nil => contradiction
  | cons letter cs =>
    by_cases hu : letter = 'u'
    case neg =>
      obtain ⟨c, hc, rfl, rfl⟩ := short_of_escape? hu h
      exact ⟨[letter], cs, rfl, rfl, fun s body tail _ hbody => .short hc hbody⟩
    case pos =>
      subst hu
      obtain ⟨⟨n, after⟩, hhex, -⟩ := Option.bind_eq_some_iff.mp h
      obtain ⟨ds, hds, hcs⟩ := exists_fourHex_of_hexEscape? hhex
      obtain ⟨more, rfl, rfl⟩ := exists_of_map_eq_append hcs
      have hescape := escape?_unicode hds (more.map some)
      rw [← List.map_append, List.cons_append, h] at hescape
      split_ifs at hescape with hhigh hlow
      · split at hescape
        next low after hpair =>
          cases hescape
          obtain ⟨ds', hds', hlow, hmore⟩ := exists_fourHex_of_lowSurrogate? hpair
          obtain ⟨more, rfl, rfl⟩ := exists_of_map_eq_append hmore
          refine ⟨'u' :: ds ++ '\\' :: 'u' :: ds', more, by simp, rfl, ?_⟩
          exact fun s body tail _ hbody => .pair hds hhigh hds' hlow hbody
        next hnone =>
          cases hescape
          refine ⟨'u' :: ds, more, rfl, rfl, fun s body tail htail hbody => ?_⟩
          exact .loneHigh hds hhigh (not_startsLow (htail ▸ hnone)) hbody
      · cases hescape
        exact ⟨'u' :: ds, more, rfl, rfl, fun s body tail _ hbody => .loneLow hds hlow hbody⟩
      · cases hescape
        exact ⟨'u' :: ds, more, rfl, rfl, fun s body tail _ hbody => .unicode hds hhigh hlow hbody⟩

/-- What is read as the body of a string is one, and a quote stands behind it. -/
theorem exists_stringBody {s : List Glyph} (h : stringBody? fuel (cs.map some) = some (s, rest)) :
    ∃ body more, cs = body ++ '"' :: more ∧ rest = more.map some ∧ StringBody s body := by
  induction fuel generalizing cs s with
  | zero => simp [stringBody?] at h
  | succ fuel ih =>
    cases cs with
    | nil => simp [stringBody?] at h
    | cons c cs =>
      by_cases hquote : c = '"'
      case pos =>
        subst hquote
        cases h
        exact ⟨[], cs, rfl, rfl, .nil⟩
      by_cases hback : c = '\\'
      case pos =>
        subst hback
        simp only [List.map_cons, stringBody?, Option.bind_eq_bind, Option.bind_eq_some_iff,
          Option.some.injEq, Prod.mk.injEq, Prod.exists] at h
        obtain ⟨g, after, hescape, s, _, hmore, rfl, rfl⟩ := h
        obtain ⟨es, more, rfl, rfl, hbody⟩ := exists_escape hescape
        obtain ⟨body, more, rfl, rfl, hs⟩ := ih hmore
        exact ⟨'\\' :: es ++ body, more, by simp, rfl, hbody s body _ rfl hs⟩
      case neg =>
        simp only [List.map_cons, stringBody?] at h
        split at h
        next => contradiction
        next hcontrol =>
          simp only [Option.bind_eq_bind, Option.bind_eq_some_iff, Option.some.injEq,
            Prod.mk.injEq, Prod.exists] at h
          obtain ⟨s, _, hmore, rfl, rfl⟩ := h
          obtain ⟨body, more, rfl, rfl, hs⟩ := ih hmore
          exact ⟨c :: body, more, rfl, rfl, .plain hquote hback (Nat.not_lt.mp hcontrol) hs⟩

theorem exists_string {s : List Glyph} (h : string? (cs.map some) = some (s, rest)) :
    ∃ ns more, '"' :: cs = ns ++ more ∧ rest = more.map some ∧ StringText s ns := by
  obtain ⟨body, more, rfl, rfl, hs⟩ := exists_stringBody h
  exact ⟨'"' :: body ++ ['"'], more, by simp, rfl, .of hs⟩

/-! ## Numbers -/

theorem exists_spanDigits {ds : List Nat} (h : Json.spanDigits (cs.map some) = (ds, rest)) :
    ∃ digits more, cs = digits ++ more ∧ rest = more.map some ∧
      digits.map decimal? = ds.map some := by
  induction cs generalizing ds with
  | nil => cases h; exact ⟨[], [], rfl, rfl, rfl⟩
  | cons c cs ih =>
    simp only [List.map_cons, Json.spanDigits] at h
    cases hc : decimal? c with
    | none =>
      rw [hc] at h
      cases h
      exact ⟨[], c :: cs, rfl, rfl, rfl⟩
    | some d =>
      rw [hc] at h
      cases h
      obtain ⟨digits, more, rfl, hrest, hdigits⟩ := ih rfl
      exact ⟨c :: digits, more, rfl, hrest, by simp [hc, hdigits]⟩

theorem exists_digits {ds : List Nat} (h : digits? (cs.map some) = some (ds, rest)) :
    ∃ digits more, cs = digits ++ more ∧ rest = more.map some ∧ Digits ds digits := by
  unfold digits? at h
  simp only [Option.ite_none_left_eq_some, Option.some.injEq, Prod.mk.injEq] at h
  obtain ⟨hne, rfl, rfl⟩ := h
  obtain ⟨digits, more, rfl, hrest, hdigits⟩ := @exists_spanDigits cs _ _ rfl
  exact ⟨digits, more, rfl, hrest, by simpa using hne, hdigits⟩

theorem exists_whole {ds : List Nat} (h : whole? (cs.map some) = some (ds, rest)) :
    ∃ digits more, cs = digits ++ more ∧ rest = more.map some ∧ Digits ds digits ∧
      (ds.head? = some 0 → ds.length = 1) := by
  simp only [whole?, Option.bind_eq_bind, Option.bind_eq_some_iff, Option.ite_none_left_eq_some,
    Option.some.injEq, Prod.mk.injEq, Prod.exists] at h
  obtain ⟨_, _, hread, hzero, rfl, rfl⟩ := h
  obtain ⟨digits, more, rfl, rfl, hdigits⟩ := exists_digits hread
  exact ⟨digits, more, rfl, rfl, hdigits, by simpa using hzero⟩

theorem exists_fraction {ds : List Nat} (h : fraction? (cs.map some) = some (ds, rest)) :
    ∃ fs more, cs = fs ++ more ∧ rest = more.map some ∧ FractionText ds fs := by
  unfold fraction? at h
  split at h
  next heq =>
    obtain ⟨cs, rfl, rfl⟩ := exists_of_map_eq_cons heq
    obtain ⟨digits, more, rfl, rfl, hdigits⟩ := exists_digits h
    exact ⟨'.' :: digits, more, rfl, rfl, .given hdigits⟩
  next =>
    cases h
    exact ⟨[], cs, rfl, rfl, .missing⟩

theorem exists_exponentDigits {e : Exponent} {letter : Char} (hletter : letter ∈ ['e', 'E'])
    (h : exponentDigits? (cs.map some) = some (e, rest)) :
    ∃ es more, cs = es ++ more ∧ rest = more.map some ∧ ExponentText (some e) (letter :: es) := by
  unfold exponentDigits? at h
  split at h
  next heq =>
    obtain ⟨cs, rfl, rfl⟩ := exists_of_map_eq_cons heq
    obtain ⟨⟨ds, _⟩, hread, ⟨⟩⟩ := Option.map_eq_some_iff.mp h
    obtain ⟨digits, more, rfl, rfl, hdigits⟩ := exists_digits hread
    exact ⟨'-' :: digits, more, rfl, rfl, .minus hletter hdigits⟩
  next heq =>
    obtain ⟨cs, rfl, rfl⟩ := exists_of_map_eq_cons heq
    obtain ⟨⟨ds, _⟩, hread, ⟨⟩⟩ := Option.map_eq_some_iff.mp h
    obtain ⟨digits, more, rfl, rfl, hdigits⟩ := exists_digits hread
    exact ⟨'+' :: digits, more, rfl, rfl, @ExponentText.plus _ ['+'] _ _ hletter (by simp) hdigits⟩
  next =>
    obtain ⟨⟨ds, _⟩, hread, ⟨⟩⟩ := Option.map_eq_some_iff.mp h
    obtain ⟨digits, more, rfl, rfl, hdigits⟩ := exists_digits hread
    exact ⟨digits, more, rfl, rfl, @ExponentText.plus _ [] _ _ hletter (by simp) hdigits⟩

theorem exists_exponent {e : Option Exponent} (h : exponent? (cs.map some) = some (e, rest)) :
    ∃ es more, cs = es ++ more ∧ rest = more.map some ∧ ExponentText e es := by
  have hgiven : ∀ {letter : Char} {cs : List Char}, letter ∈ ['e', 'E'] →
      (exponentDigits? (cs.map some)).map (fun r => (some r.1, r.2)) = some (e, rest) →
      ∃ es more, letter :: cs = es ++ more ∧ rest = more.map some ∧ ExponentText e es := by
    intro letter cs hletter h
    obtain ⟨⟨e, _⟩, hread, ⟨⟩⟩ := Option.map_eq_some_iff.mp h
    obtain ⟨es, more, rfl, rfl, hes⟩ := exists_exponentDigits hletter hread
    exact ⟨letter :: es, more, rfl, rfl, hes⟩
  unfold exponent? at h
  split at h
  next heq =>
    obtain ⟨cs, rfl, rfl⟩ := exists_of_map_eq_cons heq
    exact hgiven (by simp) h
  next heq =>
    obtain ⟨cs, rfl, rfl⟩ := exists_of_map_eq_cons heq
    exact hgiven (by simp) h
  next =>
    cases h
    exact ⟨[], cs, rfl, rfl, .missing⟩

theorem exists_unsigned {n : Numeral} {negative : Bool}
    (h : unsigned? negative (cs.map some) = some (n, rest)) :
    ∃ ns more, cs = ns ++ more ∧ rest = more.map some ∧
      NumeralText n ((if negative then ['-'] else []) ++ ns) := by
  simp only [unsigned?, Option.bind_eq_bind, Option.bind_eq_some_iff, Option.some.injEq,
    Prod.mk.injEq, Prod.exists] at h
  obtain ⟨whole, _, hwhole, fraction, _, hfraction, exponent, _, hexponent, rfl, rfl⟩ := h
  obtain ⟨ws, _, rfl, rfl, hws, hzero⟩ := exists_whole hwhole
  obtain ⟨fs, _, rfl, rfl, hfs⟩ := exists_fraction hfraction
  obtain ⟨es, more, rfl, rfl, hes⟩ := exists_exponent hexponent
  refine ⟨ws ++ fs ++ es, more, by simp, rfl, ?_⟩
  simpa using @NumeralText.of negative _ _ _ _ _ _ hws hzero hfs hes

/-- What is read as a number is one. -/
theorem exists_numeral {n : Numeral} (h : numeral? (cs.map some) = some (n, rest)) :
    ∃ ns more, cs = ns ++ more ∧ rest = more.map some ∧ NumeralText n ns := by
  unfold numeral? at h
  split at h
  next heq =>
    obtain ⟨cs, rfl, rfl⟩ := exists_of_map_eq_cons heq
    obtain ⟨ns, more, rfl, rfl, hns⟩ := exists_unsigned h
    exact ⟨'-' :: ns, more, rfl, rfl, hns⟩
  next =>
    exact exists_unsigned h

/-! ## Values -/

theorem Blanks.append {a b : List Char} (ha : Blanks a) (hb : Blanks b) : Blanks (a ++ b) :=
  fun c hc => (List.mem_append.mp hc).elim (ha c) (hb c)

theorem Written.blanks_members {ms : List (List Glyph × Tree)} {a : List Char} (ha : Blanks a)
    (h : Written (.members ms) cs) : Written (.members ms) (a ++ cs) := by
  generalize hp : Phrase.members ms = p at h
  cases h with
  | lastMember hb hname hc hd h he =>
    cases hp
    simpa using Written.lastMember (ha.append hb) hname hc hd h he
  | member hb hname hc hd h he hmore =>
    cases hp
    simpa using Written.member (ha.append hb) hname hc hd h he hmore
  | _ => cases hp

theorem Progress.of_eq_some {α : Type} {make : α → Tree} {o : Option (α × List Glyph)} {t : Tree}
    (h : Progress.of make o = (t, some rest)) : ∃ a, o = some (a, rest) ∧ t = make a := by
  cases o with
  | none => cases h
  | some r => cases h; exact ⟨_, rfl, rfl⟩

theorem exists_afterWord {word : List Char} (h : afterWord? word (cs.map some) = some rest) :
    ∃ more, cs = word ++ more ∧ rest = more.map some := by
  simp only [afterWord?, Option.ite_none_right_eq_some, Option.some.injEq] at h
  obtain ⟨htake, rfl⟩ := h
  have hcs := List.take_append_drop word.length (cs.map some)
  rw [htake] at hcs
  exact exists_of_map_eq_append hcs.symm

theorem exists_word {word : List Char} {make : Unit → Tree} {t : Tree}
    (h : Progress.of make ((afterWord? word (cs.map some)).map ((), ·)) = (t, some rest)) :
    ∃ more, cs = word ++ more ∧ rest = more.map some ∧ t = make () := by
  obtain ⟨_, hread, rfl⟩ := Progress.of_eq_some h
  obtain ⟨_, hword, ⟨⟩⟩ := Option.map_eq_some_iff.mp hread
  obtain ⟨more, rfl, rfl⟩ := exists_afterWord hword
  exact ⟨more, rfl, rfl, rfl⟩

/-- What the readers take is written for what they give, if the text does not break. -/
structure TakesWritten (fuel : Nat) : Prop where
  value {cs : List Char} {t : Tree} {rest : List Glyph} :
    readValue fuel (cs.map some) = (t, some rest) →
    ∃ a taken more, Blanks a ∧ cs = a ++ taken ++ more ∧ rest = more.map some ∧
      Written (.value t) taken
  items {cs : List Char} {ts : List Tree} {rest : List Glyph} :
    readItems fuel (cs.map some) = (ts, some rest) →
    ∃ taken more, cs = taken ++ more ∧ rest = more.map some ∧ Written (.items ts) taken
  /-- The opening quote of the first name has been read. -/
  members {cs : List Char} {ms : List (List Glyph × Tree)} {rest : List Glyph} :
    readMembers fuel (cs.map some) = (ms, some rest) →
    ∃ taken more, '"' :: cs = taken ++ more ∧ rest = more.map some ∧ Written (.members ms) taken

theorem TakesWritten.value_succ (h : TakesWritten fuel) {t : Tree}
    (hread : readValue (fuel + 1) (cs.map some) = (t, some rest)) :
    ∃ a taken more, Blanks a ∧ cs = a ++ taken ++ more ∧ rest = more.map some ∧
      Written (.value t) taken := by
  obtain ⟨a, cs, ha, rfl, hskip⟩ := exists_blanks cs
  suffices hwritten : ∃ taken more, cs = taken ++ more ∧ rest = more.map some ∧
      Written (.value t) taken by
    obtain ⟨taken, more, rfl, hrest, ht⟩ := hwritten
    exact ⟨a, taken, more, ha, by simp, hrest, ht⟩
  unfold readValue at hread
  rw [hskip] at hread
  split at hread
  case h_1 heq => contradiction
  case h_2 heq _ =>
    obtain ⟨cs, rfl, rfl⟩ := exists_of_map_eq_cons heq
    obtain ⟨more, rfl, rfl, rfl⟩ := exists_word hread
    exact ⟨_, more, rfl, rfl, .null⟩
  case h_3 heq _ =>
    obtain ⟨cs, rfl, rfl⟩ := exists_of_map_eq_cons heq
    obtain ⟨more, rfl, rfl, rfl⟩ := exists_word hread
    exact ⟨_, more, rfl, rfl, .bool true⟩
  case h_4 heq _ =>
    obtain ⟨cs, rfl, rfl⟩ := exists_of_map_eq_cons heq
    obtain ⟨more, rfl, rfl, rfl⟩ := exists_word hread
    exact ⟨_, more, rfl, rfl, .bool false⟩
  case h_5 heq _ =>
    obtain ⟨cs, rfl, rfl⟩ := exists_of_map_eq_cons heq
    obtain ⟨s, hs, rfl⟩ := Progress.of_eq_some hread
    obtain ⟨taken, more, hcs, rfl, hstring⟩ := exists_string hs
    exact ⟨taken, more, hcs, rfl, .string hstring⟩
  case h_6 hfuel heq =>
    obtain ⟨cs, rfl, rfl⟩ := exists_of_map_eq_cons heq
    cases hfuel
    split at hread
    next hclose =>
      obtain ⟨b, more, hb, rfl, rfl⟩ := exists_blanks_of_cons hclose
      cases hread
      exact ⟨'[' :: b ++ [']'], more, by simp, rfl, .emptyArray hb⟩
    next =>
      rw [readItems_congr (skipSpace_skipSpace _)] at hread
      cases hitems : readItems fuel (cs.map some) with
      | mk ts after =>
        rw [hitems] at hread
        cases hread
        obtain ⟨taken, more, rfl, rfl, hts⟩ := h.items hitems
        exact ⟨'[' :: taken, more, rfl, rfl, .array hts⟩
  case h_7 hfuel heq =>
    obtain ⟨cs, rfl, rfl⟩ := exists_of_map_eq_cons heq
    cases hfuel
    split at hread
    next hclose =>
      obtain ⟨b, more, hb, rfl, rfl⟩ := exists_blanks_of_cons hclose
      cases hread
      exact ⟨'\x7b' :: b ++ ['\x7d'], more, by simp, rfl, .emptyObject hb⟩
    next hquote =>
      obtain ⟨b, cs, hb, rfl, rfl⟩ := exists_blanks_of_cons hquote
      cases hmembers : readMembers fuel (cs.map some) with
      | mk ms after =>
        rw [hmembers] at hread
        cases hread
        obtain ⟨taken, more, hcs, rfl, hms⟩ := h.members hmembers
        exact ⟨'\x7b' :: (b ++ taken), more, by simp [hcs], rfl, .object (hms.blanks_members hb)⟩
    next => cases hread
  case h_8 =>
    obtain ⟨n, hn, rfl⟩ := Progress.of_eq_some hread
    obtain ⟨taken, more, rfl, rfl, hnumeral⟩ := exists_numeral hn
    exact ⟨taken, more, rfl, rfl, .number hnumeral⟩

theorem TakesWritten.items_succ (h : TakesWritten fuel) {ts : List Tree}
    (hread : readItems (fuel + 1) (cs.map some) = (ts, some rest)) :
    ∃ taken more, cs = taken ++ more ∧ rest = more.map some ∧ Written (.items ts) taken := by
  unfold readItems at hread
  split at hread
  next => cases hread
  next t after hvalue =>
    obtain ⟨a, taken, more, ha, rfl, rfl, ht⟩ := h.value hvalue
    split at hread
    next hcomma =>
      obtain ⟨b, more, hb, rfl, rfl⟩ := exists_blanks_of_cons hcomma
      cases hitems : readItems fuel (more.map some) with
      | mk ts after =>
        rw [hitems] at hread
        cases hread
        obtain ⟨taken', more, rfl, rfl, hts⟩ := h.items hitems
        exact ⟨a ++ taken ++ b ++ ',' :: taken', more, by simp, rfl, .item ha ht hb hts⟩
    next hclose =>
      obtain ⟨b, more, hb, rfl, rfl⟩ := exists_blanks_of_cons hclose
      cases hread
      exact ⟨a ++ taken ++ b ++ [']'], more, by simp, rfl, .lastItem ha ht hb⟩
    next => cases hread

theorem TakesWritten.members_succ (h : TakesWritten fuel) {ms : List (List Glyph × Tree)}
    (hread : readMembers (fuel + 1) (cs.map some) = (ms, some rest)) :
    ∃ taken more, '"' :: cs = taken ++ more ∧ rest = more.map some ∧
      Written (.members ms) taken := by
  unfold readMembers at hread
  split at hread
  next => cases hread
  next name after hstring =>
    obtain ⟨ns, more, hcs, rfl, hname⟩ := exists_string hstring
    split at hread
    next hcolon =>
      obtain ⟨b, more, hb, rfl, rfl⟩ := exists_blanks_of_cons hcolon
      split at hread
      next => cases hread
      next t after hvalue =>
        obtain ⟨c, taken, more, hc, rfl, rfl, ht⟩ := h.value hvalue
        split at hread
        next hcomma =>
          obtain ⟨d, more, hd, rfl, rfl⟩ := exists_blanks_of_cons hcomma
          split at hread
          next hquote =>
            obtain ⟨e, more, he, rfl, rfl⟩ := exists_blanks_of_cons hquote
            cases hmembers : readMembers fuel (more.map some) with
            | mk ms after =>
              rw [hmembers] at hread
              cases hread
              obtain ⟨taken', more', hmore, rfl, hms⟩ := h.members hmembers
              refine ⟨[] ++ ns ++ b ++ ':' :: c ++ taken ++ d ++ ',' :: (e ++ taken'), more',
                by simp [hcs, hmore], rfl, ?_⟩
              exact .member blanks_nil hname hb hc ht hd (hms.blanks_members he)
          next => cases hread
        next hclose =>
          obtain ⟨d, more, hd, rfl, rfl⟩ := exists_blanks_of_cons hclose
          cases hread
          exact ⟨[] ++ ns ++ b ++ ':' :: c ++ taken ++ d ++ ['\x7d'], more, by simp [hcs], rfl,
            .lastMember blanks_nil hname hb hc ht hd⟩
        next => cases hread
    next => cases hread

theorem takesWritten (fuel : Nat) : TakesWritten fuel := by
  induction fuel with
  | zero => exact ⟨fun h => by simp [readValue] at h, nofun, nofun⟩
  | succ fuel ih => exact ⟨ih.value_succ, ih.items_succ, ih.members_succ⟩

/-- **Reading is exact.** A text is read to its end as a tree if and only if it is
written for that tree. -/
theorem Tree.isOf_iff {t : Tree} {text : String} :
    t.IsOf text ↔ ∃ rest, Tree.read (glyphs text) = (t, some rest) ∧ skipSpace rest = [] := by
  refine ⟨IsOf.read, ?_⟩
  rintro ⟨rest, hread, hrest⟩
  obtain ⟨a, taken, more, ha, htext, rfl, ht⟩ := (takesWritten _).value hread
  obtain ⟨b, more, hb, rfl, hskip⟩ := exists_blanks more
  cases List.map_eq_nil_iff.mp (hskip.symm.trans hrest)
  exact ⟨a, taken, b, ha, ht, hb, by simpa using htext⟩

/-- **Decoding accepts the texts of the grammar and no others**, those whose tree
the decoder accepts. -/
theorem Decoder.run_eq_ok_iff {α : Type} {d : Decoder α} {text : String} {a : α} :
    d.run text = .ok a ↔ ∃ t : Tree, t.IsOf text ∧ d maxNesting t = .ok a := by
  constructor
  · intro h
    unfold run at h
    cases hread : Tree.read (glyphs text) with
    | mk t after =>
      rw [hread] at h
      obtain ⟨b, hb, h⟩ := Except.bind_eq_ok_iff.mp h
      split at h
      next hafter =>
        cases h
        obtain ⟨rest, rfl, hrest⟩ := Option.map_eq_some_iff.mp hafter
        exact ⟨t, Tree.isOf_iff.mpr ⟨rest, hread, hrest⟩, hb⟩
      next => contradiction
  · rintro ⟨t, ht, ha⟩
    rw [run_of_isOf ht, ha]

end DocSieve.Json
