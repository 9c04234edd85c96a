-- SUMMARY: Dotted texts and the names they spell, and what a path leads to in a document.
import DocSieve.Path

/-!
# Names of a path

Cutting a text at its dots and joining names with dots undo each other, so a
text spells exactly one list of names. A path is therefore no more than its
text: no two texts give the same path.
-/

namespace DocSieve

open Json

namespace Text

/-! ## Cutting and joining -/

theorem splitAt_eq_splitOn (separator : Char) (cs : List Char) :
    splitAt separator cs = cs.splitOn separator := by
  induction cs with
  | nil => simp [splitAt]
  | cons c cs ih =>
    rw [splitAt, List.splitOn_cons_eq_if_modifyHead, ← ih]
    by_cases h : c = separator
    · simp [h]
    · simp only [h, beq_iff_eq, if_false]
      cases hs : splitAt separator cs with
      | nil => exact absurd (ih ▸ hs) (List.splitOn_ne_nil _ _)
      | cons p ps => rfl

theorem separator_notMem_of_mem_splitAt {separator : Char} {cs p : List Char}
    (h : p ∈ splitAt separator cs) : separator ∉ p := by
  induction cs generalizing p with
  | nil => simp_all [splitAt]
  | cons c cs ih =>
    rw [splitAt] at h
    split at h
    · rcases List.mem_cons.mp h with rfl | h
      · exact List.not_mem_nil
      · exact ih h
    · rename_i hc
      split at h
      · simp [List.mem_singleton.mp h, Ne.symm hc]
      · rename_i q qs hs
        rcases List.mem_cons.mp h with rfl | h
        · have hq := ih (hs ▸ List.mem_cons_self)
          simp only [List.mem_cons, not_or]
          exact ⟨fun h => hc h.symm, hq⟩
        · exact ih (hs ▸ List.mem_cons_of_mem _ h)

theorem pieces_ne_nil (separator : Char) (s : String) : pieces separator s ≠ [] := by
  simp [pieces, splitAt_eq_splitOn]

theorem intercalate_pieces (s : String) : String.intercalate "." (pieces '.' s) = s := by
  rw [← String.toList_inj, String.toList_intercalate]
  simp [pieces, splitAt_eq_splitOn, Function.comp_def, List.intercalate_splitOn]

theorem pieces_intercalate {names : List String} (h : names ≠ [])
    (hdot : ∀ n ∈ names, '.' ∉ n.toList) :
    pieces '.' (String.intercalate "." names) = names := by
  have hcut : (['.'].intercalate (names.map String.toList)).splitOn '.' = names.map String.toList :=
    List.splitOn_intercalate '.' (by simpa using hdot) (by simpa using h)
  simp [pieces, splitAt_eq_splitOn, String.toList_intercalate, hcut, Function.comp_def]

end Text

/-! ## The names that a text spells -/

/-- The text `s` is the names `names` with dots between them. -/
structure Dotted (s : String) (names : List String) : Prop where
  ne_nil : names ≠ []
  noDot : ∀ n ∈ names, '.' ∉ n.toList
  joined : String.intercalate "." names = s

theorem dotted_iff {s : String} {names : List String} :
    Dotted s names ↔ names = Text.pieces '.' s := by
  constructor
  · intro h
    rw [← h.joined, Text.pieces_intercalate h.ne_nil h.noDot]
  · rintro rfl
    refine ⟨Text.pieces_ne_nil _ _, ?_, Text.intercalate_pieces s⟩
    intro n hn
    obtain ⟨p, hp, rfl⟩ := List.mem_map.mp hn
    rw [String.toList_ofList]
    exact Text.separator_notMem_of_mem_splitAt hp

/-- A text spells one list of names only. -/
theorem Dotted.unique {s : String} {ms ns : List String} (hm : Dotted s ms) (hn : Dotted s ns) :
    ms = ns := by
  rw [dotted_iff.mp hm, dotted_iff.mp hn]

/-- Names belong to one text only. -/
theorem Dotted.text_unique {s t : String} {names : List String} (hs : Dotted s names)
    (ht : Dotted t names) : s = t := by
  rw [← hs.joined, ht.joined]

/-- The empty text spells a blank name. -/
theorem Dotted.ne_empty {s : String} {names : List String} (h : Dotted s names)
    (hblank : ∀ n ∈ names, Text.isBlank n = false) : s ≠ "" := by
  rintro rfl
  cases dotted_iff.mp h
  exact absurd (hblank "" (by decide +kernel)) (by decide)

namespace FieldPath

theorem ofText?_eq_some_iff {s : String} {p : FieldPath} :
    ofText? s = some p ↔ Dotted s p.segments ∧ ∀ n ∈ p.segments, Text.isBlank n = false := by
  obtain ⟨segments⟩ := p
  rw [dotted_iff, ofText?]
  by_cases h : (Text.pieces '.' s).any Text.isBlank
  · simp only [h, if_true, reduceCtorEq, false_iff, not_and]
    rintro rfl hblank
    obtain ⟨n, hn, hb⟩ := List.any_eq_true.mp h
    simp [hblank n hn] at hb
  · simp only [h, if_false, Option.some.injEq, mk.injEq, Bool.false_eq_true]
    constructor
    · rintro rfl
      exact ⟨rfl, by simpa using h⟩
    · rintro ⟨rfl, -⟩
      rfl

/-! ## What a path leads to -/

/-- Following the names from `v` through nested objects leads to `x`. -/
inductive Reaches : Value → List String → Value → Prop where
  | here {v : Value} : Reaches v [] v
  | member {members : List (String × Value)} {n : String} {names : List String} {v x : Value} :
      members.lookup n = some v → Reaches v names x → Reaches (.object members) (n :: names) x

theorem reaches_iff_follow {names : List String} {v x : Value} :
    Reaches v names x ↔ follow names v = some x := by
  induction names generalizing v with
  | nil =>
    constructor
    · rintro ⟨⟩; rfl
    · rintro h; cases h; exact .here
  | cons n names ih =>
    constructor
    · rintro (_ | ⟨hn, hx⟩)
      simp [follow, Value.get?, hn, ih.mp hx]
    · intro h
      obtain ⟨w, hw, hx⟩ := Option.bind_eq_some_iff.mp h
      cases v with
      | object members => exact .member hw (ih.mpr hx)
      | _ => simp [Value.get?] at hw

end FieldPath

end DocSieve
