-- SUMMARY: Which texts are paths, and that a path and its text determine each other.
import DocSieve.Proofs.Path
import DocSieve.Schema.Error

/-!
# Paths as texts

A text is cut at its dots and nowhere else, and nothing is taken off its pieces.
A path therefore shows the text that it was read from, to the last blank. Any
names make a path as long as there is one, none is blank and none has a dot.
-/

namespace DocSieve

variable {s t piece : String} {names ms : List String}

/-! ## Pieces -/

/-- The text `piece` stands in `s` between two dots, or where a dot is missing
at an end of `s`. -/
structure IsPiece (piece s : String) : Prop where
  noDot : '.' ∉ piece.toList
  placed : ∃ before after, s = before ++ piece ++ after ∧
    (before = "" ∨ ∃ b, before = b ++ ".") ∧ (after = "" ∨ ∃ a, after = "." ++ a)

namespace Text

theorem pieces_append_dot (s t : String) :
    pieces '.' (s ++ "." ++ t) = pieces '.' s ++ pieces '.' t := by
  simp [pieces, splitAt_eq_splitOn, List.splitOn_append_cons_self]

theorem pieces_of_noDot (h : '.' ∉ s.toList) : pieces '.' s = [s] := by
  simp [pieces, splitAt_eq_splitOn, List.splitOn_eq_singleton h]

/-- Before the names at the end of joined names stands nothing, or what ends in a
dot. -/
theorem intercalate_append_eq (hms : ms ≠ []) :
    ∃ before, String.intercalate "." (names ++ ms) = before ++ String.intercalate "." ms ∧
      (before = "" ∨ ∃ b, before = b ++ ".") := by
  by_cases hnames : names = []
  · subst hnames
    exact ⟨"", by simp, .inl rfl⟩
  · exact ⟨_, String.intercalate_append_of_ne_nil hnames hms, .inr ⟨_, rfl⟩⟩

/-- Behind the first of joined names stands nothing, or what starts with a dot. -/
theorem intercalate_cons_eq (n : String) (names : List String) :
    ∃ after, String.intercalate "." (n :: names) = n ++ after ∧
      (after = "" ∨ ∃ a, after = "." ++ a) := by
  cases names with
  | nil => exact ⟨"", by simp, .inl rfl⟩
  | cons m names =>
    refine ⟨"." ++ String.intercalate "." (m :: names), ?_, .inr ⟨_, rfl⟩⟩
    rw [String.intercalate_cons_cons, String.append_assoc]

/-- The pieces that a text is cut into are all that stands between its dots. -/
theorem mem_pieces_iff : piece ∈ pieces '.' s ↔ IsPiece piece s := by
  constructor
  · intro h
    have hdot : Dotted s (pieces '.' s) := dotted_iff.mpr rfl
    refine ⟨hdot.noDot piece h, ?_⟩
    obtain ⟨names, rest, hpieces⟩ := List.append_of_mem h
    obtain ⟨before, hbefore, hstart⟩ := intercalate_append_eq (List.cons_ne_nil piece rest)
    obtain ⟨after, hafter, hend⟩ := intercalate_cons_eq piece rest
    refine ⟨before, after, ?_, hstart, hend⟩
    rw [← hdot.joined, hpieces, hbefore, hafter, String.append_assoc]
  · rintro ⟨hdot, before, after, rfl, hstart, hend⟩
    have hpiece : piece ∈ pieces '.' (piece ++ after) := by
      rcases hend with rfl | ⟨a, rfl⟩
      · rw [String.append_empty, pieces_of_noDot hdot]
        exact List.mem_singleton_self piece
      · rw [← String.append_assoc, pieces_append_dot, pieces_of_noDot hdot]
        exact List.mem_cons_self
    rcases hstart with rfl | ⟨b, rfl⟩
    · rwa [String.empty_append]
    · rw [String.append_assoc, pieces_append_dot]
      exact List.mem_append_right _ hpiece

theorem isBlank_eq_false_iff :
    isBlank s = false ↔ ∃ c ∈ s.toList, whiteSpace.holds c = false := by
  simp [isBlank]

end Text

/-! ## Reading -/

namespace FieldPath

variable {p : FieldPath}

theorem parse_eq_ok_iff :
    parse s = .ok p ↔ Dotted s p.segments ∧ ∀ n ∈ p.segments, Text.isBlank n = false := by
  rw [← ofText?_eq_some_iff, parse]
  cases ofText? s <;> simp

theorem parse_eq_error_iff {e : SchemaError} :
    parse s = .error e ↔
      e = .emptyPath s ∧ ∃ piece, IsPiece piece s ∧ Text.isBlank piece = true := by
  have hnone : ofText? s = none ↔ ∃ piece, IsPiece piece s ∧ Text.isBlank piece = true := by
    simp [ofText?, List.any_eq_true, Text.mem_pieces_iff]
  rw [← hnone, parse]
  cases ofText? s <;> simp [eq_comm]

/-- The names are such that a path can be made of them. -/
structure AreNames (names : List String) : Prop where
  ne_nil : names ≠ []
  notBlank : ∀ n ∈ names, ∃ c ∈ n.toList, Text.whiteSpace.holds c = false
  noDot : ∀ n ∈ names, '.' ∉ n.toList

theorem parse_eq_ok_iff_areNames :
    parse s = .ok p ↔ p.toText = s ∧ AreNames p.segments := by
  rw [parse_eq_ok_iff]
  simp only [Text.isBlank_eq_false_iff]
  exact ⟨fun ⟨hdot, hnames⟩ => ⟨hdot.joined, hdot.ne_nil, hnames, hdot.noDot⟩,
    fun ⟨htext, hnames⟩ => ⟨⟨hnames.ne_nil, hnames.noDot, htext⟩, hnames.notBlank⟩⟩

/-- **A path and its text determine each other.** A text is no path exactly if
one of its pieces is empty or white space only. The path of a text shows the
text again and is that of no other text. It has at least one name, and its names
are neither blank nor dotted. All names of this kind are those of a path, which
their joined text gives. -/
theorem text_round_trip (s : String) :
    (∀ e, parse s = .error e ↔ e = .emptyPath s ∧
      ∃ piece, IsPiece piece s ∧ ∀ c ∈ piece.toList, Text.whiteSpace.holds c = true) ∧
    (∀ p, parse s = .ok p →
      p.toText = s ∧ AreNames p.segments ∧ ∀ t, parse t = .ok p → t = s) ∧
    ∀ names, AreNames names → parse (String.intercalate "." names) = .ok ⟨names⟩ := by
  refine ⟨?fails, ?shows, ?joined⟩
  case fails =>
    intro e
    simp only [parse_eq_error_iff, Text.isBlank, List.all_eq_true]
  case shows =>
    intro p hp
    obtain ⟨htext, hnames⟩ := parse_eq_ok_iff_areNames.mp hp
    refine ⟨htext, hnames, ?_⟩
    intro t ht
    rw [← htext, (parse_eq_ok_iff_areNames.mp ht).1]
  case joined =>
    intro names hnames
    exact parse_eq_ok_iff_areNames.mpr ⟨rfl, hnames⟩

/-- Blanks inside and in front of names stay, and an ideographic space alone is
no name. -/
theorem text_round_trip_blanks :
    parse " job.pay grade" = .ok ⟨[" job", "pay grade"]⟩ ∧
    (⟨[" job", "pay grade"]⟩ : FieldPath).toText = " job.pay grade" ∧
    (∀ t, parse t = .ok ⟨[" job", "pay grade"]⟩ → t = " job.pay grade") ∧
    parse "job.\u3000.title" = .error (.emptyPath "job.\u3000.title") := by
  have hblank : ∀ n ∈ [" job", "pay grade"], Text.isBlank n = false := by decide +kernel
  have hnames : AreNames [" job", "pay grade"] :=
    ⟨by simp, fun n hn => Text.isBlank_eq_false_iff.mp (hblank n hn), by decide +kernel⟩
  have htext : String.intercalate "." [" job", "pay grade"] = " job.pay grade" := by
    decide +kernel
  obtain ⟨-, hshows, hjoined⟩ := text_round_trip " job.pay grade"
  have hparse := hjoined _ hnames
  rw [htext] at hparse
  obtain ⟨hsame, -, honly⟩ := hshows _ hparse
  have hpiece : IsPiece "\u3000" "job.\u3000.title" :=
    ⟨by decide, "job.", ".title", rfl, .inr ⟨"job", rfl⟩, .inr ⟨"title", rfl⟩⟩
  have hspace : Text.isBlank "\u3000" = true := by decide +kernel
  exact ⟨hparse, hsame, honly,
    ((text_round_trip _).1 _).mpr ⟨rfl, _, hpiece, List.all_eq_true.mp hspace⟩⟩

end FieldPath

end DocSieve
