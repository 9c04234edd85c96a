-- SUMMARY: Which parts of a stored text the operators on texts find, and which they miss because a capital sigma changes its form.
import DocSieve.Proofs.Filter.Algebra
import DocSieve.Proofs.Text.LowerCase

/-!
# Parts of a text

A clause compares its operand with a stored text after both are lower-cased,
each by itself. A part of the stored text is found if that makes the same of
it by itself as inside of the text. Only capital sigmas can be in the way.
-/

namespace DocSieve

open Json Text

variable {r : Registry} {entity field : String} {names : List String} {document : Value}
  {op : Operator} {test : TextTest} {before part after s value : String}

theorem Registry.tells_of_compile {k : Condition} {other : Option String}
    (h : Clause.compile r entity ⟨field, some op, some value, other⟩ = .ok k) (document : Value) :
    r.Tells entity field document op value other (k.admits document) :=
  Except.map_eq_ok_iff.mpr ⟨k, h, rfl⟩

/-- A clause of an operator on texts compiles whatever its operand is, and
compares the operand with the stored text in lower case. -/
theorem Registry.exists_tells_text (hdot : Dotted field names)
    (hblank : ∀ n ∈ names, isBlank n = false) (ht : r.Declares entity names .text)
    (htest : op.textTest? = some test) (hvalue : value ≠ "")
    (hs : FieldPath.Reaches document names (.string s)) (other : Option String) :
    ∃ found, r.Tells entity field document op value other found ∧
      (found = true ↔ op.RelatesText (lower s) (lower value)) := by
  have hcompile : Clause.compile r entity ⟨field, some op, some value, other⟩ =
      .ok (.text ⟨names⟩ test (lower value)) := by
    rw [Clause.compile_of_declares hdot hblank ht hvalue]
    simp [ResolvedField.condition, FieldType.semantic, htest]
  have htells := tells_of_compile hcompile document
  exact ⟨_, htells, htells.iff_relatesText hdot ht hs⟩

/-- Between the two texts each capital sigma of the part has the form that it
has if the part stands alone. -/
def Text.KeepsForm (before part after : String) : Prop :=
  KeepsSigmas before.toList part.toList after.toList

theorem Text.lower_isInfix (h : KeepsForm before part after) :
    Operator.contains.RelatesText (lower (before ++ part ++ after)) (lower part) := by
  have htest : Operator.contains.textTest? = some .contains := rfl
  have hiff := TextTest.holds_iff htest (lower part) (lower (before ++ part ++ after))
  rw [← hiff]
  simp only [TextTest.holds, TextTest.occursIn_iff, lower, String.toList_ofList,
    String.toList_append]
  exact KeepsSigmas.isInfix h

theorem Text.lower_isPrefix_iff :
    Operator.startsWith.RelatesText (lower (part ++ after)) (lower part) ↔
      KeepsForm "" part after := by
  have htest : Operator.startsWith.textTest? = some .startsWith := rfl
  have hiff := TextTest.holds_iff htest (lower part) (lower (part ++ after))
  rw [← hiff]
  simp only [TextTest.holds, List.isPrefixOf_iff_prefix, lower, String.toList_ofList,
    String.toList_append]
  exact isPrefix_iff_keepsSigmas

theorem Text.lower_isSuffix_iff :
    Operator.endsWith.RelatesText (lower (before ++ part)) (lower part) ↔
      KeepsForm before part "" := by
  have htest : Operator.endsWith.textTest? = some .endsWith := rfl
  have hiff := TextTest.holds_iff htest (lower part) (lower (before ++ part))
  rw [← hiff]
  simp only [TextTest.holds, List.isSuffixOf_iff_suffix, lower, String.toList_ofList,
    String.toList_append]
  exact isSuffix_iff_keepsSigmas

/-- **A part of a stored text is found if its capital sigmas keep their form.** The
clauses that look for the part anywhere, at the start and at the end all
compile. At the start and at the end it is found exactly if between its
neighbours each capital sigma has the form that it has in the part alone, and
anywhere it is found if this is so. It is so for a part without capital sigmas,
and for one with no cased character next to it. -/
theorem Registry.finds_parts (hdot : Dotted field names)
    (hblank : ∀ n ∈ names, isBlank n = false) (ht : r.Declares entity names .text)
    (before part after : String) (hpart : part ≠ "")
    (hs : FieldPath.Reaches document names (.string (before ++ part ++ after)))
    (other : Option String) :
    (∃ found, r.Tells entity field document .contains part other found ∧
      (KeepsForm before part after → found = true)) ∧
    (before = "" → ∃ found, r.Tells entity field document .startsWith part other found ∧
      (found = true ↔ KeepsForm before part after)) ∧
    (after = "" → ∃ found, r.Tells entity field document .endsWith part other found ∧
      (found = true ↔ KeepsForm before part after)) ∧
    ('Σ' ∉ part.toList → KeepsForm before part after) ∧
    (startsCased before.toList.reverse = false → startsCased after.toList = false →
      KeepsForm before part after) := by
  refine ⟨?anywhere, ?start, ?finish, keepsSigmas_of_notMem, keepsSigmas_of_uncased⟩
  case anywhere =>
    have htest : Operator.contains.textTest? = some .contains := rfl
    obtain ⟨found, htells, hfound⟩ := exists_tells_text hdot hblank ht htest hpart hs other
    exact ⟨found, htells, fun hkeeps => hfound.mpr (lower_isInfix hkeeps)⟩
  case start =>
    rintro rfl
    rw [String.empty_append] at hs
    have htest : Operator.startsWith.textTest? = some .startsWith := rfl
    obtain ⟨found, htells, hfound⟩ := exists_tells_text hdot hblank ht htest hpart hs other
    exact ⟨found, htells, hfound.trans lower_isPrefix_iff⟩
  case finish =>
    rintro rfl
    rw [String.append_empty] at hs
    have htest : Operator.endsWith.textTest? = some .endsWith := rfl
    obtain ⟨found, htells, hfound⟩ := exists_tells_text hdot hblank ht htest hpart hs other
    exact ⟨found, htells, hfound.trans lower_isSuffix_iff⟩

/-- A word with a capital sigma at each end, with another word behind it. -/
theorem Registry.finds_parts_word :
    let r : Registry := ⟨[⟨"quotes", none, [("by", .object [("name", .text)])]⟩]⟩
    let document : Value := .object [("by", .object [("name", .string "ΣΟΦΟΣ ΑΝΗΡ")])]
    KeepsForm "" "ΣΟΦΟΣ" " ΑΝΗΡ" ∧
    r.Tells "quotes" "by.name" document .contains "ΣΟΦΟΣ" none true ∧
    r.Tells "quotes" "by.name" document .startsWith "ΣΟΦΟΣ" none true ∧
    ∃ found, r.Tells "quotes" "by.name" document .endsWith "ΣΟΦΟΣ ΑΝΗΡ" none found ∧
      (found = true ↔ KeepsForm "" "ΣΟΦΟΣ ΑΝΗΡ" "") := by
  intro r document
  have hdot : Dotted "by.name" ["by", "name"] := dotted_iff.mpr (by decide +kernel)
  have hblank : ∀ n ∈ ["by", "name"], isBlank n = false := by decide +kernel
  have ht : r.Declares "quotes" ["by", "name"] .text := ⟨_, rfl, .nested rfl (.field rfl)⟩
  have hs : FieldPath.Reaches document ["by", "name"] (.string "ΣΟΦΟΣ ΑΝΗΡ") :=
    .member rfl (.member rfl .here)
  obtain ⟨⟨found, hcontains, hfound⟩, hstart, -, -, huncased⟩ :=
    finds_parts hdot hblank ht "" "ΣΟΦΟΣ" " ΑΝΗΡ" (by decide) hs none
  have hkeeps : KeepsForm "" "ΣΟΦΟΣ" " ΑΝΗΡ" := huncased (by decide +kernel) (by decide +kernel)
  obtain ⟨found', hstart, hfound'⟩ := hstart rfl
  obtain ⟨-, -, hend, -⟩ := finds_parts hdot hblank ht "" "ΣΟΦΟΣ ΑΝΗΡ" "" (by decide) hs none
  cases hfound hkeeps
  cases hfound'.mpr hkeeps
  exact ⟨hkeeps, hcontains, hstart, hend rfl⟩

/-- A text that starts with a word and goes on with another letter is not found
by the word, and a text that ends in a capital sigma is not found by that. -/
theorem Registry.cut_words_missed :
    let r : Registry := ⟨[⟨"words", none, [("word", .text)]⟩]⟩
    let stored (word : String) : Value := .object [("word", .string word)]
    let tells (word : String) := r.Tells "words" "word" (stored word)
    ("ΑΣΑ" = "ΑΣ" ++ "Α" ∧ tells "ΑΣΑ" .contains "ΑΣ" none false ∧
      tells "ΑΣΑ" .startsWith "ΑΣ" none false) ∧
    "ΑΣ" = "Α" ++ "Σ" ∧ tells "ΑΣ" .endsWith "Σ" none false := by
  refine ⟨⟨rfl, ?_, ?_⟩, rfl, ?_⟩
  · exact Except.toOption_eq_some_iff.mp (by decide +kernel)
  · exact Except.toOption_eq_some_iff.mp (by decide +kernel)
  · exact Except.toOption_eq_some_iff.mp (by decide +kernel)

end DocSieve
