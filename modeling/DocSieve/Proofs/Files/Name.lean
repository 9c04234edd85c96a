-- SUMMARY: Names of entries: which ones are texts, which ones are of JSON files, and that sorting them forgets how they were listed.
import Mathlib.Data.List.Basic
import DocSieve.Files.Entry
import DocSieve.Proofs.Text.Utf8

/-!
# Names of entries

A directory lists its names in any order. Names are compared byte by byte, and
no two names are equal in that order, so sorting leaves nothing of the order in
which they came.
-/

namespace DocSieve.Files

namespace Name

variable {n m : Name} {s : String}

/-! ## Order -/

theorem le_total (n m : Name) : n ≤ m ∨ m ≤ n := List.le_total n.bytes m.bytes

theorem le_trans {n m k : Name} (h : n ≤ m) (h' : m ≤ k) : n ≤ k := by
  change n.bytes ≤ k.bytes
  exact List.le_trans h h'

theorem le_antisymm (h : n ≤ m) (h' : m ≤ n) : n = m := by
  have hbytes : n.bytes = m.bytes := List.le_antisymm h h'
  exact congrArg Name.mk hbytes

theorem lt_iff_le_and_ne : n < m ↔ n ≤ m ∧ n ≠ m := by
  have hlt : n < m ↔ ¬ m ≤ n := List.not_le.symm
  rw [hlt]
  constructor
  · intro h
    exact ⟨(le_total n m).resolve_right h, fun heq => h (heq ▸ (le_total n n).elim id id)⟩
  · rintro ⟨hle, hne⟩ h
    exact hne (le_antisymm hle h)

theorem lt_trans {n m k : Name} (h : n < m) (h' : m < k) : n < k := by
  change n.bytes < k.bytes
  exact List.lt_trans h h'

theorem ne_of_lt (h : n < m) : n ≠ m := (lt_iff_le_and_ne.mp h).2

theorem lt_irrefl (n : Name) : ¬ n < n := fun h => ne_of_lt h rfl

theorem lt_or_lt_of_ne (h : n ≠ m) : n < m ∨ m < n :=
  (le_total n m).imp (fun hle => lt_iff_le_and_ne.mpr ⟨hle, h⟩)
    fun hle => lt_iff_le_and_ne.mpr ⟨hle, h.symm⟩

theorem pairwise_mergeSort (names : List Name) :
    (names.mergeSort fun a b => a ≤ b).Pairwise (· ≤ ·) := by
  have htrans (a b c : Name) (hab : decide (a ≤ b)) (hbc : decide (b ≤ c)) : decide (a ≤ c) := by
    simpa using le_trans (by simpa using hab) (by simpa using hbc)
  have htotal (a b : Name) : decide (a ≤ b) || decide (b ≤ a) := by
    simpa using le_total a b
  simpa using List.pairwise_mergeSort htrans htotal names

/-- Sorted names do not tell in which order they were given. -/
theorem mergeSort_eq_of_perm {names names' : List Name} (h : names.Perm names') :
    (names.mergeSort fun a b => a ≤ b) = names'.mergeSort fun a b => a ≤ b :=
  ((List.mergeSort_perm ..).trans (h.trans (List.mergeSort_perm ..).symm)).eq_of_pairwise
    (fun _ _ _ _ => le_antisymm) (pairwise_mergeSort _) (pairwise_mergeSort _)

/-! ## Texts -/

theorem text?_eq_some_iff : n.text? = some s ↔ n = ofText s := by
  obtain ⟨bytes⟩ := n
  have hname : (⟨bytes⟩ : Name) = ofText s ↔ (⟨bytes.toArray⟩ : ByteArray) = s.toByteArray := by
    rw [ofText, Text.toList_eq_data_toList, Name.mk.injEq, ByteArray.ext_iff,
      List.toArray_eq_iff, String.toUTF8_eq_toByteArray]
  rw [hname, text?, String.fromUTF8?]
  split
  next h =>
    rw [Option.some.injEq, ← String.toByteArray_inj]
    rfl
  next h =>
    refine iff_of_false nofun fun heq => h ?_
    rw [heq]
    exact s.isValidUTF8

theorem shown_ofText (s : String) : (ofText s).shown = s := by
  rw [shown, text?_eq_some_iff.mpr rfl, Option.getD_some]

theorem bytes_ofText_append (s t : String) :
    (ofText (s ++ t)).bytes = (ofText s).bytes ++ (ofText t).bytes := by
  simp [ofText, Text.toList_eq_data_toList]

theorem bytes_ofText_ne_nil_iff : (ofText s).bytes ≠ [] ↔ s ≠ "" := by
  have hs : s.toByteArray.data.toList = [] ↔ s = "" := by
    rw [Array.toList_eq_nil_iff, ← String.toByteArray_inj, ByteArray.ext_iff]
    rfl
  rw [ofText, Text.toList_eq_data_toList]
  exact not_congr hs

/-! ## JSON files -/

/-- The name has the extension `json` and something in front of it. -/
def IsJson (n : Name) : Prop := ∃ stem, stem ≠ [] ∧ n.bytes = stem ++ jsonEnding

theorem jsonStem?_eq_some_iff :
    n.jsonStem? = some m ↔ m.bytes ≠ [] ∧ n.bytes = m.bytes ++ jsonEnding := by
  obtain ⟨stem⟩ := m
  unfold jsonStem?
  cases hend : jsonEnding.isSuffixOf? n.bytes with
  | none =>
    refine iff_of_false nofun fun ⟨_, h⟩ => ?_
    rw [List.isSuffixOf?_eq_some_iff_append_eq.mpr h.symm] at hend
    contradiction
  | some found =>
    rw [← List.isSuffixOf?_eq_some_iff_append_eq.mp hend, List.append_left_inj]
    cases found with
    | nil => exact iff_of_false nofun fun ⟨hne, h⟩ => hne h.symm
    | cons b bs =>
      simp only [List.isEmpty_cons, Bool.false_eq_true, if_false, Option.some.injEq, Name.mk.injEq]
      exact ⟨fun h => ⟨h ▸ List.cons_ne_nil b bs, h⟩, And.right⟩

theorem isSome_jsonStem?_iff : n.jsonStem?.isSome ↔ n.IsJson := by
  simp only [Option.isSome_iff_exists, jsonStem?_eq_some_iff]
  exact ⟨fun ⟨m, hm⟩ => ⟨m.bytes, hm⟩, fun ⟨stem, hstem⟩ => ⟨⟨stem⟩, hstem⟩⟩

instance (n : Name) : Decidable n.IsJson := decidable_of_iff _ isSome_jsonStem?_iff

/-- The names whose stem is a text are the texts that end in the extension. -/
theorem jsonStem?_bind_text? :
    n.jsonStem?.bind (·.text?) = some s ↔ s ≠ "" ∧ n = ofText (s ++ ".json") := by
  simp only [Option.bind_eq_some_iff, jsonStem?_eq_some_iff, text?_eq_some_iff]
  have hname : n.bytes = (ofText s).bytes ++ jsonEnding ↔ n = ofText (s ++ ".json") := by
    rw [show jsonEnding = (ofText ".json").bytes from rfl, ← bytes_ofText_append]
    exact ⟨congrArg Name.mk, congrArg Name.bytes⟩
  rw [← hname, ← bytes_ofText_ne_nil_iff]
  exact ⟨fun ⟨m, h, hm⟩ => hm ▸ h, fun h => ⟨_, h, rfl⟩⟩

end Name

end DocSieve.Files
