-- SUMMARY: The text of a value is one line.
import Mathlib.Tactic.SplitIfs
import DocSieve.Json.Printer

/-!
# Values on one line

A line end is a control character, and inside a string those are escaped.
Nothing else that is written for a value holds one.
-/

namespace DocSieve.Json

/-- The text has no line end. -/
def OneLine (cs : List Char) : Prop := '\n' ∉ cs

namespace OneLine

variable {cs ds : List Char} {c : Char}

instance : Decidable (OneLine cs) := inferInstanceAs (Decidable ('\n' ∉ cs))

@[simp] theorem nil : OneLine [] := List.not_mem_nil

@[simp] theorem cons_iff : OneLine (c :: cs) ↔ c ≠ '\n' ∧ OneLine cs := by
  simp [OneLine, eq_comm]

@[simp] theorem append_iff : OneLine (cs ++ ds) ↔ OneLine cs ∧ OneLine ds := by
  simp [OneLine, not_or]

theorem of_subset (h : OneLine cs) (hsub : ds ⊆ cs) : OneLine ds := fun hmem => h (hsub hmem)

/-! ## Numbers -/

theorem toString_nat (n : Nat) : OneLine (toString n).toList := by
  intro hmem
  rw [show toString n = n.repr from rfl, Nat.toList_repr] at hmem
  have hdigit : '\n'.isDigit = true := Nat.isDigit_of_mem_toDigits (by decide) (by decide) hmem
  contradiction

theorem toString_int (n : Int) : OneLine (toString n).toList := by
  cases n with
  | ofNat n => exact toString_nat n
  | negSucc n =>
    rw [show toString (Int.negSucc n) = "-" ++ toString (n + 1) from rfl]
    simpa using toString_nat (n + 1)

/-- The text of a double is made of digits, a point, an exponent and signs. -/
theorem double (d : Double) : OneLine d.toText.toList := by
  have hzeros (n : Int) : OneLine (String.ofList (List.replicate n.toNat '0')).toList := by
    simp [OneLine]
  have htext (p : Prop) [Decidable p] {s t : String} (hs : OneLine s.toList)
      (ht : OneLine t.toList) : OneLine (if p then s else t).toList := by
    split
    · exact hs
    · exact ht
  have hsign := htext d.negative (s := "-") (t := "") (by decide) (by decide)
  have hdigits := toString_nat (Double.shortest d.magnitude).digits
  simp only [Double.toText]
  generalize toString (Double.shortest d.magnitude).digits = digits at hdigits ⊢
  generalize (if d.negative then "-" else "") = sign at hsign ⊢
  have htake (n : Nat) : OneLine (String.ofList (digits.toList.take n)).toList := by
    simpa using hdigits.of_subset (List.take_subset n _)
  have hdrop (n : Nat) : OneLine (String.ofList (digits.toList.drop n)).toList := by
    simpa using hdigits.of_subset (List.drop_subset n _)
  refine htext _ ?zero (htext _ ?whole (htext _ ?inside (htext _ ?small ?exponent))) <;>
    simp only [String.toList_append, append_iff]
  case zero => exact ⟨hsign, by decide⟩
  case whole => exact ⟨⟨⟨hsign, hdigits⟩, hzeros _⟩, by decide⟩
  case inside => exact ⟨⟨⟨hsign, htake _⟩, by decide⟩, hdrop _⟩
  case small => exact ⟨⟨⟨hsign, by decide⟩, hzeros _⟩, hdigits⟩
  case exponent =>
    have hfraction : OneLine ("." ++ String.ofList (digits.toList.drop 1)).toList := by
      rw [String.toList_append, append_iff]
      exact ⟨by decide, hdrop 1⟩
    exact ⟨⟨⟨⟨hsign, htake 1⟩, htext _ (by decide) hfraction⟩, by decide⟩,
      htext _ (by decide) (by decide), toString_int _⟩

/-! ## Strings -/

theorem hexDigit_ne (n : Nat) : hexDigit n ≠ '\n' := by
  intro h
  have hmem : hexDigit n ∈ '0' :: "0123456789abcdef".toList := by
    rw [hexDigit, List.getD_eq_getElem?_getD]
    cases hget : "0123456789abcdef".toList[n]? with
    | none => simp
    | some c => exact List.mem_cons_of_mem _ (List.mem_of_getElem? hget)
  rw [h] at hmem
  revert hmem
  decide

/-- A line end is among the characters that are escaped. -/
theorem writeChar (c : Char) : OneLine (Json.writeChar c) := by
  unfold Json.writeChar
  split_ifs with _ _ _ _ hline
  case neg => simpa using hline
  all_goals simp [hexDigit_ne]

theorem writeString (s : String) : OneLine (Json.writeString s) := by
  have hchars : OneLine (s.toList.flatMap Json.writeChar) := by
    intro hmem
    obtain ⟨c, -, hc⟩ := List.mem_flatMap.mp hmem
    exact writeChar c hc
  simpa [Json.writeString] using hchars

/-! ## Values -/

mutual

theorem write : ∀ v : Value, OneLine v.write
  | .null => by decide
  | .bool true => by decide
  | .bool false => by decide
  | .number (.int n) => toString_int n
  | .number (.double d) => double d
  | .string s => writeString s
  | .array items => by simpa [Value.write] using writeItems items
  | .object members => by simpa [Value.write] using writeMembers members

theorem writeItems : ∀ vs : List Value, OneLine (Json.writeItems vs)
  | [] => nil
  | [v] => write v
  | v :: w :: vs => by
    simpa [Json.writeItems] using ⟨write v, writeItems (w :: vs)⟩

theorem writeMembers : ∀ ms : List (String × Value), OneLine (Json.writeMembers ms)
  | [] => nil
  | [(name, v)] => by
    simpa [Json.writeMembers] using ⟨writeString name, write v⟩
  | (name, v) :: m :: ms => by
    simpa [Json.writeMembers] using ⟨writeString name, write v, writeMembers (m :: ms)⟩

end

end OneLine

/-- The text of a value has no line end. -/
theorem Value.oneLine_toText (v : Value) : OneLine v.toText.toList := by
  simpa [Value.toText] using OneLine.write v

end DocSieve.Json
