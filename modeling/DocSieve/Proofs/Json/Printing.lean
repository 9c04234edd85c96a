-- SUMMARY: The printed text of a value is a text of the grammar.
import Mathlib.Data.List.Forall2
import Mathlib.Tactic.SplitIfs
import DocSieve.Json.Printer
import DocSieve.Proofs.Json.Grammar

/-!
# Printed values in the grammar

Which escape a character gets when it is printed does not matter to a reader:
whatever the printer writes between quotes stands for the characters of the
string.
-/

namespace DocSieve.Json

open Text (Glyph glyphs)

/-! ## Strings -/

theorem hexDigit?_hexDigit : ∀ n < 16, hexDigit? (hexDigit n) = some n := by decide

/-- A control character that has no short escape is written in hexadecimal. -/
theorem fourHex_control {c : Char} (h : c.toNat < 0x20) :
    FourHex c.toNat ['0', '0', hexDigit (c.toNat / 16), hexDigit (c.toNat % 16)] := by
  have hzero : hexDigit? '0' = some 0 := by decide
  have hnat : ((0 * 16 + 0) * 16 + c.toNat / 16) * 16 + c.toNat % 16 = c.toNat := by omega
  have := FourHex.of hzero hzero (hexDigit?_hexDigit (c.toNat / 16) (by omega))
    (hexDigit?_hexDigit (c.toNat % 16) (by omega))
  rwa [hnat] at this

theorem stringBody_writeChar (c : Char) {s : List Glyph} {cs : List Char} (h : StringBody s cs) :
    StringBody (some c :: s) (writeChar c ++ cs) := by
  unfold writeChar
  split_ifs with hquote hback hbs hff hnl hcr htab hcontrol
  · exact .short (by simp [shortEscapes, hquote]) h
  · exact .short (by simp [shortEscapes, hback]) h
  · exact .short (by simp [shortEscapes, hbs]) h
  · exact .short (by simp [shortEscapes, hff]) h
  · exact .short (by simp [shortEscapes, hnl]) h
  · exact .short (by simp [shortEscapes, hcr]) h
  · exact .short (by simp [shortEscapes, htab]) h
  · have hhigh : ¬ IsHigh c.toNat := by unfold IsHigh; omega
    have hlow : ¬ IsLow c.toNat := by unfold IsLow; omega
    simpa [Char.ofNat_toNat] using StringBody.unicode (fourHex_control hcontrol) hhigh hlow h
  · exact .plain hquote hback (Nat.not_lt.mp hcontrol) h

theorem stringText_writeString (s : String) : StringText (glyphs s) (writeString s) := by
  have hbody : ∀ cs : List Char, StringBody (cs.map some) (cs.flatMap writeChar) := by
    intro cs
    induction cs with
    | nil => exact .nil
    | cons c cs ih => exact stringBody_writeChar c ih
  exact .of (hbody s.toList)

/-! ## Values -/

/-- The text of the value is written for the tree. -/
def Value.WritesAs (v : Value) (t : Tree) : Prop := Written (.value t) v.write

namespace Value

theorem writesAs_null : Value.null.WritesAs .null := .null

theorem writesAs_string (s : String) : (Value.string s).WritesAs (.string (glyphs s)) :=
  .string (stringText_writeString s)

theorem writesAs_ofText? (s : Option String) : (Value.ofText? s).WritesAs (.ofText? s) := by
  cases s with
  | none => exact writesAs_null
  | some s => exact writesAs_string s

theorem written_items {v : Value} {vs : List Value} {t : Tree} {ts : List Tree}
    (h : v.WritesAs t) (hs : List.Forall₂ WritesAs vs ts) :
    Written (.items (t :: ts)) (writeItems (v :: vs) ++ [']']) := by
  induction hs generalizing v t with
  | nil => simpa [writeItems] using Written.lastItem blanks_nil h blanks_nil
  | cons h' _ ih => simpa [writeItems] using Written.item blanks_nil h blanks_nil (ih h')

theorem writesAs_array {vs : List Value} {ts : List Tree} (h : List.Forall₂ WritesAs vs ts) :
    (Value.array vs).WritesAs (.array ts true) := by
  cases h with
  | nil => exact .emptyArray blanks_nil
  | cons h hs => exact .array (written_items h hs)

/-- The name and the value of a member are written for those of the tree. -/
def MemberWritesAs (m : String × Value) (t : List Glyph × Tree) : Prop :=
  t.1 = glyphs m.1 ∧ m.2.WritesAs t.2

theorem written_members {m : String × Value} {ms : List (String × Value)}
    {t : List Glyph × Tree} {ts : List (List Glyph × Tree)} (h : MemberWritesAs m t)
    (hs : List.Forall₂ MemberWritesAs ms ts) :
    Written (.members (t :: ts)) (writeMembers (m :: ms) ++ ['\x7d']) := by
  induction hs generalizing m t with
  | nil =>
    obtain ⟨name, v⟩ := m
    obtain ⟨_, t⟩ := t
    obtain ⟨rfl, hv⟩ := h
    simpa [writeMembers] using Written.lastMember blanks_nil (stringText_writeString name)
      blanks_nil blanks_nil hv blanks_nil
  | cons h' _ ih =>
    obtain ⟨name, v⟩ := m
    obtain ⟨_, t⟩ := t
    obtain ⟨rfl, hv⟩ := h
    simpa [writeMembers] using Written.member blanks_nil (stringText_writeString name)
      blanks_nil blanks_nil hv blanks_nil (ih h')

theorem writesAs_object {ms : List (String × Value)} {ts : List (List Glyph × Tree)}
    (h : List.Forall₂ MemberWritesAs ms ts) :
    (Value.object ms).WritesAs (.object ts true) := by
  cases h with
  | nil => exact .emptyObject blanks_nil
  | cons h hs => exact .object (written_members h hs)

theorem WritesAs.isOf {v : Value} {t : Tree} (h : v.WritesAs t) : t.IsOf v.toText :=
  ⟨[], v.write, [], blanks_nil, h, blanks_nil, by simp [toText]⟩

end Value

end DocSieve.Json
