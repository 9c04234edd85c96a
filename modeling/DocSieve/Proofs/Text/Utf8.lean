-- SUMMARY: The bytes of a text read back as its characters, and a byte of ASCII stands for its character only.
import Mathlib.Tactic.SplitIfs
import DocSieve.Text.Utf8

/-!
# Texts as bytes

The bytes of a text decode to its characters one after the other, without a
hole. A byte that stands for a character by itself occurs in no other
character, so the bytes can be cut where the text can.
-/

namespace DocSieve.Text

/-! ## Glyphs -/

theorem utf8DecodeChar?_append (front : ByteArray) (c : Char) (rest : ByteArray) :
    (front ++ ([c].utf8Encode ++ rest)).utf8DecodeChar? front.size = some c := by
  rw [ByteArray.utf8DecodeChar?_eq_utf8DecodeChar?_extract,
    ByteArray.extract_append_eq_right rfl ByteArray.size_append,
    List.utf8DecodeChar?_utf8Encode_singleton_append]

theorem glyphsFrom_append (front : ByteArray) (cs : List Char) :
    glyphsFrom (front ++ cs.utf8Encode) front.size = cs.map some := by
  induction cs generalizing front with
  | nil => rw [glyphsFrom]; simp
  | cons c cs ih =>
    have hsize : front.size < (front ++ ([c].utf8Encode ++ cs.utf8Encode)).size := by
      have := c.utf8Size_pos
      simp [List.utf8Encode_singleton]
      omega
    have hnext : front.size + c.utf8Size = (front ++ [c].utf8Encode).size := by
      simp [List.utf8Encode_singleton]
    rw [List.utf8Encode_cons, glyphsFrom, if_pos hsize, utf8DecodeChar?_append]
    simp only [List.map_cons, List.cons.injEq, true_and]
    rw [← ByteArray.append_assoc, hnext, ih]

/-- The bytes of a text give its characters. -/
theorem glyphsOfBytes_toUTF8 (s : String) : glyphsOfBytes s.toUTF8 = glyphs s := by
  have h := glyphsFrom_append .empty s.toList
  rw [ByteArray.empty_append, String.utf8Encode_toList] at h
  exact h

/-! ## Bytes of ASCII -/

theorem toNat_eq_of_mem_utf8EncodeChar {c : Char} {b : UInt8} (h : b ∈ String.utf8EncodeChar c)
    (hb : b.toNat < 128) : c.toNat = b.toNat := by
  change c.val.toNat = b.toNat
  unfold String.utf8EncodeChar at h
  dsimp only at h
  -- past the first case, every byte has its highest bit set
  split_ifs at h with h₁ h₂ h₃ <;>
    simp only [List.mem_cons, List.not_mem_nil, or_false] at h
  · rw [h, UInt8.toNat_ofNat']
    omega
  · rcases h with rfl | rfl <;> rw [UInt8.toNat_ofNat'] at hb ⊢ <;> omega
  · rcases h with rfl | rfl | rfl <;> rw [UInt8.toNat_ofNat'] at hb ⊢ <;> omega
  · rcases h with rfl | rfl | rfl | rfl <;> rw [UInt8.toNat_ofNat'] at hb ⊢ <;> omega

theorem toList_loop_eq (bytes : ByteArray) (i : Nat) (before : List UInt8) :
    ByteArray.toList.loop bytes i before = before.reverse ++ bytes.data.toList.drop i := by
  fun_induction ByteArray.toList.loop bytes i before with
  | case1 i before hi ih =>
    have hlength : i < bytes.data.toList.length := by simpa using hi
    have hbyte : bytes.get! i = bytes.data.toList[i] := by
      simp [ByteArray.get!, getElem!_pos, hi]
    rw [ih, List.drop_eq_getElem_cons hlength, hbyte]
    simp
  | case2 i before hi =>
    have hlength : bytes.data.toList.length ≤ i := Nat.le_of_not_lt hi
    rw [List.drop_eq_nil_of_le hlength, List.append_nil]

theorem toList_eq_data_toList (bytes : ByteArray) : bytes.toList = bytes.data.toList := by
  unfold ByteArray.toList
  rw [toList_loop_eq]
  rfl

/-- A character of ASCII is in a text if its byte is in the bytes of the text. -/
theorem mem_toList_of_mem_toUTF8 {s : String} {c : Char} {b : UInt8} (hc : c.toNat = b.toNat)
    (hb : b.toNat < 128) (h : b ∈ s.toUTF8.toList) : c ∈ s.toList := by
  have hmem : b ∈ (s.toList.flatMap String.utf8EncodeChar) := by
    rw [toList_eq_data_toList] at h
    have : s.toUTF8 = (s.toList.flatMap String.utf8EncodeChar).toByteArray :=
      String.utf8Encode_toList.symm
    rw [this] at h
    simpa using h
  obtain ⟨d, hd, hbd⟩ := List.mem_flatMap.mp hmem
  have : d = c := Char.toNat_inj.mp ((toNat_eq_of_mem_utf8EncodeChar hbd hb).trans hc.symm)
  rwa [← this]

end DocSieve.Text
