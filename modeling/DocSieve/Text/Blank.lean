-- SUMMARY: White space in the sense of the Unicode property White_Space, and texts that hold nothing else.
import DocSieve.Text.Ranges

/-!
# Blank texts
-/

namespace DocSieve.Text

/-- The characters with the property White_Space. -/
def whiteSpace : Ranges := ⟨[
   (0x9, 0xD), (0x20, 0x20), (0x85, 0x85), (0xA0, 0xA0), (0x1680, 0x1680),
   (0x2000, 0x200A), (0x2028, 0x2029), (0x202F, 0x202F), (0x205F, 0x205F),
   (0x3000, 0x3000)]⟩

/-- A text is blank when it is empty or holds white space only. -/
def isBlank (s : String) : Bool := s.toList.all whiteSpace.holds

end DocSieve.Text
