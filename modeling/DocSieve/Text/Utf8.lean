-- SUMMARY: Bytes as text: decoding that keeps a place for each byte that belongs to no character, and text to show where there is none.

/-!
# UTF-8

A file or a request line is text only if all of it decodes. A request body is
judged piece by piece instead, so its bytes are read as glyphs: characters,
and holes where a byte belongs to no character. Bytes that a message shows are
no input, and get a replacement character where they are no text.
-/

namespace DocSieve.Text

/-- A character of a text, or `none` for a byte that belongs to no character. -/
abbrev Glyph := Option Char

/-- The characters of a text as glyphs. -/
def glyphs (s : String) : List Glyph := s.toList.map some

/-- The glyphs of the bytes from position `i` on. A byte that starts no
character is a hole of its own. -/
def glyphsFrom (bytes : ByteArray) (i : Nat) : List Glyph :=
  if i < bytes.size then
    match bytes.utf8DecodeChar? i with
    | some c => some c :: glyphsFrom bytes (i + c.utf8Size)
    | none => none :: glyphsFrom bytes (i + 1)
  else []
termination_by bytes.size - i
decreasing_by
  · have := c.utf8Size_pos
    omega
  · omega

/-- The glyphs of a byte sequence. -/
def glyphsOfBytes (bytes : ByteArray) : List Glyph := glyphsFrom bytes 0

/-! ## Showing bytes -/

/-- Whether a character of three bytes or more may begin with these two. -/
def beginsLong (a b : UInt8) : Bool :=
  if a = 0xE0 then 0xA0 ≤ b && b ≤ 0xBF
  else if a = 0xED then 0x80 ≤ b && b ≤ 0x9F
  else if a = 0xF0 then 0x90 ≤ b && b ≤ 0xBF
  else if a = 0xF4 then 0x80 ≤ b && b ≤ 0x8F
  else 0xE1 ≤ a && a ≤ 0xF3 && 0x80 ≤ b && b ≤ 0xBF

/-- How many of the bytes in front, which start no character, are shown as one
sign: as many as a character could begin with. -/
def brokenLength : List UInt8 → Nat
  | a :: b :: c :: _ =>
    if !beginsLong a b then 1 else if 0xF0 ≤ a && 0x80 ≤ c && c ≤ 0xBF then 3 else 2
  | [a, b] => if beginsLong a b then 2 else 1
  | _ => 1

theorem brokenLength_pos (bs : List UInt8) : 0 < brokenLength bs := by
  unfold brokenLength
  split
  · split
    · exact Nat.zero_lt_one
    · split <;> decide
  · split <;> decide
  · exact Nat.zero_lt_one

/-- The characters of the bytes from position `i` on, and replacement characters
where there are none. -/
def replacedFrom (bytes : ByteArray) (i : Nat) : List Char :=
  if i < bytes.size then
    match bytes.utf8DecodeChar? i with
    | some c => c :: replacedFrom bytes (i + c.utf8Size)
    | none => '\uFFFD' :: replacedFrom bytes (i + brokenLength (bytes.data.toList.drop i))
  else []
termination_by bytes.size - i
decreasing_by
  · have := c.utf8Size_pos
    omega
  · have := brokenLength_pos (bytes.data.toList.drop i)
    omega

/-- Bytes as a text to show, whether or not they are one. -/
def replaced (bytes : ByteArray) : String := String.ofList (replacedFrom bytes 0)

end DocSieve.Text
