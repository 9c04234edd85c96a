-- SUMMARY: Quoting a text for a message: quotes, backslashes and characters that do not show are escaped.
import DocSieve.Text.EscapeTable

/-!
# Quoted texts

The form in which an error message shows a text it came across.
-/

namespace DocSieve.Text

/-- How one character is shown between quotes. -/
def quotedChar (c : Char) : String :=
  if c = '"' then "\\\""
  else if c = '\\' then "\\\\"
  else if c = '\n' then "\\n"
  else if c = '\r' then "\\r"
  else if c = '\t' then "\\t"
  else if c.toNat = 0 then "\\0"
  else if escapedRanges.holds c then
    "\\u\x7b" ++ String.ofList (Nat.toDigits 16 c.toNat) ++ "\x7d"
  else String.singleton c

/-- The text between double quotes. -/
def quoted (s : String) : String :=
  "\"" ++ String.join (s.toList.map quotedChar) ++ "\""

end DocSieve.Text
