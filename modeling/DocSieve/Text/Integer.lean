-- SUMMARY: Reading a signed 64-bit integer from a text, with the first thing that is wrong in it.
import DocSieve.Number.Word
import DocSieve.Text.Digit

/-!
# Integers as text

An integer is written as an optional sign and one or more ASCII digits. The
text is read from left to right, and the first character that cannot stay
decides what is wrong: it is no digit, or it takes the number out of range.
-/

namespace DocSieve.Text

/-- What is wrong with the text of an integer. -/
inductive IntegerError where
  | empty
  | invalidDigit
  | tooLarge
  | tooSmall
deriving DecidableEq

namespace IntegerError

def message : IntegerError → String
  | .empty => "cannot parse integer from empty string"
  | .invalidDigit => "invalid digit found in string"
  | .tooLarge => "number too large to fit in target type"
  | .tooSmall => "number too small to fit in target type"

end IntegerError

/-- Appends digits to a number that must not grow too large. -/
def extendUp (n : Int) : List Char → Except IntegerError Int
  | [] => .ok n
  | c :: cs =>
    match decimal? c with
    | none => .error .invalidDigit
    | some d => if isInt64 (n * 10 + d) then extendUp (n * 10 + d) cs else .error .tooLarge

/-- Appends digits to a negative number that must not grow too small. -/
def extendDown (n : Int) : List Char → Except IntegerError Int
  | [] => .ok n
  | c :: cs =>
    match decimal? c with
    | none => .error .invalidDigit
    | some d => if isInt64 (n * 10 - d) then extendDown (n * 10 - d) cs else .error .tooSmall

/-- The signed 64-bit integer that characters spell. -/
def readInt64 : List Char → Except IntegerError Int
  | [] => .error .empty
  | ['+'] | ['-'] => .error .invalidDigit
  | '-' :: cs => extendDown 0 cs
  | '+' :: cs => extendUp 0 cs
  | cs => extendUp 0 cs

/-- The signed 64-bit integer that a text spells. -/
def int64 (s : String) : Except IntegerError Int := readInt64 s.toList

end DocSieve.Text
