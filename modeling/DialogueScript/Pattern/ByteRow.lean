import DialogueScript.Alphabet.Ranges

/-!
# Ranges of characters as rows of bytes

In UTF-8 a range of characters falls into rows. A row gives a range for each byte, and every choice
of bytes from its ranges is a character. Rows end where the number of bytes changes, and where an
earlier byte changes although a later one does not run through all its values.
-/

namespace DialogueScript.Pattern

/-- A range of bytes, first and last included. -/
structure ByteRange where
  first : Nat
  last : Nat
  deriving DecidableEq, Repr

/-- The ranges of the bytes of some characters, from the first byte to the last. -/
abbrev ByteRow := List ByteRange

/-- The bytes of a code point. -/
def bytesOf (n : Nat) : List Nat :=
  if n < 0x80 then [n]
  else if n < 0x800 then [0xC0 + n / 64, 0x80 + n % 64]
  else if n < 0x10000 then [0xE0 + n / 4096, 0x80 + n / 64 % 64, 0x80 + n % 64]
  else [0xF0 + n / 262144, 0x80 + n / 4096 % 64, 0x80 + n / 64 % 64, 0x80 + n % 64]

/-- The last code point in front of a place where the range has to be cut. -/
def cutOf? (first last : Nat) : Option Nat :=
  match [0x7F, 0x7FF, 0xFFFF].find? fun n => first ≤ n && n < last with
  | some n => some n
  | none =>
    if last < 0x80 then none
    else [64, 4096, 262144].findSome? fun block =>
      if first / block = last / block then none
      else if first % block ≠ 0 then some (first / block * block + block - 1)
      else if last % block ≠ block - 1 then some (last / block * block - 1)
      else none

/-- The rows of a range of characters, in order. -/
def rowsOf (first last : Nat) : List ByteRow :=
  match cutOf? first last with
  | some n =>
    if _h : first ≤ n ∧ n < last then rowsOf first n ++ rowsOf (n + 1) last
    else []
  | none => [List.zipWith ByteRange.mk (bytesOf first) (bytesOf last)]
termination_by last - first

/-- The rows of a set of characters, in order. -/
def rowsOfRanges (ranges : Alphabet.CodeRanges) : List ByteRow :=
  ranges.flatMap fun range => rowsOf range.1 range.2

end DialogueScript.Pattern
