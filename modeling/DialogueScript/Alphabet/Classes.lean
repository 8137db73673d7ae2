import DialogueScript.Alphabet.Alphabetic
import DialogueScript.Alphabet.Extending
import DialogueScript.Alphabet.Numeric
import DialogueScript.Alphabet.Word

/-!
# Classes of characters

Letters, digits and word characters as Unicode defines them.

Two notions of word are in use and they differ: `isAlphanumeric` (letters and numbers of every
sort) and `isWord` (letters, marks, decimal digits and connecting punctuation). The first follows
edition 17 of Unicode and serves expressions, the second follows edition 16 and serves patterns and
names.
-/

namespace DialogueScript.Alphabet

/-- A letter of the ASCII alphabet. -/
def isAsciiLetter (c : Char) : Bool :=
  ('a' ≤ c && c ≤ 'z') || ('A' ≤ c && c ≤ 'Z')

/-- A digit of the ASCII range. -/
def isAsciiDigit (c : Char) : Bool := '0' ≤ c && c ≤ '9'

/-- A hexadecimal digit of the ASCII range. -/
def isHexDigit (c : Char) : Bool :=
  isAsciiDigit c || ('a' ≤ c && c ≤ 'f') || ('A' ≤ c && c ≤ 'F')

/-- The value of a hexadecimal digit. -/
def hexValue (c : Char) : Nat :=
  if isAsciiDigit c then c.toNat - '0'.toNat
  else if c ≤ 'F' then c.toNat - 'A'.toNat + 10
  else c.toNat - 'a'.toNat + 10

/-- The value of a row of hexadecimal digits. -/
def hexNumber (digits : List Char) : Nat := digits.foldl (fun n c => 16 * n + hexValue c) 0

/-- The character of a code point, unless it is a surrogate or too large. -/
def charOf? (n : Nat) : Option Char :=
  if h : n.isValidChar then some (Char.ofNatAux n h) else none

/-- The Unicode property Alphabetic. -/
def isAlphabetic (c : Char) : Bool := alphabeticRanges.contains c.toNat

/-- The general category of numbers: decimal digits, letter numbers and other numbers. -/
def isNumeric (c : Char) : Bool := numberRanges.contains c.toNat

/-- Letters and numbers. -/
def isAlphanumeric (c : Char) : Bool := isAlphabetic c || isNumeric c

/-- The decimal digits of all scripts. -/
def isDecimal (c : Char) : Bool := decimalRanges.contains c.toNat

/-- Word characters: letters, marks, decimal digits, connecting punctuation and joiners. -/
def isWord (c : Char) : Bool := wordRanges.contains c.toNat

/-- Word characters of the ASCII range. -/
def isAsciiWord (c : Char) : Bool := isAsciiLetter c || isAsciiDigit c || c == '_'

/-- The property Grapheme_Extend: characters that join the one before them. -/
def extendsGrapheme (c : Char) : Bool := CodeRanges.contains graphemeExtendRanges c.toNat

end DialogueScript.Alphabet
