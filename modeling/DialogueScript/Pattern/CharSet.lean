import DialogueScript.Alphabet.CaseFold
import DialogueScript.Alphabet.Classes
import DialogueScript.Text.Basic

/-!
# Sets of characters

The sets that patterns name, kept as they are written and asked character by character.

Main statement: `contains_folded` (a set that is closed under change of case keeps its characters).
-/

namespace DialogueScript.Pattern

open Alphabet

/-- A set of characters. -/
inductive CharSet
  | none
  | range (first last : Char)
  | oneOf (chars : List Char)
  | table (ranges : CodeRanges)
  /-- The decimal digits of all scripts. -/
  | digit
  /-- White space. -/
  | space
  /-- Word characters. -/
  | word
  /-- The characters that differ in case only from one of the set. -/
  | folded (set : CharSet)
  | complement (set : CharSet)
  | union (left right : CharSet)
  | inter (left right : CharSet)
  | diff (left right : CharSet)
  | symDiff (left right : CharSet)
  deriving DecidableEq, Repr, Inhabited

/-- The characters that differ from `c` in case only, `c` included. -/
def variantsOf (c : Char) : List Char := c :: (caseVariants c.toNat).filterMap charOf?

/-- Is the character in the set? -/
def CharSet.contains : CharSet → Char → Bool
  | none, _ => false
  | range first last, c => first ≤ c && c ≤ last
  | oneOf chars, c => chars.contains c
  | table ranges, c => ranges.contains c.toNat
  | digit, c => isDecimal c
  | space, c => Text.isBlank c
  | word, c => isWord c
  | folded set, c => (variantsOf c).any fun d => set.contains d
  | complement set, c => !set.contains c
  | union left right, c => left.contains c || right.contains c
  | inter left right, c => left.contains c && right.contains c
  | diff left right, c => left.contains c && !right.contains c
  | symDiff left right, c => left.contains c != right.contains c

/-- Folding loses no character. -/
theorem contains_folded {set : CharSet} {c : Char} (h : set.contains c = true) :
    (CharSet.folded set).contains c = true := by
  simp only [CharSet.contains, List.any_eq_true]
  exact ⟨c, List.mem_cons_self .., h⟩

/-- White space as ranges. -/
def blankRanges : CodeRanges :=
  [(9, 13), (0x20, 0x20), (0x85, 0x85), (0xA0, 0xA0), (0x1680, 0x1680), (0x2000, 0x200A),
    (0x2028, 0x2029), (0x202F, 0x202F), (0x205F, 0x205F), (0x3000, 0x3000)]

/-- The characters of a set as ranges. -/
def CharSet.ranges : CharSet → CodeRanges
  | none => []
  | range first last => CodeRanges.withoutSurrogates [(first.toNat, last.toNat)]
  | oneOf chars => CodeRanges.joined (CodeRanges.inOrder (chars.map fun c => (c.toNat, c.toNat)))
  | table ranges => CodeRanges.withoutSurrogates (CodeRanges.joined ranges)
  | digit => CodeRanges.joined decimalRanges
  | space => blankRanges
  | word => CodeRanges.joined wordRanges
  | folded set => CodeRanges.closedUnderCase set.ranges
  | complement set => CodeRanges.complement set.ranges
  | union left right => CodeRanges.union left.ranges right.ranges
  | inter left right => CodeRanges.inter left.ranges right.ranges
  | diff left right => CodeRanges.diff left.ranges right.ranges
  | symDiff left right => CodeRanges.symDiff left.ranges right.ranges

end DialogueScript.Pattern
