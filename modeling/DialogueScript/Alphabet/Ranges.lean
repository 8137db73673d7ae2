/-!
# Tables of code points

Sets of characters given as ascending ranges of code points.

Sets are joined, met and complemented as ranges; what results is ascending, and no two of its
ranges touch.

Main statement: `contains_iff` (in an ascending table the search finds a code point exactly when
one of the ranges holds it).
-/

namespace DialogueScript.Alphabet

/-- Ranges of code points, first and last included, in ascending order. -/
abbrev CodeRanges := List (Nat × Nat)

namespace CodeRanges

/-- Is the code point in one of the ranges? The search stops at the first range behind it. -/
def contains : CodeRanges → Nat → Bool
  | [], _ => false
  | (first, last) :: rest, n =>
    if n < first then false else if n ≤ last then true else contains rest n

/-- No range is empty, and each lies behind the one before it. -/
def Ascending : CodeRanges → Prop
  | [] => True
  | (first, last) :: rest => first ≤ last ∧ (∀ range ∈ rest, last < range.1) ∧ Ascending rest

theorem contains_iff {ranges : CodeRanges} (h : Ascending ranges) (n : Nat) :
    contains ranges n = true ↔ ∃ range ∈ ranges, range.1 ≤ n ∧ n ≤ range.2 := by
  induction ranges with
  | nil => simp [contains]
  | cons range rest ih =>
    obtain ⟨first, last⟩ := range
    obtain ⟨hle, hrest, hasc⟩ := h
    simp only [contains]
    split
    · rename_i hlt
      simp only [Bool.false_eq_true, List.mem_cons, exists_eq_or_imp, false_iff, not_or]
      refine ⟨by omega, ?_⟩
      -- the ranges ascend, so none of the others begins below
      rintro ⟨r, hr, hfirst, _⟩
      have := hrest r hr
      omega
    · split
      · simp only [List.mem_cons, exists_eq_or_imp, true_iff]
        left
        omega
      · rw [ih hasc]
        simp only [List.mem_cons, exists_eq_or_imp]
        constructor
        · exact Or.inr
        · rintro (⟨_, _⟩ | hr)
          · omega
          · exact hr

/-- The ranges in ascending order. -/
def inOrder (ranges : CodeRanges) : CodeRanges := ranges.mergeSort fun a b => a.1 ≤ b.1

/-- Ranges in order with those made one that overlap or touch. -/
def joined : CodeRanges → CodeRanges
  | [] => []
  | [range] => [range]
  | (first, last) :: (next, behind) :: rest =>
    if next ≤ last + 1 then joined ((first, max last behind) :: rest)
    else (first, last) :: joined ((next, behind) :: rest)
termination_by ranges => ranges.length

/-- The code points of both sets. -/
def union (left right : CodeRanges) : CodeRanges := joined (inOrder (left ++ right))

/-- The ranges between the given ones, from `first` on. -/
def gaps (first : Nat) : CodeRanges → CodeRanges
  | [] => if first ≤ 0x10FFFF then [(first, 0x10FFFF)] else []
  | (low, high) :: rest =>
    if first < low then (first, low - 1) :: gaps (high + 1) rest else gaps (high + 1) rest

/-- The code points that are characters: all but the surrogates. -/
def withoutSurrogates (ranges : CodeRanges) : CodeRanges :=
  ranges.flatMap fun (first, last) =>
    [(first, min last 0xD7FF), (max first 0xE000, last)].filter fun range => range.1 ≤ range.2

/-- The characters that are not in the set. -/
def complement (ranges : CodeRanges) : CodeRanges := withoutSurrogates (gaps 0 ranges)

/-- The characters that are in both sets. -/
def inter (left right : CodeRanges) : CodeRanges :=
  complement (union (complement left) (complement right))

/-- The characters of the left set that are not in the right one. -/
def diff (left right : CodeRanges) : CodeRanges := complement (union (complement left) right)

/-- The characters that are in one of the sets only. -/
def symDiff (left right : CodeRanges) : CodeRanges := union (diff left right) (diff right left)

end CodeRanges

end DialogueScript.Alphabet
