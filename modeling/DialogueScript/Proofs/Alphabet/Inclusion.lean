import DialogueScript.Alphabet.Ranges

/-!
# One table of code points in others

What a table has beyond another one is found in one walk along both (`minus`). If nothing is left
of a table when others have been taken away, each of its code points is in one of them
(`holds_of_without`), and the walk is short enough for the tables of Unicode to be compared by it.
-/

namespace DialogueScript.Alphabet.CodeRanges

variable {ranges other : CodeRanges} {n : Nat}

/-- One of the ranges holds the code point. -/
def Holds (ranges : CodeRanges) (n : Nat) : Prop :=
  ∃ range ∈ ranges, range.1 ≤ n ∧ n ≤ range.2

theorem holds_cons {first last : Nat} :
    Holds ((first, last) :: ranges) n ↔ (first ≤ n ∧ n ≤ last) ∨ Holds ranges n := by
  simp [Holds]

/-- What the binary search finds is in one of the ranges. -/
theorem holds_of_contains (h : contains ranges n = true) : Holds ranges n := by
  induction ranges with
  | nil => cases h
  | cons range rest ih =>
    obtain ⟨first, last⟩ := range
    rw [contains] at h
    rw [holds_cons]
    split at h
    next => cases h
    next hfirst =>
      split at h
      next hlast => exact .inl ⟨by omega, hlast⟩
      next => exact .inr (ih h)

/-- Is each range in order, and behind the one before it? -/
def isAscending : CodeRanges → Bool
  | [] => true
  | [range] => range.1 ≤ range.2
  | range :: next :: rest =>
    range.1 ≤ range.2 && range.2 < next.1 && isAscending (next :: rest)

theorem ascending_of_isAscending (h : isAscending ranges = true) : Ascending ranges := by
  induction ranges with
  | nil => trivial
  | cons range rest ih =>
    cases rest with
    | nil => exact ⟨of_decide_eq_true h, by simp, trivial⟩
    | cons next rest =>
      simp only [isAscending, Bool.and_eq_true, decide_eq_true_eq] at h
      obtain ⟨⟨hrange, hnext⟩, hrest⟩ := h
      have hascending := ih hrest
      refine ⟨hrange, List.forall_mem_cons.mpr ⟨hnext, fun behind hmem => ?_⟩, hascending⟩
      have hbehind := hascending.2.1 behind hmem
      have hle := hascending.1
      omega

/-- In ascending ranges the binary search finds all that they hold. -/
theorem contains_of_holds (hascending : isAscending ranges = true) (h : Holds ranges n) :
    contains ranges n = true :=
  (contains_iff (ascending_of_isAscending hascending) n).mpr h

/-- What is left of ranges when others are taken away. -/
def minus : CodeRanges → CodeRanges → CodeRanges
  | [], _ => []
  | ranges, [] => ranges
  | (first, last) :: ranges, (low, high) :: other =>
    if high < first then minus ((first, last) :: ranges) other
    else if last < low then (first, last) :: minus ranges ((low, high) :: other)
    else
      let front := if first < low then [(first, low - 1)] else []
      if last ≤ high then front ++ minus ranges ((low, high) :: other)
      else front ++ minus ((high + 1, last) :: ranges) other
termination_by ranges other => ranges.length + other.length

/-- Ranges in a row hold what either part holds. -/
theorem holds_append {left right : CodeRanges} :
    Holds (left ++ right) n ↔ Holds left n ∨ Holds right n := by
  simp [Holds, or_and_right, exists_or]

/-- What stands in front of a range. -/
theorem holds_front {first low : Nat} (hfirst : first ≤ n) (hlow : n < low) :
    Holds (if first < low then [(first, low - 1)] else []) n := by
  rw [if_pos (by omega), holds_cons]
  exact .inl ⟨hfirst, by omega⟩

/-- Each code point of the ranges is taken away or left. -/
theorem holds_minus (other : CodeRanges) (h : Holds ranges n) :
    Holds other n ∨ Holds (minus ranges other) n := by
  induction ranges, other using minus.induct with
  | case1 other => exact absurd h (by simp [Holds])
  | case2 ranges hne =>
    right
    rwa [minus]
    exact hne
  | case3 first last ranges low high other hbefore ih =>
    -- the other range lies in front of the first one
    rw [minus, if_pos hbefore, holds_cons]
    rcases ih h with hother | hleft
    · exact .inl (.inr hother)
    · exact .inr hleft
  | case4 first last ranges low high other hbefore hbehind ih =>
    -- the other range lies behind the first one
    rw [minus, if_neg hbefore, if_pos hbehind]
    rcases holds_cons.mp h with hfirst | hranges
    · exact .inr (holds_cons.mpr (.inl hfirst))
    · exact (ih hranges).imp_right fun hleft => holds_cons.mpr (.inr hleft)
  | case5 first last ranges low high other hbefore hbehind hends ih =>
    -- the first range ends within the other one
    rw [minus, if_neg hbefore, if_neg hbehind]
    dsimp only
    rw [if_pos hends, holds_append]
    rcases holds_cons.mp h with hfirst | hranges
    · by_cases hlow : n < low
      · exact .inr (.inl (holds_front hfirst.1 hlow))
      · exact .inl (holds_cons.mpr (.inl (by omega)))
    · exact (ih hranges).imp_right .inr
  | case6 first last ranges low high other hbefore hbehind hends ih =>
    -- the first range goes on behind the other one
    rw [minus, if_neg hbefore, if_neg hbehind]
    dsimp only
    rw [if_neg hends, holds_append, holds_cons]
    rcases holds_cons.mp h with hfirst | hranges
    · by_cases hlow : n < low
      · exact .inr (.inl (holds_front hfirst.1 hlow))
      · by_cases hhigh : n ≤ high
        · exact .inl (.inl (by omega))
        · exact (ih (holds_cons.mpr (.inl (by omega)))).imp .inr .inr
    · exact (ih (holds_cons.mpr (.inr hranges))).imp .inr .inr

/-- What is left of ranges when all others are taken away. -/
def without (ranges : CodeRanges) (others : List CodeRanges) : CodeRanges :=
  others.foldl minus ranges

/-- If nothing is left of the ranges, every member is in one of the others. -/
theorem holds_of_without {others : List CodeRanges} (hnone : without ranges others = [])
    (h : Holds ranges n) : ∃ other ∈ others, Holds other n := by
  induction others generalizing ranges with
  | nil =>
    rw [show ranges = [] from hnone] at h
    exact absurd h (by simp [Holds])
  | cons other others ih =>
    rcases holds_minus other h with hother | hleft
    · exact ⟨other, List.mem_cons_self, hother⟩
    · obtain ⟨behind, hmem, hbehind⟩ := ih hnone hleft
      exact ⟨behind, List.mem_cons_of_mem other hmem, hbehind⟩

/-- A code point of a table of which nothing is left is in one of the others. -/
theorem contains_of_without (others : List CodeRanges) (hnone : without ranges others = [])
    (hascending : others.all isAscending = true) (h : contains ranges n = true) :
    others.any (contains · n) = true := by
  obtain ⟨other, hmem, hholds⟩ := holds_of_without hnone (holds_of_contains h)
  exact List.any_eq_true.mpr
    ⟨other, hmem, contains_of_holds (List.all_eq_true.mp hascending other hmem) hholds⟩

end DialogueScript.Alphabet.CodeRanges
