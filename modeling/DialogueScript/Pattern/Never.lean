import DialogueScript.Pattern.Program

/-!
# The programs of the pattern that matches nothing

A program that takes one character finds the first character of its set (`search_take`), so it finds
nothing in any text if the set is empty (`search_take_eq_none`). The pattern that matches nothing
takes a character that is neither blank nor not. Read where case counts, its program is
`exactWildcard`, and where it does not, `caselessWildcard`; the one finds as little as the other.
-/

namespace DialogueScript.Pattern

/-! ## Programs that take one character -/

section Take

variable {set : CharSet}

/-- Between two characters with nothing matched so far, a new thread waits for a character. -/
theorem follow_started (set : CharSet) (before behind : Option Char) (origin : Nat) :
    ∃ marks, follow #[.take set, .accept] before behind (Array.replicate 2 false) [] [⟨0, origin⟩]
      = ⟨[⟨0, origin⟩], none, marks⟩ := by
  rw [follow, dif_pos (by simp), dif_neg (by simp)]
  dsimp only [List.getElem?_toArray, List.getElem?_cons_zero]
  rw [follow]
  exact ⟨_, rfl⟩

/-- Behind the character the thread accepts, and cuts off the one that is started there. -/
theorem follow_taken (set : CharSet) (before behind : Option Char) (origin : Nat)
    (threads : List Thread) :
    ∃ marks, follow #[.take set, .accept] before behind (Array.replicate 2 false) []
        (⟨1, origin⟩ :: threads) = ⟨[], some origin, marks⟩ := by
  rw [follow, dif_pos (by simp), dif_neg (by simp)]
  exact ⟨_, rfl⟩

theorem advance_started (c : Char) (origin : Nat) :
    advance #[.take set, .accept] c [⟨0, origin⟩]
      = if set.contains c then [⟨1, origin⟩] else [] := by
  simp only [advance, List.getElem?_toArray, List.getElem?_cons_zero, List.filterMap_cons,
    List.filterMap_nil]
  split <;> simp_all

theorem run_taken (before : Option Char) (offset origin : Nat) (t : Text) :
    run #[.take set, .accept] before offset none [⟨1, origin⟩] t = some ⟨origin, offset⟩ := by
  obtain ⟨marks, hfollow⟩ := follow_taken set before t.head? origin [⟨0, offset⟩]
  cases t with
  | nil => simp_all [run]
  | cons c rest => simp_all [run, advance]

theorem run_started (set : CharSet) (before : Option Char) (offset : Nat) (t : Text) :
    run #[.take set, .accept] before offset none [] t
      = (t.findIdx? set.contains).map fun i => ⟨offset + i, offset + i + 1⟩ := by
  induction t generalizing before offset with
  | nil =>
    obtain ⟨marks, hfollow⟩ := follow_started set before none offset
    simp [run, hfollow]
  | cons c rest ih =>
    obtain ⟨marks, hfollow⟩ := follow_started set before (some c) offset
    cases hc : set.contains c with
    | true => simp [run, hfollow, advance_started, hc, run_taken, List.findIdx?_cons]
    | false =>
      have hstep : run #[.take set, .accept] before offset none [] (c :: rest)
          = run #[.take set, .accept] (some c) (offset + 1) none [] rest := by
        simp [run, hfollow, advance_started, hc]
      rw [hstep, ih, List.findIdx?_cons, hc]
      simp [Function.comp_def, Nat.add_assoc, Nat.add_comm 1]

/-- A program that takes one character finds the first one of its set. -/
theorem search_take (set : CharSet) (t : Text) :
    search [.take set] t = (t.findIdx? set.contains).map fun i => ⟨i, i + 1⟩ := by
  simpa [search] using run_started set none 0 t

theorem search_take_eq_none (hset : ∀ c, set.contains c = false) (t : Text) :
    search [.take set] t = none := by
  simp [search_take, hset]

end Take

/-! ## Neither blank nor not -/

/-- The text of the pattern that matches nothing: a character neither blank nor not. -/
def wildcardSource : Text := "[^\\S\\s]".toList

/-- The characters that are blank or not, as patterns write them. -/
def blankOrNot : CharSet := .union (.complement .space) (.union .space .none)

/-- The pattern that matches nothing, read where case counts. -/
def exactWildcard : Program := [.take (.complement blankOrNot)]

/-- The pattern that matches nothing, read where case does not count. -/
def caselessWildcard : Program := [.take (.complement (.folded blankOrNot))]

/-- All characters are blank or not. -/
theorem contains_blankOrNot (c : Char) : blankOrNot.contains c = true := by
  simp [blankOrNot, CharSet.contains]

/-- No text has a character that is neither. -/
theorem search_exactWildcard (t : Text) : search exactWildcard t = none := by
  refine search_take_eq_none (fun c => ?_) t
  rw [CharSet.contains, contains_blankOrNot, Bool.not_true]

/-- Nor one that differs from such a character in case only. -/
theorem search_caselessWildcard (t : Text) : search caselessWildcard t = none := by
  refine search_take_eq_none (fun c => ?_) t
  have hfolded : (CharSet.folded blankOrNot).contains c = true :=
    contains_folded (contains_blankOrNot c)
  exact congrArg (!·) hfolded

end DialogueScript.Pattern
