import DialogueScript.Proofs.Except
import DialogueScript.Script.Block

/-!
# Scanning lines

What one line does to the block that is open above it: a blank line closes the block, an indented
one goes to it, and any other line closes it and opens the next (`blocksFrom_blank`,
`blocksFrom_continues`, `blocksFrom_opens`). A blank line between two rows of lines divides their
blocks (`blocksFrom_append_blank`).
-/

namespace DialogueScript

namespace Script

/-! ## Parts of a source -/

/-- The blocks of one part of a source and those of what is below it. -/
def blocksThen (first below : Except Problem (List Block)) : Except Problem (List Block) := do
  let closed ← first
  let more ← below
  return closed ++ more

section Then

variable (first second third : Except Problem (List Block))

@[simp] theorem ok_nil_blocksThen : blocksThen (.ok []) first = first := by
  cases first <;> rfl

/-- How parts of a source are grouped does not matter. -/
theorem blocksThen_assoc :
    blocksThen (blocksThen first second) third = blocksThen first (blocksThen second third) := by
  cases first with
  | error problem => rfl
  | ok closed =>
    cases second with
    | error problem => rfl
    | ok more =>
      cases third with
      | error problem => rfl
      | ok rest => exact congrArg Except.ok (List.append_assoc closed more rest)

theorem blocksThen_ok_nil : blocksThen first (.ok []) = first := by
  cases first with
  | error problem => rfl
  | ok closed => exact congrArg Except.ok (List.append_nil closed)

variable {first second} in
/-- Parts of a source have blocks only if each of them has. -/
theorem blocksThen_eq_ok {found : List Block} (h : blocksThen first second = .ok found) :
    ∃ closed more, first = .ok closed ∧ second = .ok more ∧ found = closed ++ more := by
  obtain ⟨closed, hclosed, h⟩ := bind_eq_ok h
  obtain ⟨more, hmore, h⟩ := bind_eq_ok h
  exact ⟨closed, more, hclosed, hmore, (Except.ok.inj h).symm⟩

variable {first second} in
/-- A problem is that of the first part, or of the second one if the first has none. -/
theorem blocksThen_eq_error {problem : Problem} (h : blocksThen first second = .error problem) :
    first = .error problem ∨ ∃ closed, first = .ok closed ∧ second = .error problem := by
  rcases bind_eq_error h with hfirst | ⟨closed, hclosed, h⟩
  · exact .inl hfirst
  · rcases bind_eq_error h with hsecond | ⟨more, -, h⟩
    · exact .inr ⟨closed, hclosed, hsecond⟩
    · cases h

end Then

/-! ## One line -/

/-- A line that opens a block: neither blank nor indented. -/
def Opens (line : Text) : Prop :=
  Text.isBlankLine line = false ∧ line.head?.any Text.isBlank = false

/-- A line that belongs to the block above: indented, with more than blanks. -/
def Continues (line : Text) : Prop :=
  Text.isBlankLine line = false ∧ line.head?.any Text.isBlank = true

instance : DecidablePred Opens := fun _ => inferInstanceAs (Decidable (_ ∧ _))

instance : DecidablePred Continues := fun _ => inferInstanceAs (Decidable (_ ∧ _))

section Line

variable {line : Text} {rest : List Text} {number : Nat} {current : Option Block}

/-- A line is blank, or it continues the block above, or it opens one. -/
theorem line_cases (line : Text) :
    Text.isBlankLine line = true ∨ Continues line ∨ Opens line := by
  cases hblank : Text.isBlankLine line with
  | true => exact .inl rfl
  | false =>
    cases hhead : line.head?.any Text.isBlank with
    | true => exact .inr (.inl ⟨hblank, hhead⟩)
    | false => exact .inr (.inr ⟨hblank, hhead⟩)

theorem not_continues_of_opens (h : Opens line) : ¬ Continues line := fun hcontinues => by
  have hindented := hcontinues.2
  rw [h.2] at hindented
  cases hindented

theorem not_continues_of_blank (h : Text.isBlankLine line = true) : ¬ Continues line :=
  fun hcontinues => by simp [hcontinues.1] at h

theorem not_opens_of_blank (h : Text.isBlankLine line = true) : ¬ Opens line :=
  fun hopens => by simp [hopens.1] at h

/-- A blank line closes the block that is open. -/
theorem blocksFrom_blank (h : Text.isBlankLine line = true) :
    blocksFrom number current (line :: rest)
      = blocksThen (closeBlock current) (blocksFrom (number + 1) none rest) := by
  rw [blocksFrom.eq_def]
  exact if_pos h

/-- An indented line needs a block that is open. -/
theorem blocksFrom_continues_none (h : Continues line) :
    blocksFrom number none (line :: rest)
      = .error (.source .orphanLine (Text.trim line) number) := by
  rw [blocksFrom.eq_def]
  dsimp only
  rw [if_neg (by simp [h.1]), if_pos h.2]

/-- An indented line belongs to the block that is open. -/
theorem blocksFrom_continues (h : Continues line) (block : Block) :
    blocksFrom number (some block) (line :: rest)
      = blocksFrom (number + 1) (some (block.push ⟨Text.trim line, number⟩)) rest := by
  rw [blocksFrom.eq_def]
  dsimp only
  rw [if_neg (by simp [h.1]), if_pos h.2]

/-- The block that a line opens, and what is below it. -/
def blocksBelow (number : Nat) (line : Text) (rest : List Text) : Except Problem (List Block) :=
  let key := Text.trimEnd line
  if Name.isStateKey key then blocksFrom (number + 1) (some ⟨key, number, []⟩) rest
  else .error (.source .stateKey key number)

/-- A line that is not indented closes the block that is open and begins the next one. -/
theorem blocksFrom_opens (h : Opens line) :
    blocksFrom number current (line :: rest)
      = blocksThen (closeBlock current) (blocksBelow number line rest) := by
  rw [blocksFrom.eq_def]
  dsimp only
  rw [if_neg (by simp [h.1]), if_neg (by simp [h.2]), blocksThen, blocksBelow]
  split <;> rfl

end Line

/-! ## Rows of lines -/

section Rows

variable {lines blanks : List Text} {number : Nat} {current : Option Block}

/-- Lines that do not go on with a block close it. -/
theorem blocksFrom_close (h : ∀ line ∈ lines.head?, ¬ Continues line) :
    blocksFrom number current lines
      = blocksThen (closeBlock current) (blocksFrom number none lines) := by
  cases lines with
  | nil => exact (blocksThen_ok_nil _).symm
  | cons line rest =>
    rcases line_cases line with hblank | hcontinues | hopens
    · rw [blocksFrom_blank hblank, blocksFrom_blank hblank, closeBlock, ok_nil_blocksThen]
    · exact absurd hcontinues (h line rfl)
    · rw [blocksFrom_opens hopens, blocksFrom_opens hopens, closeBlock, ok_nil_blocksThen]

/-- So do blank lines in front of them. -/
theorem blocksFrom_blanks (hblanks : ∀ line ∈ blanks, Text.isBlankLine line = true)
    (h : ∀ line ∈ lines.head?, ¬ Continues line) :
    blocksFrom number current (blanks ++ lines)
      = blocksThen (closeBlock current) (blocksFrom (number + blanks.length) none lines) := by
  induction blanks generalizing number current with
  | nil => exact blocksFrom_close h
  | cons blank blanks ih =>
    obtain ⟨hblank, hblanks⟩ := List.forall_mem_cons.mp hblanks
    rw [List.cons_append, blocksFrom_blank hblank, ih hblanks, closeBlock, ok_nil_blocksThen,
      List.length_cons, Nat.add_assoc, Nat.add_comm 1]

/-- A blank line divides the blocks above it from those below. -/
theorem blocksFrom_append_blank {blank : Text} (hblank : Text.isBlankLine blank = true)
    (front back : List Text) (number : Nat) (current : Option Block) :
    blocksFrom number current (front ++ blank :: back)
      = blocksThen (blocksFrom number current front)
          (blocksFrom (number + front.length + 1) none back) := by
  induction front generalizing number current with
  | nil => exact blocksFrom_blank hblank
  | cons line front ih =>
    rw [List.cons_append, List.length_cons, Nat.add_comm front.length, ← Nat.add_assoc]
    rcases line_cases line with hline | hcontinues | hopens
    · rw [blocksFrom_blank hline, blocksFrom_blank hline, ih, blocksThen_assoc]
    · cases current with
      | none => rw [blocksFrom_continues_none hcontinues, blocksFrom_continues_none hcontinues]; rfl
      | some block => rw [blocksFrom_continues hcontinues, blocksFrom_continues hcontinues, ih]
    · rw [blocksFrom_opens hopens, blocksFrom_opens hopens, blocksThen_assoc, blocksBelow,
        blocksBelow]
      split
      next => rw [ih]
      next => rfl

end Rows

end Script

end DialogueScript
