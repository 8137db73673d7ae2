import DialogueScript.Proofs.Script.Scanning
import DialogueScript.Script.Compile

/-!
# Numbers of lines

The numbers of lines have no part in what a source says: they only stand in what is reported. So
lines that are numbered otherwise have the same blocks and the same states, and their problems are
told of the other numbers (`blocksFrom_spaced`, `defineBlocks_renumber`).

Lines are numbered otherwise when blank lines are put in between them (`spaced`), or when there are
more lines above them (`blocksFrom_add`).
-/

namespace DialogueScript

/-! ## Problems and blocks -/

/-- The problem at another line. -/
def Problem.mapLine (f : Nat → Nat) : Problem → Problem
  | .source fault text line => .source fault text (f line)
  | .pattern regex line => .pattern regex (line.map f)
  | problem => problem

section MapLine

variable (f : Nat → Nat) (problem : Problem)

@[simp] theorem Problem.kind_mapLine : (problem.mapLine f).kind = problem.kind := by
  cases problem <;> rfl

@[simp] theorem Problem.code_mapLine : (problem.mapLine f).code = problem.code := by
  cases problem <;> rfl

/-- The message of a problem does not name its line. -/
@[simp] theorem Problem.message_mapLine : (problem.mapLine f).message = problem.message := by
  cases problem <;> rfl

@[simp] theorem Problem.text?_mapLine : (problem.mapLine f).text? = problem.text? := by
  cases problem <;> rfl

/-- Only its line is another one, if it has any. -/
@[simp] theorem Problem.line?_mapLine : (problem.mapLine f).line? = problem.line?.map f := by
  cases problem <;> rfl

end MapLine

namespace Script

/-- The block with other numbers of lines. -/
def Block.renumber (f : Nat → Nat) (block : Block) : Block where
  key := block.key
  number := f block.number
  body := block.body.map fun line => ⟨line.text, f line.number⟩

/-- Blocks, or the problem that they have, with other numbers of lines. -/
def renumbered (f : Nat → Nat) : Except Problem (List Block) → Except Problem (List Block)
  | .ok blocks => .ok (blocks.map (Block.renumber f))
  | .error problem => .error (problem.mapLine f)

section Renumber

variable {f : Nat → Nat}

/-- Blocks are put together alike under new numbers. -/
theorem renumbered_blocksThen (first below : Except Problem (List Block)) :
    renumbered f (blocksThen first below)
      = blocksThen (renumbered f first) (renumbered f below) := by
  cases first with
  | error problem => rfl
  | ok closed =>
    cases below with
    | error problem => rfl
    | ok more => exact congrArg Except.ok List.map_append

theorem Block.push_renumber (block : Block) (t : Text) (number : Nat) :
    (block.renumber f).push ⟨t, f number⟩ = (block.push ⟨t, number⟩).renumber f := by
  simp [Block.renumber, Block.push]

/-- A block is closed alike under new numbers, and so is none. -/
theorem closeBlock_renumber (current : Option Block) :
    closeBlock (current.map (Block.renumber f)) = renumbered f (closeBlock current) := by
  cases current with
  | none => rfl
  | some block =>
    have hempty : (block.renumber f).body.isEmpty = block.body.isEmpty := by simp [Block.renumber]
    rw [Option.map_some, closeBlock, closeBlock, hempty]
    split <;> rfl

/-! ## Lines of blocks -/

/-- A pattern is read alike on every line, and a bad one is reported there. -/
theorem patternOn_renumber (number : Nat) (t : Text) :
    patternOn (f number) t = (patternOn number t).mapError (Problem.mapLine f) := by
  unfold patternOn
  split <;> rfl

/-- A key is read alike on every line. -/
theorem readKey_renumber (number : Nat) (t : Text) :
    readKey (f number) t = (readKey number t).mapError (Problem.mapLine f) := by
  unfold readKey
  split
  next => rfl
  next =>
    split
    next =>
      split
      next => rw [patternOn_renumber, mapError_bind]; rfl
      next => rfl
    next =>
      split
      next => rw [patternOn_renumber, mapError_bind]; rfl
      next => rfl

/-- An instruction is read alike on every line, and a bad one is reported there. -/
theorem readInstruction_renumber (number : Nat) (t : Text) :
    readInstruction (f number) t
      = (readInstruction number t).mapError (Problem.mapLine f) := by
  unfold readInstruction
  split
  next => rfl
  next =>
    split
    next =>
      dsimp only
      split
      next => rw [readKey_renumber, mapError_bind]; rfl
      next => rfl
    next =>
      split
      next =>
        dsimp only
        split <;> rfl
      next => rfl

/-- The lines of a block make the same state under new numbers. -/
theorem addLines_renumber (lines : List Line) (state : ScriptState) :
    addLines state (lines.map fun line => ⟨line.text, f line.number⟩)
      = (addLines state lines).mapError (Problem.mapLine f) := by
  induction lines generalizing state with
  | nil => rfl
  | cons line rest ih =>
    rw [List.map_cons, addLines, addLines, readInstruction_renumber, mapError_bind]
    simp only [ih]

/-- A block defines the same state under new numbers, or the same problem on another line. -/
theorem Block.state_renumber (block : Block) :
    (block.renumber f).state = block.state.mapError (Problem.mapLine f) := by
  rw [Block.state, Block.state, Block.renumber]
  cases block.body with
  | nil => rfl
  | cons prompt lines => exact addLines_renumber lines _

/-- Blocks define the same script under new numbers, or the same problem on another line. -/
theorem defineBlocks_renumber (blocks : List Block) (script : Script) :
    defineBlocks script (blocks.map (Block.renumber f))
      = (defineBlocks script blocks).mapError (Problem.mapLine f) := by
  induction blocks generalizing script with
  | nil => rfl
  | cons block rest ih =>
    rw [List.map_cons, defineBlocks, defineBlocks, Block.state_renumber, mapError_bind]
    simp only [ih]
    rfl

/-- Looking for blocks and defining them gives the same script, or the same problem on another line.
-/
theorem renumbered_bind_defineBlocks (found : Except Problem (List Block)) (script : Script) :
    renumbered f found >>= defineBlocks script
      = (found >>= defineBlocks script).mapError (Problem.mapLine f) := by
  cases found with
  | error problem => rfl
  | ok blocks => exact defineBlocks_renumber blocks script

end Renumber

/-! ## Lines in other places -/

/-- Lines with others put in: in front of each line those that stand beside it, and the last ones
at the end. -/
def spaced (parts : List (List Text × Text)) (last : List Text) : List Text :=
  parts.flatMap (fun part => part.1 ++ [part.2]) ++ last

/-- The number that a line has when others are put in. -/
def placeOf (parts : List (List Text × Text)) (number : Nat) : Nat :=
  number + ((parts.take number).flatMap (·.1)).length

/-- The lines that are put in are blank, and none stands directly above an indented line. -/
structure Loosens (parts : List (List Text × Text)) (last : List Text) : Prop where
  blank : ∀ part ∈ parts, ∀ line ∈ part.1, Text.isBlankLine line = true
  indented : ∀ part ∈ parts, Continues part.2 → part.1 = []
  last : ∀ line ∈ last, Text.isBlankLine line = true

instance (parts : List (List Text × Text)) (last : List Text) : Decidable (Loosens parts last) :=
  decidable_of_iff
    ((∀ part ∈ parts, ∀ line ∈ part.1, Text.isBlankLine line = true) ∧
      (∀ part ∈ parts, Continues part.2 → part.1 = []) ∧
      ∀ line ∈ last, Text.isBlankLine line = true)
    ⟨fun h => ⟨h.1, h.2.1, h.2.2⟩, fun h => ⟨h.blank, h.indented, h.last⟩⟩

section Spaced

variable {parts : List (List Text × Text)} {last : List Text}

theorem spaced_cons (gap : List Text) (line : Text) :
    spaced ((gap, line) :: parts) last = gap ++ line :: spaced parts last := by
  simp [spaced]

/-- **Lines with blank ones put in have the same blocks**, with other numbers: `f` tells the new
number of each line. -/
theorem blocksFrom_spaced {f : Nat → Nat} (h : Loosens parts last) {number place : Nat}
    (hf : ∀ k, f (number + k) = place + k + ((parts.take (k + 1)).flatMap (·.1)).length)
    (current : Option Block) :
    blocksFrom place (current.map (Block.renumber f)) (spaced parts last)
      = renumbered f (blocksFrom number current (parts.map (·.2))) := by
  induction parts generalizing number place current with
  | nil =>
    rw [spaced, List.flatMap_nil, List.nil_append, ← List.append_nil last,
      blocksFrom_blanks h.last (by simp), closeBlock_renumber]
    exact blocksThen_ok_nil _
  | cons part parts ih =>
    obtain ⟨gap, line⟩ := part
    obtain ⟨hgap, hblank⟩ := List.forall_mem_cons.mp h.blank
    obtain ⟨hline, hindented⟩ := List.forall_mem_cons.mp h.indented
    have hnumber : f number = place + gap.length := by simpa using hf 0
    have hnext (current : Option Block) :
        blocksFrom (f number + 1) (current.map (Block.renumber f)) (spaced parts last)
          = renumbered f (blocksFrom (number + 1) current (parts.map (·.2))) := by
      refine ih ⟨hblank, hindented, h.last⟩ (fun k => ?_) current
      have hk := hf (k + 1)
      rw [List.take_succ_cons, List.flatMap_cons, List.length_append] at hk
      dsimp only at hk
      rw [hnumber, Nat.add_assoc number, Nat.add_comm 1, hk]
      omega
    -- above a line that does not go on with it, the open block is closed with or without a gap
    have hskip (hnot : ¬ Continues line) :
        blocksFrom place (current.map (Block.renumber f)) (gap ++ line :: spaced parts last)
          = blocksThen (renumbered f (closeBlock current))
              (blocksFrom (f number) none (line :: spaced parts last)) := by
      rw [blocksFrom_blanks hgap (by simpa using hnot), ← hnumber, closeBlock_renumber]
    rw [spaced_cons, List.map_cons]
    rcases line_cases line with hempty | hcontinues | hopens
    · rw [hskip (not_continues_of_blank hempty), blocksFrom_blank hempty, blocksFrom_blank hempty,
        renumbered_blocksThen, closeBlock, ok_nil_blocksThen]
      exact congrArg _ (hnext none)
    · -- a gap here would cut the line off from its block
      obtain rfl : gap = [] := hline hcontinues
      rw [List.nil_append, show place = f number from hnumber.symm]
      cases current with
      | none =>
        rw [Option.map_none, blocksFrom_continues_none hcontinues,
          blocksFrom_continues_none hcontinues]
        rfl
      | some block =>
        rw [Option.map_some, blocksFrom_continues hcontinues, blocksFrom_continues hcontinues,
          Block.push_renumber]
        exact hnext (some (block.push ⟨Text.trim line, number⟩))
    · have hbelow : blocksBelow (f number) line (spaced parts last)
          = renumbered f (blocksBelow number line (parts.map (·.2))) := by
        rw [blocksBelow, blocksBelow]
        split
        next => exact hnext (some ⟨Text.trimEnd line, number, []⟩)
        next => rfl
      rw [hskip (not_continues_of_opens hopens), blocksFrom_opens hopens, blocksFrom_opens hopens,
        renumbered_blocksThen, closeBlock, ok_nil_blocksThen, hbelow]

/-- Lines below others have the same blocks, with higher numbers. -/
theorem blocksFrom_add (lines : List Text) (number k : Nat) :
    blocksFrom (number + k) none lines = renumbered (· + k) (blocksFrom number none lines) := by
  let plain : List (List Text × Text) := lines.map fun line => ([], line)
  have hplain : Loosens plain [] := by constructor <;> simp [plain]
  have hlines : plain.map (·.2) = lines := by simp [plain, Function.comp_def]
  have hspaced : spaced plain [] = lines := by simp [plain, spaced, List.flatMap_map]
  have hnone (count : Nat) : (plain.take count).flatMap (·.1) = [] :=
    List.flatMap_eq_nil_iff.mpr fun part hpart => by
      obtain ⟨line, -, rfl⟩ := List.mem_map.mp (List.mem_of_mem_take hpart)
      rfl
  have hmoved : blocksFrom (number + k) none (spaced plain [])
      = renumbered (· + k) (blocksFrom number none (plain.map (·.2))) :=
    blocksFrom_spaced hplain
      (fun i => by rw [hnone, List.length_nil]; omega) none
  rwa [hspaced, hlines] at hmoved

end Spaced

end Script

end DialogueScript
