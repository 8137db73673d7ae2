import DialogueScript.Name
import DialogueScript.Problem

/-!
# Blocks

The layout of a script's source. A block is an unindented line with the key of a state and the
indented lines below it; it ends at a blank line, at the next unindented line or with the source.
-/

namespace DialogueScript.Script

/-- A line of a block, without the blanks around it. -/
structure Line where
  text : Text
  number : Nat
  deriving DecidableEq, Repr

/-- A block. -/
structure Block where
  key : Text
  number : Nat
  body : List Line
  deriving DecidableEq, Repr

/-- Adds a line to a block. -/
def Block.push (block : Block) (line : Line) : Block :=
  { block with body := block.body ++ [line] }

/-- Closes a block, which must have a line, if there is one. -/
def closeBlock : Option Block → Except Problem (List Block)
  | none => .ok []
  | some block =>
    if block.body.isEmpty then .error (.source .emptyBlock block.key block.number)
    else .ok [block]

/-- The blocks of the rest of a source, behind a block that is not closed yet. Lines are counted
from `number`. -/
def blocksFrom (number : Nat) (current : Option Block) : List Text → Except Problem (List Block)
  | [] => closeBlock current
  | raw :: rest =>
    if Text.isBlankLine raw then do
      let closed ← closeBlock current
      let more ← blocksFrom (number + 1) none rest
      return closed ++ more
    else if raw.head?.any Text.isBlank then
      match current with
      | none => .error (.source .orphanLine (Text.trim raw) number)
      | some block => blocksFrom (number + 1) (some (block.push ⟨Text.trim raw, number⟩)) rest
    else do
      let closed ← closeBlock current
      let key := Text.trimEnd raw
      if Name.isStateKey key then
        let more ← blocksFrom (number + 1) (some ⟨key, number, []⟩) rest
        return closed ++ more
      else .error (.source .stateKey key number)

/-- The blocks of a source. -/
def blocks (source : Text) : Except Problem (List Block) :=
  blocksFrom 1 none (Text.lines source)

end DialogueScript.Script
