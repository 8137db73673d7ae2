import DialogueScript.Script.Block
import DialogueScript.Script.Instruction

/-!
# Compiling

From the source of a script to the script. The blocks of the whole source are found before any of
them is read, so a fault of the layout is told first. Later blocks of a state replace earlier ones.

Main statement: `contains_of_compile` (a script that compiles has a state to start in and one to end
in).
-/

namespace DialogueScript.Script

/-- Adds an instruction to a state. -/
def Instruction.addTo (state : ScriptState) : Instruction → ScriptState
  | .retry text => { state with retry := some text }
  | .transition t => { state with transitions := state.transitions ++ [t] }
  | .assignment a => { state with assignments := state.assignments ++ [a] }

/-- Adds the instructions of lines to a state. -/
def addLines (state : ScriptState) : List Line → Except Problem ScriptState
  | [] => .ok state
  | line :: rest => do
    let instruction ← readInstruction line.number line.text
    addLines (instruction.addTo state) rest

/-- The state of a block: the first line is its prompt. -/
def Block.state (block : Block) : Except Problem ScriptState :=
  match block.body with
  | [] => .ok (ScriptState.ofPrompt [])
  | prompt :: lines => addLines (ScriptState.ofPrompt prompt.text) lines

/-- Defines the states of blocks. -/
def defineBlocks (script : Script) : List Block → Except Problem Script
  | [] => .ok script
  | block :: rest => do
    let state ← block.state
    defineBlocks (script.define block.key state) rest

/-- The script of a source. -/
def compile (source : Text) : Except Problem Script := do
  let blocks ← blocks source
  defineBlocks seeded blocks

/-! ## The states that every script has -/

theorem contains_define {script : Script} {key : Text} (h : script.contains key = true)
    (other : Text) (state : ScriptState) : (script.define other state).contains key = true := by
  simp only [contains, Table.contains, define, Table.get?_insert] at h ⊢
  split
  · rfl
  · exact h

theorem contains_defineBlocks {key : Text} : ∀ (blocks : List Block) {script defined : Script},
    script.contains key = true → defineBlocks script blocks = .ok defined →
    defined.contains key = true
  | [], _, _, h, hdefine => Except.ok.inj hdefine ▸ h
  | block :: rest, script, defined, h, hdefine => by
    rw [defineBlocks] at hdefine
    cases hstate : block.state with
    | error problem =>
      rw [hstate] at hdefine
      cases hdefine
    | ok state =>
      rw [hstate] at hdefine
      exact contains_defineBlocks rest (contains_define h block.key state) hdefine

/-- A script that compiles has the states in which conversations start and end. -/
theorem contains_of_compile {source : Text} {script : Script} (h : compile source = .ok script) :
    script.contains Name.start = true ∧ script.contains Name.finish = true := by
  rw [compile] at h
  cases hblocks : blocks source with
  | error problem =>
    rw [hblocks] at h
    cases h
  | ok blocks =>
    rw [hblocks] at h
    exact ⟨contains_defineBlocks blocks (by decide) h, contains_defineBlocks blocks (by decide) h⟩

end DialogueScript.Script
