import Mathlib.Data.List.Forall2
import DialogueScript.Proofs.Script.Layout
import DialogueScript.Proofs.Script.Scanning

/-!
# Compiling what was written

A canonical script that is written in canonical layout compiles to itself (`compile_layout`).

Blocks are found one after the other (`blocksFrom_blockLines`): the empty line closes a block, so
each is read from where none is open. The lines of a block give back its state (`state_of_lines`),
and states that are defined in any order, each once, make up the script (`get?_defineAll_of_mem`).
An end that is not written is the one that is defined from the start.
-/

namespace DialogueScript

namespace Script

/-! ## Canonical scripts -/

/-- The instructions of a state in canonical order. -/
def instructions (state : ScriptState) : List Instruction :=
  state.transitions.map .transition ++ state.assignments.map .assignment ++
    state.retry.toList.map .retry

/-- The lines of a state. -/
def stateLines (state : ScriptState) : List Text :=
  state.prompt :: (instructions state).map Instruction.text

/-- The lines of a block. -/
def blockLines (indent : Text) (entry : Text × ScriptState) : List Text :=
  entry.1 :: (stateLines entry.2).map (indent ++ ·) ++ [[]]

/-- The states that are written: all but an end that is as it would be without a definition. -/
def written (states : List (Text × ScriptState)) : List (Text × ScriptState) :=
  states.filter fun entry => entry ≠ (Name.finish, defaultFinish)

/-- The source of states, one behind the other. -/
def layout (indent : Text) (states : List (Text × ScriptState)) : Text :=
  ((written states).flatMap (blockLines indent)).flatMap (· ++ ['\n'])

/-- A state that can be written: it has a prompt, and prompt and instructions can be written. -/
structure CanonicalState (state : ScriptState) : Prop where
  prompt_ne_nil : state.prompt ≠ []
  prompt : state.prompt.Plain
  instructions : ∀ instruction ∈ instructions state, instruction.IsCanonical

/-- A script that can be written. -/
structure IsCanonical (script : Script) : Prop where
  start : script.contains Name.start = true
  finish : script.contains Name.finish = true
  key : ∀ entry ∈ script.states.entries, Name.isStateKey entry.1 = true
  state : ∀ entry ∈ script.states.entries,
    CanonicalState entry.2 ∨ entry = (Name.finish, defaultFinish)

/-- Blanks that indent a line. -/
structure Indents (indent : Text) : Prop where
  ne_nil : indent ≠ []
  blank : indent.all Text.isBlank = true
  line : '\n' ∉ indent

instance (state : ScriptState) : Decidable (CanonicalState state) :=
  decidable_of_iff (state.prompt ≠ [] ∧ state.prompt.Plain ∧
      ∀ instruction ∈ instructions state, instruction.IsCanonical)
    ⟨fun h => ⟨h.1, h.2.1, h.2.2⟩, fun h => ⟨h.prompt_ne_nil, h.prompt, h.instructions⟩⟩

instance (script : Script) : Decidable script.IsCanonical :=
  decidable_of_iff (script.contains Name.start = true ∧ script.contains Name.finish = true ∧
      (∀ entry ∈ script.states.entries, Name.isStateKey entry.1 = true) ∧
      ∀ entry ∈ script.states.entries,
        CanonicalState entry.2 ∨ entry = (Name.finish, defaultFinish))
    ⟨fun h => ⟨h.1, h.2.1, h.2.2.1, h.2.2.2⟩, fun h => ⟨h.start, h.finish, h.key, h.state⟩⟩

instance (indent : Text) : Decidable (Indents indent) :=
  decidable_of_iff (indent ≠ [] ∧ indent.all Text.isBlank = true ∧ '\n' ∉ indent)
    ⟨fun h => ⟨h.1, h.2.1, h.2.2⟩, fun h => ⟨h.ne_nil, h.blank, h.line⟩⟩

/-! ## States from lines -/

section State

variable {state : ScriptState}

/-- Transitions are added behind those that a state has. -/
theorem foldl_transitions (transitions : List Transition) (state : ScriptState) :
    (transitions.map Instruction.transition).foldl (fun state i => i.addTo state) state
      = { state with transitions := state.transitions ++ transitions } := by
  induction transitions generalizing state with
  | nil => simp
  | cons transition rest ih =>
    rw [List.map_cons, List.foldl_cons, ih]
    simp [Instruction.addTo]

/-- Assignments are added behind those that a state has. -/
theorem foldl_assignments (assignments : List Assignment) (state : ScriptState) :
    (assignments.map Instruction.assignment).foldl (fun state i => i.addTo state) state
      = { state with assignments := state.assignments ++ assignments } := by
  induction assignments generalizing state with
  | nil => simp
  | cons assignment rest ih =>
    rw [List.map_cons, List.foldl_cons, ih]
    simp [Instruction.addTo]

/-- The instructions of a state make it up from its prompt. -/
theorem foldl_instructions (state : ScriptState) :
    (instructions state).foldl (fun state i => i.addTo state) (ScriptState.ofPrompt state.prompt)
      = state := by
  obtain ⟨prompt, transitions, assignments, retry⟩ := state
  rw [instructions, List.foldl_append, List.foldl_append, foldl_transitions, foldl_assignments]
  cases retry <;> rfl

/-- Lines of a block with their numbers. -/
def numbered (number : Nat) : List Text → List Line
  | [] => []
  | t :: rest => ⟨Text.trim t, number⟩ :: numbered (number + 1) rest

/-- Canonical instructions are read back from their lines and added in their order. -/
theorem addLines_numbered {instructions : List Instruction}
    (h : ∀ instruction ∈ instructions, instruction.IsCanonical) (number : Nat)
    (state : ScriptState) :
    addLines state (numbered number (instructions.map Instruction.text))
      = .ok (instructions.foldl (fun state i => i.addTo state) state) := by
  induction instructions generalizing number state with
  | nil => rfl
  | cons instruction rest ih =>
    obtain ⟨hfirst, hrest⟩ := List.forall_mem_cons.mp h
    rw [List.map_cons, numbered, addLines, readInstruction_text hfirst]
    exact ih hrest (number + 1) _

/-- The lines of a canonical state define that state. -/
theorem state_of_lines (h : CanonicalState state) (key : Text) (number line : Nat) :
    Block.state ⟨key, number, numbered line (stateLines state)⟩ = .ok state := by
  rw [Block.state, stateLines, numbered]
  dsimp only
  rw [h.prompt.trim, addLines_numbered h.instructions, foldl_instructions]

/-- Each line of a canonical state fits on a line of the source. -/
theorem fits_stateLines (h : CanonicalState state) : ∀ t ∈ stateLines state, Text.Fits t := by
  intro t ht
  rcases List.mem_cons.mp ht with rfl | ht
  · exact h.prompt.fits h.prompt_ne_nil
  · obtain ⟨instruction, hmem, rfl⟩ := List.mem_map.mp ht
    have hcanonical := h.instructions instruction hmem
    exact hcanonical.plain_front.fits_append instruction.front_ne_nil hcanonical.plain_content

end State

/-! ## Blocks from lines -/

section Blocks

variable {indent : Text} {texts : List Text}

/-- Indented lines go to the block that is open. -/
theorem blocksFrom_indented (hindent : Indents indent) (htexts : ∀ t ∈ texts, Text.Fits t)
    (number : Nat) (block : Block) (more : List Text) :
    blocksFrom number (some block) (texts.map (indent ++ ·) ++ more)
      = blocksFrom (number + texts.length)
          (some { block with body := block.body ++ numbered number texts }) more := by
  induction texts generalizing number block with
  | nil => simp [numbered]
  | cons t rest ih =>
    obtain ⟨ht, hrest⟩ := List.forall_mem_cons.mp htexts
    obtain ⟨c, hc, hblank⟩ := ht.head
    have hline : Text.isBlankLine (indent ++ t) = false := by
      rw [Text.isBlankLine, List.all_eq_false]
      exact ⟨c, List.mem_append_right _ (List.mem_of_head? hc), by simp [hblank]⟩
    have hhead : (indent ++ t).head?.any Text.isBlank = true := by
      rw [List.head?_append_of_ne_nil _ hindent.ne_nil, List.head?_eq_some_head hindent.ne_nil]
      exact List.all_eq_true.mp hindent.blank _ (List.head_mem _)
    have hcontinues : Continues (indent ++ t) := ⟨hline, hhead⟩
    rw [List.map_cons, List.cons_append, blocksFrom_continues hcontinues, ih hrest, Block.push,
      Text.trim_append hindent.blank, numbered, List.length_cons]
    simp [Nat.add_assoc, Nat.add_comm 1]

/-- The key of a state opens a block. -/
theorem blocksFrom_key {key : Text} (hkey : Name.isStateKey key = true) (number : Nat)
    (more : List Text) :
    blocksFrom number none (key :: more)
      = blocksFrom (number + 1) (some ⟨key, number, []⟩) more := by
  have hplain := Name.plain_of_isStateKey hkey
  obtain ⟨c, hc, hblank⟩ := (hplain.fits (Name.ne_nil_of_isStateKey hkey)).head
  have hline : Text.isBlankLine key = false := by
    rw [Text.isBlankLine, List.all_eq_false]
    exact ⟨c, List.mem_of_head? hc, by simp [hblank]⟩
  have hhead : key.head?.any Text.isBlank = false := by
    rw [hc]
    exact hblank
  have hopens : Opens key := ⟨hline, hhead⟩
  rw [blocksFrom_opens hopens, closeBlock, ok_nil_blocksThen, blocksBelow,
    Text.trimEnd_eq_self hplain.last]
  exact if_pos hkey

/-- The empty line closes a block that has lines. -/
theorem blocksFrom_empty {block : Block} (h : block.body ≠ []) (number : Nat) (more : List Text) :
    blocksFrom number (some block) ([] :: more)
      = (blocksFrom (number + 1) none more).map (block :: ·) := by
  have hclose : closeBlock (some block) = .ok [block] := if_neg (by simpa using h)
  rw [blocksFrom_blank rfl, hclose]
  cases blocksFrom (number + 1) none more <;> rfl

/-- A block stands for a state. -/
def Means (block : Block) (entry : Text × ScriptState) : Prop :=
  block.key = entry.1 ∧ block.state = .ok entry.2

/-- The blocks of states that can be written are found, whatever the number of the first line. -/
theorem blocksFrom_blockLines (hindent : Indents indent) {states : List (Text × ScriptState)}
    (hkeys : ∀ entry ∈ states, Name.isStateKey entry.1 = true)
    (hstates : ∀ entry ∈ states, CanonicalState entry.2) (number : Nat) :
    ∃ blocks, blocksFrom number none (states.flatMap (blockLines indent)) = .ok blocks ∧
      List.Forall₂ Means blocks states := by
  induction states generalizing number with
  | nil => exact ⟨[], rfl, .nil⟩
  | cons entry rest ih =>
    obtain ⟨hkey, hkeys⟩ := List.forall_mem_cons.mp hkeys
    obtain ⟨hstate, hstates⟩ := List.forall_mem_cons.mp hstates
    obtain ⟨blocks, hblocks, hmeans⟩ :=
      ih hkeys hstates (number + 1 + (stateLines entry.2).length + 1)
    let block : Block := ⟨entry.1, number, numbered (number + 1) (stateLines entry.2)⟩
    refine ⟨block :: blocks, ?_, .cons ⟨rfl, state_of_lines hstate ..⟩ hmeans⟩
    rw [List.flatMap_cons, blockLines, List.append_assoc, List.cons_append, blocksFrom_key hkey,
      blocksFrom_indented hindent (fits_stateLines hstate), List.singleton_append,
      blocksFrom_empty (by simp [stateLines, numbered]), hblocks]
    rfl

end Blocks

/-! ## Tables from blocks -/

/-- The script with further states defined, one after the other. -/
def defineAll (script : Script) (states : List (Text × ScriptState)) : Script :=
  states.foldl (fun script entry => script.define entry.1 entry.2) script

section Table

variable {states : List (Text × ScriptState)} {key : Text}

theorem defineAll_cons (script : Script) (entry : Text × ScriptState) :
    script.defineAll (entry :: states) = (script.define entry.1 entry.2).defineAll states := rfl

/-- Blocks define the states that they mean. -/
theorem defineBlocks_of_means {blocks : List Block} (h : List.Forall₂ Means blocks states)
    (script : Script) : defineBlocks script blocks = .ok (script.defineAll states) := by
  induction h generalizing script with
  | nil => rfl
  | cons hmeans _ ih =>
    rw [defineBlocks, hmeans.2, hmeans.1]
    exact ih _

/-- A key that is not among the states keeps what it had. -/
theorem get?_defineAll_of_notMem (h : key ∉ states.map (·.1)) (script : Script) :
    (script.defineAll states).get? key = script.get? key := by
  induction states generalizing script with
  | nil => rfl
  | cons entry rest ih =>
    rw [List.map_cons, List.mem_cons, not_or] at h
    rw [defineAll_cons, ih h.2]
    exact Table.get?_insert_ne _ _ (Ne.symm h.1)

/-- A key that is among them once gets its state. -/
theorem get?_defineAll_of_mem (hnodup : (states.map (·.1)).Nodup) {state : ScriptState}
    (h : (key, state) ∈ states) (script : Script) :
    (script.defineAll states).get? key = some state := by
  induction states generalizing script with
  | nil => simp at h
  | cons entry rest ih =>
    rw [List.map_cons, List.nodup_cons] at hnodup
    rw [defineAll_cons]
    rcases List.mem_cons.mp h with rfl | hrest
    · rw [get?_defineAll_of_notMem hnodup.1]
      exact Table.get?_insert_self _ _ _
    · exact ih hnodup.2 hrest _

end Table

/-! ## Whole scripts -/

section Layout

variable {script : Script} {indent : Text} {states : List (Text × ScriptState)}

/-- The lines of a source are found again. -/
theorem lines_layout (hindent : Indents indent)
    (hkeys : ∀ entry ∈ written states, Name.isStateKey entry.1 = true)
    (hstates : ∀ entry ∈ written states, CanonicalState entry.2) :
    Text.lines (layout indent states) = (written states).flatMap (blockLines indent) := by
  have hline : ∀ line ∈ (written states).flatMap (blockLines indent),
      '\n' ∉ line ∧ line.getLast? ≠ some '\r' := by
    intro line hline
    obtain ⟨entry, hentry, hline⟩ := List.mem_flatMap.mp hline
    simp only [blockLines, List.cons_append, List.mem_cons, List.mem_append, List.mem_map,
      List.not_mem_nil, or_false] at hline
    rcases hline with rfl | ⟨t, ht, rfl⟩ | rfl
    · have hplain := Name.plain_of_isStateKey (hkeys entry hentry)
      exact ⟨hplain.line, hplain.last_ne⟩
    · have hfits := fits_stateLines (hstates entry hentry) t ht
      obtain ⟨c, hc, -⟩ := hfits.head
      refine ⟨List.not_mem_append hindent.line hfits.line, ?_⟩
      rw [List.getLast?_append_of_ne_nil _ (List.ne_nil_of_mem (List.mem_of_head? hc))]
      exact hfits.last
    · simp
  exact Text.lines_flatMap (fun line h => (hline line h).1) fun line h => (hline line h).2

/-- A key that a script has differs from one that it has not. -/
theorem ne_of_contains {key other : Text} (h : script.contains other = true)
    (hkey : script.get? key = none) : key ≠ other := by
  rintro rfl
  have hcontains : (script.get? key).isSome = true := h
  simp [hkey] at hcontains

/-- States that are written, put over the seeded ones, make up the script. -/
theorem get?_defineAll_written (h : script.IsCanonical)
    (hstates : states.Perm script.states.entries) (key : Text) :
    (seeded.defineAll (written states)).get? key = script.get? key := by
  have hmem {state : ScriptState} : (key, state) ∈ states ↔ script.get? key = some state :=
    hstates.mem_iff.trans Table.mem_entries_iff
  have hkeys : (script.states.entries.map (·.1)).Nodup := script.states.nodup_keys
  have hnodup : ((written states).map (·.1)).Nodup :=
    ((hstates.map (·.1)).nodup_iff.mpr hkeys).sublist (List.filter_sublist.map _)
  by_cases hwritten : key ∈ (written states).map (·.1)
  · obtain ⟨⟨_, state⟩, hentry, rfl⟩ := List.mem_map.mp hwritten
    rw [get?_defineAll_of_mem hnodup hentry, hmem.mp (List.mem_filter.mp hentry).1]
  · rw [get?_defineAll_of_notMem hwritten]
    cases hstate : script.get? key with
    | some state =>
      -- the one state that is left out is as it is seeded
      have hentry : (key, state) = (Name.finish, defaultFinish) := by
        by_contra hne
        exact hwritten (List.mem_map.mpr
          ⟨(key, state), List.mem_filter.mpr ⟨hmem.mpr hstate, decide_eq_true hne⟩, rfl⟩)
      obtain ⟨rfl, rfl⟩ := Prod.mk.inj hentry
      exact Table.get?_insert_self _ _ _
    | none =>
      have hstart := ne_of_contains h.start hstate
      have hfinish := ne_of_contains h.finish hstate
      exact (Table.get?_insert_ne _ _ hfinish.symm).trans
        (Table.get?_insert_ne _ _ hstart.symm)

/-- **A canonical script compiles to itself**: its states, written in any order and indented by any
blanks, are what compiling finds. -/
theorem compile_layout (h : script.IsCanonical) (hindent : Indents indent)
    (hstates : states.Perm script.states.entries) :
    compile (layout indent states) = .ok script := by
  have hkeys : ∀ entry ∈ written states, Name.isStateKey entry.1 = true := fun entry hentry =>
    h.key entry (hstates.mem_iff.mp (List.mem_filter.mp hentry).1)
  have hcanonical : ∀ entry ∈ written states, CanonicalState entry.2 := fun entry hentry => by
    obtain ⟨hmem, hne⟩ := List.mem_filter.mp hentry
    exact (h.state entry (hstates.mem_iff.mp hmem)).resolve_right (by simpa using hne)
  obtain ⟨found, hfound, hmeans⟩ := blocksFrom_blockLines hindent hkeys hcanonical 1
  have hblocks : blocks (layout indent states) = .ok found := by
    rw [blocks, lines_layout hindent hkeys hcanonical, hfound]
  have hscript : seeded.defineAll (written states) = script :=
    congrArg Script.mk (Table.ext_get? (get?_defineAll_written h hstates))
  rw [compile, hblocks]
  exact (defineBlocks_of_means hmeans seeded).trans (congrArg _ hscript)

/-- A script with an instruction of every sort. -/
def ordering : Script :=
  let tea : Pattern := (Pattern.ofSource? "^t".toList).get (by decide +kernel)
  seeded.define Name.start
    { prompt := "Tea or coffee?".toList
      transitions := [⟨.guarded tea "$counter$ - 1 > 0".toList, Name.finish⟩,
        ⟨.pattern tea, Name.start⟩, ⟨.wildcard, Name.finish⟩]
      assignments := [⟨"$choice$".toList, Name.response⟩, ⟨"$note$".toList, []⟩]
      retry := some "Tea -> or coffee?".toList }

/-- Its source, and what compiling makes of it. -/
theorem compile_layout_ordering :
    ordering.IsCanonical ∧ Indents "  ".toList ∧
    layout "  ".toList ordering.states.entries =
      ("start\n  Tea or coffee?\n  \"^t\", $counter$ - 1 > 0 -> end\n  \"^t\" -> start\n" ++
        "  REST -> end\n  $choice$ <- $response$\n  $note$ <- \n  # Tea -> or coffee?\n\n").toList ∧
    compile (layout "  ".toList ordering.states.entries) = .ok ordering := by
  have hcanonical : ordering.IsCanonical := by decide +kernel
  have hindent : Indents "  ".toList := by decide
  exact ⟨hcanonical, hindent, by decide +kernel, compile_layout hcanonical hindent (.refl _)⟩

end Layout

end Script

end DialogueScript
