import DialogueScript.Proofs.Script.Written

/-!
# What is reported of a source

A source that does not compile has one problem reported. If lines do not make up blocks, it is one
of the faults of the layout (`LayoutFault`); otherwise it is what is wrong with the first line, in
the order of the source, that is no instruction (`FirstRejected`), be its block replaced by a later
one or not. In either case it points at a line of the source, in which the text at fault stands
(`problem_of_compile`).

The lines above a line are listed with the nearest first, so that the block that is open there is
read off their front. The scan is followed line by line: `Reached` says which block is open below
the lines that were read.
-/

namespace DialogueScript

namespace Script

/-! ## The place of a line -/

/-- Does a block reach down to below these lines? The nearest line comes first. -/
def IsOpen : List Text → Prop
  | [] => False
  | line :: above => Opens line ∨ Continues line ∧ IsOpen above

/-- Does a block reach down to below these lines that has its prompt? -/
def IsPrompted : List Text → Prop
  | [] => False
  | line :: above => Continues line ∧ IsOpen above

instance decidableIsOpen : DecidablePred IsOpen
  | [] => inferInstanceAs (Decidable False)
  | line :: above =>
    have := decidableIsOpen above
    inferInstanceAs (Decidable (Opens line ∨ Continues line ∧ IsOpen above))

instance : DecidablePred IsPrompted
  | [] => inferInstanceAs (Decidable False)
  | line :: above => inferInstanceAs (Decidable (Continues line ∧ IsOpen above))

/-- The lines that hold instructions, below some lines: those of blocks, without their prompts. -/
def instructionLines : List Text → List Text → List Line
  | _, [] => []
  | above, line :: below =>
    if Continues line ∧ IsPrompted above then
      ⟨Text.trim line, above.length + 1⟩ :: instructionLines (line :: above) below
    else instructionLines (line :: above) below

/-- A fault of the layout, as it is reported: an indented line without a block, a key that is none,
or a block without a line. -/
inductive LayoutFault (lines : List Text) : Problem → Prop
  | orphan {above below : List Text} {line : Text}
    (hlines : lines = above.reverse ++ line :: below) (hline : Continues line)
    (habove : ¬ IsOpen above) :
    LayoutFault lines (.source .orphanLine (Text.trim line) (above.length + 1))
  | key {above below : List Text} {line : Text}
    (hlines : lines = above.reverse ++ line :: below) (hline : Opens line)
    (hkey : Name.isStateKey (Text.trimEnd line) = false) :
    LayoutFault lines (.source .stateKey (Text.trimEnd line) (above.length + 1))
  | empty {above below : List Text} {line : Text}
    (hlines : lines = above.reverse ++ line :: below) (hline : Opens line)
    (hbelow : ∀ next ∈ below.head?, ¬ Continues next) :
    LayoutFault lines (.source .emptyBlock (Text.trimEnd line) (above.length + 1))

/-- The problem of the first of some lines that is no instruction. -/
inductive FirstRejected (problem : Problem) : List Line → Prop
  | here {line : Line} {rest : List Line}
    (h : readInstruction line.number line.text = .error problem) :
    FirstRejected problem (line :: rest)
  | later {line : Line} {rest : List Line} {instruction : Instruction}
    (h : readInstruction line.number line.text = .ok instruction)
    (hrest : FirstRejected problem rest) : FirstRejected problem (line :: rest)

/-! ## Layout -/

/-- The block that the scan has open below some lines. -/
inductive Reached : List Text → Option Block → Prop
  | closed {above : List Text} (h : ¬ IsOpen above) : Reached above none
  | opened {above : List Text} {line : Text} (h : Opens line) :
    Reached (line :: above) (some ⟨Text.trimEnd line, above.length + 1, []⟩)
  | continued {above : List Text} {line : Text} {block : Block} (h : Continues line)
    (habove : Reached above (some block)) :
    Reached (line :: above) (some (block.push ⟨Text.trim line, above.length + 1⟩))

section Reached

variable {lines above below rest : List Text} {line : Text} {current : Option Block}
  {block : Block} {problem : Problem} {found : List Block}

/-- A blank line closes the block above it. -/
theorem Reached.of_blank (h : Text.isBlankLine line = true) : Reached (line :: above) none :=
  .closed fun hopen => hopen.elim (not_opens_of_blank h) fun hinside =>
    not_continues_of_blank h hinside.1

/-- Where no block is being read, none is open above. -/
theorem Reached.not_isOpen (h : Reached above none) : ¬ IsOpen above := by
  cases h with
  | closed hclosed => exact hclosed

/-- Where a block is being read, one is open above. -/
theorem Reached.isOpen (h : Reached above (some block)) : IsOpen above := by
  generalize hcurrent : some block = current at h
  induction h generalizing block with
  | closed _ => cases hcurrent
  | opened hopens => exact .inl hopens
  | continued hcontinues _ ih => exact .inr ⟨hcontinues, ih rfl⟩

/-- The open block has its prompt as soon as it has a line. -/
theorem Reached.isPrompted_iff (h : Reached above (some block)) :
    IsPrompted above ↔ block.body ≠ [] := by
  cases h with
  | opened hopens =>
    exact iff_of_false (fun hprompted => not_continues_of_opens hopens hprompted.1) (by simp)
  | continued hcontinues habove =>
    exact iff_of_true ⟨hcontinues, habove.isOpen⟩ (by simp [Block.push])

/-- A block that is closed without a fault is one of the blocks. -/
theorem closeBlock_eq_ok (h : closeBlock current = .ok found) : found = current.toList := by
  cases current with
  | none => exact (Except.ok.inj h).symm
  | some block =>
    rw [closeBlock] at h
    split at h
    · cases h
    · exact (Except.ok.inj h).symm

/-- A block that cannot be closed has no line. -/
theorem Reached.layoutFault_of_closeBlock (hreached : Reached above current)
    (h : closeBlock current = .error problem) (hlines : lines = above.reverse ++ below)
    (hbelow : ∀ next ∈ below.head?, ¬ Continues next) : LayoutFault lines problem := by
  cases hreached with
  | closed _ => cases h
  | @opened above line hopens =>
    obtain rfl := Except.error.inj h
    have hsplit : lines = above.reverse ++ line :: below := by rw [hlines]; simp
    exact .empty hsplit hopens hbelow
  | continued _ _ => simp [closeBlock, Block.push] at h

/-- What stops the scan is a fault of the layout. -/
theorem Reached.layoutFault (hreached : Reached above current)
    (hlines : lines = above.reverse ++ below)
    (h : blocksFrom (above.length + 1) current below = .error problem) :
    LayoutFault lines problem := by
  induction below generalizing above current with
  | nil => exact hreached.layoutFault_of_closeBlock h hlines (by simp)
  | cons line below ih =>
    have hnext : lines = (line :: above).reverse ++ below := by rw [hlines]; simp
    rcases line_cases line with hblank | hcontinues | hopens
    · -- a blank line: the block above it is closed
      rw [blocksFrom_blank hblank] at h
      rcases blocksThen_eq_error h with hclose | ⟨_, -, hbelow⟩
      · exact hreached.layoutFault_of_closeBlock hclose hlines
          (by simpa using not_continues_of_blank hblank)
      · exact ih (.of_blank hblank) hnext hbelow
    · -- an indented line: it needs a block
      cases current with
      | none =>
        rw [blocksFrom_continues_none hcontinues] at h
        obtain rfl := Except.error.inj h
        exact .orphan hlines hcontinues hreached.not_isOpen
      | some block =>
        rw [blocksFrom_continues hcontinues] at h
        exact ih (.continued hcontinues hreached) hnext h
    · -- a line that opens a block: the one above is closed, and the key is read
      rw [blocksFrom_opens hopens] at h
      rcases blocksThen_eq_error h with hclose | ⟨_, -, hbelow⟩
      · exact hreached.layoutFault_of_closeBlock hclose hlines
          (by simpa using not_continues_of_opens hopens)
      · rw [blocksBelow] at hbelow
        split at hbelow
        next => exact ih (.opened hopens) hnext hbelow
        next hkey =>
          obtain rfl := Except.error.inj hbelow
          exact .key hlines hopens (by simpa using hkey)

/-- A scan that is not stopped gets to every line. -/
theorem Reached.advance (hreached : Reached above current) {passed : List Text}
    (h : blocksFrom (above.length + 1) current (passed ++ below) = .ok found) :
    ∃ current found, Reached (passed.reverse ++ above) current ∧
      blocksFrom (passed.length + above.length + 1) current below = .ok found := by
  induction passed generalizing above current found with
  | nil => exact ⟨current, found, hreached, by rwa [List.length_nil, Nat.zero_add]⟩
  | cons line passed ih =>
    have hnumber : (line :: passed).length + above.length
        = passed.length + (line :: above).length := Nat.add_right_comm ..
    rw [List.reverse_cons, List.append_assoc, List.singleton_append, hnumber]
    rw [List.cons_append] at h
    rcases line_cases line with hblank | hcontinues | hopens
    · -- a blank line closes the block
      rw [blocksFrom_blank hblank] at h
      obtain ⟨-, more, -, hmore, -⟩ := blocksThen_eq_ok h
      exact ih (.of_blank hblank) hmore
    · -- an indented line needs a block
      cases current with
      | none =>
        rw [blocksFrom_continues_none hcontinues] at h
        cases h
      | some block =>
        rw [blocksFrom_continues hcontinues] at h
        exact ih (.continued hcontinues hreached) h
    · -- a line that opens a block closes the one before
      rw [blocksFrom_opens hopens] at h
      obtain ⟨-, more, -, hmore, -⟩ := blocksThen_eq_ok h
      rw [blocksBelow] at hmore
      split at hmore
      next => exact ih (.opened hopens) hmore
      next => cases hmore

/-- A scan that is not stopped meets no fault of the layout. -/
theorem not_layoutFault (h : blocksFrom 1 none lines = .ok found) :
    ¬ LayoutFault lines problem := by
  have hstart : Reached [] none := .closed id
  intro hfault
  cases hfault with
  | orphan hlines hline habove =>
    rw [hlines] at h
    obtain ⟨current, found, hreached, hscan⟩ := hstart.advance h
    rw [List.reverse_reverse, List.append_nil] at hreached
    cases current with
    | none =>
      rw [blocksFrom_continues_none hline] at hscan
      cases hscan
    | some block => exact habove hreached.isOpen
  | key hlines hline hkey =>
    rw [hlines] at h
    obtain ⟨current, found, -, hscan⟩ := hstart.advance h
    rw [blocksFrom_opens hline] at hscan
    obtain ⟨-, more, -, hmore, -⟩ := blocksThen_eq_ok hscan
    rw [blocksBelow, hkey] at hmore
    cases hmore
  | empty hlines hline hbelow =>
    rw [hlines] at h
    obtain ⟨current, found, -, hscan⟩ := hstart.advance h
    rw [blocksFrom_opens hline] at hscan
    obtain ⟨-, more, -, hmore, -⟩ := blocksThen_eq_ok hscan
    rw [blocksBelow] at hmore
    split at hmore
    next =>
      -- the block is closed by what stands below it, before any line was added
      rw [blocksFrom_close hbelow] at hmore
      cases hmore
    next => cases hmore

/-- The lines of the blocks that are found, without their prompts, are the instruction lines. -/
theorem Reached.instructionLines_eq (hreached : Reached above current)
    (h : blocksFrom (above.length + 1) current below = .ok found) :
    found.flatMap (·.body.tail)
      = current.toList.flatMap (·.body.tail) ++ instructionLines above below := by
  induction below generalizing above current found with
  | nil =>
    rw [closeBlock_eq_ok h]
    exact (List.append_nil _).symm
  | cons line below ih =>
    rcases line_cases line with hblank | hcontinues | hopens
    · rw [blocksFrom_blank hblank] at h
      obtain ⟨closed, more, hclosed, hmore, rfl⟩ := blocksThen_eq_ok h
      have hnot : ¬ (Continues line ∧ IsPrompted above) :=
        fun hinside => not_continues_of_blank hblank hinside.1
      rw [List.flatMap_append, closeBlock_eq_ok hclosed, ih (.of_blank hblank) hmore,
        instructionLines, if_neg hnot]
      rfl
    · cases current with
      | none =>
        rw [blocksFrom_continues_none hcontinues] at h
        cases h
      | some block =>
        rw [blocksFrom_continues hcontinues] at h
        rw [ih (.continued hcontinues hreached) h, instructionLines]
        by_cases hprompted : IsPrompted above
        · have hbody := hreached.isPrompted_iff.mp hprompted
          rw [if_pos ⟨hcontinues, hprompted⟩]
          simp [Block.push, List.tail_append_of_ne_nil hbody]
        · -- the line is the prompt of its block
          have hbody : block.body = [] := by
            by_contra hbody
            exact hprompted (hreached.isPrompted_iff.mpr hbody)
          rw [if_neg fun hinside => hprompted hinside.2]
          simp [Block.push, hbody]
    · rw [blocksFrom_opens hopens] at h
      obtain ⟨closed, more, hclosed, hmore, rfl⟩ := blocksThen_eq_ok h
      have hnot : ¬ (Continues line ∧ IsPrompted above) :=
        fun hinside => not_continues_of_opens hopens hinside.1
      rw [blocksBelow] at hmore
      split at hmore
      next =>
        rw [List.flatMap_append, closeBlock_eq_ok hclosed, ih (.opened hopens) hmore,
          instructionLines, if_neg hnot]
        rfl
      next => cases hmore

end Reached

/-! ## Instructions -/

section Instructions

variable {lines front back : List Line} {problem : Problem} {state result : ScriptState}

/-- Lines behind the first rejected one do not matter. -/
theorem FirstRejected.append_right (h : FirstRejected problem front) :
    FirstRejected problem (front ++ back) := by
  induction h with
  | here hline => exact .here hline
  | later hline _ ih => exact .later hline ih

/-- There is one first rejected line, with one problem. -/
theorem FirstRejected.unique {other : Problem} (h : FirstRejected problem lines)
    (hother : FirstRejected other lines) : problem = other := by
  induction h with
  | here hline =>
    cases hother with
    | here hotherLine => exact Except.error.inj (hline.symm.trans hotherLine)
    | later hotherLine _ =>
      rw [hline] at hotherLine
      cases hotherLine
  | later hline _ ih =>
    cases hother with
    | here hotherLine =>
      rw [hline] at hotherLine
      cases hotherLine
    | later _ hrest => exact ih hrest

/-- The first rejected line is one of the lines. -/
theorem exists_of_firstRejected (h : FirstRejected problem lines) :
    ∃ line ∈ lines, readInstruction line.number line.text = .error problem := by
  induction h with
  | here hline => exact ⟨_, List.mem_cons_self .., hline⟩
  | later _ _ ih =>
    obtain ⟨line, hmem, hline⟩ := ih
    exact ⟨line, List.mem_cons_of_mem _ hmem, hline⟩

/-- Adding lines to a state fails with the problem of the first rejected one. -/
theorem addLines_eq_error_iff :
    addLines state lines = .error problem ↔ FirstRejected problem lines := by
  constructor
  · intro h
    induction lines generalizing state with
    | nil => cases h
    | cons line rest ih =>
      rw [addLines] at h
      rcases bind_eq_error h with hline | ⟨instruction, hline, h⟩
      · exact .here hline
      · exact .later hline (ih h)
  · intro h
    induction h generalizing state with
    | here hline =>
      rw [addLines, hline]
      rfl
    | later hline _ ih =>
      rw [addLines, hline]
      exact ih

/-- Behind lines that are instructions the first that is none comes later. -/
theorem firstRejected_append_iff (h : addLines state front = .ok result) :
    FirstRejected problem (front ++ back) ↔ FirstRejected problem back := by
  induction front generalizing state with
  | nil => rfl
  | cons line front ih =>
    rw [addLines] at h
    obtain ⟨instruction, hline, h⟩ := bind_eq_ok h
    rw [List.cons_append, ← ih h]
    constructor
    · intro hrejected
      cases hrejected with
      | here hrejects =>
        rw [hline] at hrejects
        cases hrejects
      | later _ hrest => exact hrest
    · exact .later hline

/-- The state of a block is read off the lines behind its prompt. -/
theorem state_eq (block : Block) : block.state =
    addLines (ScriptState.ofPrompt ((block.body.head?.map (·.text)).getD [])) block.body.tail := by
  rw [Block.state]
  cases block.body <;> rfl

/-- Defining blocks fails with the problem of the first rejected line of any of them, prompts left
out. -/
theorem defineBlocks_eq_error_iff {blocks : List Block} {script : Script} :
    defineBlocks script blocks = .error problem ↔
      FirstRejected problem (blocks.flatMap (·.body.tail)) := by
  induction blocks generalizing script with
  | nil => exact iff_of_false (by simp [defineBlocks]) fun h => by cases h
  | cons block rest ih =>
    rw [defineBlocks, List.flatMap_cons]
    cases hstate : block.state with
    | error other =>
      rw [state_eq] at hstate
      have hfirst : FirstRejected other (block.body.tail ++ rest.flatMap (·.body.tail)) :=
        (addLines_eq_error_iff.mp hstate).append_right
      constructor
      · intro h
        rwa [← Except.error.inj h]
      · intro h
        rw [hfirst.unique h]
        rfl
    | ok state =>
      rw [state_eq] at hstate
      rw [firstRejected_append_iff hstate, ← ih]
      rfl

end Instructions

/-! ## What is reported -/

/-- A problem points at a line, in which the text at fault stands. -/
structure PointsAt (problem : Problem) (number : Nat) (line : Text) : Prop where
  kind : problem.kind = .compile
  number : problem.line? = some number
  text : ∃ text, problem.text? = some text ∧ text <:+: line

section Report

variable {source line t : Text} {number : Nat} {problem : Problem}

/-- A fault of the source names its line and a part of it. -/
theorem pointsAt_source {fault : SourceFault} (h : t <:+: line) :
    PointsAt (.source fault t number) number line := ⟨rfl, rfl, t, rfl, h⟩

/-- A bad pattern is reported with its line, and the pattern is a part of it. -/
theorem pointsAt_of_patternOn (h : patternOn number t = .error problem) (ht : t <:+: line) :
    PointsAt problem number line := by
  unfold patternOn at h
  split at h
  next => cases h
  next =>
    obtain rfl := Except.error.inj h
    exact ⟨rfl, rfl, t, rfl, ht⟩

theorem pointsAt_of_readKey (h : readKey number t = .error problem) (ht : t <:+: line) :
    PointsAt problem number line := by
  unfold readKey at h
  split at h
  next => cases h
  next =>
    split at h
    next source guard hsplit =>
      -- a key with a guard: the pattern or the guard is at fault
      rw [eq_of_splitGuarded hsplit] at ht
      split at h
      next =>
        rcases bind_eq_error h with hpattern | ⟨_, -, h⟩
        · refine pointsAt_of_patternOn hpattern (.trans ?_ ht)
          exact ⟨['"'], ['"', ',', ' '] ++ guard, by simp⟩
        · cases h
      next =>
        obtain rfl := Except.error.inj h
        exact pointsAt_source ((List.suffix_append _ guard).isInfix.trans ht)
    next =>
      split at h
      next source hunquote =>
        -- a key in quotes alone: the pattern is at fault
        rw [eq_of_unquote hunquote] at ht
        rcases bind_eq_error h with hpattern | ⟨_, -, h⟩
        · exact pointsAt_of_patternOn hpattern (.trans ⟨['"'], ['"'], rfl⟩ ht)
        · cases h
      next =>
        -- no key at all
        obtain rfl := Except.error.inj h
        exact pointsAt_source ht

/-- Both sides of a separator are parts of the line, also when they are trimmed. -/
theorem trim_isInfix_of_splitOnce {separator left right : Text}
    (h : Text.splitOnce separator t = some (left, right)) :
    Text.trim left <:+: t ∧ Text.trim right <:+: t := by
  rw [Text.splitOnce_eq_some h, List.append_assoc]
  exact ⟨(Text.trim_isInfix left).trans (List.prefix_append _ _).isInfix,
    (Text.trim_isInfix right).trans
      ((List.suffix_append _ _).trans (List.suffix_append _ _)).isInfix⟩

/-- Every rejected instruction is reported with its line and a part of it. -/
theorem pointsAt_of_readInstruction (h : readInstruction number t = .error problem)
    (ht : t <:+: line) : PointsAt problem number line := by
  unfold readInstruction at h
  split at h
  next => cases h
  next =>
    split at h
    next left right hsplit =>
      -- a transition: its key is at fault, or its target
      obtain ⟨hleft, hright⟩ := trim_isInfix_of_splitOnce hsplit
      dsimp only at h
      split at h
      next =>
        rcases bind_eq_error h with hkey | ⟨_, -, h⟩
        · exact pointsAt_of_readKey hkey (hleft.trans ht)
        · cases h
      next =>
        obtain rfl := Except.error.inj h
        exact pointsAt_source (hright.trans ht)
    next =>
      split at h
      next left right hsplit =>
        -- an assignment: the name of its variable is at fault
        obtain ⟨hleft, -⟩ := trim_isInfix_of_splitOnce hsplit
        dsimp only at h
        split at h
        next => cases h
        next =>
          obtain rfl := Except.error.inj h
          exact pointsAt_source (hleft.trans ht)
      next =>
        -- no instruction at all
        obtain rfl := Except.error.inj h
        exact pointsAt_source ht

/-- An instruction line is a line of the source, without the blanks around it. -/
theorem exists_of_mem_instructionLines {above below : List Text} {instruction : Line}
    (h : instruction ∈ instructionLines above below) :
    ∃ (earlier later : List Text) (line : Text),
      above.reverse ++ below = earlier.reverse ++ line :: later ∧
        instruction = ⟨Text.trim line, earlier.length + 1⟩ := by
  induction below generalizing above with
  | nil => cases h
  | cons line below ih =>
    have hnext : above.reverse ++ line :: below = (line :: above).reverse ++ below := by simp
    rw [instructionLines] at h
    split at h
    next =>
      rcases List.mem_cons.mp h with rfl | hlater
      · exact ⟨above, below, line, rfl, rfl⟩
      · rw [hnext]
        exact ih hlater
    next =>
      rw [hnext]
      exact ih h

/-- What is reported points at a line of the source. -/
theorem exists_pointsAt_of_compile (h : compile source = .error problem) :
    ∃ (above below : List Text) (line : Text),
      Text.lines source = above.reverse ++ line :: below ∧
        PointsAt problem (above.length + 1) line := by
  rcases bind_eq_error h with hblocks | ⟨blocks, hblocks, hdefine⟩
  · have hstart : Reached [] none := .closed id
    have hfault : LayoutFault (Text.lines source) problem := hstart.layoutFault rfl hblocks
    cases hfault with
    | orphan hlines _ _ =>
      exact ⟨_, _, _, hlines, pointsAt_source (Text.trim_isInfix _)⟩
    | key hlines _ _ =>
      exact ⟨_, _, _, hlines, pointsAt_source (Text.trimEnd_isPrefix _).isInfix⟩
    | empty hlines _ _ =>
      exact ⟨_, _, _, hlines, pointsAt_source (Text.trimEnd_isPrefix _).isInfix⟩
  · have hstart : Reached [] none := .closed id
    obtain ⟨instruction, hmem, hread⟩ :=
      exists_of_firstRejected (defineBlocks_eq_error_iff.mp hdefine)
    rw [hstart.instructionLines_eq hblocks] at hmem
    obtain ⟨above, below, line, hlines, rfl⟩ := exists_of_mem_instructionLines hmem
    exact ⟨above, below, line, hlines, pointsAt_of_readInstruction hread (Text.trim_isInfix line)⟩

/-- **What is reported of a source** that does not compile: the problem is one of compiling, has the
number of a line and a text that stands in that line. If there are faults of the layout, it is one
of them; if there are none, it is that of the first instruction line that is no instruction. -/
theorem problem_of_compile (source : Text) :
    (∀ problem, compile source = .error problem →
      problem.kind = .compile ∧ ∃ number line text,
        problem.line? = some number ∧ 1 ≤ number ∧ number ≤ (Text.lines source).length ∧
        (Text.lines source)[number - 1]? = some line ∧
        problem.text? = some text ∧ text <:+: line) ∧
    ((∃ fault, LayoutFault (Text.lines source) fault) →
      ∃ problem, compile source = .error problem ∧ LayoutFault (Text.lines source) problem) ∧
    ((∀ fault, ¬ LayoutFault (Text.lines source) fault) → ∀ problem,
      compile source = .error problem ↔
        FirstRejected problem (instructionLines [] (Text.lines source))) := by
  have hstart : Reached [] none := .closed id
  refine ⟨fun problem h => ?_, fun ⟨fault, hfault⟩ => ?_, fun hnone problem => ?_⟩
  · obtain ⟨above, below, line, hlines, hpoints⟩ := exists_pointsAt_of_compile h
    obtain ⟨text, htext, hinside⟩ := hpoints.text
    refine ⟨hpoints.kind, above.length + 1, line, text, hpoints.number, by omega, ?_, ?_, htext,
      hinside⟩
    · rw [hlines]
      simp
    · rw [hlines]
      simp
  · -- a source with a fault of the layout has no blocks, so one is reported
    cases hblocks : blocks source with
    | error problem =>
      refine ⟨problem, ?_, hstart.layoutFault rfl hblocks⟩
      rw [compile, hblocks]
      rfl
    | ok found => exact absurd hfault (not_layoutFault hblocks)
  · -- without such faults the instruction lines are those of the blocks
    cases hblocks : blocks source with
    | error other => exact absurd (hstart.layoutFault rfl hblocks) (hnone other)
    | ok found =>
      have hlines := hstart.instructionLines_eq hblocks
      rw [Option.toList_none, List.flatMap_nil, List.nil_append] at hlines
      rw [compile, hblocks, ← hlines]
      exact defineBlocks_eq_error_iff

/-- A wrong variable in a block that a later one replaces is reported, but not before a wrong key
below it. -/
theorem problem_of_compile_replaced :
    let replaced : Text := "start\n  Old?\n  # No.\n  $bad name$ <- 1\nstart\n  New?\n".toList
    let unlaid : Text := replaced ++ "bad key\n  More?\n".toList
    let named : Problem := .source .variableName "$bad name$".toList 4
    let keyed : Problem := .source .stateKey "bad key".toList 7
    compile replaced = .error named ∧
    (∃ line text, (Text.lines replaced)[3]? = some line ∧ named.text? = some text ∧
      text <:+: line) ∧
    (∀ fault, ¬ LayoutFault (Text.lines replaced) fault) ∧
    FirstRejected named (instructionLines [] (Text.lines replaced)) ∧
    LayoutFault (Text.lines unlaid) keyed ∧
    ∃ problem, compile unlaid = .error problem ∧ LayoutFault (Text.lines unlaid) problem := by
  intro replaced unlaid named keyed
  have hcompile : compile replaced = .error named := by decide +kernel
  have hblocks : (blocks replaced).toOption.isSome = true := by decide +kernel
  obtain ⟨found, hfound⟩ := Option.isSome_iff_exists.mp hblocks
  have hlaid : ∀ fault, ¬ LayoutFault (Text.lines replaced) fault := fun fault =>
    not_layoutFault (eq_ok_of_toOption hfound)
  have hsplit : Text.lines unlaid = ((Text.lines unlaid).take 6).reverse.reverse ++
      "bad key".toList :: ["  More?".toList] := by decide +kernel
  have hkeyed : LayoutFault (Text.lines unlaid) keyed :=
    .key hsplit (by decide) (by decide +kernel)
  obtain ⟨hpoints, -, hrejected⟩ := problem_of_compile replaced
  obtain ⟨-, number, line, text, hnumber, -, -, hline, htext, hinside⟩ := hpoints named hcompile
  obtain rfl : 4 = number := Option.some.inj hnumber
  exact ⟨hcompile, ⟨line, text, hline, htext, hinside⟩, hlaid,
    (hrejected hlaid named).mp hcompile, hkeyed, (problem_of_compile unlaid).2.1 ⟨keyed, hkeyed⟩⟩

end Report

end Script

end DialogueScript
