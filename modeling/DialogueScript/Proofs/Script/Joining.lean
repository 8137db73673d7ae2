import DialogueScript.Proofs.Script.LastBlock
import DialogueScript.Proofs.Script.Spacing

/-!
# Sources below one another

Two sources with an empty line between them have the blocks of the first and then those of the
second, since the empty line closes what is open above it. So the states of the second are defined
over the script of the first, and what is reported of the second is told of its lines further down
(`compile_joined`).
-/

namespace DialogueScript

namespace Text

/-- The fields of a text are those in front of any of its separators and those behind it. -/
theorem splitAll_append_separator (separator : Char) (front back : Text) :
    splitAll separator (front ++ separator :: back)
      = splitAll separator front ++ splitAll separator back := by
  induction front with
  | nil => exact if_pos rfl
  | cons c front ih =>
    rw [List.cons_append, splitAll, splitAll]
    split
    · exact congrArg ([] :: ·) ih
    · cases hfields : splitAll separator front with
      | nil => exact absurd hfields (splitAll_ne_nil separator front)
      | cons field fields =>
        rw [ih, hfields]
        rfl

/-- A line feed ends the last line in front of it. -/
theorem lines_append_feed (front back : Text) :
    lines (front ++ '\n' :: back) = (splitAll '\n' front).map dropReturn ++ lines back := by
  have hne := splitAll_ne_nil '\n' back
  rw [lines, splitAll_append_separator, List.dropLast_append_of_ne_nil hne, List.map_append,
    List.getLast?_append_of_ne_nil _ hne, List.append_assoc, lines]

end Text

namespace Script

section Blocks

variable {blocks : List Block} {base other defined found script : Script} {source key : Text}

/-- Blocks in a row are defined one after the other. -/
theorem defineBlocks_append (base : Script) (front back : List Block) :
    defineBlocks base (front ++ back) = defineBlocks base front >>= (defineBlocks · back) := by
  induction front generalizing base with
  | nil => rfl
  | cons block front ih =>
    rw [List.cons_append, defineBlocks, defineBlocks]
    cases block.state with
    | error problem => rfl
    | ok state => exact ih _

/-- States have the keys of the blocks that mean them. -/
theorem keys_of_means {states : List (Text × ScriptState)} (h : List.Forall₂ Means blocks states) :
    states.map (·.1) = blocks.map (·.key) :=
  map_eq_of_forall₂ h fun _ _ hmeans => hmeans.1.symm

/-- The blocks of a source have the keys of its headed parts. -/
theorem keys_of_blocks (h : Script.blocks source = .ok blocks) :
    blocks.map (·.key) = (headed (Text.lines source)).map (·.1) := by
  have hhas : List.Forall₂ Block.Has (headed (Text.lines source)) blocks :=
    has_of_blocksFrom h (by simp)
  exact map_eq_of_forall₂ hhas fun _ _ hpart => hpart.key

/-- The last definition of a key does not depend on what was defined before. -/
theorem get?_defineAll_of_mem_keys {states : List (Text × ScriptState)}
    (h : key ∈ states.map (·.1)) (base other : Script) :
    (base.defineAll states).get? key = (other.defineAll states).get? key := by
  obtain ⟨entry, hentry, hkey⟩ := List.mem_map.mp h
  obtain ⟨before, ⟨last, state⟩, after, rfl, rfl, hafter⟩ :=
    exists_last (P := fun entry => entry.1 = key) ⟨entry, hentry, hkey⟩
  have hlast : last ∉ after.map (·.1) := fun hmem => by
    obtain ⟨entry, hentry, hkey⟩ := List.mem_map.mp hmem
    exact hafter entry hentry hkey
  rw [get?_defineAll_last hlast, get?_defineAll_last hlast]

/-- Blocks define the same over any states that are already there. -/
theorem exists_defineBlocks (h : defineBlocks base blocks = .ok defined) (other : Script) :
    ∃ script, defineBlocks other blocks = .ok script ∧ ∀ key, script.get? key =
      if key ∈ blocks.map (·.key) then defined.get? key else other.get? key := by
  obtain ⟨states, hmeans, rfl⟩ := means_of_defineBlocks h
  refine ⟨other.defineAll states, defineBlocks_of_means hmeans other, fun key => ?_⟩
  rw [← keys_of_means hmeans]
  split
  next hkey => exact get?_defineAll_of_mem_keys hkey other base
  next hkey => exact get?_defineAll_of_notMem hkey other

/-- What blocks do not define over the states that every script has. -/
theorem get?_of_defineBlocks (h : defineBlocks seeded blocks = .ok defined)
    (hkey : key ∉ blocks.map (·.key)) : defined.get? key =
      if key = Name.finish then some defaultFinish
      else if key = Name.start then some defaultStart else none := by
  obtain ⟨states, hmeans, rfl⟩ := means_of_defineBlocks h
  rw [get?_defineAll_of_notMem (keys_of_means hmeans ▸ hkey), get?_seeded]

end Blocks

/-! ## Two sources -/

section Joined

variable {front back : Text} {first : Script} {problem : Problem}

/-- The lines above what stands below an empty line. -/
theorem length_lines_append_feeds (front : Text) :
    (Text.lines (front ++ ['\n', '\n'])).length = (Text.splitAll '\n' front).length + 1 := by
  rw [Text.lines_append_feed, List.length_append, List.length_map]
  rfl

/-- The empty line between two sources divides their blocks. -/
theorem blocks_joined (front back : Text) :
    blocks (front ++ '\n' :: '\n' :: back) = blocksThen (blocks front)
      (renumbered (· + (Text.lines (front ++ ['\n', '\n'])).length) (blocks back)) := by
  have hempty : Text.splitAll '\n' ('\n' :: back) = [] :: Text.splitAll '\n' back := if_pos rfl
  rw [blocks_eq_fields, blocks_eq_fields, blocks_eq_fields, Text.splitAll_append_separator, hempty,
    blocksFrom_append_blank rfl, length_lines_append_feeds, ← blocksFrom_add, Nat.add_assoc]

/-- The second source is compiled over the script of the first. -/
theorem compile_append (h : compile front = .ok first) (back : Text) :
    compile (front ++ '\n' :: '\n' :: back) =
      (blocks back >>= defineBlocks first).mapError
        (Problem.mapLine (· + (Text.lines (front ++ ['\n', '\n'])).length)) := by
  obtain ⟨found, hfound, hfirst⟩ := bind_eq_ok h
  rw [compile, blocks_joined, hfound, ← renumbered_bind_defineBlocks]
  cases blocks back with
  | error problem => rfl
  | ok more =>
    have hdefine := defineBlocks_append seeded found (more.map (Block.renumber
      (· + (Text.lines (front ++ ['\n', '\n'])).length)))
    rw [hfirst] at hdefine
    exact hdefine

/-- What is wrong with a source is wrong with it over any script. -/
theorem error_of_compile (h : compile back = .error problem) (first : Script) :
    (blocks back >>= defineBlocks first) = .error problem := by
  rcases bind_eq_error h with hblocks | ⟨found, hblocks, hdefine⟩
  · rw [hblocks]
    rfl
  · rw [hblocks]
    exact defineBlocks_eq_error_iff.mpr (defineBlocks_eq_error_iff.mp hdefine)

/-- **Compiling goes source by source.** A source below one that compiles and an empty line stands
on lines of its own. If it compiles, so do both together: what stands under a key is what the second
source has there if it heads a block of it, else what the first has if it heads one of that, and
else the states that every script has. If it does not, its problem is that of both, at its line
further down. -/
theorem compile_joined (h : compile front = .ok first) (back : Text) :
    let joined := front ++ '\n' :: '\n' :: back
    let preceding := Text.lines (front ++ ['\n', '\n'])
    Text.lines joined = preceding ++ Text.lines back ∧
    (∀ second, compile back = .ok second → ∃ script, compile joined = .ok script ∧
      ∀ key, script.get? key =
        if ∃ line ∈ Text.lines back, Heads key line then second.get? key
        else if ∃ line ∈ Text.lines front, Heads key line then first.get? key
        else if key = Name.finish then some defaultFinish
        else if key = Name.start then some defaultStart else none) ∧
    ∀ problem, compile back = .error problem → ∃ moved, compile joined = .error moved ∧
      moved.kind = problem.kind ∧ moved.code = problem.code ∧ moved.message = problem.message ∧
      moved.text? = problem.text? ∧ ∃ number, problem.line? = some number ∧
        moved.line? = some (number + preceding.length) := by
  have happend := compile_append h back
  refine ⟨?_, fun second hsecond => ?_, fun problem hproblem => ?_⟩
  · rw [Text.lines_append_feed, Text.lines_append_feed, List.append_assoc]
    exact congrArg _ (Text.lines_append_feed [] back)
  · obtain ⟨found, hfound, hfirst⟩ := bind_eq_ok h
    obtain ⟨more, hmore, hsecond⟩ := bind_eq_ok hsecond
    -- the blocks that were defined over the states of every script, over those of the first
    obtain ⟨script, hscript, hget⟩ := exists_defineBlocks hsecond first
    refine ⟨script, ?_, fun key => ?_⟩
    · rw [happend, hmore]
      exact congrArg (Except.mapError _) hscript
    · rw [hget, keys_of_blocks hmore]
      simp only [mem_keys_headed_iff]
      split
      next => rfl
      next =>
        split
        next => rfl
        next hkey =>
          refine get?_of_defineBlocks hfirst ?_
          rwa [keys_of_blocks hfound, mem_keys_headed_iff]
  · obtain ⟨above, _, _, _, hpoints⟩ := exists_pointsAt_of_compile hproblem
    let down (number : Nat) : Nat := number + (Text.lines (front ++ ['\n', '\n'])).length
    refine ⟨problem.mapLine down, ?_, by simp, by simp, by simp, by simp, above.length + 1,
      hpoints.number, by simp [hpoints.number, down]⟩
    rw [happend, error_of_compile hproblem first]
    rfl

/-- A start without its last line feed that is defined again below, and a wrong key below it. -/
theorem compile_joined_redefined :
    let front : Text := "start\n  Old?\n  REST -> ask\nask\n  More?\n  REST -> end".toList
    let back : Text := "start\n  New?\n  REST -> ask\n".toList
    let wrong : Text := "late\n  Why?\nbad key\n  More?\n".toList
    let problem : Problem := .source .stateKey "bad key".toList 3
    ∃ first second script, compile front = .ok first ∧ compile back = .ok second ∧
      compile (front ++ '\n' :: '\n' :: back) = .ok script ∧
      script.get? Name.start = second.get? Name.start ∧
      script.get? "ask".toList = first.get? "ask".toList ∧
      script.get? Name.finish = some defaultFinish ∧ script.get? "late".toList = none ∧
      compile wrong = .error problem ∧
      ∃ moved, compile (front ++ '\n' :: '\n' :: wrong) = .error moved ∧
        moved.code = problem.code ∧ moved.text? = some "bad key".toList ∧
        moved.line? = some 10 := by
  intro front back wrong problem
  have hfront : (compile front).toOption.isSome = true := by decide +kernel
  have hback : (compile back).toOption.isSome = true := by decide +kernel
  obtain ⟨first, hfirst⟩ := Option.isSome_iff_exists.mp hfront
  obtain ⟨second, hsecond⟩ := Option.isSome_iff_exists.mp hback
  have hfirst : compile front = .ok first := eq_ok_of_toOption hfirst
  have hsecond : compile back = .ok second := eq_ok_of_toOption hsecond
  have hwrong : compile wrong = .error problem := by decide +kernel
  obtain ⟨script, hscript, hget⟩ := (compile_joined hfirst back).2.1 second hsecond
  obtain ⟨moved, hmoved, -, hcode, -, htext, number, hnumber, hline⟩ :=
    (compile_joined hfirst wrong).2.2 problem hwrong
  obtain rfl : 3 = number := Option.some.inj hnumber
  refine ⟨first, second, script, hfirst, hsecond, hscript, ?_, ?_, ?_, ?_, hwrong, moved, hmoved,
    hcode, htext, hline⟩
  · rw [hget, if_pos (by decide +kernel)]
  · rw [hget, if_neg (by decide +kernel), if_pos (by decide +kernel)]
  · rw [hget, if_neg (by decide +kernel), if_neg (by decide +kernel), if_pos rfl]
  · rw [hget, if_neg (by decide +kernel), if_neg (by decide +kernel), if_neg (by decide),
      if_neg (by decide)]

end Joined

end Script

end DialogueScript
