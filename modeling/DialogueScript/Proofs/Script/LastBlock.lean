import DialogueScript.Proofs.Script.Written

/-!
# What a source defines

The blocks of a source are its unindented lines with the indented lines below each (`headed`),
however a block ends. Compiling loses, merges and reorders none of them: what stands under a key is
what the lines of the last block with that key say, and nothing else is defined but the states that
every script has (`compile_last`).
-/

namespace DialogueScript

namespace Script

/-! ## Blocks of lines -/

/-- The body of a block above some lines. -/
def bodyBelow (lines : List Text) : List Text := (lines.takeWhile (Continues ·)).map Text.trim

/-- The blocks of lines: the key that opens each, and its body. -/
def headed : List Text → List (Text × List Text)
  | [] => []
  | line :: rest =>
    if Opens line then (Text.trimEnd line, bodyBelow rest) :: headed rest else headed rest

/-- The block that is open above some lines. -/
def openPart (current : Option Block) (lines : List Text) : List (Text × List Text) :=
  current.toList.map fun block => (block.key, block.body.map (·.text) ++ bodyBelow lines)

/-- A block has a key and a body. -/
structure Block.Has (part : Text × List Text) (block : Block) : Prop where
  key : block.key = part.1
  body : block.body.map (·.text) = part.2
  isStateKey : Name.isStateKey block.key = true
  ne_nil : block.body ≠ []

section Lines

variable {line : Text} {rest lines : List Text} {current : Option Block}

theorem bodyBelow_of_not (h : ¬ Continues line) : bodyBelow (line :: rest) = [] := by
  rw [bodyBelow, List.takeWhile_cons_of_neg (by simpa using h), List.map_nil]

/-- An indented line belongs to the body above it. -/
theorem bodyBelow_of_continues (h : Continues line) :
    bodyBelow (line :: rest) = Text.trim line :: bodyBelow rest := by
  rw [bodyBelow, List.takeWhile_cons_of_pos (by simpa using h), List.map_cons, bodyBelow]

/-- A line that opens a block heads the lines below it. -/
theorem headed_of_opens (h : Opens line) :
    headed (line :: rest) = (Text.trimEnd line, bodyBelow rest) :: headed rest := if_pos h

theorem headed_of_not (h : ¬ Opens line) : headed (line :: rest) = headed rest := if_neg h

/-- A block is closed with the body that it has. -/
theorem has_of_closeBlock {closed : List Block} (h : closeBlock current = .ok closed)
    (hcurrent : ∀ block ∈ current, Name.isStateKey block.key = true)
    (hbody : bodyBelow lines = []) :
    List.Forall₂ Block.Has (openPart current lines) closed := by
  cases current with
  | none =>
    obtain rfl := Except.ok.inj h
    exact .nil
  | some block =>
    rw [closeBlock] at h
    split at h
    next => cases h
    next hne =>
      obtain rfl := Except.ok.inj h
      refine .cons ⟨rfl, ?_, hcurrent block rfl, by simpa using hne⟩ .nil
      rw [hbody]
      exact (List.append_nil _).symm

/-- **The blocks that are found are the blocks of the lines**, the open one with what is still to
come of it. -/
theorem has_of_blocksFrom {number : Nat} {found : List Block}
    (h : blocksFrom number current lines = .ok found)
    (hcurrent : ∀ block ∈ current, Name.isStateKey block.key = true) :
    List.Forall₂ Block.Has (openPart current lines ++ headed lines) found := by
  induction lines generalizing number current found with
  | nil =>
    rw [headed, List.append_nil]
    exact has_of_closeBlock h hcurrent rfl
  | cons line rest ih =>
    rcases line_cases line with hblank | hcontinues | hopens
    · -- a blank line closes the block and opens none
      rw [blocksFrom_blank hblank] at h
      obtain ⟨closed, more, hclosed, hmore, rfl⟩ := blocksThen_eq_ok h
      rw [headed_of_not (not_opens_of_blank hblank)]
      exact List.rel_append (has_of_closeBlock hclosed hcurrent
        (bodyBelow_of_not (not_continues_of_blank hblank))) (ih hmore (by simp))
    · -- an indented line goes to the block that is open
      rw [headed_of_not fun hopens => not_continues_of_opens hopens hcontinues]
      cases current with
      | none =>
        rw [blocksFrom_continues_none hcontinues] at h
        cases h
      | some block =>
        rw [blocksFrom_continues hcontinues] at h
        have hpushed := ih h fun pushed hpushed => by
          obtain rfl := Option.some.inj hpushed
          exact hcurrent block rfl
        simpa [openPart, Block.push, bodyBelow_of_continues hcontinues] using hpushed
    · -- any other line closes the block and opens the next
      rw [blocksFrom_opens hopens] at h
      obtain ⟨closed, more, hclosed, hmore, rfl⟩ := blocksThen_eq_ok h
      rw [blocksBelow] at hmore
      split at hmore
      next hkey =>
        have hnext := ih hmore fun block hblock => by
          obtain rfl := Option.some.inj hblock
          exact hkey
        rw [headed_of_opens hopens]
        exact List.rel_append (has_of_closeBlock hclosed hcurrent
          (bodyBelow_of_not (not_continues_of_opens hopens))) hnext
      next => cases hmore

/-- The lines below an opening one have blocks of their own. -/
theorem headed_append (before lines : List Text) :
    ∃ earlier, headed (before ++ lines) = earlier ++ headed lines := by
  induction before with
  | nil => exact ⟨[], rfl⟩
  | cons line before ih =>
    obtain ⟨earlier, hearlier⟩ := ih
    rw [List.cons_append]
    by_cases hopens : Opens line
    · rw [headed_of_opens hopens, hearlier]
      exact ⟨_ :: earlier, rfl⟩
    · rw [headed_of_not hopens, hearlier]
      exact ⟨earlier, rfl⟩

/-- The keys of the parts are the lines that open blocks. -/
theorem map_fst_headed (lines : List Text) :
    (headed lines).map (·.1) = (lines.filter (Opens ·)).map Text.trimEnd := by
  induction lines with
  | nil => rfl
  | cons line rest ih =>
    by_cases hopens : Opens line
    · rw [headed_of_opens hopens, List.filter_cons_of_pos (by simpa using hopens), List.map_cons,
        List.map_cons, ih]
    · rw [headed_of_not hopens, List.filter_cons_of_neg (by simpa using hopens), ih]

end Lines

/-! ## Related lists -/

section Related

variable {α β γ : Type} {R : α → β → Prop} {S : β → γ → Prop} {T : α → γ → Prop}

/-- Members that are related through those of a third list are related. -/
theorem forall₂_trans (h : ∀ a b c, R a b → S b c → T a c) {l : List α} {m : List β}
    {n : List γ} (hleft : List.Forall₂ R l m) (hright : List.Forall₂ S m n) :
    List.Forall₂ T l n := by
  induction hleft generalizing n with
  | nil =>
    cases hright
    exact .nil
  | cons hfirst _ ih =>
    cases hright with
    | cons hnext hrest => exact .cons (h _ _ _ hfirst hnext) (ih hrest)

/-- What is related to a list has a member for each of its members. -/
theorem exists_of_forall₂_append {before after : List α} {a : α} {m : List β}
    (h : List.Forall₂ R (before ++ a :: after) m) :
    ∃ front b back, m = front ++ b :: back ∧ R a b ∧ List.Forall₂ R after back := by
  induction before generalizing m with
  | nil =>
    cases h with
    | cons hfirst hrest => exact ⟨[], _, _, rfl, hfirst, hrest⟩
  | cons first before ih =>
    cases h with
    | cons hfirst hrest =>
      obtain ⟨front, b, back, rfl, hb, hback⟩ := ih hrest
      exact ⟨_ :: front, b, back, rfl, hb, hback⟩

/-- What both lists have in common. -/
theorem map_eq_of_forall₂ {δ : Type} {f : α → δ} {g : β → δ} {l : List α} {m : List β}
    (h : List.Forall₂ R l m) (hsame : ∀ a b, R a b → g b = f a) : m.map g = l.map f := by
  induction h with
  | nil => rfl
  | cons hfirst _ ih => rw [List.map_cons, List.map_cons, hsame _ _ hfirst, ih]

/-- Every member on the right has one on the left. -/
theorem exists_of_forall₂_mem {l : List α} {m : List β} (h : List.Forall₂ R l m) {b : β}
    (hb : b ∈ m) : ∃ a ∈ l, R a b := by
  induction h with
  | nil => cases hb
  | cons hfirst _ ih =>
    rcases List.mem_cons.mp hb with rfl | hrest
    · exact ⟨_, List.mem_cons_self .., hfirst⟩
    · obtain ⟨a, ha, hrel⟩ := ih hrest
      exact ⟨a, List.mem_cons_of_mem _ ha, hrel⟩

/-- A list in which something is found has a last place where it is. -/
theorem exists_last {P : α → Prop} {l : List α} (h : ∃ a ∈ l, P a) :
    ∃ before a after, l = before ++ a :: after ∧ P a ∧ ∀ b ∈ after, ¬ P b := by
  induction l with
  | nil => simp at h
  | cons first rest ih =>
    by_cases hrest : ∃ a ∈ rest, P a
    · obtain ⟨before, a, after, rfl, ha, hafter⟩ := ih hrest
      exact ⟨first :: before, a, after, rfl, ha, hafter⟩
    · obtain ⟨a, hmem, ha⟩ := h
      rcases List.mem_cons.mp hmem with rfl | hmem
      · exact ⟨[], a, rest, rfl, ha, fun b hb hholds => hrest ⟨b, hb, hholds⟩⟩
      · exact absurd ⟨a, hmem, ha⟩ hrest

end Related

/-! ## The states of blocks -/

/-- An entry of a script says what a block says. -/
structure Says (part : Text × List Text) (entry : Text × ScriptState) : Prop where
  key : entry.1 = part.1
  isStateKey : Name.isStateKey entry.1 = true
  written : IsWritten part.2 entry.2

section Compile

variable {source key : Text} {script : Script}

/-- Blocks that are defined mean a state each, and the states are defined in turn. -/
theorem means_of_defineBlocks {blocks : List Block} {base defined : Script}
    (h : defineBlocks base blocks = .ok defined) :
    ∃ states, List.Forall₂ Means blocks states ∧ defined = base.defineAll states := by
  induction blocks generalizing base with
  | nil => exact ⟨[], .nil, (Except.ok.inj h).symm⟩
  | cons block rest ih =>
    rw [defineBlocks] at h
    obtain ⟨state, hstate, h⟩ := bind_eq_ok h
    obtain ⟨states, hmeans, rfl⟩ := ih h
    exact ⟨(block.key, state) :: states, .cons ⟨rfl, hstate⟩ hmeans, rfl⟩

/-- **What a source defines**: a state for each block of its lines, in their order. -/
theorem says_of_compile (h : compile source = .ok script) :
    ∃ states, List.Forall₂ Says (headed (Text.lines source)) states ∧
      script = seeded.defineAll states := by
  obtain ⟨blocks, hblocks, h⟩ := bind_eq_ok h
  obtain ⟨states, hmeans, rfl⟩ := means_of_defineBlocks h
  refine ⟨states, ?_, rfl⟩
  have hhas : List.Forall₂ Block.Has (headed (Text.lines source)) blocks :=
    has_of_blocksFrom hblocks (by simp)
  refine forall₂_trans (fun part block entry hhas hmeans => ?_) hhas hmeans
  obtain ⟨hkey, hstate⟩ := hmeans
  exact
    { key := hkey ▸ hhas.key
      isStateKey := hkey ▸ hhas.isStateKey
      written := hhas.body ▸ isWritten_of_state hhas.ne_nil hstate }

theorem keys_eq_of_forall₂ {parts : List (Text × List Text)} {states : List (Text × ScriptState)}
    (h : List.Forall₂ Says parts states) : states.map (·.1) = parts.map (·.1) :=
  map_eq_of_forall₂ h fun _ _ hsays => hsays.key

/-- The last definition of a key counts. -/
theorem get?_defineAll_last {before after : List (Text × ScriptState)} {state : ScriptState}
    (h : key ∉ after.map (·.1)) (base : Script) :
    (base.defineAll (before ++ (key, state) :: after)).get? key = some state := by
  rw [defineAll, List.foldl_append, List.foldl_cons]
  exact (get?_defineAll_of_notMem h _).trans (Table.get?_insert_self _ _ _)

/-- A line opens a block of a key. -/
def Heads (key line : Text) : Prop := Opens line ∧ Text.trimEnd line = key

instance (key : Text) : DecidablePred (Heads key) := fun _ => inferInstanceAs (Decidable (_ ∧ _))

/-- A key heads a part if some line is that key. -/
theorem mem_keys_headed_iff {lines : List Text} :
    key ∈ (headed lines).map (·.1) ↔ ∃ line ∈ lines, Heads key line := by
  simp [map_fst_headed, Heads, and_assoc]

/-- Before any block there are the start and the end. -/
theorem get?_seeded (key : Text) : seeded.get? key =
    if key = Name.finish then some defaultFinish
    else if key = Name.start then some defaultStart else none := by
  rw [get?, seeded, Table.get?_insert, Table.get?_insert, Table.get?_empty]
  simp only [@eq_comm _ key]

/-- **Compiling loses, merges and reorders nothing**: what stands under a key that opens a block is
the one state that the lines of the last such block say, each line in its place; under any other key
stand the states that every script has, and nothing else. -/
theorem compile_last (h : compile source = .ok script) (key : Text) :
    ((∃ line ∈ Text.lines source, Heads key line) →
      ∃ before head after state, Text.lines source = before ++ head :: after ∧ Heads key head ∧
        (∀ line ∈ after, ¬ Heads key line) ∧ script.get? key = some state ∧
        IsWritten (bodyBelow after) state ∧
        (∀ other, IsWritten (bodyBelow after) other → other = state) ∧
        (bodyBelow after).length = 1 + state.transitions.length + state.assignments.length
          + (LineKind.retry.lines (bodyBelow after).tail).length) ∧
    ((∀ line ∈ Text.lines source, ¬ Heads key line) → script.get? key =
      if key = Name.finish then some defaultFinish
      else if key = Name.start then some defaultStart else none) := by
  obtain ⟨states, hsays, rfl⟩ := says_of_compile h
  refine ⟨fun hheads => ?_, fun hnone => ?_⟩
  · obtain ⟨before, head, after, hlines, hhead, hlast⟩ := exists_last hheads
    obtain ⟨earlier, hheaded⟩ := headed_append before (head :: after)
    rw [hlines, hheaded, headed_of_opens hhead.1] at hsays
    obtain ⟨front, ⟨entryKey, state⟩, back, rfl, hstate, hback⟩ := exists_of_forall₂_append hsays
    obtain rfl : entryKey = key := hstate.key.trans hhead.2
    have hkey : entryKey ∉ back.map (·.1) := by
      rw [keys_eq_of_forall₂ hback, mem_keys_headed_iff]
      exact fun ⟨line, hline, hheads⟩ => hlast line hline hheads
    exact ⟨before, head, after, state, hlines, hhead, hlast, get?_defineAll_last hkey seeded,
      hstate.written, fun other hother => hother.unique hstate.written, hstate.written.length⟩
  · have hkey : key ∉ states.map (·.1) := by
      rw [keys_eq_of_forall₂ hsays, mem_keys_headed_iff]
      exact fun ⟨line, hline, hheads⟩ => hnone line hline hheads
    rw [get?_defineAll_of_notMem hkey, get?_seeded]

/-- A start that is defined twice, with the same transition twice and two texts of its own. -/
theorem compile_last_redefined :
    let source : Text := ("start\n  Old?\n  REST -> start\nstart\n  New? \n  # No.\n" ++
      "  REST -> end\n\t$n$ <- 1\n  REST -> end\n  # Again.\n\n").toList
    let script : Script := seeded.define Name.start
      { prompt := "New?".toList
        transitions := [⟨.wildcard, Name.finish⟩, ⟨.wildcard, Name.finish⟩]
        assignments := [⟨"$n$".toList, ['1']⟩]
        retry := some "Again.".toList }
    compile source = .ok script ∧ script.get? Name.finish = some defaultFinish ∧
    ∃ before head after state, Text.lines source = before ++ head :: after ∧
      Heads Name.start head ∧ (∀ line ∈ after, ¬ Heads Name.start line) ∧
      script.get? Name.start = some state ∧ IsWritten (bodyBelow after) state ∧
      (bodyBelow after).length = 4 + (LineKind.retry.lines (bodyBelow after).tail).length := by
  intro source script
  have hcompile : compile source = .ok script := eq_ok_of_toOption (by decide +kernel)
  obtain ⟨before, head, after, state, hlines, hhead, hlast, hstate, hwritten, -, hlength⟩ :=
    (compile_last hcompile Name.start).1 (by decide +kernel)
  have hunheaded : ∀ line ∈ Text.lines source, ¬ Heads Name.finish line := by decide +kernel
  have hfinish := (compile_last hcompile Name.finish).2 hunheaded
  obtain rfl : _ = state := Option.some.inj hstate
  exact ⟨hcompile, hfinish, before, head, after, _, hlines, hhead, hlast, hstate, hwritten, hlength⟩

end Compile

end Script

end DialogueScript
