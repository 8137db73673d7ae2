import DialogueScript.Proofs.Script.Faults
import DialogueScript.Proofs.Script.Renumbering

/-!
# Blanks in a source

What a source is compiled to depends on the blanks in it in two ways only: which lines are blank or
indented, and what is left of the others between the blanks at their ends (`SameLine`). How far and
by what a line is indented has no part in it, nor have blanks at its end, of which a carriage return
in front of the line feed is one (`blocks_eq_fields`). Further blank lines move what is reported, if
none is put above an indented line (`compile_respaced`).
-/

namespace DialogueScript

namespace Text

/-- A blank line is one of which trimming leaves nothing. -/
theorem isBlankLine_iff (t : Text) : isBlankLine t = true ↔ trim t = [] := by
  constructor
  · intro h
    have happend := trim_append h []
    rwa [List.append_nil, trim_nil] at happend
  · intro h
    by_contra hblank
    exact trim_ne_nil (by simpa using hblank) h

/-- An unindented line has its blanks at the end. -/
theorem trim_eq_trimEnd {t : Text} (h : t.head?.any isBlank = false) : trim t = trimEnd t := by
  rw [trim, trimStart_eq_self h]

end Text

namespace Script

/-! ## Lines that only differ in blanks -/

/-- Both lines are blank, or both are indented with the same text, or neither is and their texts
are the same up to blanks at their ends. -/
inductive SameLine (line other : Text) : Prop
  | blank (hline : Text.isBlankLine line = true) (hother : Text.isBlankLine other = true)
  | indented (hline : line.head?.any Text.isBlank = true)
    (hother : other.head?.any Text.isBlank = true) (h : Text.trim line = Text.trim other)
  | unindented (hline : line.head?.any Text.isBlank = false)
    (hother : other.head?.any Text.isBlank = false) (h : Text.trimEnd line = Text.trimEnd other)

instance (line other : Text) : Decidable (SameLine line other) :=
  decidable_of_iff
    (Text.isBlankLine line = true ∧ Text.isBlankLine other = true ∨
      line.head?.any Text.isBlank = true ∧ other.head?.any Text.isBlank = true ∧
        Text.trim line = Text.trim other ∨
      line.head?.any Text.isBlank = false ∧ other.head?.any Text.isBlank = false ∧
        Text.trimEnd line = Text.trimEnd other)
    ⟨fun h => by
      rcases h with ⟨hline, hother⟩ | ⟨hline, hother, htrim⟩ | ⟨hline, hother, htrim⟩
      · exact .blank hline hother
      · exact .indented hline hother htrim
      · exact .unindented hline hother htrim,
    fun h => by
      cases h with
      | blank hline hother => exact .inl ⟨hline, hother⟩
      | indented hline hother htrim => exact .inr (.inl ⟨hline, hother, htrim⟩)
      | unindented hline hother htrim => exact .inr (.inr ⟨hline, hother, htrim⟩)⟩

section SameLine

variable {line other blanks : Text} {lines others : List Text}

/-- Such lines have the same part in the scan. -/
theorem SameLine.cases (h : SameLine line other) :
    Text.isBlankLine line = true ∧ Text.isBlankLine other = true ∨
      Continues line ∧ Continues other ∧ Text.trim line = Text.trim other ∨
      Opens line ∧ Opens other ∧ Text.trimEnd line = Text.trimEnd other := by
  have hsame (htrim : Text.trim line = Text.trim other) :
      Text.isBlankLine line = Text.isBlankLine other := by
    rw [Bool.eq_iff_iff, Text.isBlankLine_iff, Text.isBlankLine_iff, htrim]
  cases h with
  | blank hline hother => exact .inl ⟨hline, hother⟩
  | indented hline hother htrim =>
    cases hblank : Text.isBlankLine line with
    | true => exact .inl ⟨rfl, hsame htrim ▸ hblank⟩
    | false => exact .inr (.inl ⟨⟨hblank, hline⟩, ⟨hsame htrim ▸ hblank, hother⟩, htrim⟩)
  | unindented hline hother htrim =>
    have hsame : Text.isBlankLine line = Text.isBlankLine other :=
      hsame (by rw [Text.trim_eq_trimEnd hline, Text.trim_eq_trimEnd hother, htrim])
    cases hblank : Text.isBlankLine line with
    | true => exact .inl ⟨rfl, hsame ▸ hblank⟩
    | false => exact .inr (.inr ⟨⟨hblank, hline⟩, ⟨hsame ▸ hblank, hother⟩, htrim⟩)

theorem SameLine.refl (line : Text) : SameLine line line := by
  cases hline : line.head?.any Text.isBlank with
  | true => exact .indented hline hline rfl
  | false => exact .unindented hline hline rfl

/-- Blanks at the end of a line. -/
theorem SameLine.append (h : blanks.all Text.isBlank = true) (line : Text) :
    SameLine line (line ++ blanks) := by
  cases line with
  | nil => exact .blank rfl h
  | cons c line =>
    cases hindented : Text.isBlank c with
    | true => exact .indented hindented hindented (Text.trim_append_right h _).symm
    | false => exact .unindented hindented hindented (Text.trimEnd_append h _).symm

/-- A carriage return at the end of a line is a blank. -/
theorem SameLine.dropReturn (line : Text) : SameLine (Text.dropReturn line) line := by
  rw [Text.dropReturn]
  split
  next hlast =>
    obtain ⟨front, rfl⟩ := List.getLast?_eq_some_iff.mp hlast
    rw [List.dropLast_concat]
    exact .append (by decide) front
  next => exact .refl line

/-- **Lines that only differ in blanks have the same blocks**, or the same problem. -/
theorem blocksFrom_congr (h : List.Forall₂ SameLine lines others) (number : Nat)
    (current : Option Block) :
    blocksFrom number current lines = blocksFrom number current others := by
  induction h generalizing number current with
  | nil => rfl
  | cons hfirst _ ih =>
    rcases hfirst.cases with ⟨hline, hother⟩ | ⟨hline, hother, htrim⟩ | ⟨hline, hother, htrim⟩
    · rw [blocksFrom_blank hline, blocksFrom_blank hother, ih]
    · cases current with
      | none => rw [blocksFrom_continues_none hline, blocksFrom_continues_none hother, htrim]
      | some block => rw [blocksFrom_continues hline, blocksFrom_continues hother, htrim, ih]
    · rw [blocksFrom_opens hline, blocksFrom_opens hother, blocksBelow, blocksBelow, htrim, ih]

/-- The blocks of a source are those of what stands between its line feeds. -/
theorem blocks_eq_fields (source : Text) :
    blocks source = blocksFrom 1 none (Text.splitAll '\n' source) := by
  obtain ⟨front, last, hfields⟩ :=
    (List.eq_nil_or_concat _).resolve_left (Text.splitAll_ne_nil '\n' source)
  -- only the last field has no line feed behind it, and keeps a carriage return
  have hfront : List.Forall₂ SameLine (front.map Text.dropReturn) front :=
    List.forall₂_map_left_iff.mpr (List.forall₂_same.mpr fun line _ => .dropReturn line)
  rw [List.concat_eq_append] at hfields
  rw [blocks, Text.lines, hfields, List.dropLast_concat, List.getLast?_concat, Option.getD_some]
  split
  next hlast =>
    -- no line stands behind the last line feed
    rw [List.isEmpty_iff.mp hlast, List.append_nil, blocksFrom_congr hfront,
      blocksFrom_append_blank rfl]
    exact (blocksThen_ok_nil _).symm
  next => exact blocksFrom_congr (List.rel_append hfront (.cons (.refl last) .nil)) 1 none

end SameLine

/-! ## Blank lines -/

section Spaced

variable {parts : List (List Text × Text)} {last : List Text} {i : Nat}

/-- A line is found in its new place. -/
theorem getElem?_spaced (h : i < parts.length) :
    (spaced parts last)[placeOf parts (i + 1) - 1]? = (parts.map (·.2))[i]? := by
  induction parts generalizing i with
  | nil => simp at h
  | cons part parts ih =>
    obtain ⟨gap, line⟩ := part
    rw [spaced_cons]
    cases i with
    | zero => simp [placeOf]
    | succ i =>
      have hplace : placeOf ((gap, line) :: parts) (i + 1 + 1) - 1
          = gap.length + (placeOf parts (i + 1) - 1 + 1) := by
        rw [placeOf, placeOf, List.take_succ_cons, List.flatMap_cons, List.length_append]
        dsimp only
        omega
      rw [hplace, List.getElem?_append_right (Nat.le_add_right ..), Nat.add_sub_cancel_left,
        List.getElem?_cons_succ, List.map_cons, List.getElem?_cons_succ]
      exact ih (by simpa using h)

end Spaced

/-- The problem of a source in which blank lines were put in is told of the moved line. -/
theorem compile_spaced {source loose : Text} {parts : List (List Text × Text)} {last : List Text}
    (h : Loosens parts last) (hsource : Text.lines source = parts.map (·.2))
    (hloose : Text.lines loose = spaced parts last) :
    compile loose = (compile source).mapError (Problem.mapLine (placeOf parts)) := by
  have hblocks : blocks loose = renumbered (placeOf parts) (blocks source) := by
    rw [blocks, blocks, hsource, hloose]
    exact blocksFrom_spaced h (fun k => by rw [placeOf, Nat.add_comm 1]) none
  rw [compile, compile, hblocks, renumbered_bind_defineBlocks]

/-- **Layout does not matter.** Sources whose lines, or the texts between their line feeds, differ
in blanks only are compiled to the same script or have the same problem. And blank lines that are
put in, none directly above an indented line, change no script that is found and nothing of a
problem but the number of its line, which is that of the same line in its new place. -/
theorem compile_respaced (source other : Text) :
    (List.Forall₂ SameLine (Text.lines source) (Text.lines other) →
      compile source = compile other) ∧
    (List.Forall₂ SameLine (Text.splitAll '\n' source) (Text.splitAll '\n' other) →
      compile source = compile other) ∧
    ∀ parts last, Loosens parts last → Text.lines source = parts.map (·.2) →
      Text.lines other = spaced parts last →
      (∀ script, compile source = .ok script → compile other = .ok script) ∧
      ∀ problem, compile source = .error problem → ∃ moved, compile other = .error moved ∧
        moved.kind = problem.kind ∧ moved.code = problem.code ∧
        moved.message = problem.message ∧ moved.text? = problem.text? ∧
        ∃ number, problem.line? = some number ∧ moved.line? = some (placeOf parts number) ∧
          (Text.lines other)[placeOf parts number - 1]? = (Text.lines source)[number - 1]? := by
  refine ⟨fun h => ?_, fun h => ?_, fun parts last h hsource hother => ?_⟩
  · rw [compile, compile, blocks, blocks, blocksFrom_congr h]
  · rw [compile, compile, blocks_eq_fields, blocks_eq_fields, blocksFrom_congr h]
  · have hspaced := compile_spaced h hsource hother
    refine ⟨fun script hscript => ?_, fun problem hproblem => ?_⟩
    · rw [hspaced, hscript]
      rfl
    · obtain ⟨above, below, line, hlines, hpoints⟩ := exists_pointsAt_of_compile hproblem
      refine ⟨problem.mapLine (placeOf parts), ?_, by simp, by simp, by simp, by simp,
        above.length + 1, hpoints.number, by simp [hpoints.number], ?_⟩
      · rw [hspaced, hproblem]
        rfl
      · have hlength : above.length < parts.length := by
          have hcount := congrArg List.length (hsource.symm.trans hlines)
          simp at hcount
          omega
        rw [hother, hsource, getElem?_spaced hlength, Nat.add_sub_cancel]

/-- Tabs, carriage returns and blanks at the end, an empty line on top, and then blank lines around
a wrong variable. -/
theorem compile_respaced_tabs :
    let source : Text := "start\n  Hi?\n  REST -> ask\nask\n  More?\n  REST -> end\n".toList
    let tabbed : Text :=
      "start \t\r\n\tHi? \r\n\t\tREST -> ask\r\nask\r\n \tMore?\r\n\tREST -> end\r\n".toList
    let topped : List (List Text × Text) := [([[]], "start".toList), ([], "  Hi?".toList),
      ([], "  REST -> ask".toList), ([], "ask".toList), ([], "  More?".toList),
      ([], "  REST -> end".toList)]
    let wrong : Text := "start\n  Hi?\nask\n  More?\n  $bad name$ <- 1\n".toList
    let loose : Text := "\n\t\nstart\n  Hi?\n \n\nask\n  More?\n  $bad name$ <- 1\n\n".toList
    let parts : List (List Text × Text) := [([[], ['\t']], "start".toList), ([], "  Hi?".toList),
      ([[' '], []], "ask".toList), ([], "  More?".toList), ([], "  $bad name$ <- 1".toList)]
    let problem : Problem := .source .variableName "$bad name$".toList 5
    Loosens topped [] ∧ Loosens parts [[]] ∧
    (∃ script, compile source = .ok script ∧ compile tabbed = .ok script ∧
      compile (tabbed ++ ['\t']) = .ok script ∧ compile ('\n' :: source) = .ok script) ∧
    compile wrong = .error problem ∧
    ∃ moved, compile loose = .error moved ∧ moved.code = problem.code ∧
      moved.text? = some "$bad name$".toList ∧ moved.line? = some 9 ∧
      (Text.lines loose)[8]? = some "  $bad name$ <- 1".toList := by
  intro source tabbed topped wrong loose parts problem
  have hsource : (compile source).toOption.isSome = true := by decide +kernel
  obtain ⟨script, hscript⟩ := Option.isSome_iff_exists.mp hsource
  have hscript : compile source = .ok script := eq_ok_of_toOption hscript
  have htabbed : compile source = compile tabbed :=
    (compile_respaced source tabbed).1 (by decide +kernel)
  have hfields : compile source = compile (tabbed ++ ['\t']) :=
    (compile_respaced source (tabbed ++ ['\t'])).2.1 (by decide +kernel)
  have htopped : Loosens topped [] := by decide
  have hloosens : Loosens parts [[]] := by decide
  have hwrong : compile wrong = .error problem := by decide +kernel
  obtain ⟨moved, hmoved, -, hcode, -, htext, number, hnumber, hline, hplace⟩ :=
    ((compile_respaced wrong loose).2.2 parts [[]] hloosens (by decide +kernel)
      (by decide +kernel)).2 problem hwrong
  obtain rfl : 5 = number := Option.some.inj hnumber
  refine ⟨htopped, hloosens, ⟨script, hscript, htabbed ▸ hscript, hfields ▸ hscript, ?_⟩, hwrong,
    moved, hmoved, hcode, htext, hline, hplace⟩
  exact ((compile_respaced source ('\n' :: source)).2.2 topped [] htopped (by decide +kernel)
    (by decide +kernel)).1 script hscript

end Script

end DialogueScript
