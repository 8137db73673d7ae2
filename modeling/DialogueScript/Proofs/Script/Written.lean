import DialogueScript.Proofs.Script.Recompile
import Mathlib.Data.List.Infix

/-!
# What lines say

What a line of a block says (`Instruction.IsOn`) and what all of them say together
(`ScriptState.IsWritten`), in terms of the texts alone. A line is an instruction exactly if it says
one (`readInstruction_eq_ok_iff`), and the state of a block is what its lines say
(`isWritten_of_state`): the first of them is the prompt, and the others are told apart by their
marks and kept in their order.
-/

namespace DialogueScript

/-- A trimmed text on one line is plain. -/
theorem Text.plain_trim {t : Text} (h : '\n' ∉ t) : (Text.trim t).Plain where
  line hmem := h ((trim_isInfix t).subset hmem)
  head := head?_trim t
  last := getLast?_trim t

namespace Script

/-! ## Keys -/

section Key

variable {line : Nat} {t source guard : Text} {p : Pattern} {key : TransitionKey}

/-- A pattern has the source that it was read from. -/
theorem source_of_patternOn (h : patternOn line source = .ok p) : p.source = source := by
  unfold patternOn at h
  split at h
  next found hfound =>
    obtain rfl := Except.ok.inj h
    exact Pattern.source_ofSource? hfound
  next => cases h

/-- A guard stands behind the quoted pattern, a comma and a blank. -/
theorem eq_of_splitGuarded (h : splitGuarded t = some (source, guard)) :
    t = '"' :: source ++ ['"', ',', ' '] ++ guard := by
  unfold splitGuarded at h
  split at h
  next rest => rw [splitLast_eq_some h]; rfl
  next => cases h

/-- What is unquoted stood between quotes. -/
theorem eq_of_unquote (h : unquote t = some source) : t = '"' :: source ++ ['"'] := by
  unfold unquote at h
  split at h
  next rest =>
    split at h
    next hlast =>
      obtain ⟨front, rfl⟩ := List.getLast?_eq_some_iff.mp hlast
      rw [List.dropLast_concat] at h
      rw [Option.some.inj h]
      rfl
    next => cases h
  next => cases h

/-- A text is a key exactly if it is how the key is written and tells it. -/
theorem readKey_eq_ok_iff : readKey line t = .ok key ↔ key.text = t ∧ key.IsSeparable := by
  refine ⟨fun h => ?_, fun ⟨htext, hseparable⟩ => htext ▸ readKey_text hseparable line⟩
  unfold readKey at h
  split at h
  next ht =>
    obtain rfl := Except.ok.inj h
    exact ⟨ht.symm, trivial⟩
  next =>
    split at h
    next source guard hsplit =>
      split at h
      next hguard =>
        obtain ⟨p, hp, h⟩ := bind_eq_ok h
        obtain rfl := Except.ok.inj h
        refine ⟨?_, hguard⟩
        rw [eq_of_splitGuarded hsplit, ← source_of_patternOn hp]
        rfl
      next => cases h
    next hunguarded =>
      split at h
      next source hunquote =>
        obtain ⟨p, hp, h⟩ := bind_eq_ok h
        obtain rfl := Except.ok.inj h
        have ht := eq_of_unquote hunquote
        rw [← source_of_patternOn hp] at ht
        -- a separator in the pattern would have been split at
        refine ⟨ht.symm, fun hinside => ?_⟩
        rw [ht] at hunguarded
        refine (splitLast_eq_none_iff (by simp)).mp hunguarded ?_
        exact hinside.trans (List.infix_append [] p.source ['"'])
      next => cases h

end Key

end Script

/-! ## Lines -/

/-- What a line of a block holds behind the prompt. -/
inductive LineKind
  | retry
  | transition
  | assignment
  deriving DecidableEq, Repr

namespace LineKind

/-- A line holds what the first of its marks tells. -/
def of (line : Text) : LineKind :=
  if line.head? = some '#' then retry
  else if ['-', '>'] <:+: line then transition
  else assignment

/-- The lines of one kind, in their order. -/
def lines (kind : LineKind) (body : List Text) : List Text := body.filter (of · = kind)

theorem of_retry {line : Text} (h : line.head? = some '#') : of line = retry := if_pos h

theorem of_transition {line : Text} (hhead : line.head? ≠ some '#') (h : ['-', '>'] <:+: line) :
    of line = transition := (if_neg hhead).trans (if_pos h)

theorem of_assignment {line : Text} (hhead : line.head? ≠ some '#') (h : ¬ ['-', '>'] <:+: line) :
    of line = assignment := (if_neg hhead).trans (if_neg h)

/-- Every line is of one kind. -/
theorem length_lines (body : List Text) : body.length =
    (transition.lines body).length + (assignment.lines body).length
      + (retry.lines body).length := by
  induction body with
  | nil => rfl
  | cons line rest ih =>
    simp only [lines, List.filter_cons, List.length_cons] at ih ⊢
    cases of line <;> simp <;> omega

end LineKind

namespace Script

namespace Instruction

/-- The kind of line that holds an instruction. -/
def kind : Instruction → LineKind
  | retry _ => .retry
  | transition _ => .transition
  | assignment _ => .assignment

/-- The text for responses that no transition accepts. -/
def retry? : Instruction → Option Text
  | retry t => some t
  | transition _ | assignment _ => none

def transition? : Instruction → Option Transition
  | transition t => some t
  | retry _ | assignment _ => none

def assignment? : Instruction → Option Assignment
  | assignment a => some a
  | retry _ | transition _ => none

/-- A line says an instruction: `# text`, `key -> target` with the first arrow of the line, or
`variable <- value` with the first sign of a line without an arrow. -/
inductive IsOn (line : Text) : Instruction → Prop
  | retry (hhead : line.head? = some '#') : IsOn line (retry (Text.trim line.tail))
  | transition {left right : Text} {key : TransitionKey} (hhead : line.head? ≠ some '#')
    (hline : line = left ++ ['-', '>'] ++ right) (hfirst : ¬ ['-', '>'] <:+: left ++ ['-'])
    (htext : key.text = Text.trim left) (hkey : key.IsSeparable)
    (htarget : Name.isStateKey (Text.trim right) = true) :
    IsOn line (transition ⟨key, Text.trim right⟩)
  | assignment {left right : Text} (hhead : line.head? ≠ some '#')
    (harrow : ¬ ['-', '>'] <:+: line)
    (hline : line = left ++ ['<', '-'] ++ right) (hfirst : ¬ ['<', '-'] <:+: left ++ ['<'])
    (hname : Name.isVariable (Text.trim left) = true) :
    IsOn line (assignment ⟨Text.trim left, Text.trim right⟩)

/-- The kind of a line decides which instruction can be on it. -/
theorem IsOn.kind_eq {line : Text} {instruction : Instruction} (h : instruction.IsOn line) :
    LineKind.of line = instruction.kind := by
  cases h with
  | retry hhead => exact LineKind.of_retry hhead
  | transition hhead hline =>
    exact LineKind.of_transition hhead (hline ▸ List.infix_append _ _ _)
  | assignment hhead harrow => exact LineKind.of_assignment hhead harrow

end Instruction

/-- **A line is an instruction exactly if it says one.** -/
theorem readInstruction_eq_ok_iff {number : Nat} {line : Text} {instruction : Instruction} :
    readInstruction number line = .ok instruction ↔ instruction.IsOn line := by
  constructor
  · -- a line that is read takes one of the three branches that succeed
    intro h
    unfold readInstruction at h
    split at h
    next rest =>
      obtain rfl := Except.ok.inj h
      exact .retry rfl
    next hmark =>
      have hhead : line.head? ≠ some '#' := fun hhead => by
        obtain ⟨rest, rfl⟩ := List.head?_eq_some_iff.mp hhead
        exact hmark rest rfl
      split at h
      next left right harrow =>
        dsimp only at h
        split at h
        next htarget =>
          obtain ⟨key, hkey, h⟩ := bind_eq_ok h
          obtain rfl := Except.ok.inj h
          obtain ⟨hline, hfirst⟩ := (Text.splitOnce_eq_some_iff (by simp)).mp harrow
          obtain ⟨htext, hseparable⟩ := readKey_eq_ok_iff.mp hkey
          exact .transition hhead hline hfirst htext hseparable htarget
        next => cases h
      next hnone =>
        split at h
        next left right hsign =>
          dsimp only at h
          split at h
          next hname =>
            obtain rfl := Except.ok.inj h
            obtain ⟨hline, hfirst⟩ := (Text.splitOnce_eq_some_iff (by simp)).mp hsign
            exact .assignment hhead ((Text.splitOnce_eq_none_iff (by simp)).mp hnone) hline hfirst
              hname
          next => cases h
        next => cases h
  · -- what a line says decides which branch reads it
    intro h
    cases h with
    | retry hhead =>
      obtain ⟨rest, rfl⟩ := List.head?_eq_some_iff.mp hhead
      rfl
    | transition hhead hline hfirst htext hkey htarget =>
      have hsplit := (Text.splitOnce_eq_some_iff (by simp)).mpr ⟨hline, hfirst⟩
      rw [readInstruction_of_arrow hhead hsplit]
      dsimp only
      rw [if_pos htarget, ← htext, readKey_text hkey]
      rfl
    | assignment hhead harrow hline hfirst hname =>
      have hsplit := (Text.splitOnce_eq_some_iff (by simp)).mpr ⟨hline, hfirst⟩
      rw [readInstruction_of_assignment hhead (Text.splitOnce_eq_none harrow) hsplit]
      exact if_pos hname

namespace Instruction

variable {line : Text} {instruction other : Instruction}

/-- A line says one instruction at most. -/
theorem IsOn.unique (h : instruction.IsOn line) (hother : other.IsOn line) : instruction = other :=
  Except.ok.inj ((@readInstruction_eq_ok_iff 0 _ _).mpr h |>.symm.trans
    (readInstruction_eq_ok_iff.mpr hother))

end Instruction

/-! ## Bodies -/

/-- The lines of a body say a state: the first is its prompt, and the others, kind by kind and in
their order, are its transitions and assignments and, the last of them, its text for responses that
no transition accepts. -/
structure IsWritten (body : List Text) (state : ScriptState) : Prop where
  prompt : body.head? = some state.prompt
  transitions : List.Forall₂ (fun line t => (Instruction.transition t).IsOn line)
    (LineKind.transition.lines body.tail) state.transitions
  assignments : List.Forall₂ (fun line a => (Instruction.assignment a).IsOn line)
    (LineKind.assignment.lines body.tail) state.assignments
  retry : state.retry
    = (LineKind.retry.lines body.tail).getLast?.map fun line => Text.trim line.tail

section Body

variable {body : List Text} {state other : ScriptState}

/-- Every line of a body goes somewhere. -/
theorem IsWritten.length (h : IsWritten body state) : body.length =
    1 + state.transitions.length + state.assignments.length
      + (LineKind.retry.lines body.tail).length := by
  have hbody : body.length = 1 + body.tail.length := by
    cases body with
    | nil => cases h.prompt
    | cons prompt rest => rw [List.length_cons, List.tail_cons, Nat.add_comm]
  rw [hbody, LineKind.length_lines, h.transitions.length_eq, h.assignments.length_eq]
  omega

/-- The lines of a body say one state at most. -/
theorem IsWritten.unique (h : IsWritten body state) (hother : IsWritten body other) :
    state = other := by
  have htransitions : state.transitions = other.transitions := by
    refine Relator.RightUnique.forall₂ (fun line one two hone htwo => ?_) h.transitions
      hother.transitions
    exact Instruction.transition.inj (hone.unique htwo)
  have hassignments : state.assignments = other.assignments := by
    refine Relator.RightUnique.forall₂ (fun line one two hone htwo => ?_) h.assignments
      hother.assignments
    exact Instruction.assignment.inj (hone.unique htwo)
  obtain ⟨prompt, transitions, assignments, retry⟩ := state
  obtain ⟨otherPrompt, otherTransitions, otherAssignments, otherRetry⟩ := other
  obtain rfl : prompt = otherPrompt := Option.some.inj (h.prompt.symm.trans hother.prompt)
  obtain rfl : retry = otherRetry := h.retry.trans hother.retry.symm
  exact congrArg₂ (ScriptState.mk prompt · · retry) htransitions hassignments

/-- Instructions are added to a state each at the end of its kind. -/
theorem foldl_addTo (instructions : List Instruction) (state : ScriptState) :
    instructions.foldl (fun state i => i.addTo state) state =
      { state with
        transitions := state.transitions ++ instructions.filterMap Instruction.transition?
        assignments := state.assignments ++ instructions.filterMap Instruction.assignment?
        retry := (instructions.filterMap Instruction.retry?).getLast?.or state.retry } := by
  induction instructions generalizing state with
  | nil => simp
  | cons instruction rest ih =>
    rw [List.foldl_cons, ih]
    cases instruction with
    | retry text =>
      -- a retry replaces the one before
      have hlast : (text :: rest.filterMap Instruction.retry?).getLast?
          = (rest.filterMap Instruction.retry?).getLast?.or (some text) := by
        rw [List.getLast?_cons]
        cases (rest.filterMap Instruction.retry?).getLast? <;> rfl
      simp [Instruction.addTo, Instruction.transition?, Instruction.assignment?,
        Instruction.retry?, List.filterMap_cons, hlast]
    | transition t =>
      simp [Instruction.addTo, Instruction.transition?, Instruction.assignment?,
        Instruction.retry?, List.filterMap_cons]
    | assignment a =>
      simp [Instruction.addTo, Instruction.transition?, Instruction.assignment?,
        Instruction.retry?, List.filterMap_cons]

/-- Lines that were added to a state had one instruction each. -/
theorem isOn_of_addLines {lines : List Line} {result : ScriptState}
    (h : addLines state lines = .ok result) :
    ∃ instructions : List Instruction,
      List.Forall₂ (fun line i => i.IsOn line) (lines.map (·.text)) instructions ∧
        result = instructions.foldl (fun state i => i.addTo state) state := by
  induction lines generalizing state with
  | nil => exact ⟨[], .nil, (Except.ok.inj h).symm⟩
  | cons line rest ih =>
    rw [addLines] at h
    obtain ⟨instruction, hread, h⟩ := bind_eq_ok h
    obtain ⟨instructions, hrest, hresult⟩ := ih h
    exact ⟨instruction :: instructions, .cons (readInstruction_eq_ok_iff.mp hread) hrest, hresult⟩

/-- What instructions of one kind give is what the lines of that kind say. -/
theorem forall₂_lines {α : Type} {Says : Text → α → Prop} {kind : LineKind}
    {select : Instruction → Option α} {lines : List Text} {instructions : List Instruction}
    (h : List.Forall₂ (fun line i => i.IsOn line) lines instructions)
    (hselect : ∀ line instruction, instruction.IsOn line →
      if instruction.kind = kind then ∃ given, select instruction = some given ∧ Says line given
      else select instruction = none) :
    List.Forall₂ Says (kind.lines lines) (instructions.filterMap select) := by
  induction h with
  | nil => exact .nil
  | cons hfirst _ ih =>
    have hgiven := hselect _ _ hfirst
    rw [LineKind.lines, List.filter_cons, hfirst.kind_eq]
    split at hgiven
    next hkind =>
      obtain ⟨given, hgiven, hsays⟩ := hgiven
      rw [if_pos (decide_eq_true hkind), List.filterMap_cons_some hgiven]
      exact .cons hsays ih
    next hkind =>
      rw [if_neg (by simpa using hkind), List.filterMap_cons_none hgiven]
      exact ih

/-- **The state of a block is what its lines say.** -/
theorem isWritten_of_state {block : Block} (hbody : block.body ≠ [])
    (h : block.state = .ok state) : IsWritten (block.body.map (·.text)) state := by
  unfold Block.state at h
  split at h
  next hnil => exact absurd hnil hbody
  next prompt lines hlines =>
    obtain ⟨instructions, hsay, rfl⟩ := isOn_of_addLines h
    rw [foldl_addTo, hlines]
    refine ⟨rfl, forall₂_lines hsay ?_, forall₂_lines hsay ?_, ?_⟩
    · -- transitions
      intro line instruction hline
      cases instruction with
      | transition t => exact ⟨t, rfl, hline⟩
      | retry _ | assignment _ => rfl
    · -- assignments
      intro line instruction hline
      cases instruction with
      | assignment a => exact ⟨a, rfl, hline⟩
      | retry _ | transition _ => rfl
    · -- of several retries the last one stays
      have hretries : List.Forall₂ (fun line text => Text.trim line.tail = text)
          (LineKind.retry.lines (lines.map (·.text)))
          (instructions.filterMap Instruction.retry?) := by
        refine forall₂_lines hsay fun line instruction hline => ?_
        cases hline with
        | retry => exact ⟨_, rfl, rfl⟩
        | transition | assignment => rfl
      have hall : (LineKind.retry.lines (lines.map (·.text))).map (fun line => Text.trim line.tail)
          = instructions.filterMap Instruction.retry? := by
        rw [← List.forall₂_eq_eq_eq, List.forall₂_map_left_iff]
        exact hretries
      rw [← hall, List.getLast?_map]
      exact Option.or_none

end Body

end Script

end DialogueScript
