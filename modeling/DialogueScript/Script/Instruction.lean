import DialogueScript.Expr.Kind
import DialogueScript.Problem
import DialogueScript.Script.Basic

/-!
# Instructions

The lines of a block behind its prompt: `# text` for responses that no transition accepts,
`pattern -> target` for transitions and `variable <- text` for assignments, tried in this order.
The pattern of a transition is quoted and may have a guard behind it; `REST` is the wildcard.

Main statement: `splitLast_append` (a text is split where the separator last stands).
-/

namespace DialogueScript.Script

/-- An instruction. -/
inductive Instruction
  | retry (text : Text)
  | transition (transition : Transition)
  | assignment (assignment : Assignment)
  deriving DecidableEq

/-- The parts before and after the last occurrence of `separator`. -/
def splitLast (separator : Text) : Text → Option (Text × Text)
  | [] => none
  | c :: rest =>
    match splitLast separator rest with
    | some (before, after) => some (c :: before, after)
    | none =>
      if separator.isPrefixOf (c :: rest) then
        some ([], (c :: rest).drop separator.length)
      else none

theorem splitLast_eq_none {separator t : Text} (h : ¬ separator <:+: t) :
    splitLast separator t = none := by
  induction t with
  | nil => rfl
  | cons c rest ih =>
    rw [splitLast, ih fun hinside => h (hinside.trans (List.suffix_cons c rest).isInfix)]
    refine if_neg fun hfirst => h ?_
    exact (List.isPrefixOf_iff_prefix.mp hfirst).isInfix

theorem splitLast_append {separator after : Text} (before : Text) (hne : separator ≠ [])
    (h : ¬ separator <:+: separator.tail ++ after) :
    splitLast separator (before ++ separator ++ after) = some (before, after) := by
  induction before with
  | nil =>
    cases separator with
    | nil => exact absurd rfl hne
    | cons c rest =>
      have hafter : splitLast (c :: rest) (rest ++ after) = none := splitLast_eq_none h
      rw [List.nil_append, List.cons_append, splitLast, hafter]
      dsimp only
      rw [← List.cons_append, if_pos (List.isPrefixOf_iff_prefix.mpr (List.prefix_append _ _)),
        List.drop_left]
  | cons c before ih => rw [List.cons_append, List.cons_append, splitLast, ih]

theorem splitLast_eq_some {separator t before after : Text}
    (h : splitLast separator t = some (before, after)) : t = before ++ separator ++ after := by
  induction t generalizing before after with
  | nil => cases h
  | cons c rest ih =>
    rw [splitLast] at h
    split at h
    next front back hrest =>
      obtain ⟨rfl, rfl⟩ := Prod.mk.inj (Option.some.inj h)
      rw [List.cons_append, List.cons_append, ← ih hrest]
    next =>
      split at h
      next hfirst =>
        obtain ⟨tail, htail⟩ := List.isPrefixOf_iff_prefix.mp hfirst
        obtain ⟨rfl, rfl⟩ := Prod.mk.inj (Option.some.inj h)
        rw [← htail, List.drop_left, List.nil_append]
      next => cases h

theorem splitLast_eq_none_iff {separator t : Text} (hne : separator ≠ []) :
    splitLast separator t = none ↔ ¬ separator <:+: t := by
  refine ⟨fun h => ?_, splitLast_eq_none⟩
  induction t with
  | nil => simpa using hne
  | cons c rest ih =>
    rw [splitLast] at h
    split at h
    · cases h
    next hrest =>
      split at h
      · cases h
      next hfirst =>
        rw [List.infix_cons_iff, not_or, ← List.isPrefixOf_iff_prefix]
        exact ⟨hfirst, ih hrest⟩

/-- A quoted text with a guard behind it. The last quote, comma and blank divide them, so a guard
holds no quote in front of a comma. -/
def splitGuarded : Text → Option (Text × Text)
  | '"' :: rest => splitLast ['"', ',', ' '] rest
  | _ => none

/-- The inside of a quoted text. -/
def unquote : Text → Option Text
  | '"' :: rest => if rest.getLast? = some '"' then some rest.dropLast else none
  | _ => none

/-- The pattern on a line. -/
def patternOn (line : Nat) (source : Text) : Except Problem Pattern :=
  match Pattern.ofSource? source with
  | some pattern => .ok pattern
  | none => .error (.pattern source (some line))

/-- The key of a transition as it is written. -/
def readKey (line : Nat) (t : Text) : Except Problem TransitionKey :=
  if t = "REST".toList then .ok .wildcard
  else
    match splitGuarded t with
    | some (source, guard) =>
      if Expr.isWellFormed .boolean guard then do
        let pattern ← patternOn line source
        return .guarded pattern guard
      else .error (.source .guard guard line)
    | none =>
      match unquote t with
      | some source => do
        let pattern ← patternOn line source
        return .pattern pattern
      | none => .error (.source .transition t line)

/-- The instruction on a line without blanks around it. -/
def readInstruction (line : Nat) (t : Text) : Except Problem Instruction :=
  match t with
  | '#' :: rest => .ok (.retry (Text.trim rest))
  | t =>
    match Text.splitOnce ['-', '>'] t with
    | some (left, right) =>
      let target := Text.trim right
      if Name.isStateKey target then do
        let key ← readKey line (Text.trim left)
        return .transition ⟨key, target⟩
      else .error (.source .target target line)
    | none =>
      match Text.splitOnce ['<', '-'] t with
      | some (left, right) =>
        let target := Text.trim left
        if Name.isVariable target then .ok (.assignment ⟨target, Text.trim right⟩)
        else .error (.source .variableName target line)
      | none => .error (.source .unrecognized t line)

end DialogueScript.Script
