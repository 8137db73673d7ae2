import DialogueScript.Name
import DialogueScript.Pattern
import DialogueScript.Table

/-!
# Scripts

A script is a table of states. A state has a prompt, transitions to other states, assignments that
are made when it is left, and perhaps a text of its own for responses that no transition accepts.

A transition with a pattern is taken by responses in which the pattern is found; the wildcard is
taken by what no other transition accepts.
-/

namespace DialogueScript

/-- Which responses a transition accepts. -/
inductive TransitionKey
  | pattern (pattern : Pattern)
  | guarded (pattern : Pattern) (guard : Text)
  | wildcard
  deriving DecidableEq

namespace TransitionKey

/-- The pattern of a key; the wildcard has the one that matches nothing. -/
def search : TransitionKey → Pattern
  | pattern p => p
  | guarded p _ => p
  | wildcard => Pattern.wildcard

/-- The guard of a key, if it has one. -/
def guard? : TransitionKey → Option Text
  | guarded _ guard => some guard
  | pattern _ | wildcard => none

/-- Is it the wildcard? -/
def isWildcard : TransitionKey → Bool
  | wildcard => true
  | pattern _ | guarded _ _ => false

end TransitionKey

/-- A transition to another state. -/
structure Transition where
  key : TransitionKey
  target : Text
  deriving DecidableEq

/-- The assignment of a text, still to be rendered, to a variable. -/
structure Assignment where
  target : Text
  value : Text
  deriving DecidableEq, Repr

/-- A state of a conversation. -/
structure ScriptState where
  prompt : Text
  transitions : List Transition
  assignments : List Assignment
  retry : Option Text
  deriving DecidableEq

namespace ScriptState

/-- A state that only has a prompt. -/
def ofPrompt (prompt : Text) : ScriptState := ⟨prompt, [], [], none⟩

/-- The target of the wildcard; of several the last counts. -/
def wildcardTarget (state : ScriptState) : Option Text :=
  (state.transitions.reverse.find? (·.key.isWildcard)).map (·.target)

/-- The transitions that are tried in order. -/
def ordered (state : ScriptState) : List Transition :=
  state.transitions.filter fun transition => !transition.key.isWildcard

end ScriptState

/-- A script. -/
structure Script where
  states : Table ScriptState
  deriving DecidableEq

namespace Script

/-- The state under a key. -/
def get? (script : Script) (key : Text) : Option ScriptState := script.states.get? key

/-- Is there a state under the key? -/
def contains (script : Script) (key : Text) : Bool := script.states.contains key

/-- The script with a state defined anew. -/
def define (script : Script) (key : Text) (state : ScriptState) : Script :=
  ⟨script.states.insert key state⟩

/-- The state in which a conversation starts unless a script defines it. -/
def defaultStart : ScriptState :=
  { ScriptState.ofPrompt "No start defined.".toList with
    transitions := [⟨.wildcard, Name.finish⟩] }

/-- The state that ends a conversation unless a script defines it. -/
def defaultFinish : ScriptState := ScriptState.ofPrompt []

/-- The script that only has the default states. -/
def seeded : Script :=
  ⟨(Table.empty.insert Name.start defaultStart).insert Name.finish defaultFinish⟩

end Script

end DialogueScript
