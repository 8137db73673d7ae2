import DialogueScript.Script.Basic

/-!
# Inspecting scripts

What can be said of a script without running it: targets that are no states, states that cannot be
reached, and the calls to the host.
-/

namespace DialogueScript.Script

/-- The targets of the transitions of a state. -/
def targets (script : Script) (key : Text) : List Text :=
  match script.get? key with
  | some state => state.transitions.map (·.target)
  | none => []

/-- The transitions to what is no state, as state and target. -/
def unresolved (script : Script) : List (Text × Text) :=
  script.states.entries.flatMap fun (key, state) =>
    (state.transitions.filter fun transition => !script.contains transition.target).map
      fun transition => (key, transition.target)

/-- Visits the pending keys and what they lead to; what is left of `unvisited`. -/
def explore (script : Script) : List Text → List Text → List Text
  | [], unvisited => unvisited
  | key :: pending, unvisited =>
    if key ∈ unvisited then explore script (script.targets key ++ pending) (unvisited.erase key)
    else explore script pending unvisited
termination_by pending unvisited => (unvisited.length, pending.length)
decreasing_by
  · rename_i h
    apply Prod.Lex.left
    rw [List.length_erase_of_mem h]
    have := List.length_pos_of_mem h
    omega
  · apply Prod.Lex.right
    simp

/-- The states that no path of transitions from the start leads to. -/
def unreachable (script : Script) : List Text :=
  script.explore [Name.start] script.states.keys

/-- The names of the calls to the host, ascending and each once. -/
def hostCalls (script : Script) : List Text :=
  let assignments := script.states.values.flatMap (·.assignments)
  let calls := assignments.filter fun assignment => assignment.target == Name.call
  (Table.ofList (calls.map fun assignment => (Text.trim assignment.value, ()))).keys

end DialogueScript.Script
