import DialogueScript.Json.Basic
import DialogueScript.Script.Basic

/-!
# Scripts as JSON

A script is an object with its states. Names, keys, targets and guards are taken as they are; a
pattern must be one.
-/

namespace DialogueScript

/-- How deep the arrays and objects of a record that tells its kind may nest. -/
def Json.taggedDepth : Nat := 122

/-- A record that tells its kind, read as a whole before anything is asked of it. -/
def Json.soundTagged? (json : Json) : Option (Text × Json) :=
  if json.isSound && json.depth ≤ taggedDepth then json.tagged? else none

/-- The key of a transition as JSON. -/
def TransitionKey.toJson : TransitionKey → Json
  | pattern p =>
    .ofFields [("kind", .text "pattern".toList), ("pattern", .text p.source)]
  | guarded p guard =>
    .ofFields [("kind", .text "guardedPattern".toList), ("pattern", .text p.source),
      ("guard", .text guard)]
  | wildcard => .ofFields [("kind", .text "wildcard".toList)]

/-- The key of a transition from JSON. -/
def TransitionKey.ofJson? (json : Json) : Option TransitionKey := do
  let (kind, rest) ← json.soundTagged?
  if kind = "pattern".toList then
    match ← rest.record? ["pattern"] 1 with
    | [some source] =>
      let p ← Pattern.restore? (← source.text?)
      return .pattern p
    | _ => none
  else if kind = "guardedPattern".toList then
    match ← rest.record? ["pattern", "guard"] 2 with
    | [some source, some guard] =>
      let p ← Pattern.restore? (← source.text?)
      return .guarded p (← guard.text?)
    | _ => none
  else if kind = "wildcard".toList then
    let _ ← rest.record? [] 0
    return .wildcard
  else none

/-- A transition as JSON. -/
def Transition.toJson (transition : Transition) : Json :=
  .ofFields [("key", transition.key.toJson), ("target", .text transition.target)]

/-- A transition from JSON. -/
def Transition.ofJson? (json : Json) : Option Transition := do
  match ← json.record? ["key", "target"] 2 with
  | [some key, some target] => return ⟨← TransitionKey.ofJson? key, ← target.text?⟩
  | _ => none

/-- An assignment as JSON. -/
def Assignment.toJson (assignment : Assignment) : Json :=
  .ofFields [("target", .text assignment.target), ("value", .text assignment.value)]

/-- An assignment from JSON. -/
def Assignment.ofJson? (json : Json) : Option Assignment := do
  match ← json.record? ["target", "value"] 2 with
  | [some target, some value] => return ⟨← target.text?, ← value.text?⟩
  | _ => none

/-- A text or `null` as JSON. -/
def Json.ofText? : Option Text → Json
  | some t => .text t
  | none => .null

/-- A text that may be missing or `null`. -/
def Json.optionalText? : Option Json → Option (Option Text)
  | none | some .null => some none
  | some (.text t) => some (some t)
  | some _ => none

/-- A state as JSON. -/
def ScriptState.toJson (state : ScriptState) : Json :=
  .ofFields [
    ("prompt", .text state.prompt),
    ("transitions", .array (state.transitions.map (·.toJson))),
    ("assignments", .array (state.assignments.map (·.toJson))),
    ("retry", .ofText? state.retry)]

/-- A state from JSON. -/
def ScriptState.ofJson? (json : Json) : Option ScriptState := do
  match ← json.record? ["prompt", "transitions", "assignments", "retry"] 4 with
  | [some prompt, some transitions, some assignments, retry] =>
    return {
      prompt := ← prompt.text?
      transitions := ← (← transitions.items?).mapM Transition.ofJson?
      assignments := ← (← assignments.items?).mapM Assignment.ofJson?
      retry := ← Json.optionalText? retry }
  | _ => none

/-- A script as JSON. -/
def Script.toJson (script : Script) : Json :=
  .ofFields [("states", .object
    (script.states.entries.map fun (key, state) => (some key, state.toJson)))]

/-- A script from JSON. -/
def Script.ofJson? (json : Json) : Option Script := do
  match ← json.record? ["states"] 1 with
  | [some (.object fields)] =>
    let states ← fields.mapM fun (key, value) => do
      return (← key, ← ScriptState.ofJson? value)
    return ⟨Table.ofList states⟩
  | _ => none

end DialogueScript
