import DialogueScript.Engine.Basic
import DialogueScript.Json.Writer
import DialogueScript.Script.Json

/-!
# Outputs as JSON

An output is written as a record that tells its kind.

Main statement: `ofJson?_toJson` (an output that was written reads back).
-/

namespace DialogueScript.Output

/-- The JSON form of an output. -/
def toJson : Output → Json
  | prompt text => .ofFields [("kind", .text "prompt".toList), ("text", .text text)]
  | retry text => .ofFields [("kind", .text "retry".toList), ("text", .text text)]
  | call name => .ofFields [("kind", .text "call".toList), ("name", .text name)]
  | finish => .ofFields [("kind", .text "end".toList)]

/-- The one field of a record, if it is a text. -/
def oneText? (name : String) (json : Json) : Option Text := do
  match ← json.record? [name] 1 with
  | [some value] => value.text?
  | _ => none

/-- An output from its JSON form. -/
def ofJson? (json : Json) : Option Output := do
  let (kind, rest) ← json.soundTagged?
  if kind = "prompt".toList then return .prompt (← oneText? "text" rest)
  else if kind = "retry".toList then return .retry (← oneText? "text" rest)
  else if kind = "call".toList then return .call (← oneText? "name" rest)
  else if kind = "end".toList then
    let _ ← rest.record? [] 0
    return .finish
  else none

theorem ofJson?_toJson (output : Output) : ofJson? output.toJson = some output := by
  cases output <;> rfl

end DialogueScript.Output
