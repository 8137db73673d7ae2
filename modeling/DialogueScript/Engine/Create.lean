import DialogueScript.Engine.Step
import DialogueScript.Script.Inspect

/-!
# Starting conversations
-/

namespace DialogueScript

/-- Settings for whoever answers the host calls: all calls of the script are declared, and each is
left to the caller. -/
def Settings.callerAnswered (script : Script) : Settings :=
  { Settings.ofScript script with
    hosts := .declare script.hostCalls
    deferCalls := true }

/-- A conversation that has started. -/
def Engine.create (settings : Settings) : Except Problem Engine := do
  let engine ← Engine.new settings
  match engine.start settings with
  | (.ok _, engine) => return engine
  | (.error problem, _) => .error problem

end DialogueScript
