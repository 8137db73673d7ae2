import DialogueScript.Engine.Create

/-!
# Sessions

A session is a conversation that one player holds alone: the player gives the responses and also
the results of the host calls, and can start over.
-/

namespace DialogueScript

/-- A conversation with a player. -/
structure Session where
  script : Script
  engine : Engine
  deriving DecidableEq

namespace Session

/-- The settings of the conversation: the player answers the host calls. -/
def settings (session : Session) : Settings := Settings.callerAnswered session.script

/-- A session over a script, with the conversation started. -/
def start (script : Script) : Except Problem Session := do
  return ⟨script, ← Engine.create (Settings.callerAnswered script)⟩

/-- What the conversation waits for. -/
def output (session : Session) : Except Problem Output := session.engine.currentOutput

/-- The result of an operation: the next output or the problem, and the session after it. -/
abbrev Result := Except Problem Output × Session

/-- Submits a line without the blanks around it. It is the result of the host call that the
conversation waits for, if it waits for one, and otherwise a response. -/
def submit (session : Session) (line : Text) : Result :=
  let input := Text.trim line
  let (result, engine) :=
    match session.engine.waitingCall with
    | some _ => session.engine.completeCall session.settings input
    | none => session.engine.respond session.settings input
  (result, { session with engine := engine })

/-- Starts the conversation over. -/
def restart (session : Session) : Result :=
  match start session.script with
  | .ok fresh => (fresh.output, fresh)
  | .error problem => (.error problem, session)

/-- Takes the recorded problems away. -/
def takeDiagnostics (session : Session) : List Problem × Session :=
  let (problems, engine) := session.engine.takeDiagnostics
  (problems, { session with engine := engine })

end Session

/-- What a player can ask for instead of submitting a line. -/
inductive Command
  | help
  | restart
  | quit
  deriving DecidableEq, Repr

namespace Command

/-- The command that a line gives, if it gives one. -/
def ofLine? (line : Text) : Option Command :=
  let word := Text.trim line
  if word = ":help".toList then some help
  else if word = ":restart".toList then some restart
  else if word = ":quit".toList then some quit
  else none

/-- The list of the commands. -/
def summary : Text := "commands: :help :restart :quit".toList

end Command

end DialogueScript
