import DialogueScript.Host
import DialogueScript.Script.Basic
import DialogueScript.Template
import DialogueScript.Text.Escape

/-!
# The engine

The state of a conversation over a script. Between two operations the engine is not started, or
waits for a response or for the result of a host call, or has ended.
-/

namespace DialogueScript

/-- What the engine asks for next. -/
inductive Output
  | prompt (text : Text)
  | retry (text : Text)
  | call (name : Text)
  | finish
  deriving DecidableEq, Repr

/-- A turn: the state to go to, and the first assignment of the state being left that has not been
made yet. -/
structure Turn where
  target : Text
  next : Nat
  deriving DecidableEq, Repr

/-- What an engine waits for: a response to an output, or the result of a host call in the midst
of a turn. -/
inductive Boundary
  | response (output : Output)
  | call (name : Text) (turn : Turn)
  deriving DecidableEq, Repr

/-- What does not change in the course of a conversation. -/
structure Settings where
  script : Script
  hosts : HostRegistry
  /-- Are host calls left to whoever runs the conversation? -/
  deferCalls : Bool
  /-- The text in front of a prompt that is repeated. -/
  retryPreface : Text
  /-- Are escapes decoded in what is shown? -/
  decodeEscapes : Bool

/-- The text in front of a prompt that is repeated, unless another is set. -/
def Settings.defaultPreface : Text := "Sorry, I didn't get that. ".toList

/-- The settings with everything as usual. -/
def Settings.ofScript (script : Script) : Settings :=
  { script := script
    hosts := .empty
    deferCalls := false
    retryPreface := defaultPreface
    decodeEscapes := true }

/-- A conversation. -/
structure Engine where
  environment : Environment
  boundary : Option Boundary
  ended : Bool
  /-- The problems recovered from since the last turn began. -/
  diagnostics : List Problem
  /-- The host calls made so far, the last one first. -/
  called : List Text
  deriving DecidableEq

namespace Engine

/-- A conversation that has not started. -/
def initial : Engine :=
  { environment := Environment.initial Name.start
    boundary := none
    ended := false
    diagnostics := []
    called := [] }

/-- A new conversation. The script must have the states in which conversations start and end. -/
def new (settings : Settings) : Except Problem Engine :=
  if !settings.script.contains Name.start then .error (.stateMissing Name.start)
  else if !settings.script.contains Name.finish then .error (.stateMissing Name.finish)
  else .ok initial

/-- The key of the current state. -/
def state (engine : Engine) : Text := engine.environment.state

/-- The host call that the conversation waits for. -/
def waitingCall (engine : Engine) : Option Text :=
  match engine.boundary with
  | some (.call name _) => some name
  | _ => none

/-- What the engine waits for. -/
def currentOutput (engine : Engine) : Except Problem Output :=
  if engine.ended then .ok .finish
  else
    match engine.boundary with
    | some (.response output) => .ok output
    | some (.call name _) => .ok (.call name)
    | none => .error .notStarted

/-- Takes the recorded problems away. -/
def takeDiagnostics (engine : Engine) : List Problem × Engine :=
  (engine.diagnostics, { engine with diagnostics := [] })

/-- Records problems. -/
def record (engine : Engine) (problems : List Problem) : Engine :=
  { engine with diagnostics := engine.diagnostics ++ problems }

/-- Binds a variable. -/
def bind (engine : Engine) (name : Text) (value : Value) : Engine :=
  { engine with environment := engine.environment.bind name value }

/-- Renders a template to be shown, recording what is wrong with it. -/
def render (settings : Settings) (engine : Engine) (template : Text) : Text × Engine :=
  let (text, problems) := Template.renderNoting engine.environment template
  (if settings.decodeEscapes then Text.Escape.decode text else text, engine.record problems)

/-- Waits for a response to an output. -/
def await (engine : Engine) (output : Output) : Except Problem Output × Engine :=
  (.ok output, { engine with boundary := some (.response output) })

end Engine

end DialogueScript
