import DialogueScript.CommandLine.Arguments
import DialogueScript.CommandLine.Check
import DialogueScript.CommandLine.Transcript
import DialogueScript.Session.LineMode

/-!
# Answers

What a command writes, and the code it ends with: zero if all went well, one if there was a fault,
and two if the arguments make no sense.
-/

namespace DialogueScript.CommandLine

/-- The answer to a command. -/
structure Answer where
  code : Nat
  written : Text
  deriving DecidableEq, Repr

namespace Answer

/-- Lines, each with its end. -/
def textOf (lines : List Text) : Text := lines.flatMap fun line => line ++ ['\n']

/-- The answer to a command that went well. -/
def ofLines (lines : List Text) : Answer := ⟨0, textOf lines⟩

/-- The answer to a command that met a fault. -/
def ofFault (fault : Fault) : Answer := ⟨1, textOf fault.lines⟩

/-- The lines or the fault of a command. -/
def ofResult : Except Fault (List Text) → Answer
  | .ok lines => ofLines lines
  | .error fault => ofFault fault

/-- A problem as the fault of a command. -/
def liftProblem {α : Type} : Except Problem α → Except Fault α
  | .ok a => .ok a
  | .error problem => .error (.problem problem)

/-- Reads and compiles a script. -/
def readCompiled (workspace : Workspace) (path : Text) : Except Fault Script := do
  let file ← workspace.readScript path
  liftProblem (Script.compile file.source)

/-- The lines of a run. -/
def runLines (workspace : Workspace) (path : Text) (responses results : List Text) :
    Except Fault (List Text) := do
  let script ← readCompiled workspace path
  let transcript ← liftProblem (Transcript.ofScript script responses results)
  return transcript.lines

/-- The scripts to be checked. -/
def sources (workspace : Workspace) : Source → Except Fault (List SourceFile)
  | .script path => do return [← workspace.readScript path]
  | .folder path => workspace.readFolder path

/-- The lines of a check. -/
def checkLines (workspace : Workspace) (source : Source) (dump : Bool) :
    Except Fault (List Text) := do
  let files ← sources workspace source
  let reports ← files.mapM (Report.ofSource dump)
  return "RESULT:OK".toList :: reports.flatMap (·.lines)

/-- The session that a player gets. -/
def openSession (workspace : Workspace) (path : Text) : Except Fault Session := do
  let script ← readCompiled workspace path
  liftProblem (Session.start script)

/-- The end of a session in line mode: its code, and what is still to be written. -/
def ofLineMode (mode : LineMode) : Answer :=
  match mode.problem? with
  | some problem => ofFault (.problem problem)
  | none => ⟨0, []⟩

/-- The answer to a player who types this input. -/
def play (workspace : Workspace) (path input : Text) : Answer :=
  match openSession workspace path with
  | .error fault => ofFault fault
  | .ok session =>
    let (text, mode) := LineMode.play session input
    let rest := ofLineMode mode
    { rest with written := text ++ rest.written }

/-- The answer to a request. -/
def ofRequest (workspace : Workspace) (input : Text) : Request → Answer
  | .run script responses results => ofResult (runLines workspace script responses results)
  | .check source dump => ofResult (checkLines workspace source dump)
  | .play script => play workspace script input

/-- The text that explains the arguments. -/
def help : Text :=
  textOf [
    "Runs dialogue scripts.".toList,
    [],
    "Commands:".toList,
    "  run --script FILE [--response TEXT]... [--call-result TEXT]...".toList,
    "  check (--script FILE | --scripts-dir FOLDER) [--dump]".toList,
    "  play --script FILE [--line-mode]".toList,
    [],
    "Options:".toList,
    "  --log-level LEVEL  what is logged".toList,
    "  -h, --help         this text".toList]

/-- The answer when there is no request. -/
def ofRefusal : Refusal → Answer
  | .help => ⟨0, help⟩
  | .usage => ⟨2, []⟩

/-- The answer to arguments and an input. -/
def ofArguments (workspace : Workspace) (arguments : List Text) (input : Text) : Answer :=
  match Request.ofArguments arguments with
  | .ok request => ofRequest workspace input request
  | .error refusal => ofRefusal refusal

end Answer

end DialogueScript.CommandLine
