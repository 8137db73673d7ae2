import DialogueScript.Session.Basic

/-!
# Line mode

A session on a line terminal: every output is written after the problems that came up on the way
to it, and a line is read after it, until the conversation ends or the player quits.

The state between two lines is a value, and a line takes it to the next one together with what is
written meanwhile; so the same definitions serve a whole script of lines and a live terminal.
-/

namespace DialogueScript

/-- Where a session in line mode stands. -/
inductive LineMode.Status
  /-- A line is read next; this output was written last. -/
  | reading (output : Output)
  | finished
  | failed (problem : Problem)
  deriving DecidableEq, Repr

/-- A session in line mode. -/
structure LineMode where
  session : Session
  status : LineMode.Status
  deriving DecidableEq

namespace LineMode

/-- The mark in front of a line that is read. -/
def mark : Text := "> ".toList

/-- A line that is written. -/
def writtenLine (t : Text) : Text := t ++ ['\n']

/-- The line about a problem that was recovered from. -/
def warning (problem : Problem) : Text :=
  "[warn ".toList ++ problem.code ++ "] ".toList ++ problem.message

/-- The line that an output is written as. -/
def outputLine : Output → Text
  | .prompt text | .retry text => text
  | .call name => "[call ".toList ++ name ++ "] enter the result".toList
  | .finish => "[END]".toList

/-- Writes the recorded problems and an output, and the mark if there is more to come. -/
def present (session : Session) (output : Output) : Text × LineMode :=
  let (problems, session) := session.takeDiagnostics
  let text := problems.flatMap (writtenLine ∘ warning) ++ writtenLine (outputLine output)
  match output with
  | .finish => (text, ⟨session, .finished⟩)
  | output => (text ++ mark, ⟨session, .reading output⟩)

/-- Presents the output of an operation, or stops at its problem. -/
def presentResult : Session.Result → Text × LineMode
  | (.ok output, session) => present session output
  | (.error problem, session) => ([], ⟨session, .failed problem⟩)

/-- Opens line mode: the commands and the first output. -/
def start (session : Session) : Text × LineMode :=
  let (text, mode) := presentResult (session.output, session)
  (writtenLine Command.summary ++ text, mode)

/-- Reads a line. Nothing happens once the session is over. -/
def feed (mode : LineMode) (line : Text) : Text × LineMode :=
  match mode.status with
  | .finished | .failed _ => ([], mode)
  | .reading output =>
    match Command.ofLine? line with
    | some .help =>
      let (text, mode) := present mode.session output
      (writtenLine Command.summary ++ text, mode)
    | some .restart =>
      let (text, mode) := presentResult mode.session.restart
      (writtenLine "restarted".toList ++ text, mode)
    | some .quit => (writtenLine "bye".toList, { mode with status := .finished })
    | none => presentResult (mode.session.submit line)

/-- Reads lines one after the other. -/
def feedAll (mode : LineMode) : List Text → Text × LineMode
  | [] => ([], mode)
  | line :: rest =>
    let (text, mode) := mode.feed line
    let (more, mode) := mode.feedAll rest
    (text ++ more, mode)

/-- A line without the line feed and the carriage returns at its end. -/
def dropReturns (line : Text) : Text := (line.reverse.dropWhile (· == '\r')).reverse

/-- The lines of an input. -/
def linesOf (input : Text) : List Text :=
  let fields := Text.splitAll '\n' input
  let fields := if fields.getLast? = some [] then fields.dropLast else fields
  fields.map dropReturns

/-- Plays a session with a whole input. The end of the input ends it quietly. -/
def play (session : Session) (input : Text) : Text × LineMode :=
  let (text, mode) := start session
  let (more, mode) := mode.feedAll (linesOf input)
  (text ++ more, mode)

/-- The problem that stopped the session, if one did. -/
def problem? (mode : LineMode) : Option Problem :=
  match mode.status with
  | .failed problem => some problem
  | .reading _ | .finished => none

end LineMode

end DialogueScript
