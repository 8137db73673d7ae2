import DialogueScript.Engine.Create
import DialogueScript.FileTree
import DialogueScript.Json.Reader
import DialogueScript.Scenario.Case
import DialogueScript.Script.Compile

/-!
# Running test cases

Finds test cases and their scripts in a file tree, plays a test case, and compares the outputs with
the expected ones. The conversation goes on until it ends or the responses are used up.
-/

namespace DialogueScript.Scenario

/-- The inputs of a test case that can be left over. -/
inductive InputKind
  | responses
  | results
  deriving DecidableEq, Repr

/-- Why a test case cannot be run or does not pass. -/
inductive Fault
  /-- A file is missing or is no text. -/
  | unreadable (path : Text)
  /-- A folder is missing. -/
  | unscannable (path : Text)
  /-- A file is no test case. -/
  | malformed (path : Text)
  | version (found : Text)
  | scriptMissing (folder script : Text)
  | problem (problem : Problem)
  | resultMissing (index : Nat) (name : Text)
  | unused (kind : InputKind) (used total : Nat)
  | count (expected : Nat) (observed : List Output)
  | mismatch (index : Nat) (expected actual : Output)
  deriving DecidableEq, Repr

namespace Fault

/-- What the inputs of a test case are called. -/
def inputWord : InputKind → Text
  | .responses => "responses".toList
  | .results => "call results".toList

/-- The wording of a fault. What the system says about a file or the reader about JSON is not part
of it. -/
def message : Fault → Text
  | unreadable path => "Failed to read file ".toList ++ path
  | unscannable path => "Failed to scan ".toList ++ path
  | malformed path => "Failed to parse testcase ".toList ++ path
  | version found =>
    "Invalid testcase schema version \"".toList ++ found ++ "\", expected \"".toList ++
      Case.supportedVersion ++ "\".".toList
  | scriptMissing folder script =>
    "Script ".toList ++ script ++ " not found under ".toList ++ folder ++ ".".toList
  | problem p => "Engine error: ".toList ++ p.code ++ ": ".toList ++ p.message
  | resultMissing index name =>
    "Call result missing at event index ".toList ++ Text.ofNat index ++ " for call \"".toList ++
      name ++ "\".".toList
  | unused kind used total =>
    "Unused ".toList ++ inputWord kind ++ ": used ".toList ++ Text.ofNat used ++ " of ".toList ++
      Text.ofNat total ++ ".".toList
  | count expected observed =>
    "Expected event count ".toList ++ Text.ofNat expected ++ ", actual ".toList ++
      Text.ofNat observed.length ++ ". observed=".toList ++
      (Json.array (observed.map Output.toJson)).spread
  | mismatch index expected actual =>
    "Event mismatch at index ".toList ++ Text.ofNat index ++ ". expected=".toList ++
      expected.toJson.compact ++ " actual=".toList ++ actual.toJson.compact

end Fault

/-- The name that a path ends with. -/
def lastName (path : Text) : Text := (FileTree.properSteps path).getLast?.getD []

/-- The name of a file that was found below a path. -/
def foundName (path : Text) (names : List Text) : Text := names.getLast?.getD (lastName path)

/-- What is below a folder. -/
def scan (files : FileTree) (folder : Text) :
    Except Fault (List (List Text × List UInt8)) :=
  match files.find? folder with
  | some tree => .ok tree.files
  | none => .error (.unscannable folder)

/-- The paths of the test cases below a folder, in order. -/
def discover (files : FileTree) (folder : Text) : Except Fault (List Text) := do
  let found ← scan files folder
  let cases := found.filter fun file => foundName folder file.1 == "testcase.json".toList
  return cases.map fun file => FileTree.pathBelow folder file.1

/-- Reads a test case. -/
def readCase (files : FileTree) (path : Text) : Except Fault Case :=
  match files.find? path with
  | some (.file content) =>
    match FileTree.decode? content with
    | none => .error (.unreadable path)
    | some text =>
      match (Json.parse text).bind Case.ofJson? with
      | none => .error (.malformed path)
      | some case =>
        if case.schemaVersion = Case.supportedVersion then .ok case
        else .error (.version case.schemaVersion)
  | _ => .error (.unreadable path)

/-- The name under which a script is listed: its path from the folder, with slashes only. -/
def listedName (names : List Text) : Text :=
  (Text.joinWith ['/'] names).map fun c => if c = '\\' then '/' else c

/-- Reads a script that is listed under a name. -/
def readScript (files : FileTree) (folder script : Text) : Except Fault Text := do
  let found ← scan files folder
  let isScript (file : List Text × List UInt8) : Bool :=
    FileTree.extension? (foundName folder file.1) == some "dlg".toList &&
      listedName file.1 == script
  match (found.filter isScript).getLast? with
  | none => .error (.scriptMissing folder script)
  | some (names, content) =>
    match FileTree.decode? content with
    | some text => return text
    | none => .error (.unreadable (FileTree.pathBelow folder names))

/-- What came of a test case. -/
structure Report where
  observed : List Output
  usedResponses : Nat
  usedResults : Nat
  ended : Bool
  deriving DecidableEq, Repr

/-- How far a test case is played: the outputs with the last one first, and what is used of the
inputs. -/
structure Progress where
  engine : Engine
  observed : List Output
  usedResponses : Nat
  usedResults : Nat

/-- Goes on from an output with the inputs that are left. -/
def playOn (settings : Settings) (progress : Progress) (output : Output)
    (responses results : List Text) : Except Fault Progress :=
  let progress := { progress with observed := output :: progress.observed }
  match output, responses, results with
  | .finish, _, _ => .ok progress
  | .call name, _, [] => .error (.resultMissing (progress.observed.length - 1) name)
  | .call _, responses, result :: results =>
    match progress.engine.completeCall settings result with
    | (.error problem, _) => .error (.problem problem)
    | (.ok next, engine) =>
      playOn settings { progress with engine, usedResults := progress.usedResults + 1 } next
        responses results
  | .prompt _, [], _ | .retry _, [], _ => .ok progress
  | .prompt _, response :: responses, results | .retry _, response :: responses, results =>
    match progress.engine.respond settings (Text.trim response) with
    | (.error problem, _) => .error (.problem problem)
    | (.ok next, engine) =>
      playOn settings { progress with engine, usedResponses := progress.usedResponses + 1 } next
        responses results
termination_by responses.length + results.length

/-- A problem as the fault of a test case. -/
def liftProblem {α : Type} : Except Problem α → Except Fault α
  | .ok a => .ok a
  | .error problem => .error (.problem problem)

/-- Plays a script with the inputs of a test case. All results of calls must be used, and all
responses if the conversation ends. -/
def runScript (script : Script) (case : Case) : Except Fault Report := do
  let settings := Settings.callerAnswered script
  let engine ← liftProblem (Engine.create settings)
  let output ← liftProblem engine.currentOutput
  let progress ← playOn settings ⟨engine, [], 0, 0⟩ output case.responses case.results
  let ended := progress.engine.ended
  if ended ∧ progress.usedResponses ≠ case.responses.length then
    .error (.unused .responses progress.usedResponses case.responses.length)
  else if progress.usedResults ≠ case.results.length then
    .error (.unused .results progress.usedResults case.results.length)
  else
    return ⟨progress.observed.reverse, progress.usedResponses, progress.usedResults, ended⟩

/-- Plays a test case with the script that it names. -/
def run (files : FileTree) (folder : Text) (case : Case) : Except Fault Report := do
  let source ← readScript files folder case.script
  let script ← liftProblem (Script.compile source)
  runScript script case

/-- The first difference between expected and observed outputs, from a number on. -/
def mismatch? (index : Nat) : List Output → List Output → Option Fault
  | expected :: rest, actual :: others =>
    if expected = actual then mismatch? (index + 1) rest others
    else some (.mismatch index expected actual)
  | _, _ => none

/-- Compares the outputs of a test case with the expected ones. -/
def compare (case : Case) (report : Report) : Except Fault Unit :=
  if report.observed.length ≠ case.expected.length then
    .error (.count case.expected.length report.observed)
  else
    match mismatch? 0 case.expected report.observed with
    | some fault => .error fault
    | none => .ok ()

/-- Reads, plays and checks a test case. -/
def check (files : FileTree) (folder path : Text) : Except Fault Unit := do
  let case ← readCase files path
  compare case (← run files folder case)

end DialogueScript.Scenario
