import DialogueScript.CommandLine.Sources
import DialogueScript.Script.Compile
import DialogueScript.Script.Inspect
import DialogueScript.Script.Json

/-!
# Checking scripts

Compiles scripts and reports what they hold. A target that is no state is reported, not refused.
-/

namespace DialogueScript.CommandLine

/-- What is reported of a script. -/
structure Report where
  path : Text
  states : Nat
  unresolved : List (Text × Text)
  /-- The script as JSON, if it is asked for. -/
  dump : Option Text
  deriving DecidableEq, Repr

namespace Report

/-- Checks a script. -/
def ofSource (dump : Bool) (file : SourceFile) : Except Fault Report :=
  match Script.compile file.source with
  | .error problem => .error (.problemIn file.path problem)
  | .ok script =>
    .ok {
      path := file.path
      states := script.states.size
      unresolved := script.unresolved
      dump := if dump then some script.toJson.compact else none }

/-- The report in lines. -/
def lines (report : Report) : List Text :=
  ["SCRIPT:".toList ++ report.path, "STATES:".toList ++ Text.ofNat report.states] ++
    (report.unresolved.map fun (state, target) =>
      "WARN_UNRESOLVED:".toList ++ state ++ "->".toList ++ target) ++
    (report.dump.map fun text => "DUMP_JSON:".toList ++ text).toList

end Report

end DialogueScript.CommandLine
