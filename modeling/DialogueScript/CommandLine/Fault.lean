import DialogueScript.FileTree
import DialogueScript.Json.Writer
import DialogueScript.Problem

/-!
# Faults of a command

Why a command fails: a path is not what it should be, or there is a problem with a script or the
conversation. A fault is reported in lines, each of which starts with what it is.
-/

namespace DialogueScript.CommandLine

/-- Why a command fails. -/
inductive Fault
  | pathMissing (path : Text)
  | notFile (path : Text)
  | notFolder (path : Text)
  | noScripts (folder : Text)
  /-- A file that is no text. -/
  | notText
  | problem (problem : Problem)
  /-- A problem in one file of several. -/
  | problemIn (path : Text) (problem : Problem)
  deriving DecidableEq, Repr

namespace Fault

/-- The code under which a fault is reported. -/
def code : Fault → Text
  | pathMissing _ => "CLI_SOURCE_NOT_FOUND".toList
  | notFile _ => "CLI_SOURCE_NOT_FILE".toList
  | notFolder _ => "CLI_SOURCE_NOT_DIR".toList
  | noScripts _ => "CLI_SOURCE_EMPTY".toList
  | notText => "CLI_SOURCE_READ".toList
  | problem p | problemIn _ p => p.code

/-- The wording of a fault. -/
def message : Fault → Text
  | pathMissing path => "path does not exist: ".toList ++ path
  | notFile path => "script is not a file: ".toList ++ path
  | notFolder path => "scripts-dir is not a directory: ".toList ++ path
  | noScripts folder => "no .dlg files under ".toList ++ folder
  | notText => "stream did not contain valid UTF-8".toList
  | problem p => p.message
  | problemIn path p => path ++ ": ".toList ++ p.message

/-- The line of a script at fault. -/
def line? : Fault → Option Nat
  | problem p | problemIn _ p => p.line?
  | _ => none

/-- The report of a fault. -/
def lines (fault : Fault) : List Text :=
  let line : List Text := match fault.line? with
    | some n => ["ERROR_LINE:".toList ++ Text.ofNat n]
    | none => []
  ["RESULT:ERROR".toList, "ERROR_CODE:".toList ++ fault.code] ++ line ++
    ["ERROR_MSG_JSON:".toList ++ Json.quote fault.message]

end Fault

end DialogueScript.CommandLine
