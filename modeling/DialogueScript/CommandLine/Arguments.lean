import DialogueScript.Text.Basic

/-!
# Arguments

What is asked for on the command line. An option is written `--name value` or `--name=value`. A
value behind its option must not look like an option itself, unless the option takes any value; a
single hyphen does not. Options may come in any order, but all except the one for the log stand
behind the command.
-/

namespace DialogueScript.CommandLine

/-- Where scripts to be checked are. -/
inductive Source
  | script (path : Text)
  | folder (path : Text)
  deriving DecidableEq, Repr

/-- What is asked for. -/
inductive Request
  | run (script : Text) (responses results : List Text)
  | check (source : Source) (dump : Bool)
  | play (script : Text)
  deriving DecidableEq, Repr

/-- Why there is no request. -/
inductive Refusal
  | help
  | usage
  deriving DecidableEq, Repr

/-- What follows the name of an option. -/
inductive Operand
  | none
  | value
  /-- A value that may look like an option. -/
  | anyValue
  deriving DecidableEq, Repr

/-- An option. -/
structure OptionRule where
  name : Text
  operand : Operand
  /-- May it be given more than once? -/
  many : Bool
  deriving DecidableEq, Repr

/-- The options that are given, with their values, the last one first. -/
abbrev Given := List (Text × Text)

/-- The option that sets what is logged. -/
def logRule : OptionRule := ⟨"log-level".toList, .value, false⟩

/-- The option that names a script. -/
def scriptRule : OptionRule := ⟨"script".toList, .value, false⟩

/-- The options for running a script. -/
def runRules : List OptionRule :=
  [logRule, scriptRule, ⟨"response".toList, .anyValue, true⟩,
    ⟨"call-result".toList, .anyValue, true⟩]

/-- The options for checking scripts. -/
def checkRules : List OptionRule :=
  [logRule, scriptRule, ⟨"scripts-dir".toList, .value, false⟩, ⟨"dump".toList, .none, false⟩]

/-- The options for playing a script. -/
def playRules : List OptionRule := [logRule, scriptRule, ⟨"line-mode".toList, .none, false⟩]

/-- Does an argument look like an option? -/
def looksLikeOption (argument : Text) : Bool :=
  argument.head? == some '-' && argument.length ≥ 2

/-- Adds an option to those given before. -/
def give (rule : OptionRule) (value : Text) (given : Given) : Except Refusal Given :=
  if !rule.many && given.any fun option => option.1 == rule.name then .error .usage
  else .ok ((rule.name, value) :: given)

/-- The name of an option, and the value that is attached to it by an equals sign. -/
def splitOption (text : Text) : Text × Option Text :=
  match Text.splitOnce ['='] text with
  | some (name, value) => (name, some value)
  | none => (text, none)

/-- Reads options up to the first word that is none. Two hyphens alone end the options. -/
def readOptions (rules : List OptionRule) (given : Given) :
    List Text → Except Refusal (Given × List Text)
  | [] => .ok (given, [])
  | argument :: rest =>
    if argument = ['-', '-'] then
      if rest.isEmpty then .ok (given, []) else .error .usage
    else
      match argument with
      | '-' :: '-' :: text =>
        let (name, attached) := splitOption text
        if name = "help".toList then .error (if attached.isSome then .usage else .help)
        else
          match rules.find? fun rule => rule.name == name with
          | none => .error .usage
          | some rule =>
            match rule.operand, attached, rest with
            | .none, none, rest => do readOptions rules (← give rule [] given) rest
            | .none, some _, _ => .error .usage
            | _, some value, rest => do readOptions rules (← give rule value given) rest
            | operand, none, value :: rest =>
              if operand ≠ .anyValue && looksLikeOption value then .error .usage
              else do readOptions rules (← give rule value given) rest
            | _, none, [] => .error .usage
      | ['-'] => .ok (given, argument :: rest)
      | '-' :: letter :: _ => .error (if letter = 'h' then .help else .usage)
      | _ => .ok (given, argument :: rest)

/-- Reads options and nothing else. -/
def readAllOptions (rules : List OptionRule) (arguments : List Text) : Except Refusal Given := do
  match ← readOptions rules [] arguments with
  | (given, []) => return given
  | _ => .error .usage

/-- The value of an option. -/
def valueOf? (given : Given) (name : String) : Option Text :=
  (given.find? fun option => option.1 == name.toList).map (·.2)

/-- The values of an option, in the order in which they are given. -/
def valuesOf (given : Given) (name : String) : List Text :=
  ((given.filter fun option => option.1 == name.toList).map (·.2)).reverse

/-- The value of an option that must be given. -/
def requiredValue (given : Given) (name : String) : Except Refusal Text :=
  match valueOf? given name with
  | some value => .ok value
  | none => .error .usage

/-- The request to run a script. -/
def readRun (arguments : List Text) : Except Refusal Request := do
  let given ← readAllOptions runRules arguments
  return .run (← requiredValue given "script") (valuesOf given "response")
    (valuesOf given "call-result")

/-- The request to check scripts: one script or a folder, not both. -/
def readCheck (arguments : List Text) : Except Refusal Request := do
  let given ← readAllOptions checkRules arguments
  let dump := (valueOf? given "dump").isSome
  match valueOf? given "script", valueOf? given "scripts-dir" with
  | some script, none => return .check (.script script) dump
  | none, some folder => return .check (.folder folder) dump
  | _, _ => .error .usage

/-- The request to play a script. -/
def readPlay (arguments : List Text) : Except Refusal Request := do
  let given ← readAllOptions playRules arguments
  return .play (← requiredValue given "script")

/-- The refusal of a request for help; at most one command may be named. -/
def helpRefusal : List Text → Refusal
  | [] => .help
  | [name] =>
    if name ∈ ["run".toList, "check".toList, "play".toList, "help".toList] then .help else .usage
  | _ => .usage

/-- What the arguments ask for. -/
def Request.ofArguments (arguments : List Text) : Except Refusal Request := do
  match ← readOptions [logRule] [] arguments with
  | (_, command :: rest) =>
    if command = "run".toList then readRun rest
    else if command = "check".toList then readCheck rest
    else if command = "play".toList then readPlay rest
    else if command = "help".toList then .error (helpRefusal rest)
    else .error .usage
  | (_, []) => .error .usage

end DialogueScript.CommandLine
