import DialogueScript.Engine.Basic

/-!
# Assignments

An assignment renders its text and binds the result to its variable. The kind of the value is that
of the tag in front of the text, else the kind that the variable has, else text. An assignment to
`$call$` calls the host.
-/

namespace DialogueScript.Engine

/-- What became of an assignment. -/
inductive AssignOutcome
  | applied
  | skipped
  /-- The turn waits for the result of a host call. -/
  | suspended (name : Text)
  deriving DecidableEq, Repr

/-- Skips an assignment. -/
def skip (engine : Engine) (fault : AssignmentFault) (assignment : Assignment) :
    AssignOutcome × Engine :=
  (.skipped, engine.record [.assignment fault assignment.target assignment.value])

/-- The kind of value that an assignment makes, and its template without the tag. -/
def assignedKind (env : Environment) (assignment : Assignment) : Value.Kind × Text :=
  let untagged : Value.Kind × Text :=
    (((env.get? assignment.target).map (·.kind)).getD .text, assignment.value)
  match Text.splitOnce [' '] assignment.value with
  | some (tag, rest) =>
    if tag = "!bool".toList then (.boolean, rest)
    else if tag = "!num".toList then (.number, rest)
    else untagged
  | none => untagged

/-- The value of a kind that a text stands for. -/
def valueOf (kind : Value.Kind) (t : Text) : Except Expr.Fault Value :=
  match kind with
  | .text => .ok (.text t)
  | .boolean => (Expr.evaluateBool t).map Value.bool
  | .number => (Expr.evaluateNumber t).map Value.number

/-- Calls the host, or leaves the call to whoever runs the conversation. -/
def dispatchCall (settings : Settings) (engine : Engine) (assignment : Assignment) :
    AssignOutcome × Engine :=
  let name := Text.trim assignment.value
  if !settings.hosts.contains name then engine.skip .unknownCall assignment
  else if settings.deferCalls then (.suspended name, engine)
  else
    let answer := settings.hosts.call name (engine.called.count name)
    let engine := { engine with called := name :: engine.called }
    match answer with
    | .ok result => (.applied, engine.bind Name.call (.text result))
    | .error failure => (.skipped, engine.record [.hostCall failure name])

/-- Makes an assignment. -/
def applyAssignment (settings : Settings) (engine : Engine) (assignment : Assignment) :
    AssignOutcome × Engine :=
  if !Name.isVariable assignment.target then engine.skip .invalidName assignment
  else if Name.isEngineBound assignment.target then engine.skip .reservedName assignment
  else if assignment.target = Name.call then engine.dispatchCall settings assignment
  else
    let (kind, template) := assignedKind engine.environment assignment
    let (text, problems) := Template.renderNoting engine.environment template
    let engine := engine.record problems
    match valueOf kind text with
    | .ok value => (.applied, engine.bind assignment.target value)
    | .error fault => engine.skip (.illTyped fault) assignment

end DialogueScript.Engine
