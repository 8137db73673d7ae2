import DialogueScript.Expr.Fault

/-!
# Problems

What can go wrong with a script or a conversation, by its cause. Each cause has a kind, a code, a
wording and perhaps the text at fault and its line.

Problems of a fatal kind refuse a script or end a conversation; all others are recovered from
within the turn that meets them, and recorded.
-/

namespace DialogueScript

/-- The kinds of problem. -/
inductive Problem.Kind
  | invalidExpression
  | compile
  | transitionResolution
  | unknownStateReference
  | badAssignment
  | host
  | protocol
  deriving DecidableEq, Repr

/-- Does a problem of this kind refuse a script or end a conversation? -/
def Problem.Kind.isFatal : Problem.Kind → Bool
  | compile | unknownStateReference | protocol => true
  | invalidExpression | transitionResolution | badAssignment | host => false

/-- The failure of a host call, as the host words it. -/
structure HostFailure where
  kind : Problem.Kind
  code : Text
  message : Text
  deriving DecidableEq, Repr

/-- What can be wrong with a line of a script's source. -/
inductive SourceFault
  | orphanLine
  | stateKey
  | emptyBlock
  | target
  | guard
  | transition
  | variableName
  | unrecognized
  deriving DecidableEq, Repr

/-- Why an assignment is skipped. -/
inductive AssignmentFault
  | invalidName
  | reservedName
  | unknownCall
  | illTyped (fault : Expr.Fault)
  deriving DecidableEq, Repr

/-- A problem. -/
inductive Problem
  | expression (fault : Expr.Fault) (source : Text)
  | pattern (source : Text) (line : Option Nat)
  | source (fault : SourceFault) (text : Text) (line : Nat)
  | stateMissing (key : Text)
  | arithmetic (fault : Expr.Fault) (text : Text)
  | optionGuard (text : Text)
  | guardFailed (fault : Expr.Fault) (guard : Text)
  | noTransition (state response : Text)
  | currentStateUnknown (key : Text)
  | targetUnknown (target : Text)
  | assignment (fault : AssignmentFault) (target value : Text)
  | hostCall (failure : HostFailure) (name : Text)
  | alreadyStarted
  | ended
  | callPending (name : Text)
  | notStarted
  | noPendingCall
  deriving DecidableEq, Repr

namespace Problem

/-- The kind of a problem. -/
def kind : Problem → Kind
  | expression _ _ | arithmetic _ _ | optionGuard _ | guardFailed _ _ => .invalidExpression
  | pattern _ _ | source _ _ _ | stateMissing _ => .compile
  | noTransition _ _ => .transitionResolution
  | currentStateUnknown _ | targetUnknown _ => .unknownStateReference
  | assignment _ _ _ => .badAssignment
  | hostCall _ _ => .host
  | alreadyStarted | ended | callPending _ | notStarted | noPendingCall => .protocol

/-- Is the problem of a fatal kind? -/
def isFatal (p : Problem) : Bool := p.kind.isFatal

/-- The code of a fault in the source. -/
def sourceCode : SourceFault → String
  | .orphanLine => "COMPILE_ORPHAN_INSTRUCTION"
  | .stateKey => "COMPILE_STATE_KEY_INVALID"
  | .emptyBlock => "COMPILE_BLOCK_EMPTY"
  | .target => "COMPILE_TARGET_INVALID"
  | .guard => "COMPILE_GUARD_INVALID"
  | .transition => "COMPILE_TRANSITION_INVALID"
  | .variableName => "COMPILE_VARIABLE_INVALID"
  | .unrecognized => "COMPILE_INSTRUCTION_UNRECOGNIZED"

/-- The wording of a fault in the source. -/
def sourceMessage (text : Text) : SourceFault → String
  | .orphanLine => "Indented line does not belong to a state block."
  | .stateKey => "Invalid state key."
  | .emptyBlock => s!"State \"{String.ofList text}\" has no prompt line."
  | .target => "Invalid transition target."
  | .guard => "Badly formatted guard."
  | .transition => "Badly formatted transition instruction."
  | .variableName => "Bad variable name."
  | .unrecognized => "Line is not a retry prompt, transition or assignment."

/-- The code of a fault in an assignment. -/
def assignmentCode : AssignmentFault → String
  | .invalidName => "ENGINE_ASSIGN_NAME_INVALID"
  | .reservedName => "ENGINE_ASSIGN_RESERVED"
  | .unknownCall => "ENGINE_CALL_UNKNOWN"
  | .illTyped _ => "ENGINE_ASSIGN_TYPE"

/-- The wording of a fault in an assignment. -/
def assignmentMessage (target value : Text) : AssignmentFault → String
  | .invalidName => s!"Bad assignment attempted to \"{String.ofList target}\"."
  | .reservedName =>
    s!"\"{String.ofList target}\" is bound by the engine and cannot be assigned."
  | .unknownCall => s!"Can't execute host call \"{String.ofList (Text.trim value)}\"."
  | .illTyped fault => s!"Ill-typed assignment to {String.ofList target}: {fault.message}"

/-- The code under which a problem is reported. -/
def code : Problem → Text
  | expression fault _ => fault.code.toList
  | pattern _ _ => "COMPILE_REGEX_INVALID".toList
  | source fault _ _ => (sourceCode fault).toList
  | stateMissing _ => "ENGINE_SCRIPT_INVALID".toList
  | arithmetic _ _ => "TEMPLATE_ARITHMETIC".toList
  | optionGuard _ => "TEMPLATE_CONDITIONAL_GUARD".toList
  | guardFailed _ _ => "ENGINE_GUARD_FAILED".toList
  | noTransition _ _ => "ENGINE_NO_TRANSITION".toList
  | currentStateUnknown _ | targetUnknown _ => "ENGINE_STATE_UNKNOWN".toList
  | assignment fault _ _ => (assignmentCode fault).toList
  | hostCall failure _ => failure.code
  | alreadyStarted => "ENGINE_ALREADY_STARTED".toList
  | ended => "ENGINE_ENDED".toList
  | callPending _ => "ENGINE_CALL_PENDING".toList
  | notStarted => "ENGINE_NOT_STARTED".toList
  | noPendingCall => "ENGINE_NO_PENDING_CALL".toList

/-- The wording of a problem. Of a text that is no pattern it says so, but not what is wrong with
it, which would follow behind a colon: that is the business of whoever reads patterns, and the
reader of this library gives no reason (`Pattern.readPatternIn`). -/
def message : Problem → Text
  | expression fault _ => fault.message.toList
  | pattern regex _ => s!"Regex \"{String.ofList regex}\" does not parse".toList
  | source fault text _ => (sourceMessage text fault).toList
  | stateMissing key => s!"Script has no \"{String.ofList key}\" state.".toList
  | arithmetic fault _ => s!"Bad arithmetic expression in text: {fault.message}".toList
  | optionGuard _ => "Bad guard in text; using the last option.".toList
  | guardFailed fault _ => s!"Bad expression for transition guard: {fault.message}".toList
  | noTransition state _ =>
    s!"No transition of \"{String.ofList state}\" accepts the response.".toList
  | currentStateUnknown key => s!"Current state \"{String.ofList key}\" is not defined.".toList
  | targetUnknown target =>
    s!"Transition target \"{String.ofList target}\" is not defined.".toList
  | assignment fault target value => (assignmentMessage target value fault).toList
  | hostCall failure _ => failure.message
  | alreadyStarted => "Conversation has already started.".toList
  | ended => "Conversation has already ended.".toList
  | callPending name =>
    s!"Host call \"{String.ofList name}\" must complete before the next response.".toList
  | notStarted => "Conversation has not started.".toList
  | noPendingCall => "No host call is pending.".toList

/-- The text at fault. -/
def text? : Problem → Option Text
  | expression _ text => some text
  | pattern regex _ => some regex
  | source _ text _ => some text
  | arithmetic _ text => some text
  | optionGuard text => some text
  | guardFailed _ guard => some guard
  | noTransition _ response => some response
  | targetUnknown target => some target
  | assignment _ target value => some (target ++ " <- ".toList ++ value)
  | hostCall _ name => some name
  | stateMissing _ | currentStateUnknown _ | alreadyStarted | ended | callPending _ | notStarted
  | noPendingCall => none

/-- The line of the source at fault, counted from one. -/
def line? : Problem → Option Nat
  | source _ _ line => some line
  | pattern _ line => line
  | _ => none

end Problem

end DialogueScript
