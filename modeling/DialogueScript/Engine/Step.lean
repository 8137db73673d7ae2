import DialogueScript.Engine.Assign

/-!
# Turns

Starting a conversation, responding, and giving the results of host calls. A response takes the
first transition that accepts it, or the wildcard; the assignments of the state being left are
made in order, and the conversation moves to the target.
-/

namespace DialogueScript.Engine

/-- The result of an operation: the next output or the problem, and the engine after it. -/
abbrev Result := Except Problem Output × Engine

/-- Starts the conversation. -/
def start (settings : Settings) (engine : Engine) : Result :=
  if engine.boundary.isSome || engine.ended then (.error .alreadyStarted, engine)
  else
    let engine := { engine with diagnostics := [] }
    let prompt := ((settings.script.get? Name.start).map (·.prompt)).getD []
    let (text, engine) := engine.render settings prompt
    engine.await (.prompt text)

/-- A transition that was taken: its target, and the text that was matched. -/
structure Resolved where
  target : Text
  matched : Text
  deriving DecidableEq, Repr

/-- Does the guard of a transition hold? A guard that cannot be evaluated does not, which is
noted. -/
def guardHolds (env : Environment) (key : TransitionKey) : Bool × List Problem :=
  match key.guard? with
  | none => (true, [])
  | some guard =>
    match Expr.evaluateBool (Template.substitute env guard) with
    | .ok holds => (holds, [])
    | .error fault => (false, [.guardFailed fault guard])

/-- The first of some transitions that accepts a response, and the problems with guards before
it. -/
def firstAccepting (env : Environment) (response : Text) :
    List Transition → Option Resolved × List Problem
  | [] => (none, [])
  | transition :: rest =>
    match transition.key.search.find response with
    | none => firstAccepting env response rest
    | some found =>
      let (holds, problems) := guardHolds env transition.key
      if holds then (some ⟨transition.target, found⟩, problems)
      else
        let (resolved, more) := firstAccepting env response rest
        (resolved, problems ++ more)

/-- The transition of a state that accepts a response, or else its wildcard with an empty match. -/
def resolve (env : Environment) (state : ScriptState) (response : Text) :
    Option Resolved × List Problem :=
  match firstAccepting env response state.ordered with
  | (some resolved, problems) => (some resolved, problems)
  | (none, problems) => (state.wildcardTarget.map fun target => ⟨target, []⟩, problems)

/-- Ends a turn: counts it and moves to the target. -/
def finishTurn (settings : Settings) (engine : Engine) (target : Text) : Result :=
  let engine := { engine with environment := engine.environment.advance.moveTo target }
  match settings.script.get? target with
  | none => (.error (.targetUnknown target), { engine with ended := true, boundary := none })
  | some next =>
    if target = Name.finish then (.ok .finish, { engine with ended := true, boundary := none })
    else
      let (text, engine) := engine.render settings next.prompt
      engine.await (.prompt text)

/-- Makes assignments, the first of which has number `next`, and ends the turn, unless it has to
wait for a host call. -/
def runAssignments (settings : Settings) (target : Text) (next : Nat) (engine : Engine) :
    List Assignment → Result
  | [] => engine.finishTurn settings target
  | assignment :: rest =>
    match engine.applyAssignment settings assignment with
    | (.suspended name, engine) =>
      (.ok (.call name), { engine with boundary := some (.call name ⟨target, next + 1⟩) })
    | (_, engine) => runAssignments settings target (next + 1) engine rest

/-- Goes on with a turn. -/
def runTurn (settings : Settings) (engine : Engine) (turn : Turn) : Result :=
  let assignments := ((settings.script.get? engine.state).map (·.assignments)).getD []
  runAssignments settings turn.target turn.next engine (assignments.drop turn.next)

/-- The problem with responding now, if there is one. -/
def responseProblem? (engine : Engine) : Option Problem :=
  if engine.ended then some .ended
  else
    match engine.boundary with
    | some (.response _) => none
    | some (.call name _) => some (.callPending name)
    | none => some .notStarted

/-- Asks again for a response that no transition accepts. -/
def askAgain (settings : Settings) (engine : Engine) (state : ScriptState) : Result :=
  match state.retry with
  | some retry =>
    let (text, engine) := engine.render settings retry
    engine.await (.retry text)
  | none =>
    let (text, engine) := engine.render settings state.prompt
    engine.await (.retry (settings.retryPreface ++ text))

/-- Responds. -/
def respond (settings : Settings) (engine : Engine) (response : Text) : Result :=
  match engine.responseProblem? with
  | some problem => (.error problem, engine)
  | none =>
    let engine := { engine with diagnostics := [] }
    let engine := engine.bind Name.response (.text response)
    match settings.script.get? engine.state with
    | none => (.error (.currentStateUnknown engine.state), engine)
    | some state =>
      let (resolved, problems) := resolve engine.environment state response
      let engine := engine.record problems
      match resolved with
      | none => (engine.record [.noTransition engine.state response]).askAgain settings state
      | some resolved =>
        let engine := engine.bind Name.lastMatch (.text resolved.matched)
        engine.runTurn settings ⟨resolved.target, 0⟩

/-- Gives the result of the host call that the conversation waits for. -/
def completeCall (settings : Settings) (engine : Engine) (result : Text) : Result :=
  match engine.boundary with
  | some (.call _ turn) =>
    let engine := { engine with boundary := none }
    (engine.bind Name.call (.text result)).runTurn settings turn
  | _ => (.error .noPendingCall, engine)

end DialogueScript.Engine
