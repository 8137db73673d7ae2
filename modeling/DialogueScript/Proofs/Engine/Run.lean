import DialogueScript.Engine.Step

/-!
# Runs of an engine

Everything that can be asked of an engine, in any order, with a record of what was answered. A
property that the empty history has and that every operation keeps holds after every sequence of
operations (`History.after_induction`).
-/

namespace DialogueScript

/-- What can be asked of an engine. -/
inductive Operation
  | start
  | respond (response : Text)
  | completeCall (result : Text)
  | currentOutput
  | takeDiagnostics
  deriving DecidableEq, Repr

/-- What an operation answers. -/
inductive Reply
  /-- The result of starting, of responding or of giving the result of a call. -/
  | moved (result : Except Problem Output)
  /-- What the engine waits for. -/
  | shown (output : Except Problem Output)
  /-- The problems that were taken away. -/
  | taken (problems : List Problem)

/-- Performs an operation. -/
def Operation.perform (settings : Settings) (engine : Engine) : Operation → Reply × Engine
  | .start =>
    let result := engine.start settings
    (.moved result.1, result.2)
  | .respond response =>
    let result := engine.respond settings response
    (.moved result.1, result.2)
  | .completeCall text =>
    let result := engine.completeCall settings text
    (.moved result.1, result.2)
  | .currentOutput => (.shown engine.currentOutput, engine)
  | .takeDiagnostics =>
    let taken := engine.takeDiagnostics
    (.taken taken.1, taken.2)

/-- An operation and its answer. -/
structure Event where
  operation : Operation
  reply : Reply

/-- The output that an event moved the conversation to. -/
def Event.output? (event : Event) : Option Output :=
  match event.reply with
  | .moved (.ok output) => some output
  | _ => none

@[simp] theorem Event.output?_moved_ok (operation : Operation) (output : Output) :
    Event.output? ⟨operation, .moved (.ok output)⟩ = some output := rfl

/-- An engine with all that was asked of it, the last event first. -/
structure History where
  engine : Engine
  events : List Event

namespace History

/-- Nothing was asked of a new engine. -/
def empty : History := ⟨Engine.initial, []⟩

/-- Asks one thing more. -/
def extend (settings : Settings) (history : History) (operation : Operation) : History :=
  let answered := operation.perform settings history.engine
  ⟨answered.2, ⟨operation, answered.1⟩ :: history.events⟩

/-- The history of a sequence of operations on a new engine. -/
def after (settings : Settings) (operations : List Operation) : History :=
  operations.foldl (extend settings) empty

/-- Did a start succeed? -/
def Started (history : History) : Prop :=
  ∃ output, (⟨.start, .moved (.ok output)⟩ : Event) ∈ history.events

/-- The last output that the conversation moved to. -/
def lastOutput? (history : History) : Option Output := history.events.findSome? Event.output?

/-- What every operation keeps, any number of operations keeps. -/
theorem foldl_extend_induction {settings : Settings} {P : History → Prop}
    (hextend : ∀ history operation, P history → P (history.extend settings operation)) :
    ∀ (operations : List Operation) {history : History}, P history →
      P (operations.foldl (extend settings) history)
  | [], _, h => h
  | operation :: rest, history, h =>
    foldl_extend_induction hextend rest (hextend history operation h)

/-- What holds at first and is kept by every operation holds after every sequence of them. -/
theorem after_induction {settings : Settings} {P : History → Prop} (hempty : P empty)
    (hextend : ∀ history operation, P history → P (history.extend settings operation))
    (operations : List Operation) : P (after settings operations) :=
  foldl_extend_induction hextend operations hempty

end History

/-! ## A conversation with calls -/

/-- A script that rolls a die twice on its way to the end. -/
def Script.rolling : Script :=
  Script.seeded.define Name.start
    { prompt := "Shall I roll?".toList
      transitions := [⟨.wildcard, Name.finish⟩]
      assignments := [⟨Name.call, "roll".toList⟩, ⟨"$first$".toList, Name.call⟩,
        ⟨Name.call, " roll ".toList⟩]
      retry := none }

end DialogueScript
