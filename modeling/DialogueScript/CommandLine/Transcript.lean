import DialogueScript.Engine.Create
import DialogueScript.Json.Writer

/-!
# Transcripts

Runs a conversation with prepared responses and results of host calls, in order, until it ends or
the one that is needed next is missing. Every output goes into the transcript with the problems
recorded on the way to it. A response loses the blanks around it, the result of a call does not.
-/

namespace DialogueScript.CommandLine

/-- The kinds of output. -/
inductive Label
  | prompt
  | retry
  | call
  | finish
  deriving DecidableEq, Repr

/-- The word for a kind of output. -/
def Label.word : Label → Text
  | prompt => "PROMPT".toList
  | retry => "RETRY".toList
  | call => "CALL".toList
  | finish => "END".toList

/-- An output in its parts, and the problems recorded on the way to it. -/
structure Event where
  label : Label
  text : Option Text
  callName : Option Text
  problems : List Problem
  deriving DecidableEq, Repr

/-- The parts of an output: what it shows, or the name of the call that it asks for. -/
def Event.ofOutput (output : Output) (problems : List Problem) : Event :=
  match output with
  | .prompt text => ⟨.prompt, some text, none, problems⟩
  | .retry text => ⟨.retry, some text, none, problems⟩
  | .call name => ⟨.call, none, some name, problems⟩
  | .finish => ⟨.finish, none, none, problems⟩

/-- The events of a conversation, and the state after them. -/
structure Transcript where
  events : List Event
  finalState : Text
  deriving DecidableEq, Repr

namespace Transcript

/-- Goes on from an output. -/
def follow (settings : Settings) (engine : Engine) (output : Output)
    (responses results : List Text) : Except Problem Transcript := do
  let (problems, engine) := engine.takeDiagnostics
  let event := Event.ofOutput output problems
  match output, responses, results with
  | .call _, responses, result :: results =>
    match engine.completeCall settings result with
    | (.ok next, engine) =>
      let rest ← follow settings engine next responses results
      return { rest with events := event :: rest.events }
    | (.error problem, _) => .error problem
  | .prompt _, response :: responses, results | .retry _, response :: responses, results =>
    match engine.respond settings (Text.trim response) with
    | (.ok next, engine) =>
      let rest ← follow settings engine next responses results
      return { rest with events := event :: rest.events }
    | (.error problem, _) => .error problem
  | _, _, _ => return ⟨[event], engine.state⟩
termination_by responses.length + results.length

/-- Runs a script from the start; the calls are answered by the prepared results. -/
def ofScript (script : Script) (responses results : List Text) : Except Problem Transcript := do
  let settings := Settings.callerAnswered script
  let engine ← Engine.create settings
  follow settings engine (← engine.currentOutput) responses results

/-- The line about a problem. -/
def problemLine (problem : Problem) : Text :=
  "DIAG:".toList ++ problem.code ++ '|' :: Json.quote problem.message

/-- The lines about an event; what it does not have gets no line. -/
def eventLines (event : Event) : List Text :=
  ["EVENT:".toList ++ event.label.word] ++
    (event.text.map fun text => "TEXT_JSON:".toList ++ Json.quote text).toList ++
    (event.callName.map fun name => "NAME_JSON:".toList ++ Json.quote name).toList ++
    event.problems.map problemLine

/-- The transcript in lines. -/
def lines (transcript : Transcript) : List Text :=
  "RESULT:OK".toList :: transcript.events.flatMap eventLines ++
    ["STATE:".toList ++ transcript.finalState]

end Transcript

end DialogueScript.CommandLine
