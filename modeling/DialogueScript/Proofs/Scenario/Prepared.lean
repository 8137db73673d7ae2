import DialogueScript.CommandLine.Transcript
import DialogueScript.Proofs.Engine.Answers
import DialogueScript.Proofs.Engine.Presentation
import DialogueScript.Scenario.Run

/-!
# Prepared conversations

A transcript and a test case play the same conversation from the same prepared inputs: responses
and results of host calls, each in order. They differ in what they make of it. The transcript takes
the diagnostics away after every output and ends where the next input is missing; the test fails
where the result of a call is missing, and where inputs are left over (`transcript_and_run`).

Both go on from an output in the same way (`next?`). `Plays` is the conversation that they share,
with what is fed into it and what comes out; the transcript (`Plays.follow_ok`) and the test
(`Plays.playOn_ok`) are two views of it.
-/

namespace DialogueScript

/-- The response that an operation gives. -/
def Operation.response? : Operation → Option Text
  | .respond response => some response
  | _ => none

/-- The result of a call that an operation gives. -/
def Operation.callResult? : Operation → Option Text
  | .completeCall result => some result
  | _ => none

/-- The call that an output asks for. -/
def Output.call? : Output → Option Text
  | .call name => some name
  | _ => none

theorem Output.call?_eq_some_iff {output : Output} {name : Text} :
    output.call? = some name ↔ output = .call name := by
  cases output <;> simp [Output.call?]

/-- The output that an event shows. -/
def CommandLine.Event.output (event : CommandLine.Event) : Output :=
  match event.label with
  | .prompt => .prompt (event.text.getD [])
  | .retry => .retry (event.text.getD [])
  | .call => .call (event.callName.getD [])
  | .finish => .finish

/-- An event tells the output that it was made from. -/
@[simp] theorem CommandLine.Event.output_ofOutput (output : Output) (problems : List Problem) :
    (ofOutput output problems).output = output := by
  cases output <;> rfl

/-- The outputs of a transcript. -/
def CommandLine.Transcript.outputs (transcript : CommandLine.Transcript) : List Output :=
  transcript.events.map (·.output)

namespace Scenario

open CommandLine (Event Transcript)

/-! ## The conversation -/

/-- What is fed to the engine after an output, and the inputs that are left then. -/
def next? : Output → List Text → List Text → Option (Operation × List Text × List Text)
  | .call _, responses, result :: results => some (.completeCall result, responses, results)
  | .prompt _, response :: responses, results
  | .retry _, response :: responses, results =>
    some (.respond (Text.trim response), responses, results)
  | _, _, _ => none

/-- A conversation goes on from an output with prepared inputs: `fed` goes in and `outputs` come
out, until no input fits, with the engine as it is then, or a problem stops it. -/
inductive Plays (settings : Settings) :
    Engine → Output → List Text → List Text → List Operation → List Output →
      Except Problem Engine → Prop
  | stop {engine : Engine} {output : Output} {responses results : List Text}
      (h : next? output responses results = none) :
      Plays settings engine output responses results [] [] (.ok engine)
  | fail {engine after : Engine} {output : Output}
      {responses results responses' results' : List Text} {operation : Operation}
      {problem : Problem}
      (h : next? output responses results = some (operation, responses', results'))
      (hperform : operation.perform settings engine = (.moved (.error problem), after)) :
      Plays settings engine output responses results [operation] [] (.error problem)
  | next {engine after : Engine} {output shown : Output}
      {responses results responses' results' : List Text} {operation : Operation}
      {fed : List Operation} {outputs : List Output} {final : Except Problem Engine}
      (h : next? output responses results = some (operation, responses', results'))
      (hperform : operation.perform settings engine = (.moved (.ok shown), after))
      (hrest : Plays settings after shown responses' results' fed outputs final) :
      Plays settings engine output responses results (operation :: fed) (shown :: outputs) final

/-- The problem that stops a conversation, as an answer. -/
def problemOf : Except Problem Engine → List (Except Problem Output)
  | .ok _ => []
  | .error problem => [.error problem]

section Next

variable {output : Output} {responses results responses' results' : List Text}
variable {operation : Operation}

/-- What is fed next is a response to a prompt, or the result of a call. -/
theorem next?_cases (h : next? output responses results = some (operation, responses', results')) :
    (∃ response, operation = .respond (Text.trim response) ∧ responses = response :: responses' ∧
      results' = results ∧ ((∃ text, output = .prompt text) ∨ ∃ text, output = .retry text)) ∨
    (∃ result, operation = .completeCall result ∧ results = result :: results' ∧
      responses' = responses ∧ ∃ name, output = .call name) := by
  unfold next? at h
  split at h
  · cases h
    exact .inr ⟨_, rfl, rfl, rfl, _, rfl⟩
  · cases h
    exact .inl ⟨_, rfl, rfl, rfl, .inl ⟨_, rfl⟩⟩
  · cases h
    exact .inl ⟨_, rfl, rfl, rfl, .inr ⟨_, rfl⟩⟩
  · cases h

/-- Every prepared input moves the engine. -/
theorem moves_of_next?
    (h : next? output responses results = some (operation, responses', results')) :
    operation.moves = true := by
  rcases next?_cases h with ⟨_, rfl, -⟩ | ⟨_, rfl, -⟩ <;> rfl

/-- Every step uses one of the prepared inputs up. -/
theorem length_of_next?
    (h : next? output responses results = some (operation, responses', results')) :
    responses'.length + results'.length < responses.length + results.length := by
  rcases next?_cases h with ⟨_, -, rfl, rfl, -⟩ | ⟨_, -, rfl, rfl, -⟩ <;> simp

/-- After the end nothing is fed. -/
theorem ne_finish_of_next?
    (h : next? output responses results = some (operation, responses', results')) :
    output ≠ .finish := by
  rcases next?_cases h with ⟨_, -, -, -, ⟨_, rfl⟩ | ⟨_, rfl⟩⟩ | ⟨_, -, -, -, _, rfl⟩ <;> simp

end Next

/-- Every prepared conversation takes some course. -/
theorem exists_plays (settings : Settings) (engine : Engine) (output : Output)
    (responses results : List Text) :
    ∃ fed outputs final, Plays settings engine output responses results fed outputs final := by
  -- every step uses up an input
  induction hsize : responses.length + results.length using Nat.strongRecOn
    generalizing engine output responses results with
  | _ size ih =>
    cases hnext : next? output responses results with
    | none => exact ⟨[], [], _, .stop hnext⟩
    | some step =>
      obtain ⟨operation, responses', results'⟩ := step
      obtain ⟨⟨answer, after⟩, hperform⟩ :=
        Engine.exists_moved settings engine (moves_of_next? hnext)
      cases answer with
      | error problem => exact ⟨[operation], [], _, .fail hnext hperform⟩
      | ok shown =>
        obtain ⟨fed, outputs, final, hrest⟩ := ih _ (hsize ▸ length_of_next? hnext) after shown
          responses' results' rfl
        exact ⟨operation :: fed, shown :: outputs, final, .next hnext hperform hrest⟩

/-! ## What is fed -/

/-- What is fed are the first responses, without the blanks around them, and the first results of
calls, and nothing else. -/
structure Fed (responses results : List Text) (fed : List Operation) : Prop where
  responses : fed.filterMap Operation.response? <+: responses.map Text.trim
  results : fed.filterMap Operation.callResult? <+: results
  inputs : ∀ operation ∈ fed,
    operation.response?.isSome = true ∨ operation.callResult?.isSome = true

/-- How many responses are among what is fed. -/
def usedResponses (fed : List Operation) : Nat := (fed.filterMap Operation.response?).length

/-- How many results of calls are among what is fed. -/
def usedResults (fed : List Operation) : Nat := (fed.filterMap Operation.callResult?).length

theorem usedResponses_cons (operation : Operation) (fed : List Operation) :
    usedResponses (operation :: fed) = usedResponses [operation] + usedResponses fed := by
  cases hresponse : operation.response? <;> simp [usedResponses, hresponse, Nat.add_comm]

theorem usedResults_cons (operation : Operation) (fed : List Operation) :
    usedResults (operation :: fed) = usedResults [operation] + usedResults fed := by
  cases hresult : operation.callResult? <;> simp [usedResults, hresult, Nat.add_comm]

section Feeding

variable {output : Output} {responses results responses' results' : List Text}
variable {operation : Operation} {fed : List Operation}

theorem Fed.nil (responses results : List Text) : Fed responses results [] :=
  ⟨List.nil_prefix, List.nil_prefix, by simp⟩

/-- What is fed first is the first of the prepared inputs of its sort. -/
theorem Fed.cons (h : next? output responses results = some (operation, responses', results'))
    (hfed : Fed responses' results' fed) : Fed responses results (operation :: fed) := by
  rcases next?_cases h with ⟨response, rfl, rfl, rfl, -⟩ | ⟨result, rfl, rfl, rfl, -⟩
  · refine ⟨?_, hfed.results, ?_⟩
    · simpa [Operation.response?] using hfed.responses
    · simpa [Operation.response?] using hfed.inputs
  · refine ⟨hfed.responses, ?_, ?_⟩
    · simpa [Operation.callResult?] using hfed.results
    · simpa [Operation.callResult?] using hfed.inputs

end Feeding

/-! ## The two views -/

section Views

variable {settings : Settings} {engine after : Engine} {output shown : Output}
variable {responses results responses' results' : List Text} {operation : Operation}
variable {progress : Progress} {answer : Except Problem Output}

/-- A response moves an engine exactly as answering it does. -/
theorem respond_eq_of_perform {response : Text}
    (h : (Operation.respond response).perform settings engine = (.moved answer, after)) :
    engine.respond settings response = (answer, after) := by
  simp only [Operation.perform, Prod.mk.injEq, Reply.moved.injEq] at h
  exact Prod.ext h.1 h.2

/-- A result moves an engine exactly as completing the call does. -/
theorem completeCall_eq_of_perform {result : Text}
    (h : (Operation.completeCall result).perform settings engine = (.moved answer, after)) :
    engine.completeCall settings result = (answer, after) := by
  simp only [Operation.perform, Prod.mk.injEq, Reply.moved.injEq] at h
  exact Prod.ext h.1 h.2

/-- Without another input the transcript ends with the last event. -/
theorem follow_of_none (h : next? output responses results = none) :
    Transcript.follow settings engine output responses results
      = .ok ⟨[.ofOutput output engine.diagnostics], engine.state⟩ := by
  rw [Transcript.follow.eq_def]
  dsimp only [Engine.takeDiagnostics]
  split
  · simp [next?] at h
  · simp [next?] at h
  · simp [next?] at h
  · rfl

/-- The operation finds the diagnostics taken away. -/
theorem follow_of_some
    (h : next? output responses results = some (operation, responses', results'))
    (hperform : operation.perform settings engine.takeDiagnostics.2 = (.moved answer, after)) :
    Transcript.follow settings engine output responses results
      = answer.bind fun shown =>
          (Transcript.follow settings after shown responses' results').map fun rest =>
            { rest with events := .ofOutput output engine.diagnostics :: rest.events } := by
  rw [Transcript.follow.eq_def]
  rcases next?_cases h with ⟨response, rfl, rfl, rfl, ⟨text, rfl⟩ | ⟨text, rfl⟩⟩ |
    ⟨result, rfl, rfl, rfl, name, rfl⟩ <;> dsimp only
  · rw [respond_eq_of_perform hperform]
    cases answer <;> rfl
  · rw [respond_eq_of_perform hperform]
    cases answer <;> rfl
  · rw [completeCall_eq_of_perform hperform]
    cases answer <;> rfl

/-- Engines that differ in their diagnostics at most answer the same. -/
theorem exists_perform_drained {other : Engine}
    (hother : other.takeDiagnostics.2 = engine.takeDiagnostics.2) (hmoves : operation.moves = true)
    (hperform : operation.perform settings engine = (.moved answer, after)) :
    ∃ after', operation.perform settings other.takeDiagnostics.2 = (.moved answer, after') ∧
      after'.takeDiagnostics.2 = after.takeDiagnostics.2 := by
  have hdrained : other.takeDiagnostics.2.takeDiagnostics.2 = engine.takeDiagnostics.2 := hother
  obtain ⟨hanswer, hafter⟩ := Engine.perform_of_drained_eq settings hdrained hmoves
  rw [hperform] at hanswer hafter
  exact ⟨(operation.perform settings other.takeDiagnostics.2).2, Prod.ext hanswer rfl, hafter⟩

/-- Without an input that fits, the test ends, and fails if a call is asked for. -/
theorem playOn_of_none (h : next? output responses results = none) :
    playOn settings progress output responses results
      = match output.call? with
        | some name => .error (.resultMissing progress.observed.length name)
        | none => .ok { progress with observed := output :: progress.observed } := by
  rw [playOn.eq_def]
  cases output with
  | finish => rfl
  | call name =>
    cases results with
    | nil => rfl
    | cons result results => simp [next?] at h
  | prompt text | retry text =>
    cases responses with
    | nil => rfl
    | cons response responses => simp [next?] at h

/-- With another input the runner performs it and goes on, unless the engine reports a problem. -/
theorem playOn_of_some
    (h : next? output responses results = some (operation, responses', results'))
    (hperform : operation.perform settings progress.engine = (.moved answer, after)) :
    playOn settings progress output responses results
      = (liftProblem answer).bind fun shown =>
          playOn settings
            { engine := after
              observed := output :: progress.observed
              usedResponses := progress.usedResponses + usedResponses [operation]
              usedResults := progress.usedResults + usedResults [operation] }
            shown responses' results' := by
  rw [playOn.eq_def]
  rcases next?_cases h with ⟨response, rfl, rfl, rfl, ⟨text, rfl⟩ | ⟨text, rfl⟩⟩ |
    ⟨result, rfl, rfl, rfl, name, rfl⟩ <;> dsimp only
  · rw [respond_eq_of_perform hperform]
    cases answer <;> rfl
  · rw [respond_eq_of_perform hperform]
    cases answer <;> rfl
  · rw [completeCall_eq_of_perform hperform]
    cases answer <;> rfl

end Views

namespace Plays

variable {settings : Settings} {engine : Engine} {output : Output}
variable {responses results : List Text} {fed : List Operation} {outputs : List Output}
variable {final : Except Problem Engine}

/-- Inputs are used in the order in which they were prepared, without gaps. -/
theorem fed_inputs (h : Plays settings engine output responses results fed outputs final) :
    Fed responses results fed := by
  induction h with
  | stop h => exact Fed.nil _ _
  | fail h _ => exact Fed.cons h (Fed.nil _ _)
  | next h _ _ ih => exact Fed.cons h ih

/-- The conversation has ended exactly if the last output is the end. -/
theorem ended_iff (h : Plays settings engine output responses results fed outputs final)
    (hengine : engine.ended = true ↔ output = .finish) {last : Engine} (hfinal : final = .ok last) :
    last.ended = true ↔ outputs.getLastD output = .finish := by
  induction h with
  | stop h =>
    cases hfinal
    exact hengine
  | fail h _ => cases hfinal
  | next h hperform hrest ih =>
    -- what is fed comes after an output that is not the end
    have hgoing := mt hengine.mp (ne_finish_of_next? h)
    rw [List.getLastD_cons]
    exact ih (Engine.ended_iff_of_moved (by simpa using hgoing) hperform) hfinal

/-- What is fed leads to the last engine. -/
theorem engine_eq (h : Plays settings engine output responses results fed outputs final)
    {last : Engine} (hfinal : final = .ok last) :
    ∀ (history : History), history.engine = engine →
      (fed.foldl (History.extend settings) history).engine = last := by
  induction h with
  | stop h =>
    cases hfinal
    exact fun _ hengine => hengine
  | fail h _ => cases hfinal
  | next h hperform hrest ih =>
    intro history hengine
    exact ih hfinal _ (congrArg Prod.snd (hengine ▸ hperform))

/-- What is fed is answered with the outputs, and with the problem if there is one. -/
theorem answers_eq (h : Plays settings engine output responses results fed outputs final) :
    ∀ (history : History), history.engine = engine →
      (fed.foldl (History.extend settings) history).answers
        = history.answers ++ (outputs.map .ok ++ problemOf final) := by
  induction h with
  | stop h => exact fun _ _ => by simp [problemOf]
  | fail h hperform =>
    intro history hengine
    rw [List.foldl_cons, List.foldl_nil, History.answers_extend, hengine, hperform]
    rfl
  | next h hperform hrest ih =>
    intro history hengine
    rw [List.foldl_cons, ih _ (congrArg Prod.snd (hengine ▸ hperform)), History.answers_extend,
      hengine, hperform]
    simp [Reply.result?]

/-- The transcript shows the outputs. -/
theorem follow_ok (h : Plays settings engine output responses results fed outputs final)
    {last : Engine} (hfinal : final = .ok last) :
    ∀ {other : Engine}, other.takeDiagnostics.2 = engine.takeDiagnostics.2 → ∃ transcript,
      Transcript.follow settings other output responses results = .ok transcript ∧
        transcript.outputs = output :: outputs ∧ transcript.finalState = last.state := by
  induction h with
  | stop h =>
    cases hfinal
    exact fun hother => ⟨_, follow_of_none h, by simp [Transcript.outputs],
      congrArg (·.state) hother⟩
  | fail h _ => cases hfinal
  | next h hperform hrest ih =>
    intro other hother
    obtain ⟨after', hperform', hafter⟩ := exists_perform_drained hother (moves_of_next? h) hperform
    obtain ⟨rest, hfollow, houtputs, hstate⟩ := ih hfinal hafter
    have hall := follow_of_some h hperform'
    rw [Except.bind, hfollow, Except.map] at hall
    refine ⟨_, hall, ?_, hstate⟩
    rw [Transcript.outputs, List.map_cons, Event.output_ofOutput]
    exact congrArg (List.cons _) houtputs

/-- The transcript stops at the problem. -/
theorem follow_error (h : Plays settings engine output responses results fed outputs final)
    {problem : Problem} (hfinal : final = .error problem) :
    ∀ {other : Engine}, other.takeDiagnostics.2 = engine.takeDiagnostics.2 →
      Transcript.follow settings other output responses results = .error problem := by
  induction h with
  | stop h => cases hfinal
  | fail h hperform =>
    intro other hother
    cases hfinal
    obtain ⟨after', hperform', -⟩ := exists_perform_drained hother (moves_of_next? h) hperform
    rw [follow_of_some h hperform']
    rfl
  | next h hperform hrest ih =>
    intro other hother
    obtain ⟨after', hperform', hafter⟩ := exists_perform_drained hother (moves_of_next? h) hperform
    rw [follow_of_some h hperform', Except.bind, ih hfinal hafter]
    rfl

/-- The test observes the outputs, but must not end with a call. -/
theorem playOn_ok (h : Plays settings engine output responses results fed outputs final)
    {last : Engine} (hfinal : final = .ok last) :
    ∀ {progress : Progress}, progress.engine = engine →
      playOn settings progress output responses results
        = match (outputs.getLastD output).call? with
          | some name =>
            .error (.resultMissing (progress.observed.length + outputs.length) name)
          | none => .ok
            { engine := last
              observed := (output :: outputs).reverse ++ progress.observed
              usedResponses := progress.usedResponses + usedResponses fed
              usedResults := progress.usedResults + usedResults fed } := by
  induction h with
  | stop h =>
    intro progress hengine
    cases hfinal
    rw [playOn_of_none h, ← hengine]
    rfl
  | fail h _ => cases hfinal
  | @next _ _ _ _ _ _ _ _ operation fed _ _ h hperform hrest ih =>
    intro progress hengine
    rw [playOn_of_some h (hengine ▸ hperform), liftProblem, Except.bind, ih hfinal rfl,
      List.getLastD_cons]
    dsimp only
    split
    · simp only [List.length_cons]
      rw [Nat.add_assoc, Nat.add_comm 1]
    · rw [usedResponses_cons operation fed, usedResults_cons operation fed]
      simp [Nat.add_assoc]

/-- The test stops at the problem. -/
theorem playOn_error (h : Plays settings engine output responses results fed outputs final)
    {problem : Problem} (hfinal : final = .error problem) :
    ∀ {progress : Progress}, progress.engine = engine →
      playOn settings progress output responses results = .error (.problem problem) := by
  induction h with
  | stop h => cases hfinal
  | fail h hperform =>
    intro progress hengine
    cases hfinal
    rw [playOn_of_some h (hengine ▸ hperform)]
    rfl
  | next h hperform hrest ih =>
    intro progress hengine
    rw [playOn_of_some h (hengine ▸ hperform), liftProblem, Except.bind, ih hfinal rfl]

end Plays

/-! ## The two runners -/

/-- No more responses are used than were prepared. -/
theorem Fed.usedResponses_le {responses results : List Text} {fed : List Operation}
    (h : Fed responses results fed) : usedResponses fed ≤ responses.length := by
  simpa [usedResponses] using h.responses.length_le

theorem Fed.usedResults_le {responses results : List Text} {fed : List Operation}
    (h : Fed responses results fed) : usedResults fed ≤ results.length :=
  h.results.length_le

/-- A transcript shows what the engine answers when just `fed` is fed to it, and its state then. -/
structure Shows (script : Script) (fed : List Operation) (told : Transcript) : Prop where
  answers : (History.after (.callerAnswered script) (.start :: fed)).answers
    = told.outputs.map .ok
  finalState : told.finalState
    = (History.after (.callerAnswered script) (.start :: fed)).engine.state

/-- How a transcript and a test of the same inputs compare, if `fed` is what went into the
conversation. -/
structure Compares (script : Script) (case : Case) (fed : List Operation)
    (transcript : Except Problem Transcript) (report : Except Fault Report) : Prop where
  inputs : Fed case.responses case.results fed
  shows : ∀ told, transcript = .ok told → Shows script fed told
  failed : ∀ problem, transcript = .error problem →
    (History.after (.callerAnswered script) (.start :: fed)).answers.getLast?
      = some (.error problem)
  /-- A report observes what the transcript shows, and counts what was fed. -/
  of_report : ∀ observed, report = .ok observed →
    (∃ told, transcript = .ok told ∧ told.outputs = observed.observed ∧
        (observed.ended = true ↔ told.outputs.getLast? = some .finish)) ∧
      observed.usedResponses = usedResponses fed ∧ observed.usedResults = usedResults fed
  of_transcript : ∀ told, transcript = .ok told →
    (∃ observed, report = .ok observed ∧ observed.observed = told.outputs) ∨
    (∃ index name, report = .error (.resultMissing index name)) ∨
    ∃ kind used total, report = .error (.unused kind used total)
  /-- The result of a call is missing exactly where the transcript stops at a call. -/
  missing_iff : ∀ told, transcript = .ok told → ∀ index name,
    report = .error (.resultMissing index name) ↔
      told.outputs.getLast? = some (.call name) ∧ index + 1 = told.outputs.length
  /-- Inputs are left over exactly if it stops elsewhere, at the end before the last response or
  anywhere before the last result. -/
  unused_iff : ∀ told, transcript = .ok told →
    ((∃ kind used total, report = .error (.unused kind used total)) ↔
      (∀ name, told.outputs.getLast? ≠ some (.call name)) ∧
      ((told.outputs.getLast? = some .finish ∧ usedResponses fed < case.responses.length) ∨
        usedResults fed < case.results.length))
  problem_iff : ∀ problem, transcript = .error problem ↔ report = .error (.problem problem)

/-- What a test makes of the inputs that are left over in the end. -/
def concluded (case : Case) (outputs : List Output) (responses results : Nat) (ended : Bool) :
    Except Fault Report :=
  if ended ∧ responses ≠ case.responses.length then
    .error (.unused .responses responses case.responses.length)
  else if results ≠ case.results.length then
    .error (.unused .results results case.results.length)
  else .ok ⟨outputs, responses, results, ended⟩

section Runners

variable {files : FileTree} {folder source : Text} {case : Case} {script : Script}
variable {output : Output}

/-- The transcript goes on from the first prompt. -/
theorem ofScript_eq_follow (hstart : script.contains Name.start = true)
    (hfinish : script.contains Name.finish = true) (responses results : List Text)
    (houtput : (History.after (.callerAnswered script) [.start]).engine.currentOutput
      = .ok output) :
    Transcript.ofScript script responses results
      = Transcript.follow (.callerAnswered script)
          (History.after (.callerAnswered script) [.start]).engine output responses results := by
  have hcreate := Engine.create_eq_after (.callerAnswered script) hstart hfinish
  rw [Transcript.ofScript, hcreate]
  dsimp only [bind, Except.bind]
  rw [houtput]

/-- A test goes on from the first prompt, too, and looks at what is left over in the end. -/
theorem run_eq_playOn (hread : readScript files folder case.script = .ok source)
    (hcompile : Script.compile source = .ok script)
    (houtput : (History.after (.callerAnswered script) [.start]).engine.currentOutput
      = .ok output) :
    run files folder case
      = (playOn (.callerAnswered script)
          ⟨(History.after (.callerAnswered script) [.start]).engine, [], 0, 0⟩ output
          case.responses case.results).bind fun progress =>
        concluded case progress.observed.reverse progress.usedResponses progress.usedResults
          progress.engine.ended := by
  obtain ⟨hstart, hfinish⟩ := Script.contains_of_compile hcompile
  have hcreate := Engine.create_eq_after (.callerAnswered script) hstart hfinish
  rw [run, hread]
  dsimp only [bind, Except.bind]
  rw [hcompile]
  dsimp only [liftProblem]
  rw [runScript, hcreate]
  dsimp only [bind, Except.bind, liftProblem]
  rw [houtput]
  rfl

end Runners

section Verdict

/-- What a test makes of a conversation that no problem stops. -/
def verdict (case : Case) (fed : List Operation) (outputs : List Output) (last : Output)
    (ended : Bool) : Except Fault Report :=
  match last.call? with
  | some name => .error (.resultMissing (outputs.length - 1) name)
  | none => concluded case outputs (usedResponses fed) (usedResults fed) ended

variable {case : Case} {fed : List Operation} {outputs : List Output} {last : Output} {ended : Bool}

/-- A conversation that stops at a call lacks the result of the call. -/
theorem verdict_of_call {name : Text} (h : last = .call name) :
    verdict case fed outputs last ended = .error (.resultMissing (outputs.length - 1) name) := by
  rw [verdict, Output.call?_eq_some_iff.mpr h]

/-- Stopped elsewhere, the conversation must have used up what it needs. -/
theorem verdict_cases (case : Case) (fed : List Operation) (outputs : List Output) (ended : Bool)
    (h : ∀ name, last ≠ .call name) :
    (((ended = true ∧ usedResponses fed ≠ case.responses.length) ∨
        usedResults fed ≠ case.results.length) ∧
      ∃ kind used total, verdict case fed outputs last ended = .error (.unused kind used total)) ∨
    (¬ ((ended = true ∧ usedResponses fed ≠ case.responses.length) ∨
        usedResults fed ≠ case.results.length) ∧
      verdict case fed outputs last ended
        = .ok ⟨outputs, usedResponses fed, usedResults fed, ended⟩) := by
  have hcall : last.call? = none :=
    Option.eq_none_iff_forall_ne_some.mpr fun name hname =>
      h name (Output.call?_eq_some_iff.mp hname)
  rw [verdict, hcall]
  dsimp only [concluded]
  split
  next hresponses => exact .inl ⟨.inl hresponses, _, _, _, rfl⟩
  next hresponses =>
    split
    next hresults => exact .inl ⟨.inr hresults, _, _, _, rfl⟩
    next hresults => exact .inr ⟨not_or.mpr ⟨hresponses, hresults⟩, rfl⟩

/-- The verdict is what a test comes to that is played from the start. -/
theorem playOn_bind_eq_verdict {settings : Settings} {engine after : Engine} {output : Output}
    (h : Plays settings engine output case.responses case.results fed outputs (.ok after)) :
    ((playOn settings ⟨engine, [], 0, 0⟩ output case.responses case.results).bind fun progress =>
        concluded case progress.observed.reverse progress.usedResponses progress.usedResults
          progress.engine.ended)
      = verdict case fed (output :: outputs) (outputs.getLastD output) after.ended := by
  rw [h.playOn_ok rfl rfl, verdict]
  cases (outputs.getLastD output).call? with
  | some name => simp [Except.bind]
  | none => simp [Except.bind]

end Verdict

section Comparison

variable {case : Case} {fed : List Operation} {script : Script} {told : Transcript}

/-- The transcript stops at a call that has no result. -/
theorem compares_of_call {name : Text} (hinputs : Fed case.responses case.results fed)
    (hshows : Shows script fed told)
    (hlast : told.outputs.getLast? = some (.call name)) :
    Compares script case fed (.ok told)
      (.error (.resultMissing (told.outputs.length - 1) name)) where
  inputs := hinputs
  shows _ htold := by cases htold; exact hshows
  failed _ hproblem := nomatch hproblem
  of_report _ hreport := nomatch hreport
  of_transcript _ _ := .inr (.inl ⟨_, _, rfl⟩)
  missing_iff _ htold index other := by
    cases htold
    have hpos : 0 < told.outputs.length :=
      List.length_pos_iff.mpr fun hnil => by simp [hnil] at hlast
    simp only [Except.error.injEq, Fault.resultMissing.injEq, hlast, Option.some.injEq,
      Output.call.injEq]
    exact ⟨fun ⟨hindex, hname⟩ => ⟨hname, by omega⟩, fun ⟨hname, hindex⟩ => ⟨by omega, hname⟩⟩
  unused_iff _ htold := by
    cases htold
    simp [hlast]
  problem_iff := by simp

/-- The transcript stops elsewhere, and inputs are left over. -/
theorem compares_of_unused (hinputs : Fed case.responses case.results fed)
    (hshows : Shows script fed told)
    (hlast : ∀ name, told.outputs.getLast? ≠ some (.call name))
    (hleft : (told.outputs.getLast? = some .finish ∧ usedResponses fed < case.responses.length) ∨
      usedResults fed < case.results.length) (kind : InputKind) (used total : Nat) :
    Compares script case fed (.ok told) (.error (.unused kind used total)) where
  inputs := hinputs
  shows _ htold := by cases htold; exact hshows
  failed _ hproblem := nomatch hproblem
  of_report _ hreport := nomatch hreport
  of_transcript _ _ := .inr (.inr ⟨_, _, _, rfl⟩)
  missing_iff _ htold _ _ := by
    cases htold
    simp [hlast]
  unused_iff _ htold := by
    cases htold
    exact iff_of_true ⟨_, _, _, rfl⟩ ⟨hlast, hleft⟩
  problem_iff := by simp

/-- The transcript stops elsewhere, and nothing is left over. -/
theorem compares_of_report {ended : Bool} (hinputs : Fed case.responses case.results fed)
    (hshows : Shows script fed told)
    (hlast : ∀ name, told.outputs.getLast? ≠ some (.call name))
    (hleft : ¬ ((told.outputs.getLast? = some .finish ∧
      usedResponses fed < case.responses.length) ∨ usedResults fed < case.results.length))
    (hended : ended = true ↔ told.outputs.getLast? = some .finish) :
    Compares script case fed (.ok told)
      (.ok ⟨told.outputs, usedResponses fed, usedResults fed, ended⟩) where
  inputs := hinputs
  shows _ htold := by cases htold; exact hshows
  failed _ hproblem := nomatch hproblem
  of_report _ hreport := by
    cases hreport
    exact ⟨⟨told, rfl, rfl, hended⟩, rfl, rfl⟩
  of_transcript _ htold := by
    cases htold
    exact .inl ⟨_, rfl, rfl⟩
  missing_iff _ htold _ _ := by
    cases htold
    simp [hlast]
  unused_iff _ htold := by
    cases htold
    exact iff_of_false (by simp) fun hright => hleft hright.2
  problem_iff := by simp

/-- A transcript to the end, and the verdict on it. -/
theorem compares_of_ok {last : Output} {ended : Bool}
    (hinputs : Fed case.responses case.results fed)
    (hshows : Shows script fed told)
    (hlast : told.outputs.getLast? = some last) (hended : ended = true ↔ last = .finish) :
    Compares script case fed (.ok told) (verdict case fed told.outputs last ended) := by
  by_cases hcall : ∃ name, last = .call name
  · obtain ⟨name, rfl⟩ := hcall
    rw [verdict_of_call rfl]
    exact compares_of_call hinputs hshows hlast
  · have hnot : ∀ name, last ≠ .call name := fun name hname => hcall ⟨name, hname⟩
    have hnotlast : ∀ name, told.outputs.getLast? ≠ some (.call name) := by simpa [hlast] using hnot
    have hfinish : ended = true ↔ told.outputs.getLast? = some .finish := by
      rw [hlast, Option.some.injEq, hended]
    have hresponses := hinputs.usedResponses_le
    have hresults := hinputs.usedResults_le
    -- no more is fed than there is, so what is not all of it is less
    have hleft : ((ended = true ∧ usedResponses fed ≠ case.responses.length) ∨
        usedResults fed ≠ case.results.length) ↔
        ((told.outputs.getLast? = some .finish ∧ usedResponses fed < case.responses.length) ∨
          usedResults fed < case.results.length) := by
      rw [← hfinish, Nat.lt_iff_le_and_ne, Nat.lt_iff_le_and_ne]
      simp only [hresponses, hresults, true_and]
    rcases verdict_cases case fed told.outputs ended hnot with
      ⟨hunused, kind, used, total, hverdict⟩ | ⟨hunused, hverdict⟩
    · rw [hverdict]
      exact compares_of_unused hinputs hshows hnotlast (hleft.mp hunused) kind used total
    · rw [hverdict]
      exact compares_of_report hinputs hshows hnotlast (mt hleft.mpr hunused) hfinish

/-- A problem stops both. -/
theorem compares_of_error {problem : Problem}
    (hinputs : Fed case.responses case.results fed)
    (hanswers : (History.after (.callerAnswered script) (.start :: fed)).answers.getLast?
      = some (.error problem)) :
    Compares script case fed (.error problem) (.error (.problem problem)) where
  inputs := hinputs
  shows _ htold := nomatch htold
  failed _ hproblem := by cases hproblem; exact hanswers
  of_report _ hreport := nomatch hreport
  of_transcript _ htold := nomatch htold
  missing_iff _ htold := nomatch htold
  unused_iff _ htold := nomatch htold
  problem_iff := by simp

end Comparison

/-- **A transcript and a test of the same inputs agree.** A test that passes through observes what
the transcript shows; it fails on missing or unused inputs exactly where the transcript stops at a
call or leaves inputs over; a problem that stops one of them stops the other; and the counts of a
report are the numbers of responses and results that were fed to the engine. -/
theorem transcript_and_run {files : FileTree} {folder source : Text} {case : Case} {script : Script}
    (hread : readScript files folder case.script = .ok source)
    (hcompile : Script.compile source = .ok script) :
    ∃ fed, Compares script case fed (Transcript.ofScript script case.responses case.results)
      (run files folder case) := by
  obtain ⟨hstart, hfinish⟩ := Script.contains_of_compile hcompile
  obtain ⟨text, houtput, hanswers, hgoing⟩ := Engine.exists_started (.callerAnswered script)
  -- both runners feed the same inputs to the engine
  obtain ⟨fed, outputs, final, hplays⟩ := exists_plays (.callerAnswered script)
    (History.after (.callerAnswered script) [.start]).engine (.prompt text) case.responses
    case.results
  refine ⟨fed, ?_⟩
  have hfed := hplays.answers_eq (History.after (.callerAnswered script) [.start]) rfl
  rw [hanswers] at hfed
  rw [ofScript_eq_follow hstart hfinish _ _ houtput, run_eq_playOn hread hcompile houtput]
  -- either a problem stops both, or neither is stopped
  cases final with
  | error problem =>
    rw [hplays.follow_error rfl rfl, hplays.playOn_error rfl rfl]
    refine compares_of_error hplays.fed_inputs ?_
    have hafter : (History.after (.callerAnswered script) (.start :: fed)).answers = _ := hfed
    rw [hafter, problemOf, ← List.append_assoc]
    exact List.getLast?_concat
  | ok last =>
    obtain ⟨told, hfollow, houtputs, hstate⟩ := hplays.follow_ok rfl rfl
    have hlast : told.outputs.getLast? = some (outputs.getLastD (.prompt text)) := by
      rw [houtputs, List.getLast?_cons, List.getLastD_eq_getLast?]
    have hshows : Shows script fed told :=
      { answers := hfed.trans (by simp [houtputs, problemOf])
        finalState := hstate.trans (congrArg Engine.state (hplays.engine_eq rfl _ rfl)).symm }
    rw [hfollow, playOn_bind_eq_verdict hplays, ← houtputs]
    exact compares_of_ok hplays.fed_inputs hshows hlast (hplays.ended_iff (by simp [hgoing]) rfl)

/-- A die is rolled with prepared inputs, and none is left over. -/
theorem transcript_and_run_dice :
    let source : Text := "start\n    Roll?\n    REST -> end\n    $call$ <- dice\n".toList
    let files : FileTree :=
      .directory [(Case.defaultScript, .file (source.map fun c => UInt8.ofNat c.toNat))]
    let case : Case :=
      { schemaVersion := Case.supportedVersion
        script := Case.defaultScript
        responses := [" go ".toList]
        results := [['3']]
        expected := [] }
    let outputs : List Output := [.prompt "Roll?".toList, .call "dice".toList, .finish]
    readScript files [] case.script = .ok source ∧
    ∃ script, Script.compile source = .ok script ∧
      run files [] case = .ok ⟨outputs, 1, 1, true⟩ ∧
      ∃ fed told, Fed case.responses case.results fed ∧
        usedResponses fed = 1 ∧ usedResults fed = 1 ∧
        Transcript.ofScript script case.responses case.results = .ok told ∧
        told.outputs = outputs := by
  intro source files case outputs
  have hread : readScript files [] case.script = .ok source := eq_ok_of_toOption (by decide +kernel)
  have hrun : run files [] case = .ok ⟨outputs, 1, 1, true⟩ := eq_ok_of_toOption (by decide +kernel)
  have hcompiles : (Script.compile source).toOption.isSome = true := by decide +kernel
  obtain ⟨script, hscript⟩ := Option.isSome_iff_exists.mp hcompiles
  have hcompile : Script.compile source = .ok script := eq_ok_of_toOption hscript
  obtain ⟨fed, hcompares⟩ := transcript_and_run hread hcompile
  obtain ⟨⟨told, htold, houtputs, -⟩, hresponses, hresults⟩ := hcompares.of_report _ hrun
  exact ⟨hread, script, hcompile, hrun, fed, told, hcompares.inputs, hresponses.symm, hresults.symm,
    htold, houtputs⟩

end Scenario

end DialogueScript
