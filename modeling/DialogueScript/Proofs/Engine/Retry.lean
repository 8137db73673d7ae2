import DialogueScript.Proofs.Engine.Presentation
import DialogueScript.Proofs.Engine.Resolution

/-!
# Responses that no transition accepts

Such a response is remembered as the last one, and the conversation asks again. All else stays as it
was, but for the diagnostics of the turn: those of the guards, the response itself, and those of the
text that is shown (`Engine.respond_of_unmatched`). Nothing of this depends on the response before,
so the same response again makes no difference (`History.unmatched_after`).
-/

namespace DialogueScript

/-- The text with which a state asks again. -/
def Settings.retryText (settings : Settings) (env : Environment) (state : ScriptState) : Text :=
  match state.retry with
  | some retry => settings.shown (Template.render env retry)
  | none => settings.retryPreface ++ settings.shown (Template.render env state.prompt)

/-- What is wrong with the text with which a state asks again. -/
def ScriptState.retryProblems (state : ScriptState) (env : Environment) : List Problem :=
  (Template.renderNoting env (state.retry.getD state.prompt)).2

namespace Engine

/-- No transition of a state accepts a response, and there is no wildcard to fall back to. -/
def Unmatched (env : Environment) (state : ScriptState) (response : Text) : Prop :=
  ∀ transition ∈ state.transitions, transition.key.isWildcard = false ∧
    ∀ found, ¬ Accepts env response transition found

/-- The engine after a response that no transition accepts. -/
def retried (settings : Settings) (engine : Engine) (state : ScriptState) (response : Text) :
    Engine :=
  let env := engine.environment.bind Name.response (.text response)
  { engine with
    environment := env
    boundary := some (.response (.retry (settings.retryText env state)))
    diagnostics := state.transitions.filterMap (guardProblem? env response)
      ++ .noTransition engine.state response :: state.retryProblems env }

variable {settings : Settings} {engine : Engine} {state : ScriptState} {response : Text}

/-- Asking again records the problems of the words that it asks with, and waits. -/
theorem askAgain_eq (settings : Settings) (engine : Engine) (state : ScriptState) :
    engine.askAgain settings state =
      (engine.record (state.retryProblems engine.environment)).await
        (.retry (settings.retryText engine.environment state)) := by
  unfold askAgain Settings.retryText ScriptState.retryProblems
  cases state.retry <;> rfl

/-- A response that nothing matches resolves to nothing, after all guards were tried. -/
theorem Unmatched.resolves {env : Environment} (h : Unmatched env state response) :
    Resolves env state response
      (none, state.transitions.filterMap (guardProblem? env response)) :=
  .unresolved (fun transition hmem => (h transition hmem).2)
    fun transition hmem => (h transition hmem).1

/-- A response is unmatched exactly if it resolves to nothing. -/
theorem unmatched_iff {env : Environment} :
    Unmatched env state response ↔ (resolve env state response).1 = none := by
  constructor
  · intro h
    rw [h.resolves.eq]
  · intro h
    obtain ⟨outcome, hresolves⟩ := exists_resolves env state response
    rw [hresolves.eq] at h
    cases hresolves with
    | accepted | fallback => cases h
    | unresolved hnone hrests =>
      exact fun transition hmem => ⟨hrests transition hmem, hnone transition hmem⟩

/-- Such a response asks again, and what it leaves of the engine is not more than this. -/
theorem respond_of_unmatched (hawaits : engine.responseProblem? = none)
    (hstate : settings.script.get? engine.state = some state)
    (h : Unmatched (engine.heard response).environment state response) :
    engine.respond settings response
      = (.ok (.retry (settings.retryText (engine.heard response).environment state)),
          engine.retried settings state response) := by
  rw [respond_of_resolves hawaits hstate h.resolves, proceed, askAgain_eq]
  simp [await, record, retried, heard, Engine.bind, Engine.state]

theorem environment_heard_retried :
    ((engine.retried settings state response).heard response).environment
      = (engine.heard response).environment :=
  Environment.bind_bind _ _ _ _

/-- Asking again a second time comes to what it came to before. -/
theorem retried_retried : (engine.retried settings state response).retried settings state response
    = engine.retried settings state response := by
  simp only [retried, Environment.bind_bind, Engine.state, Environment.state_bind]

/-- The same response once more gives the same retry. -/
theorem respond_retried (hawaits : engine.responseProblem? = none)
    (hstate : settings.script.get? engine.state = some state)
    (h : Unmatched (engine.heard response).environment state response) :
    (engine.retried settings state response).respond settings response
      = engine.respond settings response := by
  have hagain : (engine.retried settings state response).responseProblem? = none :=
    responseProblem?_eq_none_iff.mpr ⟨(responseProblem?_eq_none_iff.mp hawaits).1, _, rfl⟩
  rw [respond_of_unmatched hawaits hstate h,
    respond_of_unmatched hagain hstate (by rw [environment_heard_retried]; exact h),
    retried_retried, environment_heard_retried]

end Engine

namespace History

/-- **A response that no transition accepts changes nothing but the last response.** After every run
that waits for a response, the conversation asks again: the response is bound, and no other variable
and no state is touched; no call is made; the same state awaits a response; and what is recorded is,
in this order, about guards, the response that no transition accepts, and the text that is shown.
The same response again has the same result, and leaves the engine as it is. -/
theorem unmatched_after (settings : Settings)
    (hstart : settings.script.contains Name.start = true) (operations : List Operation)
    (response : Text)
    (hawaits : ∃ output, (after settings operations).engine.boundary = some (.response output))
    (hunmatched : ∀ state,
      settings.script.get? (after settings operations).engine.state = some state →
      Engine.Unmatched ((after settings operations).engine.environment.bind Name.response
        (.text response)) state response) :
    let engine := (after settings operations).engine
    let result := engine.respond settings response
    ∃ text guards shown,
      result.1 = .ok (.retry text) ∧
      result.2.environment = engine.environment.bind Name.response (.text response) ∧
      result.2.state = engine.state ∧
      result.2.called = engine.called ∧
      result.2.ended = false ∧ result.2.boundary = some (.response (.retry text)) ∧
      result.2.diagnostics = guards ++ .noTransition engine.state response :: shown ∧
      (∀ problem ∈ guards, problem.code = "ENGINE_GUARD_FAILED".toList) ∧
      (Problem.noTransition engine.state response).code = "ENGINE_NO_TRANSITION".toList ∧
      result.2.respond settings response = result := by
  intro engine result
  obtain ⟨output, houtput⟩ := hawaits
  have hconsistent := (consistent_and_foreseen hstart operations).1
  have hended : engine.ended = false := (hconsistent.started_of_boundary (by simp [houtput])).1
  have hnone : engine.responseProblem? = none :=
    Engine.responseProblem?_eq_none_iff.mpr ⟨hended, output, houtput⟩
  obtain ⟨state, hstanding⟩ := hconsistent.standing hended
  have hstate : settings.script.get? engine.state = some state := hstanding.current
  have hrespond := Engine.respond_of_unmatched hnone hstate (hunmatched state hstate)
  have hresult : result.2 = engine.retried settings state response := by
    rw [show result = _ from hrespond]
  refine ⟨_, state.transitions.filterMap (Engine.guardProblem?
    (engine.heard response).environment response), _, congrArg Prod.fst hrespond,
    by rw [hresult]; rfl, by rw [hresult]; rfl, by rw [hresult]; rfl, by rw [hresult]; exact hended,
    by rw [hresult]; rfl, by rw [hresult]; rfl, fun _ => Engine.code_of_mem_guardProblems, rfl, ?_⟩
  -- the engine after the retry hears the same response as before
  rw [hresult]
  exact Engine.respond_retried hnone hstate (hunmatched state hstate)

/-- Tea is matched, but its guard divides by zero; what is shown then names the response, which is
not the one before. -/
theorem unmatched_after_tea :
    let tea : Pattern := (Pattern.ofSource? "^te".toList).get (by decide +kernel)
    let guard := "1 % ($counter$ - 1) == 0".toList
    let script := Script.seeded.define Name.start
      { prompt := "Tea?".toList
        transitions := [⟨.guarded tea guard, Name.finish⟩]
        assignments := [⟨"$drink$".toList, Name.response⟩]
        retry := some "No $response$?".toList }
    let settings := Settings.ofScript script
    let operations : List Operation := [.start, .respond "milk".toList]
    let engine := (after settings operations).engine
    let result := engine.respond settings "tea".toList
    script.contains Name.start = true ∧ (∃ output, engine.boundary = some (.response output)) ∧
    (∀ state, script.get? engine.state = some state → Engine.Unmatched
      (engine.environment.bind Name.response (.text "tea".toList)) state "tea".toList) ∧
    result.1 = .ok (.retry "No tea?".toList) ∧
    result.2.diagnostics = [.guardFailed .divisionByZero guard,
      .noTransition Name.start "tea".toList] ∧
    result.2.respond settings "tea".toList = result := by
  intro tea guard script settings operations engine result
  have hstart : script.contains Name.start = true := by decide
  have hawaits : ∃ output, engine.boundary = some (.response output) :=
    ⟨.retry "No milk?".toList, by decide +kernel⟩
  have hunmatched : ∀ state, script.get? engine.state = some state → Engine.Unmatched
      (engine.environment.bind Name.response (.text "tea".toList)) state "tea".toList := by
    intro state hstate
    have hleft : engine.state = Name.start := by decide +kernel
    rw [hleft] at hstate
    obtain rfl := Option.some.inj hstate
    exact Engine.unmatched_iff.mpr (by decide +kernel)
  have hshown : result.2.boundary = some (.response (.retry "No tea?".toList)) := by decide +kernel
  obtain ⟨text, guards, shown, hretry, -, -, -, -, hboundary, -, -, -, hagain⟩ :=
    unmatched_after settings hstart operations "tea".toList hawaits hunmatched
  have htext := hboundary.symm.trans hshown
  simp only [Option.some.injEq, Boundary.response.injEq, Output.retry.injEq] at htext
  rw [htext] at hretry
  exact ⟨hstart, hawaits, hunmatched, hretry, by decide +kernel, hagain⟩

end History

end DialogueScript
