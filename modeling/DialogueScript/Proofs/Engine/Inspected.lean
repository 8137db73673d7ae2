import DialogueScript.Proofs.Engine.Reachable
import DialogueScript.Proofs.Script.Exploration

/-!
# Runs stay within what the inspections find

Whoever inspects a script knows beforehand where its conversations can go: no run comes to an
unreachable state, only unresolved targets are ever missing, and the host is only asked for the
calls that were found (`History.foreseen_after`). This holds for every host, since the answers to
its calls are free.

The invariant is `Engine.Foreseen`: a path of transitions leads to the current state, and a turn
that waits for a call has a target of that state in front of it. What an operation answers is
foreseen as seen from the state before it (`Engine.ForeseenFrom`).
-/

namespace DialogueScript

/-- What was answered, by an operation that has a result. -/
def Reply.result? : Reply → Option (Except Problem Output)
  | .moved result | .shown result => some result
  | .taken _ => none

namespace Engine

/-- The conversation is where the inspections of the script say that one can be. -/
structure Foreseen (script : Script) (engine : Engine) : Prop where
  state : script.Reachable engine.state
  called : ∀ name ∈ engine.called, name ∈ script.hostCalls
  call : ∀ name turn, engine.boundary = some (.call name turn) →
    name ∈ script.hostCalls ∧ turn.target ∈ script.targets engine.state
  response : ∀ output, engine.boundary = some (.response output) →
    ∀ name, output ≠ .call name

/-- An answer that the inspections of the script allow for an operation on a conversation in a
state. -/
structure ForeseenAnswer (script : Script) (origin : Text) (answer : Except Problem Output) :
    Prop where
  call : ∀ name, answer = .ok (.call name) → name ∈ script.hostCalls
  stateUnknown : ∀ problem, answer = .error problem →
    problem.code = "ENGINE_STATE_UNKNOWN".toList →
      ∃ target, problem = .targetUnknown target ∧ (origin, target) ∈ script.unresolved

/-- The result of an operation on a conversation in a state, with its answer. -/
structure ForeseenFrom (script : Script) (origin : Text) (result : Result) : Prop
    extends Foreseen script result.2 where
  answer : ForeseenAnswer script origin result.1

variable {settings : Settings} {engine : Engine} {script : Script} {origin target : Text}

/-! ## The calls of a turn -/

/-- An assignment that asks for a call. -/
def AsksFor (name : Text) (assignment : Assignment) : Prop :=
  assignment.target = Name.call ∧ Text.trim assignment.value = name

/-- A call asks a host by the name that is its value. -/
theorem called_dispatchCall {assignment : Assignment} {name : Text}
    (h : name ∈ (engine.dispatchCall settings assignment).2.called) :
    name ∈ engine.called ∨ Text.trim assignment.value = name := by
  unfold dispatchCall at h
  dsimp only at h
  split at h
  · exact .inl h
  · split at h
    · exact .inl h
    · split at h
      all_goals exact (List.mem_cons.mp h).symm.imp id Eq.symm

/-- Only the assignment of a call asks a host. -/
theorem called_applyAssignment {assignment : Assignment} {name : Text}
    (h : name ∈ (engine.applyAssignment settings assignment).2.called) :
    name ∈ engine.called ∨ AsksFor name assignment := by
  unfold applyAssignment at h
  split at h
  · exact .inl h
  · split at h
    · exact .inl h
    · split at h
      next htarget => exact (called_dispatchCall h).imp id fun hvalue => ⟨htarget, hvalue⟩
      next =>
        dsimp only at h
        split at h <;> exact .inl h

/-- The end of a turn asks nobody. -/
theorem called_finishTurn : (engine.finishTurn settings target).2.called = engine.called := by
  unfold finishTurn
  dsimp only
  split
  · rfl
  · split <;> rfl

/-- A turn calls nothing but what its assignments ask for. -/
theorem called_runAssignments {name : Text} {assignments : List Assignment} {next : Nat}
    (h : name ∈ (engine.runAssignments settings target next assignments).2.called) :
    name ∈ engine.called ∨ ∃ assignment ∈ assignments, AsksFor name assignment := by
  induction assignments generalizing engine next with
  | nil =>
    rw [runAssignments, called_finishTurn] at h
    exact .inl h
  | cons assignment rest ih =>
    -- suspended or not, the first assignment has called what it asks for at most
    have hfirst : name ∈ (engine.applyAssignment settings assignment).2.called →
        name ∈ engine.called ∨ ∃ asking ∈ assignment :: rest, AsksFor name asking :=
      fun hmem => (called_applyAssignment hmem).imp id fun hasks => ⟨assignment, by simp, hasks⟩
    rw [runAssignments] at h
    split at h
    next heq => exact hfirst (by rw [heq]; exact h)
    next heq =>
      rcases ih h with hcalled | ⟨asking, hmem, hasks⟩
      · exact hfirst (by rw [heq]; exact hcalled)
      · exact .inr ⟨asking, List.mem_cons_of_mem _ hmem, hasks⟩

/-! ## Moving the conversation -/

/-- Nothing is waited for before the start, after the end, and while a turn goes on. -/
theorem Foreseen.of_boundary (hstate : script.Reachable engine.state)
    (hcalled : ∀ name ∈ engine.called, name ∈ script.hostCalls) (hnone : engine.boundary = none) :
    Foreseen script engine where
  state := hstate
  called := hcalled
  call name turn hcall := by simp [hnone] at hcall
  response output houtput := by simp [hnone] at houtput

/-- At the beginning nothing was called, and the start is reachable. -/
theorem foreseen_initial : Foreseen script initial := .of_boundary .start (by simp [initial]) rfl

/-- What leaves the conversation where it is keeps it foreseen, if its calls are. -/
theorem Foreseen.of_samePlace {after : Engine} (h : Foreseen script engine)
    (hplace : SamePlace engine after) (hcalled : ∀ name ∈ after.called, name ∈ script.hostCalls) :
    Foreseen script after where
  state := by rw [hplace.state]; exact h.state
  called := hcalled
  call := by rw [hplace.state, hplace.boundary]; exact h.call
  response := by rw [hplace.boundary]; exact h.response

theorem ForeseenAnswer.of_call {name : Text} (h : name ∈ script.hostCalls) :
    ForeseenAnswer script origin (.ok (.call name)) where
  call asked heq := by
    rw [Except.ok.injEq, Output.call.injEq] at heq
    exact heq ▸ h
  stateUnknown problem heq := by simp at heq

theorem ForeseenAnswer.of_ok {output : Output} (h : ∀ name, output ≠ .call name) :
    ForeseenAnswer script origin (.ok output) where
  call name heq := absurd (Except.ok.inj heq) (h name)
  stateUnknown problem heq := by simp at heq

/-- A problem that is no unknown state is foreseen anyway. -/
theorem ForeseenAnswer.of_error {problem : Problem}
    (h : problem.code ≠ "ENGINE_STATE_UNKNOWN".toList) :
    ForeseenAnswer script origin (.error problem) where
  call name heq := by simp at heq
  stateUnknown other heq hcode := absurd (Except.error.inj heq ▸ hcode) h

/-- Waiting for a response to what is no call. -/
theorem Foreseen.await {output : Output} (hstate : script.Reachable engine.state)
    (hcalled : ∀ name ∈ engine.called, name ∈ script.hostCalls)
    (houtput : ∀ name, output ≠ .call name) :
    ForeseenFrom script origin (engine.await output) where
  state := hstate
  called := hcalled
  call name turn hcall := by simp [Engine.await] at hcall
  response other hother := by
    simp only [Engine.await, Option.some.injEq, Boundary.response.injEq] at hother
    exact hother ▸ houtput
  answer := .of_ok houtput

/-- The end of a turn: the target is reached from the state being left, and if it is no state, then
the inspections have named it. -/
theorem Foreseen.finishTurn (h : Foreseen settings.script engine)
    (htarget : target ∈ settings.script.targets engine.state) :
    ForeseenFrom settings.script engine.state (engine.finishTurn settings target) := by
  have hreach : settings.script.Reachable target := h.state.step htarget
  cases hnext : settings.script.get? target with
  | none =>
    rw [finishTurn_of_none settings engine hnext]
    have hmissed : (engine.state, target) ∈ settings.script.unresolved :=
      Script.mem_unresolved_iff.mpr ⟨htarget, contains_eq_false_iff.mpr hnext⟩
    exact
      { toForeseen := .of_boundary hreach h.called rfl
        answer :=
          { call := fun name hcall => by simp at hcall
            stateUnknown := fun problem hproblem _ =>
              ⟨target, (Except.error.inj hproblem).symm, hmissed⟩ } }
  | some next =>
    by_cases hfinish : target = Name.finish
    · rw [finishTurn_of_finish settings engine hnext hfinish]
      exact ⟨.of_boundary hreach h.called rfl, .of_ok (by simp)⟩
    · rw [finishTurn_of_ne_finish settings engine hnext hfinish]
      exact Foreseen.await hreach h.called (by simp)

/-- Whoever is asked for by an assignment of a state is found among the calls. -/
theorem mem_hostCalls_of_asksFor {key name : Text} {assignment : Assignment}
    (h : assignment ∈ ((script.get? key).map (·.assignments)).getD [])
    (hasks : AsksFor name assignment) : name ∈ script.hostCalls := by
  cases hstate : script.get? key with
  | none => simp [hstate] at h
  | some state =>
    rw [hstate] at h
    exact Script.mem_hostCalls_iff.mpr ⟨key, state, hstate, assignment, h, hasks⟩

/-- A turn to a target of the current state, from any of its assignments on. -/
theorem Foreseen.runTurn (h : Foreseen settings.script engine) {turn : Turn}
    (htarget : turn.target ∈ settings.script.targets engine.state) :
    ForeseenFrom settings.script engine.state (engine.runTurn settings turn) := by
  have hcalled : ∀ name ∈ (engine.runTurn settings turn).2.called,
      name ∈ settings.script.hostCalls := fun name hmem => by
    rcases called_runAssignments hmem with hbefore | ⟨assignment, hassignment, hasked⟩
    · exact h.called name hbefore
    · exact mem_hostCalls_of_asksFor (List.mem_of_mem_drop hassignment) hasked
  unfold Engine.runTurn at hcalled ⊢
  dsimp only at hcalled ⊢
  rcases runAssignments_cases settings turn.target (((settings.script.get? engine.state).map
      (·.assignments)).getD [] |>.drop turn.next) turn.next engine
    with ⟨last, name, k, assignment, hlast, hk, hname, hrun⟩ | ⟨last, hlast, hrun⟩
  · -- the turn stops at a call
    have hfound : name ∈ settings.script.hostCalls :=
      mem_hostCalls_of_asksFor (List.mem_of_mem_drop (List.mem_of_getElem? hk))
        ⟨hname.target, hname.value⟩
    rw [hrun] at hcalled ⊢
    exact
      { state := hlast.state ▸ h.state
        called := hcalled
        call := fun pending waiting hcall => by
          simp only [Option.some.injEq, Boundary.call.injEq] at hcall
          obtain ⟨rfl, rfl⟩ := hcall
          exact ⟨hfound, hlast.state ▸ htarget⟩
        response := fun output houtput => by simp at houtput
        answer := .of_call hfound }
  · -- the turn runs through to its end
    rw [hrun] at hcalled ⊢
    rw [called_finishTurn] at hcalled
    rw [← hlast.state] at htarget ⊢
    exact (h.of_samePlace hlast hcalled).finishTurn htarget

theorem Foreseen.start (h : Foreseen settings.script engine) :
    ForeseenFrom settings.script engine.state (engine.start settings) := by
  cases hfresh : (engine.boundary.isSome || engine.ended) with
  | true =>
    rw [start_of_started settings hfresh]
    exact ⟨h, .of_error (by decide)⟩
  | false =>
    obtain ⟨shown, problems, hstart⟩ := start_of_fresh settings hfresh
    rw [hstart]
    exact Foreseen.await h.state h.called (by simp)

/-- Asking again stays where it is. -/
theorem Foreseen.askAgain {state : ScriptState} (h : Foreseen settings.script engine) :
    ForeseenFrom settings.script origin (engine.askAgain settings state) := by
  unfold Engine.askAgain
  split <;> exact Foreseen.await h.state h.called (by simp)

/-- A response leads along a transition of the state, or asks again. -/
theorem Foreseen.respond (h : Foreseen settings.script engine)
    (hcoherent : Coherent settings engine) (response : Text) :
    ForeseenFrom settings.script engine.state (engine.respond settings response) := by
  have hresponds := responds settings engine response
  generalize engine.respond settings response = result at hresponds
  cases hresponds with
  | refused hproblem =>
    exact ⟨h, .of_error (code_of_protocol (kind_responseProblem? hproblem))⟩
  | unknown hnone hstate =>
    -- a coherent engine that waits for a response stands in a state of the script
    obtain ⟨state, hstanding⟩ := hcoherent.standing (responseProblem?_eq_none_iff.mp hnone).1
    cases hstate.symm.trans hstanding.current
  | again hnone hstate hresolve =>
    exact Foreseen.askAgain (h.of_samePlace ⟨rfl, rfl, rfl⟩ h.called)
  | @turn state problems resolved hnone hstate hresolve =>
    obtain ⟨transition, hmem, htakes⟩ := takes_of_resolve hresolve
    have htarget : resolved.target ∈ settings.script.targets engine.state :=
      Script.mem_targets_iff.mpr ⟨state, hstate, transition, hmem, htakes.target⟩
    have hmatched : Foreseen settings.script (((engine.heard response).record problems).bind
        Name.lastMatch (.text resolved.matched)) := h.of_samePlace ⟨rfl, rfl, rfl⟩ h.called
    exact hmatched.runTurn htarget

/-- The result of a call goes on to the target of its turn. -/
theorem Foreseen.completeCall (h : Foreseen settings.script engine) (result : Text) :
    ForeseenFrom settings.script engine.state (engine.completeCall settings result) := by
  cases hwaiting : engine.waitingCall with
  | none =>
    rw [completeCall_of_waitingCall settings result hwaiting]
    exact ⟨h, .of_error (by decide)⟩
  | some name =>
    obtain ⟨turn, hcall⟩ := waitingCall_eq_some_iff.mp hwaiting
    rw [completeCall_of_call settings result hcall]
    have hfreed : Foreseen settings.script
        (({ engine with boundary := none } : Engine).bind Name.call (.text result)) :=
      .of_boundary h.state h.called rfl
    exact hfreed.runTurn (h.call name turn hcall).2

/-- What the engine waits for was foreseen when it began to wait. -/
theorem Foreseen.currentOutput (h : Foreseen script engine) :
    ForeseenAnswer script engine.state engine.currentOutput := by
  unfold Engine.currentOutput
  split
  · exact .of_ok (by simp)
  · split
    next output hboundary => exact .of_ok (h.response output hboundary)
    next name turn hboundary => exact .of_call (h.call name turn hboundary).1
    next => exact .of_error (by decide)

/-- Every operation keeps the conversation foreseen, and its answer is foreseen from the state
before. -/
theorem Foreseen.perform (h : Foreseen settings.script engine)
    (hcoherent : Coherent settings engine) (operation : Operation) :
    Foreseen settings.script (operation.perform settings engine).2 ∧
    ∀ answer, (operation.perform settings engine).1.result? = some answer →
      ForeseenAnswer settings.script engine.state answer := by
  cases operation with
  | start => exact ⟨h.start.toForeseen, fun answer heq => Option.some.inj heq ▸ h.start.answer⟩
  | respond response =>
    have hresult := h.respond hcoherent response
    exact ⟨hresult.toForeseen, fun answer heq => Option.some.inj heq ▸ hresult.answer⟩
  | completeCall text =>
    have hresult := h.completeCall text
    exact ⟨hresult.toForeseen, fun answer heq => Option.some.inj heq ▸ hresult.answer⟩
  | currentOutput => exact ⟨h, fun answer heq => Option.some.inj heq ▸ h.currentOutput⟩
  | takeDiagnostics =>
    exact ⟨h.of_samePlace ⟨rfl, rfl, rfl⟩ h.called, fun answer heq => by
      simp [Operation.perform, Reply.result?] at heq⟩

end Engine

namespace History

/-- After every run the history is consistent and the conversation is where the inspections say. -/
theorem consistent_and_foreseen {settings : Settings}
    (hstart : settings.script.contains Name.start = true) (operations : List Operation) :
    (after settings operations).Consistent settings ∧
      Engine.Foreseen settings.script (after settings operations).engine :=
  -- that every current state is defined is what the consistency of the history is needed for
  after_induction (P := fun history =>
      history.Consistent settings ∧ Engine.Foreseen settings.script history.engine)
    ⟨consistent_empty hstart, Engine.foreseen_initial⟩
    (fun _ operation h => ⟨h.1.extend operation, (h.2.perform h.1.toCoherent operation).1⟩)
    operations

/-- **Runs stay within what the inspections find**: after any operations the current state is not
unreachable; the next operation misses a state only where its target was found unresolved, so not at
all if none is; and the calls it asks for, like all that were made, were found among the calls of
the script. -/
theorem foreseen_after (settings : Settings)
    (hstart : settings.script.contains Name.start = true) (operations : List Operation)
    (operation : Operation) :
    let engine := (after settings operations).engine
    let performed := operation.perform settings engine
    engine.state ∉ settings.script.unreachable ∧
    (∀ problem, performed.1.result? = some (.error problem) →
      problem.code = "ENGINE_STATE_UNKNOWN".toList →
        settings.script.unresolved ≠ [] ∧ ∃ target, problem = .targetUnknown target ∧
          (engine.state, target) ∈ settings.script.unresolved) ∧
    (∀ name, performed.1.result? = some (.ok (.call name)) → name ∈ settings.script.hostCalls) ∧
    ∀ name ∈ performed.2.called, name ∈ settings.script.hostCalls := by
  intro engine performed
  obtain ⟨hconsistent, hforeseen⟩ := consistent_and_foreseen hstart operations
  obtain ⟨hnext, hanswer⟩ := hforeseen.perform hconsistent.toCoherent operation
  refine ⟨hforeseen.state.notMem_unreachable, fun problem hproblem hcode => ?_,
    fun name hname => (hanswer _ hname).call name rfl, hnext.called⟩
  obtain ⟨target, htarget, hmem⟩ := (hanswer _ hproblem).stateUnknown problem rfl hcode
  exact ⟨List.ne_nil_of_mem hmem, target, htarget, hmem⟩

/-- A response that calls the host and then misses a state. -/
theorem foreseen_after_nowhere :
    let script : Script := Script.seeded.define Name.start
      { Script.defaultStart with
        transitions := [⟨.wildcard, "nowhere".toList⟩]
        assignments := [⟨Name.call, " roll".toList⟩] }
    let settings : Settings := { Settings.ofScript script with
      hosts := .answering [("roll".toList, fun _ => .ok ['6'])] }
    let engine := (after settings [.start]).engine
    let performed := (Operation.respond []).perform settings engine
    script.contains Name.start = true ∧
    performed.1.result? = some (.error (.targetUnknown "nowhere".toList)) ∧
    performed.2.called = ["roll".toList] ∧
    engine.state ∉ script.unreachable ∧
    (∃ target, Problem.targetUnknown "nowhere".toList = .targetUnknown target ∧
      (engine.state, target) ∈ script.unresolved) ∧
    "roll".toList ∈ script.hostCalls := by
  intro script settings engine performed
  have hstart : script.contains Name.start = true := by decide
  have hmissed : performed.1.result? = some (.error (.targetUnknown "nowhere".toList)) := rfl
  have hcalled : performed.2.called = ["roll".toList] := by decide +kernel
  obtain ⟨hstate, hunknown, -, hcalls⟩ := foreseen_after settings hstart [.start] (.respond [])
  exact ⟨hstart, hmissed, hcalled, hstate, (hunknown _ hmissed rfl).2,
    hcalls _ (by rw [hcalled]; exact List.mem_singleton_self _)⟩

end History

end DialogueScript
