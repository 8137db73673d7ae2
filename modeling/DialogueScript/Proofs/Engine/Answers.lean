import DialogueScript.Engine.Create
import DialogueScript.Proofs.Except
import DialogueScript.Proofs.Engine.Protocol

/-!
# What a conversation answers

A conversation that is created has answered its start (`Engine.create_eq_after`). From then on an
answer ends it exactly if it is the end (`Engine.ended_iff_of_moved`).
-/

namespace DialogueScript

namespace History

/-- What the history answered to all that moved it, in order. -/
def answers (history : History) : List (Except Problem Output) :=
  (history.events.filterMap (·.reply.result?)).reverse

/-- One operation more gives at most one answer more. -/
theorem answers_extend (settings : Settings) (history : History) (operation : Operation) :
    (history.extend settings operation).answers
      = history.answers ++ (operation.perform settings history.engine).1.result?.toList := by
  simp only [extend, answers]
  cases hresult : (operation.perform settings history.engine).1.result? <;>
    simp [hresult]

end History

namespace Engine

variable {settings : Settings}

/-- A conversation that was created has been started, and nothing else. -/
theorem create_eq_after (settings : Settings)
    (hstart : settings.script.contains Name.start = true)
    (hfinish : settings.script.contains Name.finish = true) :
    Engine.create settings = .ok (History.after settings [.start]).engine := by
  have hnew : Engine.new settings = .ok Engine.initial := by simp [Engine.new, hstart, hfinish]
  rw [Engine.create, hnew]
  rfl

/-- The first output is a prompt, which is waited on. -/
theorem exists_started (settings : Settings) :
    ∃ text, (History.after settings [.start]).engine.currentOutput = .ok (.prompt text) ∧
      (History.after settings [.start]).answers = [.ok (.prompt text)] ∧
      (History.after settings [.start]).engine.ended = false :=
  ⟨_, rfl, rfl, rfl⟩

/-! ## Answers that end the conversation -/

/-- What moves the conversation answers with an output or a problem. -/
theorem exists_moved (settings : Settings) (engine : Engine) {operation : Operation}
    (hmoves : operation.moves = true) :
    ∃ result : Result, operation.perform settings engine = (.moved result.1, result.2) := by
  cases operation with
  | start | respond _ | completeCall _ => exact ⟨_, rfl⟩
  | currentOutput | takeDiagnostics => cases hmoves

theorem ended_iff_of_going {after : Engine} {output : Output} (hgoing : after.ended = false)
    (houtput : output ≠ .finish) : after.ended = true ↔ output = .finish := by
  simp [hgoing, houtput]

/-- A turn ends the conversation exactly if it answers with the end. -/
theorem ended_iff_of_finishTurn {engine after : Engine} {target : Text} {output : Output}
    (hgoing : engine.ended = false)
    (h : engine.finishTurn settings target = (.ok output, after)) :
    after.ended = true ↔ output = .finish := by
  cases hnext : settings.script.get? target with
  | none =>
    rw [finishTurn_of_none settings engine hnext] at h
    cases h
  | some next =>
    by_cases htarget : target = Name.finish
    · rw [finishTurn_of_finish settings engine hnext htarget] at h
      cases h
      simp
    · rw [finishTurn_of_ne_finish settings engine hnext htarget] at h
      cases h
      exact ended_iff_of_going hgoing (by simp)

theorem ended_iff_of_runTurn {engine after : Engine} {turn : Turn} {output : Output}
    (hgoing : engine.ended = false) (h : engine.runTurn settings turn = (.ok output, after)) :
    after.ended = true ↔ output = .finish := by
  unfold runTurn at h
  dsimp only at h
  rcases runAssignments_cases settings turn.target _ turn.next engine with
    ⟨last, name, k, assignment, hlast, -, -, heq⟩ | ⟨last, hlast, heq⟩
  · rw [heq] at h
    cases h
    simp [hlast.ended, hgoing]
  · rw [heq] at h
    exact ended_iff_of_finishTurn (hlast.ended.trans hgoing) h

/-- A response ends the conversation exactly if it is answered with the end. -/
theorem ended_iff_of_respond {engine after : Engine} {response : Text} {output : Output}
    (hgoing : engine.ended = false)
    (h : engine.respond settings response = (.ok output, after)) :
    after.ended = true ↔ output = .finish := by
  have hresponds := responds settings engine response
  generalize engine.respond settings response = result at h hresponds
  cases hresponds with
  | refused hproblem => cases h
  | unknown hnone hstate => cases h
  | again hnone hstate hresolve =>
    unfold askAgain at h
    split at h <;> cases h <;> exact ended_iff_of_going hgoing (by simp)
  | turn hnone hstate hresolve =>
    refine ended_iff_of_runTurn ?_ h
    exact hgoing

/-- An answer of a conversation that goes on ends it exactly if it is the end. -/
theorem ended_iff_of_moved {engine after : Engine} {operation : Operation} {output : Output}
    (hgoing : engine.ended = false)
    (h : operation.perform settings engine = (.moved (.ok output), after)) :
    after.ended = true ↔ output = .finish := by
  cases operation with
  | start =>
    cases hfresh : engine.boundary.isSome || engine.ended with
    | true =>
      rw [Operation.perform, start_of_started settings hfresh] at h
      cases h
    | false =>
      obtain ⟨shown, problems, hshown⟩ := start_of_fresh settings hfresh
      rw [Operation.perform, hshown] at h
      cases h
      exact ended_iff_of_going hgoing (by simp)
  | respond response =>
    simp only [Operation.perform, Prod.mk.injEq, Reply.moved.injEq] at h
    exact ended_iff_of_respond hgoing (Prod.ext h.1 h.2)
  | completeCall result =>
    simp only [Operation.perform, Prod.mk.injEq, Reply.moved.injEq] at h
    cases hwaiting : engine.waitingCall with
    | none =>
      rw [completeCall_of_waitingCall settings result hwaiting] at h
      cases h.1
    | some name =>
      obtain ⟨turn, hcall⟩ := waitingCall_eq_some_iff.mp hwaiting
      rw [completeCall_of_call settings result hcall] at h
      refine ended_iff_of_runTurn ?_ (Prod.ext h.1 h.2)
      exact hgoing
  | currentOutput | takeDiagnostics => cases h

end Engine

end DialogueScript
