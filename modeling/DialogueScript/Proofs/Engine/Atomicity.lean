import DialogueScript.Proofs.Engine.Diagnostics
import DialogueScript.Proofs.Engine.Kinds

/-!
# Assignments are atomic

An assignment is made, and then sets its own variable alone; or it is skipped or suspended, and then
sets none (`Engine.outcome_applyAssignment`). What it records is, in this order, what rendering its
text notes, and why it is skipped if it is (`Engine.recorded_applyAssignment`). So one problem is
the only trace of an assignment that cannot be made, and one that waits for its call leaves none
(`Engine.assignment_atomic`).
-/

namespace DialogueScript

/-- Does the assignment render its text? Not if its variable cannot be assigned, nor for a call. -/
def Assignment.renders (assignment : Assignment) : Bool :=
  Name.isVariable assignment.target && !Name.isEngineBound assignment.target
    && assignment.target != Name.call

/-- What rendering the text of an assignment notes. -/
def Assignment.notes (assignment : Assignment) (env : Environment) : List Problem :=
  if assignment.renders then
    (Template.renderNoting env (Engine.assignedKind env assignment).2).2
  else []

/-- A problem for which an assignment is skipped. -/
def Problem.IsSkip (problem : Problem) : Prop :=
  problem.kind = .badAssignment ∨ problem.kind = .host

/-- An assignment that is rejected by its name renders nothing and so notes nothing. -/
theorem Assignment.notes_eq_nil {assignment : Assignment} (env : Environment)
    (h : assignment.renders = false) : assignment.notes env = [] :=
  if_neg (by rw [h]; decide)

theorem Assignment.notes_eq {assignment : Assignment} (env : Environment)
    (h : assignment.renders = true) : assignment.notes env
      = (Template.renderNoting env (Engine.assignedKind env assignment).2).2 :=
  if_pos h

/-- The problems of a template are no reasons to skip an assignment. -/
theorem Assignment.not_isSkip_of_mem_notes {assignment : Assignment} {env : Environment}
    {problem : Problem} (h : problem ∈ assignment.notes env) : ¬ problem.IsSkip := by
  unfold notes at h
  split at h
  · rcases Template.mem_renderNoting h with ⟨fault, inner, rfl⟩ | ⟨inner, rfl⟩
    all_goals simp [Problem.IsSkip, Problem.kind]
  · cases h

namespace Engine

variable {settings : Settings} {engine : Engine} {assignment : Assignment}

/-- What an assignment records: some notes, and why it is skipped if it is. -/
def Recorded (engine : Engine) (notes : List Problem) (result : AssignOutcome × Engine) : Prop :=
  (result.1 = .skipped ∧ ∃ problem : Problem, problem.IsSkip ∧
    result.2.diagnostics = engine.diagnostics ++ notes ++ [problem]) ∨
  (result.1 ≠ .skipped ∧ result.2.diagnostics = engine.diagnostics ++ notes)

/-- A skipped assignment records one problem behind the notes. -/
theorem recorded_skipped {after : Engine} {notes : List Problem} {problem : Problem}
    (h : after.diagnostics = engine.diagnostics ++ notes) (hskip : problem.IsSkip) :
    Recorded engine notes (.skipped, after.record [problem]) :=
  .inl ⟨rfl, problem, hskip, by rw [← h]; rfl⟩

theorem recorded_skip (engine : Engine) (fault : AssignmentFault) (assignment : Assignment) :
    Recorded engine [] (engine.skip fault assignment) :=
  recorded_skipped (List.append_nil _).symm (.inl rfl)

/-- A call records a problem exactly if it is skipped. -/
theorem recorded_dispatchCall (settings : Settings) (engine : Engine) (assignment : Assignment) :
    Recorded engine [] (engine.dispatchCall settings assignment) := by
  unfold dispatchCall
  dsimp only
  split
  · exact recorded_skip engine .unknownCall assignment
  · split
    · exact .inr ⟨by simp, by simp⟩
    · split
      · exact .inr ⟨by simp, by simp [Engine.bind]⟩
      · exact recorded_skipped (List.append_nil _).symm (.inr rfl)

/-- Only an assignment that comes to its text notes anything, and it notes it before it can be
skipped. -/
theorem recorded_applyAssignment (settings : Settings) (engine : Engine) (assignment : Assignment) :
    Recorded engine (assignment.notes engine.environment)
      (engine.applyAssignment settings assignment) := by
  unfold applyAssignment
  split
  next hname =>
    rw [Assignment.notes_eq_nil _ (by simp_all [Assignment.renders])]
    exact recorded_skip engine .invalidName assignment
  next hname =>
    split
    next hbound =>
      rw [Assignment.notes_eq_nil _ (by simp_all [Assignment.renders])]
      exact recorded_skip engine .reservedName assignment
    next hbound =>
      split
      next htarget =>
        rw [Assignment.notes_eq_nil _ (by simp_all [Assignment.renders])]
        exact recorded_dispatchCall settings engine assignment
      next htarget =>
        -- only here is the text rendered
        rw [Assignment.notes_eq _ (by simp_all [Assignment.renders])]
        dsimp only
        split
        · exact .inr ⟨by simp, rfl⟩
        · exact recorded_skipped rfl (.inl rfl)

/-- **An assignment is atomic.** Whatever it is, it sets no variable but its own and goes to no
state, and unless it is made it sets none. It records what its text notes, then one problem more
exactly if it is skipped; nothing that was recorded before is lost. If it waits for a call, nothing
has changed. -/
theorem assignment_atomic (settings : Settings) (engine : Engine) (assignment : Assignment) :
    let result := engine.applyAssignment settings assignment
    let notes := assignment.notes engine.environment
    (∀ name, name ≠ assignment.target →
      result.2.environment.get? name = engine.environment.get? name) ∧
    result.2.environment.state = engine.environment.state ∧
    (result.1 ≠ .applied → result.2.environment = engine.environment) ∧
    (result.1 = .skipped → ∃ problem : Problem, problem.IsSkip ∧
      result.2.diagnostics = engine.diagnostics ++ notes ++ [problem]) ∧
    (result.1 ≠ .skipped → result.2.diagnostics = engine.diagnostics ++ notes) ∧
    (∀ problem ∈ notes, ¬ problem.IsSkip) ∧
    ∀ name, result.1 = .suspended name → result.2 = engine := by
  intro result notes
  have hstate : result.2.environment.state = engine.environment.state :=
    (frame_applyAssignment settings engine assignment).state
  have hothers : ∀ name, name ≠ assignment.target →
      result.2.environment.get? name = engine.environment.get? name := by
    -- an assignment that is made binds its own variable, and any other binds none
    intro name hname
    rcases outcome_applyAssignment settings engine assignment with ⟨-, hsound⟩ | ⟨-, hsame⟩
    · obtain ⟨value, hafter, -⟩ := hsound.value
      rw [show result.2.environment = _ from hafter, Environment.get?_bind, if_neg (Ne.symm hname)]
    · rw [show result.2.environment = _ from hsame]
  have hunmade : result.1 ≠ .applied → result.2.environment = engine.environment := fun hnot =>
    (outcome_applyAssignment settings engine assignment).elim (fun h => absurd h.1 hnot) (·.2)
  have hrecorded : Recorded engine notes result :=
    recorded_applyAssignment settings engine assignment
  exact ⟨hothers, hstate, hunmade,
    fun hskip => hrecorded.elim (·.2) fun h => absurd hskip h.1,
    fun hnot => hrecorded.elim (fun h => absurd h.1 hnot) (·.2),
    fun _ => Assignment.not_isSkip_of_mem_notes,
    fun _ hname => (suspended_cases (Prod.ext hname rfl)).2⟩

/-- A number that divides by zero is noted where it stands, then the assignment is skipped; the
variable keeps the value it has, and what was recorded before stays in front. -/
theorem assignment_atomic_divides :
    let amount : Text := "$n$".toList
    let old := Problem.noTransition Name.start ['x']
    let engine : Engine := (Engine.initial.bind amount (.number (.int 5))).record [old]
    let assignment : Assignment := ⟨amount, "!num \x7b1 % 0\x7d".toList⟩
    let result := engine.applyAssignment (Settings.ofScript Script.seeded) assignment
    result.1 = .skipped ∧ result.2.environment.get? amount = some (.number (.int 5)) ∧
    ∃ problem : Problem, problem.IsSkip ∧
      result.2.diagnostics = [old, .arithmetic .divisionByZero "1 % 0".toList, problem] := by
  intro amount old engine assignment result
  have hskip : result.1 = .skipped := by decide +kernel
  have hnotes : engine.diagnostics ++ assignment.notes engine.environment
      = [old, .arithmetic .divisionByZero "1 % 0".toList] := by decide +kernel
  obtain ⟨-, -, hunmade, hskipped, -⟩ :=
    assignment_atomic (Settings.ofScript Script.seeded) engine assignment
  obtain ⟨problem, hproblem, hdiagnostics⟩ := hskipped hskip
  rw [hnotes] at hdiagnostics
  refine ⟨hskip, ?_, problem, hproblem, hdiagnostics⟩
  have hsame : result.2.environment = engine.environment := hunmade (by rw [hskip]; simp)
  rw [hsame]
  decide +kernel

end Engine

end DialogueScript
