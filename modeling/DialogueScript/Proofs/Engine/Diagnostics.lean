import DialogueScript.Proofs.Engine.Deferral

/-!
# What a conversation records

A conversation goes on after most of its problems and records them. Each recorded problem has one of
few causes (`Recordable`): a template that could not be rendered, a guard that could not be
evaluated, a response that no transition accepts, an assignment of the script that is skipped, or a
call that the host was made and that failed. This holds whatever is asked of an engine
(`History.recordable_after`), so what a script and its settings exclude is never recorded.
-/

namespace DialogueScript

/-! ## Causes -/

/-- Why an assignment is skipped. -/
inductive Skips (settings : Settings) (assignment : Assignment) : AssignmentFault → Prop
  | invalidName (h : Name.isVariable assignment.target = false) :
    Skips settings assignment .invalidName
  | reservedName (h : Name.isEngineBound assignment.target = true) :
    Skips settings assignment .reservedName
  | unknownCall (htarget : assignment.target = Name.call)
    (h : settings.hosts.contains (Text.trim assignment.value) = false) :
    Skips settings assignment .unknownCall
  | illTyped (fault : Expr.Fault) : Skips settings assignment (.illTyped fault)

/-- An assignment of the script. -/
def Script.Assigns (script : Script) (assignment : Assignment) : Prop :=
  ∃ key state, script.get? key = some state ∧ assignment ∈ state.assignments

/-- A problem that a conversation can record. -/
inductive Recordable (settings : Settings) : Problem → Prop
  | arithmetic (fault : Expr.Fault) (t : Text) : Recordable settings (.arithmetic fault t)
  | optionGuard (t : Text) : Recordable settings (.optionGuard t)
  | guardFailed (fault : Expr.Fault) (guard : Text) : Recordable settings (.guardFailed fault guard)
  | noTransition (state response : Text) : Recordable settings (.noTransition state response)
  | assignment {assignment : Assignment} {fault : AssignmentFault}
    (hassigns : settings.script.Assigns assignment) (hskips : Skips settings assignment fault) :
    Recordable settings (.assignment fault assignment.target assignment.value)
  | hostCall {name : Text} {failure : HostFailure} {earlier : Nat}
    (hsync : settings.deferCalls = false) (hknown : settings.hosts.contains name = true)
    (hcall : settings.hosts.call name earlier = .error failure) :
    Recordable settings (.hostCall failure name)

variable {settings : Settings}

/-! ## Templates and guards -/

namespace Template

/-- What replacing all braces notes was noted on one replacement. -/
theorem mem_resolveSpans {wanted : Text → Bool} {replace : Text → Text × List Problem}
    {problem : Problem} {fuel : Nat} {t : Text}
    (h : problem ∈ (resolveSpans wanted replace fuel t).2) :
    ∃ inner, problem ∈ (replace inner).2 := by
  induction fuel generalizing t with
  | zero => simp [resolveSpans] at h
  | succ fuel ih =>
    rw [resolveSpans] at h
    split at h
    next => simp at h
    next span _ =>
      rcases List.mem_append.mp h with hfirst | hrest
      · exact ⟨span.inner, hfirst⟩
      · exact ih hrest

/-- Rendering notes arithmetic that has no value and choices that have no guard. -/
theorem mem_renderNoting {env : Environment} {t : Text} {problem : Problem}
    (h : problem ∈ (renderNoting env t).2) :
    (∃ fault inner, problem = .arithmetic fault inner) ∨ ∃ inner, problem = .optionGuard inner := by
  rcases List.mem_append.mp h with harithmetic | hchoice
  · obtain ⟨inner, hinner⟩ := mem_resolveSpans harithmetic
    unfold arithmeticText at hinner
    split at hinner
    · simp at hinner
    · exact .inl ⟨_, _, List.mem_singleton.mp hinner⟩
  · obtain ⟨inner, hinner⟩ := mem_resolveSpans hchoice
    unfold chooseOption at hinner
    dsimp only at hinner
    split at hinner
    · simp at hinner
    · split at hinner
      · simp at hinner
      · exact .inr ⟨_, List.mem_singleton.mp hinner⟩

/-- Rendering records arithmetic faults and guards of options only. -/
theorem recordable_renderNoting {env : Environment} {t : Text} {problem : Problem}
    (h : problem ∈ (renderNoting env t).2) : Recordable settings problem := by
  rcases mem_renderNoting h with ⟨fault, inner, rfl⟩ | ⟨inner, rfl⟩
  · exact .arithmetic fault inner
  · exact .optionGuard inner

end Template

namespace Engine

/-- A guard records its own failure only. -/
theorem recordable_guardHolds {env : Environment} {key : TransitionKey} {problem : Problem}
    (h : problem ∈ (guardHolds env key).2) : Recordable settings problem := by
  unfold guardHolds at h
  split at h
  · simp at h
  · split at h
    · simp at h
    · rw [List.mem_singleton.mp h]
      exact .guardFailed _ _

/-- The scan records what the guards on its way do. -/
theorem recordable_firstAccepting {env : Environment} {response : Text} {problem : Problem}
    {transitions : List Transition} (h : problem ∈ (firstAccepting env response transitions).2) :
    Recordable settings problem := by
  induction transitions with
  | nil => simp [firstAccepting] at h
  | cons transition rest ih =>
    rw [firstAccepting] at h
    split at h
    · exact ih h
    · dsimp only at h
      split at h
      · exact recordable_guardHolds h
      · rcases List.mem_append.mp h with hguard | hrest
        · exact recordable_guardHolds hguard
        · exact ih hrest

/-- Resolving a response records failures of guards only. -/
theorem recordable_resolve {env : Environment} {state : ScriptState} {response : Text}
    {problem : Problem} (h : problem ∈ (resolve env state response).2) :
    Recordable settings problem := by
  have hfirst : problem ∈ (firstAccepting env response state.ordered).2 := by
    unfold resolve at h
    split at h
    next heq =>
      rw [heq]
      exact h
    next heq =>
      rw [heq]
      exact h
  exact recordable_firstAccepting hfirst

/-! ## Assignments -/

/-- Everything that is recorded has a cause. -/
def Records (settings : Settings) (engine : Engine) : Prop :=
  ∀ problem ∈ engine.diagnostics, Recordable settings problem

variable {engine : Engine}

theorem Records.record (h : Records settings engine) {problems : List Problem}
    (hproblems : ∀ problem ∈ problems, Recordable settings problem) :
    Records settings (engine.record problems) := by
  intro problem hmem
  rcases List.mem_append.mp hmem with hbefore | hnow
  · exact h problem hbefore
  · exact hproblems problem hnow

theorem Records.render (h : Records settings engine) (template : Text) :
    Records settings (engine.render settings template).2 :=
  h.record fun _ hmem => Template.recordable_renderNoting hmem

/-- An assignment of the script may be skipped for a reason. -/
theorem Records.skip (h : Records settings engine) {assignment : Assignment}
    {fault : AssignmentFault} (hassigns : settings.script.Assigns assignment)
    (hskips : Skips settings assignment fault) :
    Records settings (engine.skip fault assignment).2 :=
  h.record fun _ hmem => List.mem_singleton.mp hmem ▸ .assignment hassigns hskips

/-- A call is skipped because no host has the name or because the host fails. -/
theorem Records.dispatchCall (h : Records settings engine) {assignment : Assignment}
    (hassigns : settings.script.Assigns assignment) (htarget : assignment.target = Name.call) :
    Records settings (engine.dispatchCall settings assignment).2 := by
  unfold Engine.dispatchCall
  dsimp only
  split
  next hunknown => exact h.skip hassigns (.unknownCall htarget (by simpa using hunknown))
  next hknown =>
    split
    next => exact h
    next hsync =>
      split
      next => exact h
      next failure hcall =>
        refine Records.record h fun problem hmem => ?_
        rw [List.mem_singleton.mp hmem]
        exact .hostCall (by simpa using hsync) (by simpa using hknown) hcall

/-- An assignment of the script records why it is skipped, and what its template says wrong. -/
theorem Records.applyAssignment (h : Records settings engine) {assignment : Assignment}
    (hassigns : settings.script.Assigns assignment) :
    Records settings (engine.applyAssignment settings assignment).2 := by
  unfold Engine.applyAssignment
  split
  next hname => exact h.skip hassigns (.invalidName (by simpa using hname))
  next =>
    split
    next hbound => exact h.skip hassigns (.reservedName hbound)
    next =>
      split
      next htarget => exact h.dispatchCall hassigns htarget
      next =>
        have hrendered : Records settings (engine.record
            (Template.renderNoting engine.environment
              (assignedKind engine.environment assignment).2).2) :=
          h.record fun _ hmem => Template.recordable_renderNoting hmem
        dsimp only
        split
        · exact hrendered
        · exact hrendered.skip hassigns (.illTyped _)

/-! ## Turns -/

/-- The end of a turn records what the prompt does. -/
theorem Records.finishTurn (h : Records settings engine) (target : Text) :
    Records settings (engine.finishTurn settings target).2 := by
  cases hnext : settings.script.get? target with
  | none =>
    rw [finishTurn_of_none settings engine hnext]
    exact h
  | some next =>
    by_cases htarget : target = Name.finish
    · rw [finishTurn_of_finish settings engine hnext htarget]
      exact h
    · rw [finishTurn_of_ne_finish settings engine hnext htarget]
      have hmoved : Records settings (engine.moved target) := h
      exact hmoved.render next.prompt

/-- Assignments of the script record recordable problems only, and so does the turn that they end.
-/
theorem Records.runAssignments {assignments : List Assignment} {target : Text} {next : Nat}
    (hassigns : ∀ assignment ∈ assignments, settings.script.Assigns assignment)
    (h : Records settings engine) :
    Records settings (engine.runAssignments settings target next assignments).2 := by
  induction assignments generalizing engine next with
  | nil => exact h.finishTurn target
  | cons assignment rest ih =>
    obtain ⟨hfirst, hrest⟩ := List.forall_mem_cons.mp hassigns
    have happlied := h.applyAssignment hfirst
    rw [Engine.runAssignments]
    split
    next heq =>
      rw [heq] at happlied
      exact happlied
    next heq =>
      rw [heq] at happlied
      exact ih hrest happlied

/-- The assignments that an engine runs are those of a state of the script. -/
theorem assigns_of_mem_assignments {assignment : Assignment}
    (h : assignment ∈ engine.assignments settings) : settings.script.Assigns assignment := by
  unfold Engine.assignments at h
  cases hstate : settings.script.get? engine.state with
  | none => simp [hstate] at h
  | some state => exact ⟨engine.state, state, hstate, by simpa [hstate] using h⟩

theorem Records.runTurn (h : Records settings engine) (turn : Turn) :
    Records settings (engine.runTurn settings turn).2 :=
  Records.runAssignments
    (fun _ hmem => assigns_of_mem_assignments (List.mem_of_mem_drop hmem)) h

/-- Asking again records what the retry or the prompt does. -/
theorem Records.askAgain (h : Records settings engine) (state : ScriptState) :
    Records settings (engine.askAgain settings state).2 := by
  unfold Engine.askAgain
  split
  · exact h.render _
  · exact h.render _

/-! ## Operations -/

/-- A response records recordable problems only, whether it is accepted or not. -/
theorem Records.respond (h : Records settings engine) (response : Text) :
    Records settings (engine.respond settings response).2 := by
  -- an accepted response begins with nothing recorded
  have hheard : Records settings (engine.heard response) := fun _ hmem => nomatch hmem
  have hresolved {state : ScriptState} {resolved : Option Resolved} {problems : List Problem}
      (hresolve : resolve (engine.heard response).environment state response
        = (resolved, problems)) : Records settings ((engine.heard response).record problems) :=
    hheard.record fun problem hmem => recordable_resolve (by rw [hresolve]; exact hmem)
  have hresponds := responds settings engine response
  generalize engine.respond settings response = result at hresponds
  cases hresponds with
  | refused hproblem => exact h
  | unknown hnone hstate => exact hheard
  | again hnone hstate hresolve =>
    refine Records.askAgain ((hresolved hresolve).record fun problem hmem => ?_) _
    rw [List.mem_singleton.mp hmem]
    exact .noTransition _ _
  | turn hnone hstate hresolve =>
    refine Records.runTurn ?_ _
    exact hresolved hresolve

theorem Records.completeCall (h : Records settings engine) (result : Text) :
    Records settings (engine.completeCall settings result).2 := by
  cases hwaiting : engine.waitingCall with
  | none =>
    rw [completeCall_of_waitingCall settings result hwaiting]
    exact h
  | some name =>
    obtain ⟨turn, hcall⟩ := waitingCall_eq_some_iff.mp hwaiting
    rw [completeCall_of_call settings result hcall]
    refine Records.runTurn ?_ turn
    exact h

theorem Records.start (h : Records settings engine) :
    Records settings (engine.start settings).2 := by
  unfold Engine.start
  split
  · exact h
  · have hcleared : Records settings { engine with diagnostics := [] } := fun _ hmem => nomatch hmem
    exact hcleared.render _

/-- Every operation records what has a cause. -/
theorem Records.perform (h : Records settings engine) (operation : Operation) :
    Records settings (operation.perform settings engine).2 := by
  cases operation with
  | start => exact h.start
  | respond response => exact h.respond response
  | completeCall result => exact h.completeCall result
  | currentOutput => exact h
  | takeDiagnostics => exact fun _ hmem => nomatch hmem

end Engine

/-- The codes of what no settings and no names of a script exclude. -/
def ordinaryCodes : List Text :=
  ["TEMPLATE_ARITHMETIC".toList, "TEMPLATE_CONDITIONAL_GUARD".toList, "ENGINE_GUARD_FAILED".toList,
    "ENGINE_NO_TRANSITION".toList, "ENGINE_ASSIGN_RESERVED".toList, "ENGINE_ASSIGN_TYPE".toList]

/-- Any other code comes from a name that is none, from a call that is not known or from the
host. -/
theorem Recordable.code_cases {problem : Problem} (h : Recordable settings problem) :
    problem.code ∈ ordinaryCodes ∨
    (∃ assignment, settings.script.Assigns assignment ∧
      Name.isVariable assignment.target = false ∧
      problem.code = "ENGINE_ASSIGN_NAME_INVALID".toList) ∨
    (∃ assignment, settings.script.Assigns assignment ∧ assignment.target = Name.call ∧
      settings.hosts.contains (Text.trim assignment.value) = false ∧
      problem.code = "ENGINE_CALL_UNKNOWN".toList) ∨
    (settings.deferCalls = false ∧ ∃ name failure earlier, problem = .hostCall failure name ∧
      settings.hosts.call name earlier = .error failure) := by
  have hordinary : ∀ code, code ∈ ordinaryCodes → problem.code = code →
      problem.code ∈ ordinaryCodes := fun code hmem hcode => hcode ▸ hmem
  cases h with
  | arithmetic fault t => exact .inl (hordinary "TEMPLATE_ARITHMETIC".toList (by decide) rfl)
  | optionGuard t => exact .inl (hordinary "TEMPLATE_CONDITIONAL_GUARD".toList (by decide) rfl)
  | guardFailed fault guard => exact .inl (hordinary "ENGINE_GUARD_FAILED".toList (by decide) rfl)
  | noTransition state response =>
    exact .inl (hordinary "ENGINE_NO_TRANSITION".toList (by decide) rfl)
  | hostCall hsync _ hcall => exact .inr (.inr (.inr ⟨hsync, _, _, _, rfl, hcall⟩))
  | assignment hassigns hskips =>
    cases hskips with
    | invalidName hname => exact .inr (.inl ⟨_, hassigns, hname, rfl⟩)
    | reservedName _ => exact .inl (hordinary "ENGINE_ASSIGN_RESERVED".toList (by decide) rfl)
    | unknownCall htarget hunknown => exact .inr (.inr (.inl ⟨_, hassigns, htarget, hunknown, rfl⟩))
    | illTyped fault => exact .inl (hordinary "ENGINE_ASSIGN_TYPE".toList (by decide) rfl)

/-- A call that fails was of a name that the host knows. -/
theorem Recordable.known_of_hostCall {failure : HostFailure} {name : Text}
    (h : Recordable settings (.hostCall failure name)) :
    settings.hosts.contains name = true := by
  cases h with
  | hostCall _ hknown _ => exact hknown

/-- After every run, everything that is recorded has a cause. -/
theorem History.recordable_after (settings : Settings) (operations : List Operation) :
    (History.after settings operations).engine.Records settings :=
  History.after_induction (P := fun history => history.engine.Records settings)
    (fun _ hmem => nomatch hmem) (fun _ operation h => h.perform operation) operations

end DialogueScript
