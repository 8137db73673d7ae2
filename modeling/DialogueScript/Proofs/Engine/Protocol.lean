import DialogueScript.Proofs.Engine.Inspected

/-!
# Operations out of turn

A conversation is started once, takes a response while it waits for one, and takes the result of a
call while it waits for that (`History.Admits`). Whatever is asked of it at another time is refused:
the problem is one of the protocol, and the engine stays as it was, with what is recorded
(`Engine.Refuses`). What is admitted never meets such a problem (`History.admitted_or_refused`).

A conversation is over (`Engine.Over`) when it has come to the end or has missed a state. It then
refuses everything, whatever is asked of it in between.
-/

namespace DialogueScript

/-- Does the operation want the conversation to go on? The others look at it, and take away what it
has recorded. -/
def Operation.moves : Operation → Bool
  | .start | .respond _ | .completeCall _ => true
  | .currentOutput | .takeDiagnostics => false

/-- Is it time for the operation? -/
def History.Admits (history : History) : Operation → Prop
  | .start => ¬ history.Started
  | .respond _ =>
    history.Started ∧ history.engine.ended = false ∧ history.engine.waitingCall = none
  | .completeCall _ => ∃ name, history.engine.waitingCall = some name
  | .currentOutput | .takeDiagnostics => True

namespace Engine

/-- The operation breaks the protocol, and nothing comes of it. -/
def Refuses (settings : Settings) (engine : Engine) (operation : Operation) : Prop :=
  ∃ problem, problem.kind = .protocol ∧
    operation.perform settings engine = (.moved (.error problem), engine)

/-- The conversation goes no further. -/
structure Over (engine : Engine) : Prop where
  ended : engine.ended = true
  boundary : engine.boundary = none

variable {settings : Settings} {engine : Engine}

/-! ## Refusals -/

/-- An engine that waits or has ended refuses to start. -/
theorem refuses_start (h : (engine.boundary.isSome || engine.ended) = true) :
    Refuses settings engine .start :=
  ⟨.alreadyStarted, rfl, by rw [Operation.perform, start_of_started settings h]⟩

/-- An engine that is not waiting for a response refuses it. -/
theorem refuses_respond {problem : Problem} (response : Text)
    (h : engine.responseProblem? = some problem) :
    Refuses settings engine (.respond response) :=
  ⟨problem, kind_responseProblem? h,
    by rw [Operation.perform, respond_of_responseProblem? settings response h]⟩

/-- An engine that is not waiting for a call refuses a result. -/
theorem refuses_completeCall (result : Text) (h : engine.waitingCall = none) :
    Refuses settings engine (.completeCall result) :=
  ⟨.noPendingCall, rfl, by rw [Operation.perform, completeCall_of_waitingCall settings result h]⟩

/-! ## After the end -/

/-- After the end every operation that would move the engine is refused. -/
theorem Over.refuses (h : Over engine) {operation : Operation} (hmoves : operation.moves = true) :
    Refuses settings engine operation := by
  cases operation with
  | start => exact refuses_start (by simp [h.ended])
  | respond response => exact refuses_respond response (if_pos h.ended)
  | completeCall result => exact refuses_completeCall result (by simp [waitingCall, h.boundary])
  | currentOutput | takeDiagnostics => cases hmoves

/-- Nothing brings a conversation back. -/
theorem Over.perform (h : Over engine) (operation : Operation) :
    Over (operation.perform settings engine).2 := by
  cases hmoves : operation.moves with
  | true =>
    have hrefuses : Refuses settings engine operation := h.refuses hmoves
    obtain ⟨problem, -, hperform⟩ := hrefuses
    rw [hperform]
    exact h
  | false =>
    cases operation with
    | currentOutput => exact h
    | takeDiagnostics => exact ⟨h.ended, h.boundary⟩
    | start | respond _ | completeCall _ => cases hmoves

end Engine

namespace History

variable {settings : Settings} {history : History}

/-- The end is final. -/
theorem over_foldl_extend (later : List Operation) (h : history.engine.Over) :
    (later.foldl (extend settings) history).engine.Over :=
  foldl_extend_induction (P := fun history => history.engine.Over)
    (fun _ operation hover => hover.perform operation) later h

/-! ## Before the start -/

/-- Only a conversation that has started can end. -/
theorem started_of_ended (hstart : settings.script.contains Name.start = true)
    (operations : List Operation) (hended : (after settings operations).engine.ended = true) :
    (after settings operations).Started := by
  refine (after_induction (P := fun history => history.Consistent settings ∧
      (history.engine.ended = true → history.Started))
    ⟨consistent_empty hstart, by simp [empty, Engine.initial]⟩ ?_ operations).2 hended
  rintro history operation ⟨hconsistent, hstarted⟩
  refine ⟨hconsistent.extend operation, fun hended => ?_⟩
  by_cases hbefore : history.Started
  · exact started_extend hbefore
  · -- nothing but a start moves a conversation that has not started, and a start does not end it
    have hboundary : history.engine.boundary = none :=
      hconsistent.boundary_eq_none_iff.mpr (.inr hbefore)
    have hgoing : history.engine.ended = false := by simpa using mt hstarted hbefore
    have hsame : (operation.perform settings history.engine).2.ended = history.engine.ended := by
      cases operation with
      | start =>
        obtain ⟨shown, problems, hshown⟩ := Engine.start_of_fresh settings
          (show (history.engine.boundary.isSome || history.engine.ended) = false by
            simp [hboundary, hgoing])
        rw [Operation.perform, hshown]
        rfl
      | respond response =>
        have hproblem : history.engine.responseProblem? = some .notStarted := by
          simp [Engine.responseProblem?, hgoing, hboundary]
        rw [Operation.perform, Engine.respond_of_responseProblem? settings response hproblem]
      | completeCall result =>
        have hwaiting : history.engine.waitingCall = none := by
          simp [Engine.waitingCall, hboundary]
        rw [Operation.perform, Engine.completeCall_of_waitingCall settings result hwaiting]
      | currentOutput | takeDiagnostics => rfl
    rw [show (history.extend settings operation).engine.ended = history.engine.ended from hsame,
      hgoing] at hended
    cases hended

/-! ## What is admitted -/

/-- The conversation waits for a response exactly if one is admitted. -/
theorem Consistent.responseProblem?_of_admits (h : history.Consistent settings) {response : Text}
    (hadmits : history.Admits (.respond response)) : history.engine.responseProblem? = none := by
  obtain ⟨hstarted, hended, hwaiting⟩ := hadmits
  have hboundary : history.engine.boundary ≠ none := by
    simp [ne_eq, h.boundary_eq_none_iff, hended, hstarted]
  rw [Engine.responseProblem?_eq_none_iff]
  refine ⟨hended, ?_⟩
  cases hcase : history.engine.boundary with
  | none => exact absurd hcase hboundary
  | some boundary =>
    cases boundary with
    | response output => exact ⟨output, rfl⟩
    | call name turn => simp [Engine.waitingCall, hcase] at hwaiting

/-- What an admitted operation answers: an output, or that it missed a state, which ends the
conversation. -/
theorem Consistent.settles_of_admits (h : history.Consistent settings)
    (hfresh : history.engine.ended = true → history.Started) {operation : Operation}
    (hmoves : operation.moves = true) (hadmits : history.Admits operation) :
    ∃ result, operation.perform settings history.engine = (.moved result.1, result.2) ∧
      Engine.Settles settings result := by
  cases operation with
  | start =>
    -- a conversation that was never started has not ended
    have hended : history.engine.ended = false := by simpa using mt hfresh hadmits
    have hboundary : history.engine.boundary = none :=
      h.boundary_eq_none_iff.mpr (.inr hadmits)
    obtain ⟨shown, problems, hshown⟩ := Engine.start_of_fresh settings
      (show (history.engine.boundary.isSome || history.engine.ended) = false by
        simp [hboundary, hended])
    obtain ⟨state, hstanding⟩ := h.standing hended
    have hready : Engine.Standing settings { history.engine with diagnostics := problems } state :=
      hstanding.of_samePlace ⟨rfl, rfl, rfl⟩
    exact ⟨_, by rw [Operation.perform, hshown], hready.settles_await (.prompt shown)⟩
  | respond response =>
    exact ⟨_, rfl, h.settles_respond response (h.responseProblem?_of_admits hadmits)⟩
  | completeCall result =>
    obtain ⟨name, hwaiting⟩ := hadmits
    obtain ⟨turn, hcall⟩ := Engine.waitingCall_eq_some_iff.mp hwaiting
    have hended := (h.started_of_boundary (by simp [hcall])).1
    exact ⟨_, rfl, h.settles_completeCall hended hcall result⟩
  | currentOutput | takeDiagnostics => cases hmoves

/-- What a run does not admit is refused, and nothing has changed. -/
theorem Consistent.refuses_of_not_admits (h : history.Consistent settings) {operation : Operation}
    (hmoves : operation.moves = true) (hadmits : ¬ history.Admits operation) :
    Engine.Refuses settings history.engine operation := by
  cases operation with
  | start =>
    refine Engine.refuses_start ?_
    cases hboundary : history.engine.boundary with
    | some boundary => rfl
    | none =>
      -- nothing is waited for, although the conversation has started, so it has ended
      rcases h.boundary_eq_none_iff.mp hboundary with hended | hnot
      · simp [hended]
      · exact absurd hnot hadmits
  | respond response =>
    cases hproblem : history.engine.responseProblem? with
    | some problem => exact Engine.refuses_respond response hproblem
    | none =>
      obtain ⟨hended, output, hboundary⟩ := Engine.responseProblem?_eq_none_iff.mp hproblem
      have hstarted := (h.started_of_boundary (by simp [hboundary])).2
      exact absurd ⟨hstarted, hended, by simp [Engine.waitingCall, hboundary]⟩ hadmits
  | completeCall result =>
    refine Engine.refuses_completeCall result ?_
    cases hwaiting : history.engine.waitingCall with
    | none => rfl
    | some name => exact absurd ⟨name, hwaiting⟩ hadmits
  | currentOutput | takeDiagnostics => cases hmoves

/-- **Operations out of turn are refused and change nothing**, at any time of any conversation. What
is admitted gives an output, or misses a state that it names; the conversation is over then, and
refuses to go on whatever is asked of it afterwards. -/
theorem admitted_or_refused (settings : Settings)
    (hstart : settings.script.contains Name.start = true) (operations : List Operation)
    (operation : Operation) (hmoves : operation.moves = true) :
    let history := after settings operations
    let performed := operation.perform settings history.engine
    (history.Admits operation →
      (∃ output, performed.1 = .moved (.ok output)) ∨
      ∃ problem target, performed.1 = .moved (.error problem) ∧
        problem.code = "ENGINE_STATE_UNKNOWN".toList ∧ problem.kind = .unknownStateReference ∧
        problem.text? = some target ∧ settings.script.get? target = none ∧
        performed.2.ended = true ∧
        ∀ (later : List Operation) (next : Operation), next.moves = true →
          Engine.Refuses settings (after settings (operations ++ operation :: later)).engine
            next) ∧
    (¬ history.Admits operation → Engine.Refuses settings history.engine operation) := by
  intro history performed
  obtain ⟨hconsistent, hforeseen⟩ := consistent_and_foreseen hstart operations
  refine ⟨fun hadmits => ?_, hconsistent.refuses_of_not_admits hmoves⟩
  obtain ⟨⟨answer, engine⟩, hperform, hsettles⟩ :=
    hconsistent.settles_of_admits (started_of_ended hstart operations) hmoves hadmits
  have hperformed : performed = (.moved answer, engine) := hperform
  cases answer with
  | ok output => exact .inl ⟨output, by rw [hperformed]⟩
  | error problem =>
    obtain ⟨hended, target, rfl⟩ := hsettles.of_error problem rfl
    -- the inspections know which targets can be missing
    have hanswer := (hforeseen.perform hconsistent.toCoherent operation).2
      (.error (.targetUnknown target)) (congrArg (·.1.result?) hperformed)
    obtain ⟨_, htarget, hunresolved⟩ := hanswer.stateUnknown _ rfl rfl
    obtain rfl := Problem.targetUnknown.inj htarget
    have hmissing := Engine.contains_eq_false_iff.mp (Script.mem_unresolved_iff.mp hunresolved).2
    have hover : engine.Over := ⟨hended, hsettles.boundary_eq_none_iff.mpr hended⟩
    refine .inr ⟨.targetUnknown target, target, by rw [hperformed], rfl, rfl, rfl, hmissing,
      by rw [hperformed]; exact hended, fun later next hnext => ?_⟩
    have hextend : (history.extend settings operation).engine = engine := congrArg (·.2) hperformed
    rw [after, List.foldl_append, List.foldl_cons]
    exact (over_foldl_extend later (hextend ▸ hover)).refuses hnext

/-- A conversation that is started twice, and then misses a state. -/
theorem admitted_or_refused_nowhere :
    let script : Script := Script.seeded.define Name.start
      { Script.defaultStart with transitions := [⟨.wildcard, "nowhere".toList⟩] }
    let settings := Settings.ofScript script
    script.contains Name.start = true ∧
    Operation.start.moves = true ∧ (Operation.respond []).moves = true ∧
    Engine.Refuses settings (after settings [.start]).engine .start ∧
    ∀ (later : List Operation) (next : Operation), next.moves = true →
      Engine.Refuses settings (after settings ([.start] ++ .respond [] :: later)).engine next := by
  intro script settings
  have hstart : script.contains Name.start = true := by decide
  have hstarted : (after settings [.start]).Started := ⟨_, List.mem_cons_self ..⟩
  have hmissed : ((Operation.respond []).perform settings
      (after settings [.start]).engine).1.result?
        = some (.error (.targetUnknown "nowhere".toList)) := rfl
  refine ⟨hstart, rfl, rfl,
    (admitted_or_refused settings hstart [.start] .start rfl).2 (fun hnot => hnot hstarted), ?_⟩
  rcases (admitted_or_refused settings hstart [.start] (.respond []) rfl).1
    ⟨hstarted, rfl, rfl⟩ with ⟨output, houtput⟩ | ⟨_, _, -, -, -, -, -, -, hover⟩
  · rw [houtput] at hmissed
    cases hmissed
  · exact hover

end History

end DialogueScript
