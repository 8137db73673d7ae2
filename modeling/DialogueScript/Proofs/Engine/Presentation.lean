import DialogueScript.Proofs.Engine.Protocol

/-!
# How texts are shown

Two settings say how texts are shown: whether escapes are decoded, and what is put in front of a
prompt that is repeated. Neither influences the conversation (`History.presented_alike`). Engines
that differ in nothing else have the same variables and states after the same operations, answer
alike, and record the same problems; and it does not matter when somebody looks at one of them, or
takes its diagnostics away.

Two such engines correspond (`Engine.Corresponds`). In the midst of a step they are also abreast of
each other (`Engine.Abreast`): each has recorded the same problems on top of what it had kept. Every
operation of the engine keeps them so, up to a result in which the two coincide
(`Engine.Coincide`). With one and the same settings on both sides, this says that the diagnostics
have no influence either (`Engine.perform_of_drained_eq`).
-/

namespace DialogueScript

/-! ## Settings and outputs -/

/-- The same settings, with other choices of how texts are shown. -/
def Settings.presenting (settings : Settings) (decode : Bool) (preface : Text) : Settings :=
  { settings with decodeEscapes := decode, retryPreface := preface }

/-- A rendered text as it is shown. -/
def Settings.shown (settings : Settings) (text : Text) : Text :=
  if settings.decodeEscapes then Text.Escape.decode text else text

/-- Two outputs that show the same texts, each in the way of its settings. A prompt that is repeated
has the preface in front, and that as it is, unless the state has a retry text of its own. -/
inductive Output.Corresponds (left right : Settings) (templated : Bool) : Output → Output → Prop
  | prompt (text : Text) :
      Corresponds left right templated (.prompt (left.shown text)) (.prompt (right.shown text))
  | retry (text : Text) (h : templated = true) :
      Corresponds left right templated (.retry (left.shown text)) (.retry (right.shown text))
  | again (text : Text) (h : templated = false) :
      Corresponds left right templated (.retry (left.retryPreface ++ left.shown text))
        (.retry (right.retryPreface ++ right.shown text))
  | call (name : Text) : Corresponds left right templated (.call name) (.call name)
  | finish : Corresponds left right templated .finish .finish

/-- Two engines wait for the same. -/
inductive Boundary.Corresponds (left right : Settings) :
    Option Boundary → Option Boundary → Prop
  | none : Corresponds left right .none .none
  | response {templated : Bool} {one other : Output}
      (h : Output.Corresponds left right templated one other) :
      Corresponds left right (some (.response one)) (some (.response other))
  | call (name : Text) (turn : Turn) :
      Corresponds left right (some (.call name turn)) (some (.call name turn))

/-- Two engines answer the same: corresponding outputs, or one and the same problem. -/
inductive Engine.AnswersAlike (left right : Settings) (templated : Bool) :
    Except Problem Output → Except Problem Output → Prop
  | ok {one other : Output} (h : Output.Corresponds left right templated one other) :
      AnswersAlike left right templated (.ok one) (.ok other)
  | error (problem : Problem) : AnswersAlike left right templated (.error problem) (.error problem)

/-- With the same settings, outputs correspond to themselves alone. -/
theorem Output.Corresponds.eq {settings : Settings} {templated : Bool} {one other : Output}
    (h : Output.Corresponds settings settings templated one other) : other = one := by
  cases h <;> rfl

/-- Under the same settings only the same boundary corresponds. -/
theorem Boundary.Corresponds.eq {settings : Settings} {one other : Option Boundary}
    (h : Boundary.Corresponds settings settings one other) : other = one := by
  cases h with
  | none => rfl
  | response h => rw [h.eq]
  | call name turn => rfl

/-- Whatever is shown, some text is shown so. -/
theorem Settings.exists_shown (settings : Settings) (text : Text) :
    ∃ raw, settings.shown raw = text := by
  unfold Settings.shown
  split
  · exact Text.Escape.exists_decode text
  · exact ⟨text, rfl⟩

theorem Output.corresponds_self {settings : Settings} (output : Output) :
    Output.Corresponds settings settings true output output := by
  cases output with
  | prompt text =>
    obtain ⟨raw, rfl⟩ := settings.exists_shown text
    exact .prompt raw
  | retry text =>
    obtain ⟨raw, rfl⟩ := settings.exists_shown text
    exact .retry raw rfl
  | call name => exact .call name
  | finish => exact .finish

theorem Boundary.corresponds_self {settings : Settings} (boundary : Option Boundary) :
    Boundary.Corresponds settings settings boundary boundary := by
  cases boundary with
  | none => exact .none
  | some boundary =>
    cases boundary with
    | response output => exact .response (Output.corresponds_self output)
    | call name turn => exact .call name turn

namespace Engine

theorem AnswersAlike.eq {settings : Settings} {templated : Bool}
    {one other : Except Problem Output} (h : AnswersAlike settings settings templated one other) :
    other = one := by
  cases h with
  | ok h => rw [h.eq]
  | error problem => rfl

/-! ## The relation between the two engines -/

/-- Two engines in the same conversation. -/
structure Corresponds (left right : Settings) (one other : Engine) : Prop where
  environment : other.environment = one.environment
  ended : other.ended = one.ended
  called : other.called = one.called
  boundary : Boundary.Corresponds left right one.boundary other.boundary

/-- In the midst of a step: each engine has recorded the same problems on top of those it has
kept. -/
structure Abreast (left right : Settings) (kept kept' : List Problem) (one other : Engine) : Prop
    extends Corresponds left right one other where
  recorded : ∃ problems, one.diagnostics = kept ++ problems ∧ other.diagnostics = kept' ++ problems

/-- Two results that are alike. -/
structure Coincide (left right : Settings) (templated : Bool) (kept kept' : List Problem)
    (first second : Result) : Prop extends Abreast left right kept kept' first.2 second.2 where
  answer : AnswersAlike left right templated first.1 second.1

/-- Has the current state a retry text of its own? -/
def hasRetry (settings : Settings) (engine : Engine) : Bool :=
  ((settings.script.get? engine.state).bind (·.retry)).isSome

section Step

variable {settings : Settings} {decode : Bool} {preface : Text} {templated : Bool}
variable {left right : Settings} {kept kept' : List Problem} {one other : Engine}

/-- The engines are in the same state, which their environments hold. -/
theorem Corresponds.state (h : Corresponds left right one other) : other.state = one.state :=
  congrArg Environment.state h.environment

/-- Engines that correspond have added no problems yet to those that they have. -/
theorem Corresponds.abreast (h : Corresponds left right one other) :
    Abreast left right one.diagnostics other.diagnostics one other :=
  ⟨h, [], by simp⟩

theorem Corresponds.waitingCall (h : Corresponds left right one other) :
    other.waitingCall = one.waitingCall := by
  have hboundary := h.boundary
  unfold Engine.waitingCall
  cases one
  cases other
  cases hboundary <;> rfl

/-- Both accept a response, or both refuse it for the same reason. -/
theorem Corresponds.responseProblem? (h : Corresponds left right one other) :
    other.responseProblem? = one.responseProblem? := by
  have hboundary := h.boundary
  unfold Engine.responseProblem?
  rw [h.ended]
  cases one
  cases other
  cases hboundary <;> rfl

/-- Both are fresh, or neither is. -/
theorem Corresponds.isSome_boundary (h : Corresponds left right one other) :
    (other.boundary.isSome || other.ended) = (one.boundary.isSome || one.ended) := by
  have hboundary := h.boundary
  rw [h.ended]
  cases one
  cases other
  cases hboundary <;> rfl

namespace Abreast

theorem record (h : Abreast left right kept kept' one other) (problems : List Problem) :
    Abreast left right kept kept' (one.record problems) (other.record problems) := by
  obtain ⟨recorded, hone, hother⟩ := h.recorded
  exact ⟨⟨h.environment, h.ended, h.called, h.boundary⟩, recorded ++ problems,
    by simp [hone], by simp [hother]⟩

theorem bind (h : Abreast left right kept kept' one other) (name : Text) (value : Value) :
    Abreast left right kept kept' (one.bind name value) (other.bind name value) :=
  ⟨⟨by simp [h.environment], h.ended, h.called, h.boundary⟩, h.recorded⟩

/-- Engines that are abreast may stop at boundaries that correspond. -/
theorem wait (h : Abreast left right kept kept' one other) {boundary boundary' : Option Boundary}
    (hboundary : Boundary.Corresponds left right boundary boundary') :
    Abreast left right kept kept' { one with boundary := boundary }
      { other with boundary := boundary' } :=
  ⟨⟨h.environment, h.ended, h.called, hboundary⟩, h.recorded⟩

theorem moved (h : Abreast left right kept kept' one other) (target : Text) :
    Abreast left right kept kept' (one.moved target) (other.moved target) :=
  ⟨⟨by simp [Engine.moved, h.environment], h.ended, h.called, h.boundary⟩, h.recorded⟩

/-- Both render the same text, and show it each in its own way. -/
theorem render (h : Abreast left right kept kept' one other) (template : Text) :
    ∃ text, (one.render left template).1 = left.shown text ∧
      (other.render right template).1 = right.shown text ∧
      Abreast left right kept kept' (one.render left template).2
        (other.render right template).2 := by
  refine ⟨(Template.renderNoting one.environment template).1, rfl, ?_, ?_⟩
  · rw [← h.environment]
    rfl
  · rw [render_snd, render_snd, h.environment]
    exact h.record _

/-- Engines that wait with corresponding outputs have answered alike. -/
theorem await (h : Abreast left right kept kept' one other) {output output' : Output}
    (houtput : Output.Corresponds left right templated output output') :
    Coincide left right templated kept kept' (one.await output) (other.await output') :=
  ⟨h.wait (.response houtput), .ok houtput⟩

/-- Engines that end with the same answer have answered alike. -/
theorem finish (h : Abreast left right kept kept' one other) {answer : Except Problem Output}
    (hanswer : AnswersAlike left right templated answer answer) :
    Coincide left right templated kept kept' (answer, { one with ended := true, boundary := none })
      (answer, { other with ended := true, boundary := none }) :=
  ⟨⟨⟨h.environment, rfl, h.called, .none⟩, h.recorded⟩, hanswer⟩

/-- A call is dispatched alike, since hosts see neither escapes nor prefaces. -/
theorem dispatchCall (h : Abreast left right kept kept' one other) (settings : Settings)
    (assignment : Assignment) :
    (other.dispatchCall settings assignment).1 = (one.dispatchCall settings assignment).1 ∧
      Abreast left right kept kept' (one.dispatchCall settings assignment).2
        (other.dispatchCall settings assignment).2 := by
  unfold Engine.dispatchCall
  dsimp only
  rw [h.called]
  split
  · exact ⟨rfl, h.record _⟩
  · split
    · exact ⟨rfl, h⟩
    · have hcalled : Abreast left right kept kept'
          { one with called := Text.trim assignment.value :: one.called }
          { other with called := Text.trim assignment.value :: one.called } :=
        ⟨⟨h.environment, h.ended, rfl, h.boundary⟩, h.recorded⟩
      split
      · exact ⟨rfl, hcalled.bind _ _⟩
      · exact ⟨rfl, hcalled.record _⟩

/-- An assignment comes to the same, since it shows nothing. -/
theorem applyAssignment (h : Abreast left right kept kept' one other) (settings : Settings)
    (assignment : Assignment) :
    (other.applyAssignment settings assignment).1 = (one.applyAssignment settings assignment).1 ∧
      Abreast left right kept kept' (one.applyAssignment settings assignment).2
        (other.applyAssignment settings assignment).2 := by
  unfold Engine.applyAssignment
  dsimp only
  rw [h.environment]
  split
  · exact ⟨rfl, h.record _⟩
  · split
    · exact ⟨rfl, h.record _⟩
    · split
      · exact h.dispatchCall settings assignment
      · split
        · exact ⟨rfl, (h.record _).bind _ _⟩
        · exact ⟨rfl, (h.record _).record _⟩

/-! ## Every operation of the engine -/

section Turn

variable {settings : Settings} {decode : Bool} {preface : Text} {templated : Bool}
variable {kept kept' : List Problem} {one other : Engine}

/-- A turn ends alike, whichever way it ends. -/
theorem finishTurn (h : Abreast settings (settings.presenting decode preface) kept kept' one other)
    (target : Text) :
    Coincide settings (settings.presenting decode preface) templated kept kept'
      (one.finishTurn settings target)
      (other.finishTurn (settings.presenting decode preface) target) := by
  cases hnext : settings.script.get? target with
  | none =>
    rw [finishTurn_of_none settings one hnext,
      finishTurn_of_none (settings.presenting decode preface) other hnext]
    exact (h.moved target).finish (.error _)
  | some next =>
    by_cases htarget : target = Name.finish
    · rw [finishTurn_of_finish settings one hnext htarget,
        finishTurn_of_finish (settings.presenting decode preface) other hnext htarget]
      exact (h.moved target).finish (.ok .finish)
    · rw [finishTurn_of_ne_finish settings one hnext htarget,
        finishTurn_of_ne_finish (settings.presenting decode preface) other hnext htarget]
      obtain ⟨text, hone, hother, hrendered⟩ := (h.moved target).render next.prompt
      unfold Engine.arrived
      dsimp only
      rw [hone, hother]
      exact hrendered.await (.prompt text)

/-- Both turns stop at the same call, or neither stops. -/
theorem runAssignments (target : Text) (assignments : List Assignment) :
    ∀ (next : Nat) {one other : Engine},
      Abreast settings (settings.presenting decode preface) kept kept' one other →
      Coincide settings (settings.presenting decode preface) templated kept kept'
        (one.runAssignments settings target next assignments)
        (other.runAssignments (settings.presenting decode preface) target next assignments) := by
  induction assignments with
  | nil => exact fun next one other h => h.finishTurn target
  | cons assignment rest ih =>
    intro next one other h
    obtain ⟨houtcome, happlied⟩ := h.applyAssignment settings assignment
    -- an assignment does not read how texts are shown
    have hsame : other.applyAssignment (settings.presenting decode preface) assignment
        = other.applyAssignment settings assignment := rfl
    rw [Engine.runAssignments, Engine.runAssignments, hsame]
    cases hone : one.applyAssignment settings assignment with
    | mk outcome after =>
      cases hother : other.applyAssignment settings assignment with
      | mk outcome' after' =>
        rw [hone, hother] at houtcome happlied
        obtain rfl : outcome' = outcome := houtcome
        cases outcome' with
        | suspended name => exact ⟨happlied.wait (.call name _), .ok (.call name)⟩
        | applied | skipped => exact ih (next + 1) happlied

/-- A turn runs alike from wherever it is resumed. -/
theorem runTurn (h : Abreast settings (settings.presenting decode preface) kept kept' one other)
    (turn : Turn) :
    Coincide settings (settings.presenting decode preface) templated kept kept'
      (one.runTurn settings turn) (other.runTurn (settings.presenting decode preface) turn) := by
  unfold Engine.runTurn
  dsimp only
  rw [h.state]
  exact runAssignments turn.target _ turn.next h

/-- The preface stands in front of a prompt that is repeated, and not of a text for the purpose. -/
theorem askAgain (h : Abreast settings (settings.presenting decode preface) kept kept' one other)
    (state : ScriptState) :
    Coincide settings (settings.presenting decode preface) state.retry.isSome kept kept'
      (one.askAgain settings state)
      (other.askAgain (settings.presenting decode preface) state) := by
  unfold Engine.askAgain
  cases hretry : state.retry with
  | some retry =>
    obtain ⟨text, hone, hother, hrendered⟩ := h.render retry
    dsimp only
    rw [hone, hother]
    exact hrendered.await (.retry text rfl)
  | none =>
    obtain ⟨text, hone, hother, hrendered⟩ := h.render state.prompt
    dsimp only
    rw [hone, hother]
    exact hrendered.await (.again text rfl)

end Turn

end Abreast

end Step

section Operations

variable {settings : Settings} {decode : Bool} {preface : Text} {one other : Engine}

/-- A new conversation forgets what was recorded before. -/
theorem Corresponds.start (h : Corresponds settings (settings.presenting decode preface) one other)
    (hfresh : (one.boundary.isSome || one.ended) = false) {templated : Bool} :
    Coincide settings (settings.presenting decode preface) templated [] []
      (one.start settings) (other.start (settings.presenting decode preface)) := by
  unfold Engine.start
  rw [h.isSome_boundary, hfresh]
  have hcleared : Abreast settings (settings.presenting decode preface) [] []
      { one with diagnostics := [] } { other with diagnostics := [] } :=
    ⟨⟨h.environment, h.ended, h.called, h.boundary⟩, [], rfl, rfl⟩
  obtain ⟨text, hone, hother, hrendered⟩ :=
    hcleared.render (((settings.script.get? Name.start).map (·.prompt)).getD [])
  dsimp only [Settings.presenting] at hother hrendered ⊢
  rw [if_neg Bool.false_ne_true, if_neg Bool.false_ne_true, hone, hother]
  exact hrendered.await (.prompt text)

/-- Engines that have heard the same response are abreast, and their problems are dropped. -/
theorem Corresponds.heard (h : Corresponds settings (settings.presenting decode preface) one other)
    (response : Text) :
    Abreast settings (settings.presenting decode preface) [] [] (one.heard response)
      (other.heard response) :=
  ⟨⟨by simp [Engine.heard, h.environment], h.ended, h.called, h.boundary⟩, [], rfl, rfl⟩

/-- Both take the same transition, or both ask again. -/
theorem Corresponds.respond
    (h : Corresponds settings (settings.presenting decode preface) one other) (response : Text)
    (hnone : one.responseProblem? = none) :
    Coincide settings (settings.presenting decode preface) (one.hasRetry settings) [] []
      (one.respond settings response) (other.respond (settings.presenting decode preface) response)
    := by
  have hnone' : other.responseProblem? = none := h.responseProblem?.trans hnone
  have hheard := h.heard response
  cases hstate : settings.script.get? one.state with
  | none =>
    have hstate' : (settings.presenting decode preface).script.get? other.state = none :=
      h.state ▸ hstate
    rw [respond_of_unknown hnone hstate, respond_of_unknown hnone' hstate', h.state]
    exact ⟨hheard, .error _⟩
  | some state =>
    have hstate' : (settings.presenting decode preface).script.get? other.state = some state :=
      h.state ▸ hstate
    -- patterns and guards see the response and the environment, which both have in common
    cases hresolve : resolve (one.heard response).environment state response with
    | mk resolved problems =>
      have hresolve' : resolve (other.heard response).environment state response
          = (resolved, problems) := by
        rw [hheard.environment, hresolve]
      cases resolved with
      | none =>
        have hretry : one.hasRetry settings = state.retry.isSome := by
          rw [hasRetry, hstate]
          rfl
        rw [respond_of_noTransition hnone hstate hresolve,
          respond_of_noTransition hnone' hstate' hresolve', hretry, h.state]
        exact ((hheard.record _).record _).askAgain state
      | some resolved =>
        rw [respond_of_resolved hnone hstate hresolve,
          respond_of_resolved hnone' hstate' hresolve']
        exact ((hheard.record _).bind _ _).runTurn _

/-- The rest of a turn adds to what was recorded in its beginning. -/
theorem Corresponds.completeCall
    (h : Corresponds settings (settings.presenting decode preface) one other) (result : Text)
    {name : Text} {turn : Turn} (hcall : one.boundary = some (.call name turn))
    {templated : Bool} :
    Coincide settings (settings.presenting decode preface) templated one.diagnostics
      other.diagnostics (one.completeCall settings result)
      (other.completeCall (settings.presenting decode preface) result) := by
  have hcall' : other.boundary = some (.call name turn) := by
    have hboundary := h.boundary
    rw [hcall] at hboundary
    generalize other.boundary = boundary at hboundary
    cases hboundary
    rfl
  rw [completeCall_of_call settings result hcall,
    completeCall_of_call (settings.presenting decode preface) result hcall']
  exact ((h.abreast.wait .none).bind _ _).runTurn turn

/-- A refusal changes neither engine. -/
theorem Corresponds.refuse {left right : Settings}
    (h : Corresponds left right one other) (problem : Problem) (templated : Bool) :
    Coincide left right templated one.diagnostics other.diagnostics (.error problem, one)
      (.error problem, other) :=
  ⟨h.abreast, .error problem⟩

end Operations

end Engine

/-- What an engine keeps of the recorded problems in an operation. A turn begins with none. -/
def Operation.kept (engine : Engine) : Operation → List Problem
  | .start => if engine.boundary.isSome || engine.ended then engine.diagnostics else []
  | .respond _ => if engine.responseProblem? = none then [] else engine.diagnostics
  | .completeCall _ | .currentOutput | .takeDiagnostics => engine.diagnostics

namespace Engine

variable {settings : Settings} {decode : Bool} {preface : Text} {one other : Engine}

/-- What moves the conversation moves both engines alike. -/
theorem Corresponds.perform
    (h : Corresponds settings (settings.presenting decode preface) one other)
    {operation : Operation} (hmoves : operation.moves = true) :
    ∃ first second, operation.perform settings one = (.moved first.1, first.2) ∧
      operation.perform (settings.presenting decode preface) other = (.moved second.1, second.2) ∧
      Coincide settings (settings.presenting decode preface) (one.hasRetry settings)
        (operation.kept one) (operation.kept other) first second := by
  cases operation with
  | start =>
    refine ⟨_, _, rfl, rfl, ?_⟩
    rw [Operation.kept, Operation.kept, h.isSome_boundary]
    cases hfresh : one.boundary.isSome || one.ended with
    | false => exact h.start hfresh
    | true =>
      rw [start_of_started settings hfresh,
        start_of_started (settings.presenting decode preface) (h.isSome_boundary.trans hfresh)]
      exact h.refuse _ _
  | respond response =>
    refine ⟨_, _, rfl, rfl, ?_⟩
    rw [Operation.kept, Operation.kept, h.responseProblem?]
    cases hproblem : one.responseProblem? with
    | none => exact h.respond response hproblem
    | some problem =>
      rw [respond_of_responseProblem? settings response hproblem,
        respond_of_responseProblem? (settings.presenting decode preface) response
          (h.responseProblem?.trans hproblem)]
      exact h.refuse _ _
  | completeCall result =>
    refine ⟨_, _, rfl, rfl, ?_⟩
    cases hwaiting : one.waitingCall with
    | none =>
      rw [completeCall_of_waitingCall settings result hwaiting,
        completeCall_of_waitingCall (settings.presenting decode preface) result
          (h.waitingCall.trans hwaiting)]
      exact h.refuse _ _
    | some name =>
      obtain ⟨turn, hcall⟩ := waitingCall_eq_some_iff.mp hwaiting
      exact h.completeCall result hcall
  | currentOutput | takeDiagnostics => cases hmoves

/-- Looking at an engine, or taking its diagnostics away, does not disturb the conversation. -/
theorem Corresponds.idle {left right : Settings} (h : Corresponds left right one other)
    {operation : Operation} (hidle : operation.moves = false) :
    Corresponds left right (operation.perform left one).2 other ∧
      Corresponds left right one (operation.perform right other).2 := by
  cases operation with
  | currentOutput => exact ⟨h, h⟩
  | takeDiagnostics =>
    exact ⟨⟨h.environment, h.ended, h.called, h.boundary⟩,
      ⟨h.environment, h.ended, h.called, h.boundary⟩⟩
  | start | respond _ | completeCall _ => cases hidle

/-- At the beginning there is nothing to differ in. -/
theorem corresponds_initial (left right : Settings) : Corresponds left right initial initial :=
  ⟨rfl, rfl, rfl, .none⟩

/-- The recorded problems have no influence on the conversation either. -/
theorem perform_of_drained_eq (settings : Settings) {one other : Engine}
    (h : other.takeDiagnostics.2 = one.takeDiagnostics.2) {operation : Operation}
    (hmoves : operation.moves = true) :
    (operation.perform settings other).1 = (operation.perform settings one).1 ∧
      (operation.perform settings other).2.takeDiagnostics.2
        = (operation.perform settings one).2.takeDiagnostics.2 := by
  simp only [takeDiagnostics, Engine.mk.injEq] at h
  obtain ⟨henvironment, hboundary, hended, -, hcalled⟩ := h
  have hself : settings.presenting settings.decodeEscapes settings.retryPreface = settings := rfl
  have hsame : Corresponds settings
      (settings.presenting settings.decodeEscapes settings.retryPreface) one other :=
    ⟨henvironment, hended, hcalled, hboundary ▸ Boundary.corresponds_self _⟩
  obtain ⟨first, second, hone, hother, hcoincide⟩ := hsame.perform hmoves
  rw [hself] at hother hcoincide
  rw [hone, hother, hcoincide.answer.eq]
  refine ⟨rfl, ?_⟩
  simp [takeDiagnostics, hcoincide.environment, hcoincide.boundary.eq, hcoincide.ended,
    hcoincide.called]

end Engine

/-! ## Whole conversations -/

namespace History

variable {settings : Settings} {decode : Bool} {preface : Text}

/-- Whatever is looked at or taken away on one side, the engines stay in the same conversation. -/
theorem corresponds_foldl_idle {left right : Settings} {one : Engine} :
    ∀ (operations : List Operation) {other : History},
      (∀ operation ∈ operations, operation.moves = false) →
      Engine.Corresponds left right one other.engine →
      Engine.Corresponds left right one (operations.foldl (extend right) other).engine
  | [], _, _, h => h
  | _ :: rest, _, hidle, h =>
    corresponds_foldl_idle rest (fun _ hmem => hidle _ (List.mem_cons_of_mem _ hmem))
      (h.idle (hidle _ (List.mem_cons_self ..))).2

/-- The same moves lead corresponding engines to corresponding engines. -/
theorem corresponds_foldl (operations : List Operation) :
    ∀ (operations' : List Operation) {one other : History},
      operations.filter (·.moves) = operations'.filter (·.moves) →
      Engine.Corresponds settings (settings.presenting decode preface) one.engine other.engine →
      Engine.Corresponds settings (settings.presenting decode preface)
        (operations.foldl (extend settings) one).engine
        (operations'.foldl (extend (settings.presenting decode preface)) other).engine := by
  -- along the first sequence; of the second, what comes before the next move is passed over
  induction operations with
  | nil =>
    intro operations' one other hsame h
    refine corresponds_foldl_idle operations' (fun operation hmem => ?_) h
    simpa using List.filter_eq_nil_iff.mp hsame.symm operation hmem
  | cons operation rest ih =>
    intro operations' one other hsame h
    cases hmoves : operation.moves with
    | false =>
      rw [List.filter_cons_of_neg (by simp [hmoves])] at hsame
      exact ih operations' hsame (h.idle hmoves).1
    | true =>
      rw [List.filter_cons_of_pos hmoves, eq_comm, List.filter_eq_cons_iff] at hsame
      obtain ⟨idle, later, rfl, hidle, -, hlater⟩ := hsame
      rw [List.foldl_append, List.foldl_cons, List.foldl_cons]
      refine ih later hlater.symm ?_
      have hpassed := corresponds_foldl_idle idle (fun _ hmem => by simpa using hidle _ hmem) h
      obtain ⟨first, second, hfirst, hsecond, hcoincide⟩ := hpassed.perform hmoves
      rw [extend, extend, hfirst, hsecond]
      exact hcoincide.toCorresponds

/-- **How texts are shown has no influence on the conversation.** After the same moves, with
whatever looks and takings in between on either side, one more move takes both engines to the same
variables, the same state and the same end, waiting for the same call. Both give corresponding
outputs, or one and the same problem; and to what either has kept, both add the same problems. -/
theorem presented_alike (settings : Settings) (decode : Bool) (preface : Text)
    (operations operations' : List Operation)
    (hsame : operations.filter (·.moves) = operations'.filter (·.moves))
    (operation : Operation) (hmoves : operation.moves = true) :
    let other := settings.presenting decode preface
    let before := (after settings operations).engine
    let before' := (after other operations').engine
    let performed := operation.perform settings before
    let performed' := operation.perform other before'
    performed'.2.environment = performed.2.environment ∧
    performed'.2.state = performed.2.state ∧
    performed'.2.ended = performed.2.ended ∧
    performed'.2.waitingCall = performed.2.waitingCall ∧
    (∃ answer answer', performed.1 = .moved answer ∧ performed'.1 = .moved answer' ∧
      Engine.AnswersAlike settings other (before.hasRetry settings) answer answer') ∧
    ∃ problems, performed.2.diagnostics = operation.kept before ++ problems ∧
      performed'.2.diagnostics = operation.kept before' ++ problems := by
  intro other before before' performed performed'
  have hbefore : Engine.Corresponds settings other before before' :=
    corresponds_foldl operations operations' hsame (Engine.corresponds_initial settings other)
  -- one move from engines that correspond, whatever each of them has kept
  obtain ⟨first, second, hfirst, hsecond, hcoincide⟩ := hbefore.perform hmoves
  have hperformed : performed = (.moved first.1, first.2) := hfirst
  have hperformed' : performed' = (.moved second.1, second.2) := hsecond
  rw [hperformed, hperformed']
  exact ⟨hcoincide.environment, hcoincide.state, hcoincide.ended, hcoincide.waitingCall,
    ⟨first.1, second.1, rfl, rfl, hcoincide.answer⟩, hcoincide.recorded⟩

/-- A question with a backslash is asked again, with and without decoding. One side is looked at
before, and of the other the diagnostics are taken away. -/
theorem presented_alike_again :
    let script : Script := Script.seeded.define Name.start
      { prompt := "Yes\\no".toList, transitions := [], assignments := [], retry := none }
    let settings := Settings.ofScript script
    let other := settings.presenting false "What? ".toList
    let operations := [Operation.start, .respond ['1'], .currentOutput]
    let operations' := [Operation.start, .takeDiagnostics, .respond ['1'], .takeDiagnostics]
    let performed := (Operation.respond ['2']).perform settings (after settings operations).engine
    let performed' := (Operation.respond ['2']).perform other (after other operations').engine
    operations.filter (·.moves) = operations'.filter (·.moves) ∧
    (Operation.respond ['2']).moves = true ∧
    performed.2.boundary
      = some (.response (.retry "Sorry, I didn't get that. Yes\no".toList)) ∧
    performed'.2.boundary = some (.response (.retry "What? Yes\\no".toList)) ∧
    performed'.2.environment = performed.2.environment ∧
    performed'.2.diagnostics = performed.2.diagnostics := by
  intro script settings other operations operations' performed performed'
  have hsame : operations.filter (·.moves) = operations'.filter (·.moves) := rfl
  obtain ⟨henvironment, -, -, -, -, problems, hone, hother⟩ :=
    presented_alike settings false "What? ".toList operations operations' hsame
      (.respond ['2']) rfl
  refine ⟨hsame, rfl, by decide +kernel, by decide +kernel, henvironment, ?_⟩
  rw [hone, hother]
  rfl

end History

end DialogueScript
