import DialogueScript.Engine.Create
import DialogueScript.Proofs.Engine.Run
import DialogueScript.Proofs.Engine.Turn

/-!
# What holds after every run

Whatever is asked of an engine, its fields stay in agreement with each other and with what it has
answered (`History.Consistent`): the conversation has ended exactly when its state says so, the
engine waits exactly between a start and the end, a pending call belongs to the assignment in front
of the one that goes on, and the current output is the last one given.

Every operation that moves the conversation leaves it settled (`Engine.Settles`); all others change
at most the diagnostics.
-/

namespace DialogueScript

/-! ## The invariant -/

/-- A pending call was asked for by the assignment in front of the next one of the current state. -/
structure Engine.PendingCall (settings : Settings) (engine : Engine) (name : Text) (turn : Turn)
    (state : ScriptState) : Prop where
  current : settings.script.get? engine.state = some state
  pos : 1 ≤ turn.next
  le : turn.next ≤ state.assignments.length
  asks : ∃ assignment, state.assignments[turn.next - 1]? = some assignment ∧
    Engine.Asks settings name assignment

/-- The fields of an engine agree with each other. -/
structure Engine.Coherent (settings : Settings) (engine : Engine) : Prop where
  ended_iff : engine.ended = true ↔
    engine.state = Name.finish ∨ settings.script.contains engine.state = false
  call : ∀ name turn, engine.boundary = some (.call name turn) →
    ∃ state, Engine.PendingCall settings engine name turn state

/-- An engine agrees with what it has answered. -/
structure History.Consistent (settings : Settings) (history : History) : Prop
    extends Engine.Coherent settings history.engine where
  boundary_eq_none_iff :
    history.engine.boundary = none ↔ history.engine.ended = true ∨ ¬ history.Started
  currentOutput_eq : history.engine.currentOutput =
    if history.engine.ended then .ok .finish
    else match history.lastOutput? with
      | some output => .ok output
      | none => .error .notStarted

/-! ## Moving the conversation -/

namespace Engine

/-- The result of an operation that moves the conversation: it waits unless it has ended, for what
the result says, and only an unknown target is an error. -/
structure Settles (settings : Settings) (result : Result) : Prop
    extends Coherent settings result.2 where
  boundary_eq_none_iff : result.2.boundary = none ↔ result.2.ended = true
  currentOutput_eq : ∀ output, result.1 = .ok output → result.2.currentOutput = .ok output
  of_error : ∀ problem, result.1 = .error problem →
    result.2.ended = true ∧ ∃ target, problem = .targetUnknown target

/-- The conversation goes on in a state. -/
structure Standing (settings : Settings) (engine : Engine) (state : ScriptState) : Prop where
  ended : engine.ended = false
  current : settings.script.get? engine.state = some state
  ne_finish : engine.state ≠ Name.finish

variable {settings : Settings} {engine after : Engine} {state : ScriptState}

/-- A script lacks a key if it has no state for it. -/
theorem contains_eq_false_iff {script : Script} {key : Text} :
    script.contains key = false ↔ script.get? key = none := by
  simp [Script.contains, Table.contains, Script.get?]

/-- A conversation that has not ended goes on in a state. -/
theorem Coherent.standing (h : Coherent settings engine) (hended : engine.ended = false) :
    ∃ state, Standing settings engine state := by
  have hnot : ¬ (engine.state = Name.finish ∨ settings.script.contains engine.state = false) :=
    fun hor => by simp [h.ended_iff.mpr hor] at hended
  rw [not_or, contains_eq_false_iff] at hnot
  obtain ⟨state, hstate⟩ := Option.ne_none_iff_exists'.mp hnot.2
  exact ⟨state, hended, hstate, hnot.1⟩

/-- An engine that stands in a state has not ended, and the state is not the final one. -/
theorem Standing.ended_iff (h : Standing settings engine state) : engine.ended = true ↔
    engine.state = Name.finish ∨ settings.script.contains engine.state = false := by
  rw [contains_eq_false_iff, h.current]
  simp [h.ended, h.ne_finish]

/-- What does not move the engine leaves it standing. -/
theorem Standing.of_samePlace (h : Standing settings engine state)
    (hplace : SamePlace engine after) : Standing settings after state :=
  ⟨hplace.ended.trans h.ended, by rw [hplace.state]; exact h.current,
    by rw [hplace.state]; exact h.ne_finish⟩

/-- Waiting for a response settles the conversation. -/
theorem Standing.settles_await (h : Standing settings engine state) (output : Output) :
    Settles settings (engine.await output) where
  ended_iff := h.ended_iff
  call name turn hcall := by simp [await] at hcall
  boundary_eq_none_iff := by simp [await, h.ended]
  currentOutput_eq shown hshown := by
    simp only [await, Except.ok.injEq] at hshown
    simp [await, currentOutput, h.ended, hshown]
  of_error problem herror := by simp [await] at herror

/-- A conversation that ends is settled. -/
theorem settles_ended {result : Except Problem Output} {target : Text}
    (hstate : after.state = target) (hended : after.ended = true)
    (hboundary : after.boundary = none)
    (htarget : (result = .ok .finish ∧ target = Name.finish) ∨
      (result = .error (.targetUnknown target) ∧ settings.script.get? target = none)) :
    Settles settings (result, after) where
  ended_iff := by
    rw [contains_eq_false_iff]
    rcases htarget with ⟨-, h⟩ | ⟨-, h⟩ <;> simp [hended, hstate, h]
  call name turn hcall := by rw [hboundary] at hcall; simp at hcall
  boundary_eq_none_iff := by simp [hboundary, hended]
  currentOutput_eq output houtput := by
    rcases htarget with ⟨h, -⟩ | ⟨h, -⟩ <;> rw [h] at houtput <;> simp_all [currentOutput]
  of_error problem herror := by
    rcases htarget with ⟨h, -⟩ | ⟨h, -⟩ <;> rw [h] at herror
    · simp at herror
    · exact ⟨hended, target, (Except.error.inj herror).symm⟩

/-- The end of a turn settles at a state, at the end or at a target that is missing. -/
theorem Standing.settles_finishTurn (h : Standing settings engine state) (target : Text) :
    Settles settings (engine.finishTurn settings target) := by
  cases hnext : settings.script.get? target with
  | none =>
    rw [finishTurn_of_none settings engine hnext]
    exact settles_ended rfl rfl rfl (.inr ⟨rfl, hnext⟩)
  | some next =>
    by_cases htarget : target = Name.finish
    · rw [finishTurn_of_finish settings engine hnext htarget]
      exact settles_ended rfl rfl rfl (.inl ⟨rfl, htarget⟩)
    · rw [finishTurn_of_ne_finish settings engine hnext htarget]
      have hmoved : Standing settings ((engine.moved target).render settings next.prompt).2 next :=
        ⟨h.ended, hnext, htarget⟩
      exact hmoved.settles_await _

/-- The rest of a turn settles the conversation: it stops at an assignment that asks for a call, or
runs through. -/
theorem Standing.settles_runTurn (h : Standing settings engine state) (turn : Turn) :
    Settles settings (engine.runTurn settings turn) := by
  have hrun : engine.runTurn settings turn = engine.runAssignments settings turn.target turn.next
      (state.assignments.drop turn.next) := by
    unfold runTurn
    rw [h.current]
    rfl
  rw [hrun]
  rcases runAssignments_cases settings turn.target (state.assignments.drop turn.next) turn.next
    engine with ⟨last, name, k, assignment, hlast, hk, hasks, heq⟩ | ⟨last, hlast, heq⟩
  · rw [heq]
    -- the pending assignment, counted from the first one of the state
    rw [List.getElem?_drop] at hk
    have hlt : turn.next + k < state.assignments.length := (List.getElem?_eq_some_iff.mp hk).1
    have hstanding := h.of_samePlace hlast
    exact
      { ended_iff := hstanding.ended_iff
        call := fun pending waiting hcall => by
          simp only [Option.some.injEq, Boundary.call.injEq] at hcall
          obtain ⟨rfl, rfl⟩ := hcall
          exact ⟨state, hstanding.current, by simp, hlt, assignment, by simpa using hk, hasks⟩
        boundary_eq_none_iff := by simp [hstanding.ended]
        currentOutput_eq := fun output houtput => by
          simp only [Except.ok.injEq] at houtput
          simp [currentOutput, hstanding.ended, houtput]
        of_error := fun problem herror => by simp at herror }
  · rw [heq]
    exact (h.of_samePlace hlast).settles_finishTurn turn.target

/-- Asking again settles where the engine stands. -/
theorem Standing.settles_askAgain (h : Standing settings engine state) :
    Settles settings (engine.askAgain settings state) := by
  unfold askAgain
  split
  · refine Standing.settles_await (h.of_samePlace ?_) _
    exact ⟨rfl, rfl, rfl⟩
  · refine Standing.settles_await (h.of_samePlace ?_) _
    exact ⟨rfl, rfl, rfl⟩

/-- An accepted response settles the conversation; the current state is always defined. -/
theorem Coherent.settles_respond (h : Coherent settings engine) (response : Text)
    (hnone : engine.responseProblem? = none) :
    Settles settings (engine.respond settings response) := by
  obtain ⟨state, hstanding⟩ := h.standing (responseProblem?_eq_none_iff.mp hnone).1
  cases hresolve : resolve (engine.heard response).environment state response with
  | mk resolved problems =>
    cases resolved with
    | none =>
      rw [respond_of_noTransition hnone hstanding.current hresolve]
      refine Standing.settles_askAgain (hstanding.of_samePlace ?_)
      exact ⟨rfl, rfl, rfl⟩
    | some resolved =>
      rw [respond_of_resolved hnone hstanding.current hresolve]
      refine Standing.settles_runTurn (hstanding.of_samePlace ?_) ⟨resolved.target, 0⟩
      exact ⟨rfl, rfl, rfl⟩

/-- The result of the pending call settles the conversation. -/
theorem Coherent.settles_completeCall {name : Text} {turn : Turn} (h : Coherent settings engine)
    (hended : engine.ended = false) (hcall : engine.boundary = some (.call name turn))
    (result : Text) : Settles settings (engine.completeCall settings result) := by
  obtain ⟨state, hstanding⟩ := h.standing hended
  have hbound : Standing settings
      (({ engine with boundary := none } : Engine).bind Name.call (.text result)) state :=
    ⟨hstanding.ended, hstanding.current, hstanding.ne_finish⟩
  rw [completeCall_of_call settings result hcall]
  exact hbound.settles_runTurn turn

end Engine

/-! ## Histories -/

namespace History

variable {settings : Settings} {history : History}

/-- Before the first operation everything is consistent. -/
theorem consistent_empty (hstart : settings.script.contains Name.start = true) :
    empty.Consistent settings where
  ended_iff := by
    have hne : Name.start ≠ Name.finish := by decide
    simp [empty, Engine.initial, Engine.state, Environment.initial, hne, hstart]
  call name turn hcall := by simp [empty, Engine.initial] at hcall
  boundary_eq_none_iff := by simp [empty, Engine.initial, Started]
  currentOutput_eq := rfl

/-- An event that moves the conversation keeps the history consistent, if the conversation has
started by then. -/
theorem consistent_of_settles {operation : Operation} {result : Engine.Result}
    (hperform : operation.perform settings history.engine = (.moved result.1, result.2))
    (hsettles : Engine.Settles settings result)
    (hstarted : (history.extend settings operation).Started) :
    (history.extend settings operation).Consistent settings := by
  have hextend : history.extend settings operation
      = ⟨result.2, ⟨operation, .moved result.1⟩ :: history.events⟩ := by
    simp [extend, hperform]
  rw [hextend] at hstarted ⊢
  exact
    { ended_iff := hsettles.ended_iff
      call := hsettles.call
      boundary_eq_none_iff := by simp [hsettles.boundary_eq_none_iff, hstarted]
      currentOutput_eq := by
        cases hresult : result.1 with
        | ok output =>
          have hshown := hsettles.currentOutput_eq output hresult
          -- after the end there is one output alone
          cases hended : result.2.ended with
          | true => simp [Engine.currentOutput, hended]
          | false => simp [hshown, lastOutput?, List.findSome?_cons]
        | error problem =>
          have hended := (hsettles.of_error problem hresult).1
          simp [Engine.currentOutput, hended] }

/-- An event that does not move the conversation and leaves all but the diagnostics alone keeps the
history consistent. -/
theorem Consistent.of_idle {operation : Operation} {reply : Reply} {problems : List Problem}
    (h : history.Consistent settings)
    (hperform : operation.perform settings history.engine
      = (reply, { history.engine with diagnostics := problems }))
    (hreply : ∀ output, reply ≠ .moved (.ok output)) :
    (history.extend settings operation).Consistent settings := by
  have hextend : history.extend settings operation
      = ⟨{ history.engine with diagnostics := problems },
          ⟨operation, reply⟩ :: history.events⟩ := by
    simp [extend, hperform]
  -- such an event is neither an output nor a start, so what the history is asked for stays
  have houtput : Event.output? ⟨operation, reply⟩ = none := by
    unfold Event.output?
    split
    next output heq => exact absurd heq (hreply output)
    next => rfl
  have hstarted : (⟨{ history.engine with diagnostics := problems },
      ⟨operation, reply⟩ :: history.events⟩ : History).Started ↔ history.Started := by
    constructor
    · rintro ⟨output, hmem⟩
      rcases List.mem_cons.mp hmem with heq | hmem
      · exact absurd (Event.mk.inj heq).2.symm (hreply output)
      · exact ⟨output, hmem⟩
    · rintro ⟨output, hmem⟩
      exact ⟨output, List.mem_cons_of_mem _ hmem⟩
  rw [hextend]
  exact
    { ended_iff := h.ended_iff
      call := fun name turn hcall => by
        obtain ⟨state, hpending⟩ := h.call name turn hcall
        exact ⟨state, hpending.current, hpending.pos, hpending.le, hpending.asks⟩
      boundary_eq_none_iff := by rw [hstarted]; exact h.boundary_eq_none_iff
      currentOutput_eq := by
        rw [show lastOutput? ⟨_, ⟨operation, reply⟩ :: history.events⟩ = history.lastOutput? by
          simp [lastOutput?, houtput]]
        exact h.currentOutput_eq }

/-- An engine that waits has started and goes on. -/
theorem Consistent.started_of_boundary (h : history.Consistent settings)
    (hboundary : history.engine.boundary ≠ none) :
    history.engine.ended = false ∧ history.Started := by
  rw [ne_eq, h.boundary_eq_none_iff, not_or] at hboundary
  exact ⟨by simpa using hboundary.1, Classical.not_not.mp hboundary.2⟩

theorem started_extend {operation : Operation} (h : history.Started) :
    (history.extend settings operation).Started := by
  obtain ⟨output, hmem⟩ := h
  exact ⟨output, List.mem_cons_of_mem _ hmem⟩

/-- Every operation keeps the history consistent. -/
theorem Consistent.extend (h : history.Consistent settings) (operation : Operation) :
    (history.extend settings operation).Consistent settings := by
  cases operation with
  | start =>
    cases hfresh : (history.engine.boundary.isSome || history.engine.ended) with
    | true =>
      have hstart := Engine.start_of_started settings hfresh
      exact h.of_idle (by rw [Operation.perform, hstart]) (by simp)
    | false =>
      obtain ⟨shown, problems, hstart⟩ := Engine.start_of_fresh settings hfresh
      obtain ⟨state, hstanding⟩ := h.standing (Bool.or_eq_false_iff.mp hfresh).2
      have hfreed : Engine.Standing settings { history.engine with diagnostics := problems }
          state := hstanding.of_samePlace ⟨rfl, rfl, rfl⟩
      -- nothing else moves a new conversation, so this is the start that the history remembers
      refine consistent_of_settles (by rw [Operation.perform, hstart])
        (hfreed.settles_await (.prompt shown)) ⟨.prompt shown, ?_⟩
      simp [History.extend, Operation.perform, hstart, Engine.await]
  | respond response =>
    cases hproblem : history.engine.responseProblem? with
    | some problem =>
      have hrespond := Engine.respond_of_responseProblem? settings response hproblem
      exact h.of_idle (by rw [Operation.perform, hrespond]) (by simp)
    | none =>
      obtain ⟨-, output, hboundary⟩ := Engine.responseProblem?_eq_none_iff.mp hproblem
      have hstarted := (h.started_of_boundary (by simp [hboundary])).2
      exact consistent_of_settles rfl (h.settles_respond response hproblem)
        (started_extend hstarted)
  | completeCall result =>
    cases hwaiting : history.engine.waitingCall with
    | none =>
      have hcomplete := Engine.completeCall_of_waitingCall settings result hwaiting
      exact h.of_idle (by rw [Operation.perform, hcomplete]) (by simp)
    | some name =>
      obtain ⟨turn, hcall⟩ := Engine.waitingCall_eq_some_iff.mp hwaiting
      obtain ⟨hended, hstarted⟩ := h.started_of_boundary (by simp [hcall])
      exact consistent_of_settles rfl (h.settles_completeCall hended hcall result)
        (started_extend hstarted)
  | currentOutput => exact h.of_idle rfl (by simp)
  | takeDiagnostics => exact h.of_idle rfl (by simp)

/-- **The engine after every run**: whatever was asked of it, its fields agree with each other and
with what it has answered, so no response ever finds itself in a state that is not defined. -/
theorem consistent_after (settings : Settings)
    (hstart : settings.script.contains Name.start = true)
    (hfinish : settings.script.contains Name.finish = true) (operations : List Operation) :
    Engine.new settings = .ok empty.engine ∧
    (after settings operations).Consistent settings ∧
    ∀ response key, ((after settings operations).engine.respond settings response).1
      ≠ .error (.currentStateUnknown key) := by
  have hconsistent : (after settings operations).Consistent settings :=
    after_induction (consistent_empty hstart) (fun _ operation h => h.extend operation) operations
  refine ⟨by simp [Engine.new, hstart, hfinish, empty], hconsistent, ?_⟩
  intro response key heq
  -- a refusal never names a state, and an accepted response has a state to start from
  cases hproblem : (after settings operations).engine.responseProblem? with
  | some problem =>
    rw [Engine.respond_of_responseProblem? settings response hproblem] at heq
    have hkey : problem = .currentStateUnknown key := Except.error.inj heq
    rw [hkey] at hproblem
    unfold Engine.responseProblem? at hproblem
    split at hproblem
    · simp at hproblem
    · split at hproblem <;> simp at hproblem
  | none =>
    obtain ⟨-, target, htarget⟩ := (hconsistent.settles_respond response hproblem).of_error _ heq
    simp at htarget

/-- In the midst of a turn that rolls twice, the second call is pending. -/
theorem consistent_after_rolls :
    let settings : Settings := .callerAnswered .rolling
    let history := after settings [.respond [], .start, .respond [], .completeCall ['6'], .start]
    settings.script.contains Name.start = true ∧ settings.script.contains Name.finish = true ∧
    history.engine.boundary = some (.call "roll".toList ⟨Name.finish, 3⟩) ∧
    history.Consistent settings :=
  ⟨by decide, by decide, by decide +kernel,
    (consistent_after _ (by decide) (by decide) _).2.1⟩

end History

end DialogueScript
