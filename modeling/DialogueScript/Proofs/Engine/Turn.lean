import DialogueScript.Engine.Step

/-!
# What a turn does

One lemma for each operation of the engine, saying all that it can do, so that no proof about whole
conversations opens the operations again. Assignments leave the state, the boundary and the end of
the conversation alone (`frame_applyAssignment`); a suspended one is a deferred call of a known name
(`suspended_cases`); a turn either stops at such a call or moves to its target
(`runAssignments_cases`); and a response is refused, finds its state undefined, asks again or begins
a turn (`Responds`).
-/

namespace DialogueScript.Engine

/-! ## Fields after the small operations -/

section Fields

variable (engine : Engine) (problems : List Problem) (name : Text) (value : Value)

@[simp] theorem diagnostics_record :
    (engine.record problems).diagnostics = engine.diagnostics ++ problems := rfl

@[simp] theorem environment_bind :
    (engine.bind name value).environment = engine.environment.bind name value := rfl

@[simp] theorem state_bind : (engine.bind name value).state = engine.state := rfl

@[simp] theorem called_bind : (engine.bind name value).called = engine.called := rfl

end Fields

/-- Rendering changes nothing but the diagnostics. -/
theorem render_snd (settings : Settings) (engine : Engine) (template : Text) :
    (engine.render settings template).2
      = engine.record (Template.renderNoting engine.environment template).2 := rfl

/-! ## Assignments -/

/-- Two engines at the same place of the same conversation. -/
structure SamePlace (before after : Engine) : Prop where
  state : after.state = before.state
  boundary : after.boundary = before.boundary
  ended : after.ended = before.ended

namespace SamePlace

theorem refl (engine : Engine) : SamePlace engine engine := ⟨rfl, rfl, rfl⟩

theorem trans {a b c : Engine} (hab : SamePlace a b) (hbc : SamePlace b c) : SamePlace a c :=
  ⟨hbc.state.trans hab.state, hbc.boundary.trans hab.boundary, hbc.ended.trans hab.ended⟩

end SamePlace

section Call

variable (settings : Settings) (engine : Engine) {assignment : Assignment}

/-- A name that no host has is skipped. -/
theorem dispatchCall_of_unknown (h : settings.hosts.contains (Text.trim assignment.value) = false) :
    engine.dispatchCall settings assignment = engine.skip .unknownCall assignment := by
  unfold dispatchCall
  dsimp only
  rw [if_pos (by simp [h])]

/-- A deferring engine waits for the call that it was asked for. -/
theorem dispatchCall_of_deferred (h : settings.hosts.contains (Text.trim assignment.value) = true)
    (hdefer : settings.deferCalls = true) :
    engine.dispatchCall settings assignment
      = (.suspended (Text.trim assignment.value), engine) := by
  unfold dispatchCall
  dsimp only
  rw [if_neg (by simp [h]), if_pos hdefer]

/-- The environment and the list of calls after a call that succeeds. -/
def answered (name result : Text) : Engine :=
  ({ engine with called := name :: engine.called } : Engine).bind Name.call (.text result)

/-- An engine that does not defer asks the host, with the number of times that it was asked before.
-/
theorem dispatchCall_of_ok {result : Text}
    (h : settings.hosts.contains (Text.trim assignment.value) = true)
    (hsync : settings.deferCalls = false)
    (hresult : settings.hosts.call (Text.trim assignment.value)
      (engine.called.count (Text.trim assignment.value)) = .ok result) :
    engine.dispatchCall settings assignment
      = (.applied, engine.answered (Text.trim assignment.value) result) := by
  unfold dispatchCall
  dsimp only
  rw [if_neg (by simp [h]), if_neg (by simp [hsync]), hresult]
  rfl

end Call

/-- Calling the host leaves the engine where it is. -/
theorem frame_dispatchCall (settings : Settings) (engine : Engine) (assignment : Assignment) :
    SamePlace engine (engine.dispatchCall settings assignment).2 := by
  unfold dispatchCall
  dsimp only
  split
  · exact ⟨rfl, rfl, rfl⟩
  · split
    · exact SamePlace.refl engine
    · split <;> exact ⟨rfl, rfl, rfl⟩

/-- An assignment leaves the engine where it is. -/
theorem frame_applyAssignment (settings : Settings) (engine : Engine) (assignment : Assignment) :
    SamePlace engine (engine.applyAssignment settings assignment).2 := by
  unfold applyAssignment
  split
  · exact ⟨rfl, rfl, rfl⟩
  · split
    · exact ⟨rfl, rfl, rfl⟩
    · split
      · exact frame_dispatchCall settings engine assignment
      · dsimp only
        split <;> exact ⟨rfl, rfl, rfl⟩

/-- A call that is left to the caller: the assignment asks for a name of the registry. -/
structure Asks (settings : Settings) (name : Text) (assignment : Assignment) : Prop where
  deferred : settings.deferCalls = true
  known : settings.hosts.contains name = true
  target : assignment.target = Name.call
  value : Text.trim assignment.value = name

/-- An assignment that suspends the turn asks for a call, and has changed nothing. -/
theorem suspended_cases {settings : Settings} {engine after : Engine} {assignment : Assignment}
    {name : Text}
    (h : engine.applyAssignment settings assignment = (.suspended name, after)) :
    Asks settings name assignment ∧ after = engine := by
  unfold applyAssignment at h
  split at h
  · simp [skip] at h
  · split at h
    · simp [skip] at h
    · split at h
      next htarget =>
        unfold dispatchCall at h
        dsimp only at h
        split at h
        · simp [skip] at h
        next hknown =>
          split at h
          next hdefer =>
            -- the one branch that suspends; all others skip or apply
            simp only [Prod.mk.injEq, AssignOutcome.suspended.injEq] at h
            obtain ⟨hname, hafter⟩ := h
            subst hname
            exact ⟨⟨hdefer, by simpa using hknown, htarget, rfl⟩, hafter.symm⟩
          next => split at h <;> simp at h
      next =>
        dsimp only at h
        split at h <;> simp [skip] at h

/-! ## The end of a turn -/

/-- The environment after a turn to a target. -/
def moved (engine : Engine) (target : Text) : Engine :=
  { engine with environment := engine.environment.advance.moveTo target }

/-- What a turn to a state with a prompt ends with. -/
def arrived (settings : Settings) (engine : Engine) (target prompt : Text) : Result :=
  let shown := (engine.moved target).render settings prompt
  shown.2.await (.prompt shown.1)

section End

variable (settings : Settings) (engine : Engine) {target : Text}

/-- A target that no state defines ends the run. -/
theorem finishTurn_of_none (h : settings.script.get? target = none) :
    engine.finishTurn settings target
      = (.error (.targetUnknown target),
          { engine.moved target with ended := true, boundary := none }) := by
  unfold finishTurn
  rw [h]
  rfl

/-- The final state ends the run without a problem. -/
theorem finishTurn_of_finish {next : ScriptState} (h : settings.script.get? target = some next)
    (htarget : target = Name.finish) :
    engine.finishTurn settings target
      = (.ok .finish, { engine.moved target with ended := true, boundary := none }) := by
  unfold finishTurn
  rw [h]
  dsimp only
  rw [if_pos htarget]
  rfl

/-- At any other state the engine shows the prompt and waits. -/
theorem finishTurn_of_ne_finish {next : ScriptState} (h : settings.script.get? target = some next)
    (htarget : target ≠ Name.finish) :
    engine.finishTurn settings target = engine.arrived settings target next.prompt := by
  unfold finishTurn
  rw [h]
  dsimp only
  rw [if_neg htarget]
  rfl

end End

/-- A turn stops at the first call that it has to leave to the caller, with the number of the next
assignment, or it runs through and ends. -/
theorem runAssignments_cases (settings : Settings) (target : Text) :
    ∀ (assignments : List Assignment) (next : Nat) (engine : Engine),
      (∃ after name k assignment, SamePlace engine after ∧ assignments[k]? = some assignment ∧
        Asks settings name assignment ∧
        engine.runAssignments settings target next assignments
          = (.ok (.call name),
              { after with boundary := some (.call name ⟨target, next + k + 1⟩) })) ∨
      (∃ after, SamePlace engine after ∧
        engine.runAssignments settings target next assignments
          = after.finishTurn settings target) := by
  intro assignments
  -- no assignment moves the engine, so the state whose assignments these are stays the same
  induction assignments with
  | nil => exact fun _ engine => .inr ⟨engine, SamePlace.refl engine, rfl⟩
  | cons assignment rest ih =>
    intro next engine
    have hframe := frame_applyAssignment settings engine assignment
    rw [runAssignments]
    cases happly : engine.applyAssignment settings assignment with
    | mk outcome after =>
      rw [happly] at hframe
      cases outcome with
      | suspended name =>
        obtain ⟨hasks, rfl⟩ := suspended_cases happly
        exact .inl ⟨after, name, 0, assignment, hframe, rfl, hasks, rfl⟩
      | applied | skipped =>
        -- the rest of the turn starts one assignment later
        rcases ih (next + 1) after with ⟨last, name, k, asking, hlast, hk, hasks, hrun⟩
          | ⟨last, hlast, hrun⟩
        · refine .inl ⟨last, name, k + 1, asking, hframe.trans hlast, by simpa using hk, hasks, ?_⟩
          dsimp only
          rw [hrun, show next + 1 + k + 1 = next + (k + 1) + 1 by omega]
        · exact .inr ⟨last, hframe.trans hlast, by dsimp only; rw [hrun]⟩

/-! ## Transitions -/

/-- A transition is taken on a response: the wildcard with nothing matched, any other with what its
pattern finds. -/
structure Takes (response : Text) (resolved : Resolved) (transition : Transition) : Prop where
  target : transition.target = resolved.target
  matched : if transition.key.isWildcard then resolved.matched = []
    else transition.key.search.find response = some resolved.matched

/-- What the scan finds is the match of a transition with that target. -/
theorem find_of_firstAccepting {env : Environment} {response : Text} {resolved : Resolved}
    {transitions : List Transition}
    (h : (firstAccepting env response transitions).1 = some resolved) :
    ∃ transition ∈ transitions, transition.target = resolved.target ∧
      transition.key.search.find response = some resolved.matched := by
  induction transitions with
  | nil => simp [firstAccepting] at h
  | cons transition rest ih =>
    have hrest : (firstAccepting env response rest).1 = some resolved →
        ∃ taken ∈ transition :: rest, taken.target = resolved.target ∧
          taken.key.search.find response = some resolved.matched := fun hfound => by
      obtain ⟨taken, hmem, htaken⟩ := ih hfound
      exact ⟨taken, List.mem_cons_of_mem _ hmem, htaken⟩
    rw [firstAccepting] at h
    split at h
    next => exact hrest h
    next found hfound =>
      dsimp only at h
      split at h
      · obtain rfl := Option.some.inj h
        exact ⟨transition, List.mem_cons_self .., rfl, hfound⟩
      · exact hrest h

/-- A turn goes by a transition of the state, be it the wildcard. -/
theorem takes_of_resolve {env : Environment} {state : ScriptState} {response : Text}
    {resolved : Resolved} {problems : List Problem}
    (h : resolve env state response = (some resolved, problems)) :
    ∃ transition ∈ state.transitions, Takes response resolved transition := by
  unfold resolve at h
  split at h
  next first noted hfirst =>
    obtain ⟨rfl, -⟩ := Prod.mk.inj h |>.imp Option.some.inj id
    obtain ⟨transition, hmem, htarget, hfound⟩ := find_of_firstAccepting (by rw [hfirst])
    obtain ⟨hmem, hordered⟩ := List.mem_filter.mp hmem
    exact ⟨transition, hmem, htarget, by rw [if_neg (by simpa using hordered)]; exact hfound⟩
  next noted hfirst =>
    obtain ⟨target, hwildcard, rfl⟩ := Option.map_eq_some_iff.mp (Prod.mk.inj h).1
    obtain ⟨transition, hfind, htarget⟩ := Option.map_eq_some_iff.mp hwildcard
    exact ⟨transition, List.mem_reverse.mp (List.mem_of_find?_eq_some hfind), htarget,
      by rw [if_pos (List.find?_some hfind)]⟩

/-! ## Responses -/

/-- The engine after it heard a response. -/
def heard (engine : Engine) (response : Text) : Engine :=
  ({ engine with diagnostics := [] } : Engine).bind Name.response (.text response)

section Respond

variable {settings : Settings} {engine : Engine} {response : Text}

/-- An engine in a state that its script does not define cannot answer. -/
theorem respond_of_unknown (h : engine.responseProblem? = none)
    (hstate : settings.script.get? engine.state = none) :
    engine.respond settings response
      = (.error (.currentStateUnknown engine.state), engine.heard response) := by
  unfold respond
  rw [h]
  dsimp only [state_bind]
  rw [show settings.script.get? ({ engine with diagnostics := [] } : Engine).state = none
    from hstate]
  rfl

/-- A response that is accepted and that the current state knows how to take. -/
theorem respond_of_known {state : ScriptState} (h : engine.responseProblem? = none)
    (hstate : settings.script.get? engine.state = some state) :
    engine.respond settings response
      = (let heard := engine.heard response
        let resolution := resolve heard.environment state response
        match resolution.1 with
        | none =>
          ((heard.record resolution.2).record [.noTransition engine.state response]).askAgain
            settings state
        | some resolved =>
          ((heard.record resolution.2).bind Name.lastMatch (.text resolved.matched)).runTurn
            settings ⟨resolved.target, 0⟩) := by
  unfold respond
  rw [h]
  dsimp only [state_bind]
  rw [show settings.script.get? ({ engine with diagnostics := [] } : Engine).state = some state
    from hstate]
  rfl

/-- Without a transition the state asks again. -/
theorem respond_of_noTransition {state : ScriptState} {problems : List Problem}
    (h : engine.responseProblem? = none) (hstate : settings.script.get? engine.state = some state)
    (hresolve : resolve (engine.heard response).environment state response = (none, problems)) :
    engine.respond settings response
      = (((engine.heard response).record problems).record
          [.noTransition engine.state response]).askAgain settings state := by
  rw [respond_of_known h hstate]
  dsimp only
  rw [hresolve]

/-- With a transition the match is bound before the assignments run. -/
theorem respond_of_resolved {state : ScriptState} {problems : List Problem} {resolved : Resolved}
    (h : engine.responseProblem? = none) (hstate : settings.script.get? engine.state = some state)
    (hresolve : resolve (engine.heard response).environment state response
      = (some resolved, problems)) :
    engine.respond settings response
      = (((engine.heard response).record problems).bind Name.lastMatch
          (.text resolved.matched)).runTurn settings ⟨resolved.target, 0⟩ := by
  rw [respond_of_known h hstate]
  dsimp only
  rw [hresolve]

end Respond

/-! ## Operations out of turn -/

/-- An engine starts once. -/
theorem start_of_started {engine : Engine} (settings : Settings)
    (h : (engine.boundary.isSome || engine.ended) = true) :
    engine.start settings = (.error .alreadyStarted, engine) := by
  unfold start
  rw [if_pos h]

/-- The first start shows a prompt and waits for a response to it. -/
theorem start_of_fresh {engine : Engine} (settings : Settings)
    (h : (engine.boundary.isSome || engine.ended) = false) :
    ∃ shown problems, engine.start settings
      = Engine.await { engine with diagnostics := problems } (.prompt shown) := by
  unfold start
  rw [if_neg (by simp [h])]
  exact ⟨_, _, rfl⟩

/-- Out of turn, a response changes nothing. -/
theorem respond_of_responseProblem? {engine : Engine} {problem : Problem} (settings : Settings)
    (response : Text) (h : engine.responseProblem? = some problem) :
    engine.respond settings response = (.error problem, engine) := by
  unfold respond
  rw [h]

/-- What a response can come to. -/
inductive Responds (settings : Settings) (engine : Engine) (response : Text) : Result → Prop
  /-- No response is waited for. -/
  | refused {problem : Problem} (hproblem : engine.responseProblem? = some problem) :
      Responds settings engine response (.error problem, engine)
  /-- The script does not define the current state. -/
  | unknown (hnone : engine.responseProblem? = none)
      (hstate : settings.script.get? engine.state = none) :
      Responds settings engine response
        (.error (.currentStateUnknown engine.state), engine.heard response)
  /-- No transition takes the response. -/
  | again {state : ScriptState} {problems : List Problem} (hnone : engine.responseProblem? = none)
      (hstate : settings.script.get? engine.state = some state)
      (hresolve : resolve (engine.heard response).environment state response = (none, problems)) :
      Responds settings engine response
        ((((engine.heard response).record problems).record
          [.noTransition engine.state response]).askAgain settings state)
  /-- A transition takes the response. -/
  | turn {state : ScriptState} {problems : List Problem} {resolved : Resolved}
      (hnone : engine.responseProblem? = none)
      (hstate : settings.script.get? engine.state = some state)
      (hresolve : resolve (engine.heard response).environment state response
        = (some resolved, problems)) :
      Responds settings engine response
        ((((engine.heard response).record problems).bind Name.lastMatch
          (.text resolved.matched)).runTurn settings ⟨resolved.target, 0⟩)

/-- There are no other cases. -/
theorem responds (settings : Settings) (engine : Engine) (response : Text) :
    Responds settings engine response (engine.respond settings response) := by
  cases hproblem : engine.responseProblem? with
  | some problem =>
    rw [respond_of_responseProblem? settings response hproblem]
    exact .refused hproblem
  | none =>
    cases hstate : settings.script.get? engine.state with
    | none =>
      rw [respond_of_unknown hproblem hstate]
      exact .unknown hproblem hstate
    | some state =>
      cases hresolve : resolve (engine.heard response).environment state response with
      | mk resolved problems =>
        cases resolved with
        | none =>
          rw [respond_of_noTransition hproblem hstate hresolve]
          exact .again hproblem hstate hresolve
        | some resolved =>
          rw [respond_of_resolved hproblem hstate hresolve]
          exact .turn hproblem hstate hresolve

/-- The result of a call is bound, and the turn goes on where it stopped. -/
theorem completeCall_of_call {engine : Engine} {name : Text} {turn : Turn} (settings : Settings)
    (result : Text) (h : engine.boundary = some (.call name turn)) :
    engine.completeCall settings result
      = (({ engine with boundary := none } : Engine).bind Name.call (.text result)).runTurn settings
          turn := by
  unfold completeCall
  rw [h]

/-- A result that nobody waits for changes nothing either. -/
theorem completeCall_of_waitingCall {engine : Engine} (settings : Settings) (result : Text)
    (h : engine.waitingCall = none) :
    engine.completeCall settings result = (.error .noPendingCall, engine) := by
  unfold completeCall
  split
  next name turn hcall => simp [waitingCall, hcall] at h
  next => rfl

/-- A response is accepted exactly while one is awaited. -/
theorem responseProblem?_eq_none_iff {engine : Engine} : engine.responseProblem? = none ↔
    engine.ended = false ∧ ∃ output, engine.boundary = some (.response output) := by
  unfold responseProblem?
  split
  next h => simp [h]
  next h =>
    split
    next output hboundary => simp [h, hboundary]
    next name turn hboundary => simp [hboundary]
    next hboundary => simp [hboundary]

/-- A response is refused by the protocol alone. -/
theorem kind_responseProblem? {engine : Engine} {problem : Problem}
    (h : engine.responseProblem? = some problem) : problem.kind = .protocol := by
  unfold responseProblem? at h
  split at h
  · exact Option.some.inj h ▸ rfl
  · split at h
    · simp at h
    · exact Option.some.inj h ▸ rfl
    · exact Option.some.inj h ▸ rfl

/-- No problem of the protocol is reported as a missing state. -/
theorem code_of_protocol {problem : Problem} (h : problem.kind = .protocol) :
    problem.code ≠ "ENGINE_STATE_UNKNOWN".toList := by
  have hended : "ENGINE_ENDED".toList ≠ "ENGINE_STATE_UNKNOWN".toList := by decide
  have hstarted : "ENGINE_ALREADY_STARTED".toList ≠ "ENGINE_STATE_UNKNOWN".toList := by decide
  have hpending : "ENGINE_CALL_PENDING".toList ≠ "ENGINE_STATE_UNKNOWN".toList := by decide
  have hfresh : "ENGINE_NOT_STARTED".toList ≠ "ENGINE_STATE_UNKNOWN".toList := by decide
  have hnone : "ENGINE_NO_PENDING_CALL".toList ≠ "ENGINE_STATE_UNKNOWN".toList := by decide
  cases problem with
  | ended => exact hended
  | alreadyStarted => exact hstarted
  | callPending _ => exact hpending
  | notStarted => exact hfresh
  | noPendingCall => exact hnone
  | _ => cases h

/-- The waiting call is the one at the boundary. -/
theorem waitingCall_eq_some_iff {engine : Engine} {name : Text} :
    engine.waitingCall = some name ↔ ∃ turn, engine.boundary = some (.call name turn) := by
  unfold waitingCall
  split
  next other turn hboundary => simp [hboundary, eq_comm]
  next hnot =>
    simp only [reduceCtorEq, false_iff, not_exists]
    exact fun turn hboundary => hnot name turn hboundary

end DialogueScript.Engine
