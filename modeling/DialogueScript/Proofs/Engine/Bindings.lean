import Mathlib.Data.List.Induction
import DialogueScript.Proofs.Engine.Reachable

/-!
# The variables that only the engine binds

After every run the counter is one more than the number of completed turns, as far as it goes; the
response is the last one that was accepted; and the match is that of the last transition taken, a
piece of the response that it was taken on (`History.bound_after`). Whatever assignments name, and
whatever the host answers, nothing else changes the three (`Engine.keepsBound_applyAssignment`).

The invariant is `Engine.Holds`, with what the three variables stand for as parameters; a turn keeps
it, and counts one more exactly if it is completed (`Engine.Holds.runTurn`).
-/

namespace DialogueScript

/-! ## What a conversation has heard, counted and taken -/

/-- Does the result complete a turn? One that asks again does not, nor does a call. -/
def completes : Except Problem Output → Bool
  | .ok (.prompt _) | .ok .finish => true
  | .ok (.retry _) | .ok (.call _) => false
  | .error problem => problem.code == "ENGINE_STATE_UNKNOWN".toList

/-- Does the event complete a turn? -/
def Event.completesTurn (event : Event) : Bool :=
  match event.operation, event.reply with
  | .respond _, .moved result | .completeCall _, .moved result => completes result
  | _, _ => false

/-- The response that an event has accepted. -/
def Event.heard? (event : Event) : Option Text :=
  match event.operation, event.reply with
  | .respond response, .moved (.ok _) => some response
  | .respond response, .moved (.error problem) =>
    if problem.kind = .protocol then none else some response
  | _, _ => none

/-- The number of completed turns. -/
def History.turns (history : History) : Nat := history.events.countP Event.completesTurn

/-- The last response that was accepted. -/
def History.lastHeard? (history : History) : Option Text := history.events.findSome? Event.heard?

/-- A transition that was taken: in which state, on which response, and what it came to. -/
structure Taken where
  state : Text
  response : Text
  resolved : Engine.Resolved

/-- The transition that an operation takes: the one that an accepted response is resolved to. -/
def Operation.taken? (settings : Settings) (engine : Engine) : Operation → Option Taken
  | .respond response =>
    if engine.responseProblem?.isSome then none
    else (settings.script.get? engine.state).bind fun state =>
      (Engine.resolve (engine.heard response).environment state response).1.map
        (⟨engine.state, response, ·⟩)
  | _ => none

/-- The transitions that are taken when a history goes on with some operations. -/
def takenIn (settings : Settings) (history : History) : List Operation → List Taken
  | [] => []
  | operation :: rest =>
    (operation.taken? settings history.engine).toList
      ++ takenIn settings (history.extend settings operation) rest

/-- What was taken is a transition of the state, on a piece of the response. -/
structure Taken.Sound (script : Script) (taken : Taken) : Prop where
  transition : ∃ state, script.get? taken.state = some state ∧
    ∃ transition ∈ state.transitions, Engine.Takes taken.response taken.resolved transition
  piece : taken.resolved.matched <:+: taken.response

section Takings

variable {settings : Settings} {history : History}

/-- One operation more takes at most one transition more. -/
theorem takenIn_concat (operations : List Operation) (operation : Operation) :
    takenIn settings history (operations ++ [operation]) = takenIn settings history operations ++
      (operation.taken? settings
        (operations.foldl (History.extend settings) history).engine).toList := by
  induction operations generalizing history with
  | nil => simp [takenIn]
  | cons first rest ih =>
    rw [List.cons_append, takenIn, ih, takenIn, List.append_assoc, List.foldl_cons]

/-- What an operation takes is a transition of the state it is in, with a match in the response. -/
theorem sound_of_taken? {engine : Engine} {operation : Operation} {taken : Taken}
    (h : operation.taken? settings engine = some taken) : taken.Sound settings.script := by
  cases operation with
  | respond response =>
    rw [Operation.taken?] at h
    split at h
    · cases h
    · obtain ⟨state, hstate, h⟩ := Option.bind_eq_some_iff.mp h
      obtain ⟨resolved, hresolved, rfl⟩ := Option.map_eq_some_iff.mp h
      obtain ⟨transition, hmem, htakes⟩ :=
        Engine.takes_of_resolve (Prod.ext hresolved rfl)
      refine ⟨⟨state, hstate, transition, hmem, htakes⟩, ?_⟩
      -- the wildcard matches nothing, and nothing is a piece of every response
      have hmatched := htakes.matched
      split at hmatched
      · rw [hmatched]
        exact List.nil_infix
      · exact Pattern.infix_of_find hmatched
  | start | completeCall _ | currentOutput | takeDiagnostics => cases h

/-- Everything that a run takes is a transition of the state it was in then. -/
theorem sound_of_mem_takenIn {operations : List Operation} {taken : Taken}
    (h : taken ∈ takenIn settings history operations) : taken.Sound settings.script := by
  induction operations generalizing history with
  | nil => simp [takenIn] at h
  | cons operation rest ih =>
    rcases List.mem_append.mp h with hfirst | hrest
    · exact sound_of_taken? (Option.mem_toList.mp hfirst)
    · exact ih hrest

end Takings

namespace Engine

/-! ## Assignments and calls -/

/-- The variables that only the engine binds hold the same. -/
def KeepsBound (before after : Engine) : Prop :=
  ∀ name, Name.isEngineBound name = true →
    after.environment.get? name = before.environment.get? name

variable {settings : Settings} {engine : Engine}

theorem KeepsBound.refl (engine : Engine) : KeepsBound engine engine := fun _ _ => rfl

theorem KeepsBound.trans {a b c : Engine} (hab : KeepsBound a b) (hbc : KeepsBound b c) :
    KeepsBound a c := fun name hname => (hbc name hname).trans (hab name hname)

theorem get?_bind_of_ne {name other : Text} (value : Value) (h : name ≠ other) :
    (engine.bind name value).environment.get? other = engine.environment.get? other := by
  rw [environment_bind, Environment.get?_bind, if_neg h]

/-- A step to another state counts the turn and changes no other variable. -/
theorem get?_moved_of_ne {name : Text} (target : Text) (h : Name.counter ≠ name) :
    (engine.moved target).environment.get? name = engine.environment.get? name := by
  simp [moved, Environment.advance, h]

/-- Assignments cannot bind the names that the engine binds itself. -/
theorem keepsBound_bind {target : Text} (value : Value) (h : Name.isEngineBound target = false) :
    KeepsBound engine (engine.bind target value) := by
  refine fun name hname => get?_bind_of_ne value ?_
  rintro rfl
  rw [h] at hname
  cases hname

/-- A call binds its own name, which the engine does not bind itself. -/
theorem keepsBound_dispatchCall (assignment : Assignment) :
    KeepsBound engine (engine.dispatchCall settings assignment).2 := by
  have hcall : Name.isEngineBound Name.call = false := by decide
  unfold dispatchCall
  dsimp only
  split
  · exact KeepsBound.refl engine
  · split
    · exact KeepsBound.refl engine
    · split
      · exact keepsBound_bind _ hcall
      · exact KeepsBound.refl engine

/-- No assignment changes them, whatever it names. -/
theorem keepsBound_applyAssignment (settings : Settings) (engine : Engine)
    (assignment : Assignment) :
    KeepsBound engine (engine.applyAssignment settings assignment).2 := by
  unfold applyAssignment
  split
  · exact KeepsBound.refl engine
  · split
    · exact KeepsBound.refl engine
    next hbound =>
      split
      · exact keepsBound_dispatchCall assignment
      · dsimp only
        split
        · exact keepsBound_bind _ (by simpa using hbound)
        · exact KeepsBound.refl engine

/-- Until a turn stops or ends they are kept. -/
theorem keepsBound_runAssignments (target : Text) : ∀ (assignments : List Assignment) (next : Nat)
    (engine : Engine), ∃ after, KeepsBound engine after ∧
      ((∃ name turn, engine.runAssignments settings target next assignments
        = (.ok (.call name), { after with boundary := some (.call name turn) })) ∨
      engine.runAssignments settings target next assignments
        = after.finishTurn settings target) := by
  intro assignments
  induction assignments with
  | nil => exact fun _ engine => ⟨engine, KeepsBound.refl engine, .inr rfl⟩
  | cons assignment rest ih =>
    intro next engine
    have hkeeps := keepsBound_applyAssignment settings engine assignment
    rw [runAssignments]
    cases happly : engine.applyAssignment settings assignment with
    | mk outcome after =>
      rw [happly] at hkeeps
      cases outcome with
      | suspended name => exact ⟨after, hkeeps, .inl ⟨name, _, rfl⟩⟩
      | applied | skipped =>
        obtain ⟨last, hlast, hrun⟩ := ih (next + 1) after
        exact ⟨last, hkeeps.trans hlast, hrun⟩

/-! ## The invariant -/

/-- The three variables after so many completed turns, with the last response and the last match. -/
structure Holds (turns : Nat) (response matched : Option Text) (engine : Engine) : Prop where
  counter : ∃ count : Int64, engine.environment.get? Name.counter = some (.number (.int count)) ∧
    count.toInt = min (1 + (turns : Int)) Number.maxInt
  response : engine.environment.get? Name.response = response.map Value.text
  lastMatch : engine.environment.get? Name.lastMatch = matched.map Value.text

variable {turns : Nat} {response matched : Option Text}

/-- At the beginning the counter is one, and nothing was heard or matched. -/
theorem holds_initial : Holds 0 none none initial where
  counter := ⟨1, by decide, by decide⟩
  response := by decide
  lastMatch := by decide

/-- The invariant is about those names only. -/
theorem Holds.of_keepsBound {after : Engine} (h : Holds turns response matched engine)
    (hkeeps : KeepsBound engine after) : Holds turns response matched after where
  counter := by rw [hkeeps _ (by decide)]; exact h.counter
  response := by rw [hkeeps _ (by decide)]; exact h.response
  lastMatch := by rw [hkeeps _ (by decide)]; exact h.lastMatch

/-- Hearing a response makes it the last one. -/
theorem Holds.heard (h : Holds turns response matched engine) (text : Text) :
    Holds turns (some text) matched (engine.heard text) where
  counter := by
    rw [Engine.heard, get?_bind_of_ne _ (by decide)]
    exact h.counter
  response := by simp [Engine.heard]
  lastMatch := (get?_bind_of_ne _ (by decide)).trans h.lastMatch

theorem Holds.bind_lastMatch (h : Holds turns response matched engine) (text : Text) :
    Holds turns response (some text) (engine.bind Name.lastMatch (.text text)) where
  counter := by
    rw [get?_bind_of_ne _ (by decide)]
    exact h.counter
  response := (get?_bind_of_ne _ (by decide)).trans h.response
  lastMatch := by simp

/-- Moving on counts a turn. -/
theorem Holds.moved (h : Holds turns response matched engine) (target : Text) :
    Holds (turns + 1) response matched (engine.moved target) where
  counter := by
    obtain ⟨count, hcount, hvalue⟩ := h.counter
    have hcounter : engine.environment.counter = count := by
      rw [Environment.counter, hcount]
    refine ⟨(Number.ofInt? (count.toInt + 1)).getD count, ?_, ?_⟩
    · simp [Engine.moved, Environment.advance, hcounter]
    · cases hnext : Number.ofInt? (count.toInt + 1) with
      | some next =>
        have hfits : Number.minInt ≤ count.toInt + 1 ∧ count.toInt + 1 ≤ Number.maxInt :=
          Number.ofInt?_isSome_iff.mp (by rw [hnext]; rfl)
        rw [Option.getD_some, Number.toInt_of_ofInt? hnext]
        omega
      | none =>
        -- the counter is at its greatest value and stays there
        have hlarge : ¬ (Number.minInt ≤ count.toInt + 1 ∧ count.toInt + 1 ≤ Number.maxInt) :=
          fun hfits => by simpa [hnext] using Number.ofInt?_isSome_iff.mpr hfits
        have hleast := Int64.le_toInt count
        rw [Option.getD_none]
        unfold Number.minInt Number.maxInt at *
        omega
  response := (get?_moved_of_ne target (by decide)).trans h.response
  lastMatch := (get?_moved_of_ne target (by decide)).trans h.lastMatch

/-! ## Turns -/

/-- The end of a turn counts it, wherever it goes. -/
theorem Holds.finishTurn (h : Holds turns response matched engine) (target : Text) :
    completes (engine.finishTurn settings target).1 = true ∧
      Holds (turns + 1) response matched (engine.finishTurn settings target).2 := by
  have hmoved := h.moved target
  have hkeeps : ∀ after : Engine, after.environment = (engine.moved target).environment →
      Holds (turns + 1) response matched after :=
    fun after hsame => hmoved.of_keepsBound fun name _ => by rw [hsame]
  cases hnext : settings.script.get? target with
  | none =>
    rw [finishTurn_of_none settings engine hnext]
    exact ⟨rfl, hkeeps _ rfl⟩
  | some next =>
    by_cases hfinish : target = Name.finish
    · rw [finishTurn_of_finish settings engine hnext hfinish]
      exact ⟨rfl, hkeeps _ rfl⟩
    · rw [finishTurn_of_ne_finish settings engine hnext hfinish]
      exact ⟨rfl, hkeeps _ rfl⟩

/-- The rest of a turn is counted if it is completed. -/
theorem Holds.runTurn (h : Holds turns response matched engine) (turn : Turn) :
    Holds (turns + if completes (engine.runTurn settings turn).1 then 1 else 0) response matched
      (engine.runTurn settings turn).2 := by
  unfold Engine.runTurn
  dsimp only
  obtain ⟨after, hkeeps, ⟨name, waiting, hrun⟩ | hrun⟩ :=
    @keepsBound_runAssignments settings turn.target
      ((((settings.script.get? engine.state).map (·.assignments)).getD []).drop turn.next)
      turn.next engine
  · rw [hrun]
    exact h.of_keepsBound hkeeps
  · rw [hrun]
    obtain ⟨hcompletes, hholds⟩ := (h.of_keepsBound hkeeps).finishTurn turn.target
    rw [if_pos hcompletes]
    exact hholds

/-- Asking again counts no turn. -/
theorem Holds.askAgain (h : Holds turns response matched engine) (state : ScriptState) :
    completes (engine.askAgain settings state).1 = false ∧
      Holds turns response matched (engine.askAgain settings state).2 := by
  unfold Engine.askAgain
  split <;> exact ⟨rfl, h.of_keepsBound (KeepsBound.refl engine)⟩

/-- An accepted response is what was last heard, and what it matched is matched last, if it takes a
transition. -/
theorem Holds.respond (h : Holds turns response matched engine) {text : Text}
    (hnone : engine.responseProblem? = none) {state : ScriptState}
    (hstate : settings.script.get? engine.state = some state) :
    Holds (turns + if completes (engine.respond settings text).1 then 1 else 0) (some text)
      ((((Operation.respond text).taken? settings engine).map (·.resolved.matched)).or matched)
      (engine.respond settings text).2 := by
  have hheard := h.heard text
  cases hresolve : resolve (engine.heard text).environment state text with
  | mk resolved problems =>
    have htaken : (Operation.respond text).taken? settings engine
        = resolved.map (⟨engine.state, text, ·⟩) := by
      simp [Operation.taken?, hnone, hstate, hresolve]
    rw [htaken]
    cases resolved with
    | none =>
      rw [respond_of_noTransition hnone hstate hresolve]
      have hrecorded : Holds turns (some text) matched
          (((engine.heard text).record problems).record [.noTransition engine.state text]) :=
        -- problems are no variables
        hheard.of_keepsBound (KeepsBound.refl _)
      rw [(hrecorded.askAgain state).1]
      exact (hrecorded.askAgain state).2
    | some resolved =>
      rw [respond_of_resolved hnone hstate hresolve]
      have hmatched : Holds turns (some text) matched ((engine.heard text).record problems) :=
        hheard.of_keepsBound (KeepsBound.refl _)
      exact (hmatched.bind_lastMatch resolved.matched).runTurn _

/-- The result of a call is bound to a variable of its own. -/
theorem Holds.completeCall (h : Holds turns response matched engine) {name : Text} {turn : Turn}
    (hcall : engine.boundary = some (.call name turn)) (result : Text) :
    Holds (turns + if completes (engine.completeCall settings result).1 then 1 else 0) response
      matched (engine.completeCall settings result).2 := by
  rw [completeCall_of_call settings result hcall]
  have hbound : Holds turns response matched
      (({ engine with boundary := none } : Engine).bind Name.call (.text result)) :=
    h.of_keepsBound (keepsBound_bind _ (by decide))
  exact hbound.runTurn turn

end Engine

/-! ## Runs -/

namespace History

variable {settings : Settings} {history : History} {matched : Option Text}

/-- An operation ends at most one turn. -/
theorem turns_extend (operation : Operation) : (history.extend settings operation).turns
    = history.turns + if Event.completesTurn
        ⟨operation, (operation.perform settings history.engine).1⟩ then 1 else 0 :=
  List.countP_cons ..

/-- The last response is that of the last operation that was heard. -/
theorem lastHeard?_extend (operation : Operation) :
    (history.extend settings operation).lastHeard?
      = (Event.heard? ⟨operation, (operation.perform settings history.engine).1⟩).or
          history.lastHeard? := by
  rw [lastHeard?, extend, List.findSome?_cons]
  cases Event.heard? ⟨operation, (operation.perform settings history.engine).1⟩ <;> rfl

/-- An operation that is refused, or does not move the conversation, keeps the three variables. -/
theorem holds_extend_of_idle {operation : Operation}
    (h : Engine.Holds history.turns history.lastHeard? matched history.engine)
    (hturn : Event.completesTurn
      ⟨operation, (operation.perform settings history.engine).1⟩ = false)
    (hheard : Event.heard? ⟨operation, (operation.perform settings history.engine).1⟩ = none)
    (hkeeps : Engine.KeepsBound history.engine (operation.perform settings history.engine).2) :
    Engine.Holds (history.extend settings operation).turns
      (history.extend settings operation).lastHeard? matched
      (history.extend settings operation).engine := by
  rw [turns_extend, lastHeard?_extend, hturn, hheard]
  exact h.of_keepsBound hkeeps

/-- What every operation makes of the three variables. -/
theorem Consistent.holds_extend (hconsistent : history.Consistent settings)
    (h : Engine.Holds history.turns history.lastHeard? matched history.engine)
    (operation : Operation) :
    Engine.Holds (history.extend settings operation).turns
      (history.extend settings operation).lastHeard?
      (((operation.taken? settings history.engine).map (·.resolved.matched)).or matched)
      (history.extend settings operation).engine := by
  cases operation with
  | start =>
    refine holds_extend_of_idle h rfl rfl ?_
    cases hfresh : (history.engine.boundary.isSome || history.engine.ended) with
    | true =>
      rw [Operation.perform, Engine.start_of_started settings hfresh]
      exact Engine.KeepsBound.refl _
    | false =>
      obtain ⟨shown, problems, hstart⟩ := Engine.start_of_fresh settings hfresh
      rw [Operation.perform, hstart]
      exact Engine.KeepsBound.refl _
  | respond response =>
    cases hproblem : history.engine.responseProblem? with
    | some problem =>
      have hkind := Engine.kind_responseProblem? hproblem
      have hrefused : (Operation.respond response).perform settings history.engine
          = (.moved (.error problem), history.engine) := by
        rw [Operation.perform, Engine.respond_of_responseProblem? settings response hproblem]
      rw [show (Operation.respond response).taken? settings history.engine = none by
        simp [Operation.taken?, hproblem]]
      refine holds_extend_of_idle h ?_ ?_ ?_ <;> rw [hrefused]
      · exact beq_eq_false_iff_ne.mpr (Engine.code_of_protocol hkind)
      · exact if_pos hkind
      · exact Engine.KeepsBound.refl _
    | none =>
      obtain ⟨state, hstanding⟩ :=
        hconsistent.standing (Engine.responseProblem?_eq_none_iff.mp hproblem).1
      have hheard : Event.heard? ⟨.respond response,
          ((Operation.respond response).perform settings history.engine).1⟩ = some response := by
        -- the only problem of an accepted response is a missing state
        have hsettles := hconsistent.settles_respond response hproblem
        rw [Operation.perform, Event.heard?]
        cases hresult : (history.engine.respond settings response).1 with
        | ok output => rfl
        | error problem =>
          obtain ⟨-, target, rfl⟩ := hsettles.of_error problem hresult
          rfl
      rw [turns_extend, lastHeard?_extend, hheard]
      exact h.respond hproblem hstanding.current
  | completeCall result =>
    cases hwaiting : history.engine.waitingCall with
    | none =>
      refine holds_extend_of_idle h ?_ rfl ?_ <;>
        rw [Operation.perform, Engine.completeCall_of_waitingCall settings result hwaiting]
      · rfl
      · exact Engine.KeepsBound.refl _
    | some name =>
      obtain ⟨turn, hcall⟩ := Engine.waitingCall_eq_some_iff.mp hwaiting
      rw [turns_extend, lastHeard?_extend]
      exact h.completeCall hcall result
  | currentOutput | takeDiagnostics =>
    exact holds_extend_of_idle h rfl rfl (Engine.KeepsBound.refl _)

/-- **The variables that only the engine binds, after every run**: the counter is one more than the
number of completed turns, as far as it goes; the response is the last accepted one; the match is
that of the last transition taken, which is a piece of its response, and nothing for the wildcard.
No assignment changes them. -/
theorem bound_after (settings : Settings)
    (hstart : settings.script.contains Name.start = true) (operations : List Operation) :
    let history := after settings operations
    let environment := history.engine.environment
    let taken := takenIn settings empty operations
    (∃ count : Int64, environment.get? Name.counter = some (.number (.int count)) ∧
      count.toInt = min (1 + (history.turns : Int)) Number.maxInt) ∧
    environment.get? Name.response = history.lastHeard?.map Value.text ∧
    environment.get? Name.lastMatch = (taken.getLast?.map (·.resolved.matched)).map Value.text ∧
    (∀ one ∈ taken, one.Sound settings.script) ∧
    ∀ (engine : Engine) (assignment : Assignment),
      Engine.KeepsBound engine (engine.applyAssignment settings assignment).2 := by
  intro history environment taken
  obtain ⟨-, hholds⟩ : history.Consistent settings ∧ Engine.Holds history.turns
      history.lastHeard? (taken.getLast?.map (·.resolved.matched)) history.engine := by
    -- what was taken grows at its end, so the induction goes by the last operation
    induction operations using List.reverseRecOn with
    | nil => exact ⟨consistent_empty hstart, Engine.holds_initial⟩
    | append_singleton operations operation ih =>
      obtain ⟨hconsistent, hholds⟩ := ih
      have hafter : history = (after settings operations).extend settings operation := by
        simp [history, after]
      have htaken : taken.getLast?.map (·.resolved.matched)
          = ((operation.taken? settings (after settings operations).engine).map
              (·.resolved.matched)).or
            ((takenIn settings empty operations).getLast?.map (·.resolved.matched)) := by
        rw [show taken = takenIn settings empty operations ++ (operation.taken? settings
          (after settings operations).engine).toList from takenIn_concat operations operation,
          List.getLast?_append]
        cases operation.taken? settings (after settings operations).engine <;> rfl
      rw [hafter, htaken]
      exact ⟨hconsistent.extend operation, hconsistent.holds_extend hholds operation⟩
  exact ⟨hholds.counter, hholds.response, hholds.lastMatch, fun one => sound_of_mem_takenIn,
    Engine.keepsBound_applyAssignment settings⟩

/-- A turn that waits for two calls is counted once, and refuses a response in between. -/
theorem bound_after_rolls :
    let settings : Settings := .callerAnswered .rolling
    let operations : List Operation := [.respond "soon".toList, .start, .respond "yes".toList,
      .completeCall ['6'], .respond "now".toList, .completeCall ['5']]
    let history := after settings operations
    let environment := history.engine.environment
    settings.script.contains Name.start = true ∧ history.turns = 1 ∧
    (∃ count : Int64, environment.get? Name.counter = some (.number (.int count)) ∧
      count.toInt = 2) ∧
    environment.get? Name.response = some (.text "yes".toList) ∧
    environment.get? Name.lastMatch = some (.text []) ∧
    environment.get? Name.call = some (.text ['5']) := by
  intro settings operations history environment
  have hstart : settings.script.contains Name.start = true := by decide
  have hturns : history.turns = 1 := by decide +kernel
  have hheard : history.lastHeard? = some "yes".toList := by decide +kernel
  have htaken : (takenIn settings empty operations).getLast?.map (·.resolved.matched)
      = some [] := by decide +kernel
  obtain ⟨⟨count, hcount, hvalue⟩, hresponse, hmatch, -, -⟩ :=
    bound_after settings hstart operations
  refine ⟨hstart, hturns, ⟨count, hcount, ?_⟩, ?_, ?_, by decide +kernel⟩
  · rw [hvalue, hturns]
    decide
  · exact hresponse.trans (congrArg (Option.map Value.text) hheard)
  · exact hmatch.trans (congrArg (Option.map Value.text) htaken)

end History

end DialogueScript
