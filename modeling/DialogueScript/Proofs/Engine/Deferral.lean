import DialogueScript.Engine.Create
import DialogueScript.Proofs.Engine.Run
import DialogueScript.Proofs.Engine.Turn

/-!
# Deferred host calls

An engine may call the host itself, or leave every call to whoever runs it. Where all calls succeed
the two are the same conversation: a caller that answers each call as the host would sees the same
results, asks for the same calls in the same order, and has the same engine after every response
(`deferred_refines_synchronous`).

The proof follows a turn assignment by assignment. `Alike` relates the two engines in the midst of
one; a deferred call stops one of them, and `answer_runAssignments` shows that the answer brings it
back to where the other one is. `Agrees` relates them between turns.
-/

namespace DialogueScript

/-! ## The two ways to run a conversation -/

/-- Every call of a known name succeeds, however often the name was called before. -/
def HostRegistry.Succeeds (hosts : HostRegistry) : Prop :=
  ∀ name, hosts.contains name = true → ∀ earlier, ∃ result, hosts.call name earlier = .ok result

/-- A registry of functions that never fail never fails. -/
theorem HostRegistry.succeeds_answering {calls : List (Text × HostAnswer)}
    (h : ∀ entry ∈ calls, ∀ earlier, ∃ result, entry.2 earlier = .ok result) :
    (answering calls).Succeeds := by
  rw [answering_eq_listing]
  intro name hknown earlier
  have hanswered : ((CallTable.ofCalls calls).answers.get? name).isSome = true :=
    (CallTable.agrees_ofCalls calls name).mp (List.contains_iff_mem.mp hknown)
  obtain ⟨answer, hanswer⟩ := Option.isSome_iff_exists.mp hanswered
  obtain ⟨result, hresult⟩ := h _ (CallTable.mem_of_get?_ofCalls hanswer) earlier
  exact ⟨result, by simpa only [call, hanswer] using hresult⟩

/-- The same settings, with the calls of a registry left to the caller. -/
def Settings.deferring (settings : Settings) (offered : HostRegistry) : Settings :=
  { settings with hosts := offered, deferCalls := true }

/-- The assignments of the current state. -/
def Engine.assignments (settings : Settings) (engine : Engine) : List Assignment :=
  ((settings.script.get? engine.state).map (·.assignments)).getD []

/-- How many assignments of the current state ask for a call. -/
def Engine.callCount (settings : Settings) (engine : Engine) : Nat :=
  (engine.assignments settings).countP (·.target == Name.call)

/-- A response, and whether the caller takes the diagnostics away before it gives the result of a
call after which it may give so many more. -/
structure Round where
  response : Text
  drains : Nat → Bool

/-- The caller leaves the diagnostics alone. -/
def Round.Quiet (round : Round) : Prop := ∀ more, round.drains more = false

/-- Whoever answers the calls of an engine, with the names asked for so far, the last one first. -/
structure Caller where
  engine : Engine
  asked : List Text

/-- The engine, without its diagnostics if they are to be taken away. -/
def Engine.drained (engine : Engine) (drain : Bool) : Engine :=
  if drain then engine.takeDiagnostics.2 else engine

@[simp] theorem Engine.boundary_drained (engine : Engine) (drain : Bool) :
    (engine.drained drain).boundary = engine.boundary := by
  cases drain <;> rfl

namespace Caller

/-- Answers calls as the host would, as long as the engine asks for them but not more than a number
of times. -/
def answer (settings : Settings) (hosts : HostRegistry) (drains : Nat → Bool) :
    Nat → Except Problem Output → Caller → Except Problem Output × Caller
  | more + 1, .ok (.call name), caller =>
    match hosts.call name (caller.asked.count name) with
    | .error _ => (.ok (.call name), caller)
    | .ok result =>
      let next := (caller.engine.drained (drains more)).completeCall settings result
      answer settings hosts drains more next.1 ⟨next.2, name :: caller.asked⟩
  | _, result, caller => (result, caller)

/-- Responds, and answers at most as many calls as the state being left asks for. -/
def respond (settings : Settings) (hosts : HostRegistry) (caller : Caller) (round : Round) :
    Except Problem Output × Caller :=
  let first := caller.engine.respond settings round.response
  answer settings hosts round.drains (caller.engine.callCount settings) first.1
    ⟨first.2, caller.asked⟩

/-- Responds again and again. -/
def converse (settings : Settings) (hosts : HostRegistry) (caller : Caller)
    (rounds : List Round) : Caller :=
  rounds.foldl (fun caller round => (caller.respond settings hosts round).2) caller

end Caller

/-- Responds again and again. -/
def Engine.converse (settings : Settings) (engine : Engine) (responses : List Text) : Engine :=
  responses.foldl (fun engine response => (engine.respond settings response).2) engine

/-! ## The relation between the two engines -/

/-- In the midst of a turn: an engine that calls the host itself, and one whose calls are answered.
The diagnostics agree unless they were taken away. -/
structure Alike (quiet : Prop) (engine : Engine) (caller : Caller) : Prop where
  environment : caller.engine.environment = engine.environment
  ended : caller.engine.ended = engine.ended
  asked : caller.asked = engine.called
  diagnostics : quiet → caller.engine.diagnostics = engine.diagnostics

/-- Between turns the two engines have ended, or wait for a response to the same output. -/
structure Agrees (quiet : Prop) (engine : Engine) (caller : Caller) : Prop
    extends Alike quiet engine caller where
  boundary : caller.engine.boundary = engine.boundary
  waiting : engine.ended = true ∨ ∃ output, engine.boundary = some (.response output)

namespace Alike

variable {quiet : Prop} {engine : Engine} {caller : Caller}

theorem state (h : Alike quiet engine caller) : caller.engine.state = engine.state :=
  congrArg Environment.state h.environment

theorem record (h : Alike quiet engine caller) (problems : List Problem) :
    Alike quiet (engine.record problems) ⟨caller.engine.record problems, caller.asked⟩ :=
  ⟨h.environment, h.ended, h.asked, fun hq => by simp [h.diagnostics hq]⟩

theorem bind (h : Alike quiet engine caller) (name : Text) (value : Value) :
    Alike quiet (engine.bind name value) ⟨caller.engine.bind name value, caller.asked⟩ :=
  ⟨by simp [h.environment], h.ended, h.asked, h.diagnostics⟩

/-- Waiting for a call is no difference in the midst of a turn. -/
theorem wait (h : Alike quiet engine caller) (boundary : Option Boundary) :
    Alike quiet engine ⟨{ caller.engine with boundary := boundary }, caller.asked⟩ :=
  ⟨h.environment, h.ended, h.asked, h.diagnostics⟩

/-- Taking the diagnostics away is a difference in the diagnostics only. -/
theorem drain (h : Alike quiet engine caller) {drain : Bool} (hdrain : quiet → drain = false) :
    Alike quiet engine ⟨caller.engine.drained drain, caller.asked⟩ := by
  cases drain with
  | false => exact h
  | true => exact ⟨h.environment, h.ended, h.asked, fun hq => nomatch hdrain hq⟩

/-- The result of a call that the host answered, and the one that the caller gave. -/
theorem answered (h : Alike quiet engine caller) (name result : Text) :
    Alike quiet (engine.answered name result)
      ⟨({ caller.engine with boundary := none } : Engine).bind Name.call (.text result),
        name :: caller.asked⟩ :=
  ⟨by simp [Engine.answered, h.environment], h.ended, by simp [Engine.answered, h.asked],
    h.diagnostics⟩

/-- Both render a template alike, since templates do not depend on hosts. -/
theorem render (h : Alike quiet engine caller) (settings : Settings) (offered : HostRegistry)
    (template : Text) :
    (caller.engine.render (settings.deferring offered) template).1
      = (engine.render settings template).1 ∧
    Alike quiet (engine.render settings template).2
      ⟨(caller.engine.render (settings.deferring offered) template).2, caller.asked⟩ := by
  constructor
  · unfold Engine.render
    rw [h.environment]
    rfl
  · rw [Engine.render_snd, Engine.render_snd, h.environment]
    exact h.record _

end Alike

/-- What an engine and an answering caller came to in one turn: the same result, which is no call,
and engines that agree. -/
structure Concludes (quiet : Prop) (sync : Engine.Result)
    (final : Except Problem Output × Caller) : Prop where
  result : final.1 = sync.1
  not_call : ∀ name, sync.1 ≠ .ok (.call name)
  agrees : Agrees quiet sync.2 final.2

/-- Less quiet agreement asks for less. -/
theorem Agrees.mono {quiet noisy : Prop} {engine : Engine} {caller : Caller}
    (hquiet : quiet → noisy) (h : Agrees noisy engine caller) : Agrees quiet engine caller :=
  { h with diagnostics := fun hq => h.diagnostics (hquiet hq) }

theorem Concludes.mono {quiet noisy : Prop} {sync : Engine.Result}
    {final : Except Problem Output × Caller} (hquiet : quiet → noisy)
    (h : Concludes noisy sync final) : Concludes quiet sync final where
  result := h.result
  not_call := h.not_call
  agrees := h.agrees.mono hquiet

/-- A result that is no call needs no answer. -/
theorem Caller.answer_of_ne_call {settings : Settings} {hosts : HostRegistry} {drains : Nat → Bool}
    {result : Except Problem Output} (more : Nat) (caller : Caller)
    (h : ∀ name, result ≠ .ok (.call name)) :
    Caller.answer settings hosts drains more result caller = (result, caller) := by
  unfold Caller.answer
  split
  next name => exact absurd rfl (h name)
  next => rfl

/-- When a turn has concluded the caller is asked for nothing more. -/
theorem Concludes.answer {quiet : Prop} {sync : Engine.Result} {result : Except Problem Output}
    {caller : Caller} (h : Concludes quiet sync (result, caller)) (settings : Settings)
    (hosts : HostRegistry) (drains : Nat → Bool) (more : Nat) :
    Concludes quiet sync (Caller.answer settings hosts drains more result caller) := by
  rw [Caller.answer_of_ne_call more caller fun name hcall => h.not_call name (h.result ▸ hcall)]
  exact h

section Turn

variable {settings : Settings} {offered : HostRegistry} {quiet : Prop} {engine : Engine}
  {caller : Caller}

/-- Waiting for a response concludes a turn. -/
theorem Alike.concludes_await (h : Alike quiet engine caller) {output : Output}
    (houtput : ∀ name, output ≠ .call name) :
    Concludes quiet (engine.await output)
      ((caller.engine.await output).1, ⟨(caller.engine.await output).2, caller.asked⟩) where
  result := rfl
  not_call name heq := houtput name (Except.ok.inj heq)
  agrees := ⟨⟨h.environment, h.ended, h.asked, h.diagnostics⟩, rfl, .inr ⟨output, rfl⟩⟩

/-- Showing a template and waiting for a response to it concludes a turn. -/
theorem Alike.concludes_show (h : Alike quiet engine caller) (settings : Settings)
    (offered : HostRegistry) (template : Text) (output : Text → Output)
    (houtput : ∀ text name, output text ≠ .call name) :
    Concludes quiet
      ((engine.render settings template).2.await (output (engine.render settings template).1))
      (((caller.engine.render (settings.deferring offered) template).2.await
          (output (caller.engine.render (settings.deferring offered) template).1)).1,
        ⟨((caller.engine.render (settings.deferring offered) template).2.await
          (output (caller.engine.render (settings.deferring offered) template).1)).2,
          caller.asked⟩) := by
  obtain ⟨htext, hshown⟩ := h.render settings offered template
  rw [htext]
  exact hshown.concludes_await (houtput _)

/-- The end of a turn does not depend on who answers the calls. -/
theorem Alike.concludes_finishTurn (h : Alike quiet engine caller) (settings : Settings)
    (offered : HostRegistry) (target : Text) :
    Concludes quiet (engine.finishTurn settings target)
      ((caller.engine.finishTurn (settings.deferring offered) target).1,
        ⟨(caller.engine.finishTurn (settings.deferring offered) target).2, caller.asked⟩) := by
  have hmoved : Alike quiet (engine.moved target) ⟨caller.engine.moved target, caller.asked⟩ :=
    ⟨by simp [Engine.moved, h.environment], h.ended, h.asked, h.diagnostics⟩
  cases hnext : settings.script.get? target with
  | none =>
    rw [Engine.finishTurn_of_none settings engine hnext,
      Engine.finishTurn_of_none (settings.deferring offered) caller.engine hnext]
    exact ⟨rfl, by simp,
      ⟨hmoved.environment, rfl, hmoved.asked, hmoved.diagnostics⟩, rfl, .inl rfl⟩
  | some next =>
    by_cases htarget : target = Name.finish
    · rw [Engine.finishTurn_of_finish settings engine hnext htarget,
        Engine.finishTurn_of_finish (settings.deferring offered) caller.engine hnext
          htarget]
      exact ⟨rfl, by simp,
        ⟨hmoved.environment, rfl, hmoved.asked, hmoved.diagnostics⟩, rfl, .inl rfl⟩
    · rw [Engine.finishTurn_of_ne_finish settings engine hnext htarget,
        Engine.finishTurn_of_ne_finish (settings.deferring offered) caller.engine hnext
          htarget]
      exact hmoved.concludes_show settings offered next.prompt .prompt (by simp)

/-- Asking again does not depend on who answers the calls. -/
theorem Alike.concludes_askAgain (h : Alike quiet engine caller) (settings : Settings)
    (offered : HostRegistry) (state : ScriptState) :
    Concludes quiet (engine.askAgain settings state)
      ((caller.engine.askAgain (settings.deferring offered) state).1,
        ⟨(caller.engine.askAgain (settings.deferring offered) state).2, caller.asked⟩) := by
  unfold Engine.askAgain
  split
  next retry _ => exact h.concludes_show settings offered retry .retry (by simp)
  next =>
    exact h.concludes_show settings offered state.prompt
      (fun text => .retry (settings.retryPreface ++ text)) (by simp)

/-! ## One assignment -/

/-- Deferred or not, an assignment does the same, unless it asks for a call: then the one engine has
the result, and the other one waits for it as it was before. -/
theorem Alike.applyAssignment (h : Alike quiet engine caller) (hsync : settings.deferCalls = false)
    (hnames : offered.names = settings.hosts.names) (hsucceeds : settings.hosts.Succeeds)
    (assignment : Assignment) :
    (∃ outcome after later, (∀ name, outcome ≠ .suspended name) ∧
      engine.applyAssignment settings assignment = (outcome, after) ∧
      caller.engine.applyAssignment (settings.deferring offered) assignment = (outcome, later) ∧
      Alike quiet after ⟨later, caller.asked⟩) ∨
    (∃ name result, assignment.target = Name.call ∧
      settings.hosts.call name (caller.asked.count name) = .ok result ∧
      caller.engine.applyAssignment (settings.deferring offered) assignment
        = (.suspended name, caller.engine) ∧
      engine.applyAssignment settings assignment
        = (.applied, engine.answered name result)) := by
  have hcontains : ∀ name, offered.contains name = settings.hosts.contains name := by
    intro name
    rw [HostRegistry.contains, hnames, HostRegistry.contains]
  unfold Engine.applyAssignment
  split
  · exact .inl ⟨.skipped, _, _, by simp, rfl, rfl, h.record _⟩
  · split
    · exact .inl ⟨.skipped, _, _, by simp, rfl, rfl, h.record _⟩
    · split
      next htarget =>
        cases hknown : settings.hosts.contains (Text.trim assignment.value) with
        | false =>
          rw [Engine.dispatchCall_of_unknown settings engine hknown,
            Engine.dispatchCall_of_unknown (settings.deferring offered) caller.engine
              ((hcontains _).trans hknown)]
          exact .inl ⟨.skipped, _, _, by simp, rfl, rfl, h.record _⟩
        | true =>
          -- the host is asked as often as the caller was, so both get the same result
          obtain ⟨result, hresult⟩ := hsucceeds _ hknown (engine.called.count _)
          refine .inr ⟨Text.trim assignment.value, result, htarget, h.asked ▸ hresult, ?_, ?_⟩
          · exact Engine.dispatchCall_of_deferred _ _ ((hcontains _).trans hknown) rfl
          · exact Engine.dispatchCall_of_ok _ _ hknown hsync hresult
      next =>
        -- a value depends on the environment alone, and the environments agree
        dsimp only
        rw [h.environment]
        refine .inl ?_
        cases Engine.valueOf (Engine.assignedKind engine.environment assignment).1
            (Template.renderNoting engine.environment
              (Engine.assignedKind engine.environment assignment).2).1 with
        | ok value => exact ⟨.applied, _, _, by simp, rfl, rfl, (h.record _).bind _ _⟩
        | error fault => exact ⟨.skipped, _, _, by simp, rfl, rfl, (h.record _).record _⟩

/-! ## One turn -/

/-- Both count the same calls in a turn. -/
theorem Alike.callCount (h : Alike quiet engine caller) :
    caller.engine.callCount (settings.deferring offered) = engine.callCount settings := by
  unfold Engine.callCount Engine.assignments
  rw [h.state]
  rfl

/-- The caller's engine goes on with the assignments that are left. -/
theorem Alike.runTurn_deferring (h : Alike quiet engine caller) (turn : Turn)
    {rest : List Assignment} (hrest : (engine.assignments settings).drop turn.next = rest) :
    caller.engine.runTurn (settings.deferring offered) turn
      = caller.engine.runAssignments (settings.deferring offered) turn.target turn.next rest := by
  unfold Engine.runTurn
  rw [h.state, ← hrest]
  rfl

/-- The rest of a turn comes to the same, however often the caller is asked on the way. -/
theorem answer_runAssignments (hsync : settings.deferCalls = false)
    (hnames : offered.names = settings.hosts.names) (hsucceeds : settings.hosts.Succeeds)
    {drains : Nat → Bool} (hdrains : quiet → ∀ more, drains more = false) (target : Text) :
    ∀ (rest : List Assignment) (next more : Nat) (engine : Engine) (caller : Caller),
      Alike quiet engine caller →
      (engine.assignments settings).drop next = rest →
      rest.countP (·.target == Name.call) ≤ more →
      Concludes quiet (engine.runAssignments settings target next rest)
        (Caller.answer (settings.deferring offered) settings.hosts drains more
          (caller.engine.runAssignments (settings.deferring offered) target next rest).1
          ⟨(caller.engine.runAssignments (settings.deferring offered) target next rest).2,
            caller.asked⟩) := by
  intro rest
  -- by induction on the assignments that are left; the calls among them bound the answers
  induction rest with
  | nil =>
    intro next more engine caller h _ _
    rw [Engine.runAssignments, Engine.runAssignments]
    exact (h.concludes_finishTurn settings offered target).answer _ _ _ _
  | cons assignment rest ih =>
    intro next more engine caller h hrest hmore
    have hplace : (engine.applyAssignment settings assignment).2.assignments settings
        = engine.assignments settings := by
      rw [Engine.assignments, (Engine.frame_applyAssignment settings engine assignment).state]
      rfl
    have htail : (engine.assignments settings).drop (next + 1) = rest := by
      rw [← List.drop_drop, hrest]
      rfl
    rw [List.countP_cons] at hmore
    rw [Engine.runAssignments, Engine.runAssignments]
    rcases h.applyAssignment hsync hnames hsucceeds assignment with
      ⟨outcome, after, later, hrun, hone, hother, halike⟩
        | ⟨name, result, hcall, hresult, hother, hone⟩
    · rw [hone] at hplace
      rw [hone, hother]
      cases outcome with
      | suspended name => exact absurd rfl (hrun name)
      | applied | skipped =>
        exact ih (next + 1) more after ⟨later, caller.asked⟩ halike
          ((congrArg (·.drop (next + 1)) hplace).trans htail) (by omega)
    · -- the answer brings the caller to the next assignment, with the result bound
      rw [hone, hother]
      simp only [hcall, beq_self_eq_true, if_true] at hmore
      obtain ⟨left, rfl⟩ : ∃ left, more = left + 1 := ⟨more - 1, by omega⟩
      dsimp only
      rw [Caller.answer, hresult]
      dsimp only
      have hanswered := ((h.wait (some (.call name ⟨target, next + 1⟩))).drain
        (hdrains · left)).answered name result
      rw [Engine.completeCall_of_call _ _ (Engine.boundary_drained _ _),
        hanswered.runTurn_deferring ⟨target, next + 1⟩ htail]
      exact ih (next + 1) left _ _ hanswered htail (by omega)

/-! ## One response -/

/-- A response that is accepted comes to the same. -/
theorem Agrees.concludes_respond (h : Agrees quiet engine caller)
    (hsync : settings.deferCalls = false) (hnames : offered.names = settings.hosts.names)
    (hsucceeds : settings.hosts.Succeeds) (round : Round) :
    Concludes (round.Quiet ∧ (engine.ended = true → quiet))
      (engine.respond settings round.response)
      (caller.respond (settings.deferring offered) settings.hosts round) := by
  cases hended : engine.ended with
  | true =>
    -- both refuse, and the diagnostics stay what they were
    have hproblem : engine.responseProblem? = some .ended := by
      simp [Engine.responseProblem?, hended]
    have hsame : caller.engine.responseProblem? = some .ended := by
      simp [Engine.responseProblem?, h.ended, hended]
    rw [Engine.respond_of_responseProblem? settings round.response hproblem, Caller.respond,
      Engine.respond_of_responseProblem? _ round.response hsame,
      Caller.answer_of_ne_call _ _ (by simp)]
    exact ⟨rfl, by simp,
      { h with diagnostics := fun hquiet => h.diagnostics (hquiet.2 rfl) }⟩
  | false =>
    obtain ⟨output, houtput⟩ := h.waiting.resolve_left (by simp [hended])
    have hproblem : engine.responseProblem? = none :=
      Engine.responseProblem?_eq_none_iff.mpr ⟨hended, output, houtput⟩
    have hsame : caller.engine.responseProblem? = none :=
      Engine.responseProblem?_eq_none_iff.mpr
        ⟨h.ended.trans hended, output, h.boundary.trans houtput⟩
    -- a response clears the diagnostics of both, so it does not matter what they were before
    have hheard : Alike round.Quiet (engine.heard round.response)
        ⟨caller.engine.heard round.response, caller.asked⟩ :=
      ⟨by simp [Engine.heard, h.environment], h.ended, h.asked, fun _ => rfl⟩
    refine Concludes.mono (fun hquiet => hquiet.1) ?_
    rw [Caller.respond]
    cases hstate : settings.script.get? engine.state with
    | none =>
      rw [Engine.respond_of_unknown hproblem hstate,
        Engine.respond_of_unknown hsame (h.state ▸ hstate), Caller.answer_of_ne_call _ _ (by simp)]
      exact ⟨by rw [h.state], by simp, ⟨hheard, h.boundary, h.waiting⟩⟩
    | some state =>
      have hstate' : (settings.deferring offered).script.get? caller.engine.state = some state :=
        h.state ▸ hstate
      cases hresolve : Engine.resolve (engine.heard round.response).environment state
          round.response with
      | mk resolved problems =>
        have hresolve' := hheard.environment ▸ hresolve
        cases resolved with
        | none =>
          have hasked := ((hheard.record problems).record
            [.noTransition engine.state round.response]).concludes_askAgain settings offered state
          rw [Engine.respond_of_noTransition hproblem hstate hresolve,
            Engine.respond_of_noTransition hsame hstate' hresolve', h.state]
          exact hasked.answer _ _ _ _
        | some resolved =>
          have hbound := (hheard.record problems).bind Name.lastMatch (.text resolved.matched)
          rw [Engine.respond_of_resolved hproblem hstate hresolve,
            Engine.respond_of_resolved hsame hstate' hresolve',
            hbound.runTurn_deferring ⟨resolved.target, 0⟩ rfl]
          exact answer_runAssignments hsync hnames hsucceeds (fun hquiet => hquiet) _ _ _ _ _ _
            hbound rfl (Nat.le_of_eq h.callCount.symm)

end Turn

/-! ## Conversations -/

/-- No more calls are answered than the number allows, and each is noted. -/
theorem Caller.asked_answer (settings : Settings) (hosts : HostRegistry) (drains : Nat → Bool) :
    ∀ (more : Nat) (result : Except Problem Output) (caller : Caller),
      ∃ names : List Text, names.length ≤ more ∧
        (Caller.answer settings hosts drains more result caller).2.asked
          = names.reverse ++ caller.asked := by
  intro more
  induction more with
  | zero => exact fun _ caller => ⟨[], Nat.le_refl 0, rfl⟩
  | succ more ih =>
    intro result caller
    by_cases hcall : ∃ name, result = .ok (.call name)
    · obtain ⟨name, rfl⟩ := hcall
      rw [Caller.answer]
      split
      · exact ⟨[], Nat.zero_le _, rfl⟩
      next text _ =>
        obtain ⟨names, hlength, hasked⟩ := ih
          ((caller.engine.drained (drains more)).completeCall settings text).1
          ⟨((caller.engine.drained (drains more)).completeCall settings text).2,
            name :: caller.asked⟩
        exact ⟨name :: names, Nat.succ_le_succ hlength, by simp [hasked]⟩
    · rw [Caller.answer_of_ne_call _ _ fun name hname => hcall ⟨name, hname⟩]
      exact ⟨[], Nat.zero_le _, rfl⟩

section Conversation

variable {settings : Settings} {offered : HostRegistry}

/-- Starting does not depend on who answers the calls. -/
theorem agrees_create (offered : HostRegistry) (h : Engine.new settings = .ok Engine.initial) :
    ∃ engine, Engine.create settings = .ok engine ∧
      Engine.create (settings.deferring offered) = .ok engine ∧
      Agrees True engine ⟨engine, []⟩ := by
  let prompt := ((settings.script.get? Name.start).map (·.prompt)).getD []
  let shown := Engine.initial.render settings prompt
  have hnew : Engine.new (settings.deferring offered) = .ok Engine.initial := h
  refine ⟨(shown.2.await (.prompt shown.1)).2, ?_, ?_, ?_⟩
  · rw [Engine.create, h]
    rfl
  · rw [Engine.create, hnew]
    rfl
  · exact ⟨⟨rfl, rfl, rfl, fun _ => rfl⟩, rfl, .inr ⟨.prompt shown.1, rfl⟩⟩

/-- Agreement lasts for a conversation. -/
theorem Agrees.converse (hsync : settings.deferCalls = false)
    (hnames : offered.names = settings.hosts.names) (hsucceeds : settings.hosts.Succeeds) :
    ∀ (rounds : List Round) {quiet : Prop} {engine : Engine} {caller : Caller},
      Agrees quiet engine caller →
      Agrees (quiet ∧ ∀ round ∈ rounds, round.Quiet)
        (engine.converse settings (rounds.map (·.response)))
        (caller.converse (settings.deferring offered) settings.hosts rounds) := by
  intro rounds
  induction rounds with
  | nil => exact fun h => h.mono And.left
  | cons round rest ih =>
    intro quiet engine caller h
    have hrest := ih (h.concludes_respond hsync hnames hsucceeds round).agrees
    refine hrest.mono fun hquiet => ⟨⟨?_, fun _ => hquiet.1⟩, fun later hlater => ?_⟩
    · exact hquiet.2 round (List.mem_cons_self ..)
    · exact hquiet.2 later (List.mem_cons_of_mem _ hlater)

end Conversation

/-- One response to an engine that calls the host itself, and to one whose calls are answered. -/
structure RespondsAlike (settings : Settings) (offered : HostRegistry) (sync : Engine)
    (caller : Caller) (round : Round) : Prop where
  /-- The results are the same. -/
  result : (caller.respond (settings.deferring offered) settings.hosts round).1
    = (sync.respond settings round.response).1
  /-- No call is left unanswered. -/
  not_call : ∀ name, (sync.respond settings round.response).1 ≠ .ok (.call name)
  /-- The same calls are made, in the same order, not more than the state being left asks for. -/
  calls : ∃ names : List Text, names.length ≤ sync.callCount settings ∧
    (caller.respond (settings.deferring offered) settings.hosts round).2.asked
      = names.reverse ++ caller.asked ∧
    (sync.respond settings round.response).2.called = names.reverse ++ sync.called
  environment :
    (caller.respond (settings.deferring offered) settings.hosts round).2.engine.environment
      = (sync.respond settings round.response).2.environment
  ended : (caller.respond (settings.deferring offered) settings.hosts round).2.engine.ended
    = (sync.respond settings round.response).2.ended
  currentOutput :
    (caller.respond (settings.deferring offered) settings.hosts round).2.engine.currentOutput
      = (sync.respond settings round.response).2.currentOutput
  /-- The diagnostics are the same unless the caller takes them away. After the end, no response
  changes them. -/
  diagnostics : round.Quiet → (sync.ended = true → caller.engine.diagnostics = sync.diagnostics) →
    (caller.respond (settings.deferring offered) settings.hosts round).2.engine.diagnostics
      = (sync.respond settings round.response).2.diagnostics

/-- Every response is answered alike while the engines agree. -/
theorem Agrees.respondsAlike {settings : Settings} {offered : HostRegistry} {quiet : Prop}
    {engine : Engine} {caller : Caller} (h : Agrees quiet engine caller)
    (hsync : settings.deferCalls = false) (hnames : offered.names = settings.hosts.names)
    (hsucceeds : settings.hosts.Succeeds) (round : Round) :
    RespondsAlike settings offered engine caller round := by
  -- agreement of the diagnostics is what this one response needs, not how it came about
  have hcurrent : Agrees (caller.engine.diagnostics = engine.diagnostics) engine caller :=
    { h with diagnostics := id }
  have hround := hcurrent.concludes_respond hsync hnames hsucceeds round
  obtain ⟨names, hlength, hasked⟩ := Caller.asked_answer (settings.deferring offered) settings.hosts
    round.drains (caller.engine.callCount (settings.deferring offered))
    (caller.engine.respond (settings.deferring offered) round.response).1
    ⟨(caller.engine.respond (settings.deferring offered) round.response).2, caller.asked⟩
  exact
    { result := hround.result
      not_call := hround.not_call
      calls := ⟨names, h.callCount ▸ hlength, hasked,
        hround.agrees.asked.symm.trans (hasked.trans (h.asked ▸ rfl))⟩
      environment := hround.agrees.environment
      ended := hround.agrees.ended
      currentOutput := by
        rw [Engine.currentOutput, hround.agrees.ended, hround.agrees.boundary]
        rfl
      diagnostics := fun hquiet hended => hround.agrees.diagnostics ⟨hquiet, hended⟩ }

/-- **Deferred calls refine calls of the host.** Both engines start alike, and whatever was
responded before, the next response comes to the same. The diagnostics are the same throughout if
the caller never takes any away. -/
theorem deferred_refines_synchronous {settings : Settings} {offered : HostRegistry}
    (hstart : settings.script.contains Name.start = true)
    (hfinish : settings.script.contains Name.finish = true)
    (hsync : settings.deferCalls = false) (hnames : offered.names = settings.hosts.names)
    (hsucceeds : settings.hosts.Succeeds) :
    ∃ engine, Engine.create settings = .ok engine ∧
      Engine.create (settings.deferring offered) = .ok engine ∧
      ∀ (rounds : List Round) (round : Round),
        let sync := engine.converse settings (rounds.map (·.response))
        let caller := (⟨engine, []⟩ : Caller).converse (settings.deferring offered) settings.hosts
          rounds
        RespondsAlike settings offered sync caller round ∧
        ((∀ earlier ∈ rounds, earlier.Quiet) → caller.engine.diagnostics = sync.diagnostics) := by
  have hnew : Engine.new settings = .ok Engine.initial := by
    simp [Engine.new, hstart, hfinish]
  obtain ⟨engine, hcreate, hdeferred, hagrees⟩ := agrees_create offered hnew
  refine ⟨engine, hcreate, hdeferred, fun rounds round => ?_⟩
  have hrounds := hagrees.converse hsync hnames hsucceeds rounds
  exact ⟨hrounds.respondsAlike hsync hnames hsucceeds round,
    fun hquiet => hrounds.diagnostics ⟨trivial, hquiet⟩⟩

/-- A host that rolls six the first time, and one less each time after that. -/
def Settings.rolling : Settings :=
  { Settings.ofScript .rolling with
    hosts := .answering [("roll".toList, fun earlier => .ok (Text.ofNat (6 - earlier)))] }

/-- The host rolls twice in one turn, and a caller who takes the diagnostics away each time gives
the same answers. -/
theorem deferred_refines_synchronous_rolls :
    (Settings.rolling.script.contains Name.start = true ∧
      Settings.rolling.script.contains Name.finish = true ∧
      Settings.rolling.deferCalls = false ∧
      (HostRegistry.declare ["roll".toList]).names = Settings.rolling.hosts.names ∧
      Settings.rolling.hosts.Succeeds) ∧
    ((Engine.create .rolling).toOption.map fun engine => (engine.respond .rolling []).2.called)
      = some ["roll".toList, "roll".toList] ∧
    ∃ engine, Engine.create .rolling = .ok engine ∧
      RespondsAlike .rolling (.declare ["roll".toList]) engine ⟨engine, []⟩
        ⟨[], fun _ => true⟩ := by
  have hsucceeds : Settings.rolling.hosts.Succeeds := HostRegistry.succeeds_answering (by simp)
  have hnames : (HostRegistry.declare ["roll".toList]).names = Settings.rolling.hosts.names := by
    decide
  refine ⟨⟨by decide, by decide, rfl, hnames, hsucceeds⟩, by decide +kernel, ?_⟩
  obtain ⟨engine, hcreate, -, hrounds⟩ :=
    deferred_refines_synchronous (by decide) (by decide) rfl hnames hsucceeds
  exact ⟨engine, hcreate, (hrounds [] ⟨[], fun _ => true⟩).1⟩

end DialogueScript
