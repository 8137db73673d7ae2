import DialogueScript.Proofs.Engine.Run
import DialogueScript.Proofs.Engine.Turn

/-!
# Which transition a response takes

A response takes the first transition that accepts it, whatever wildcards stand in between, and with
none the last wildcard (`Engine.Resolves`). The guards that fail in front of the one taken are
noted, and that is all that resolving leaves behind.

So of the wildcards of a state nothing counts but the target of the last one: states that have the
rest in common (`ScriptState.SameButRests`) are the same to every conversation.
-/

namespace DialogueScript

namespace Engine

/-! ## Accepting a response -/

/-- A transition accepts a response: it is no wildcard, its pattern is found, and its guard, if it
has one, is true once the variables are replaced. -/
structure Accepts (env : Environment) (response : Text) (transition : Transition) (found : Text) :
    Prop where
  ordered : transition.key.isWildcard = false
  search : transition.key.search.find response = some found
  guard : ∀ guard, transition.key.guard? = some guard →
    Expr.evaluateBool (Template.substitute env guard) = .ok true

/-- What is noted on a transition whose pattern is found and whose guard cannot be evaluated. -/
def guardProblem? (env : Environment) (response : Text) (transition : Transition) :
    Option Problem :=
  match transition.key.search.find response, transition.key.guard? with
  | some _, some guard =>
    match Expr.evaluateBool (Template.substitute env guard) with
    | .ok _ => none
    | .error fault => some (.guardFailed fault guard)
  | _, _ => none

/-- What a response to a state comes to: the transition that is taken, if any, and what is noted. -/
inductive Resolves (env : Environment) (state : ScriptState) (response : Text) :
    Option Resolved × List Problem → Prop
  | accepted {before after : List Transition} {transition : Transition} {found : Text}
    (hsplit : state.transitions = before ++ transition :: after)
    (haccepts : Accepts env response transition found)
    (hfirst : ∀ earlier ∈ before, ∀ found, ¬ Accepts env response earlier found) :
    Resolves env state response
      (some ⟨transition.target, found⟩, before.filterMap (guardProblem? env response))
  | fallback {before after : List Transition} {rest : Transition}
    (hnone : ∀ transition ∈ state.transitions, ∀ found, ¬ Accepts env response transition found)
    (hsplit : state.transitions = before ++ rest :: after) (hrest : rest.key.isWildcard = true)
    (hlast : ∀ later ∈ after, later.key.isWildcard = false) :
    Resolves env state response
      (some ⟨rest.target, []⟩, state.transitions.filterMap (guardProblem? env response))
  | unresolved
    (hnone : ∀ transition ∈ state.transitions, ∀ found, ¬ Accepts env response transition found)
    (hrests : ∀ transition ∈ state.transitions, transition.key.isWildcard = false) :
    Resolves env state response
      (none, state.transitions.filterMap (guardProblem? env response))

section Accepting

variable {env : Environment} {response found : Text} {transition : Transition}
variable {before after : List Transition} {state : ScriptState}

/-- A wildcard has no guard that could fail. -/
theorem guardProblem?_of_isWildcard (h : transition.key.isWildcard = true) :
    guardProblem? env response transition = none := by
  have hguard : transition.key.guard? = none := by
    cases hkey : transition.key <;> simp_all [TransitionKey.isWildcard, TransitionKey.guard?]
  unfold guardProblem?
  rw [hguard]
  split <;> simp_all

/-- The guard of an accepting transition holds, and nothing is reported. -/
theorem guardHolds_of_accepts (h : Accepts env response transition found) :
    guardHolds env transition.key = (true, []) := by
  unfold guardHolds
  cases hguard : transition.key.guard? with
  | none => rfl
  | some guard =>
    dsimp only
    rw [h.guard guard hguard]

/-- A guard does not hold because it is false, or because it fails. -/
theorem guardHolds_of_not_accepts (hordered : transition.key.isWildcard = false)
    (hfound : transition.key.search.find response = some found)
    (h : ¬ Accepts env response transition found) :
    guardHolds env transition.key = (false, (guardProblem? env response transition).toList) := by
  unfold guardHolds guardProblem?
  rw [hfound]
  cases hguard : transition.key.guard? with
  | none => exact absurd ⟨hordered, hfound, fun guard heq => by simp [hguard] at heq⟩ h
  | some guard =>
    dsimp only
    cases heval : Expr.evaluateBool (Template.substitute env guard) with
    | error fault => rfl
    | ok holds =>
      cases holds with
      | false => rfl
      | true =>
        refine absurd ⟨hordered, hfound, fun other heq => ?_⟩ h
        rw [hguard, Option.some.injEq] at heq
        exact heq ▸ heval

/-! ## The scan -/

/-- The scan ends with a transition that accepts. -/
theorem firstAccepting_of_accepts (h : Accepts env response transition found) :
    firstAccepting env response (transition :: after) = (some ⟨transition.target, found⟩, []) := by
  rw [firstAccepting, h.search]
  dsimp only
  rw [guardHolds_of_accepts h, if_pos rfl]

/-- The scan goes on behind a transition that does not accept, and keeps the problem of its guard.
-/
theorem firstAccepting_of_not_accepts (hordered : transition.key.isWildcard = false)
    (h : ∀ found, ¬ Accepts env response transition found) :
    firstAccepting env response (transition :: after) =
      ((firstAccepting env response after).1,
        (guardProblem? env response transition).toList
          ++ (firstAccepting env response after).2) := by
  rw [firstAccepting]
  cases hfound : transition.key.search.find response with
  | none =>
    have hnone : guardProblem? env response transition = none := by
      unfold guardProblem?
      rw [hfound]
    rw [hnone]
    rfl
  | some found =>
    dsimp only
    rw [guardHolds_of_not_accepts hordered hfound (h found), if_neg Bool.false_ne_true]

/-- What accepts nothing is passed over, wildcards without a trace and others with what is noted. -/
theorem firstAccepting_ordered_append
    (h : ∀ earlier ∈ before, ∀ found, ¬ Accepts env response earlier found) :
    firstAccepting env response ((before ++ after).filter (!·.key.isWildcard)) =
      ((firstAccepting env response (after.filter (!·.key.isWildcard))).1,
        before.filterMap (guardProblem? env response) ++
          (firstAccepting env response (after.filter (!·.key.isWildcard))).2) := by
  induction before with
  | nil => rfl
  | cons transition before ih =>
    obtain ⟨hfirst, hrest⟩ := List.forall_mem_cons.mp h
    cases hwildcard : transition.key.isWildcard with
    | true =>
      rw [List.cons_append, List.filter_cons_of_neg (by simp [hwildcard]), ih hrest,
        List.filterMap_cons_none (guardProblem?_of_isWildcard hwildcard)]
    | false =>
      rw [List.cons_append, List.filter_cons_of_pos (by simp [hwildcard]),
        firstAccepting_of_not_accepts hwildcard hfirst, ih hrest]
      cases hproblem : guardProblem? env response transition with
      | none => rw [List.filterMap_cons_none hproblem]; rfl
      | some problem => rw [List.filterMap_cons_some hproblem]; rfl

/-- The scan of a state in which nothing accepts the response. -/
theorem firstAccepting_of_forall_not
    (h : ∀ transition ∈ state.transitions, ∀ found, ¬ Accepts env response transition found) :
    firstAccepting env response state.ordered
      = (none, state.transitions.filterMap (guardProblem? env response)) := by
  have hscan := @firstAccepting_ordered_append env response state.transitions [] h
  rw [List.append_nil] at hscan
  rw [ScriptState.ordered, hscan]
  simp [firstAccepting]

/-- The scan of a state in which something accepts the response. -/
theorem firstAccepting_of_first (hsplit : state.transitions = before ++ transition :: after)
    (haccepts : Accepts env response transition found)
    (hfirst : ∀ earlier ∈ before, ∀ found, ¬ Accepts env response earlier found) :
    firstAccepting env response state.ordered
      = (some ⟨transition.target, found⟩, before.filterMap (guardProblem? env response)) := by
  rw [ScriptState.ordered, hsplit, firstAccepting_ordered_append hfirst,
    List.filter_cons_of_pos (by simp [haccepts.ordered]), firstAccepting_of_accepts haccepts,
    List.append_nil]

/-- Of several wildcards, the last one names the target. -/
theorem wildcardTarget_of_last (hsplit : state.transitions = before ++ transition :: after)
    (hwildcard : transition.key.isWildcard = true)
    (hlast : ∀ later ∈ after, later.key.isWildcard = false) :
    state.wildcardTarget = some transition.target := by
  have hfind : state.transitions.reverse.find? (·.key.isWildcard) = some transition := by
    rw [hsplit, List.find?_eq_some_iff_append]
    refine ⟨hwildcard, after.reverse, before.reverse, by simp, fun later hmem => ?_⟩
    rw [hlast later (List.mem_reverse.mp hmem)]
    rfl
  rw [ScriptState.wildcardTarget, hfind, Option.map_some]

/-- Without wildcards there is no such target. -/
theorem wildcardTarget_eq_none
    (h : ∀ transition ∈ state.transitions, transition.key.isWildcard = false) :
    state.wildcardTarget = none := by
  rw [ScriptState.wildcardTarget, Option.map_eq_none_iff, List.find?_eq_none]
  intro transition hmem
  simp [h transition (List.mem_reverse.mp hmem)]

/-! ## Resolving -/

/-- The engine resolves a response as described. -/
theorem Resolves.eq {outcome : Option Resolved × List Problem}
    (h : Resolves env state response outcome) : resolve env state response = outcome := by
  unfold resolve
  cases h with
  | accepted hsplit haccepts hfirst => rw [firstAccepting_of_first hsplit haccepts hfirst]
  | fallback hnone hsplit hrest hlast =>
    rw [firstAccepting_of_forall_not hnone]
    dsimp only
    rw [wildcardTarget_of_last hsplit hrest hlast, Option.map_some]
  | unresolved hnone hrests =>
    rw [firstAccepting_of_forall_not hnone]
    dsimp only
    rw [wildcardTarget_eq_none hrests, Option.map_none]

end Accepting

/-- The first of some transitions with a property. -/
theorem exists_first {P : Transition → Prop} {transitions : List Transition}
    (h : ∃ transition ∈ transitions, P transition) : ∃ before transition after,
      transitions = before ++ transition :: after ∧ P transition ∧
        ∀ earlier ∈ before, ¬ P earlier := by
  classical
  have hsome : (transitions.find? (P ·)).isSome := List.find?_isSome.mpr (by simpa using h)
  obtain ⟨first, hfirst⟩ := Option.isSome_iff_exists.mp hsome
  obtain ⟨hholds, before, after, hsplit, hbefore⟩ := List.find?_eq_some_iff_append.mp hfirst
  exact ⟨before, first, after, hsplit, by simpa using hholds,
    fun earlier hmem => by simpa using hbefore earlier hmem⟩

/-- The description leaves no case out. -/
theorem exists_resolves (env : Environment) (state : ScriptState) (response : Text) :
    ∃ outcome, Resolves env state response outcome := by
  by_cases haccepted : ∃ transition ∈ state.transitions, ∃ found,
      Accepts env response transition found
  · obtain ⟨before, transition, after, hsplit, ⟨found, haccepts⟩, hfirst⟩ := exists_first haccepted
    exact ⟨_, .accepted hsplit haccepts fun earlier hmem other hother =>
      hfirst earlier hmem ⟨other, hother⟩⟩
  · have hnone : ∀ transition ∈ state.transitions, ∀ found,
        ¬ Accepts env response transition found :=
      fun transition hmem found haccepts => haccepted ⟨transition, hmem, found, haccepts⟩
    by_cases hrests : ∃ transition ∈ state.transitions.reverse, transition.key.isWildcard = true
    · -- the last wildcard is the first one from behind
      obtain ⟨after, rest, before, hsplit, hrest, hlast⟩ := exists_first hrests
      have hsplit' : state.transitions = before.reverse ++ rest :: after.reverse := by
        rw [← List.reverse_reverse state.transitions, hsplit]
        simp
      refine ⟨_, .fallback hnone hsplit' hrest fun later hmem => ?_⟩
      exact Bool.eq_false_iff.mpr (hlast later (List.mem_reverse.mp hmem))
    · refine ⟨_, .unresolved hnone fun transition hmem => Bool.eq_false_iff.mpr fun hwildcard => ?_⟩
      exact hrests ⟨transition, List.mem_reverse.mpr hmem, hwildcard⟩

/-- The engine resolves a response to what the description says, and to nothing else. -/
theorem resolve_eq_iff {env : Environment} {state : ScriptState} {response : Text}
    {outcome : Option Resolved × List Problem} :
    resolve env state response = outcome ↔ Resolves env state response outcome := by
  constructor
  · rintro rfl
    obtain ⟨outcome, hresolves⟩ := exists_resolves env state response
    rw [hresolves.eq]
    exact hresolves
  · exact Resolves.eq

/-- The guards report failures of guards only. -/
theorem code_of_mem_guardProblems {env : Environment} {response : Text}
    {transitions : List Transition} {problem : Problem}
    (h : problem ∈ transitions.filterMap (guardProblem? env response)) :
    problem.code = "ENGINE_GUARD_FAILED".toList := by
  obtain ⟨transition, -, hproblem⟩ := List.mem_filterMap.mp h
  unfold guardProblem? at hproblem
  split at hproblem
  · split at hproblem
    · cases hproblem
    · exact Option.some.inj hproblem ▸ rfl
  · cases hproblem

/-- Resolving reports nothing else. -/
theorem code_of_mem_resolve {env : Environment} {state : ScriptState} {response : Text}
    {problem : Problem} (h : problem ∈ (resolve env state response).2) :
    problem.code = "ENGINE_GUARD_FAILED".toList := by
  obtain ⟨outcome, hresolves⟩ := exists_resolves env state response
  rw [hresolves.eq] at h
  cases hresolves <;> exact code_of_mem_guardProblems h

/-- What comes of a response that was resolved. -/
def proceed (settings : Settings) (engine : Engine) (state : ScriptState) (response : Text) :
    Option Resolved → Result
  | none => (engine.record [.noTransition engine.state response]).askAgain settings state
  | some resolved =>
    (engine.bind Name.lastMatch (.text resolved.matched)).runTurn settings ⟨resolved.target, 0⟩

/-- Resolving a response notes what it notes and changes nothing else. -/
theorem respond_of_resolves {settings : Settings} {engine : Engine} {state : ScriptState}
    {response : Text} {resolved : Option Resolved} {problems : List Problem}
    (h : engine.responseProblem? = none) (hstate : settings.script.get? engine.state = some state)
    (hresolves : Resolves (engine.heard response).environment state response (resolved, problems)) :
    engine.respond settings response
      = ((engine.heard response).record problems).proceed settings state response resolved := by
  cases resolved with
  | none => exact respond_of_noTransition h hstate hresolves.eq
  | some resolved => exact respond_of_resolved h hstate hresolves.eq

end Engine

/-! ## The wildcards of a script -/

/-- Two states with all in common but their wildcards, and of these the last. -/
structure ScriptState.SameButRests (state other : ScriptState) : Prop where
  prompt : other.prompt = state.prompt
  ordered : other.transitions.filter (!·.key.isWildcard)
    = state.transitions.filter (!·.key.isWildcard)
  lastRest : (other.transitions.filter (·.key.isWildcard)).getLast?
    = (state.transitions.filter (·.key.isWildcard)).getLast?
  assignments : other.assignments = state.assignments
  retry : other.retry = state.retry

/-- Two scripts with the same keys, and under each of them such states. -/
def Script.SameButRests (script other : Script) : Prop :=
  ∀ key, Option.Rel ScriptState.SameButRests (script.get? key) (other.get? key)

theorem ScriptState.SameButRests.refl (state : ScriptState) : state.SameButRests state :=
  ⟨rfl, rfl, rfl, rfl, rfl⟩

/-- Scripts that differ in one state differ in the wildcards only, if the two states do. -/
theorem Script.sameButRests_define {state other : ScriptState} (h : state.SameButRests other)
    (script : Script) (key : Text) :
    (script.define key state).SameButRests (script.define key other) := by
  intro found
  simp only [Script.get?, Script.define, Table.get?_insert]
  split
  · exact .some h
  · cases script.states.get? found with
    | none => exact .none
    | some same => exact .some (.refl same)

/-- Both scripts define the same keys. -/
theorem Script.SameButRests.cases {script other : Script} (h : script.SameButRests other)
    (key : Text) : (script.get? key = none ∧ other.get? key = none) ∨
      ∃ state state', script.get? key = some state ∧ other.get? key = some state' ∧
        state.SameButRests state' := by
  have hkey := h key
  generalize script.get? key = found at hkey
  generalize other.get? key = found' at hkey
  cases hkey with
  | none => exact .inl ⟨rfl, rfl⟩
  | some hsame => exact .inr ⟨_, _, rfl, rfl, hsame⟩

/-- The same settings for another script. -/
def Settings.reading (settings : Settings) (script : Script) : Settings :=
  { settings with script := script }

namespace Engine

variable {settings : Settings} {script : Script} {engine : Engine}

/-- States that differ in earlier wildcards only resolve every response alike. -/
theorem resolve_of_sameButRests {state other : ScriptState} (h : state.SameButRests other)
    (env : Environment) (response : Text) :
    resolve env other response = resolve env state response := by
  have hordered : other.ordered = state.ordered := h.ordered
  have hwildcard : other.wildcardTarget = state.wildcardTarget := by
    rw [ScriptState.wildcardTarget, ScriptState.wildcardTarget, ← List.getLast?_filter,
      ← List.getLast?_filter, h.lastRest]
  rw [resolve, resolve, hordered, hwildcard]

/-- States that differ in earlier wildcards only ask again with the same words. -/
theorem askAgain_of_sameButRests {state other : ScriptState} (h : state.SameButRests other)
    (settings : Settings) (engine : Engine) :
    engine.askAgain settings other = engine.askAgain settings state := by
  unfold askAgain
  rw [h.retry, h.prompt]

/-- A turn ends alike under both scripts. -/
theorem finishTurn_reading (h : settings.script.SameButRests script) (engine : Engine)
    (target : Text) :
    engine.finishTurn (settings.reading script) target = engine.finishTurn settings target := by
  have hread : (settings.reading script).script = script := rfl
  unfold finishTurn
  rw [hread]
  rcases h.cases target with ⟨hnone, hnone'⟩ | ⟨state, other, hstate, hother, hsame⟩
  · rw [hnone, hnone']
  · rw [hstate, hother]
    dsimp only
    rw [hsame.prompt]
    rfl

/-- Assignments run alike under both scripts, up to the end of the turn. -/
theorem runAssignments_reading (h : settings.script.SameButRests script) (target : Text)
    (assignments : List Assignment) (next : Nat) (engine : Engine) :
    engine.runAssignments (settings.reading script) target next assignments
      = engine.runAssignments settings target next assignments := by
  induction assignments generalizing next engine with
  | nil => exact finishTurn_reading h engine target
  | cons assignment rest ih =>
    -- an assignment does not read the script
    have hsame : engine.applyAssignment (settings.reading script) assignment
        = engine.applyAssignment settings assignment := rfl
    rw [runAssignments, runAssignments, hsame]
    cases engine.applyAssignment settings assignment with
    | mk outcome after =>
      cases outcome with
      | suspended name => rfl
      | applied | skipped => exact ih (next + 1) after

/-- A turn runs alike under both scripts. -/
theorem runTurn_reading (h : settings.script.SameButRests script) (engine : Engine) (turn : Turn) :
    engine.runTurn (settings.reading script) turn = engine.runTurn settings turn := by
  have hread : (settings.reading script).script = script := rfl
  unfold runTurn
  rw [hread]
  rcases h.cases engine.state with ⟨hnone, hnone'⟩ | ⟨state, other, hstate, hother, hsame⟩
  · rw [hnone, hnone']
    exact runAssignments_reading h _ _ _ _
  · rw [hstate, hother, Option.map_some, Option.map_some, hsame.assignments]
    exact runAssignments_reading h _ _ _ _

theorem start_reading (h : settings.script.SameButRests script) (engine : Engine) :
    engine.start (settings.reading script) = engine.start settings := by
  have hread : (settings.reading script).script = script := rfl
  unfold start
  rw [hread]
  rcases h.cases Name.start with ⟨hnone, hnone'⟩ | ⟨state, other, hstate, hother, hsame⟩
  · rw [hnone, hnone']
    rfl
  · rw [hstate, hother, Option.map_some, Option.map_some, hsame.prompt]
    rfl

/-- A response is answered alike under both scripts. -/
theorem respond_reading (h : settings.script.SameButRests script) (engine : Engine)
    (response : Text) :
    engine.respond (settings.reading script) response = engine.respond settings response := by
  cases hproblem : engine.responseProblem? with
  | some problem =>
    rw [respond_of_responseProblem? _ _ hproblem, respond_of_responseProblem? _ _ hproblem]
  | none =>
    rcases h.cases engine.state with ⟨hnone, hnone'⟩ | ⟨state, other, hstate, hother, hsame⟩
    · rw [respond_of_unknown hproblem hnone,
        @respond_of_unknown (settings.reading script) _ _ hproblem hnone']
    · cases hresolve : resolve (engine.heard response).environment state response with
      | mk resolved problems =>
        have hresolve' := (resolve_of_sameButRests hsame _ response).trans hresolve
        cases resolved with
        | none =>
          rw [respond_of_noTransition hproblem hstate hresolve,
            @respond_of_noTransition (settings.reading script) _ _ _ _ hproblem hother hresolve']
          exact askAgain_of_sameButRests hsame settings _
        | some resolved =>
          rw [respond_of_resolved hproblem hstate hresolve,
            @respond_of_resolved (settings.reading script) _ _ _ _ _ hproblem hother hresolve']
          exact runTurn_reading h _ _

theorem completeCall_reading (h : settings.script.SameButRests script) (engine : Engine)
    (result : Text) :
    engine.completeCall (settings.reading script) result = engine.completeCall settings result := by
  unfold completeCall
  split
  · exact runTurn_reading h _ _
  · rfl

end Engine

/-- Every operation does the same under both scripts. -/
theorem Operation.perform_reading {settings : Settings} {script : Script}
    (h : settings.script.SameButRests script) (engine : Engine) (operation : Operation) :
    operation.perform (settings.reading script) engine = operation.perform settings engine := by
  cases operation with
  | start => rw [Operation.perform, Operation.perform, Engine.start_reading h]
  | respond response => rw [Operation.perform, Operation.perform, Engine.respond_reading h]
  | completeCall result => rw [Operation.perform, Operation.perform, Engine.completeCall_reading h]
  | currentOutput | takeDiagnostics => rfl

/-- Whatever is asked, nobody can tell which of two such scripts is read. -/
theorem History.after_reading {settings : Settings} {script : Script}
    (h : settings.script.SameButRests script) (operations : List Operation) :
    after (settings.reading script) operations = after settings operations := by
  have hextend : extend (settings.reading script) = extend settings := by
    funext history operation
    rw [extend, extend, Operation.perform_reading h]
  rw [after, after, hextend]

/-- **A response takes the first transition that accepts it, else the last wildcard.** What
resolving comes to is determined by that alone; each guard that fails in front of the transition
taken is noted once, in order, and the conversation goes on from what it was with these notes. So
scripts that differ in their wildcards alone, but for the last one of each state, are the same to
every run. -/
theorem first_or_last_rest :
    (∀ (env : Environment) (state : ScriptState) (response : Text)
      (outcome : Option Engine.Resolved × List Problem),
      Engine.resolve env state response = outcome ↔
        Engine.Resolves env state response outcome) ∧
    (∀ (env : Environment) (state : ScriptState) (response : Text),
      ∀ problem ∈ (Engine.resolve env state response).2,
        problem.code = "ENGINE_GUARD_FAILED".toList) ∧
    (∀ (settings : Settings) (engine : Engine) (state : ScriptState) (response : Text),
      engine.responseProblem? = none → settings.script.get? engine.state = some state →
      ∃ resolved problems,
        Engine.Resolves (engine.heard response).environment state response (resolved, problems) ∧
        engine.respond settings response
          = ((engine.heard response).record problems).proceed settings state response resolved) ∧
    ∀ (settings : Settings) (script : Script), settings.script.SameButRests script →
      ∀ operations, History.after (settings.reading script) operations
        = History.after settings operations := by
  refine ⟨fun env state response outcome => Engine.resolve_eq_iff,
    fun env state response problem => Engine.code_of_mem_resolve,
    fun settings engine state response hawaits hstate => ?_,
    fun settings script hsame operations => History.after_reading hsame operations⟩
  obtain ⟨⟨resolved, problems⟩, hresolves⟩ :=
    Engine.exists_resolves (engine.heard response).environment state response
  exact ⟨resolved, problems, hresolves, Engine.respond_of_resolves hawaits hstate hresolves⟩

/-- The first transition is passed over with a note since its guard divides by zero, and the last
one accepts the response; the wildcards around them can be dropped or moved to the end. -/
theorem first_or_last_rest_tea :
    let tea : Pattern := (Pattern.ofSource? ['t']).get (by decide +kernel)
    let guard := "1 % ($counter$ - 1) == 0".toList
    let state : ScriptState :=
      { prompt := "Tea?".toList
        transitions := [⟨.wildcard, "nowhere".toList⟩, ⟨.guarded tea guard, Name.start⟩,
          ⟨.wildcard, Name.start⟩, ⟨.pattern tea, Name.finish⟩]
        assignments := []
        retry := none }
    let other : ScriptState :=
      { state with
        transitions := [⟨.guarded tea guard, Name.start⟩, ⟨.pattern tea, Name.finish⟩,
          ⟨.wildcard, Name.start⟩] }
    let settings := Settings.ofScript (Script.seeded.define Name.start state)
    let engine := (History.after settings [.start]).engine
    let script := Script.seeded.define Name.start other
    let resolution := (some ⟨Name.finish, ['t']⟩, [Problem.guardFailed .divisionByZero guard])
    engine.responseProblem? = none ∧ settings.script.get? engine.state = some state ∧
    Engine.Resolves (engine.heard "tea".toList).environment state "tea".toList resolution ∧
    engine.respond settings "tea".toList
      = ((engine.heard "tea".toList).record resolution.2).proceed settings state "tea".toList
          resolution.1 ∧
    settings.script.SameButRests script ∧
    History.after (settings.reading script) [.start, .respond "tea".toList]
      = History.after settings [.start, .respond "tea".toList] ∧
    (History.after settings [.start, .respond "tea".toList]).engine.ended = true := by
  intro tea guard state other settings engine script resolution
  have hawaits : engine.responseProblem? = none := by decide +kernel
  have hstate : settings.script.get? engine.state = some state := by decide +kernel
  have hresolve : Engine.resolve (engine.heard "tea".toList).environment state "tea".toList
      = resolution := by decide +kernel
  have hstates : state.SameButRests other := ⟨rfl, rfl, rfl, rfl, rfl⟩
  have hsame : settings.script.SameButRests script :=
    Script.sameButRests_define hstates Script.seeded Name.start
  obtain ⟨hiff, -, hrespond, hruns⟩ := first_or_last_rest
  obtain ⟨resolved, problems, hresolves, hproceeds⟩ :=
    hrespond settings engine state "tea".toList hawaits hstate
  obtain ⟨rfl, rfl⟩ := Prod.mk.inj (hresolve.symm.trans ((hiff _ _ _ _).mpr hresolves))
  exact ⟨hawaits, hstate, hresolves, hproceeds, hsame, hruns settings script hsame _,
    by decide +kernel⟩

/-- Of two wildcards the last one counts, so they cannot change places: with the one to the end
behind the one back to the start a response ends the conversation, and otherwise it does not. -/
theorem rests_swapped :
    let state (targets : List Text) : ScriptState :=
      { prompt := "Again?".toList
        transitions := targets.map (⟨.wildcard, ·⟩)
        assignments := []
        retry := none }
    let here := state [Name.start, Name.finish]
    let there := state [Name.finish, Name.start]
    let settings := Settings.ofScript (Script.seeded.define Name.start here)
    let script := Script.seeded.define Name.start there
    let operations : List Operation := [.start, .respond ['x']]
    there.transitions.Perm here.transitions ∧ there.ordered = here.ordered ∧
    there.prompt = here.prompt ∧ there.assignments = here.assignments ∧ there.retry = here.retry ∧
    (History.after settings operations).engine.ended = true ∧
    (History.after (settings.reading script) operations).engine.ended = false := by
  intro state here there settings script operations
  exact ⟨.swap _ _ _, rfl, rfl, rfl, rfl, by decide +kernel, by decide +kernel⟩

end DialogueScript
