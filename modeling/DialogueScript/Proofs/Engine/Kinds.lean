import DialogueScript.Proofs.Engine.Deferral

/-!
# The kinds of the variables

A variable keeps the kind of its value. Nothing but an assignment with a tag of another kind changes
it, and one that is made; a variable that is bound for the first time without a tag holds a text,
and none is ever lost (`History.kinds_after`). The three variables for what was said hold texts at
any time.

A successful assignment is recorded as a `Making`, with the environments around it. An operation
leads from one environment to the other by its makings (`Environment.Evolves`); such steps compose,
so the assignments of a turn and the operations of a run are the same argument.
-/

namespace DialogueScript

/-! ## Kinds -/

/-- The kind that the tag in front of an assignment's text asks for. -/
def Assignment.tag? (assignment : Assignment) : Option Value.Kind :=
  if "!bool ".toList <+: assignment.value then some .boolean
  else if "!num ".toList <+: assignment.value then some .number
  else none

/-- The kind of the value that a variable holds; text if it holds none. -/
def Environment.kindOf (env : Environment) (name : Text) : Value.Kind :=
  ((env.get? name).map (·.kind)).getD .text

/-- Binding a value sets the kind of its name and of no other. -/
@[simp] theorem Environment.kindOf_bind (env : Environment) (name : Text) (value : Value)
    (other : Text) :
    (env.bind name value).kindOf other = if name = other then value.kind else env.kindOf other := by
  rw [kindOf, get?_bind]
  split <;> rfl

theorem Environment.kindOf_of_get? {env : Environment} {name : Text} {value : Value}
    (h : env.get? name = some value) : env.kindOf name = value.kind := by
  rw [kindOf, h]
  rfl

/-- A name that is not bound counts as text. -/
theorem Environment.kindOf_of_none {env : Environment} {name : Text}
    (h : env.get? name = none) : env.kindOf name = .text := by
  rw [kindOf, h]
  rfl

/-- A text starts with a word and a space exactly if the word is what stands in front of its first
space. -/
theorem Text.concat_space_prefix_iff (word : Text) {t : Text} (h : ' ' ∉ word) :
    word ++ [' '] <+: t ↔ (splitOnce [' '] t).map (·.1) = some word := by
  have hinfix : ¬ [' '] <:+: word ++ [' '].dropLast := fun hinside =>
    h (by simpa using hinside.subset (List.mem_singleton_self ' '))
  rw [append_prefix_iff (by simp) hinfix, Option.map_eq_some_iff]
  exact ⟨fun ⟨rest, hsplit⟩ => ⟨(word, rest), hsplit, rfl⟩,
    fun ⟨⟨first, rest⟩, hsplit, hfirst⟩ => ⟨rest, by rw [hsplit, ← hfirst]⟩⟩

/-- An assignment makes a value of the kind of its tag, else of the kind that its variable has. -/
theorem Engine.assignedKind_fst (env : Environment) (assignment : Assignment) :
    (assignedKind env assignment).1 = assignment.tag?.getD (env.kindOf assignment.target) := by
  -- the tag ends at the first blank, so both ways to look for it agree
  have hbool : "!bool ".toList <+: assignment.value ↔ _ :=
    Text.concat_space_prefix_iff "!bool".toList (by decide)
  have hnum : "!num ".toList <+: assignment.value ↔ _ :=
    Text.concat_space_prefix_iff "!num".toList (by decide)
  unfold assignedKind Assignment.tag?
  simp only [hbool, hnum]
  cases Text.splitOnce [' '] assignment.value with
  | none => rfl
  | some parts =>
    obtain ⟨word, rest⟩ := parts
    dsimp only [Option.map_some]
    by_cases hb : word = "!bool".toList
    · rw [if_pos hb, if_pos (congrArg some hb)]
      rfl
    · have hb' : some word ≠ some "!bool".toList := fun h => hb (Option.some.inj h)
      rw [if_neg hb, if_neg hb']
      by_cases hn : word = "!num".toList
      · rw [if_pos hn, if_pos (congrArg some hn)]
        rfl
      · have hn' : some word ≠ some "!num".toList := fun h => hn (Option.some.inj h)
        rw [if_neg hn, if_neg hn']
        rfl

/-! ## Successful assignments -/

/-- An assignment that was made, with the environments before and after it. -/
structure Making where
  assignment : Assignment
  before : Environment
  after : Environment

namespace Making

/-- The tag asks for another kind than the variable has. -/
def Retags (making : Making) (name : Text) : Prop :=
  making.assignment.target = name ∧
    ∃ kind, making.assignment.tag? = some kind ∧ kind ≠ making.before.kindOf name

/-- What is made: the variable, which the engine does not bind itself, has a value of the kind of
the tag, else of its own kind. The result of a call is a text, whatever the assignment says. -/
structure Sound (making : Making) : Prop where
  isVariable : Name.isVariable making.assignment.target = true
  not_engineBound : Name.isEngineBound making.assignment.target = false
  value : ∃ value, making.after = making.before.bind making.assignment.target value ∧
    value.kind = if making.assignment.target = Name.call then .text
      else making.assignment.tag?.getD (making.before.kindOf making.assignment.target)

end Making

namespace Environment

/-- The kind of a variable that the engine binds, or that holds the result of a call. -/
def fixedKind? (name : Text) : Option Value.Kind :=
  if name = Name.counter then some .number
  else if name = Name.response ∨ name = Name.lastMatch ∨ name = Name.call then some .text
  else none

/-- An environment whose variables are named as such, those with a fixed kind having that. -/
structure Kinded (env : Environment) : Prop where
  isVariable : ∀ name value, env.get? name = some value → Name.isVariable name = true
  fixed : ∀ name kind, fixedKind? name = some kind → env.kindOf name = kind

/-- From one environment to another by the given makings: no variable is lost, and none has another
kind unless it was retagged. -/
structure Evolves (makings : List Making) (before after : Environment) : Prop where
  kinded : after.Kinded
  bound : ∀ name, (before.get? name).isSome → (after.get? name).isSome
  kind : ∀ name, after.kindOf name = before.kindOf name ∨ ∃ making ∈ makings, making.Retags name
  sound : ∀ making ∈ makings, making.Sound

variable {env before middle after : Environment} {makings more : List Making}

/-- Of the variables with a fixed kind, assignments can only be made to the result of a call. -/
theorem fixedKind?_of_not_engineBound {name : Text} {kind : Value.Kind}
    (h : Name.isEngineBound name = false) (hkind : fixedKind? name = some kind) :
    name = Name.call ∧ kind = .text := by
  simp only [Name.isEngineBound, Bool.or_eq_false_iff, beq_eq_false_iff_ne] at h
  obtain ⟨⟨hresponse, hcounter⟩, hmatch⟩ := h
  rw [fixedKind?, if_neg hcounter] at hkind
  split at hkind
  next hname =>
    exact ⟨(hname.resolve_left hresponse).resolve_left hmatch, (Option.some.inj hkind).symm⟩
  next => cases hkind

/-- Binding keeps an environment kinded, if a fixed kind is kept. -/
theorem Kinded.of_bind (h : env.Kinded) {name : Text} {value : Value}
    (hname : Name.isVariable name = true)
    (hkind : ∀ kind, fixedKind? name = some kind → value.kind = kind) :
    (env.bind name value).Kinded where
  isVariable other held hheld := by
    rw [get?_bind] at hheld
    split at hheld
    next heq => exact heq ▸ hname
    next => exact h.isVariable other held hheld
  fixed other kind hfixed := by
    rw [kindOf_bind]
    split
    next heq => exact hkind kind (heq ▸ hfixed)
    next => exact h.fixed other kind hfixed

/-- At the beginning all bound names have the kinds that they keep. -/
theorem kinded_initial (state : Text) : (initial state).Kinded := by
  have hinitial : initial state
      = (⟨state, Table.empty⟩ : Environment).bind Name.counter (.number (.int 1)) := rfl
  rw [hinitial]
  refine ⟨fun name value h => ?_, fun name kind hfixed => ?_⟩
  · rw [get?_bind] at h
    split at h
    next hname => exact hname ▸ by decide
    next => cases h
  · rw [kindOf_bind]
    split
    next hname =>
      rw [fixedKind?, if_pos hname.symm] at hfixed
      exact Option.some.inj hfixed
    next hname =>
      -- of what is not bound yet, only texts have a fixed kind
      rw [fixedKind?, if_neg (Ne.symm hname)] at hfixed
      split at hfixed
      · exact Option.some.inj hfixed
      · cases hfixed

theorem Evolves.refl (h : env.Kinded) : Evolves [] env env :=
  ⟨h, fun _ hbound => hbound, fun _ => .inl rfl, fun _ hmem => nomatch hmem⟩

/-- In two steps a kind changes by an assignment of one of them. -/
theorem Evolves.trans (hfirst : Evolves makings before middle) (hrest : Evolves more middle after) :
    Evolves (makings ++ more) before after where
  kinded := hrest.kinded
  bound name hbound := hrest.bound name (hfirst.bound name hbound)
  kind name := by
    rcases hrest.kind name with heq | ⟨making, hmem, hretags⟩
    · rcases hfirst.kind name with heq' | ⟨making, hmem, hretags⟩
      · exact .inl (heq.trans heq')
      · exact .inr ⟨making, List.mem_append_left _ hmem, hretags⟩
    · exact .inr ⟨making, List.mem_append_right _ hmem, hretags⟩
  sound making hmem := (List.mem_append.mp hmem).elim (hfirst.sound making) (hrest.sound making)

theorem isSome_get?_bind {name other : Text} (value : Value) (h : (env.get? other).isSome) :
    ((env.bind name value).get? other).isSome := by
  rw [get?_bind]
  split
  · rfl
  · exact h

/-- A variable that keeps its kind. -/
theorem Kinded.bind (h : env.Kinded) {name : Text} {value : Value}
    (hname : Name.isVariable name = true) (hkind : value.kind = env.kindOf name) :
    Evolves [] env (env.bind name value) where
  kinded := h.of_bind hname fun kind hfixed => hkind.trans (h.fixed name kind hfixed)
  bound _ := isSome_get?_bind value
  kind other := by
    rw [kindOf_bind]
    split
    next heq => exact .inl (heq ▸ hkind)
    next => exact .inl rfl
  sound _ hmem := nomatch hmem

/-- A variable that an assignment was made to. -/
theorem Kinded.make {making : Making} (h : making.before.Kinded) (hsound : making.Sound) :
    Evolves [making] making.before making.after := by
  obtain ⟨value, hafter, hkind⟩ := hsound.value
  have hcall : making.assignment.target = Name.call → value.kind = .text :=
    fun htarget => hkind.trans (if_pos htarget)
  rw [hafter]
  refine ⟨h.of_bind hsound.isVariable fun kind hfixed => ?_, fun _ => isSome_get?_bind value,
    fun other => ?_, fun one hmem => List.mem_singleton.mp hmem ▸ hsound⟩
  · obtain ⟨htarget, rfl⟩ := fixedKind?_of_not_engineBound hsound.not_engineBound hfixed
    exact hcall htarget
  · rw [kindOf_bind]
    split
    next htarget =>
      subst htarget
      by_cases hsame : value.kind = making.before.kindOf making.assignment.target
      · exact .inl hsame
      · -- another kind than before can only come from a tag, and not from a call
        have hno : making.assignment.target ≠ Name.call := fun htarget =>
          hsame ((hcall htarget).trans (h.fixed _ _ (by rw [htarget]; rfl)).symm)
        rw [if_neg hno] at hkind
        cases htag : making.assignment.tag? with
        | none => exact absurd (hkind.trans (by rw [htag]; rfl)) hsame
        | some kind =>
          rw [htag] at hkind
          exact .inr ⟨making, List.mem_singleton_self _, rfl, kind, htag,
            fun heq => hsame (hkind.trans heq)⟩
    next => exact .inl rfl

/-- Counting a turn and moving on. -/
theorem Kinded.moved (h : env.Kinded) (target : Text) :
    Evolves [] env (env.advance.moveTo target) :=
  have hadvance : Evolves [] env env.advance :=
    h.bind (by decide) (h.fixed Name.counter .number (by decide)).symm
  ⟨⟨hadvance.kinded.isVariable, hadvance.kinded.fixed⟩, hadvance.bound, hadvance.kind,
    hadvance.sound⟩

end Environment

/-! ## Turns -/

namespace Engine

/-- What the assignments of a row make, up to one that suspends the turn. -/
def makings (settings : Settings) (engine : Engine) : List Assignment → List Making
  | [] => []
  | assignment :: rest =>
    match engine.applyAssignment settings assignment with
    | (.suspended _, _) => []
    | (.skipped, after) => after.makings settings rest
    | (.applied, after) =>
      ⟨assignment, engine.environment, after.environment⟩ :: after.makings settings rest

variable {settings : Settings} {engine : Engine}

/-- The value of an assignment has the kind that it is read as. -/
theorem kind_of_valueOf {kind : Value.Kind} {t : Text} {value : Value}
    (h : valueOf kind t = .ok value) : value.kind = kind := by
  unfold valueOf at h
  split at h
  · exact Except.ok.inj h ▸ rfl
  · cases hresult : Expr.evaluateBool t with
    | error fault => simp [hresult, Except.map] at h
    | ok b =>
      rw [hresult] at h
      exact Except.ok.inj h ▸ rfl
  · cases hresult : Expr.evaluateNumber t with
    | error fault => simp [hresult, Except.map] at h
    | ok n =>
      rw [hresult] at h
      exact Except.ok.inj h ▸ rfl

/-- What became of an assignment: it was made, or it left the variables alone. -/
def Outcome (engine : Engine) (assignment : Assignment) (result : AssignOutcome × Engine) : Prop :=
  (result.1 = .applied ∧
    Making.Sound ⟨assignment, engine.environment, result.2.environment⟩) ∨
  (result.1 ≠ .applied ∧ result.2.environment = engine.environment)

/-- A call binds its result as text, or nothing at all. -/
theorem outcome_dispatchCall {assignment : Assignment}
    (hname : Name.isVariable assignment.target = true)
    (hfree : Name.isEngineBound assignment.target = false)
    (htarget : assignment.target = Name.call) :
    Outcome engine assignment (engine.dispatchCall settings assignment) := by
  unfold dispatchCall
  dsimp only
  split
  · exact .inr ⟨by simp [skip], rfl⟩
  · split
    · exact .inr ⟨by simp, rfl⟩
    · split
      next result hresult =>
        exact .inl ⟨rfl, hname, hfree, .text result, by rw [htarget]; rfl, (if_pos htarget).symm⟩
      next => exact .inr ⟨by simp, rfl⟩

/-- An assignment that is made sets its variable alone, and one that is not sets none. -/
theorem outcome_applyAssignment (settings : Settings) (engine : Engine) (assignment : Assignment) :
    Outcome engine assignment (engine.applyAssignment settings assignment) := by
  unfold applyAssignment
  split
  · -- names that are none, or that the engine binds itself, are skipped first
    exact .inr ⟨by simp [skip], rfl⟩
  next hname =>
    split
    · exact .inr ⟨by simp [skip], rfl⟩
    next hfree =>
      have hname : Name.isVariable assignment.target = true := by simpa using hname
      have hfree : Name.isEngineBound assignment.target = false := by simpa using hfree
      split
      next htarget => exact outcome_dispatchCall hname hfree htarget
      next htarget =>
        dsimp only
        split
        next value hvalue =>
          refine .inl ⟨rfl, hname, hfree, value, rfl, ?_⟩
          dsimp only
          rw [if_neg htarget, ← assignedKind_fst]
          exact kind_of_valueOf hvalue
        next => exact .inr ⟨by simp [skip], rfl⟩

/-- The end of a turn counts it, wherever it goes. -/
theorem environment_finishTurn (target : Text) :
    (engine.finishTurn settings target).2.environment
      = engine.environment.advance.moveTo target := by
  cases hnext : settings.script.get? target with
  | none => rw [finishTurn_of_none settings engine hnext, moved]
  | some next =>
    by_cases hfinish : target = Name.finish
    · rw [finishTurn_of_finish settings engine hnext hfinish, moved]
    · rw [finishTurn_of_ne_finish settings engine hnext hfinish]
      rfl

/-- Asking again binds nothing. -/
theorem environment_askAgain (state : ScriptState) :
    (engine.askAgain settings state).2.environment = engine.environment := by
  unfold askAgain
  split <;> rfl

/-- A turn is made of its assignments, whether it stops at a call or runs through. -/
theorem evolves_runAssignments (target : Text) :
    ∀ (assignments : List Assignment) (next : Nat) (engine : Engine), engine.environment.Kinded →
      Environment.Evolves (engine.makings settings assignments) engine.environment
        (engine.runAssignments settings target next assignments).2.environment := by
  intro assignments
  induction assignments with
  | nil =>
    intro next engine h
    rw [runAssignments, environment_finishTurn]
    exact h.moved target
  | cons assignment rest ih =>
    intro next engine h
    have houtcome := outcome_applyAssignment settings engine assignment
    rw [runAssignments, makings]
    cases happly : engine.applyAssignment settings assignment with
    | mk outcome after =>
      rw [happly] at houtcome
      rcases houtcome with ⟨rfl, hsound⟩ | ⟨hnot, hsame⟩
      · have hmade := Environment.Kinded.make h hsound
        exact hmade.trans (ih (next + 1) after hmade.kinded)
      · dsimp only at hnot hsame
        cases outcome with
        | applied => exact absurd rfl hnot
        | skipped =>
          -- a skipped assignment changes no variable
          rw [← hsame] at h ⊢
          exact ih (next + 1) after h
        | suspended name =>
          -- the turn stops here, and the assignments that are left are not made
          dsimp only
          rw [hsame]
          exact .refl h

end Engine

/-! ## Operations -/

/-- The turn that an operation goes on with, and the engine as the turn finds it. -/
def Operation.turn? (settings : Settings) (engine : Engine) : Operation → Option (Engine × Turn)
  | .respond response =>
    if engine.responseProblem?.isSome then none
    else (settings.script.get? engine.state).bind fun state =>
      let heard := engine.heard response
      let resolution := Engine.resolve heard.environment state response
      resolution.1.map fun resolved =>
        ((heard.record resolution.2).bind Name.lastMatch (.text resolved.matched),
          ⟨resolved.target, 0⟩)
  | .completeCall result =>
    match engine.boundary with
    | some (.call _ turn) =>
      some (({ engine with boundary := none } : Engine).bind Name.call (.text result), turn)
    | _ => none
  | .start | .currentOutput | .takeDiagnostics => none

/-- What the assignments make that an operation comes to. -/
def Operation.makings (settings : Settings) (engine : Engine) (operation : Operation) :
    List Making :=
  match operation.turn? settings engine with
  | some (front, turn) =>
    front.makings settings ((front.assignments settings).drop turn.next)
  | none => []

namespace Engine

variable {settings : Settings} {engine : Engine}

/-- A turn retags names by its assignments only. -/
theorem evolves_runTurn (settings : Settings) (turn : Turn) (h : engine.environment.Kinded) :
    Environment.Evolves (engine.makings settings ((engine.assignments settings).drop turn.next))
      engine.environment (engine.runTurn settings turn).2.environment :=
  evolves_runAssignments turn.target _ turn.next engine h

/-- What is said, and what the host answers, is bound as a text. -/
theorem evolves_bind_text (h : engine.environment.Kinded) (name t : Text)
    (hname : Name.isVariable name = true) (hkind : Environment.fixedKind? name = some .text) :
    Environment.Evolves [] engine.environment (engine.bind name (.text t)).environment :=
  h.bind hname (h.fixed name .text hkind).symm

/-- A response retags names by the assignments of its turn only, though it binds texts besides. -/
theorem evolves_respond (h : engine.environment.Kinded) (response : Text) :
    Environment.Evolves ((Operation.respond response).makings settings engine) engine.environment
      (engine.respond settings response).2.environment := by
  have hheard : Environment.Evolves [] engine.environment (engine.heard response).environment :=
    evolves_bind_text h Name.response response (by decide) (by decide)
  have hresponds := responds settings engine response
  generalize engine.respond settings response = result at hresponds
  cases hresponds with
  | refused hproblem =>
    simpa [Operation.makings, Operation.turn?, hproblem] using Environment.Evolves.refl h
  | unknown hnone hstate =>
    simpa [Operation.makings, Operation.turn?, hnone, hstate] using hheard
  | again hnone hstate hresolve =>
    -- the response is bound and nothing else
    have hmakings : (Operation.respond response).makings settings engine = [] := by
      simp [Operation.makings, Operation.turn?, hnone, hstate, hresolve]
    rw [environment_askAgain, hmakings]
    exact hheard
  | @turn state problems resolved hnone hstate hresolve =>
    have hrecorded : ((engine.heard response).record problems).environment.Kinded := hheard.kinded
    have hmatched := evolves_bind_text hrecorded Name.lastMatch resolved.matched (by decide)
      (by decide)
    -- the response is bound first, then the match, then what the turn assigns
    have hturn := hheard.trans
      (hmatched.trans (evolves_runTurn settings ⟨resolved.target, 0⟩ hmatched.kinded))
    simpa [Operation.makings, Operation.turn?, hnone, hstate, hresolve] using hturn

/-- The result of a call retags names by the assignments behind the call only, and is bound as text.
-/
theorem evolves_completeCall (h : engine.environment.Kinded) (result : Text) :
    Environment.Evolves ((Operation.completeCall result).makings settings engine)
      engine.environment (engine.completeCall settings result).2.environment := by
  cases hwaiting : engine.waitingCall with
  | none =>
    rw [completeCall_of_waitingCall settings result hwaiting]
    have hturn : (Operation.completeCall result).turn? settings engine = none := by
      rw [Operation.turn?]
      split
      next hcall => simp [waitingCall, hcall] at hwaiting
      next => rfl
    rw [Operation.makings, hturn]
    exact .refl h
  | some name =>
    obtain ⟨turn, hcall⟩ := waitingCall_eq_some_iff.mp hwaiting
    rw [completeCall_of_call settings result hcall]
    have hfreed : ({ engine with boundary := none } : Engine).environment.Kinded := h
    have hbound := evolves_bind_text hfreed Name.call result (by decide) (by decide)
    have hturn := hbound.trans (evolves_runTurn settings turn hbound.kinded)
    simpa [Operation.makings, Operation.turn?, hcall] using hturn

/-- Every operation leads from one environment to the next by what its assignments make. -/
theorem evolves_perform (settings : Settings) (h : engine.environment.Kinded)
    (operation : Operation) :
    Environment.Evolves (operation.makings settings engine) engine.environment
      (operation.perform settings engine).2.environment := by
  cases operation with
  | respond response => exact evolves_respond h response
  | completeCall result => exact evolves_completeCall h result
  | start =>
    have hsame : (engine.start settings).2.environment = engine.environment := by
      unfold start
      split <;> rfl
    rw [Operation.perform, hsame]
    exact .refl h
  | currentOutput | takeDiagnostics => exact .refl h

end Engine

/-! ## Runs -/

/-- What the assignments make when a history goes on with some operations. -/
def makingsIn (settings : Settings) (history : History) : List Operation → List Making
  | [] => []
  | operation :: rest =>
    operation.makings settings history.engine
      ++ makingsIn settings (history.extend settings operation) rest

namespace History

variable {settings : Settings}

/-- Any number of operations retag names by the assignments that were applied among them. -/
theorem evolves_foldl_extend (settings : Settings) (operations : List Operation)
    {history : History} (h : history.engine.environment.Kinded) :
    Environment.Evolves (makingsIn settings history operations) history.engine.environment
      (operations.foldl (extend settings) history).engine.environment := by
  induction operations generalizing history with
  | nil => exact .refl h
  | cons operation rest ih =>
    have hstep := Engine.evolves_perform settings h operation
    exact hstep.trans (ih hstep.kinded)

/-- **The kinds of the variables over every run**: all names are variable names; the response, the
match and the result of a call are texts; and whatever is asked of the engine later, no variable is
lost, and each keeps its kind unless an assignment was made to it meanwhile whose tag asks for
another kind than it had. An assignment makes a value of the kind of its tag, else of the kind of
its variable, else a text. -/
theorem kinds_after (settings : Settings) (earlier later : List Operation) :
    let before := (after settings earlier).engine.environment
    let last := (after settings (earlier ++ later)).engine.environment
    let made := makingsIn settings (after settings earlier) later
    (∀ name value, before.get? name = some value → Name.isVariable name = true) ∧
    (∀ name ∈ [Name.response, Name.lastMatch, Name.call], ∀ value,
      before.get? name = some value → value.kind = .text) ∧
    (∀ name value, before.get? name = some value → ∃ held, last.get? name = some held ∧
      (held.kind = value.kind ∨ ∃ making ∈ made, making.Retags name)) ∧
    (∀ name held, before.get? name = none → last.get? name = some held →
      held.kind = .text ∨ ∃ making ∈ made, making.Retags name) ∧
    ∀ making ∈ made, making.Sound := by
  intro before last made
  have hempty : empty.engine.environment.Kinded := Environment.kinded_initial Name.start
  have hbefore := evolves_foldl_extend settings earlier hempty
  have hlast : Environment.Evolves made before last := by
    rw [show last = (later.foldl (extend settings) (after settings earlier)).engine.environment by
      simp [last, after]]
    exact evolves_foldl_extend settings later hbefore.kinded
  refine ⟨hbefore.kinded.isVariable, fun name hname value hvalue => ?_,
    fun name value hvalue => ?_, fun name held hnone hheld => ?_, hlast.sound⟩
  · -- names with a fixed kind keep it in every environment of a run
    have hfixed : ∀ name ∈ [Name.response, Name.lastMatch, Name.call],
        Environment.fixedKind? name = some .text := by decide
    rw [← Environment.kindOf_of_get? hvalue]
    exact hbefore.kinded.fixed name .text (hfixed name hname)
  · obtain ⟨held, hheld⟩ := Option.isSome_iff_exists.mp (hlast.bound name (by rw [hvalue]; rfl))
    refine ⟨held, hheld, ?_⟩
    rw [← Environment.kindOf_of_get? hvalue, ← Environment.kindOf_of_get? hheld]
    exact hlast.kind name
  · -- a name that was not bound counts as text before
    rw [← Environment.kindOf_of_get? hheld, ← Environment.kindOf_of_none hnone]
    exact hlast.kind name

end History

end DialogueScript
