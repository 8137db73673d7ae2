import DialogueScript.Proofs.Engine.Diagnostics
import DialogueScript.Proofs.Script.LastBlock

/-!
# What compiling vouches for

A script that compiles has names where names belong, guards that are expressions, and texts that fit
on a line; so a conversation with it can always begin, and never meets an assignment whose variable
has no name (`validated_of_compile`).

All of this is read off the lines: the parts of a state that some lines say are pieces of them
(`IsWritten.validated`), and the lines of a body are trimmed, hold no line feed and are not empty
(`plain_of_mem_headed`).
-/

namespace DialogueScript

namespace Script

/-! ## States -/

/-- The guard of a transition is an expression, which has neither quotes nor arrows. -/
structure ValidGuard (guard : Text) : Prop where
  isWellFormed : Expr.isWellFormed .boolean guard = true
  quote : '"' ∉ guard
  arrow : ¬ ['-', '>'] <:+: guard

/-- A state with names where names belong, with expressions for guards, and with texts that have no
blanks around them and no line feed inside. -/
structure ValidState (state : ScriptState) : Prop where
  prompt : state.prompt.Plain
  retry : ∀ text, state.retry = some text → text.Plain
  targets : ∀ transition ∈ state.transitions, Name.isStateKey transition.target = true
  guards : ∀ transition ∈ state.transitions, ∀ guard, transition.key.guard? = some guard →
    ValidGuard guard
  names : ∀ assignment ∈ state.assignments, Name.isVariable assignment.target = true
  values : ∀ assignment ∈ state.assignments, assignment.value.Plain

section State

variable {line : Text} {body : List Text} {state : ScriptState}

/-- The guard of a key that was read is well-formed, and so has no quotes and no arrow. -/
theorem validGuard_of_isSeparable {key : TransitionKey} (h : key.IsSeparable) {guard : Text}
    (hguard : key.guard? = some guard) : ValidGuard guard := by
  cases key with
  | pattern p | wildcard => cases hguard
  | guarded p written =>
    obtain rfl := Option.some.inj hguard
    obtain ⟨hquote, harrow⟩ := Expr.marks_of_isWellFormed h
    exact ⟨h, hquote, harrow⟩

/-- A transition on a line has a key of a state as its target and a valid guard. -/
theorem Instruction.IsOn.validTransition {transition : Transition}
    (h : (Instruction.transition transition).IsOn line) :
    Name.isStateKey transition.target = true ∧
      ∀ guard, transition.key.guard? = some guard → ValidGuard guard := by
  cases h with
  | transition _ _ _ _ hkey htarget =>
    exact ⟨htarget, fun guard hguard => validGuard_of_isSeparable hkey hguard⟩

/-- A value is a piece of its line. -/
theorem Instruction.IsOn.validAssignment {assignment : Assignment}
    (h : (Instruction.assignment assignment).IsOn line) (hline : '\n' ∉ line) :
    Name.isVariable assignment.target = true ∧ assignment.value.Plain := by
  cases h with
  | assignment _ _ hparts _ hname =>
    refine ⟨hname, Text.plain_trim fun hmem => hline ?_⟩
    rw [hparts]
    exact List.mem_append_right _ hmem

/-- What plain lines say is valid. -/
theorem IsWritten.validated (h : IsWritten body state) (hbody : ∀ text ∈ body, text.Plain) :
    ValidState state := by
  have hprompt : state.prompt ∈ body := List.mem_of_head? h.prompt
  have hline {kind : LineKind} {text : Text} (hmem : text ∈ kind.lines body.tail) :
      '\n' ∉ text :=
    (hbody text (List.mem_of_mem_tail (List.mem_filter.mp hmem).1)).line
  have htransitions : ∀ transition ∈ state.transitions,
      Name.isStateKey transition.target = true ∧
        ∀ guard, transition.key.guard? = some guard → ValidGuard guard := fun transition hmem => by
    obtain ⟨line, -, hsays⟩ := exists_of_forall₂_mem h.transitions hmem
    exact hsays.validTransition
  have hassignments : ∀ assignment ∈ state.assignments,
      Name.isVariable assignment.target = true ∧ assignment.value.Plain :=
    fun assignment hmem => by
      obtain ⟨line, hmem, hsays⟩ := exists_of_forall₂_mem h.assignments hmem
      exact hsays.validAssignment (hline hmem)
  exact
    { prompt := hbody _ hprompt
      retry := fun text htext => by
        rw [h.retry] at htext
        obtain ⟨line, hlast, rfl⟩ := Option.map_eq_some_iff.mp htext
        -- the mark of a retry is taken off, and the blanks behind it
        exact Text.plain_trim fun hmem =>
          hline (List.mem_of_getLast? hlast) (List.mem_of_mem_tail hmem)
      targets := fun transition hmem => (htransitions transition hmem).1
      guards := fun transition hmem => (htransitions transition hmem).2
      names := fun assignment hmem => (hassignments assignment hmem).1
      values := fun assignment hmem => (hassignments assignment hmem).2 }

theorem validState_defaultStart : ValidState defaultStart where
  prompt := by decide
  retry _ htext := nomatch htext
  targets transition hmem := by
    rw [List.mem_singleton.mp hmem]
    decide +kernel
  guards transition hmem guard hguard := by
    rw [List.mem_singleton.mp hmem] at hguard
    cases hguard
  names _ hmem := nomatch hmem
  values _ hmem := nomatch hmem

theorem validState_defaultFinish : ValidState defaultFinish where
  prompt := by decide
  retry _ htext := nomatch htext
  targets _ hmem := nomatch hmem
  guards _ hmem := nomatch hmem
  names _ hmem := nomatch hmem
  values _ hmem := nomatch hmem

end State

/-! ## Scripts -/

section Compile

variable {source key : Text} {script : Script} {state : ScriptState}

/-- A line of a body is a trimmed line of the source with more than blanks. -/
theorem plain_of_mem_headed {lines : List Text} (hlines : ∀ line ∈ lines, '\n' ∉ line)
    {part : Text × List Text} (h : part ∈ headed lines) :
    ∀ text ∈ part.2, text.Plain ∧ text ≠ [] := by
  induction lines with
  | nil => cases h
  | cons line rest ih =>
    obtain ⟨-, hrest⟩ := List.forall_mem_cons.mp hlines
    by_cases hopens : Opens line
    · rw [headed_of_opens hopens] at h
      rcases List.mem_cons.mp h with rfl | hmem
      · intro text htext
        obtain ⟨raw, hraw, rfl⟩ := List.mem_map.mp htext
        have hcontinues : Continues raw := by
          simpa using List.all_eq_true.mp List.all_takeWhile raw hraw
        exact ⟨Text.plain_trim (hrest raw ((List.takeWhile_prefix _).subset hraw)),
          Text.trim_ne_nil hcontinues.1⟩
      · exact ih hrest hmem
    · rw [headed_of_not hopens] at h
      exact ih hrest h

/-- A state that is found was defined last or was there before. -/
theorem get?_defineAll_cases {states : List (Text × ScriptState)} {base : Script}
    (h : (base.defineAll states).get? key = some state) :
    (key, state) ∈ states ∨ key ∉ states.map (·.1) ∧ base.get? key = some state := by
  by_cases hdefined : ∃ entry ∈ states, entry.1 = key
  · obtain ⟨before, ⟨_, last⟩, after, rfl, rfl, hafter⟩ := exists_last hdefined
    have hlast : _ ∉ after.map (·.1) := fun hmem => by
      obtain ⟨entry, hentry, heq⟩ := List.mem_map.mp hmem
      exact hafter entry hentry heq
    rw [get?_defineAll_last hlast] at h
    rw [Option.some.inj h]
    exact .inl (by simp)
  · have hkey : key ∉ states.map (·.1) := fun hmem => by
      obtain ⟨entry, hentry, heq⟩ := List.mem_map.mp hmem
      exact hdefined ⟨entry, hentry, heq⟩
    rw [get?_defineAll_of_notMem hkey] at h
    exact .inr ⟨hkey, h⟩

/-- What stands in a script that compiles. -/
structure ValidEntry (source key : Text) (state : ScriptState) : Prop where
  isStateKey : Name.isStateKey key = true
  valid : ValidState state
  prompt_ne_nil : (∃ line ∈ Text.lines source, Heads key line) → state.prompt ≠ []

/-- Every state of a compiled script is valid, those that are there without a block included. -/
theorem validEntry_of_get? (h : compile source = .ok script)
    (hstate : script.get? key = some state) :
    ValidEntry source key state := by
  obtain ⟨states, hsays, rfl⟩ := says_of_compile h
  rcases get?_defineAll_cases hstate with hmem | ⟨hkey, hseeded⟩
  · -- a state of a block
    obtain ⟨part, hpart, hsaid⟩ := exists_of_forall₂_mem hsays hmem
    have hbody := plain_of_mem_headed (fun line hline => Text.notMem_of_mem_lines hline) hpart
    exact
      { isStateKey := hsaid.isStateKey
        valid := hsaid.written.validated fun text htext => (hbody text htext).1
        prompt_ne_nil := fun _ =>
          (hbody _ (List.mem_of_head? hsaid.written.prompt)).2 }
  · -- a state that no block has defined anew
    rw [keys_eq_of_forall₂ hsays, mem_keys_headed_iff] at hkey
    rw [get?_seeded] at hseeded
    split at hseeded
    next hfinish =>
      obtain rfl := Option.some.inj hseeded
      exact ⟨by rw [hfinish]; decide +kernel, validState_defaultFinish, fun h => absurd h hkey⟩
    next =>
      split at hseeded
      next hstart =>
        obtain rfl := Option.some.inj hseeded
        exact ⟨by rw [hstart]; decide +kernel, validState_defaultStart, fun h => absurd h hkey⟩
      next => cases hseeded

/-! ## Conversations -/

/-- The code of an assignment to what is no variable. -/
def nameInvalidCode : Text := "ENGINE_ASSIGN_NAME_INVALID".toList

/-- Where all variables have names, that code is only recorded if the host reports it. -/
theorem hostCall_of_recordable {settings : Settings} {problem : Problem}
    (hnames : ∀ assignment, settings.script.Assigns assignment →
      Name.isVariable assignment.target = true)
    (h : Recordable settings problem) (hcode : problem.code = nameInvalidCode) :
    settings.deferCalls = false ∧ ∃ name failure earlier, problem = .hostCall failure name ∧
      settings.hosts.call name earlier = .error failure := by
  rcases h.code_cases with hordinary | ⟨assignment, hassigns, hname, -⟩ |
    ⟨-, -, -, -, hunknown⟩ | hreported
  · have hother : nameInvalidCode ∉ ordinaryCodes := by decide
    exact absurd (hcode ▸ hordinary) hother
  · rw [hnames assignment hassigns] at hname
    cases hname
  · rw [hunknown] at hcode
    exact absurd hcode (by decide)
  · exact hreported

/-- **What compiling vouches for**: there are states to start and to end in; every key and every
target of a transition is a state key, every target of an assignment a variable, every guard an
expression without quotes and arrows; prompts, texts for responses that no transition accepts and
values have no blanks around them and no line feed, and a prompt that is written is not empty. So
every conversation with the script can begin, and whatever happens in it, no assignment is skipped
for its name: who finds that code recorded has a host that reported it. -/
theorem validated_of_compile (h : compile source = .ok script) :
    script.contains Name.start = true ∧ script.contains Name.finish = true ∧
    (∀ key state, script.get? key = some state →
      Name.isStateKey key = true ∧ ValidState state ∧
        ((∃ line ∈ Text.lines source, Heads key line) → state.prompt ≠ [])) ∧
    ∀ settings : Settings, settings.script = script →
      Engine.new settings = .ok Engine.initial ∧
      ∀ operations : List Operation,
        ∀ problem ∈ (History.after settings operations).engine.diagnostics,
          problem.code = nameInvalidCode → settings.deferCalls = false ∧
            ∃ name failure earlier, problem = .hostCall failure name ∧
              settings.hosts.call name earlier = .error failure := by
  obtain ⟨hstart, hfinish⟩ := contains_of_compile h
  refine ⟨hstart, hfinish, fun key state hstate => ?_, fun settings hsettings => ?_⟩
  · have hentry := validEntry_of_get? h hstate
    exact ⟨hentry.isStateKey, hentry.valid, hentry.prompt_ne_nil⟩
  · subst hsettings
    refine ⟨by simp [Engine.new, hstart, hfinish], fun operations problem hmem hcode => ?_⟩
    have hnames : ∀ assignment, settings.script.Assigns assignment →
        Name.isVariable assignment.target = true := fun assignment hassigns => by
      obtain ⟨key, state, hstate, hassignment⟩ := hassigns
      exact (validEntry_of_get? h hstate).valid.names assignment hassignment
    exact hostCall_of_recordable hnames
      (History.recordable_after settings operations problem hmem) hcode

/-- A script with a guard, and a host that fails in the words of the engine. -/
theorem validated_of_compile_dice :
    let source : Text := ("start\n  Roll? \n  \"y\", $counter$ > 0 -> end\n  REST -> end\n" ++
      "  $call$ <- dice \n").toList
    let yes : Pattern := (Pattern.ofSource? ['y']).get (by decide +kernel)
    let script : Script := seeded.define Name.start
      { prompt := "Roll?".toList
        transitions := [⟨.guarded yes "$counter$ > 0".toList, Name.finish⟩,
          ⟨.wildcard, Name.finish⟩]
        assignments := [⟨Name.call, "dice".toList⟩]
        retry := none }
    let failure : HostFailure := ⟨.host, nameInvalidCode, "No dice.".toList⟩
    let settings : Settings := { Settings.ofScript script with
      hosts := .answering [("dice".toList, fun _ => .error failure)] }
    let engine := (History.after settings [.start, .respond "go".toList]).engine
    compile source = .ok script ∧
    (∃ state, script.get? Name.start = some state ∧ ValidState state ∧ state.prompt ≠ []) ∧
    Engine.new settings = .ok Engine.initial ∧
    engine.diagnostics.map (·.code) = [nameInvalidCode] ∧
    ∀ problem ∈ engine.diagnostics, ∃ name failure earlier, problem = .hostCall failure name ∧
      settings.hosts.call name earlier = .error failure := by
  intro source yes script failure settings engine
  have hcompile : compile source = .ok script := eq_ok_of_toOption (by decide +kernel)
  obtain ⟨hstart, -, hstates, hsettings⟩ := validated_of_compile hcompile
  obtain ⟨hnew, hrecorded⟩ := hsettings settings rfl
  have hdefined : (script.get? Name.start).isSome = true := hstart
  obtain ⟨state, hstate⟩ := Option.isSome_iff_exists.mp hdefined
  obtain ⟨-, hvalid, hprompt⟩ := hstates Name.start state hstate
  have hheads : ∃ line ∈ Text.lines source, Heads Name.start line := by decide +kernel
  have hcodes : engine.diagnostics.map (·.code) = [nameInvalidCode] := by decide +kernel
  refine ⟨hcompile, ⟨state, hstate, hvalid, hprompt hheads⟩, hnew, hcodes,
    fun problem hmem => ?_⟩
  have hcode : problem.code ∈ engine.diagnostics.map (·.code) := List.mem_map_of_mem hmem
  rw [hcodes] at hcode
  exact (hrecorded _ problem hmem (List.mem_singleton.mp hcode)).2

/-- So it is not true that the code is never recorded: hosts choose the codes of their failures. -/
theorem nameInvalid_recorded_dice :
    ¬ ∀ (source : Text) (script : Script), compile source = .ok script →
      ∀ settings : Settings, settings.script = script → ∀ operations : List Operation,
        ∀ problem ∈ (History.after settings operations).engine.diagnostics,
          problem.code ≠ nameInvalidCode := by
  intro hnever
  let source : Text := "start\n    Roll?\n    REST -> end\n    $call$ <- dice\n".toList
  let script : Script := seeded.define Name.start
    { prompt := "Roll?".toList
      transitions := [⟨.wildcard, Name.finish⟩]
      assignments := [⟨Name.call, "dice".toList⟩]
      retry := none }
  let settings : Settings := { Settings.ofScript script with
    hosts := .answering [("dice".toList,
      fun _ => .error ⟨.host, nameInvalidCode, "The host reports it.".toList⟩)] }
  have hcompile : compile source = .ok script := eq_ok_of_toOption (by decide +kernel)
  have hrecorded : ((History.after settings [.start, .respond "go".toList]).engine.diagnostics.map
      (·.code)) = [nameInvalidCode] := by decide +kernel
  obtain ⟨problem, hmem, hcode⟩ :=
    List.mem_map.mp (hrecorded ▸ List.mem_singleton_self nameInvalidCode)
  exact hnever source script hcompile settings rfl _ problem hmem hcode

end Compile

end Script

end DialogueScript
