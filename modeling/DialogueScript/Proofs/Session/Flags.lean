import DialogueScript.Proofs.Engine.Inspected
import DialogueScript.Proofs.Session.FrontEnds

/-!
# What a chat tells of its conversation

A chat keeps two facts of its engine for the window: whether the conversation has ended, and the
host call whose result is asked for. The first always agrees with the engine (`Chat.InStep.ended`).
The second agrees with it as well, but for one case: when the result of a call takes the
conversation to a missing state, nobody asks for that result any longer, and the chat still says so
until the conversation is restarted (`Chat.flags_after`, `Chat.flags_differ_dice`).

The invariant is `Chat.Mirrors`; every line that is submitted keeps it.
-/

namespace DialogueScript

/-! ## Keys -/

namespace Chat

/-- What the player does in a chat. -/
inductive Step
  | type (text : Text)
  | erase
  | enter
  | restart
  deriving DecidableEq, Repr

/-- A step in a chat. -/
def perform (chat : Chat) : Step → Chat
  | .type text => chat.type text
  | .erase => { chat with buffer := chat.buffer.dropLast }
  | .enter => chat.submit.2
  | .restart => chat.restart

/-- Steps one after the other. -/
def performAll (chat : Chat) (steps : List Step) : Chat := steps.foldl perform chat

/-- What is typed, and the lines that were submitted. -/
structure Typed where
  buffer : Text
  lines : List Text

/-- What a step does to what is typed. The key that restarts the conversation stands for the command
that does. -/
def Typed.follow (typed : Typed) : Step → Typed
  | .type text => { typed with buffer := typed.buffer ++ text }
  | .erase => { typed with buffer := typed.buffer.dropLast }
  | .enter => ⟨[], typed.lines ++ [typed.buffer]⟩
  | .restart => { typed with lines := typed.lines ++ [":restart".toList] }

/-- The lines that steps submit. -/
def submitted (steps : List Step) : List Text := (steps.foldl Typed.follow ⟨[], []⟩).lines

end Chat

/-! ## The call that is waited for -/

namespace Engine.Sound

variable {settings : Settings} {engine : Engine}

/-- After the end no call is waited for. -/
theorem waitingCall_of_ended (h : Engine.Sound settings engine) (hended : engine.ended = true) :
    engine.waitingCall = none := by
  rw [Engine.waitingCall, h.boundary_eq_none_iff.mpr hended]

/-- A conversation waits for a call exactly where it shows it. -/
theorem waitingCall_eq_some_iff {script : Script} {output : Output} {name : Text}
    (h : Engine.Sound settings engine) (hforeseen : Engine.Foreseen script engine)
    (houtput : engine.currentOutput = .ok output) :
    engine.waitingCall = some name ↔ output = .call name := by
  unfold Engine.currentOutput at houtput
  split at houtput
  next hended =>
    cases houtput
    simp [h.waitingCall_of_ended hended]
  next =>
    split at houtput
    next shown hboundary =>
      cases houtput
      simp [Engine.waitingCall, hboundary, hforeseen.response output hboundary name]
    next asked turn hboundary =>
      cases houtput
      simp [Engine.waitingCall, hboundary]
    next => cases houtput

end Engine.Sound

namespace Script

variable {script : Script} {said : List Text} {line name : Text}

/-- The engine that has heard lines that are no commands. -/
def heard (script : Script) (said : List Text) : Engine :=
  said.foldl (Engine.hear (.callerAnswered script)) script.opened

/-- The result of a call has taken the conversation to a missing state, which ended it. -/
def BrokenOff (script : Script) (said : List Text) (name : Text) : Prop :=
  ∃ before line after target, said = before ++ line :: after ∧
    (script.heard before).waitingCall = some name ∧
    ((script.heard before).completeCall (.callerAnswered script) (Text.trim line)).1
      = .error (.targetUnknown target)

/-- The call whose result was asked for last, and that nothing was shown after. -/
def Asks (script : Script) (said : List Text) (name : Text) : Prop :=
  (script.heard said).waitingCall = some name ∨ script.BrokenOff said name

/-- One line more is heard by the engine that has heard the ones before. -/
theorem heard_concat : script.heard (said ++ [line])
    = (script.heard said).hear (.callerAnswered script) line := by
  rw [heard, List.foldl_append, List.foldl_cons, List.foldl_nil]
  rfl

/-- Before any line, no call is broken off. -/
theorem not_brokenOff_nil : ¬ script.BrokenOff [] name := by
  rintro ⟨before, line, after, target, hsaid, -⟩
  simp at hsaid

/-- A line more breaks the conversation off if it does so itself. -/
theorem brokenOff_concat : script.BrokenOff (said ++ [line]) name ↔
    script.BrokenOff said name ∨ (script.heard said).waitingCall = some name ∧
      ∃ target, ((script.heard said).completeCall (.callerAnswered script) (Text.trim line)).1
        = .error (.targetUnknown target) := by
  constructor
  · rintro ⟨before, result, after, target, hsaid, hwaiting, hmissed⟩
    rcases List.eq_nil_or_concat after with rfl | ⟨middle, last, rfl⟩
    · obtain ⟨rfl, hlast⟩ := List.append_inj' hsaid rfl
      obtain rfl := List.singleton_inj.mp hlast
      exact .inr ⟨hwaiting, target, hmissed⟩
    · rw [List.concat_eq_append, ← List.cons_append, ← List.append_assoc] at hsaid
      exact .inl ⟨before, result, middle, target, (List.append_inj' hsaid rfl).1, hwaiting,
        hmissed⟩
  · rintro (⟨before, result, after, target, rfl, hwaiting, hmissed⟩ | ⟨hwaiting, target, hmissed⟩)
    · exact ⟨before, result, after ++ [line], target, by simp, hwaiting, hmissed⟩
    · exact ⟨said, line, [], target, rfl, hwaiting, hmissed⟩

/-- Whatever lines it has heard, the engine keeps to the invariants of its operations. -/
theorem sound_and_foreseen_heard (hstart : script.contains Name.start = true)
    (said : List Text) : Engine.Sound (.callerAnswered script) (script.heard said) ∧
      Engine.Foreseen script (script.heard said) := by
  induction said using List.reverseRecOn with
  | nil =>
    exact ⟨script.sound_opened hstart,
      (@History.consistent_and_foreseen (.callerAnswered script) hstart [.start]).2⟩
  | append_singleton said line ih =>
    obtain ⟨hsound, hforeseen⟩ := ih
    rw [heard_concat]
    exact ⟨hsound.hear line, (hforeseen.perform hsound.toCoherent _).1⟩

/-- A conversation that was broken off has ended. -/
theorem BrokenOff.ended (hstart : script.contains Name.start = true)
    (h : script.BrokenOff said name) : (script.heard said).ended = true := by
  induction said using List.reverseRecOn with
  | nil => exact absurd h not_brokenOff_nil
  | append_singleton said line ih =>
    obtain ⟨hsound, -⟩ := sound_and_foreseen_heard hstart said
    rw [heard_concat]
    cases hended : (script.heard said).ended with
    | true => rw [hsound.hear_of_ended hended, hended]
    | false =>
      rcases brokenOff_concat.mp h with hbefore | ⟨hwaiting, target, hmissed⟩
      · rw [ih hbefore] at hended
        cases hended
      · obtain ⟨result, hperform, hsettles⟩ := hsound.settles_ofLine hended line
        have hanswer : result.1 = .error (.targetUnknown target) := by
          rw [Operation.ofLine, hwaiting] at hperform
          exact (Reply.moved.inj (congrArg Prod.fst hperform)).symm.trans hmissed
        rw [Engine.hear, hperform]
        exact (hsettles.of_error _ hanswer).1

theorem not_asks_nil : ¬ script.Asks [] name := by
  rintro (hwaiting | hbroken)
  · cases hwaiting
  · exact not_brokenOff_nil hbroken

/-- After the end a line changes nothing. -/
theorem asks_concat_of_ended (hstart : script.contains Name.start = true)
    (hended : (script.heard said).ended = true) :
    script.Asks (said ++ [line]) name ↔ script.Asks said name := by
  obtain ⟨hsound, -⟩ := sound_and_foreseen_heard hstart said
  rw [Asks, Asks, brokenOff_concat, heard_concat, hsound.hear_of_ended hended,
    hsound.waitingCall_of_ended hended]
  simp

section Going

variable {answer : Except Problem Output} {after : Engine}

/-- A run that goes on was not broken off. -/
theorem not_brokenOff_of_going (hstart : script.contains Name.start = true)
    (hgoing : (script.heard said).ended = false) : ¬ script.BrokenOff said name := by
  intro hbroken
  rw [hbroken.ended hstart] at hgoing
  cases hgoing

/-- A line breaks off the conversation if it is the result of a call and leads to a problem. -/
theorem brokenOff_concat_of_going (hstart : script.contains Name.start = true)
    (hgoing : (script.heard said).ended = false)
    (hperform : (Operation.ofLine (script.heard said) line).perform (.callerAnswered script)
      (script.heard said) = (.moved answer, after)) :
    script.BrokenOff (said ++ [line]) name ↔ (script.heard said).waitingCall = some name ∧
      ∃ target, answer = .error (.targetUnknown target) := by
  rw [brokenOff_concat, or_iff_right (not_brokenOff_of_going hstart hgoing)]
  refine and_congr_right fun hwaiting => ?_
  -- the call that is waited for makes the line its result
  rw [Operation.ofLine, hwaiting] at hperform
  rw [Reply.moved.inj (congrArg Prod.fst hperform)]

/-- A line that leads to an output asks for what is shown. -/
theorem asks_concat_of_ok {output : Output} (hstart : script.contains Name.start = true)
    (hgoing : (script.heard said).ended = false)
    (hperform : (Operation.ofLine (script.heard said) line).perform (.callerAnswered script)
      (script.heard said) = (.moved (.ok output), after))
    (houtput : after.currentOutput = .ok output) :
    script.Asks (said ++ [line]) name ↔ output = .call name := by
  obtain ⟨hsound, hforeseen⟩ := sound_and_foreseen_heard hstart (said ++ [line])
  have hafter : script.heard (said ++ [line]) = after := by
    rw [heard_concat, Engine.hear, hperform]
  rw [← hafter] at houtput
  rw [Asks, brokenOff_concat_of_going hstart hgoing hperform,
    hsound.waitingCall_eq_some_iff hforeseen houtput]
  simp

/-- A line that leads to a missing state leaves what was asked for. -/
theorem asks_concat_of_error {target : Text} (hstart : script.contains Name.start = true)
    (hgoing : (script.heard said).ended = false)
    (hperform : (Operation.ofLine (script.heard said) line).perform (.callerAnswered script)
      (script.heard said) = (.moved (.error (.targetUnknown target)), after))
    (hended : after.ended = true) :
    script.Asks (said ++ [line]) name ↔ script.Asks said name := by
  obtain ⟨hsound, -⟩ := sound_and_foreseen_heard hstart (said ++ [line])
  have hafter : script.heard (said ++ [line]) = after := by
    rw [heard_concat, Engine.hear, hperform]
  rw [← hafter] at hended
  rw [Asks, Asks, or_iff_left (not_brokenOff_of_going hstart hgoing),
    brokenOff_concat_of_going hstart hgoing hperform, hsound.waitingCall_of_ended hended]
  simp

end Going

end Script

namespace Chat

/-! ## The invariant -/

/-- A chat tells of a conversation what it has come to: whether it has ended, and the call whose
result was asked for last. -/
structure Mirrors (script : Script) (said : List Text) (chat : Chat) : Prop
    extends chat.InStep script (script.heard said) where
  waits : ∀ name, chat.waitingCall = some name ↔ script.Asks said name

variable {script : Script} {said : List Text} {chat : Chat}

/-- What the engine says last decides whether the chat waits, and for which call. -/
theorem waitingCall_present (chat : Chat) (output : Output) (name : Text) :
    (chat.present output).waitingCall = some name ↔ output = .call name := by
  unfold present
  dsimp only
  split <;> cases output <;> simp [showOutput, say]

theorem waitingCall_present_prompt (chat : Chat) (text : Text) :
    (chat.present (.prompt text)).waitingCall = none := by
  unfold present
  dsimp only
  split <;> rfl

namespace Mirrors

/-- A conversation that has just begun asks for no call. -/
theorem of_waitingCall (h : chat.InStep script script.opened) (hwaiting : chat.waitingCall = none) :
    chat.Mirrors script [] := by
  refine ⟨h, fun name => ?_⟩
  rw [hwaiting]
  simp [Script.not_asks_nil]

/-- A line that is no command is either not heard any more, or shows what it has led to. -/
theorem submitLine (h : chat.Mirrors script said) (hstart : script.contains Name.start = true)
    (line : Text) : (chat.submitLine line).Mirrors script (said ++ [line]) := by
  obtain ⟨hsound, -⟩ := Script.sound_and_foreseen_heard hstart said
  have hstep := h.toInStep.submitLine hsound line
  rw [← Script.heard_concat] at hstep
  refine ⟨hstep, fun name => ?_⟩
  cases hended : chat.ended with
  | true =>
    rw [Script.asks_concat_of_ended hstart (h.ended ▸ hended), ← h.waits, Chat.submitLine,
      if_pos hended]
  | false =>
    have hgoing : (script.heard said).ended = false := h.ended ▸ hended
    have hnot : ¬ chat.ended = true := by simp [hended]
    obtain ⟨⟨answer, after⟩, hperform, hsettles⟩ := hsound.settles_ofLine hgoing line
    obtain ⟨next, hsubmit, -⟩ := h.follows.submit hperform
    rw [Chat.submitLine, if_neg hnot, hsubmit]
    cases answer with
    | ok output =>
      rw [Script.asks_concat_of_ok hstart hgoing hperform (hsettles.currentOutput_eq output rfl)]
      exact waitingCall_present _ _ _
    | error problem =>
      -- nothing new is shown, so the chat keeps what it asked for
      obtain ⟨hover, target, rfl⟩ := hsettles.of_error problem rfl
      rw [Script.asks_concat_of_error hstart hgoing hperform hover]
      exact h.waits name

/-- What is typed and whether the help is shown tells nothing of the conversation. -/
theorem retype (h : chat.Mirrors script said) (buffer : Text) (helpVisible : Bool) :
    Mirrors script said { chat with buffer := buffer, helpVisible := helpVisible } :=
  ⟨⟨h.follows, h.ended, h.status⟩, h.waits⟩

/-- After a restart, the chat mirrors an engine that has heard nothing. -/
theorem restart (h : chat.Mirrors script said) (hstart : script.contains Name.start = true)
    (hfinish : script.contains Name.finish = true) : chat.restart.Mirrors script [] := by
  refine .of_waitingCall (h.toInStep.restart hstart hfinish) ?_
  obtain ⟨text, hrestart⟩ := h.follows.restart hstart hfinish
  rw [Chat.restart, hrestart]
  exact waitingCall_present_prompt _ _

/-- Submitting the buffer keeps the chat in step, whether the line is a command or is spoken. -/
theorem submit {lines : List Text} (h : chat.Mirrors script (spoken lines))
    (hstart : script.contains Name.start = true) (hfinish : script.contains Name.finish = true) :
    chat.submit.2.Mirrors script (spoken (lines ++ [chat.buffer])) := by
  have hemptied := h.retype [] chat.helpVisible
  rw [spoken_concat]
  unfold Chat.submit
  dsimp only
  cases Command.ofLine? chat.buffer with
  | none => exact hemptied.submitLine hstart chat.buffer
  | some command =>
    cases command with
    | help => exact h.retype [] _
    | quit => exact hemptied
    | restart => exact hemptied.restart hstart hfinish

end Mirrors

/-- A chat mirrors the engine from the start. -/
theorem mirrors_start (script : Script) :
    (start ⟨script, script.opened⟩).Mirrors script [] := by
  refine .of_waitingCall (inStep_start script) ?_
  obtain ⟨text, hshown⟩ := Session.exists_output_opened script
  rw [start, hshown]
  exact waitingCall_present_prompt _ _

/-! ## Steps -/

theorem buffer_present (chat : Chat) (output : Output) :
    (chat.present output).buffer = chat.buffer := by
  unfold present
  dsimp only
  split <;> cases output <;> rfl

theorem buffer_restart (chat : Chat) : chat.restart.buffer = chat.buffer := by
  unfold restart
  dsimp only
  split
  · exact buffer_present _ _
  · rfl

/-- What is typed does not depend on what is answered. -/
theorem buffer_submitLine (chat : Chat) (line : Text) :
    (chat.submitLine line).buffer = chat.buffer := by
  unfold submitLine
  dsimp only
  split
  · rfl
  · split
    · exact buffer_present _ _
    · rfl

/-- Entering a line empties the buffer. -/
theorem buffer_submit (chat : Chat) : chat.submit.2.buffer = [] := by
  unfold submit
  dsimp only
  split
  · rfl
  · rfl
  · exact buffer_restart _
  · exact buffer_submitLine _ _

/-- Every step keeps what the chat tells in agreement with the lines that were submitted. -/
theorem Mirrors.perform {typed : Typed} (h : chat.Mirrors script (spoken typed.lines))
    (hbuffer : chat.buffer = typed.buffer) (hstart : script.contains Name.start = true)
    (hfinish : script.contains Name.finish = true) (step : Step) :
    (chat.perform step).Mirrors script (spoken (typed.follow step).lines) ∧
      (chat.perform step).buffer = (typed.follow step).buffer := by
  cases step with
  | type text =>
    exact ⟨h.retype (chat.buffer ++ text) chat.helpVisible, congrArg (· ++ text) hbuffer⟩
  | erase =>
    exact ⟨h.retype chat.buffer.dropLast chat.helpVisible, congrArg List.dropLast hbuffer⟩
  | enter =>
    refine ⟨?_, chat.buffer_submit⟩
    rw [Typed.follow, ← hbuffer]
    exact h.submit hstart hfinish
  | restart =>
    refine ⟨?_, chat.buffer_restart.trans hbuffer⟩
    rw [Typed.follow, spoken_concat]
    exact h.restart hstart hfinish

/-- Whatever keys are pressed, the chat mirrors the engine that has heard the lines that were
entered. -/
theorem mirrors_performAll (hstart : script.contains Name.start = true)
    (hfinish : script.contains Name.finish = true) (steps : List Step) :
    ((start ⟨script, script.opened⟩).performAll steps).Mirrors script
      (spoken (submitted steps)) := by
  -- the steps go from the left, so the chat and what is typed are what the induction generalizes
  have hrun : ∀ (steps : List Step) (chat : Chat) (typed : Typed),
      chat.Mirrors script (spoken typed.lines) → chat.buffer = typed.buffer →
      (chat.performAll steps).Mirrors script (spoken (steps.foldl Typed.follow typed).lines) := by
    intro steps
    induction steps with
    | nil => exact fun chat typed h _ => h
    | cons step rest ih =>
      intro chat typed h hbuffer
      obtain ⟨hnext, hleft⟩ := h.perform hbuffer hstart hfinish step
      exact ih (chat.perform step) (typed.follow step) hnext hleft
  refine hrun steps _ ⟨[], []⟩ (mirrors_start script) ?_
  obtain ⟨text, hshown⟩ := Session.exists_output_opened script
  rw [start, hshown]
  exact buffer_present _ _

/-- **What a chat tells of its conversation**, after any steps: it says that the conversation has
ended exactly if the engine does, and it asks for the result of the call that the engine waits for.
The one case where it asks for another is a conversation that was broken off by the result of a call
and that was not restarted since: the chat still asks for the result of that call. -/
theorem flags_after {source : Text} {script : Script}
    (hcompile : Script.compile source = .ok script) :
    ∃ session, Session.start script = .ok session ∧
      ∀ steps : List Step,
        let chat := (start session).performAll steps
        let engine := chat.session.engine
        let said := spoken (submitted steps)
        chat.ended = engine.ended ∧
        (∀ name, chat.waitingCall = some name ↔
          engine.waitingCall = some name ∨ script.BrokenOff said name) ∧
        (chat.waitingCall = engine.waitingCall ↔ ∀ name, ¬ script.BrokenOff said name) := by
  obtain ⟨hstart, hfinish⟩ := Script.contains_of_compile hcompile
  refine ⟨⟨script, script.opened⟩, Session.start_eq hstart hfinish, fun steps => ?_⟩
  intro chat engine said
  have hmirrors : chat.Mirrors script said := mirrors_performAll hstart hfinish steps
  have hended : engine.ended = (script.heard said).ended := hmirrors.follows.toMatches.ended
  have hwaiting : engine.waitingCall = (script.heard said).waitingCall :=
    congrArg (·.waitingCall) hmirrors.follows.drained
  rw [hended, hwaiting]
  refine ⟨hmirrors.ended, hmirrors.waits, fun heq name hbroken => ?_, fun hgoing => ?_⟩
  · -- a conversation that was broken off waits for nothing
    obtain ⟨hsound, -⟩ := script.sound_and_foreseen_heard hstart said
    rw [hsound.waitingCall_of_ended (hbroken.ended hstart)] at heq
    have hasked := (hmirrors.waits name).mpr (.inr hbroken)
    rw [heq] at hasked
    cases hasked
  · exact Option.ext fun name => (hmirrors.waits name).trans (or_iff_left (hgoing name))

/-- The result of a call takes a conversation to a state that is missing: the window still asks for
it. -/
theorem flags_after_nowhere :
    let source : Text := "start\n    Roll?\n    REST -> nowhere\n    $call$ <- dice\n".toList
    let script : Script := Script.seeded.define Name.start
      { prompt := "Roll?".toList
        transitions := [⟨.wildcard, "nowhere".toList⟩]
        assignments := [⟨Name.call, "dice".toList⟩]
        retry := none }
    let steps : List Step := [.type "go".toList, .enter, .type "33".toList, .erase, .enter]
    Script.compile source = .ok script ∧
    ∃ session, Session.start script = .ok session ∧
      spoken (submitted steps) = ["go".toList, ['3']] ∧
      script.BrokenOff ["go".toList, ['3']] "dice".toList ∧
      let chat := (start session).performAll steps
      chat.ended = chat.session.engine.ended ∧ chat.waitingCall = some "dice".toList ∧
        chat.waitingCall ≠ chat.session.engine.waitingCall := by
  intro source script steps
  have hcompile : Script.compile source = .ok script := eq_ok_of_toOption (by decide +kernel)
  obtain ⟨session, hsession, hsteps⟩ := flags_after hcompile
  obtain ⟨hended, hwaits, hagrees⟩ := hsteps steps
  have hsaid : spoken (submitted steps) = ["go".toList, ['3']] := by decide
  rw [hsaid] at hwaits hagrees
  have hbroken : script.BrokenOff ["go".toList, ['3']] "dice".toList :=
    ⟨["go".toList], ['3'], [], "nowhere".toList, rfl, by decide +kernel, by rfl⟩
  exact ⟨hcompile, session, hsession, hsaid, hbroken, hended, (hwaits _).mpr (.inr hbroken),
    fun heq => hagrees.mp heq _ hbroken⟩

/-- So the window and the engine do not always agree on the call that is waited for. -/
theorem flags_differ_dice :
    ¬ ∀ (source : Text) (script : Script), Script.compile source = .ok script →
      ∀ session, Session.start script = .ok session → ∀ steps : List Step,
        let chat := (start session).performAll steps
        chat.ended = chat.session.engine.ended ∧
          chat.waitingCall = chat.session.engine.waitingCall := by
  intro hmirror
  let source : Text := "start\n    Roll?\n    REST -> nowhere\n    $call$ <- dice\n".toList
  let script : Script := Script.seeded.define Name.start
    { prompt := "Roll?".toList
      transitions := [⟨.wildcard, "nowhere".toList⟩]
      assignments := [⟨Name.call, "dice".toList⟩]
      retry := none }
  have hcompile : Script.compile source = .ok script := eq_ok_of_toOption (by decide +kernel)
  obtain ⟨hstart, hfinish⟩ := Script.contains_of_compile hcompile
  have hsame := (hmirror source script hcompile ⟨script, script.opened⟩
    (Session.start_eq hstart hfinish)
    [.type "go".toList, .enter, .type ['3'], .enter]).2
  revert hsame
  decide +kernel

end Chat

end DialogueScript
