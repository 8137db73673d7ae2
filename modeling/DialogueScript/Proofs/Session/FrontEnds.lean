import DialogueScript.Chat.Basic
import DialogueScript.Proofs.Session.Conversation
import DialogueScript.Script.Compile
import DialogueScript.Session.LineMode
import Mathlib.Data.List.Induction

/-!
# Two front ends for one conversation

Line mode reads lines from an input and stops at the end of the conversation, at a problem and when
the player quits. A chat takes lines one at a time and stays open. Both lead the same conversation
(`front_ends_alike`): as long as line mode reads, and for the line that stops it, both have an
engine that is, up to recorded problems, the one after the same lines (`Script.conversation`).

One invariant for each front end relates it to that engine (`LineMode.InStep`, `Chat.InStep`); every
line keeps both.
-/

namespace DialogueScript

variable {script : Script} {engine : Engine}

/-! ## Line mode -/

namespace LineMode

/-- Line mode is in step with a conversation: it leads it, it reads on only before the end, and what
stopped it is not the protocol. -/
structure InStep (script : Script) (engine : Engine) (mode : LineMode) : Prop where
  follows : mode.session.Follows script engine
  reading : ∀ output, mode.status = .reading output → engine.ended = false ∧ output ≠ .finish
  failed : ∀ problem, mode.status = .failed problem → problem.kind ≠ .protocol

/-- Does line mode read on? -/
def Reads (mode : LineMode) : Prop := ∃ output, mode.status = .reading output

theorem inStep_finished {session : Session} (hfollows : session.Follows script engine) :
    InStep script engine ⟨session, .finished⟩ where
  follows := hfollows
  reading _ hstatus := nomatch hstatus
  failed _ hstatus := nomatch hstatus

/-- What line mode presents decides whether it reads on, and so does the engine. -/
theorem inStep_present {session : Session} {output : Output}
    (hfollows : session.Follows script engine)
    (hended : engine.ended = true ↔ output = .finish) :
    (present session output).2.InStep script engine := by
  have hreading : output ≠ .finish →
      InStep script engine ⟨session.takeDiagnostics.2, .reading output⟩ := fun hne =>
    { follows := hfollows.takeDiagnostics
      reading := fun _ hstatus => by
        cases hstatus
        exact ⟨by simpa using mt hended.mp hne, hne⟩
      failed := fun _ hstatus => nomatch hstatus }
  cases output with
  | finish => exact inStep_finished hfollows.takeDiagnostics
  | prompt text | retry text | call name => exact hreading (by simp)

/-- A line takes line mode to where it takes the conversation. -/
theorem InStep.feed {mode : LineMode} (h : mode.InStep script engine)
    (hsound : Engine.Sound (.callerAnswered script) engine)
    (hstart : script.contains Name.start = true) (hfinish : script.contains Name.finish = true)
    (hreads : mode.Reads) (line : Text) :
    (mode.feed line).2.InStep script (script.advance engine line) := by
  obtain ⟨output, hstatus⟩ := hreads
  obtain ⟨hgoing, hne⟩ := h.reading output hstatus
  unfold LineMode.feed Script.advance
  rw [hstatus]
  dsimp only
  cases hcommand : Command.ofLine? line with
  | some command =>
    cases command with
    | help =>
      -- the output is shown once more, and the conversation stays where it is
      exact inStep_present h.follows (by simp [hgoing, hne])
    | quit => exact inStep_finished h.follows
    | restart =>
      obtain ⟨text, hrestart⟩ := h.follows.restart hstart hfinish
      dsimp only
      rw [hrestart]
      exact inStep_present ⟨rfl, rfl⟩ (by simp)
  | none =>
    dsimp only
    rcases h.follows.submit_cases hsound hgoing line with
      ⟨output, next, hsubmit, hnext, hended⟩ | ⟨target, next, hsubmit, hnext, -⟩
    · rw [hsubmit]
      exact inStep_present hnext hended
    · rw [hsubmit]
      exact
        { follows := hnext
          reading := fun _ hstatus => nomatch hstatus
          failed := fun _ hstatus => by cases hstatus; simp [Problem.kind] }

/-! ### Lines of an input -/

/-- Lines as they are typed. -/
def typed (lines : List Text) : Text := lines.flatMap (· ++ ['\n'])

/-- Carriage returns at the end of a line are blanks. -/
theorem trim_dropReturns (line : Text) : Text.trim (dropReturns line) = Text.trim line := by
  have hreturns : (line.reverse.takeWhile (· == '\r')).reverse.all Text.isBlank = true := by
    rw [List.all_reverse, List.all_eq_true]
    intro c hc
    have hreturn : c = '\r' := by simpa using List.all_eq_true.mp List.all_takeWhile c hc
    subst hreturn
    decide
  have hline : dropReturns line ++ (line.reverse.takeWhile (· == '\r')).reverse = line := by
    rw [dropReturns, ← List.reverse_append, List.takeWhile_append_dropWhile, List.reverse_reverse]
  calc Text.trim (dropReturns line)
      = Text.trim (dropReturns line ++ (line.reverse.takeWhile (· == '\r')).reverse) :=
        (Text.trim_append_right hreturns _).symm
    _ = Text.trim line := by rw [hline]

/-- The engine hears no difference, because what is spoken is trimmed. -/
theorem advance_dropReturns (line : Text) :
    script.advance engine (dropReturns line) = script.advance engine line := by
  unfold Script.advance Engine.hear Operation.ofLine Command.ofLine?
  rw [trim_dropReturns]

/-- The lines of an input are those that were typed, less the returns at their ends. -/
theorem linesOf_typed {lines : List Text} (h : ∀ line ∈ lines, '\n' ∉ line) :
    linesOf (typed lines) = lines.map dropReturns := by
  unfold linesOf typed
  dsimp only
  rw [Text.splitAll_flatMap h]
  simp

/-- One line more is fed to the mode that the lines before have led to. -/
theorem feedAll_concat (mode : LineMode) (lines : List Text) (line : Text) :
    (mode.feedAll (lines ++ [line])).2 = ((mode.feedAll lines).2.feed line).2 := by
  induction lines generalizing mode with
  | nil => rfl
  | cons first rest ih => exact ih (mode.feed first).2

/-- Line mode after lines have been typed. -/
def after (session : Session) (lines : List Text) : LineMode := (play session (typed lines)).2

theorem after_concat (session : Session) {lines : List Text} {line : Text}
    (h : ∀ text ∈ lines ++ [line], '\n' ∉ text) :
    after session (lines ++ [line]) = ((after session lines).feed (dropReturns line)).2 := by
  have hlines : ∀ text ∈ lines, '\n' ∉ text := fun text hmem => h text (by simp [hmem])
  unfold after play
  dsimp only
  rw [linesOf_typed h, linesOf_typed hlines, List.map_append, List.map_singleton, feedAll_concat]

/-- Once it has stopped, line mode does nothing. -/
theorem feed_of_not_reads {mode : LineMode} (h : ¬ mode.Reads) (line : Text) :
    (mode.feed line).2 = mode := by
  unfold feed
  split
  · rfl
  · rfl
  next output hstatus => exact absurd ⟨output, hstatus⟩ h

section Opened

variable {lines : List Text} {line : Text}

/-- Line mode is in step from the start. -/
theorem inStep_opened (script : Script) :
    (after ⟨script, script.opened⟩ []).InStep script script.opened := by
  obtain ⟨text, hshown⟩ := Session.exists_output_opened script
  have hafter : after ⟨script, script.opened⟩ [] = (start ⟨script, script.opened⟩).2 := rfl
  rw [hafter, start, hshown]
  exact inStep_present ⟨rfl, rfl⟩ (by simp)

/-- One line more keeps line mode in step, if it still reads. -/
theorem inStep_concat (hstart : script.contains Name.start = true)
    (hfinish : script.contains Name.finish = true)
    (hlines : ∀ text ∈ lines ++ [line], '\n' ∉ text)
    (h : (after ⟨script, script.opened⟩ lines).InStep script (script.conversation lines))
    (hreads : (after ⟨script, script.opened⟩ lines).Reads) :
    (after ⟨script, script.opened⟩ (lines ++ [line])).InStep script
      (script.conversation (lines ++ [line])) := by
  rw [after_concat _ hlines, Script.conversation_concat, ← advance_dropReturns line]
  exact h.feed (Script.sound_conversation hstart lines) hstart hfinish hreads _

/-- As long as it reads, line mode is in step; and the protocol never stops it. -/
theorem inStep_of_reads (hstart : script.contains Name.start = true)
    (hfinish : script.contains Name.finish = true) (lines : List Text) :
    (∀ line ∈ lines, '\n' ∉ line) →
      ((after ⟨script, script.opened⟩ lines).Reads →
        (after ⟨script, script.opened⟩ lines).InStep script (script.conversation lines)) ∧
      ∀ problem, (after ⟨script, script.opened⟩ lines).status = .failed problem →
        problem.kind ≠ .protocol := by
  induction lines using List.reverseRecOn with
  | nil => exact fun _ => ⟨fun _ => inStep_opened script, (inStep_opened script).failed⟩
  | append_singleton lines line ih =>
    intro hlines
    obtain ⟨hinStep, hfailed⟩ := ih fun text hmem => hlines text (by simp [hmem])
    by_cases hreads : (after ⟨script, script.opened⟩ lines).Reads
    · have hnext := inStep_concat hstart hfinish hlines (hinStep hreads) hreads
      exact ⟨fun _ => hnext, hnext.failed⟩
    · -- whatever stopped line mode stopped it for good
      rw [after_concat _ hlines, feed_of_not_reads hreads]
      exact ⟨fun h => absurd h hreads, hfailed⟩

/-- The line that stops it is still a line of the conversation. -/
theorem inStep_after (hstart : script.contains Name.start = true)
    (hfinish : script.contains Name.finish = true) (hlines : ∀ line ∈ lines, '\n' ∉ line)
    (hreads : (after ⟨script, script.opened⟩ lines.dropLast).Reads) :
    (after ⟨script, script.opened⟩ lines).InStep script (script.conversation lines) := by
  rcases List.eq_nil_or_concat lines with rfl | ⟨front, last, rfl⟩
  · exact inStep_opened script
  · rw [List.concat_eq_append] at hlines hreads ⊢
    rw [List.dropLast_concat] at hreads
    have hfront := (inStep_of_reads hstart hfinish front
      fun text hmem => hlines text (by simp [hmem])).1 hreads
    exact inStep_concat hstart hfinish hlines hfront hreads

end Opened

end LineMode

/-! ## Chats -/

namespace Chat

/-- Submits lines one after the other. -/
def submitAll (chat : Chat) (lines : List Text) : Chat :=
  lines.foldl (fun chat line => ({ chat with buffer := line } : Chat).submit.2) chat

/-- A chat is in step with a conversation: it leads it, it ends with it, and the only problems that
it shows are states that are missing. -/
structure InStep (script : Script) (engine : Engine) (chat : Chat) : Prop where
  follows : chat.session.Follows script engine
  ended : chat.ended = engine.ended
  status : chat.status.head? = some 'e' →
    ∃ target, chat.status = problemStatus "error" (.targetUnknown target)

/-- What is shown of an output is no problem that stopped something. -/
theorem head?_status_present (chat : Chat) (output : Output) :
    (chat.present output).status.head? ≠ some 'e' := by
  unfold present
  dsimp only
  split
  next problem _ =>
    have hwarn : (problemStatus "warn" problem).head? = some 'w' := rfl
    rw [hwarn]
    decide
  next =>
    cases output with
    | prompt text | retry text =>
      have hready : readyStatus.head? = some 'r' := rfl
      exact hready ▸ by decide
    | call name =>
      have hwaiting : ("waiting on call ".toList ++ name).head? = some 'w' := rfl
      exact hwaiting ▸ by decide
    | finish =>
      have hover : endedStatus.head? = some 'c' := rfl
      exact hover ▸ by decide

theorem session_present (chat : Chat) (output : Output) :
    (chat.present output).session = chat.session.takeDiagnostics.2 := by
  unfold present
  dsimp only
  split <;> cases output <;> rfl

/-- A chat ends with the final output and stays at its end. -/
theorem ended_present (chat : Chat) (output : Output) :
    (chat.present output).ended = (chat.ended || output == .finish) := by
  unfold present
  dsimp only
  split <;> cases output <;> simp [showOutput, say]

/-- What a chat presents decides whether it has ended, and so does the engine. -/
theorem inStep_present {chat : Chat} {output : Output} (hgoing : chat.ended = false)
    (hfollows : chat.session.Follows script engine)
    (hended : engine.ended = true ↔ output = .finish) :
    (chat.present output).InStep script engine where
  follows := by
    rw [session_present]
    exact hfollows.takeDiagnostics
  ended := by
    rw [ended_present, hgoing, Bool.false_or, Bool.eq_iff_iff, hended, beq_iff_eq]
  status hhead := absurd hhead (head?_status_present chat output)

theorem inStep_start (script : Script) :
    (start ⟨script, script.opened⟩).InStep script script.opened := by
  obtain ⟨text, hshown⟩ := Session.exists_output_opened script
  unfold start
  dsimp only
  rw [hshown]
  exact inStep_present rfl ⟨rfl, rfl⟩ (by simp)

namespace InStep

variable {chat : Chat}

/-- A restart is in step with an engine that has just started. -/
theorem restart (h : chat.InStep script engine) (hstart : script.contains Name.start = true)
    (hfinish : script.contains Name.finish = true) :
    chat.restart.InStep script script.opened := by
  obtain ⟨text, hrestart⟩ := h.follows.restart hstart hfinish
  unfold Chat.restart
  rw [hrestart]
  have hpresent : (Chat.present { chat with
      session := ⟨script, script.opened⟩, history := [], ended := false, waitingCall := none }
      (.prompt text)).InStep script script.opened :=
    inStep_present rfl ⟨rfl, rfl⟩ (by simp)
  exact ⟨hpresent.follows, hpresent.ended, fun hhead =>
    absurd (show "restarted".toList.head? = some 'e' from hhead) (by decide)⟩

/-- A line that is no command goes into the conversation, unless that has ended. -/
theorem submitLine (h : chat.InStep script engine)
    (hsound : Engine.Sound (.callerAnswered script) engine) (line : Text) :
    (chat.submitLine line).InStep script (engine.hear (.callerAnswered script) line) := by
  unfold Chat.submitLine
  split
  next hended =>
    rw [hsound.hear_of_ended (h.ended ▸ hended)]
    exact ⟨h.follows, h.ended, fun hhead =>
      absurd (show endedStatus.head? = some 'e' from hhead) (by decide)⟩
  next hnot =>
    have hgoing : chat.ended = false := by simpa using hnot
    rcases h.follows.submit_cases hsound (h.ended ▸ hgoing) line with
      ⟨output, next, hsubmit, hnext, hended⟩ | ⟨target, next, hsubmit, hnext, hended⟩
    · rw [hsubmit]
      exact inStep_present hgoing hnext hended
    · rw [hsubmit]
      exact
        { follows := hnext
          ended := congrArg (·.ended) hnext.drained
          status := fun _ => ⟨target, rfl⟩ }

/-- A line takes a chat to where it takes the conversation. -/
theorem submit (h : chat.InStep script engine)
    (hsound : Engine.Sound (.callerAnswered script) engine)
    (hstart : script.contains Name.start = true) (hfinish : script.contains Name.finish = true)
    (line : Text) :
    ({ chat with buffer := line } : Chat).submit.2.InStep script (script.advance engine line) := by
  have hemptied : Chat.InStep script engine { chat with buffer := [] } :=
    ⟨h.follows, h.ended, h.status⟩
  unfold Chat.submit Script.advance
  dsimp only
  cases hcommand : Command.ofLine? line with
  | some command =>
    cases command with
    | help => exact ⟨h.follows, h.ended, h.status⟩
    | quit => exact hemptied
    | restart => exact hemptied.restart hstart hfinish
  | none => exact hemptied.submitLine hsound line

end InStep

/-- A chat is always in step, whether its conversation goes on or not. -/
theorem inStep_submitAll (hstart : script.contains Name.start = true)
    (hfinish : script.contains Name.finish = true) (lines : List Text) :
    ((start ⟨script, script.opened⟩).submitAll lines).InStep script
      (script.conversation lines) := by
  induction lines using List.reverseRecOn with
  | nil => exact inStep_start script
  | append_singleton lines line ih =>
    rw [Script.conversation_concat, submitAll, List.foldl_append, List.foldl_cons, List.foldl_nil]
    exact ih.submit (Script.sound_conversation hstart lines) hstart hfinish line

/-- A missing state is never mistaken for a problem of the protocol. -/
theorem problemStatus_ne_of_protocol {problem : Problem} (h : problem.kind = .protocol)
    (target : Text) :
    problemStatus "error" (.targetUnknown target) ≠ problemStatus "error" problem := by
  -- the codes differ in their first letter behind what all of them begin with
  have hmissing : (problemStatus "error" (.targetUnknown target))[13]? = some 'S' := rfl
  have hletter : ∃ c, c ≠ 'S' ∧ (problemStatus "error" problem)[13]? = some c := by
    cases problem with
    | ended => exact ⟨'E', by decide, rfl⟩
    | alreadyStarted => exact ⟨'A', by decide, rfl⟩
    | callPending name => exact ⟨'C', by decide, rfl⟩
    | notStarted => exact ⟨'N', by decide, rfl⟩
    | noPendingCall => exact ⟨'N', by decide, rfl⟩
    | _ => cases h
  obtain ⟨c, hc, hproblem⟩ := hletter
  intro heq
  rw [heq, hproblem] at hmissing
  exact hc (Option.some.inj hmissing)

/-- A chat in step has met no problem of the protocol. -/
theorem InStep.status_ne {chat : Chat} (h : chat.InStep script engine) {problem : Problem}
    (hprotocol : problem.kind = .protocol) : chat.status ≠ problemStatus "error" problem := by
  intro hstatus
  have hhead : chat.status.head? = some 'e' := by
    rw [hstatus]
    rfl
  obtain ⟨target, htarget⟩ := h.status hhead
  exact problemStatus_ne_of_protocol hprotocol target (htarget ▸ hstatus)

end Chat

/-! ## Both front ends -/

/-- Two engines in the same conversation, as far as their environments, what they wait for and
whether they have ended can tell. -/
structure Engine.Matches (one other : Engine) : Prop where
  environment : one.environment = other.environment
  output : one.currentOutput = other.currentOutput
  ended : one.ended = other.ended

/-- An engine that is followed shows the same as the session does. -/
theorem Session.Follows.toMatches {session : Session} (h : session.Follows script engine) :
    session.engine.Matches engine :=
  ⟨congrArg (·.environment) h.drained, congrArg (·.currentOutput) h.drained,
    congrArg (·.ended) h.drained⟩

/-- **Line mode and a chat lead the same conversation.** Up to the line that stops line mode, the
engines of both are the one that has heard all lines since the last restart that are no commands,
each as the result of a call if one was waited for and else as a response. Commands are never among
them, whatever blanks they stand between; and no line is ever out of turn. -/
theorem front_ends_alike {source : Text} {script : Script}
    (hcompile : Script.compile source = .ok script) :
    ∃ fresh, Engine.create (.callerAnswered script) = .ok fresh ∧
      Session.start script = .ok ⟨script, fresh⟩ ∧
      ∀ lines : List Text, (∀ line ∈ lines, '\n' ∉ line) →
        let mode := LineMode.after ⟨script, fresh⟩ lines
        let chat := (Chat.start ⟨script, fresh⟩).submitAll lines
        let heard := (spoken lines).foldl (Engine.hear (.callerAnswered script)) fresh
        ((LineMode.after ⟨script, fresh⟩ lines.dropLast).Reads →
          mode.session.engine.Matches heard ∧ chat.session.engine.Matches heard) ∧
        (∀ word ∈ [":help".toList, ":quit".toList, ":restart".toList], ∀ front back : Text,
          front.all Text.isBlank = true → back.all Text.isBlank = true →
          front ++ word ++ back ∉ spoken lines) ∧
        ∀ problem : Problem, problem.kind = .protocol →
          mode.status ≠ .failed problem ∧ chat.status ≠ Chat.problemStatus "error" problem := by
  obtain ⟨hstart, hfinish⟩ := Script.contains_of_compile hcompile
  refine ⟨script.opened, Engine.create_eq_after _ hstart hfinish,
    Session.start_eq hstart hfinish, fun lines hlines => ?_⟩
  intro mode chat heard
  have hchat : chat.InStep script heard := Chat.inStep_submitAll hstart hfinish lines
  refine ⟨fun hreads => ?_, fun word hword front back hfront hback hmem => ?_,
    fun problem hprotocol => ⟨fun hstatus => ?_, hchat.status_ne hprotocol⟩⟩
  · have hmode : mode.InStep script heard := LineMode.inStep_after hstart hfinish hlines hreads
    exact ⟨hmode.follows.toMatches, hchat.follows.toMatches⟩
  · -- a command is recognized whatever blanks it stands between
    have hnone : Command.ofLine? (front ++ word ++ back) = none := by
      simpa using (List.mem_filter.mp hmem).2
    rw [Command.ofLine?_blanks hfront hback] at hnone
    have hsome : ∀ word ∈ [":help".toList, ":quit".toList, ":restart".toList],
        Command.ofLine? word ≠ none := by decide
    exact hsome word hword hnone
  · exact (LineMode.inStep_of_reads hstart hfinish lines hlines).2 problem hstatus hprotocol

/-- A player asks for help and starts over while the result of a call is waited for, and then plays
to the end. -/
theorem front_ends_alike_restart :
    let source : Text := "start\n    Roll?\n    REST -> end\n    $call$ <- dice\n".toList
    let script : Script := Script.seeded.define Name.start
      { prompt := "Roll?".toList
        transitions := [⟨.wildcard, Name.finish⟩]
        assignments := [⟨Name.call, "dice".toList⟩]
        retry := none }
    let lines : List Text :=
      ["go".toList, " :help".toList, ":restart  ".toList, "again".toList, ['3']]
    Script.compile source = .ok script ∧
    ∃ fresh, Engine.create (.callerAnswered script) = .ok fresh ∧
      (LineMode.after ⟨script, fresh⟩ (lines.take 2)).session.engine.waitingCall
        = some "dice".toList ∧
      spoken lines = ["again".toList, ['3']] ∧
      let mode := LineMode.after ⟨script, fresh⟩ lines
      let chat := (Chat.start ⟨script, fresh⟩).submitAll lines
      let heard := (spoken lines).foldl (Engine.hear (.callerAnswered script)) fresh
      mode.status = .finished ∧ mode.session.engine.Matches heard ∧
        chat.session.engine.Matches heard := by
  intro source script lines
  have hcompile : Script.compile source = .ok script := eq_ok_of_toOption (by decide +kernel)
  obtain ⟨hstart, hfinish⟩ := Script.contains_of_compile hcompile
  obtain ⟨fresh, hcreate, -, hlines⟩ := front_ends_alike hcompile
  obtain rfl : script.opened = fresh :=
    Except.ok.inj ((Engine.create_eq_after _ hstart hfinish).symm.trans hcreate)
  have hreads : (LineMode.after ⟨script, script.opened⟩ lines.dropLast).Reads :=
    ⟨.call "dice".toList, by decide +kernel⟩
  obtain ⟨hmode, hchat⟩ := (hlines lines (by decide)).1 hreads
  exact ⟨hcompile, script.opened, hcreate, by decide +kernel, by decide, by decide +kernel, hmode,
    hchat⟩

end DialogueScript
