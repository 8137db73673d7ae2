import DialogueScript.Proofs.Engine.Answers
import DialogueScript.Proofs.Engine.Presentation
import DialogueScript.Session.Basic

/-!
# The conversation behind a session

A player who types lines leads a conversation: a command is none of its business, except that
restarting begins it anew, and any other line goes to the engine, as the result of a call if one is
waited for and as a response otherwise. `Script.conversation` is the engine after all the lines;
it says nothing of sessions and of what shows them.

A session follows this conversation (`Session.Follows`): its engine differs in the recorded problems
at most, whoever takes them away. No line is ever out of turn (`Session.Follows.submit_cases`).
-/

namespace DialogueScript

/-! ## Lines -/

/-- What a line that is no command means to an engine. -/
def Operation.ofLine (engine : Engine) (line : Text) : Operation :=
  match engine.waitingCall with
  | some _ => .completeCall (Text.trim line)
  | none => .respond (Text.trim line)

/-- Every spoken line moves the engine. -/
theorem Operation.moves_ofLine (engine : Engine) (line : Text) :
    (ofLine engine line).moves = true := by
  unfold ofLine
  split <;> rfl

/-- The engine after a line that is no command. -/
def Engine.hear (settings : Settings) (engine : Engine) (line : Text) : Engine :=
  ((Operation.ofLine engine line).perform settings engine).2

/-- The lines since the last one that restarts the conversation. -/
def sinceRestart (lines : List Text) : List Text :=
  (lines.reverse.takeWhile fun line => Command.ofLine? line != some .restart).reverse

/-- The lines that go into the present conversation. -/
def spoken (lines : List Text) : List Text :=
  (sinceRestart lines).filter fun line => Command.ofLine? line == none

/-- The engine of a conversation that has just begun. -/
def Script.opened (script : Script) : Engine :=
  (History.after (.callerAnswered script) [.start]).engine

/-- The engine after lines have been typed. -/
def Script.conversation (script : Script) (lines : List Text) : Engine :=
  (spoken lines).foldl (Engine.hear (.callerAnswered script)) script.opened

/-- The engine after one line more. -/
def Script.advance (script : Script) (engine : Engine) (line : Text) : Engine :=
  match Command.ofLine? line with
  | some .restart => script.opened
  | some .help | some .quit => engine
  | none => engine.hear (.callerAnswered script) line

@[simp] theorem Script.ended_opened (script : Script) : script.opened.ended = false := rfl

/-- A restart forgets what was spoken, and other commands are not spoken. -/
theorem spoken_concat (lines : List Text) (line : Text) :
    spoken (lines ++ [line]) = match Command.ofLine? line with
      | some .restart => []
      | some .help | some .quit => spoken lines
      | none => spoken lines ++ [line] := by
  unfold spoken sinceRestart
  rw [List.reverse_append, List.reverse_singleton, List.singleton_append, List.takeWhile_cons]
  -- seen from the end, the line is kept or cuts off all that stands before it
  cases hcommand : Command.ofLine? line with
  | none => simp [hcommand]
  | some command => cases command <;> simp [hcommand]

/-- One line more advances the conversation so far. -/
theorem Script.conversation_concat (script : Script) (lines : List Text) (line : Text) :
    script.conversation (lines ++ [line]) = script.advance (script.conversation lines) line := by
  unfold conversation advance
  rw [spoken_concat]
  split
  · rfl
  · rfl
  · rfl
  · rw [List.foldl_append, List.foldl_cons, List.foldl_nil]

/-- A command is recognized between blanks. -/
theorem Command.ofLine?_blanks {front back : Text} (hfront : front.all Text.isBlank = true)
    (hback : back.all Text.isBlank = true) (line : Text) :
    ofLine? (front ++ line ++ back) = ofLine? line := by
  unfold ofLine?
  rw [Text.trim_append_right hback, Text.trim_append hfront]

/-! ## The engine -/

/-- A conversation that has started waits unless it has ended. -/
structure Engine.Sound (settings : Settings) (engine : Engine) : Prop
    extends Coherent settings engine where
  boundary_eq_none_iff : engine.boundary = none ↔ engine.ended = true

namespace Engine

variable {settings : Settings} {engine : Engine}

/-- A conversation that has settled is sound. -/
theorem Settles.sound {result : Result} (h : Settles settings result) : Sound settings result.2 :=
  ⟨h.toCoherent, h.boundary_eq_none_iff⟩

/-- A line is never out of turn while the conversation goes on. -/
theorem Sound.settles_ofLine (h : Sound settings engine) (hgoing : engine.ended = false)
    (line : Text) :
    ∃ result, (Operation.ofLine engine line).perform settings engine = (.moved result.1, result.2) ∧
      Settles settings result := by
  -- what the engine waits for decides what the line means, so it always fits
  cases hboundary : engine.boundary with
  | none =>
    rw [h.boundary_eq_none_iff.mp hboundary] at hgoing
    cases hgoing
  | some boundary =>
    cases boundary with
    | response output =>
      have hnone : engine.responseProblem? = none :=
        responseProblem?_eq_none_iff.mpr ⟨hgoing, output, hboundary⟩
      have hline : Operation.ofLine engine line = .respond (Text.trim line) := by
        rw [Operation.ofLine, waitingCall, hboundary]
      exact ⟨_, by rw [hline]; rfl, h.settles_respond _ hnone⟩
    | call name turn =>
      have hline : Operation.ofLine engine line = .completeCall (Text.trim line) := by
        rw [Operation.ofLine, waitingCall, hboundary]
      exact ⟨_, by rw [hline]; rfl, h.settles_completeCall hgoing hboundary _⟩

/-- After the end a line comes to nothing. -/
theorem Sound.hear_of_ended (h : Sound settings engine) (hended : engine.ended = true)
    (line : Text) : engine.hear settings line = engine := by
  have hover : Over engine := ⟨hended, h.boundary_eq_none_iff.mpr hended⟩
  have hrefuses : Refuses settings engine (Operation.ofLine engine line) :=
    hover.refuses (Operation.moves_ofLine engine line)
  obtain ⟨problem, -, hperform⟩ := hrefuses
  rw [hear, hperform]

/-- Hearing a line keeps the engine sound, also after the end. -/
theorem Sound.hear (h : Sound settings engine) (line : Text) :
    Sound settings (engine.hear settings line) := by
  cases hended : engine.ended with
  | true => rwa [h.hear_of_ended hended]
  | false =>
    obtain ⟨result, hperform, hsettles⟩ := h.settles_ofLine hended line
    rw [Engine.hear, hperform]
    exact hsettles.sound

end Engine

/-! ## The session -/

section Opened

variable {script : Script}

/-- A script that was opened is sound. -/
theorem Script.sound_opened (hstart : script.contains Name.start = true) :
    Engine.Sound (.callerAnswered script) script.opened := by
  have hconsistent : (History.after (.callerAnswered script) [.start]).Consistent
      (.callerAnswered script) :=
    (History.consistent_empty hstart).extend .start
  have hstarted : (History.after (.callerAnswered script) [.start]).Started :=
    ⟨_, List.mem_cons_self ..⟩
  exact ⟨hconsistent.toCoherent,
    hconsistent.boundary_eq_none_iff.trans (or_iff_left (not_not_intro hstarted))⟩

theorem Script.sound_conversation (hstart : script.contains Name.start = true)
    (lines : List Text) : Engine.Sound (.callerAnswered script) (script.conversation lines) := by
  have hfold : ∀ (spoken : List Text) {engine : Engine},
      Engine.Sound (.callerAnswered script) engine → Engine.Sound (.callerAnswered script)
        (spoken.foldl (Engine.hear (.callerAnswered script)) engine) := by
    intro spoken
    induction spoken with
    | nil => exact fun h => h
    | cons line rest ih => exact fun h => ih (h.hear line)
  exact hfold (spoken lines) (script.sound_opened hstart)

end Opened

namespace Session

/-- The session leads a conversation that has come to an engine. -/
structure Follows (script : Script) (engine : Engine) (session : Session) : Prop where
  script : session.script = script
  drained : session.engine.takeDiagnostics.2 = engine.takeDiagnostics.2

variable {script : Script} {engine : Engine} {session : Session}

/-- Taking the problems away does not matter, since followers agree up to them. -/
theorem Follows.takeDiagnostics (h : Follows script engine session) :
    Follows script engine session.takeDiagnostics.2 :=
  ⟨h.script, h.drained⟩

/-- The session does with a line what it means to the engine. -/
theorem submit_eq (session : Session) (line : Text) :
    (Operation.ofLine session.engine line).perform session.settings session.engine
      = (.moved (session.submit line).1, (session.submit line).2.engine) ∧
    (session.submit line).2.script = session.script := by
  unfold Operation.ofLine submit
  cases session.engine.waitingCall <;> exact ⟨rfl, rfl⟩

/-- A session hears a line as the engine that it follows does. -/
theorem Follows.submit (h : Follows script engine session) {line : Text}
    {answer : Except Problem Output} {after : Engine}
    (hperform : (Operation.ofLine engine line).perform (.callerAnswered script) engine
      = (.moved answer, after)) :
    ∃ next, session.submit line = (answer, next) ∧ Follows script after next := by
  obtain ⟨hsubmit, hscript⟩ := session.submit_eq line
  have hline : Operation.ofLine session.engine line = Operation.ofLine engine line := by
    have hwaiting := congrArg Engine.waitingCall h.drained
    unfold Operation.ofLine
    rw [show session.engine.waitingCall = engine.waitingCall from hwaiting]
  have hsettings : session.settings = .callerAnswered script := by rw [settings, h.script]
  obtain ⟨hanswer, hafter⟩ := Engine.perform_of_drained_eq (.callerAnswered script) h.drained
    (Operation.moves_ofLine engine line)
  rw [hline, hsettings] at hsubmit
  rw [hsubmit, hperform] at hanswer hafter
  simp only [Reply.moved.injEq] at hanswer
  exact ⟨_, Prod.ext hanswer rfl, hscript.trans h.script, hafter⟩

/-- A line that goes into a conversation gives an output, or misses a state, which ends the
conversation. It is never out of turn. -/
theorem Follows.submit_cases (h : Follows script engine session)
    (hsound : Engine.Sound (.callerAnswered script) engine) (hgoing : engine.ended = false)
    (line : Text) :
    (∃ output next, session.submit line = (.ok output, next) ∧
      Follows script (engine.hear (.callerAnswered script) line) next ∧
      ((engine.hear (.callerAnswered script) line).ended = true ↔ output = .finish)) ∨
    (∃ target next, session.submit line = (.error (.targetUnknown target), next) ∧
      Follows script (engine.hear (.callerAnswered script) line) next ∧
      (engine.hear (.callerAnswered script) line).ended = true) := by
  obtain ⟨⟨answer, after⟩, hperform, hsettles⟩ := hsound.settles_ofLine hgoing line
  obtain ⟨next, hsubmit, hfollows⟩ := h.submit hperform
  have hafter : engine.hear (.callerAnswered script) line = after := congrArg Prod.snd hperform
  rw [hafter]
  cases answer with
  | ok output =>
    exact .inl ⟨output, next, hsubmit, hfollows, Engine.ended_iff_of_moved hgoing hperform⟩
  | error problem =>
    obtain ⟨hended, target, rfl⟩ := hsettles.of_error problem rfl
    exact .inr ⟨target, next, hsubmit, hfollows, hended⟩

/-- What a conversation begins with is a prompt. -/
theorem exists_output_opened (script : Script) :
    ∃ text, output ⟨script, script.opened⟩ = .ok (.prompt text) := by
  obtain ⟨text, houtput, -⟩ := Engine.exists_started (.callerAnswered script)
  exact ⟨text, houtput⟩

/-- A session that is started, and one that is started over. -/
theorem start_eq (hstart : script.contains Name.start = true)
    (hfinish : script.contains Name.finish = true) :
    start script = .ok ⟨script, script.opened⟩ := by
  rw [start, Engine.create_eq_after (.callerAnswered script) hstart hfinish]
  rfl

/-- A restart leads every session to the same place. -/
theorem Follows.restart (h : Follows script engine session)
    (hstart : script.contains Name.start = true) (hfinish : script.contains Name.finish = true) :
    ∃ text, session.restart = (.ok (.prompt text), ⟨script, script.opened⟩) := by
  rw [Session.restart, h.script, start_eq hstart hfinish]
  exact ⟨_, rfl⟩

end Session

end DialogueScript
