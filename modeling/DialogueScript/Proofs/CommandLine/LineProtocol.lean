import DialogueScript.CommandLine.Answer
import DialogueScript.Proofs.Json.RoundTrip

/-!
# What the lines of a run tell

The lines of a transcript carry neither counts nor ends: an event's lines go on until the next event
or the final state. They tell all there is to tell nevertheless. Each line says on its own what it
is about (`Line.read?_write`), since its sign holds no colon, the code of a problem no bar, and all
other texts stand in quotes. And a listener who only ever adds to the event that came last hears the
events that were told (`Heard.note_event`, `Heard.note_events`). The rest of a line is in quotes, so
a line breaks only where a code or a key does (`Line.unbroken_write`).
-/

namespace DialogueScript.CommandLine

/-! ## One line -/

/-- The kind of output for a word. -/
def Label.ofWord? (word : Text) : Option Label :=
  [prompt, retry, call, finish].find? (·.word = word)

/-- The word of a label tells which label it is. -/
theorem Label.ofWord?_word (label : Label) : ofWord? label.word = some label := by
  cases label <;> decide

theorem Label.le_toNat_of_mem_word (label : Label) : ∀ c ∈ label.word, 32 ≤ c.toNat := by
  have hall : label.word.all (32 ≤ ·.toNat) = true := by cases label <;> decide
  simpa using hall

/-- What a line is about. -/
inductive Sign
  | event
  | text
  | callName
  | problem
  | state
  deriving DecidableEq

namespace Sign

/-- The word at the front of a line. -/
def word : Sign → Text
  | event => "EVENT".toList
  | text => "TEXT_JSON".toList
  | callName => "NAME_JSON".toList
  | problem => "DIAG".toList
  | state => "STATE".toList

/-- What a line with this word at its front is about. -/
def ofWord? (word : Text) : Option Sign :=
  [event, text, callName, problem, state].find? (·.word = word)

theorem ofWord?_word (sign : Sign) : ofWord? sign.word = some sign := by
  cases sign <;> decide

/-- No sign has a colon, so the first colon ends it. -/
theorem notMem_word (sign : Sign) : ':' ∉ sign.word := by
  cases sign <;> decide

theorem le_toNat_of_mem_word (sign : Sign) : ∀ c ∈ sign.word, 32 ≤ c.toNat := by
  have hall : sign.word.all (32 ≤ ·.toNat) = true := by cases sign <;> decide
  simpa using hall

end Sign

/-- What a line tells. -/
inductive Line
  | event (label : Label)
  | text (t : Text)
  | callName (name : Text)
  | problem (code message : Text)
  | state (key : Text)

namespace Line

/-- What a line is about. -/
def sign : Line → Sign
  | event _ => .event
  | text _ => .text
  | callName _ => .callName
  | problem _ _ => .problem
  | state _ => .state

/-- What stands behind the word at the front. -/
def value : Line → Text
  | event label => label.word
  | text t => Json.quote t
  | callName name => Json.quote name
  | problem code message => code ++ '|' :: Json.quote message
  | state key => key

/-- The line as it is written. -/
def write (line : Line) : Text := line.sign.word ++ ':' :: line.value

/-- What a text in quotes says. -/
def unquote? (t : Text) : Option Text := (Json.parse t).bind Json.text?

/-- What a line tells, from what it is about and what stands behind the word for that. -/
def ofValue? : Sign → Text → Option Line
  | .event, value => (Label.ofWord? value).map event
  | .text, value => (unquote? value).map text
  | .callName, value => (unquote? value).map callName
  | .problem, value =>
    (Text.splitOnce ['|'] value).bind fun parts => (unquote? parts.2).map (problem parts.1)
  | .state, value => some (state value)

/-- What a line tells. -/
def read? (line : Text) : Option Line := do
  let (word, value) ← Text.splitOnce [':'] line
  let sign ← Sign.ofWord? word
  ofValue? sign value

/-- There is no bar in a code. -/
def Barless : Line → Prop
  | problem code _ => '|' ∉ code
  | _ => True

/-- A quoted text is read back. -/
theorem unquote?_quote (t : Text) : unquote? (Json.quote t) = some t := by
  have hplain : (Json.text t).isPlain = true := rfl
  have hparse : Json.parse (Json.quote t) = some (.text t) := Json.parse_compact hplain
  rw [unquote?, hparse]
  rfl

/-- The value of a line is read back, if the code in it has no bar. -/
theorem ofValue?_value {line : Line} (h : line.Barless) :
    ofValue? line.sign line.value = some line := by
  cases line with
  | event label => exact congrArg (Option.map event) label.ofWord?_word
  | text t => exact congrArg (Option.map text) (unquote?_quote t)
  | callName name => exact congrArg (Option.map callName) (unquote?_quote name)
  | problem code message =>
    simp only [sign, value, ofValue?, Text.splitOnce_of_notMem h, Option.bind_some,
      unquote?_quote, Option.map_some]
  | state key => rfl

/-- A line that was written tells what it was written for. -/
theorem read?_write {line : Line} (h : line.Barless) : read? line.write = some line := by
  simp only [read?, write, Text.splitOnce_of_notMem line.sign.notMem_word, Option.bind_eq_bind,
    Option.bind_some, Sign.ofWord?_word, ofValue?_value h]

/-- What stands in a line as it is. -/
def raw : Line → Text
  | problem code _ => code
  | state key => key
  | _ => []

/-- A control character stands in a line only if it stands there as it is. -/
theorem notMem_write {line : Line} {c : Char} (hc : c.toNat < 32) (hraw : c ∉ line.raw) :
    c ∉ line.write := by
  have hplain {t : Text} (ht : ∀ d ∈ t, 32 ≤ d.toNat) : c ∉ t := fun hmem =>
    Nat.not_lt.mpr (ht c hmem) hc
  have hquote (t : Text) : c ∉ Json.quote t := hplain fun _ => Json.le_toNat_of_mem_quote
  have hcolon : c ≠ ':' := by
    rintro rfl
    exact absurd hc (by decide)
  have hbar : c ≠ '|' := by
    rintro rfl
    exact absurd hc (by decide)
  -- quotes escape control characters, and words have none
  have hvalue : c ∉ line.value := by
    cases line with
    | event label => exact hplain label.le_toNat_of_mem_word
    | text t => exact hquote t
    | callName name => exact hquote name
    | problem code message =>
      rw [value, List.mem_append, List.mem_cons]
      exact not_or.mpr ⟨hraw, not_or.mpr ⟨hbar, hquote message⟩⟩
    | state key => exact hraw
  rw [write, List.mem_append, List.mem_cons]
  exact not_or.mpr ⟨hplain line.sign.le_toNat_of_mem_word, not_or.mpr ⟨hcolon, hvalue⟩⟩

end Line

/-- What the lines about an event tell. -/
def Event.said (event : Event) : List Line :=
  [.event event.label] ++ (event.text.map .text).toList ++ (event.callName.map .callName).toList ++
    event.problems.map fun problem => .problem problem.code problem.message

/-- What the lines of a transcript tell behind the first. -/
def Transcript.said (transcript : Transcript) : List Line :=
  transcript.events.flatMap (·.said) ++ [.state transcript.finalState]

/-- The lines of an event are those of what it says. -/
theorem Transcript.eventLines_eq (event : Event) :
    eventLines event = event.said.map Line.write := by
  simp only [eventLines, Event.said, List.map_append, List.map_map]
  cases event.text <;> cases event.callName <;> rfl

/-- The lines of a transcript are the result and then all that it says. -/
theorem Transcript.lines_eq (transcript : Transcript) :
    transcript.lines = "RESULT:OK".toList :: transcript.said.map Line.write := by
  rw [lines, said, List.map_append, List.map_flatMap, funext eventLines_eq]
  rfl

/-! ## All lines -/

/-- What is told about an event: of a problem just its code and its wording. -/
structure Told where
  label : Label
  text : Option Text
  callName : Option Text
  problems : List (Text × Text)
  deriving DecidableEq, Repr

/-- Adds problems, each by its code and its wording. -/
def Told.add (told : Told) (problems : List (Text × Text)) : Told :=
  { told with problems := told.problems ++ problems }

/-- What is told about a conversation. -/
structure Account where
  events : List Told
  finalState : Text
  deriving DecidableEq, Repr

/-- What is told about an event. -/
def Event.told (event : Event) : Told where
  label := event.label
  text := event.text
  callName := event.callName
  problems := event.problems.map fun problem => (problem.code, problem.message)

/-- What is told about a transcript. -/
def Transcript.account (transcript : Transcript) : Account where
  events := transcript.events.map (·.told)
  finalState := transcript.finalState

/-- What was heard, the last event first. -/
structure Heard where
  events : List Told
  finalState : Option Text

namespace Heard

/-- Adds to the event that came last. -/
def amend (heard : Heard) (f : Told → Told) : Option Heard :=
  match heard.events with
  | [] => none
  | last :: events => some { heard with events := f last :: events }

/-- Takes in what a line tells. -/
def note (heard : Heard) : Line → Option Heard
  | .event label => some { heard with events := ⟨label, none, none, []⟩ :: heard.events }
  | .text t => heard.amend fun last => { last with text := some t }
  | .callName name => heard.amend fun last => { last with callName := some name }
  | .problem code message => heard.amend (·.add [(code, message)])
  | .state key => some { heard with finalState := some key }

/-- Takes in a line. -/
def hear (heard : Heard) (line : Text) : Option Heard := (Line.read? line).bind heard.note

end Heard

/-- What the lines of a run tell. -/
def Account.read? : List Text → Option Account
  | [] => none
  | first :: lines =>
    if first = "RESULT:OK".toList then do
      let heard ← lines.foldlM Heard.hear ⟨[], none⟩
      let finalState ← heard.finalState
      return ⟨heard.events.reverse, finalState⟩
    else none

namespace Heard

/-- Hearing lines that were written is noting what they say. -/
theorem foldlM_hear_write {lines : List Line} (h : ∀ line ∈ lines, line.Barless) (heard : Heard) :
    (lines.map Line.write).foldlM hear heard = lines.foldlM note heard := by
  rw [List.foldlM_map]
  induction lines generalizing heard with
  | nil => rfl
  | cons line lines ih =>
    obtain ⟨hline, hlines⟩ := List.forall_mem_cons.mp h
    rw [List.foldlM_cons, List.foldlM_cons, hear, Line.read?_write hline, Option.bind_some]
    exact bind_congr fun heard => ih hlines heard

variable (events : List Told) (finalState : Option Text)

/-- The problems go to the event that came last. -/
theorem note_problems (last : Told) (problems : List Problem) :
    (problems.map fun problem => Line.problem problem.code problem.message).foldlM note
        ⟨last :: events, finalState⟩
      = some ⟨last.add (problems.map fun problem => (problem.code, problem.message)) :: events,
          finalState⟩ := by
  induction problems generalizing last with
  | nil => simp [Told.add]
  | cons problem problems ih =>
    rw [List.map_cons, List.foldlM_cons, note, amend]
    simp [ih, Told.add]

/-- An event is heard as it was told. -/
theorem note_event (event : Event) :
    event.said.foldlM note ⟨events, finalState⟩ = some ⟨event.told :: events, finalState⟩ := by
  obtain ⟨label, text, callName, problems⟩ := event
  -- the line that begins the event, and those for the parts that it has
  have houtput : ([Line.event label] ++ (text.map Line.text).toList ++
      (callName.map Line.callName).toList).foldlM note ⟨events, finalState⟩
        = some ⟨⟨label, text, callName, []⟩ :: events, finalState⟩ := by
    cases text <;> cases callName <;> rfl
  rw [Event.said, List.foldlM_append, houtput]
  exact note_problems events finalState ⟨label, text, callName, []⟩ problems

/-- The events are heard as they were told, one after the other. -/
theorem note_events (told : List Event) :
    (told.flatMap (·.said)).foldlM note ⟨events, finalState⟩
      = some ⟨(told.map (·.told)).reverse ++ events, finalState⟩ := by
  induction told generalizing events with
  | nil => rfl
  | cons event told ih =>
    rw [List.flatMap_cons, List.foldlM_append, note_event]
    simp [ih]

end Heard

/-! ## Transcripts that read back -/

/-- There is no line break in the text. -/
structure Unbroken (t : Text) : Prop where
  feed : '\n' ∉ t
  carriageReturn : '\r' ∉ t

instance (t : Text) : Decidable (Unbroken t) :=
  decidable_of_iff ('\n' ∉ t ∧ '\r' ∉ t) ⟨fun h => ⟨h.1, h.2⟩, fun h => ⟨h.1, h.2⟩⟩

/-- Codes hold neither bars nor line breaks, and the final state no line breaks. -/
structure Transcript.Clean (transcript : Transcript) : Prop where
  code : ∀ event ∈ transcript.events, ∀ problem ∈ event.problems,
    '|' ∉ problem.code ∧ Unbroken problem.code
  finalState : Unbroken transcript.finalState

/-- A line breaks only where it holds a text that is not in quotes. -/
theorem Line.unbroken_write {line : Line} (h : Unbroken line.raw) : Unbroken line.write where
  feed := notMem_write (by decide) h.feed
  carriageReturn := notMem_write (by decide) h.carriageReturn

namespace Transcript

variable {transcript : Transcript}

/-- Lines about problems and states are the only ones to hold a text that is not in quotes. -/
theorem said_cases {line : Line} (h : line ∈ transcript.said) :
    line.raw = [] ∧ line.Barless ∨
    (∃ event ∈ transcript.events, ∃ problem ∈ event.problems,
      line = .problem problem.code problem.message) ∨
    line = .state transcript.finalState := by
  rcases List.mem_append.mp h with hevents | hstate
  · obtain ⟨event, hevent, hline⟩ := List.mem_flatMap.mp hevents
    simp only [Event.said, List.mem_append, List.mem_singleton, Option.mem_toList,
      Option.map_eq_some_iff, List.mem_map] at hline
    rcases hline with ((rfl | ⟨_, -, rfl⟩) | ⟨_, -, rfl⟩) | ⟨problem, hproblem, rfl⟩
    · exact .inl ⟨rfl, trivial⟩
    · exact .inl ⟨rfl, trivial⟩
    · exact .inl ⟨rfl, trivial⟩
    · exact .inr (.inl ⟨event, hevent, problem, hproblem, rfl⟩)
  · exact .inr (.inr (List.mem_singleton.mp hstate))

/-- In a clean transcript no code has a bar. -/
theorem Clean.barless (h : transcript.Clean) : ∀ line ∈ transcript.said, line.Barless := by
  intro line hline
  rcases said_cases hline with ⟨-, hbarless⟩ | ⟨event, hevent, problem, hproblem, rfl⟩ | rfl
  · exact hbarless
  · exact (h.code event hevent problem hproblem).1
  · trivial

theorem Clean.unbroken_raw (h : transcript.Clean) :
    ∀ line ∈ transcript.said, Unbroken line.raw := by
  intro line hline
  rcases said_cases hline with ⟨hraw, -⟩ | ⟨event, hevent, problem, hproblem, rfl⟩ | rfl
  · rw [hraw]
    exact ⟨List.not_mem_nil, List.not_mem_nil⟩
  · exact (h.code event hevent problem hproblem).2
  · exact h.finalState

/-- No line of a clean transcript is broken, since quotes escape what would break it. -/
theorem Clean.unbroken (h : transcript.Clean) : ∀ line ∈ transcript.lines, Unbroken line := by
  rw [lines_eq, List.forall_mem_cons, List.forall_mem_map]
  exact ⟨by decide, fun line hline => Line.unbroken_write (h.unbroken_raw line hline)⟩

/-- The lines read back. -/
theorem Clean.read?_lines (h : transcript.Clean) :
    Account.read? transcript.lines = some transcript.account := by
  -- nothing was heard at first, so the events come out last first and are turned around
  have hheard : (transcript.said.map Line.write).foldlM Heard.hear ⟨[], none⟩
      = some ⟨(transcript.events.map (·.told)).reverse, some transcript.finalState⟩ := by
    rw [Heard.foldlM_hear_write h.barless, said, List.foldlM_append, Heard.note_events,
      List.append_nil]
    rfl
  rw [lines_eq, Account.read?, if_pos rfl, hheard]
  simp [account]

/-- The text that is written has just these lines. -/
theorem Clean.lines_written (h : transcript.Clean) :
    Text.lines (Answer.ofLines transcript.lines).written = transcript.lines :=
  Text.lines_flatMap (fun line hline => (h.unbroken line hline).feed) fun line hline hlast =>
    (h.unbroken line hline).carriageReturn (List.mem_of_getLast? hlast)

end Transcript

/-- **The lines of a run tell all of it.** If no code holds a bar or a line break and the final
state no line break, then no line breaks within, and the lines are just those of the text that is
written. Whoever reads them one after the other learns each event with what it shows or calls, the
code and the wording of each problem at its event, and the final state. So two transcripts with the
same lines do not differ in any of that. -/
theorem transcripts_read_back (transcript : Transcript) (h : transcript.Clean) :
    (∀ line ∈ transcript.lines, Unbroken line) ∧
    Text.lines (Answer.ofLines transcript.lines).written = transcript.lines ∧
    Account.read? transcript.lines = some transcript.account ∧
    ∀ other : Transcript, other.Clean → other.lines = transcript.lines →
      other.account = transcript.account := by
  refine ⟨h.unbroken, h.lines_written, h.read?_lines, fun other hother hlines => ?_⟩
  -- one reading of the same lines for both
  have hread := hother.read?_lines
  rw [hlines, h.read?_lines] at hread
  exact (Option.some.inj hread).symm

/-- A text that looks like lines of its own, as a prompt and as the wording of a problem, and a code
with a colon. -/
theorem transcripts_read_back_lookalike :
    let lookalike : Text := "?\nSTATE:end\nDIAG:A|\"b\"".toList
    let problem : Problem := .hostCall ⟨.host, "EVENT:END".toList, lookalike⟩ "roll".toList
    let transcript : Transcript :=
      ⟨[.ofOutput (.prompt lookalike) [problem, .ended], .ofOutput (.call ['"']) [problem],
        .ofOutput .finish []], "STATE:".toList⟩
    transcript.Clean ∧
    transcript.lines = [
      "RESULT:OK".toList,
      "EVENT:PROMPT".toList,
      "TEXT_JSON:\"?\\nSTATE:end\\nDIAG:A|\\\"b\\\"\"".toList,
      "DIAG:EVENT:END|\"?\\nSTATE:end\\nDIAG:A|\\\"b\\\"\"".toList,
      "DIAG:ENGINE_ENDED|\"Conversation has already ended.\"".toList,
      "EVENT:CALL".toList,
      "NAME_JSON:\"\\\"\"".toList,
      "DIAG:EVENT:END|\"?\\nSTATE:end\\nDIAG:A|\\\"b\\\"\"".toList,
      "EVENT:END".toList,
      "STATE:STATE:".toList] ∧
    Account.read? transcript.lines = some ⟨[
      ⟨.prompt, some lookalike, none,
        [("EVENT:END".toList, lookalike),
          ("ENGINE_ENDED".toList, "Conversation has already ended.".toList)]⟩,
      ⟨.call, none, some ['"'], [("EVENT:END".toList, lookalike)]⟩,
      ⟨.finish, none, none, []⟩], "STATE:".toList⟩ := by
  intro lookalike problem transcript
  have hclean : transcript.Clean := ⟨by decide, by decide⟩
  obtain ⟨-, -, hread, -⟩ := transcripts_read_back transcript hclean
  exact ⟨hclean, by decide, hread⟩

end DialogueScript.CommandLine
