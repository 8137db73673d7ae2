import DialogueScript.Session.Basic

/-!
# Chats

A session as a chat: a history of lines by two speakers, a line that is being typed, and a status.
A chat goes on after a problem and after the end of the conversation, so that the player can
restart it.
-/

namespace DialogueScript

/-- Who speaks a line of a chat. -/
inductive Speaker
  | system
  | user
  deriving DecidableEq, Repr

/-- A line of a chat. -/
structure ChatLine where
  speaker : Speaker
  text : Text
  deriving DecidableEq, Repr

/-- A chat. -/
structure Chat where
  session : Session
  history : List ChatLine
  /-- What is typed so far. -/
  buffer : Text
  status : Text
  /-- The host call whose result is asked for. -/
  waitingCall : Option Text
  ended : Bool
  helpVisible : Bool
  deriving DecidableEq

namespace Chat

/-- The status of a conversation that goes on. -/
def readyStatus : Text := "ready".toList

/-- The status of a conversation that has ended. -/
def endedStatus : Text := "conversation ended; ctrl-r restarts".toList

/-- Adds what a speaker says, line by line. -/
def say (chat : Chat) (speaker : Speaker) (text : Text) : Chat :=
  { chat with history := chat.history ++ (Text.splitAll '\n' text).map (ChatLine.mk speaker) }

/-- Shows an output. -/
def showOutput (chat : Chat) (output : Output) : Chat :=
  match output with
  | .prompt text | .retry text =>
    { chat.say .system text with status := readyStatus, waitingCall := none }
  | .call name =>
    { chat.say .system ("[call ".toList ++ name ++ "] type the result".toList) with
      status := "waiting on call ".toList ++ name
      waitingCall := some name }
  | .finish =>
    { chat.say .system "[end]".toList with
      status := endedStatus
      waitingCall := none
      ended := true }

/-- A word in front of a problem, as a status. -/
def problemStatus (word : String) (problem : Problem) : Text :=
  word.toList ++ [' '] ++ problem.code ++ ": ".toList ++ problem.message

/-- Shows an output and the last of the problems recorded on the way to it. -/
def present (chat : Chat) (output : Output) : Chat :=
  let chat := chat.showOutput output
  let (problems, session) := chat.session.takeDiagnostics
  let chat := { chat with session := session }
  match problems.getLast? with
  | some problem => { chat with status := problemStatus "warn" problem }
  | none => chat

/-- Shows a problem that stopped an operation. -/
def showProblem (chat : Chat) (problem : Problem) : Chat :=
  { chat with status := problemStatus "error" problem }

/-- A chat over a session, with its first output shown. -/
def start (session : Session) : Chat :=
  let chat : Chat :=
    { session := session
      history := []
      buffer := []
      status := readyStatus
      waitingCall := none
      ended := false
      helpVisible := false }
  match session.output with
  | .ok output => chat.present output
  | .error problem => chat.showProblem problem

/-- Adds to what is typed. -/
def type (chat : Chat) (text : Text) : Chat := { chat with buffer := chat.buffer ++ text }

/-- Starts the conversation over with an empty history. -/
def restart (chat : Chat) : Chat :=
  let (result, session) := chat.session.restart
  let chat :=
    { chat with session := session, history := [], ended := false, waitingCall := none }
  match result with
  | .ok output => { chat.present output with status := "restarted".toList }
  | .error problem => chat.showProblem problem

/-- Submits a line that is no command. -/
def submitLine (chat : Chat) (line : Text) : Chat :=
  if chat.ended then { chat with status := endedStatus }
  else
    let (result, session) := chat.session.submit line
    let chat := { chat.say .user (Text.trim line) with session := session }
    match result with
    | .ok output => chat.present output
    | .error problem => { chat.showProblem problem with ended := session.engine.ended }

/-- Submits what is typed. The first component tells whether the player asks to quit. -/
def submit (chat : Chat) : Bool × Chat :=
  let line := chat.buffer
  let chat := { chat with buffer := [] }
  match Command.ofLine? line with
  | some .quit => (true, chat)
  | some .help => (false, { chat with helpVisible := !chat.helpVisible })
  | some .restart => (false, chat.restart)
  | none => (false, chat.submitLine line)

end Chat

end DialogueScript
