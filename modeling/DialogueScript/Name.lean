import DialogueScript.Alphabet.Classes
import DialogueScript.Text.Basic

/-!
# Names

Variable names, state keys and the names that have a meaning of their own.
-/

namespace DialogueScript.Name

/-- The variable that holds the last response. -/
def response : Text := "$response$".toList

/-- The variable that counts turns. -/
def counter : Text := "$counter$".toList

/-- The variable that holds the text matched by the last transition. -/
def lastMatch : Text := "$lm$".toList

/-- The variable whose assignment calls the host, and which then holds the result. -/
def call : Text := "$call$".toList

/-- The key of the state in which a conversation starts. -/
def start : Text := "start".toList

/-- The key of the state that ends a conversation. -/
def finish : Text := "end".toList

/-- A letter of ASCII between dollar signs, followed there by any word characters. -/
def isVariable : Text → Bool
  | '$' :: c :: rest =>
    Alphabet.isAsciiLetter c && rest.getLast? == some '$' && rest.dropLast.all Alphabet.isWord
  | _ => false

/-- One word character or more. -/
def isStateKey (t : Text) : Bool := !t.isEmpty && t.all Alphabet.isWord

/-- The variables that only the engine binds. -/
def isEngineBound (t : Text) : Bool := t == response || t == counter || t == lastMatch

end DialogueScript.Name
