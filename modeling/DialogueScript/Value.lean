import DialogueScript.Number

/-!
# Values

What a variable of a conversation can hold.
-/

namespace DialogueScript

/-- A boolean, a number or a text. -/
inductive Value
  | bool (value : Bool)
  | number (value : Number)
  | text (value : Text)
  deriving DecidableEq, Repr, Inhabited

/-- The kinds of value. -/
inductive Value.Kind
  | boolean
  | number
  | text
  deriving DecidableEq, Repr

namespace Value

/-- The kind of a value. -/
def kind : Value → Kind
  | bool _ => .boolean
  | number _ => .number
  | text _ => .text

/-- The name of a kind. -/
def Kind.name : Kind → String
  | boolean => "boolean"
  | number => "number"
  | text => "string"

/-- The text of a truth value. -/
def boolText (b : Bool) : Text :=
  if b then ['t', 'r', 'u', 'e'] else ['f', 'a', 'l', 's', 'e']

/-- The text that stands for a value in prompts and expressions. -/
def display : Value → Text
  | bool b => boolText b
  | number n => n.text
  | text t => t

/-- The truth value, if it is one. -/
def bool? : Value → Option Bool
  | bool b => some b
  | _ => none

/-- The number, if it is one. -/
def number? : Value → Option Number
  | number n => some n
  | _ => none

/-- The text, if it is one. -/
def text? : Value → Option Text
  | text t => some t
  | _ => none

end Value

end DialogueScript
