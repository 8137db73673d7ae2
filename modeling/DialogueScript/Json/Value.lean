import DialogueScript.Json.Writer
import DialogueScript.Value

/-!
# Values as JSON
-/

namespace DialogueScript

/-- The form in which JSON texts show doubles: exponents below `0.00001` and from `1e16`, with
their sign. -/
def Json.floatLayout : Decimal.Layout :=
  { positionalFrom := some (-5)
    positionalBelow := 16
    plusSign := true
    tie := .even
    nan := "null".toList }

/-- A value in its JSON form. -/
def Value.jsonText : Value → Text
  | bool b => boolText b
  | number (.int i) => Text.ofInt i.toInt
  | number (.float x) => Json.floatLayout.write x
  | text t => Json.quote t

/-- A value from JSON. -/
def Value.ofJson? : Json → Option Value
  | .bool b => some (bool b)
  | .number literal => literal.value?.map number
  | .text t => some (text t)
  | _ => none

/-- The values of an array. -/
def Value.listOfJson? (json : Json) : Option (List Value) := do
  (← json.items?).mapM ofJson?

end DialogueScript
