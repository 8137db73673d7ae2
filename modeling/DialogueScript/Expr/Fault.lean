import DialogueScript.Expr.Token

/-!
# Faults of expressions

What can be wrong with an expression, from its characters to its evaluation.
-/

namespace DialogueScript.Expr

/-- The kinds of expression. -/
inductive Kind
  | boolean
  | numeric
  deriving DecidableEq, Repr

/-- The word for a kind. -/
def Kind.name : Kind → String
  | boolean => "boolean"
  | numeric => "numeric"

/-- The deepest nesting that is read. Parentheses, `not`, signs, exponents of `**` and each link
of a chain of sums or products open one level. -/
def maxNesting : Nat := 200

/-- The causes of failure. -/
inductive Fault
  | unexpectedCharacter (c : Char) (offset : Nat)
  | malformedVariable (offset : Nat)
  | unterminatedVariable (offset : Nat)
  | malformedNumber (offset : Nat)
  | integerTooLarge (digits : Text)
  | unexpectedEnd
  | nameNotAllowed (name : Text) (offset : Nat)
  | unexpectedToken (token : Token) (offset : Nat)
  | tooDeep
  | wrongKind (expected : Kind)
  | wrongOperand (expected : Kind)
  | unbound (name : Text)
  | overflow
  | divisionByZero
  deriving DecidableEq, Repr

namespace Fault

/-- The code under which a fault is reported. -/
def code : Fault → String
  | unexpectedCharacter _ _ | malformedVariable _ | unterminatedVariable _ | malformedNumber _ =>
    "EXPR_SYNTAX"
  | unexpectedEnd | nameNotAllowed _ _ | unexpectedToken _ _ => "EXPR_SYNTAX"
  | integerTooLarge _ | overflow => "EXPR_OVERFLOW"
  | tooDeep => "EXPR_TOO_DEEP"
  | wrongKind _ | wrongOperand _ => "EXPR_KIND"
  | unbound _ => "EXPR_UNBOUND_VARIABLE"
  | divisionByZero => "EXPR_DIVISION_BY_ZERO"

/-- The wording of a fault. -/
def message : Fault → String
  | unexpectedCharacter c offset => s!"Unexpected character '{c}' at offset {offset}."
  | malformedVariable offset => s!"Malformed variable at offset {offset}."
  | unterminatedVariable offset => s!"Unterminated variable at offset {offset}."
  | malformedNumber offset => s!"Malformed number at offset {offset}."
  | integerTooLarge digits => s!"Integer literal \"{String.ofList digits}\" is out of range."
  | unexpectedEnd => "Unexpected end of expression."
  | nameNotAllowed name offset =>
    s!"Name \"{String.ofList name}\" is not allowed at offset {offset}."
  | unexpectedToken token offset =>
    s!"Unexpected token {String.ofList token.label} at offset {offset}."
  | tooDeep => s!"Expression nests deeper than {maxNesting} levels."
  | wrongKind expected => s!"Expression is not a valid {expected.name} expression."
  | wrongOperand expected => s!"Expected a {expected.name} operand."
  | unbound name => s!"Variable {String.ofList name} has no value here."
  | overflow => "Integer arithmetic overflowed."
  | divisionByZero => "Division by zero."

end Fault

end DialogueScript.Expr
