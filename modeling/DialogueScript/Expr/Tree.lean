import DialogueScript.Number

/-!
# Expression trees

The trees of the expression language. Nothing outside these nodes can be expressed.
-/

namespace DialogueScript.Expr

/-- The signs. -/
inductive Sign
  | plus
  | minus
  deriving DecidableEq, Repr

/-- The operators between two operands. `pow` has a meaning only between truth values, where it is
exclusive or. -/
inductive BinaryOp
  | add
  | sub
  | mul
  | div
  | mod
  | pow
  deriving DecidableEq, Repr

/-- The operators of logical chains. -/
inductive BoolOp
  | and
  | or
  deriving DecidableEq, Repr

/-- The operators of comparison chains. -/
inductive CompareOp
  | equal
  | notEqual
  | less
  | lessEqual
  | greater
  | greaterEqual
  deriving DecidableEq, Repr

/-- An expression. A chain of `and` or `or` is one node, and so is a chain of comparisons. -/
inductive Tree
  | int (value : Int64)
  | float (value : Binary64)
  | bool (value : Bool)
  | var (name : Text)
  | sign (op : Sign) (operand : Tree)
  | binary (op : BinaryOp) (left right : Tree)
  | logical (op : BoolOp) (operands : List Tree)
  | not (operand : Tree)
  | compare (first : Tree) (links : List (CompareOp × Tree))
  deriving Repr, Inhabited

end DialogueScript.Expr
