import DialogueScript.Expr.Parser

/-!
# Kinds of expression

Which trees are boolean and which are numeric expressions, by their nodes alone. A variable is
both, since its value is not known yet.
-/

namespace DialogueScript.Expr

mutual

/-- Is the tree built only from nodes of this kind? -/
def Tree.conforms (kind : Kind) : Tree → Bool
  | .var _ => true
  | .bool _ => kind == .boolean
  | .int _ | .float _ => kind == .numeric
  | .sign _ operand => kind == .numeric && operand.conforms .numeric
  | .binary op left right =>
    match op, kind with
    | .pow, .boolean => left.conforms .boolean && right.conforms .boolean
    | .pow, .numeric => false
    | _, .boolean => false
    | _, .numeric => left.conforms .numeric && right.conforms .numeric
  | .logical _ operands => kind == .boolean && allConform .boolean operands
  | .not operand => kind == .boolean && operand.conforms .boolean
  | .compare first links =>
    kind == .boolean && first.conforms .numeric && allLinksConform links

/-- Are all the trees built only from nodes of this kind? -/
def allConform (kind : Kind) : List Tree → Bool
  | [] => true
  | tree :: rest => tree.conforms kind && allConform kind rest

/-- Are the operands of all links numeric? -/
def allLinksConform : List (CompareOp × Tree) → Bool
  | [] => true
  | (_, tree) :: rest => tree.conforms .numeric && allLinksConform rest

end

/-- Reads an expression of the kind asked for. -/
def parseAs (kind : Kind) (t : Text) : Except Fault Tree := do
  let tree ← parse t
  if tree.conforms kind then return tree else .error (.wrongKind kind)

/-- Is the text an expression of the kind? Nothing is evaluated. -/
def isWellFormed (kind : Kind) (t : Text) : Bool :=
  match parseAs kind t with
  | .ok _ => true
  | .error _ => false

end DialogueScript.Expr
