import DialogueScript.Expr.Kind

/-!
# Evaluating expressions

A tree is evaluated as a truth value or as a number. Every operand is evaluated, from left to
right, also where an earlier one already decides the result.
-/

namespace DialogueScript.Expr

/-- The integer of a result, or the overflow that it is. -/
def fit (n : Int) : Except Fault Number :=
  match Number.ofInt? n with
  | some i => .ok (.int i)
  | none => .error .overflow

/-- Remainder with the sign of the divisor. -/
def floatMod (a b : Binary64) : Binary64 :=
  let rest := a.rem b
  let isNegative (x : Binary64) : Bool := x.isNegative && !x.isNaN && !x.isZero
  if !rest.isZero && isNegative rest != isNegative b then rest.add b else rest

/-- An operator between doubles. -/
def floatArithmetic (op : BinaryOp) (a b : Binary64) : Except Fault Number :=
  match op with
  | .add => .ok (.float (a.add b))
  | .sub => .ok (.float (a.sub b))
  | .mul => .ok (.float (a.mul b))
  | .div => if b.isZero then .error .divisionByZero else .ok (.float (a.div b))
  | .mod => if b.isZero then .error .divisionByZero else .ok (.float (floatMod a b))
  | .pow => .error (.wrongOperand .boolean)

/-- Remainder of integers with the sign of the divisor, from the one that has the sign of the
dividend. Minus one, which divides everything, is set apart: the quotient of the least integer by it
is too large. -/
def intMod (a b : Int64) : Int64 :=
  if b = -1 then 0
  else
    let rest := a % b
    if rest != 0 && decide (rest < 0) != decide (b < 0) then rest + b else rest

/-- An operator between integers. Division gives a double; the remainder has the sign of the
divisor. -/
def intArithmetic (op : BinaryOp) (a b : Int64) : Except Fault Number :=
  match op with
  | .add => fit (a.toInt + b.toInt)
  | .sub => fit (a.toInt - b.toInt)
  | .mul => fit (a.toInt * b.toInt)
  | .div =>
    if b = 0 then .error .divisionByZero
    else .ok (.float ((Binary64.ofInt a.toInt).div (Binary64.ofInt b.toInt)))
  | .mod => if b = 0 then .error .divisionByZero else .ok (.int (intMod a b))
  | .pow => .error (.wrongOperand .boolean)

/-- An operator between numbers: exact between integers, otherwise between doubles. -/
def arithmetic (op : BinaryOp) : Number → Number → Except Fault Number
  | .int a, .int b => intArithmetic op a b
  | a, b => floatArithmetic op a.toBinary64 b.toBinary64

/-- A sign in front of a number. -/
def applySign : Sign → Number → Except Fault Number
  | .plus, n => .ok n
  | .minus, .int i => fit (-i.toInt)
  | .minus, .float x => .ok (.float x.neg)

/-- Does a comparison hold? Where nothing compares, only `notEqual` does. -/
def CompareOp.holds (op : CompareOp) (a b : Number) : Bool :=
  match op, a.compare? b with
  | .equal, some .eq => true
  | .notEqual, some .eq => false
  | .notEqual, _ => true
  | .less, some .lt => true
  | .lessEqual, some .lt => true
  | .lessEqual, some .eq => true
  | .greater, some .gt => true
  | .greaterEqual, some .gt => true
  | .greaterEqual, some .eq => true
  | _, _ => false

/-- Do all the links of a comparison chain hold, each between neighbours? -/
def linksHold (first : Number) : List (CompareOp × Number) → Bool
  | [] => true
  | (op, n) :: rest => op.holds first n && linksHold n rest

/-- The truth value of a chain. -/
def BoolOp.combine : BoolOp → List Bool → Bool
  | .and, values => values.all id
  | .or, values => values.any id

mutual

/-- The truth value of a tree. -/
def Tree.evalBool : Tree → Except Fault Bool
  | .bool value => .ok value
  | .var name => .error (.unbound name)
  | .not operand => do
    let value ← operand.evalBool
    return !value
  | .binary op left right =>
    match op with
    | .pow => do
      let a ← left.evalBool
      let b ← right.evalBool
      return a != b
    | _ => .error (.wrongOperand .boolean)
  | .logical op operands => do
    let values ← evalAll operands
    return op.combine values
  | .compare first links => do
    let value ← first.evalNumber
    let values ← evalLinks links
    return linksHold value values
  | .int _ | .float _ | .sign _ _ => .error (.wrongOperand .boolean)

/-- The number of a tree. -/
def Tree.evalNumber : Tree → Except Fault Number
  | .int value => .ok (.int value)
  | .float value => .ok (.float value)
  | .var name => .error (.unbound name)
  | .sign op operand => do
    let value ← operand.evalNumber
    applySign op value
  | .binary op left right =>
    match op with
    | .pow => .error (.wrongOperand .numeric)
    | _ => do
      let a ← left.evalNumber
      let b ← right.evalNumber
      arithmetic op a b
  | .bool _ | .logical _ _ | .not _ | .compare _ _ => .error (.wrongOperand .numeric)

/-- The truth values of trees. -/
def evalAll : List Tree → Except Fault (List Bool)
  | [] => .ok []
  | tree :: rest => do
    let value ← tree.evalBool
    let values ← evalAll rest
    return value :: values

/-- The numbers of the links of a comparison chain. -/
def evalLinks : List (CompareOp × Tree) → Except Fault (List (CompareOp × Number))
  | [] => .ok []
  | (op, tree) :: rest => do
    let value ← tree.evalNumber
    let values ← evalLinks rest
    return (op, value) :: values

end

/-- The truth value of a boolean expression. -/
def evaluateBool (t : Text) : Except Fault Bool := do
  let tree ← parseAs .boolean t
  tree.evalBool

/-- The number of a numeric expression. -/
def evaluateNumber (t : Text) : Except Fault Number := do
  let tree ← parseAs .numeric t
  tree.evalNumber

end DialogueScript.Expr
