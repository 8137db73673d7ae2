import DialogueScript.Expr.Lexer
import DialogueScript.Expr.Tree

/-!
# Reading expressions

The grammar, loosest first: `or`, `and`, `not`, comparison, sum, product, sign, `**`. Sums and
products group to the left; the exponent of `**` is a signed operand, so `**` groups to the right;
chains of `or`, of `and` and of comparisons are flat.

Each function reads one level of the grammar at a nesting depth and gives back what it read with
the tokens behind it, which are fewer (`Parsed.bound`); that is what makes the functions end.
-/

namespace DialogueScript.Expr

/-- What was read, and the tokens behind it, fewer than `size`. -/
structure Parsed (α : Type) (size : Nat) where
  value : α
  rest : List Lexeme
  bound : rest.length < size

/-- The fault of a token at which an expression cannot go on. -/
def unexpected : List Lexeme → Fault
  | [] => .unexpectedEnd
  | lexeme :: _ =>
    match lexeme.token with
    | .finish => .unexpectedEnd
    | .word name => .nameNotAllowed name lexeme.offset
    | token => .unexpectedToken token lexeme.offset

/-- Opens a level of nesting, if one is left. -/
def descend (depth : Nat) : Except Fault Nat :=
  if depth < maxNesting then .ok (depth + 1) else .error .tooDeep

/-- A chain of one operand is that operand. -/
def chain (op : BoolOp) (first : Tree) : List Tree → Tree
  | [] => first
  | more => .logical op (first :: more)

/-- A chain without links is its first operand. -/
def compareChain (first : Tree) : List (CompareOp × Tree) → Tree
  | [] => first
  | links => .compare first links

/-- The comparison of a token. -/
def compareOp? : Token → Option CompareOp
  | .equal => some .equal
  | .notEqual => some .notEqual
  | .less => some .less
  | .lessEqual => some .lessEqual
  | .greater => some .greater
  | .greaterEqual => some .greaterEqual
  | _ => none

/-- The operator of a sum. -/
def sumOp? : Token → Option BinaryOp
  | .plus => some .add
  | .minus => some .sub
  | _ => none

/-- The operator of a product. -/
def productOp? : Token → Option BinaryOp
  | .star => some .mul
  | .slash => some .div
  | .percent => some .mod
  | _ => none

/-- The sign of a token. -/
def sign? : Token → Option Sign
  | .plus => some .plus
  | .minus => some .minus
  | _ => none

/-- The operand that is one token. -/
def leaf? : Token → Option Tree
  | .int value => some (.int value)
  | .float value => some (.float value)
  | .bool value => some (.bool value)
  | .var name => some (.var name)
  | _ => none

mutual

/-- A chain of `or`. -/
def readOr (depth : Nat) (ts : List Lexeme) : Except Fault (Parsed Tree ts.length) := do
  let first ← readAnd depth ts
  have := first.bound
  let more ← readOrMore depth first.rest
  have := more.bound
  return ⟨chain .or first.value more.value, more.rest, by omega⟩
termination_by 16 * ts.length + 8

/-- The operands behind the first of a chain of `or`. -/
def readOrMore (depth : Nat) (ts : List Lexeme) :
    Except Fault (Parsed (List Tree) (ts.length + 1)) :=
  match ts with
  | [] => return ⟨[], [], by simp⟩
  | lexeme :: tail =>
    if lexeme.token = .or then do
      let operand ← readAnd depth tail
      have := operand.bound
      let more ← readOrMore depth operand.rest
      have := more.bound
      return ⟨operand.value :: more.value, more.rest, by simp; omega⟩
    else return ⟨[], lexeme :: tail, by simp⟩
termination_by 16 * ts.length

/-- A chain of `and`. -/
def readAnd (depth : Nat) (ts : List Lexeme) : Except Fault (Parsed Tree ts.length) := do
  let first ← readNot depth ts
  have := first.bound
  let more ← readAndMore depth first.rest
  have := more.bound
  return ⟨chain .and first.value more.value, more.rest, by omega⟩
termination_by 16 * ts.length + 7

/-- The operands behind the first of a chain of `and`. -/
def readAndMore (depth : Nat) (ts : List Lexeme) :
    Except Fault (Parsed (List Tree) (ts.length + 1)) :=
  match ts with
  | [] => return ⟨[], [], by simp⟩
  | lexeme :: tail =>
    if lexeme.token = .and then do
      let operand ← readNot depth tail
      have := operand.bound
      let more ← readAndMore depth operand.rest
      have := more.bound
      return ⟨operand.value :: more.value, more.rest, by simp; omega⟩
    else return ⟨[], lexeme :: tail, by simp⟩
termination_by 16 * ts.length

/-- A comparison, perhaps behind `not`. -/
def readNot (depth : Nat) (ts : List Lexeme) : Except Fault (Parsed Tree ts.length) :=
  match ts with
  | [] => .error .unexpectedEnd
  | lexeme :: tail =>
    if lexeme.token = .not then do
      let depth ← descend depth
      let operand ← readNot depth tail
      have := operand.bound
      return ⟨.not operand.value, operand.rest, by simp; omega⟩
    else readComparison depth (lexeme :: tail)
termination_by 16 * ts.length + 6

/-- A chain of comparisons. -/
def readComparison (depth : Nat) (ts : List Lexeme) :
    Except Fault (Parsed Tree ts.length) := do
  let first ← readSum depth ts
  have := first.bound
  let links ← readLinks depth first.rest
  have := links.bound
  return ⟨compareChain first.value links.value, links.rest, by omega⟩
termination_by 16 * ts.length + 5

/-- The links of a chain of comparisons. -/
def readLinks (depth : Nat) (ts : List Lexeme) :
    Except Fault (Parsed (List (CompareOp × Tree)) (ts.length + 1)) :=
  match ts with
  | [] => return ⟨[], [], by simp⟩
  | lexeme :: tail =>
    match compareOp? lexeme.token with
    | some op => do
      let operand ← readSum depth tail
      have := operand.bound
      let more ← readLinks depth operand.rest
      have := more.bound
      return ⟨(op, operand.value) :: more.value, more.rest, by simp; omega⟩
    | none => return ⟨[], lexeme :: tail, by simp⟩
termination_by 16 * ts.length

/-- A sum. -/
def readSum (depth : Nat) (ts : List Lexeme) : Except Fault (Parsed Tree ts.length) := do
  let first ← readProduct depth ts
  have := first.bound
  let sum ← readSumMore depth first.value first.rest
  have := sum.bound
  return ⟨sum.value, sum.rest, by omega⟩
termination_by 16 * ts.length + 4

/-- The rest of a sum whose operands so far make `left`. Each link is one level deeper. -/
def readSumMore (depth : Nat) (left : Tree) (ts : List Lexeme) :
    Except Fault (Parsed Tree (ts.length + 1)) :=
  match ts with
  | [] => return ⟨left, [], by simp⟩
  | lexeme :: tail =>
    match sumOp? lexeme.token with
    | some op => do
      let depth ← descend depth
      let right ← readProduct depth tail
      have := right.bound
      let sum ← readSumMore depth (.binary op left right.value) right.rest
      have := sum.bound
      return ⟨sum.value, sum.rest, by simp; omega⟩
    | none => return ⟨left, lexeme :: tail, by simp⟩
termination_by 16 * ts.length

/-- A product. -/
def readProduct (depth : Nat) (ts : List Lexeme) : Except Fault (Parsed Tree ts.length) := do
  let first ← readSigned depth ts
  have := first.bound
  let product ← readProductMore depth first.value first.rest
  have := product.bound
  return ⟨product.value, product.rest, by omega⟩
termination_by 16 * ts.length + 3

/-- The rest of a product whose operands so far make `left`. Each link is one level deeper. -/
def readProductMore (depth : Nat) (left : Tree) (ts : List Lexeme) :
    Except Fault (Parsed Tree (ts.length + 1)) :=
  match ts with
  | [] => return ⟨left, [], by simp⟩
  | lexeme :: tail =>
    match productOp? lexeme.token with
    | some op => do
      let depth ← descend depth
      let right ← readSigned depth tail
      have := right.bound
      let product ← readProductMore depth (.binary op left right.value) right.rest
      have := product.bound
      return ⟨product.value, product.rest, by simp; omega⟩
    | none => return ⟨left, lexeme :: tail, by simp⟩
termination_by 16 * ts.length

/-- An operand, perhaps behind signs. -/
def readSigned (depth : Nat) (ts : List Lexeme) : Except Fault (Parsed Tree ts.length) :=
  match ts with
  | [] => .error .unexpectedEnd
  | lexeme :: tail =>
    match sign? lexeme.token with
    | some op => do
      let depth ← descend depth
      let operand ← readSigned depth tail
      have := operand.bound
      return ⟨.sign op operand.value, operand.rest, by simp; omega⟩
    | none => readPower depth (lexeme :: tail)
termination_by 16 * ts.length + 2

/-- An operand, perhaps with an exponent. -/
def readPower (depth : Nat) (ts : List Lexeme) : Except Fault (Parsed Tree ts.length) := do
  let base ← readAtom depth ts
  have := base.bound
  match h : base.rest with
  | lexeme :: tail =>
    if lexeme.token = .starStar then do
      let depth ← descend depth
      let exponent ← readSigned depth tail
      have := exponent.bound
      return ⟨.binary .pow base.value exponent.value, exponent.rest, by simp_all; omega⟩
    else return base
  | [] => return base
termination_by 16 * ts.length + 1
decreasing_by
  · omega
  · simp_all
    omega

/-- An operand of one token, or an expression in parentheses. -/
def readAtom (depth : Nat) (ts : List Lexeme) : Except Fault (Parsed Tree ts.length) :=
  match ts with
  | [] => .error .unexpectedEnd
  | lexeme :: tail =>
    match leaf? lexeme.token with
    | some leaf => return ⟨leaf, tail, by simp⟩
    | none =>
      if lexeme.token = .openParen then do
        let depth ← descend depth
        let inner ← readOr depth tail
        have := inner.bound
        match h : inner.rest with
        | close :: rest =>
          if close.token = .closeParen then return ⟨inner.value, rest, by simp_all; omega⟩
          else .error (unexpected inner.rest)
        | [] => .error .unexpectedEnd
      else .error (unexpected (lexeme :: tail))
termination_by 16 * ts.length

end

/-- Reads an expression that ends with its tokens. -/
def treeOfTokens (ts : List Lexeme) : Except Fault Tree := do
  let tree ← readOr 0 ts
  match tree.rest with
  | [] => return tree.value
  | lexeme :: rest =>
    if lexeme.token = .finish then return tree.value else .error (unexpected (lexeme :: rest))

/-- Reads an expression, of whatever kind. -/
def parse (t : Text) : Except Fault Tree := do
  let ts ← tokenize t
  treeOfTokens ts

end DialogueScript.Expr
