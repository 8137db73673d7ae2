import DialogueScript.Proofs.Expr.Reading

/-!
# Printing expressions

A tree stands on the level of the grammar that its node belongs to (`Tree.level`). It is printed
with parentheses only around operands that stand on a looser level than their place asks for, and
with spaces between the tokens (`Tree.text`). `Tree.nesting` counts the levels of nesting that are
open at once when the text is read; a link of a sum or a product opens one for the operand behind
it that stays open to the end of the chain.

Which trees there are texts for is `Tree.isGrammatical`.
-/

namespace DialogueScript.Expr

/-! ## Induction on trees -/

/-- Induction on a tree, with a hypothesis for each operand of a chain. -/
theorem Tree.induction {P : Tree → Prop} (int : ∀ value, P (.int value))
    (float : ∀ value, P (.float value)) (bool : ∀ value, P (.bool value))
    (var : ∀ name, P (.var name)) (sign : ∀ op operand, P operand → P (.sign op operand))
    (binary : ∀ op left right, P left → P right → P (.binary op left right))
    (logical : ∀ op operands, (∀ operand ∈ operands, P operand) → P (.logical op operands))
    (not : ∀ operand, P operand → P (.not operand))
    (compare : ∀ first links, P first → (∀ link ∈ links, P link.2) → P (.compare first links)) :
    ∀ tree, P tree := by
  intro tree
  -- lists of operands are part of the tree, so the recursion goes by its size
  have recurse : ∀ smaller : Tree, sizeOf smaller < sizeOf tree → P smaller := fun smaller _ =>
    Tree.induction int float bool var sign binary logical not compare smaller
  cases tree with
  | int value => exact int value
  | float value => exact float value
  | bool value => exact bool value
  | var name => exact var name
  | sign op operand =>
    have hsize := Tree.sign.sizeOf_spec op operand
    exact sign op operand (recurse operand (by omega))
  | binary op left right =>
    have hsize := Tree.binary.sizeOf_spec op left right
    exact binary op left right (recurse left (by omega)) (recurse right (by omega))
  | logical op operands =>
    have hsize := Tree.logical.sizeOf_spec op operands
    refine logical op operands fun operand hmem => recurse operand ?_
    have hoperand := List.sizeOf_lt_of_mem hmem
    omega
  | not operand =>
    have hsize := Tree.not.sizeOf_spec operand
    exact not operand (recurse operand (by omega))
  | compare first links =>
    have hsize := Tree.compare.sizeOf_spec first links
    refine compare first links (recurse first (by omega)) fun link hmem => recurse link.2 ?_
    have hlink : sizeOf link = 1 + sizeOf link.1 + sizeOf link.2 := rfl
    have hlinks := List.sizeOf_lt_of_mem hmem
    omega
termination_by tree => sizeOf tree

/-! ## Levels and tokens of operators -/

/-- The level of an operator between two operands. -/
def BinaryOp.level : BinaryOp → Nat
  | .add | .sub => 4
  | .mul | .div | .mod => 5
  | .pow => 7

/-- The level of the operand in front of an operator. -/
def BinaryOp.leftLevel : BinaryOp → Nat
  | .add | .sub => 4
  | .mul | .div | .mod => 5
  | .pow => 8

/-- The level of the operand behind an operator. -/
def BinaryOp.rightLevel : BinaryOp → Nat
  | .add | .sub => 5
  | .mul | .div | .mod | .pow => 6

/-- The token of an operator between two operands. -/
def BinaryOp.token : BinaryOp → Token
  | .add => .plus
  | .sub => .minus
  | .mul => .star
  | .div => .slash
  | .mod => .percent
  | .pow => .starStar

/-- The token of a sign. -/
def Sign.token : Sign → Token
  | .plus => .plus
  | .minus => .minus

/-- The token of a comparison. -/
def CompareOp.token : CompareOp → Token
  | .equal => .equal
  | .notEqual => .notEqual
  | .less => .less
  | .lessEqual => .lessEqual
  | .greater => .greater
  | .greaterEqual => .greaterEqual

/-- The tightest level on which a tree stands without parentheses. -/
def Tree.level : Tree → Nat
  | .int _ | .float _ | .bool _ | .var _ => 8
  | .sign _ _ => 6
  | .binary op _ _ => op.level
  | .logical op _ => op.level
  | .not _ => 2
  | .compare _ _ => 3

/-! ## Tokens -/

/-- The tokens of an operand in its place: in parentheses if its own level is looser. -/
def enclose (place own : Nat) (tokens : List Token) : List Token :=
  if own < place then .openParen :: tokens ++ [.closeParen] else tokens

mutual

/-- The tokens of a tree, without parentheses around the whole. -/
def Tree.tokens : Tree → List Token
  | .int value => [.int value]
  | .float value => [.float value]
  | .bool value => [.bool value]
  | .var name => [.var name]
  | .sign op operand => op.token :: enclose 6 operand.level operand.tokens
  | .binary op left right =>
    enclose op.leftLevel left.level left.tokens ++
      op.token :: enclose op.rightLevel right.level right.tokens
  | .logical _ [] => []
  | .logical op (first :: more) =>
    enclose (op.level + 1) first.level first.tokens ++ operandTokens op more
  | .not operand => .not :: enclose 2 operand.level operand.tokens
  | .compare first links => enclose 4 first.level first.tokens ++ linkTokens links

/-- The tokens of the operands behind the first of a logical chain. -/
def operandTokens (op : BoolOp) : List Tree → List Token
  | [] => []
  | operand :: more =>
    op.token :: enclose (op.level + 1) operand.level operand.tokens ++ operandTokens op more

/-- The tokens of the links of a chain of comparisons. -/
def linkTokens : List (CompareOp × Tree) → List Token
  | [] => []
  | (op, operand) :: more =>
    op.token :: enclose 4 operand.level operand.tokens ++ linkTokens more

end

/-! ## Nesting -/

/-- The nesting of an operand in its place. -/
def encloseNesting (place own nesting : Nat) : Nat := if own < place then nesting + 1 else nesting

/-- The operators of the chain of a level that a tree is without parentheses. -/
def Tree.links (level : Nat) : Tree → Nat
  | .binary op left _ => if op.level = level then left.links level + 1 else 0
  | _ => 0

mutual

/-- The levels of nesting that are open at once in the tokens of a tree. -/
def Tree.nesting : Tree → Nat
  | .int _ | .float _ | .bool _ | .var _ => 0
  | .sign _ operand => encloseNesting 6 operand.level operand.nesting + 1
  -- the operand behind the operator is read below all links in front of it and its own
  | .binary op left right =>
    max (encloseNesting op.leftLevel left.level left.nesting)
      (left.links op.leftLevel + 1 + encloseNesting op.rightLevel right.level right.nesting)
  | .logical _ [] => 0
  | .logical op (first :: more) =>
    max (encloseNesting (op.level + 1) first.level first.nesting) (operandNesting op more)
  | .not operand => encloseNesting 2 operand.level operand.nesting + 1
  | .compare first links =>
    max (encloseNesting 4 first.level first.nesting) (linkNesting links)

/-- The nesting of the operands behind the first of a logical chain. -/
def operandNesting (op : BoolOp) : List Tree → Nat
  | [] => 0
  | operand :: more =>
    max (encloseNesting (op.level + 1) operand.level operand.nesting) (operandNesting op more)

/-- The nesting of the links of a chain of comparisons. -/
def linkNesting : List (CompareOp × Tree) → Nat
  | [] => 0
  | (_, operand) :: more =>
    max (encloseNesting 4 operand.level operand.nesting) (linkNesting more)

end

/-! ## Trees that texts stand for -/

/-- A letter of ASCII and perhaps more characters of words, between dollar signs. -/
def isVariable : Text → Bool
  | '$' :: rest =>
    rest.getLast? == some '$' && rest.head?.any Alphabet.isAsciiLetter &&
      rest.dropLast.all continuesWord
  | _ => false

mutual

/-- Is the tree one that a text stands for? Integers have no sign of their own, a chain has an
operator, and variables have the form of variables. Doubles are left out if they are not wanted. -/
def Tree.isGrammatical (doubles : Bool) : Tree → Bool
  | .int value => 0 ≤ value.toInt
  | .float _ => doubles
  | .bool _ => true
  | .var name => isVariable name
  | .sign _ operand => operand.isGrammatical doubles
  | .binary _ left right => left.isGrammatical doubles && right.isGrammatical doubles
  | .logical _ operands => 2 ≤ operands.length && allGrammatical doubles operands
  | .not operand => operand.isGrammatical doubles
  | .compare first links =>
    !links.isEmpty && first.isGrammatical doubles && allLinksGrammatical doubles links

/-- Are all the operands trees that texts stand for? -/
def allGrammatical (doubles : Bool) : List Tree → Bool
  | [] => true
  | operand :: more => operand.isGrammatical doubles && allGrammatical doubles more

/-- Are the operands of all links trees that texts stand for? -/
def allLinksGrammatical (doubles : Bool) : List (CompareOp × Tree) → Bool
  | [] => true
  | (_, operand) :: more => operand.isGrammatical doubles && allLinksGrammatical doubles more

end

/-- Each operand of a grammatical chain is grammatical. -/
theorem isGrammatical_of_mem {doubles : Bool} : ∀ {operands : List Tree},
    allGrammatical doubles operands = true →
    ∀ operand ∈ operands, operand.isGrammatical doubles = true := by
  intro operands
  induction operands with
  | nil => simp
  | cons first more ih =>
    intro h operand hmem
    rw [allGrammatical, Bool.and_eq_true] at h
    rcases List.mem_cons.mp hmem with rfl | hmem
    · exact h.1
    · exact ih h.2 operand hmem

theorem isGrammatical_of_mem_links {doubles : Bool} : ∀ {links : List (CompareOp × Tree)},
    allLinksGrammatical doubles links = true →
    ∀ link ∈ links, link.2.isGrammatical doubles = true := by
  intro links
  induction links with
  | nil => simp
  | cons first more ih =>
    intro h link hmem
    rw [allLinksGrammatical, Bool.and_eq_true] at h
    rcases List.mem_cons.mp hmem with rfl | hmem
    · exact h.1
    · exact ih h.2 link hmem

/-! ## Text -/

/-- How a token is written. -/
def Token.spelling : Token → Text
  | .int value => Text.ofInt value.toInt
  | .float value => Number.floatText value
  | .bool value => if value then "true".toList else "false".toList
  | .and => "and".toList
  | .or => "or".toList
  | .not => "not".toList
  | .plus => ['+']
  | .minus => ['-']
  | .star => ['*']
  | .starStar => ['*', '*']
  | .slash => ['/']
  | .percent => ['%']
  | .openParen => ['(']
  | .closeParen => [')']
  | .equal => ['=', '=']
  | .notEqual => ['!', '=']
  | .less => ['<']
  | .lessEqual => ['<', '=']
  | .greater => ['>']
  | .greaterEqual => ['>', '=']
  | .var name => name
  | .word name => name
  | .finish => []

/-- The text of a tree: its tokens with spaces between them. -/
def Tree.text (tree : Tree) : Text := Text.joinWith [' '] (tree.tokens.map Token.spelling)

example : Tree.text (.binary .mul (.binary .sub (.int 1) (.int 2))
      (.binary .pow (.sign .minus (.int 3)) (.sign .minus (.int 4))))
    = "( 1 - 2 ) * ( - 3 ) ** - 4".toList := by
  decide

end DialogueScript.Expr
