import DialogueScript.Number
import DialogueScript.Alphabet.Classes

/-!
# Tokens of expressions

The tokens, and the names under which messages show them.
-/

namespace DialogueScript.Expr

/-- A token of an expression. -/
inductive Token
  | int (value : Int64)
  | float (value : Binary64)
  | bool (value : Bool)
  | and
  | or
  | not
  | plus
  | minus
  | star
  | starStar
  | slash
  | percent
  | openParen
  | closeParen
  | equal
  | notEqual
  | less
  | lessEqual
  | greater
  | greaterEqual
  /-- A variable with its dollar signs. -/
  | var (name : Text)
  /-- A word that is no keyword; no expression holds one. -/
  | word (name : Text)
  /-- The end of the text. -/
  | finish
  deriving DecidableEq, Repr

/-- A token where it stands: its spelling, and the offset of its first byte. -/
structure Lexeme where
  token : Token
  spelling : Text
  offset : Nat
  deriving DecidableEq, Repr

namespace Token

/-- The form in which messages show doubles: exponents below `0.0001` and from `1e16`. -/
def floatLayout : Decimal.Layout :=
  { positionalFrom := some (-4)
    positionalBelow := 16
    plusSign := false
    tie := .up
    nan := ['N', 'a', 'N'] }

/-- A character inside a quoted name: one that joins the character before it is written by its
code point. -/
def quotedChar (c : Char) : Text :=
  if Alphabet.extendsGrapheme c then
    "\\u\x7b".toList ++ Nat.toDigits 16 c.toNat ++ ['}']
  else [c]

/-- The name of a token in messages. -/
def label : Token → Text
  | int value => "Int(".toList ++ Text.ofInt value.toInt ++ [')']
  | float value => "Float(".toList ++ floatLayout.write value ++ [')']
  | bool true => "True".toList
  | bool false => "False".toList
  | and => "And".toList
  | or => "Or".toList
  | not => "Not".toList
  | plus => "Plus".toList
  | minus => "Minus".toList
  | star => "Star".toList
  | starStar => "StarStar".toList
  | slash => "Slash".toList
  | percent => "Percent".toList
  | openParen => "LParen".toList
  | closeParen => "RParen".toList
  | equal => "EqEq".toList
  | notEqual => "NotEq".toList
  | less => "Lt".toList
  | lessEqual => "LtEq".toList
  | greater => "Gt".toList
  | greaterEqual => "GtEq".toList
  | var name => "Variable(\"".toList ++ name.flatMap quotedChar ++ "\")".toList
  | word name => "Ident(\"".toList ++ name.flatMap quotedChar ++ "\")".toList
  | finish => "Eof".toList

end Token

end DialogueScript.Expr
