import DialogueScript.Pattern.CharSet

/-!
# Regular expressions

The regular expressions that patterns stand for, and the conditions that look at the place between
two characters.
-/

namespace DialogueScript.Pattern

/-- A condition on the place between two characters. The word conditions know two alphabets. -/
inductive Look
  | start
  | finish
  | lineStart
  | lineEnd
  /-- Line starts and ends where a carriage return, a line feed or both in a row end a line. -/
  | lineStartReturn
  | lineEndReturn
  | wordBoundary (unicode : Bool)
  | notWordBoundary (unicode : Bool)
  | wordStart (unicode : Bool)
  | wordEnd (unicode : Bool)
  | wordStartHalf (unicode : Bool)
  | wordEndHalf (unicode : Bool)
  deriving DecidableEq, Repr

/-- Is there a word character? -/
def isWordAt (unicode : Bool) : Option Char → Bool
  | none => false
  | some c => if unicode then Alphabet.isWord c else Alphabet.isAsciiWord c

/-- Does the condition hold between the character before and the one behind? -/
def Look.holds (look : Look) (before behind : Option Char) : Bool :=
  match look with
  | start => before.isNone
  | finish => behind.isNone
  | lineStart => before.isNone || before == some '\n'
  | lineEnd => behind.isNone || behind == some '\n'
  | lineStartReturn =>
    before.isNone || before == some '\n' || (before == some '\r' && behind != some '\n')
  | lineEndReturn =>
    behind.isNone || behind == some '\r' || (behind == some '\n' && before != some '\r')
  | wordBoundary unicode => isWordAt unicode before != isWordAt unicode behind
  | notWordBoundary unicode => isWordAt unicode before == isWordAt unicode behind
  | wordStart unicode => !isWordAt unicode before && isWordAt unicode behind
  | wordEnd unicode => isWordAt unicode before && !isWordAt unicode behind
  | wordStartHalf unicode => !isWordAt unicode before
  | wordEndHalf unicode => !isWordAt unicode behind

/-- A regular expression. -/
inductive Regex
  | empty
  | one (set : CharSet)
  | look (condition : Look)
  /-- At least `least` times the body, at most `most` times if there is a bound; a greedy one
  prefers more. -/
  | times (least : Nat) (most : Option Nat) (greedy : Bool) (body : Regex)
  /-- A part in parentheses, which may keep what it matched. -/
  | group (captures : Bool) (body : Regex)
  | concat (parts : List Regex)
  /-- One of the branches, an earlier one preferred. -/
  | alternation (branches : List Regex)
  deriving Repr, Inhabited

mutual

/-- Can the expression match no character at all? -/
def Regex.isNullable : Regex → Bool
  | .empty => true
  | .one _ => false
  | .look _ => true
  | .times least _ _ body => least == 0 || body.isNullable
  | .group _ body => body.isNullable
  | .concat parts => allNullable parts
  | .alternation branches => branches.isEmpty || someNullable branches

/-- Can all of the expressions match no character? -/
def allNullable : List Regex → Bool
  | [] => true
  | regex :: rest => regex.isNullable && allNullable rest

/-- Can one of the expressions match no character? -/
def someNullable : List Regex → Bool
  | [] => false
  | regex :: rest => regex.isNullable || someNullable rest

end

mutual

/-- Does the expression match no character at all, ever? -/
def Regex.isWidthless : Regex → Bool
  | .empty | .look _ => true
  | .one _ => false
  | .times _ most _ body => most == some 0 || body.isWidthless
  | .group _ body => body.isWidthless
  | .concat parts => allWidthless parts
  | .alternation branches => allWidthless branches

/-- Do none of the expressions ever match a character? -/
def allWidthless : List Regex → Bool
  | [] => true
  | regex :: rest => regex.isWidthless && allWidthless rest

end

/-- Repetition. Repeating what takes no character more than once is no different from once. -/
def Regex.repeated (least : Nat) (most : Option Nat) (greedy : Bool) (body : Regex) : Regex :=
  if body.isWidthless then .times (min least 1) (some (min (most.getD 1) 1)) greedy body
  else .times least most greedy body

end DialogueScript.Pattern
