import DialogueScript.Pattern.ByteRow
import DialogueScript.Pattern.Regex

/-!
# The shape of an expression

What is left of an expression when it is made ready to be laid out: characters in a row make up one
literal, parts and branches are flat, branches that are single characters or sets are one set, and
what all branches begin with stands in front of them.
-/

namespace DialogueScript.Pattern

open Alphabet

/-- An expression made ready to be laid out. -/
inductive Shape
  | empty
  /-- Code points in a row. -/
  | literal (codes : List Nat)
  | set (ranges : CodeRanges)
  | look (condition : Look)
  | times (least : Nat) (most : Option Nat) (greedy : Bool) (body : Shape)
  | capture (body : Shape)
  | concat (parts : List Shape)
  | alternation (branches : List Shape)
  deriving Repr, Inhabited

namespace Shape

/-! ## What shapes match -/

mutual

/-- Does the shape match no character at all, ever? -/
def isWidthless : Shape → Bool
  | .empty | .look _ => true
  | .literal _ | .set _ => false
  | .times _ most _ body => most.isSome && body.isWidthless
  | .capture body => body.isWidthless
  | .concat parts => areWidthless parts
  | .alternation branches => areWidthless branches

/-- Do none of the shapes ever match a character? -/
def areWidthless : List Shape → Bool
  | [] => true
  | shape :: rest => shape.isWidthless && areWidthless rest

end

mutual

/-- The least number of characters that the shape matches, unless it matches nothing. -/
def leastLength? : Shape → Option Nat
  | .empty | .look _ => some 0
  | .literal codes => some codes.length
  | .set ranges => if ranges.isEmpty then none else some 1
  | .times least _ _ body => body.leastLength?.map (least * ·)
  | .capture body => body.leastLength?
  | .concat parts => leastSum? parts
  | .alternation branches => leastOf? branches

/-- The least number of characters that all shapes match together. -/
def leastSum? : List Shape → Option Nat
  | [] => some 0
  | shape :: rest => do
    let length ← shape.leastLength?
    let others ← leastSum? rest
    return length + others

/-- The least number of characters that one of the shapes matches, if each matches something. -/
def leastOf? : List Shape → Option Nat
  | [] => none
  | [shape] => shape.leastLength?
  | shape :: rest => do
    let length ← shape.leastLength?
    let others ← leastOf? rest
    return min length others

end

mutual

/-- Does every match start where the condition holds? -/
def startsWith (condition : Look) : Shape → Bool
  | .look c => c == condition
  | .times least _ _ body => least != 0 && body.startsWith condition
  | .capture body => body.startsWith condition
  | .concat parts => firstStartsWith condition parts
  | .alternation branches => allStartWith condition branches
  | _ => false

/-- Does one of the parts up to the first that takes a character start so? -/
def firstStartsWith (condition : Look) : List Shape → Bool
  | [] => false
  | shape :: rest =>
    shape.startsWith condition || (shape.isWidthless && firstStartsWith condition rest)

/-- Do all of the branches start so? -/
def allStartWith (condition : Look) : List Shape → Bool
  | [] => true
  | shape :: rest => shape.startsWith condition && allStartWith condition rest

end

mutual

/-- Does every match end where the condition holds? -/
def endsWith (condition : Look) : Shape → Bool
  | .look c => c == condition
  | .times least _ _ body => least != 0 && body.endsWith condition
  | .capture body => body.endsWith condition
  | .concat parts => lastEndsWith condition parts
  | .alternation branches => allEndWith condition branches
  | _ => false

/-- Does one of the parts from the last that takes a character on end so? -/
def lastEndsWith (condition : Look) : List Shape → Bool
  | [] => false
  | shape :: rest =>
    lastEndsWith condition rest || (areWidthless rest && shape.endsWith condition)

/-- Do all of the branches end so? -/
def allEndWith (condition : Look) : List Shape → Bool
  | [] => true
  | shape :: rest => shape.endsWith condition && allEndWith condition rest

end

mutual

/-- Are the shapes equal? A part that is captured equals no other, for each has its own number. -/
def same : Shape → Shape → Bool
  | .empty, .empty => true
  | .literal a, .literal b => a == b
  | .set a, .set b => a == b
  | .look a, .look b => a == b
  | .times least most greedy body, .times least' most' greedy' body' =>
    least == least' && most == most' && greedy == greedy' && same body body'
  | .concat parts, .concat parts' => allSame parts parts'
  | .alternation branches, .alternation branches' => allSame branches branches'
  | _, _ => false

/-- Are the lists of shapes equal? -/
def allSame : List Shape → List Shape → Bool
  | [], [] => true
  | shape :: rest, shape' :: rest' => same shape shape' && allSame rest rest'
  | _, _ => false

end

/-! ## Making shapes -/

/-- The shape of a set; a set of one character is a literal. -/
def ofRanges : CodeRanges → Shape
  | [(first, last)] => if first = last then .literal [first] else .set [(first, last)]
  | ranges => .set ranges

/-- The shape of a repetition. What takes no character is repeated once at most. -/
def repeated (least : Nat) (most : Option Nat) (greedy : Bool) (body : Shape) : Shape :=
  let widthless := body.isWidthless
  let least := if widthless then min least 1 else least
  let most := if widthless then some (min (most.getD 1) 1) else most
  if least = 0 ∧ most = some 0 then .empty
  else if least = 1 ∧ most = some 1 then body
  else .times least most greedy body

/-- The parts of a shape that stand in a row. -/
def parts : Shape → List Shape
  | .empty => []
  | .concat parts => parts
  | shape => [shape]

/-- Makes literals in a row one. -/
def joinLiterals : List Shape → List Shape
  | [] => []
  | .literal codes :: rest =>
    match joinLiterals rest with
    | .literal more :: others => .literal (codes ++ more) :: others
    | others => .literal codes :: others
  | shape :: rest => shape :: joinLiterals rest

/-- The shape of parts in a row. -/
def inRow (shapes : List Shape) : Shape :=
  match joinLiterals (shapes.flatMap parts) with
  | [] => .empty
  | [shape] => shape
  | shapes => .concat shapes

/-- The branches of a shape. -/
def branches : Shape → List Shape
  | .alternation branches => branches
  | shape => [shape]

/-- The single character that a shape stands for. -/
def single? : Shape → Option Nat
  | .literal [code] => some code
  | _ => none

/-- The set that a shape stands for. -/
def set? : Shape → Option CodeRanges
  | .set ranges => some ranges
  | _ => none

/-- The parts of a shape that has several in a row. -/
def row? : Shape → Option (List Shape)
  | .concat parts => some parts
  | _ => none

/-- The number of parts with which both rows begin. -/
def commonLength : List Shape → List Shape → Nat
  | a :: rest, b :: rest' => if same a b then commonLength rest rest' + 1 else 0
  | _, _ => 0

/-- The number of parts with which all rows begin. -/
def sharedLength (rows : List (List Shape)) : Nat :=
  match rows with
  | [] => 0
  | row :: others => others.foldl (fun n other => min n (commonLength row other)) row.length

/-- The shape of branches. What rows have in common goes in front; each time the rows get shorter,
so that the number of their parts is fuel enough. -/
def oneOf : Nat → List Shape → Shape
  | 0, shapes => .alternation shapes
  | fuel + 1, shapes =>
    match shapes.flatMap branches with
    | [] => .set []
    | [shape] => shape
    | shapes =>
      match shapes.mapM single? with
      | some codes => ofRanges (CodeRanges.union [] (codes.map fun code => (code, code)))
      | none =>
        match shapes.mapM set? with
        | some sets => ofRanges (CodeRanges.union [] sets.flatten)
        | none =>
          match shapes.mapM row? with
          | none => .alternation shapes
          | some rows =>
            match sharedLength rows with
            | 0 => .alternation shapes
            | shared =>
              let front := (rows.headD []).take shared
              let others := rows.map fun row => inRow (row.drop shared)
              inRow (front ++ [oneOf fuel others])

/-- The number of parts of all branches. -/
def partCount (shapes : List Shape) : Nat :=
  shapes.foldr (fun shape n => shape.parts.length + n) 0

end Shape

mutual

/-- The shape of an expression. -/
def Regex.shape : Regex → Shape
  | .empty => .empty
  | .one set => .ofRanges set.ranges
  | .look condition => .look condition
  | .times least most greedy body => .repeated least most greedy body.shape
  | .group captures body => if captures then .capture body.shape else body.shape
  | .concat parts => .inRow (shapesOf parts)
  | .alternation branches =>
    let shapes := shapesOf branches
    .oneOf (Shape.partCount shapes + 1) shapes

/-- The shapes of several expressions. -/
def shapesOf : List Regex → List Shape
  | [] => []
  | regex :: rest => regex.shape :: shapesOf rest

end

end DialogueScript.Pattern
