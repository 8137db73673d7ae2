import DialogueScript.Alphabet.Age
import DialogueScript.Alphabet.Break
import DialogueScript.Alphabet.Category
import DialogueScript.Alphabet.Property
import DialogueScript.Alphabet.Ranges
import DialogueScript.Alphabet.Writing
import DialogueScript.Alphabet.WritingExtended

/-!
# Looking up classes by name

The binary properties, general categories, scripts, ages and break classes of Unicode under their
names. Case, blanks, low lines and hyphens of a name have no meaning, and neither has `is` in front
of it.
-/

namespace DialogueScript.Alphabet

/-- The value of a hexadecimal digit as the tables write it. -/
def tableDigit (c : Char) : Nat :=
  if c.toNat < 58 then c.toNat - 48 else c.toNat - 55

/-- Reads ranges as the tables write them: `first` is the start of a range whose end is being
read, if there is one, and `n` the number read so far. -/
def readRanges (first : Option Nat) (n : Nat) : List Char → CodeRanges
  | [] => [(first.getD n, n)]
  | ' ' :: rest => (first.getD n, n) :: readRanges none 0 rest
  | '-' :: rest => readRanges (some n) 0 rest
  | c :: rest => readRanges first (16 * n + tableDigit c) rest

/-- Does the field hold the name among its words? -/
def holdsName (name : List Char) (names : String) : Bool :=
  (names.splitOn " ").any fun word => word.toList == name

/-- The ranges under a name of a table. -/
def rangesOf? (table : List (String × List String)) (name : List Char) : Option CodeRanges :=
  (table.find? fun entry => holdsName name entry.1).map fun entry =>
    entry.2.flatMap fun line => readRanges none 0 line.toList

/-- The form in which names are compared. -/
def normalName (name : List Char) : List Char :=
  let lower := name.map Char.toLower
  let isMarked := lower.take 2 == ['i', 's']
  let body := if isMarked then lower.drop 2 else lower
  let kept := body.filter fun c => c != ' ' && c != '_' && c != '-' && c.toNat < 128
  if isMarked && kept == ['c'] then ['i', 's', 'c'] else kept

/-- The ranges that several categories make up together. -/
def unionOf (names : List String) : CodeRanges :=
  CodeRanges.inOrder (names.flatMap fun name => (rangesOf? categoryTable name.toList).getD [])

/-- The categories that hold all assigned characters. -/
def assignedNames : List String :=
  ["cc", "cf", "co", "ll", "lm", "lo", "lt", "lu", "mc", "me", "mn", "nd", "nl", "no", "pc",
    "pd", "pe", "pf", "pi", "po", "ps", "sc", "sk", "sm", "so", "zl", "zp", "zs"]

/-- The categories made up of others. -/
def unitedCategories : List (String × List String) :=
  [ ("lc casedletter", ["ll", "lt", "lu"]),
    ("l letter", ["ll", "lm", "lo", "lt", "lu"]),
    ("m mark combiningmark", ["mc", "me", "mn"]),
    ("n number", ["nd", "nl", "no"]),
    ("p punctuation punct", ["pc", "pd", "pe", "pf", "pi", "po", "ps"]),
    ("s symbol", ["sc", "sk", "sm", "so"]),
    ("z separator", ["zl", "zp", "zs"]),
    ("assigned", assignedNames) ]

/-- The ranges of a general category, or of one of the classes that are named like one. -/
def categoryRanges? (name : List Char) : Option CodeRanges :=
  if name = "any".toList then some [(0, 0x10FFFF)]
  else if name = "ascii".toList then some [(0, 0x7F)]
  else if name = "cn".toList ∨ name = "unassigned".toList then
    some (CodeRanges.gaps 0 (unionOf assignedNames))
  else if name = "c".toList ∨ name = "other".toList then
    let assigned := assignedNames.filter fun n => n != "cc" && n != "cf" && n != "co"
    some (CodeRanges.gaps 0 (unionOf assigned))
  else
    match rangesOf? categoryTable name with
    | some ranges => some ranges
    | none =>
      (unitedCategories.find? fun entry => holdsName name entry.1).map fun entry =>
        unionOf entry.2

/-- The ranges of the class with a name: a binary property, a general category or a script. The
short names `cf`, `sc` and `lc` mean categories. -/
def classRanges? (name : List Char) : Option CodeRanges :=
  let name := normalName name
  match rangesOf? propertyTable name with
  | some ranges => some ranges
  | none =>
    match categoryRanges? name with
    | some ranges => some ranges
    | none => rangesOf? scriptTable name

/-- The characters that an edition of Unicode knows: those that it brought and all older ones. -/
def ageRanges? (name : List Char) : Option CodeRanges :=
  let older := ageTable.takeWhile fun entry => !holdsName name entry.1
  let brought (entry : String × List String) : CodeRanges :=
    entry.2.flatMap fun line => readRanges none 0 line.toList
  (rangesOf? ageTable name).map fun ranges => CodeRanges.inOrder (older.flatMap brought ++ ranges)

/-- The ranges of the class of characters that have a value under a property. -/
def valueRanges? (property value : List Char) : Option CodeRanges :=
  let property := normalName property
  let value := normalName value
  if property = "gc".toList ∨ property = "generalcategory".toList then categoryRanges? value
  else if property = "sc".toList ∨ property = "script".toList then rangesOf? scriptTable value
  else if property = "scx".toList ∨ property = "scriptextensions".toList then
    rangesOf? scriptExtensionTable value
  else if property = "age".toList then ageRanges? value
  else if property = "gcb".toList ∨ property = "graphemeclusterbreak".toList then
    rangesOf? graphemeBreakTable value
  else if property = "wb".toList ∨ property = "wordbreak".toList then
    rangesOf? wordBreakTable value
  else if property = "sb".toList ∨ property = "sentencebreak".toList then
    rangesOf? sentenceBreakTable value
  else none

end DialogueScript.Alphabet
