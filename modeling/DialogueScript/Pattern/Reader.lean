import DialogueScript.Alphabet.Lookup
import DialogueScript.Pattern.Regex

/-!
# Reading patterns

The notation of patterns. A text that is no pattern reads as `none`; nothing more is told of what
is wrong with it.

Each step of the reader takes a character, so the length of the text is fuel enough.
-/

namespace DialogueScript.Pattern

open Alphabet

/-- The modes that `(?…)` switches. -/
structure Modes where
  caseless : Bool
  multiLine : Bool
  dotAll : Bool
  swapGreed : Bool
  unicode : Bool
  returns : Bool
  verbose : Bool
  deriving DecidableEq, Repr

/-- Patterns ignore case unless they say otherwise. -/
def Modes.initial : Modes := ⟨true, false, false, false, true, false, false⟩

/-- The modes in which case counts. -/
def Modes.exact : Modes := { Modes.initial with caseless := false }

/-- The deepest nesting of a pattern. -/
def maxDepth : Nat := 250

/-- An expression with the depth of its notation. -/
structure Piece where
  regex : Regex
  depth : Nat

/-- A set with the depth of its notation. -/
structure ClassPiece where
  set : CharSet
  depth : Nat

/-- Drops blanks, and comments from a number sign to the end of the line. -/
def skipIgnored : Bool → Text → Text
  | _, [] => []
  | true, c :: rest => skipIgnored (c != '\n') rest
  | false, c :: rest =>
    if Text.isBlank c then skipIgnored false rest
    else if c = '#' then skipIgnored true rest
    else c :: rest

/-- In verbose mode, drops blanks and comments. -/
def Modes.skip (m : Modes) (t : Text) : Text := if m.verbose then skipIgnored false t else t

/-- The next character but one, blanks and comment signs between them dropped in verbose mode. -/
def Modes.peek (m : Modes) (t : Text) : Option Char :=
  if m.verbose then
    match t.dropWhile Text.isBlank with
    | '#' :: rest => (rest.dropWhile Text.isBlank).head?
    | rest => rest.head?
  else t.head?

/-! ## Sets -/

/-- The characters of ASCII. -/
def ascii : CharSet := .range '\x00' '\x7f'

/-- The set closed under change of case, if case is ignored. -/
def Modes.fold (m : Modes) (set : CharSet) : CharSet :=
  if m.caseless then if m.unicode then .folded set else .inter ascii (.folded set) else set

/-- The complement of a set. Outside Unicode it would hold bytes that are no characters. -/
def Modes.complement? (m : Modes) (negated : Bool) (set : CharSet) : Option CharSet :=
  if negated then if m.unicode then some (.complement set) else none else some set

/-- The set of a single character. -/
def Modes.single (m : Modes) (c : Char) : CharSet :=
  if m.caseless then
    if m.unicode then .oneOf (variantsOf c)
    else .oneOf (c :: (variantsOf c).filter fun d => c.toNat < 128 && d.toNat < 128)
  else .range c c

/-- The sets with a name inside brackets. -/
def asciiClass? (name : String) : Option CharSet :=
  match name with
  | "alnum" => some (.table [(48, 57), (65, 90), (97, 122)])
  | "alpha" => some (.table [(65, 90), (97, 122)])
  | "ascii" => some ascii
  | "blank" => some (.table [(9, 9), (32, 32)])
  | "cntrl" => some (.table [(0, 31), (127, 127)])
  | "digit" => some (.range '0' '9')
  | "graph" => some (.range '!' '~')
  | "lower" => some (.range 'a' 'z')
  | "print" => some (.range ' ' '~')
  | "punct" => some (.table [(33, 47), (58, 64), (91, 96), (123, 126)])
  | "space" => some (.table [(9, 13), (32, 32)])
  | "upper" => some (.range 'A' 'Z')
  | "word" => some (.table [(48, 57), (65, 90), (95, 95), (97, 122)])
  | "xdigit" => some (.table [(48, 57), (65, 70), (97, 102)])
  | _ => none

/-- The sets of one letter behind a backslash. -/
def Modes.letterClass? (m : Modes) (letter : Char) : Option CharSet :=
  let asciiSet (name : String) : CharSet := (asciiClass? name).getD .none
  let digits := if m.unicode then .digit else asciiSet "digit"
  let spaces := if m.unicode then .space else asciiSet "space"
  let words := if m.unicode then .word else asciiSet "word"
  match letter with
  | 'd' => some digits
  | 's' => some spaces
  | 'w' => some words
  | 'D' => m.complement? true digits
  | 'S' => m.complement? true spaces
  | 'W' => m.complement? true words
  | _ => none

/-- The set with a Unicode name, which may be given as a property and its value. -/
def Modes.namedClass? (m : Modes) (negated : Bool) (name : Text) : Option CharSet := do
  let (differs, ranges) ←
    match Text.splitOnce ['!', '='] name with
    | some (property, value) => (valueRanges? property value).map (true, ·)
    | none =>
      match Text.splitOnce [':'] name with
      | some (property, value) => (valueRanges? property value).map (false, ·)
      | none =>
        match Text.splitOnce ['='] name with
        | some (property, value) => (valueRanges? property value).map (false, ·)
        | none => (classRanges? name).map (false, ·)
  if m.unicode then m.complement? (negated != differs) (m.fold (.table ranges)) else none

/-! ## Escapes -/

/-- What a primitive of the notation stands for. -/
inductive Primitive
  /-- A character, perhaps written by two hexadecimal digits. -/
  | char (c : Char) (twoDigits : Bool)
  | set (set : CharSet)
  | look (condition : Look)

/-- Reads hexadecimal digits, as many as asked for. -/
def readHexDigits (m : Modes) : Nat → Text → Option (Text × Text)
  | 0, t => some ([], t)
  | _ + 1, [] => none
  | count + 1, c :: rest =>
    if isHexDigit c then
      (readHexDigits m count (m.skip rest)).map fun (digits, t) => (c :: digits, t)
    else none

/-- Reads up to a closing brace, dropping what verbose mode ignores. -/
def readToBrace (m : Modes) : Nat → Text → Option (Text × Text)
  | 0, _ => none
  | fuel + 1, t =>
    match m.skip t with
    | [] => none
    | '}' :: rest => some ([], rest)
    | c :: rest => (readToBrace m fuel rest).map fun (body, t) => (c :: body, t)

/-- Reads a character given by its code point, behind the letter `x`, `u` or `U`. -/
def readHex (m : Modes) (letter : Char) (t : Text) : Option (Primitive × Text) :=
  match m.skip t with
  | '{' :: rest => do
    let (digits, t) ← readToBrace m (rest.length + 1) rest
    if digits.isEmpty || !digits.all isHexDigit then none
    else
      let c ← charOf? (hexNumber digits)
      return (.char c false, m.skip t)
  | t => do
    let width := if letter = 'x' then 2 else if letter = 'u' then 4 else 8
    let (digits, t) ← readHexDigits m width t
    let c ← charOf? (hexNumber digits)
    return (.char c (letter == 'x'), t)

/-- Reads the name of a Unicode class, behind the letter `p` or `P`. -/
def readNamedClass (m : Modes) (negated : Bool) (t : Text) : Option (Primitive × Text) :=
  match m.skip t with
  | [] => none
  | '{' :: rest => do
    let (name, t) ← readToBrace m (rest.length + 1) rest
    let set ← m.namedClass? negated name
    return (.set set, t)
  | '\\' :: _ => none
  | c :: rest => do
    let ranges ← classRanges? [c]
    if m.unicode then
      let set ← m.complement? negated (m.fold (.table ranges))
      return (.set set, m.skip rest)
    else none

/-- Reads letters and hyphens, dropping what verbose mode ignores. -/
def readWordName (m : Modes) : Nat → Text → Text × Text
  | 0, t => ([], t)
  | fuel + 1, t =>
    match t with
    | c :: rest =>
      if isAsciiLetter c || c == '-' then
        let (name, t) := readWordName m fuel (m.skip rest)
        (c :: name, t)
      else ([], t)
    | [] => ([], [])

/-- Reads what follows `\b`: a kind of word boundary in braces, or nothing that belongs to it. -/
def readBoundary (m : Modes) (t : Text) : Option (Primitive × Text) :=
  match t with
  | '{' :: rest =>
    match m.skip rest with
    | [] => none
    | c :: inner =>
      if isAsciiLetter c || c == '-' then
        let (name, t) := readWordName m (inner.length + 1) (c :: inner)
        match t with
        | '}' :: t =>
          if name = "start".toList then some (.look (.wordStart m.unicode), t)
          else if name = "end".toList then some (.look (.wordEnd m.unicode), t)
          else if name = "start-half".toList then some (.look (.wordStartHalf m.unicode), t)
          else if name = "end-half".toList then some (.look (.wordEndHalf m.unicode), t)
          else none
        | _ => none
      else some (.look (.wordBoundary m.unicode), t)
  | _ => some (.look (.wordBoundary m.unicode), t)

/-- Signs of ASCII stand for themselves behind a backslash, angle brackets excepted. -/
def isEscapable (c : Char) : Bool :=
  c.toNat < 128 && !isAsciiLetter c && !isAsciiDigit c && c != '<' && c != '>'

/-- Reads an escape behind its backslash. -/
def readEscape (m : Modes) : Text → Option (Primitive × Text)
  | [] => none
  | c :: rest =>
    if c = 'x' ∨ c = 'u' ∨ c = 'U' then readHex m c rest
    else if c = 'p' then readNamedClass m false rest
    else if c = 'P' then readNamedClass m true rest
    else if ['d', 's', 'w', 'D', 'S', 'W'].contains c then
      (m.letterClass? c).map fun set => (.set set, rest)
    else if isEscapable c then some (.char c false, rest)
    else
      match c with
      | 'a' => some (.char '\x07' false, rest)
      | 'f' => some (.char '\x0c' false, rest)
      | 't' => some (.char '\t' false, rest)
      | 'n' => some (.char '\n' false, rest)
      | 'r' => some (.char '\r' false, rest)
      | 'v' => some (.char '\x0b' false, rest)
      | 'A' => some (.look .start, rest)
      | 'z' => some (.look .finish, rest)
      | 'b' => readBoundary m rest
      | 'B' => some (.look (.notWordBoundary m.unicode), rest)
      | '<' => some (.look (.wordStart m.unicode), rest)
      | '>' => some (.look (.wordEnd m.unicode), rest)
      | _ => none

/-- Outside Unicode, two hexadecimal digits above 7F are a byte that is no character. -/
def Modes.admits (m : Modes) (c : Char) (twoDigits : Bool) : Bool :=
  m.unicode || !twoDigits || c.toNat < 128

/-! ## Bracketed classes -/

/-- The operators between sets. -/
inductive SetOp
  | inter
  | diff
  | symDiff

/-- Applies an operator between sets. -/
def SetOp.apply (op : SetOp) (a b : CharSet) : CharSet :=
  match op with
  | inter => .inter a b
  | diff => .diff a b
  | symDiff => .symDiff a b

/-- The union of the items of a class, in their order. -/
def unionOfItems : List ClassPiece → ClassPiece
  | [] => ⟨.none, 0⟩
  | [item] => item
  | items =>
    ⟨items.foldr (fun item set => .union item.set set) .none,
      1 + items.foldl (fun depth item => max depth item.depth) 0⟩

/-- What stands to the left of an operator that still waits for its right side. -/
structure Pending where
  op : SetOp
  left : ClassPiece

/-- Joins the right side to what waits for it. -/
def joinPending (m : Modes) (pending : Option Pending) (right : ClassPiece) : ClassPiece :=
  match pending with
  | none => right
  | some ⟨op, left⟩ =>
    ⟨op.apply (m.fold left.set) (m.fold right.set), 1 + max left.depth right.depth⟩

/-- Reads a class by name, `[:name:]`, behind its first bracket. -/
def readAsciiClass (m : Modes) (t : Text) : Option (Option CharSet × Text) :=
  match t with
  | ':' :: rest =>
    let (negated, rest) := match rest with
      | '^' :: rest => (true, rest)
      | rest => (false, rest)
    let name := rest.takeWhile (· != ':')
    match rest.drop name.length with
    | ':' :: ']' :: after =>
      (asciiClass? (String.ofList name)).map fun set =>
        (m.complement? negated (m.fold set), after)
    | _ => none
  | _ => none

/-- Reads an item of a class: an escape or the character itself. -/
def readClassItem (m : Modes) : Text → Option (Primitive × Text)
  | [] => none
  | '\\' :: rest => readEscape m rest
  | c :: rest => some (.char c false, rest)

/-- A character as the end of a range inside a class. -/
def Modes.classChar? (m : Modes) : Primitive → Option Char
  | .char c twoDigits =>
    if m.admits c twoDigits && (m.unicode || c.toNat < 128) then some c else none
  | _ => none

/-- Reads an item of a class, or a range between two. -/
def readClassRange (m : Modes) (t : Text) : Option (ClassPiece × Text) := do
  let (first, t) ← readClassItem m t
  let t := m.skip t
  match t with
  | [] => none
  | c :: rest =>
    let next := m.peek rest
    if c != '-' || next == some ']' || next == some '-' then
      match first with
      | .char _ _ =>
        let c ← m.classChar? first
        return (⟨.range c c, 0⟩, t)
      | .set set => return (⟨set, 0⟩, t)
      | .look _ => none
    else
      let (last, t) ← readClassItem m (m.skip rest)
      let low ← m.classChar? first
      let high ← m.classChar? last
      if low ≤ high then return (⟨.range low high, 0⟩, t) else none

/-- Reads hyphens at the start of a class. -/
def readHyphens (m : Modes) : Nat → Text → List ClassPiece × Text
  | fuel + 1, '-' :: rest =>
    let (items, t) := readHyphens m fuel (m.skip rest)
    (⟨.range '-' '-', 0⟩ :: items, t)
  | _, t => ([], t)

/-- Reads the start of a class behind its bracket: a sign of complement, hyphens, and a bracket
that stands for itself. -/
def readClassStart (m : Modes) (t : Text) : Bool × List ClassPiece × Text :=
  let t := m.skip t
  let (negated, t) := match t with
    | '^' :: rest => (true, m.skip rest)
    | t => (false, t)
  let (hyphens, t) := readHyphens m t.length t
  match hyphens, t with
  | [], ']' :: rest => (negated, [⟨.range ']' ']', 0⟩], m.skip rest)
  | hyphens, t => (negated, hyphens, t)

/-- Reads the rest of a class. `items` are the items so far in reverse, `pending` what waits for
them. The class comes with the depth of its brackets. -/
def readClass (m : Modes) (negated : Bool) : Nat → Option Pending → List ClassPiece → Text →
    Option (ClassPiece × Text)
  | 0, _, _, _ => none
  | fuel + 1, pending, items, t =>
    let joined := joinPending m pending (unionOfItems items.reverse)
    match m.skip t with
    | [] => none
    | ']' :: rest => do
      let set ← m.complement? negated (m.fold joined.set)
      return (⟨set, joined.depth + 1⟩, rest)
    | '[' :: rest =>
      match readAsciiClass m rest with
      | some (set, after) => do
        let set ← set
        readClass m negated fuel pending (⟨set, 0⟩ :: items) after
      | none => do
        let (negatedInside, inside, t) := readClassStart m rest
        let (item, t) ← readClass m negatedInside fuel none inside.reverse t
        readClass m negated fuel pending (item :: items) t
    | '&' :: '&' :: rest => readClass m negated fuel (some ⟨.inter, joined⟩) [] rest
    | '-' :: '-' :: rest => readClass m negated fuel (some ⟨.diff, joined⟩) [] rest
    | '~' :: '~' :: rest => readClass m negated fuel (some ⟨.symDiff, joined⟩) [] rest
    | t => do
      let (item, t) ← readClassRange m t
      readClass m negated fuel pending (item :: items) t

/-! ## Repetition -/

/-- Reads decimal digits, dropping what verbose mode ignores. -/
def readDigits (m : Modes) : Nat → Text → Text × Text
  | 0, t => ([], t)
  | fuel + 1, t =>
    match t with
    | c :: rest =>
      if isAsciiDigit c then
        let (digits, t) := readDigits m fuel (m.skip rest)
        (c :: digits, t)
      else ([], t)
    | [] => ([], [])

/-- Drops blanks, and in verbose mode comments. -/
def skipBlanks (m : Modes) : Nat → Text → Text
  | fuel + 1, c :: rest => if Text.isBlank c then skipBlanks m fuel (m.skip rest) else c :: rest
  | _, t => t

/-- Reads a count with blanks around it; a missing one is told apart from one too large. -/
def readCount (m : Modes) (t : Text) : Option (Option Nat × Text) :=
  let t := t.dropWhile Text.isBlank
  let (digits, t) := readDigits m (t.length + 1) t
  let t := skipBlanks m t.length t
  match Text.toNat? digits with
  | none => some (none, t)
  | some n => if n < Nat.pow 2 32 then some (some n, t) else none

/-- Reads the bounds of a repetition behind the opening brace, and the closing brace. -/
def readBounds (m : Modes) (t : Text) : Option (Nat × Option Nat × Text) := do
  let t := m.skip t
  if t.isEmpty then none else
  let (least, t) ← readCount m t
  match t with
  | '}' :: rest =>
    let least ← least
    return (least, some least, rest)
  | ',' :: rest =>
    let t := m.skip rest
    let least ← least
    match t with
    | [] => none
    | '}' :: rest => return (least, none, rest)
    | t =>
      let (most, t) ← readCount m t
      let most ← most
      match t with
      | '}' :: rest => if least ≤ most then return (least, some most, rest) else none
      | _ => none
  | _ => none

/-- Reads the question mark that makes a repetition prefer less. -/
def readLazy (t : Text) : Bool × Text :=
  match t with
  | '?' :: rest => (true, rest)
  | t => (false, t)

/-- Repeats the last of the pieces read so far, which come in reverse. Nothing and a switch of
modes cannot be repeated. -/
def repeatLast (m : Modes) (least : Nat) (most : Option Nat) (isLazy : Bool) :
    List Piece → Option (List Piece)
  | [] => none
  | piece :: pieces =>
    match piece.regex with
    | .empty => none
    | body =>
      let greedy := isLazy == m.swapGreed
      some (⟨.repeated least most greedy body, piece.depth + 1⟩ :: pieces)

/-! ## Groups -/

/-- Reads the letters of a switch of modes up to the sign behind them, each at most once, with no
hyphen at the end. -/
def readModeLetters : List Char → Text → Option (List Char × Char × Text)
  | _, [] => none
  | seen, c :: rest =>
    if c = ':' ∨ c = ')' then
      if seen.head? = some '-' then none else some (seen.reverse, c, rest)
    else if "imsUuRx-".toList.contains c && !seen.contains c then
      readModeLetters (c :: seen) rest
    else none

/-- Switches modes on, and off behind a hyphen. -/
def Modes.switch (m : Modes) (letters : List Char) : Modes :=
  let go (state : Modes × Bool) (c : Char) : Modes × Bool :=
    let (m, on) := state
    match c with
    | '-' => (m, false)
    | 'i' => ({ m with caseless := on }, on)
    | 'm' => ({ m with multiLine := on }, on)
    | 's' => ({ m with dotAll := on }, on)
    | 'U' => ({ m with swapGreed := on }, on)
    | 'u' => ({ m with unicode := on }, on)
    | 'R' => ({ m with returns := on }, on)
    | 'x' => ({ m with verbose := on }, on)
    | _ => (m, on)
  (letters.foldl go (m, true)).1

/-- Can the character stand in the name of a group? -/
def isGroupNameChar (first : Bool) (c : Char) : Bool :=
  if first then c == '_' || isAlphabetic c
  else c == '_' || c == '.' || c == '[' || c == ']' || isAlphanumeric c

/-- Reads the name of a group up to the closing angle bracket. -/
def readGroupName (t : Text) : Option (Text × Text) :=
  let name := t.takeWhile (· != '>')
  match t.drop name.length with
  | '>' :: rest =>
    match name with
    | [] => none
    | c :: more =>
      if isGroupNameChar true c && more.all (isGroupNameChar false) then some (name, rest)
      else none
  | _ => none

/-- What stands behind an opening parenthesis. -/
inductive GroupStart
  /-- A group, with its name if it has one. -/
  | group (m : Modes) (captures : Bool) (name : Option Text)
  /-- A switch of modes for what follows. -/
  | switch (m : Modes)

/-- Reads what stands behind an opening parenthesis. Looking around is no part of the notation. -/
def readGroupStart (m : Modes) (t : Text) : Option (GroupStart × Text) :=
  match m.skip t with
  | '?' :: 'P' :: '<' :: rest =>
    (readGroupName rest).map fun (name, t) => (.group m true (some name), t)
  | '?' :: '<' :: rest =>
    if rest.head? = some '=' ∨ rest.head? = some '!' then none
    else (readGroupName rest).map fun (name, t) => (.group m true (some name), t)
  | '?' :: rest => do
    let (letters, sign, t) ← readModeLetters [] rest
    if sign = ':' then return (.group (m.switch letters) false none, t)
    else if letters.isEmpty then none
    else return (.switch (m.switch letters), t)
  | t => some (.group m true none, t)

/-! ## Expressions -/

/-- The expression of pieces in reverse. -/
def concatPieces (pieces : List Piece) : Piece :=
  match pieces with
  | [] => ⟨.empty, 0⟩
  | [piece] => piece
  | pieces =>
    ⟨.concat (pieces.reverse.map (·.regex)),
      1 + pieces.foldl (fun depth piece => max depth piece.depth) 0⟩

/-- The expression of branches in reverse. -/
def joinBranches (branches : List Piece) : Piece :=
  match branches with
  | [] => ⟨.empty, 0⟩
  | [branch] => branch
  | branches =>
    ⟨.alternation (branches.reverse.map (·.regex)),
      1 + branches.foldl (fun depth branch => max depth branch.depth) 0⟩

/-- The expression of a primitive. -/
def Modes.primitive? (m : Modes) : Primitive → Option Regex
  | .char c twoDigits => if m.admits c twoDigits then some (.one (m.single c)) else none
  | .set set => some (.one set)
  | .look condition => some (.look condition)

/-- Any character, line ends excepted unless the mode says otherwise. -/
def Modes.dot? (m : Modes) : Option Regex :=
  if !m.unicode then none
  else if m.dotAll then some (.one (.complement .none))
  else if m.returns then some (.one (.complement (.oneOf ['\r', '\n'])))
  else some (.one (.complement (.range '\n' '\n')))

/-- The condition of a caret. -/
def Modes.caret (m : Modes) : Look :=
  if m.multiLine then if m.returns then .lineStartReturn else .lineStart else .start

/-- The condition of a dollar sign. -/
def Modes.dollar (m : Modes) : Look :=
  if m.multiLine then if m.returns then .lineEndReturn else .lineEnd else .finish

/-- An expression as far as it was read: its branches and the pieces of the last one, both in
reverse, and the names of the groups so far. -/
structure Reading where
  branches : List Piece
  pieces : List Piece
  names : List Text

/-- The expression that was read. -/
def Reading.piece (r : Reading) : Piece :=
  joinBranches (concatPieces r.pieces :: r.branches)

/-- Adds a piece. -/
def Reading.push (r : Reading) (piece : Piece) : Reading :=
  { r with pieces := piece :: r.pieces }

/-- Starts the next branch. -/
def Reading.branch (r : Reading) : Reading :=
  { r with branches := concatPieces r.pieces :: r.branches, pieces := [] }

/-- Repeats the last piece. -/
def Reading.repeat? (r : Reading) (m : Modes) (least : Nat) (most : Option Nat) (isLazy : Bool) :
    Option Reading :=
  (repeatLast m least most isLazy r.pieces).map fun pieces => { r with pieces := pieces }

/-- Reads an expression up to the end of the text or a closing parenthesis. -/
def readExpression : Nat → Modes → Reading → Text → Option (Reading × Text)
  | 0, _, _, _ => none
  | fuel + 1, m, r, t =>
    match m.skip t with
    | [] => some (r, [])
    | ')' :: rest => some (r, ')' :: rest)
    | '|' :: rest => readExpression fuel m r.branch rest
    | '(' :: rest => do
      let (start, rest) ← readGroupStart m rest
      match start with
      | .switch m => readExpression fuel m (r.push ⟨.empty, 0⟩) rest
      | .group inner captures name =>
        let names ← match name with
          | none => some r.names
          | some name => if r.names.contains name then none else some (name :: r.names)
        let (body, rest) ← readExpression fuel inner ⟨[], [], names⟩ rest
        match rest with
        | ')' :: rest =>
          let piece := body.piece
          let group : Piece := ⟨.group captures piece.regex, piece.depth + 1⟩
          readExpression fuel m { r.push group with names := body.names } rest
        | _ => none
    | '[' :: rest => do
      let (negated, items, t) := readClassStart m rest
      let (set, t) ← readClass m negated (t.length + 1) none items.reverse t
      readExpression fuel m (r.push ⟨.one set.set, set.depth⟩) t
    | '?' :: rest => do
      let (isLazy, rest) := readLazy rest
      let r ← r.repeat? m 0 (some 1) isLazy
      readExpression fuel m r rest
    | '*' :: rest => do
      let (isLazy, rest) := readLazy rest
      let r ← r.repeat? m 0 none isLazy
      readExpression fuel m r rest
    | '+' :: rest => do
      let (isLazy, rest) := readLazy rest
      let r ← r.repeat? m 1 none isLazy
      readExpression fuel m r rest
    | '{' :: rest => do
      let (least, most, rest) ← readBounds m rest
      let (isLazy, rest) := readLazy (m.skip rest)
      let r ← r.repeat? m least most isLazy
      readExpression fuel m r rest
    | '\\' :: rest => do
      let (primitive, rest) ← readEscape m rest
      let regex ← m.primitive? primitive
      readExpression fuel m (r.push ⟨regex, 0⟩) rest
    | '.' :: rest => do
      let regex ← m.dot?
      readExpression fuel m (r.push ⟨regex, 0⟩) rest
    | '^' :: rest => readExpression fuel m (r.push ⟨.look m.caret, 0⟩) rest
    | '$' :: rest => readExpression fuel m (r.push ⟨.look m.dollar, 0⟩) rest
    | c :: rest => readExpression fuel m (r.push ⟨.one (m.single c), 0⟩) rest

/-- The expression of a pattern that is read in some modes. -/
def readPatternIn (m : Modes) (t : Text) : Option Regex := do
  let (reading, rest) ← readExpression (t.length + 1) m ⟨[], [], []⟩ t
  let piece := reading.piece
  if rest.isEmpty && piece.depth ≤ maxDepth then return piece.regex else none

end DialogueScript.Pattern
