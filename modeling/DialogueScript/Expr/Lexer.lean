import DialogueScript.Expr.Fault

/-!
# Reading tokens

Blanks separate tokens and have no other meaning. Offsets count bytes.

Main statement: `length_drop_lt` (what is left behind a token is shorter than what was there).
-/

namespace DialogueScript.Expr

open Alphabet

/-- Characters that continue a word or the name of a variable. -/
def continuesWord (c : Char) : Bool := isAlphanumeric c || c == '_'

/-- The token of a word. -/
def wordToken (word : Text) : Token :=
  if word = "and".toList then .and
  else if word = "or".toList then .or
  else if word = "not".toList then .not
  else if word = "true".toList ∨ word = "True".toList then .bool true
  else if word = "false".toList ∨ word = "False".toList then .bool false
  else .word word

/-- The fraction of a number at the start of a text: a point and the digits behind it. -/
def fractionPart : Text → Text
  | '.' :: rest => '.' :: rest.takeWhile isAsciiDigit
  | _ => []

/-- A sign at the start of a text. -/
def signPart : Text → Text
  | c :: _ => if c = '+' ∨ c = '-' then [c] else []
  | [] => []

/-- The exponent of a number at the start of a text: `e` or `E`, perhaps a sign, and digits. -/
def exponentPart : Text → Text
  | c :: rest =>
    if c = 'e' ∨ c = 'E' then
      let sign := signPart rest
      let digits := (rest.drop sign.length).takeWhile isAsciiDigit
      if digits.isEmpty then [] else c :: sign ++ digits
    else []
  | [] => []

/-- The value of a row of decimal digits. -/
def decimalNumber (digits : Text) : Nat := (Text.toNat? digits).getD 0

/-- The value of an exponent with its letter. -/
def exponentValue (exponent : Text) : Int :=
  match exponent.drop 1 with
  | '-' :: digits => -decimalNumber digits
  | '+' :: digits => decimalNumber digits
  | digits => decimalNumber digits

/-- The number at the start of a text, with the count of its characters. -/
def readNumber (offset : Nat) (t : Text) : Except Fault (Token × Nat) :=
  let whole := t.takeWhile isAsciiDigit
  let fraction := fractionPart (t.drop whole.length)
  let exponent := exponentPart (t.drop (whole.length + fraction.length))
  let size := whole.length + fraction.length + exponent.length
  if (t.drop size).head?.any continuesWord then .error (.malformedNumber offset)
  else if fraction.isEmpty && exponent.isEmpty then
    match Number.ofInt? (decimalNumber whole) with
    | some value => .ok (.int value, size)
    | none => .error (.integerTooLarge whole)
  else
    let digits := decimalNumber (whole ++ fraction.drop 1)
    let scale := exponentValue exponent - (fraction.length - 1 : Nat)
    .ok (.float (Binary64.ofDecimal digits scale), size)

/-- The variable that starts with a dollar sign in front of `rest`, with the count of its further
characters. -/
def readVariable (offset : Nat) (rest : Text) : Except Fault (Token × Nat) :=
  if rest.head?.any isAsciiLetter then
    let name := rest.takeWhile continuesWord
    if (rest.drop name.length).head? = some '$' then
      .ok (.var ('$' :: name ++ ['$']), name.length + 1)
    else .error (.unterminatedVariable offset)
  else .error (.malformedVariable offset)

/-- The token that starts with `c` in front of `rest`, with the count of its further characters. -/
def readToken (offset : Nat) (c : Char) (rest : Text) : Except Fault (Token × Nat) :=
  let next := rest.head?
  match c with
  | '+' => .ok (.plus, 0)
  | '-' => .ok (.minus, 0)
  | '*' => if next = some '*' then .ok (.starStar, 1) else .ok (.star, 0)
  | '/' => .ok (.slash, 0)
  | '%' => .ok (.percent, 0)
  | '(' => .ok (.openParen, 0)
  | ')' => .ok (.closeParen, 0)
  | '=' =>
    if next = some '=' then .ok (.equal, 1) else .error (.unexpectedCharacter c offset)
  | '!' =>
    if next = some '=' then .ok (.notEqual, 1) else .error (.unexpectedCharacter c offset)
  | '<' => if next = some '=' then .ok (.lessEqual, 1) else .ok (.less, 0)
  | '>' => if next = some '=' then .ok (.greaterEqual, 1) else .ok (.greater, 0)
  | '$' => readVariable offset rest
  | _ =>
    if isAsciiDigit c || (c == '.' && next.any isAsciiDigit) then
      (readNumber offset (c :: rest)).map fun (token, size) => (token, size - 1)
    else if isAlphabetic c || c == '_' then
      let tail := rest.takeWhile continuesWord
      .ok (wordToken (c :: tail), tail.length)
    else .error (.unexpectedCharacter c offset)

theorem length_drop_lt (n : Nat) (c : Char) (rest : Text) :
    (rest.drop n).length < (c :: rest).length := by
  simp only [List.length_drop, List.length_cons]
  omega

/-- The tokens of a text that stands behind `offset` bytes; the last one is the end. -/
def tokensFrom (offset : Nat) : Text → Except Fault (List Lexeme)
  | [] => .ok [⟨.finish, [], offset⟩]
  | c :: rest =>
    if Text.isBlank c then tokensFrom (offset + c.utf8Size) rest
    else do
      let (token, size) ← readToken offset c rest
      let spelling := c :: rest.take size
      let more ← tokensFrom (offset + Text.bytes spelling) (rest.drop size)
      return ⟨token, spelling, offset⟩ :: more
termination_by t => t.length
decreasing_by
  · simp
  · exact length_drop_lt size c rest

@[simp] theorem tokensFrom_nil (offset : Nat) :
    tokensFrom offset [] = .ok [⟨.finish, [], offset⟩] := by
  rw [tokensFrom.eq_def]

theorem tokensFrom_cons (offset : Nat) (c : Char) (rest : Text) : tokensFrom offset (c :: rest)
    = if Text.isBlank c then tokensFrom (offset + c.utf8Size) rest
      else do
        let (token, size) ← readToken offset c rest
        let spelling := c :: rest.take size
        let more ← tokensFrom (offset + Text.bytes spelling) (rest.drop size)
        return ⟨token, spelling, offset⟩ :: more := by
  rw [tokensFrom.eq_def]

/-- The tokens of a text. -/
def tokenize (t : Text) : Except Fault (List Lexeme) := tokensFrom 0 t

end DialogueScript.Expr
