import DialogueScript.Json.Basic

/-!
# Reading JSON

Reads a whole JSON text; anything else is `none`. Blanks are the space, the tab, the line feed and
the carriage return.

Each step of the reader takes a character, so the length of the text is fuel enough.
-/

namespace DialogueScript.Json

open Alphabet

/-- The blanks of JSON. -/
def isJsonBlank (c : Char) : Bool := c == ' ' || c == '\n' || c == '\t' || c == '\r'

/-- Drops blanks. -/
def skipJson (t : Text) : Text := t.dropWhile isJsonBlank

/-- Four hexadecimal digits, and the text behind them. -/
def readCode (t : Text) : Option (Nat × Text) :=
  let digits := t.take 4
  if digits.length = 4 ∧ digits.all isHexDigit then some (hexNumber digits, t.drop 4) else none

/-- The second half of a surrogate pair, written as an escape. -/
def readLowHalf (t : Text) : Option (Nat × Text) :=
  match t with
  | '\\' :: 'u' :: rest => do
    let (code, rest) ← readCode rest
    if 0xDC00 ≤ code ∧ code ≤ 0xDFFF then return (code, rest) else none
  | _ => none

/-- The character of an escape by code behind its letter, and the text behind it. Half of a
surrogate pair is no character. -/
def readCoded (t : Text) : Option (Option Char × Text) := do
  let (code, rest) ← readCode t
  if 0xD800 ≤ code ∧ code ≤ 0xDBFF then
    match readLowHalf rest with
    | some (low, after) =>
      return (charOf? (0x10000 + (code - 0xD800) * 0x400 + (low - 0xDC00)), after)
    | none => return (none, rest)
  else return (charOf? code, rest)

/-- The character of an escape of one letter. -/
def escapedChar? : Char → Option Char
  | '"' => some '"'
  | '\\' => some '\\'
  | '/' => some '/'
  | 'b' => some '\x08'
  | 'f' => some '\x0c'
  | 'n' => some '\n'
  | 'r' => some '\r'
  | 't' => some '\t'
  | _ => none

/-- Reads a string behind its opening quote. The string has no text if a character is missing. -/
def readString : Nat → Text → Option (Option Text × Text)
  | 0, _ => none
  | fuel + 1, t =>
    match t with
    | [] => none
    | '"' :: rest => some (some [], rest)
    | '\\' :: 'u' :: rest => do
      let (c, rest) ← readCoded rest
      let (more, rest) ← readString fuel rest
      return (do return (← c) :: (← more), rest)
    | '\\' :: letter :: rest => do
      let c ← escapedChar? letter
      let (more, rest) ← readString fuel rest
      return (more.map (c :: ·), rest)
    | c :: rest =>
      if c.toNat < 32 ∨ c = '\\' then none
      else do
        let (more, rest) ← readString fuel rest
        return (more.map (c :: ·), rest)

/-- Reads digits, at least one. -/
def readDigits1 (t : Text) : Option (Text × Text) :=
  let digits := t.takeWhile isAsciiDigit
  if digits.isEmpty then none else some (digits, t.drop digits.length)

/-- Reads the fraction of a number, if there is one. -/
def readFraction (t : Text) : Option (Option Text × Text) :=
  match t with
  | '.' :: rest => (readDigits1 rest).map fun (digits, t) => (some digits, t)
  | t => some (none, t)

/-- Reads the exponent of a number, if there is one. -/
def readExponent (t : Text) : Option (Option (Bool × Text) × Text) :=
  match t with
  | c :: rest =>
    if c = 'e' ∨ c = 'E' then
      let (isNegative, rest) := match rest with
        | '-' :: rest => (true, rest)
        | '+' :: rest => (false, rest)
        | rest => (false, rest)
      (readDigits1 rest).map fun (digits, t) => (some (isNegative, digits), t)
    else some (none, c :: rest)
  | [] => some (none, [])

/-- Reads a number. A leading zero stands alone. -/
def readNumber (t : Text) : Option (JsonNumber × Text) := do
  let (negative, t) := match t with
    | '-' :: rest => (true, rest)
    | t => (false, t)
  let (whole, t) ← readDigits1 t
  if whole.head? = some '0' ∧ whole.length ≠ 1 then none
  else
    let (fraction, t) ← readFraction t
    let (exponent, t) ← readExponent t
    return (⟨negative, whole, fraction, exponent⟩, t)

mutual

/-- Reads a value. -/
def readValue : Nat → Text → Option (Json × Text)
  | 0, _ => none
  | fuel + 1, t =>
    match skipJson t with
    | [] => none
    | 'n' :: 'u' :: 'l' :: 'l' :: rest => some (.null, rest)
    | 't' :: 'r' :: 'u' :: 'e' :: rest => some (.bool true, rest)
    | 'f' :: 'a' :: 'l' :: 's' :: 'e' :: rest => some (.bool false, rest)
    | '"' :: rest => do
      let (value, rest) ← readString (rest.length + 1) rest
      match value with
      | some value => return (.text value, rest)
      | none => return (.brokenText, rest)
    | '[' :: rest =>
      match skipJson rest with
      | ']' :: rest => some (.array [], rest)
      | rest => do
        let (items, rest) ← readItems fuel rest
        return (.array items, rest)
    | '{' :: rest =>
      match skipJson rest with
      | '}' :: rest => some (.object [], rest)
      | rest => do
        let (fields, rest) ← readFields fuel rest
        return (.object fields, rest)
    | t => do
      let (literal, rest) ← readNumber t
      return (.number literal, rest)

/-- Reads the items of an array and its closing bracket. -/
def readItems : Nat → Text → Option (List Json × Text)
  | 0, _ => none
  | fuel + 1, t => do
    let (item, t) ← readValue fuel t
    match skipJson t with
    | ',' :: rest => do
      let (items, rest) ← readItems fuel rest
      return (item :: items, rest)
    | ']' :: rest => return ([item], rest)
    | _ => none

/-- Reads the fields of an object and its closing brace. -/
def readFields : Nat → Text → Option (List (Option Text × Json) × Text)
  | 0, _ => none
  | fuel + 1, t =>
    match skipJson t with
    | '"' :: rest => do
      let (name, rest) ← readString (rest.length + 1) rest
      match skipJson rest with
      | ':' :: rest => do
        let (value, t) ← readValue fuel rest
        match skipJson t with
        | ',' :: rest => do
          let (fields, rest) ← readFields fuel rest
          return ((name, value) :: fields, rest)
        | '}' :: rest => return ([(name, value)], rest)
        | _ => none
      | _ => none
    | _ => none

end

/-- The value of a JSON text. -/
def parse (t : Text) : Option Json := do
  let (json, rest) ← readValue (2 * t.length + 2) t
  if (skipJson rest).isEmpty then return json else none

end DialogueScript.Json
