import DialogueScript.Json.Basic

/-!
# Writing JSON

Strings are quoted with the short escapes where there are some, and only control characters are
written by their codes. The compact form has no blanks; the spread form has one item on a line,
indented by two blanks.
-/

namespace DialogueScript.Json

/-- A hexadecimal digit in lower case. -/
def hexDigit (n : Nat) : Char := Nat.digitChar n

/-- A character inside quotes. -/
def quoteChar (c : Char) : Text :=
  match c with
  | '"' => ['\\', '"']
  | '\\' => ['\\', '\\']
  | '\n' => ['\\', 'n']
  | '\r' => ['\\', 'r']
  | '\t' => ['\\', 't']
  | '\x08' => ['\\', 'b']
  | '\x0c' => ['\\', 'f']
  | c =>
    if c.toNat < 32 then
      ['\\', 'u', '0', '0', hexDigit (c.toNat / 16), hexDigit (c.toNat % 16)]
    else [c]

/-- A text in quotes. -/
def quote (t : Text) : Text := '"' :: t.flatMap quoteChar ++ ['"']

mutual

/-- The compact form. -/
def compact : Json → Text
  | .null => "null".toList
  | .bool true => "true".toList
  | .bool false => "false".toList
  | .number literal => literal.written
  | .text value => quote value
  | .brokenText => quote []
  | .array items => '[' :: compactItems items ++ [']']
  | .object fields => '{' :: compactFields fields ++ ['}']

/-- The items of an array, divided by commas. -/
def compactItems : List Json → Text
  | [] => []
  | [item] => item.compact
  | item :: rest => item.compact ++ ',' :: compactItems rest

/-- The fields of an object, divided by commas. -/
def compactFields : List (Option Text × Json) → Text
  | [] => []
  | [(name, value)] => quote (name.getD []) ++ ':' :: value.compact
  | (name, value) :: rest =>
    quote (name.getD []) ++ ':' :: value.compact ++ ',' :: compactFields rest

end

/-- The start of a line at an indentation. -/
def newLine (level : Nat) : Text := '\n' :: List.replicate (2 * level) ' '

mutual

/-- The spread form at an indentation. -/
def spreadAt (level : Nat) : Json → Text
  | .array [] => ['[', ']']
  | .array (item :: rest) =>
    '[' :: spreadItems (level + 1) (item :: rest) ++ newLine level ++ [']']
  | .object [] => ['{', '}']
  | .object (field :: rest) =>
    '{' :: spreadFields (level + 1) (field :: rest) ++ newLine level ++ ['}']
  | json => json.compact

/-- The items of an array, each on its line. -/
def spreadItems (level : Nat) : List Json → Text
  | [] => []
  | [item] => newLine level ++ item.spreadAt level
  | item :: rest => newLine level ++ item.spreadAt level ++ ',' :: spreadItems level rest

/-- The fields of an object, each on its line. -/
def spreadFields (level : Nat) : List (Option Text × Json) → Text
  | [] => []
  | [(name, value)] => newLine level ++ quote (name.getD []) ++ ": ".toList ++ value.spreadAt level
  | (name, value) :: rest =>
    newLine level ++ quote (name.getD []) ++ ": ".toList ++ value.spreadAt level ++
      ',' :: spreadFields level rest

end

/-- The spread form. -/
def spread (json : Json) : Text := json.spreadAt 0

end DialogueScript.Json
