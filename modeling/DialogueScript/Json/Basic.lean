import DialogueScript.Alphabet.Classes
import DialogueScript.Number

/-!
# JSON values

The values of JSON texts. Numbers are kept as they are written, since what they stand for depends
on who asks; an object keeps its fields in their order, also those of equal names.
-/

namespace DialogueScript

/-- A number as it is written. -/
structure JsonNumber where
  negative : Bool
  whole : Text
  /-- The digits behind the point, if there is one. -/
  fraction : Option Text
  /-- The exponent, if there is one: whether it is negative, and its digits. -/
  exponent : Option (Bool × Text)
  deriving DecidableEq, Repr

/-- A JSON value. -/
inductive Json
  | null
  | bool (value : Bool)
  | number (literal : JsonNumber)
  | text (value : Text)
  /-- A string with half of a surrogate pair in it, which is no text. -/
  | brokenText
  | array (items : List Json)
  /-- An object; a field's name is missing if it is no text. -/
  | object (fields : List (Option Text × Json))
  deriving Repr, Inhabited

namespace JsonNumber

/-- The greatest unsigned integer of 64 bits; further digits count for the scale only. -/
def maxSignificand : Nat := Nat.pow 2 64 - 1

/-- The value of a digit. -/
def digitValue (c : Char) : Nat := c.toNat - '0'.toNat

/-- Adds digits to a significand as long as it fits; what does not fit is given back. -/
def addDigits (significand : Nat) : Text → Nat × Text
  | [] => (significand, [])
  | c :: rest =>
    let next := 10 * significand + digitValue c
    if next ≤ maxSignificand then addDigits next rest else (significand, c :: rest)

/-- A power of ten as a double. -/
def powerOfTen (n : Nat) : Binary64 := Binary64.ofDecimal 1 n

/-- Divides by a power of ten that may be beyond the doubles, in steps. A double is zero after
three of them. -/
def scaleDown : Nat → Binary64 → Nat → Binary64
  | 0, x, _ => x
  | fuel + 1, x, n =>
    if n ≤ 308 then x.div (powerOfTen n)
    else if x.isZero then x
    else scaleDown fuel (x.div (powerOfTen 308)) (n - 308)

/-- A significand times a power of ten, rounded twice: as a double, and after one multiplication
or division. Numbers beyond the doubles have no value. -/
def scale (significand : Nat) (exponent : Int) : Option Binary64 :=
  let x := Binary64.ofInt significand
  match exponent with
  | .negSucc n => some (scaleDown 4 x (n + 1))
  | .ofNat n =>
    if n ≤ 308 then
      let y := x.mul (powerOfTen n)
      if y.isInfinite then none else some y
    else if x.isZero then some x
    else none

/-- The magnitude of a number that is written with a point, an exponent or too many digits. -/
def magnitude? (n : JsonNumber) : Option Binary64 :=
  let (significand, dropped) := addDigits 0 n.whole
  let (significand, left) := addDigits significand (n.fraction.getD [])
  let taken := (n.fraction.getD []).length - left.length
  let start : Int := (dropped.length : Int) - taken
  match n.exponent with
  | none => scale significand start
  | some (isNegative, digits) =>
    let exponent : Int := (Text.toNat? digits).getD 0
    if exponent < 2147483648 then
      scale significand (if isNegative then start - exponent else start + exponent)
    else if significand ≠ 0 ∧ !isNegative then none
    else some (Binary64.zero false)

/-- The number: an integer if it is written as one and fits, otherwise a double. A negative zero
is a double. -/
def value? (n : JsonNumber) : Option Number :=
  let whole := (Text.toNat? n.whole).getD 0
  let sign (x : Binary64) : Binary64 := if n.negative then x.neg else x
  if n.fraction.isNone && n.exponent.isNone && whole ≤ maxSignificand then
    let exact : Int := if n.negative then -whole else whole
    match if n.negative && whole == 0 then none else Number.ofInt? exact with
    | some i => some (.int i)
    | none => some (.float (sign (Binary64.ofInt whole)))
  else n.magnitude?.map fun x => .float (sign x)

/-- The written form. -/
def written (n : JsonNumber) : Text :=
  let sign : Text := if n.negative then ['-'] else []
  let fraction := match n.fraction with
    | some digits => '.' :: digits
    | none => []
  let exponent := match n.exponent with
    | some (true, digits) => 'e' :: '-' :: digits
    | some (false, digits) => 'e' :: digits
    | none => []
  sign ++ n.whole ++ fraction ++ exponent

end JsonNumber

namespace Json

/-- The object with these fields. -/
def ofFields (fields : List (String × Json)) : Json :=
  object (fields.map fun (name, value) => (some name.toList, value))

mutual

/-- How deep arrays and objects nest. -/
def depth : Json → Nat
  | .array items => 1 + depthOfItems items
  | .object fields => 1 + depthOfFields fields
  | _ => 0

/-- The greatest depth of items. -/
def depthOfItems : List Json → Nat
  | [] => 0
  | item :: rest => max item.depth (depthOfItems rest)

/-- The greatest depth of fields. -/
def depthOfFields : List (Option Text × Json) → Nat
  | [] => 0
  | (_, value) :: rest => max value.depth (depthOfFields rest)

end

mutual

/-- Are all strings texts and all numbers within the doubles? -/
def isSound : Json → Bool
  | .brokenText => false
  | .number literal => literal.value?.isSome
  | .array items => areSound items
  | .object fields => areSoundFields fields
  | .null | .bool _ | .text _ => true

/-- Are all the items sound? -/
def areSound : List Json → Bool
  | [] => true
  | item :: rest => item.isSound && areSound rest

/-- Are all the fields sound, names included? -/
def areSoundFields : List (Option Text × Json) → Bool
  | [] => true
  | (name, value) :: rest => name.isSome && value.isSound && areSoundFields rest

end

/-- The text, if it is one. -/
def text? : Json → Option Text
  | text value => some value
  | _ => none

/-- The items, if it is an array. -/
def items? : Json → Option (List Json)
  | array items => some items
  | _ => none

/-- The texts of an array of texts. -/
def texts? (json : Json) : Option (List Text) := do
  let items ← json.items?
  items.mapM text?

/-- The values of the fields with these names, in the order of the names; a field that is missing
has none. Fields of other names have no meaning. An array is read as a record whose fields come
without their names; it must hold the first `least` of them. -/
def record? (names : List String) (least : Nat) : Json → Option (List (Option Json))
  | array items =>
    if least ≤ items.length && items.length ≤ names.length then
      some (items.map some ++ List.replicate (names.length - items.length) none)
    else none
  | object fields =>
    if fields.any fun field => field.1.isNone then none
    else
      names.mapM fun name =>
        match fields.filter fun field => field.1 == some name.toList with
        | [] => some none
        | [field] => some (some field.2)
        | _ => none
  | _ => none

/-- A record with a field `kind` that tells what it is, and the rest of it. -/
def tagged? : Json → Option (Text × Json)
  | array (text tag :: items) => some (tag, array items)
  | object fields =>
    match fields.partition fun field => field.1 == some "kind".toList with
    | ([(_, text tag)], rest) => some (tag, object rest)
    | _ => none
  | _ => none

end Json

end DialogueScript
