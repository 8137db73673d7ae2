/-!
# Double precision numbers

A number of IEEE 754 binary64, kept as its word, with arithmetic in exact integers.

A finite number is `scaled` units of `2 ^ -1074`. The exact result of an operation is a quotient
`n / d` of such units, and `nearest` rounds it to the nearest number, ties to the even significand.

Main statement: `unit_mul_significand` (the unit and the significand of a finite number give its
magnitude).
-/

namespace DialogueScript

/-- A double precision number, by its 64-bit word. -/
structure Binary64 where
  word : UInt64
  deriving DecidableEq, Repr, Inhabited

namespace Binary64

/-- The word without its sign bit. -/
def magnitudeWord (x : Binary64) : Nat := x.word.toNat % Nat.pow 2 63

/-- Is the sign bit set? -/
def isNegative (x : Binary64) : Bool := Nat.pow 2 63 ≤ x.word.toNat

/-- The eleven exponent bits. -/
def exponentField (x : Binary64) : Nat := x.magnitudeWord / Nat.pow 2 52

/-- The fifty-two fraction bits. -/
def fractionField (x : Binary64) : Nat := x.magnitudeWord % Nat.pow 2 52

/-- The magnitude word of infinity; larger ones are not numbers. -/
def infinityWord : Nat := 2047 * Nat.pow 2 52

/-- Not a number? -/
def isNaN (x : Binary64) : Bool := infinityWord < x.magnitudeWord

/-- Plus or minus infinity? -/
def isInfinite (x : Binary64) : Bool := x.magnitudeWord == infinityWord

/-- Plus or minus zero? -/
def isZero (x : Binary64) : Bool := x.magnitudeWord == 0

/-- The significand of a finite number: the hidden bit is set unless the number is subnormal. -/
def significand (x : Binary64) : Nat :=
  if x.exponentField = 0 then x.fractionField else Nat.pow 2 52 + x.fractionField

/-- The power of two by which the significand of a finite number is scaled, in units of
`2 ^ -1074`. -/
def power (x : Binary64) : Nat := x.exponentField - 1

/-- The magnitude of a finite number in units of `2 ^ -1074`. -/
def magnitude (x : Binary64) : Nat := x.significand * Nat.pow 2 x.power

/-- A finite number in units of `2 ^ -1074`. -/
def scaled (x : Binary64) : Int := if x.isNegative then -x.magnitude else x.magnitude

/-- The number with this sign and magnitude word. -/
def ofFields (negative : Bool) (magnitudeWord : Nat) : Binary64 :=
  ⟨UInt64.ofNat ((if negative then Nat.pow 2 63 else 0) + magnitudeWord)⟩

/-- Zero with a sign. -/
def zero (negative : Bool) : Binary64 := ofFields negative 0

/-- Infinity with a sign. -/
def infinity (negative : Bool) : Binary64 := ofFields negative infinityWord

/-- The quiet not-a-number. -/
def nan : Binary64 := ofFields false (infinityWord + Nat.pow 2 51)

/-- The quotient of naturals rounded to the nearest natural, a half to the even one. -/
def divNearest (n d : Nat) : Nat :=
  let q := n / d
  let r := n % d
  if d < 2 * r || (d == 2 * r && q % 2 == 1) then q + 1 else q

/-- The number nearest to `n / d` units of `2 ^ -1074`, ties to the even significand. The unit of
the last place is fixed first; a significand that rounds up to the next power of two carries into
the exponent bits by itself. -/
def nearest (negative : Bool) (n d : Nat) : Binary64 :=
  let whole := n / d
  let power := if whole < Nat.pow 2 53 then 0 else whole.log2 - 52
  ofFields negative (min infinityWord (power * Nat.pow 2 52 + divNearest n (d * Nat.pow 2 power)))

/-- Units of `2 ^ -1074` in one. -/
def unit : Nat := Nat.pow 2 1074

/-- The number nearest to an integer. -/
def ofInt (n : Int) : Binary64 := nearest (n < 0) (n.natAbs * unit) 1

/-- The number nearest to `digits * 10 ^ exponent`. Exponents beyond what any double can show are
cut, so that no huge power of ten is computed. -/
def ofDecimal (digits : Nat) (exponent : Int) : Binary64 :=
  let size : Int := (Nat.toDigits 10 digits).length
  if digits = 0 then zero false
  else if 400 < size + exponent then infinity false
  else if size + exponent < -400 then zero false
  else match exponent with
    | .ofNat e => nearest false (digits * Nat.pow 10 e * unit) 1
    | .negSucc e => nearest false (digits * unit) (Nat.pow 10 (e + 1))

/-- The number of the other sign. -/
def neg (x : Binary64) : Binary64 := ofFields (!x.isNegative) x.magnitudeWord

/-- The number nearest to an integer of units, zero taking the sign given. -/
def ofScaled (zeroIsNegative : Bool) (n : Int) : Binary64 :=
  if n = 0 then zero zeroIsNegative else nearest (n < 0) n.natAbs 1

/-- Sum. Only two negative zeros add up to negative zero. -/
def add (x y : Binary64) : Binary64 :=
  if x.isNaN || y.isNaN then nan
  else if x.isInfinite then if y.isInfinite && x.isNegative != y.isNegative then nan else x
  else if y.isInfinite then y
  else ofScaled (x.isNegative && y.isNegative) (x.scaled + y.scaled)

/-- Difference. -/
def sub (x y : Binary64) : Binary64 := add x y.neg

/-- Product. -/
def mul (x y : Binary64) : Binary64 :=
  let negative := x.isNegative != y.isNegative
  if x.isNaN || y.isNaN then nan
  else if x.isInfinite || y.isInfinite then
    if x.isZero || y.isZero then nan else infinity negative
  else nearest negative (x.magnitude * y.magnitude) unit

/-- Quotient. -/
def div (x y : Binary64) : Binary64 :=
  let negative := x.isNegative != y.isNegative
  if x.isNaN || y.isNaN then nan
  else if x.isInfinite then if y.isInfinite then nan else infinity negative
  else if y.isInfinite then zero negative
  else if y.isZero then if x.isZero then nan else infinity negative
  else nearest negative (x.magnitude * unit) y.magnitude

/-- Remainder of the division rounded toward zero; it is exact and has the sign of `x`. -/
def rem (x y : Binary64) : Binary64 :=
  if x.isNaN || y.isNaN || x.isInfinite || y.isZero then nan
  else if y.isInfinite then x
  else nearest x.isNegative (x.magnitude % y.magnitude) 1

/-- How two numbers compare; nothing compares with a not-a-number, and the zeros are equal. -/
def compare? (x y : Binary64) : Option Ordering :=
  if x.isNaN || y.isNaN then none
  else
    let key (z : Binary64) : Int := if z.isNegative then -z.magnitudeWord else z.magnitudeWord
    some (compare (key x) (key y))

theorem unit_mul_significand (x : Binary64) : x.magnitude = Nat.pow 2 x.power * x.significand :=
  Nat.mul_comm _ _

end Binary64

end DialogueScript
