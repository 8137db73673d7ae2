import DialogueScript.Decimal.Shortest
import DialogueScript.Text.Basic

/-!
# Writing doubles

A `Layout` says how the shortest digits of a double are set: positionally, or with an exponent.
Every layout of this library writes at least one digit after the point of a positional number.
-/

namespace DialogueScript.Decimal

/-- The choices of a written form. -/
structure Layout where
  /-- Numbers whose leading digit stands for a smaller power of ten have an exponent. -/
  positionalFrom : Option Int
  /-- Numbers whose leading digit stands for this power of ten or more have an exponent. -/
  positionalBelow : Int
  /-- Is a plus sign written before a positive exponent? -/
  plusSign : Bool
  /-- Which of two equally near decimals is written. -/
  tie : Tie
  /-- The text of a value that is not a number. -/
  nan : Text

/-- Sets digits positionally; `leading` is the power of ten of the first of them. -/
def positional (digits : Text) (leading : Int) : Text :=
  match leading with
  | .negSucc zeros => '0' :: '.' :: List.replicate zeros '0' ++ digits
  | .ofNat l =>
    if digits.length ≤ l + 1 then
      digits ++ List.replicate (l + 1 - digits.length) '0' ++ ['.', '0']
    else digits.take (l + 1) ++ '.' :: digits.drop (l + 1)

/-- Sets digits with an exponent, a point after the first of several. -/
def exponential (plusSign : Bool) (digits : Text) (leading : Int) : Text :=
  let point := if digits.length ≤ 1 then digits else digits.take 1 ++ '.' :: digits.drop 1
  let sign : Text := if plusSign && 0 ≤ leading then ['+'] else []
  point ++ 'e' :: sign ++ Text.ofInt leading

/-- Writes the magnitude of a finite double. -/
def Layout.writeMagnitude (layout : Layout) (x : Binary64) : Text :=
  if x.isZero then ['0', '.', '0']
  else
    let short := shortest layout.tie x
    let digits := Text.ofNat short.digits
    let leading := short.exponent + (digits.length - 1 : Nat)
    let small := match layout.positionalFrom with
      | some least => leading < least
      | none => false
    if small || layout.positionalBelow ≤ leading then
      exponential layout.plusSign digits leading
    else positional digits leading

/-- Writes a double. -/
def Layout.write (layout : Layout) (x : Binary64) : Text :=
  if x.isNaN then layout.nan
  else
    let text := if x.isInfinite then ['i', 'n', 'f'] else layout.writeMagnitude x
    if x.isNegative then '-' :: text else text

end DialogueScript.Decimal
