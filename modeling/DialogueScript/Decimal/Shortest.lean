import DialogueScript.Binary64

/-!
# Shortest decimals

The fewest decimal digits that read back as a given double.

A decimal reads back as `x` when it lies in the interval of reals that round to `x`; the ends
belong to it when the significand of `x` is even. For one digit, two digits and so on, `shortest`
tries the two neighbours of `x` on that decimal grid; the first grid with a hit wins, and of two
hits the nearer one.

Main statement: `Interval.contains_value` (the value itself always reads back).
-/

namespace DialogueScript.Decimal

/-- Which of two equally near decimals is taken. -/
inductive Tie
  | up
  | even
  deriving DecidableEq, Repr

/-- A decimal `digits * 10 ^ exponent`. -/
structure Digits where
  digits : Nat
  exponent : Int
  deriving DecidableEq, Repr

/-- A value, and the ends of the interval that rounds to it, all in quarter units of
`2 ^ -1074`. -/
structure Interval where
  low : Nat
  value : Nat
  high : Nat
  closed : Bool

/-- The interval of a finite nonzero double. Below a power of two the neighbour is half as far. -/
def Interval.of (x : Binary64) : Interval :=
  let ulp := Nat.pow 2 x.power
  let value := 4 * x.magnitude
  { low := value - (if x.significand = Nat.pow 2 52 then ulp else 2 * ulp)
    value := value
    high := value + 2 * ulp
    closed := x.significand % 2 == 0 }

/-- Does the real `n / d` lie in the interval? -/
def Interval.contains (i : Interval) (n d : Nat) : Bool :=
  if i.closed then i.low * d ≤ n && n ≤ i.high * d
  else i.low * d < n && n < i.high * d

theorem Interval.contains_value (x : Binary64) (h : 0 < x.significand) :
    (Interval.of x).contains (Interval.of x).value 1 = true := by
  have hu : 0 < Nat.pow 2 x.power := Nat.pow_pos (by decide)
  have hm : Nat.pow 2 x.power ≤ x.magnitude := by
    rw [Binary64.unit_mul_significand]
    exact Nat.le_mul_of_pos_right _ h
  simp only [contains, of, Nat.mul_one]
  split <;> split <;> simp only [Bool.and_eq_true, decide_eq_true_eq] <;> omega

/-- Quarter units of `2 ^ -1074` in one. -/
def quarters : Nat := 4 * Binary64.unit

/-- The exponent `e` with `10 ^ (e - 1) ≤ n / d < 10 ^ e`, for a positive quotient. -/
def leadingExponent (n d : Nat) : Int :=
  if d ≤ n then (Nat.toDigits 10 (n / d)).length
  else
    let shift := (Nat.toDigits 10 (d / n)).length
    if d ≤ n * Nat.pow 10 shift then 1 - shift
    else -shift

/-- The grid of multiples of `10 ^ exponent`: one step in quarter units as a quotient. -/
def step (exponent : Int) : Nat × Nat :=
  match exponent with
  | .ofNat e => (Nat.pow 10 e * quarters, 1)
  | .negSucc e => (quarters, Nat.pow 10 (e + 1))

/-- The neighbour of the value on a grid that reads back, if one does. -/
def Interval.onGrid (i : Interval) (tie : Tie) (exponent : Int) : Option Digits :=
  let (n, d) := step exponent
  let below := i.value * d / n
  let lowHit := i.contains (below * n) d
  let highHit := i.contains ((below + 1) * n) d
  let above : Digits := ⟨below + 1, exponent⟩
  if lowHit && highHit then
    let twice := 2 * (i.value * d - below * n)
    if twice < n then some ⟨below, exponent⟩
    else if n < twice then some above
    else match tie with
      | .up => some above
      | .even => some (if below % 2 = 0 then ⟨below, exponent⟩ else above)
  else if lowHit then some ⟨below, exponent⟩
  else if highHit then some above
  else none

/-- Drops the zeros at the end of the digits. -/
def Digits.normalize (fuel : Nat) (x : Digits) : Digits :=
  match fuel with
  | 0 => x
  | fuel + 1 =>
    if x.digits ≠ 0 ∧ x.digits % 10 = 0 then
      normalize fuel ⟨x.digits / 10, x.exponent + 1⟩
    else x

/-- The shortest digits of a finite nonzero double; seventeen are always enough. -/
def shortest (tie : Tie) (x : Binary64) : Digits :=
  let i := Interval.of x
  let leading := leadingExponent i.value quarters
  let found := (List.range 17).findSome? fun k => i.onGrid tie (leading - (k + 1 : Nat))
  (found.getD ⟨i.value, 0⟩).normalize 20

end DialogueScript.Decimal
