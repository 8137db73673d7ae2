import DialogueScript.Decimal.Layout

/-!
# Numbers

A number of the language is a signed 64-bit integer or a double. Integer arithmetic is done in
unbounded integers and refused when the result does not fit.

Main statements: `ofInt?_eq_some_iff` (an integer is representable exactly within the bounds) and
`toInt_of_ofInt?` (a representable integer is kept).
-/

namespace DialogueScript

/-- An integer or a double. -/
inductive Number
  | int (value : Int64)
  | float (value : Binary64)
  deriving DecidableEq, Repr, Inhabited

namespace Number

/-- The least integer of 64 bits. -/
def minInt : Int := -9223372036854775808

/-- The greatest integer of 64 bits. -/
def maxInt : Int := 9223372036854775807

/-- The 64-bit integer of this value, if there is one. -/
def ofInt? (n : Int) : Option Int64 :=
  if minInt ≤ n ∧ n ≤ maxInt then some (Int64.ofInt n) else none

theorem toInt_of_ofInt? {n : Int} {i : Int64} (h : ofInt? n = some i) : i.toInt = n := by
  unfold ofInt? minInt maxInt at h
  split at h
  · rename_i hn
    simp only [Option.some.injEq] at h
    subst h
    exact Int64.toInt_ofInt_of_le (by omega) (by omega)
  · simp at h

theorem ofInt?_isSome_iff {n : Int} : (ofInt? n).isSome ↔ minInt ≤ n ∧ n ≤ maxInt := by
  unfold ofInt?
  split <;> simp_all

theorem ofInt?_toInt (i : Int64) : ofInt? i.toInt = some i := by
  have hl := Int64.le_toInt i
  have hu := Int64.toInt_lt i
  simp [ofInt?, minInt, maxInt]
  omega

theorem ofInt?_eq_some_iff {n : Int} {i : Int64} : ofInt? n = some i ↔ i.toInt = n := by
  constructor
  · exact toInt_of_ofInt?
  · rintro rfl
    exact ofInt?_toInt i

/-- The number as a double. -/
def toBinary64 : Number → Binary64
  | int i => Binary64.ofInt i.toInt
  | float x => x

/-- How two numbers compare: integers exactly, all else as doubles. -/
def compare? : Number → Number → Option Ordering
  | int a, int b => some (compare a.toInt b.toInt)
  | a, b => a.toBinary64.compare? b.toBinary64

/-- The form in which texts show doubles: always positional below ten to the sixteenth. -/
def floatLayout : Decimal.Layout :=
  { positionalFrom := none
    positionalBelow := 16
    plusSign := false
    tie := .up
    nan := ['n', 'a', 'n'] }

/-- The text of a double. -/
def floatText (x : Binary64) : Text := floatLayout.write x

/-- The text of a number. -/
def text : Number → Text
  | int i => Text.ofInt i.toInt
  | float x => floatText x

end Number

end DialogueScript
