import DialogueScript.Environment
import DialogueScript.Expr.Eval
import DialogueScript.Problem

/-!
# Templates

Texts with variables, arithmetic and choices. Rendering replaces, in this order,

* every bound `$name$` by its value, once;
* every `{…}` without bars, at signs and inner braces by the number of the expression inside;
* every `{guard@options}` without inner braces by one of its options.

Rendering never fails; what is wrong with an expression is noted.
-/

namespace DialogueScript.Template

/-! ## Variables -/

/-- The name in front of the next dollar sign, and the text behind that sign. -/
def splitName (t : Text) : Option (Text × Text) :=
  let name := t.takeWhile (· != '$')
  match t.drop name.length with
  | '$' :: rest => some (name, rest)
  | _ => none

theorem length_of_splitName {t name rest : Text} (h : splitName t = some (name, rest)) :
    rest.length < t.length := by
  simp only [splitName] at h
  split at h
  · rename_i tail hd
    simp only [Option.some.injEq, Prod.mk.injEq] at h
    obtain ⟨rfl, rfl⟩ := h
    have hl := congrArg List.length hd
    simp only [List.length_drop, List.length_cons] at hl
    omega
  · simp at h

/-- The value of the variable in front of which a dollar sign stands, and the text behind it. -/
def boundName (env : Environment) (t : Text) :
    Option (Value × { rest : Text // rest.length < t.length }) :=
  match h : splitName t with
  | some (name, rest) =>
    (env.get? ('$' :: name ++ ['$'])).map fun value => (value, ⟨rest, length_of_splitName h⟩)
  | none => none

/-- Replaces the bound variables. Values are not looked at again, and a dollar sign that opens no
bound name may close or open another. -/
def substitute (env : Environment) : Text → Text
  | [] => []
  | c :: rest =>
    if c = '$' then
      match boundName env rest with
      | some (value, ⟨tail, _⟩) => value.display ++ substitute env tail
      | none => '$' :: substitute env rest
    else c :: substitute env rest
termination_by t => t.length

/-! ## Braces -/

/-- Is it a brace? -/
def isBrace (c : Char) : Bool := c == '{' || c == '}'

/-- A pair of braces with none inside, and the text around it. -/
structure Span where
  before : Text
  inner : Text
  after : Text
  deriving DecidableEq, Repr

/-- The inside and what follows of a pair of braces whose first one stands in front of `t`. -/
def closeSpan (wanted : Text → Bool) (t : Text) : Option (Text × Text) :=
  let inner := t.takeWhile (!isBrace ·)
  match t.drop inner.length with
  | '}' :: after => if wanted inner then some (inner, after) else none
  | _ => none

/-- The leftmost innermost pair of braces whose inside is wanted. -/
def findSpan (wanted : Text → Bool) : Text → Option Span
  | [] => none
  | c :: rest =>
    match if c = '{' then closeSpan wanted rest else none with
    | some (inner, after) => some ⟨[], inner, after⟩
    | none => (findSpan wanted rest).map fun span => { span with before := c :: span.before }

/-- Replaces the leftmost innermost wanted pair of braces again and again. Each time an opening
brace goes, so their number is fuel enough. -/
def resolveSpans (wanted : Text → Bool) (replace : Text → Text × List Problem) :
    Nat → Text → Text × List Problem
  | 0, t => (t, [])
  | fuel + 1, t =>
    match findSpan wanted t with
    | none => (t, [])
    | some span =>
      let (text, problems) := replace span.inner
      let (result, more) :=
        resolveSpans wanted replace fuel (span.before ++ text ++ span.after)
      (result, problems ++ more)

/-- Replaces all wanted pairs of braces, innermost first. -/
def resolve (wanted : Text → Bool) (replace : Text → Text × List Problem) (t : Text) :
    Text × List Problem :=
  resolveSpans wanted replace (t.count '{') t

/-! ## Arithmetic -/

/-- Can the inside of a pair of braces be arithmetic? -/
def isArithmetic (inner : Text) : Bool := inner.all fun c => c != '@' && c != '|'

/-- The text of a number, or `False` if the expression has none. -/
def arithmeticText (inner : Text) : Text × List Problem :=
  match Expr.evaluateNumber inner with
  | .ok n => (n.text, [])
  | .error fault => ("False".toList, [.arithmetic fault inner])

/-- Replaces arithmetic. -/
def resolveArithmetic (t : Text) : Text × List Problem :=
  resolve isArithmetic arithmeticText t

/-! ## Choices -/

/-- Is the inside of a pair of braces a choice? -/
def isChoice (inner : Text) : Bool := inner.contains '@'

/-- Reads an integer of 64 bits, with or without a sign. -/
def readIndex (t : Text) : Option Int64 :=
  match t with
  | '-' :: digits => (Text.toNat? digits).bind fun n => Number.ofInt? (-n)
  | '+' :: digits => (Text.toNat? digits).bind fun n => Number.ofInt? n
  | digits => (Text.toNat? digits).bind fun n => Number.ofInt? n

/-- The option at an index; the last one stands for all that are not there. -/
def optionAt (index : Int) (options : List Text) : Text :=
  let last := options.getLast?.getD []
  match index with
  | .ofNat n => options[n]?.getD last
  | .negSucc _ => last

/-- Chooses an option. A boolean guard takes the first option or all that follows it, an integer
counts the options, and any other guard takes the last. -/
def chooseOption (inner : Text) : Text × List Problem :=
  let (guard, options) := (Text.splitOnce ['@'] inner).getD (inner, [])
  match Expr.evaluateBool guard with
  | .ok flag =>
    let (first, rest) := (Text.splitOnce ['|'] options).getD (options, [])
    (if flag then first else rest, [])
  | .error _ =>
    let fields := Text.splitAll '|' options
    match readIndex (Text.trim guard) with
    | some index => (optionAt index.toInt fields, [])
    | none => (fields.getLast?.getD [], [.optionGuard guard])

/-- Replaces choices. -/
def resolveChoices (t : Text) : Text × List Problem :=
  resolve isChoice chooseOption t

/-! ## Rendering -/

/-- Renders a template, with the problems that were met. -/
def renderNoting (env : Environment) (t : Text) : Text × List Problem :=
  let (text, problems) := resolveArithmetic (substitute env t)
  let (result, more) := resolveChoices text
  (result, problems ++ more)

/-- Renders a template. -/
def render (env : Environment) (t : Text) : Text := (renderNoting env t).1

end DialogueScript.Template
