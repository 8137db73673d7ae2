import DialogueScript.Expr.Lexer
import DialogueScript.Proofs.Expr.Apart
import DialogueScript.Proofs.Text.Slice

/-!
# Reading tokens at a place in the bytes

Tokens can be read with a cursor: a place in the bytes of the source, at which the next character is
looked at and up to which a slice is taken. No such place is inside a character, whatever the source
is, the cursor moves on with every token, and the tokens and faults are the same
(`Cursor.tokenize_eq`).
-/

namespace DialogueScript.Expr

open Alphabet Text

/-- A place in the bytes of a source. -/
structure Cursor where
  source : Text
  place : Nat
  deriving DecidableEq, Repr

/-- What reading gives: nothing at all if a place is inside a character or behind the end, or if the
cursor does not move on. -/
abbrev Scan := ExceptT Fault Option

namespace Cursor

/-! ## Moving the cursor -/

/-- What is behind the cursor. -/
def rest? (cursor : Cursor) : Option Text := (cut? cursor.place cursor.source).map (·.2)

/-- The next character. -/
def peek? (cursor : Cursor) : Option (Option Char) := cursor.rest?.map List.head?

/-- The character behind the next one. -/
def peekNext? (cursor : Cursor) : Option (Option Char) :=
  cursor.rest?.map fun rest => rest.tail.head?

/-- Moves over the next character. -/
def advance? (cursor : Cursor) : Option (Option Char × Cursor) := do
  match ← cursor.peek? with
  | none => return (none, cursor)
  | some c => return (some c, { cursor with place := cursor.place + c.utf8Size })

/-- Moves over the next character if it is the expected one. -/
def eat? (expected : Char) (cursor : Cursor) : Option (Bool × Cursor) := do
  if (← cursor.peek?) = some expected then
    let (_, cursor) ← cursor.advance?
    return (true, cursor)
  else return (false, cursor)

/-- How many bytes are behind the cursor. -/
def left (cursor : Cursor) : Nat := bytes cursor.source - cursor.place

/-- Moves over the characters of a class. -/
def eatWhile? (p : Char → Bool) (cursor : Cursor) : Option Cursor := do
  let next ← cursor.peek?
  if next.any p then
    let (_, moved) ← cursor.advance?
    if moved.left < cursor.left then eatWhile? p moved else none
  else return cursor
termination_by cursor.left

/-- What stands between a place and the cursor. -/
def slice? (start : Nat) (cursor : Cursor) : Option Text := do
  let (front, _) ← cut? cursor.place cursor.source
  let (_, word) ← cut? start front
  return word

/-! ## Reading tokens -/

/-- Reads a variable behind its first dollar sign. -/
def lexVariable (offset : Nat) (cursor : Cursor) : Scan (Token × Cursor) := do
  let next ← cursor.peek?
  if next.any isAsciiLetter then
    let cursor ← cursor.eatWhile? continuesWord
    let (closed, cursor) ← cursor.eat? '$'
    if closed then
      let name ← cursor.slice? offset
      return (.var name, cursor)
    else throw (.unterminatedVariable offset)
  else throw (.malformedVariable offset)

/-- Moves over digits, and over a point with the digits behind it unless a point was the first
character. Is there a point? -/
def eatMantissa? (offset : Nat) (cursor : Cursor) : Option (Bool × Cursor) := do
  let first ← cursor.slice? offset
  let cursor ← cursor.eatWhile? isAsciiDigit
  if first = ['.'] then return (true, cursor)
  else
    let (point, cursor) ← cursor.eat? '.'
    if point then
      let cursor ← cursor.eatWhile? isAsciiDigit
      return (true, cursor)
    else return (false, cursor)

/-- Moves over the letter of an exponent and its digits, if there are any. -/
def eatExponent? (cursor : Cursor) : Option (Bool × Cursor) := do
  let letter ← cursor.peek?
  if letter = some 'e' ∨ letter = some 'E' then
    let sign ← cursor.peekNext?
    let signed : Bool := sign = some '+' ∨ sign = some '-'
    let rest ← cursor.rest?
    if (rest.drop (if signed then 2 else 1)).head?.any isAsciiDigit then
      let (_, cursor) ← cursor.advance?
      let (_, cursor) ← if signed then cursor.advance? else some (none, cursor)
      let cursor ← cursor.eatWhile? isAsciiDigit
      return (true, cursor)
    else return (false, cursor)
  else return (false, cursor)

/-- The number that a text spells. -/
def numberToken (fractional : Bool) (spelling : Text) : Except Fault Token :=
  if fractional then
    let whole := spelling.takeWhile isAsciiDigit
    let fraction := fractionPart (spelling.drop whole.length)
    let exponent := exponentPart (spelling.drop (whole.length + fraction.length))
    let digits := decimalNumber (whole ++ fraction.drop 1)
    let scale := exponentValue exponent - (fraction.length - 1 : Nat)
    .ok (.float (Binary64.ofDecimal digits scale))
  else
    match Number.ofInt? (decimalNumber spelling) with
    | some value => .ok (.int value)
    | none => .error (.integerTooLarge spelling)

/-- Reads a number behind its first character. -/
def lexNumber (offset : Nat) (cursor : Cursor) : Scan (Token × Cursor) := do
  let (point, cursor) ← cursor.eatMantissa? offset
  let (scaled, cursor) ← cursor.eatExponent?
  let next ← cursor.peek?
  if next.any continuesWord then throw (.malformedNumber offset)
  else
    let spelling ← cursor.slice? offset
    let token ← ExceptT.mk (some (numberToken (point || scaled) spelling))
    return (token, cursor)

/-- Reads a token behind its first character. -/
def lexToken (offset : Nat) (c : Char) (cursor : Cursor) : Scan (Token × Cursor) := do
  match c with
  | '+' => return (.plus, cursor)
  | '-' => return (.minus, cursor)
  | '*' =>
    let (eaten, cursor) ← cursor.eat? '*'
    return (if eaten then .starStar else .star, cursor)
  | '/' => return (.slash, cursor)
  | '%' => return (.percent, cursor)
  | '(' => return (.openParen, cursor)
  | ')' => return (.closeParen, cursor)
  | '=' =>
    let (eaten, cursor) ← cursor.eat? '='
    if eaten then return (.equal, cursor) else throw (.unexpectedCharacter c offset)
  | '!' =>
    let (eaten, cursor) ← cursor.eat? '='
    if eaten then return (.notEqual, cursor) else throw (.unexpectedCharacter c offset)
  | '<' =>
    let (eaten, cursor) ← cursor.eat? '='
    return (if eaten then .lessEqual else .less, cursor)
  | '>' =>
    let (eaten, cursor) ← cursor.eat? '='
    return (if eaten then .greaterEqual else .greater, cursor)
  | '$' => cursor.lexVariable offset
  | _ =>
    let next ← cursor.peek?
    if isAsciiDigit c || (c == '.' && next.any isAsciiDigit) then cursor.lexNumber offset
    else if isAlphabetic c || c == '_' then
      let cursor ← cursor.eatWhile? continuesWord
      let word ← cursor.slice? offset
      return (wordToken word, cursor)
    else throw (.unexpectedCharacter c offset)

/-- Reads the token at the cursor, which is the end if there is no character. -/
def lexNext (cursor : Cursor) : Scan (Token × Cursor) := do
  match ← cursor.advance? with
  | (none, behind) => return (.finish, behind)
  | (some c, behind) => behind.lexToken cursor.place c

/-- Reads all tokens from the cursor on, with their offsets. -/
def scan (cursor : Cursor) : Scan (List (Token × Nat)) := do
  let start ← cursor.eatWhile? isBlank
  let (token, behind) ← start.lexNext
  if token = .finish then return [(.finish, start.place)]
  else if behind.left < cursor.left then
    let more ← behind.scan
    return (token, start.place) :: more
  else ExceptT.mk none
termination_by cursor.left

/-- Reads the tokens of a source, with their offsets. -/
def tokenize (source : Text) : Scan (List (Token × Nat)) := scan ⟨source, 0⟩

/-! ## A cursor between characters -/

/-- The cursor between two parts of a source. -/
def between (before rest : Text) : Cursor := ⟨before ++ rest, bytes before⟩

section Between

variable (before : Text) {rest : Text} {c : Char}

@[simp] theorem rest?_between (rest : Text) : (between before rest).rest? = some rest := by
  rw [rest?, between, cut?_append]
  rfl

@[simp] theorem peek?_between (rest : Text) : (between before rest).peek? = some rest.head? := by
  rw [peek?, rest?_between]
  rfl

@[simp] theorem peekNext?_between (rest : Text) :
    (between before rest).peekNext? = some rest.tail.head? := by
  rw [peekNext?, rest?_between]
  rfl

/-- Behind one more character, the cursor stands that many bytes further. -/
theorem between_cons (c : Char) (rest : Text) : { between before (c :: rest) with
    place := (between before (c :: rest)).place + c.utf8Size } = between (before ++ [c]) rest := by
  simp [between, bytes_append]

@[simp] theorem left_between (rest : Text) : (between before rest).left = bytes rest := by
  rw [left, between, bytes_append, Nat.add_sub_cancel_left]

@[simp] theorem advance?_nil : (between before []).advance? = some (none, between before []) := by
  rw [advance?, peek?_between]
  rfl

/-- A step takes the whole character. -/
@[simp] theorem advance?_cons (c : Char) (rest : Text) :
    (between before (c :: rest)).advance? = some (some c, between (before ++ [c]) rest) := by
  rw [advance?, peek?_between, ← between_cons]
  rfl

/-- Another character than the expected one is not taken. -/
theorem eat?_of_head? (h : rest.head? ≠ some c) :
    (between before rest).eat? c = some (false, between before rest) := by
  rw [eat?, peek?_between]
  exact if_neg h

@[simp] theorem eat?_cons (c : Char) (rest : Text) :
    (between before (c :: rest)).eat? c = some (true, between (before ++ [c]) rest) := by
  simp [eat?]

/-- The loop takes the longest front with the property. -/
@[simp] theorem eatWhile?_between (p : Char → Bool) (rest : Text) :
    (between before rest).eatWhile? p
      = some (between (before ++ rest.takeWhile p) (rest.drop (rest.takeWhile p).length)) := by
  induction rest generalizing before with
  | nil =>
    rw [eatWhile?, peek?_between]
    simp
  | cons c rest ih =>
    rw [eatWhile?, peek?_between]
    cases hc : p c with
    | false => simp [hc]
    | true => simp [hc, ih, c.utf8Size_pos]

/-- What was passed since a place is the slice from there. -/
@[simp] theorem slice?_between (word rest : Text) :
    (between (before ++ word) rest).slice? (bytes before) = some word := by
  have hfront : cut? (bytes (before ++ word)) (before ++ word ++ rest)
      = some (before ++ word, rest) := cut?_append _ _
  rw [slice?, between, hfront]
  simp [cut?_append]

end Between

/-! ## The same tokens -/

/-- A result that no slice stands in the way of. -/
def found {α : Type} (result : Except Fault α) : Scan α := ExceptT.mk (some result)

@[simp] theorem liftM_some {α : Type} (a : α) : (liftM (some a) : Scan α) = pure a := rfl

theorem found_ok {α : Type} (a : α) : found (.ok a) = pure a := rfl

theorem found_error {α : Type} (fault : Fault) : (found (.error fault) : Scan α) = throw fault :=
  rfl

/-- What was read behind the first character of a token, and the cursor behind it. -/
def moved (before : Text) (c : Char) (rest : Text) (result : Token × Nat) : Token × Cursor :=
  (result.1, between (before ++ c :: rest.take result.2) (rest.drop result.2))

section Lex

variable (before rest : Text) (c : Char)

/-- The cursor reads variables as the lexer of the model does. -/
theorem lexVariable_between : (between (before ++ ['$']) rest).lexVariable (bytes before)
    = found ((readVariable (bytes before) rest).map (moved before '$' rest)) := by
  unfold lexVariable readVariable
  simp only [peek?_between, liftM_some, pure_bind, eatWhile?_between]
  split
  next hletter =>
    generalize hname : rest.takeWhile continuesWord = name
    by_cases hclose : (rest.drop name.length).head? = some '$'
    · obtain ⟨tail, htail⟩ := List.head?_eq_some_iff.mp hclose
      have hparts : rest = name ++ '$' :: tail := by
        rw [← htail, ← hname, List.prefix_iff_eq_append.mp (List.takeWhile_prefix _)]
      -- the name is sliced with both of its dollars
      have hslice := slice?_between before ('$' :: name ++ ['$']) tail
      subst hparts
      have hdrop : (name ++ '$' :: tail).drop (name.length + 1) = tail :=
        List.drop_length_add_append 1
      rw [if_pos hclose, htail, eat?_cons, liftM_some, pure_bind, if_pos rfl, Except.map, found_ok,
        moved, take_closed, hdrop]
      simp only [List.append_assoc, List.cons_append, List.nil_append] at hslice ⊢
      rw [hslice, liftM_some, pure_bind]
    · rw [if_neg hclose, eat?_of_head? _ hclose]
      rfl
  next => rfl

/-- The longest front with a property is empty if the first character lacks it. -/
theorem isEmpty_takeWhile (p : Char → Bool) (t : Text) :
    (t.takeWhile p).isEmpty = !t.head?.any p := by
  cases t with
  | nil => rfl
  | cons c rest => cases hc : p c <;> simp [hc]

/-- A sign is there and looked at, or none of both. -/
theorem signPart_cases (t : Text) :
    (∃ sign tail, t = sign :: tail ∧ (sign = '+' ∨ sign = '-') ∧ signPart t = [sign]) ∨
      (¬ (t.head? = some '+' ∨ t.head? = some '-') ∧ signPart t = []) := by
  cases t with
  | nil => exact .inr ⟨by simp, rfl⟩
  | cons c rest =>
    by_cases hc : c = '+' ∨ c = '-'
    · exact .inl ⟨c, rest, rfl, hc, if_pos hc⟩
    · exact .inr ⟨by simpa using hc, if_neg hc⟩

/-- The cursor takes an exponent only if a digit follows the letter and its sign. -/
theorem eatExponent?_between (t : Text) : (between before t).eatExponent?
    = some (!(exponentPart t).isEmpty,
        between (before ++ exponentPart t) (t.drop (exponentPart t).length)) := by
  unfold eatExponent?
  simp only [peek?_between, peekNext?_between, rest?_between, Option.bind_eq_bind, Option.bind_some]
  cases t with
  | nil => simp [exponentPart]
  | cons c rest =>
    rw [exponentPart_cons]
    by_cases hc : c = 'e' ∨ c = 'E'
    · have hletter : (c :: rest).head? = some 'e' ∨ (c :: rest).head? = some 'E' := by
        simpa using hc
      rw [if_pos hletter, if_pos hc, List.tail_cons]
      dsimp only
      rw [isEmpty_takeWhile]
      -- the digits are looked for behind the sign, if there is one
      rcases signPart_cases rest with ⟨sign, tail, rfl, hsign, hpart⟩ | ⟨hnone, hpart⟩
      · have hsigned : (sign :: tail).head? = some '+' ∨ (sign :: tail).head? = some '-' := by
          simpa using hsign
        rw [hpart, decide_eq_true hsigned]
        cases hdigit : tail.head?.any isAsciiDigit <;> simp [hdigit]
      · rw [hpart, decide_eq_false hnone]
        cases hdigit : rest.head?.any isAsciiDigit <;> simp [hdigit]
    · have hletter : ¬ ((c :: rest).head? = some 'e' ∨ (c :: rest).head? = some 'E') := by
        simpa using hc
      rw [if_neg hletter, if_neg hc]
      simp

/-- The fraction in front of a text, and what is in front of that. -/
theorem eatMantissa?_between (hstarts : startsNumber c rest = true) :
    (between (before ++ [c]) rest).eatMantissa? (bytes before)
      = some (!(fractionPart ((c :: rest).drop ((c :: rest).takeWhile isAsciiDigit).length)).isEmpty,
          between (before ++ mantissa (c :: rest))
            ((c :: rest).drop (mantissa (c :: rest)).length)) := by
  unfold eatMantissa? mantissa
  simp only [slice?_between, eatWhile?_between, Option.bind_eq_bind, Option.bind_some]
  cases hdigit : isAsciiDigit c with
  | true =>
    -- digits first: a point may follow them
    have hpoint : c ≠ '.' := by
      rintro rfl
      cases hdigit
    have hwhole : (c :: rest).takeWhile isAsciiDigit = c :: rest.takeWhile isAsciiDigit := by
      simp [hdigit]
    rw [if_neg (by simpa using hpoint), hwhole, List.length_cons, List.drop_succ_cons]
    generalize rest.takeWhile isAsciiDigit = digits
    cases hbehind : rest.drop digits.length with
    | nil =>
      rw [eat?_of_head? _ (by simp)]
      simp [fractionPart, hbehind]
    | cons d tail =>
      by_cases hd : d = '.'
      · subst hd
        rw [eat?_cons]
        simp [fractionPart, hbehind, ← List.drop_drop]
      · rw [eat?_of_head? _ (by simpa using hd)]
        simp [fractionPart_eq, hd, hbehind]
  | false =>
    -- the point comes first, and the digits behind it are the fraction
    simp only [startsNumber, hdigit, Bool.false_or, Bool.and_eq_true, beq_iff_eq] at hstarts
    obtain ⟨rfl, -⟩ := hstarts
    simp [hdigit, fractionPart]

/-- The number that a spelling is read as, from its parts. -/
theorem numberToken_parts {t whole fraction exponent : Text}
    (hwhole : t.takeWhile isAsciiDigit = whole)
    (hfraction : fractionPart (t.drop whole.length) = fraction)
    (hexponent : exponentPart (t.drop (whole.length + fraction.length)) = exponent) :
    numberToken (!fraction.isEmpty || !exponent.isEmpty) (whole ++ (fraction ++ exponent))
      = if fraction.isEmpty && exponent.isEmpty then
          match Number.ofInt? (decimalNumber whole) with
          | some value => .ok (.int value)
          | none => .error (.integerTooLarge whole)
        else
          let digits := decimalNumber (whole ++ fraction.drop 1)
          let scale := exponentValue exponent - (fraction.length - 1 : Nat)
          .ok (.float (Binary64.ofDecimal digits scale)) := by
  have hnothing : WordEnds [] := fun c hc => by cases hc
  obtain ⟨hwhole', hfraction', hexponent', -⟩ :=
    parts_append hnothing hwhole hfraction hexponent
  rw [List.append_nil] at hwhole' hfraction' hexponent'
  unfold numberToken
  rw [← Bool.not_and]
  cases hint : fraction.isEmpty && exponent.isEmpty with
  | true =>
    rw [Bool.and_eq_true, List.isEmpty_iff, List.isEmpty_iff] at hint
    obtain ⟨rfl, rfl⟩ := hint
    simp
  | false =>
    dsimp only
    rw [hwhole', hfraction', hexponent']
    rfl

/-- The cursor reads numbers as the lexer of the model does. -/
theorem lexNumber_between (hstarts : startsNumber c rest = true) :
    (between (before ++ [c]) rest).lexNumber (bytes before)
      = found ((readNumber (bytes before) (c :: rest)).map fun (token, size) =>
          moved before c rest (token, size - 1)) := by
  have hspelled : (mantissa (c :: rest) ++ exponentPart ((c :: rest).drop
      (mantissa (c :: rest)).length)) <+: c :: rest :=
    prefix_append_of_drop prefix_mantissa prefix_exponentPart
  have hne := mantissa_ne_nil hstarts
  unfold lexNumber readNumber
  rw [eatMantissa?_between before rest c hstarts]
  simp only [liftM_some, pure_bind, eatExponent?_between, peek?_between, List.append_assoc,
    slice?_between, List.drop_drop]
  unfold mantissa at hspelled hne ⊢
  rw [List.length_append] at hspelled ⊢
  -- from here on only the three parts of the number matter
  generalize hwhole : (c :: rest).takeWhile isAsciiDigit = whole at hspelled hne ⊢
  generalize hfraction : fractionPart ((c :: rest).drop whole.length) = fraction
    at hspelled hne ⊢
  generalize hexponent : exponentPart ((c :: rest).drop (whole.length + fraction.length)) = exponent
    at hspelled ⊢
  obtain ⟨more, hmore⟩ : ∃ more, whole.length + fraction.length + exponent.length = more + 1 := by
    have hlength : (whole ++ fraction).length ≠ 0 := mt List.length_eq_zero_iff.mp hne
    rw [List.length_append] at hlength
    exact Nat.exists_eq_succ_of_ne_zero (by omega)
  have htake : whole ++ (fraction ++ exponent) = c :: rest.take more := by
    rw [← List.append_assoc, List.prefix_iff_eq_take.mp hspelled, List.length_append,
      List.length_append, hmore, List.take_succ_cons]
  -- what comes behind must not go on with the number
  split
  next => rfl
  next =>
    rw [List.append_assoc whole, numberToken_parts hwhole hfraction hexponent, htake, hmore]
    split
    next => cases Number.ofInt? (decimalNumber whole) <;> rfl
    next => rfl

/-- One sign is looked at behind a symbol. -/
theorem eat?_sign (sign : Char) (rest : Text) : (between before rest).eat? sign
    = if rest.head? = some sign then some (true, between (before ++ rest.take 1) (rest.drop 1))
      else some (false, between before rest) := by
  split
  next hsign =>
    obtain ⟨tail, rfl⟩ := List.head?_eq_some_iff.mp hsign
    exact eat?_cons before sign tail
  next hsign => exact eat?_of_head? before hsign

/-- The cursor reads every token as the lexer of the model does. -/
theorem lexToken_between : (between (before ++ [c]) rest).lexToken (bytes before) c
    = found ((readToken (bytes before) c rest).map (moved before c rest)) := by
  have hslice := slice?_between before (c :: rest.takeWhile continuesWord)
    (rest.drop (rest.takeWhile continuesWord).length)
  unfold lexToken
  split
  -- marks of two characters look one character ahead
  case h_3 =>
    rw [eat?_sign]
    by_cases hsign : rest.head? = some '*' <;>
      simp [hsign, readToken, found_ok, moved, Except.map]
  case h_8 | h_9 =>
    rw [eat?_sign]
    by_cases hsign : rest.head? = some '=' <;>
      simp [hsign, readToken, found_ok, found_error, moved, Except.map]
  case h_10 | h_11 =>
    rw [eat?_sign]
    by_cases hsign : rest.head? = some '=' <;>
      simp [hsign, readToken, found_ok, moved, Except.map]
  case h_12 => exact lexVariable_between before rest
  case h_13 =>
    -- what is no mark begins a number or a word
    have hc : c ∉ "+-*/%()=!<>$".toList := by simp_all
    rw [readToken_of_not_mem _ hc, peek?_between, liftM_some, pure_bind]
    change (if startsNumber c rest = true then _ else _) = _
    split
    next hstarts =>
      rw [lexNumber_between before rest c hstarts]
      cases readNumber (bytes before) (c :: rest) <;> rfl
    next =>
      split
      next =>
        rw [eatWhile?_between, liftM_some, pure_bind, List.append_assoc, List.singleton_append,
          hslice, liftM_some, pure_bind, Except.map, found_ok, moved,
          take_takeWhile]
      next => rfl
  all_goals rfl

/-- At the end of the text stands the token that says so. -/
theorem lexNext_nil : (between before []).lexNext = pure (.finish, between before []) := by
  rw [lexNext, advance?_nil]
  rfl

theorem lexNext_cons : (between before (c :: rest)).lexNext
    = found ((readToken (bytes before) c rest).map (moved before c rest)) := by
  rw [lexNext, advance?_cons]
  exact lexToken_between before rest c

/-- A token with its offset. -/
def placed (lexeme : Lexeme) : Token × Nat := (lexeme.token, lexeme.offset)

/-- The blanks in front of a text, and what stands behind them. -/
theorem exists_blanks (t : Text) : ∃ gap start, t = gap ++ start ∧ (∀ c ∈ gap, isBlank c = true) ∧
    ∀ c, start.head? = some c → isBlank c = false := by
  induction t with
  | nil => exact ⟨[], [], rfl, by simp, by simp⟩
  | cons c rest ih =>
    cases hc : isBlank c with
    | false => exact ⟨[], c :: rest, rfl, by simp, by simpa using hc⟩
    | true =>
      obtain ⟨gap, start, rfl, hgap, hstart⟩ := ih
      exact ⟨c :: gap, start, rfl, List.forall_mem_cons.mpr ⟨hc, hgap⟩, hstart⟩

/-- From every place between two characters, both find the same tokens and faults. -/
theorem scan_between (t : Text) :
    (between before t).scan = found ((tokensFrom (bytes before) t).map (·.map placed)) := by
  -- what stands behind a token is shorter than the text
  induction hn : t.length using Nat.strongRecOn generalizing before t with
  | ind n ih =>
    obtain ⟨gap, start, rfl, hgap, hstart⟩ := exists_blanks t
    have hoffset : bytes before + bytes gap = bytes (before ++ gap) := (bytes_append _ _).symm
    have hcursor : (between before (gap ++ start)).eatWhile? isBlank
        = some (between (before ++ gap) start) := by
      rw [eatWhile?_between, takeWhile_append_of_head? hgap hstart, List.drop_left]
    rw [scan, hcursor, tokensFrom_blank hgap, hoffset]
    generalize before ++ gap = front
    cases start with
    | nil =>
      rw [tokensFrom_nil]
      simp only [liftM_some, pure_bind, lexNext_nil]
      rfl
    | cons c rest =>
      have hblank : isBlank c = false := hstart c rfl
      rw [tokensFrom_cons, if_neg (by simp [hblank])]
      simp only [liftM_some, pure_bind, lexNext_cons]
      cases hread : readToken (bytes front) c rest with
      | error fault => rfl
      | ok result =>
        obtain ⟨token, size⟩ := result
        have hfinish : token ≠ .finish := (spells_of_readToken hread).finish
        have hless : bytes (rest.drop size) < bytes (gap ++ c :: rest) := by
          have hrest : bytes rest = bytes (rest.take size) + bytes (rest.drop size) := by
            rw [← bytes_append, List.take_append_drop]
          have hc : 0 < c.utf8Size := c.utf8Size_pos
          rw [bytes_append, bytes_cons]
          omega
        have hshorter : (rest.drop size).length < (gap ++ c :: rest).length := by
          rw [List.length_append]
          exact Nat.lt_add_left _ (length_drop_lt size c rest)
        have hmore := ih _ (hn ▸ hshorter) (front ++ c :: rest.take size) (rest.drop size) rfl
        rw [Except.map, found_ok, pure_bind, moved, if_neg hfinish, left_between, left_between,
          if_pos hless, hmore, bytes_append]
        change found _ >>= _ = found (Except.map _ (tokensFrom _ (rest.drop size) >>= _))
        generalize tokensFrom (bytes front + bytes (c :: rest.take size)) (rest.drop size) = behind
        cases behind <;> rfl

end Lex

/-- No place at which the source is looked at or cut is inside a character, the cursor moves on with
every token, and the tokens that are read are those of the text, at the same offsets. -/
theorem tokenize_eq (source : Text) :
    tokenize source = found ((Expr.tokenize source).map (·.map placed)) :=
  scan_between [] source

end Cursor

end DialogueScript.Expr
