import DialogueScript.Expr.Lexer

/-!
# What tokens are read from

For each function of the lexer, everything that can be behind a token that it reads: a number with
its digits and its size (`readNumber_cases`), the name of a variable (`name_of_readVariable`), and
for a character that is neither a symbol nor a dollar sign the number or the word that it begins
(`readToken_cases`).
-/

namespace DialogueScript.Expr

open Alphabet

variable {offset size : Nat} {c : Char} {t rest : Text} {token : Token}

/-- What is read as a number. -/
theorem readNumber_cases (h : readNumber offset t = .ok (token, size)) :
    let whole := t.takeWhile isAsciiDigit
    let fraction := fractionPart (t.drop whole.length)
    size = whole.length + fraction.length
        + (exponentPart (t.drop (whole.length + fraction.length))).length ∧
      ((∃ (n : Nat) (value : Int64), Number.ofInt? n = some value ∧ token = .int value) ∨
        ∃ value, token = .float value) := by
  unfold readNumber at h
  dsimp only at h ⊢
  split at h
  next => cases h
  next =>
    split at h
    next =>
      split at h
      next value hvalue =>
        obtain ⟨rfl, rfl⟩ := Prod.mk.inj (Except.ok.inj h)
        exact ⟨rfl, .inl ⟨_, value, hvalue, rfl⟩⟩
      next => cases h
    next =>
      obtain ⟨rfl, rfl⟩ := Prod.mk.inj (Except.ok.inj h)
      exact ⟨rfl, .inr ⟨_, rfl⟩⟩

/-- What is read as a variable, behind its first dollar sign. -/
theorem name_of_readVariable (h : readVariable offset rest = .ok (token, size)) :
    ∃ name tail, rest = name ++ '$' :: tail ∧ name.head?.any isAsciiLetter = true ∧
      (∀ d ∈ name, continuesWord d = true) ∧ token = .var ('$' :: name ++ ['$']) ∧
      size = name.length + 1 := by
  unfold readVariable at h
  split at h
  next hletter =>
    dsimp only at h
    split at h
    next hclose =>
      obtain ⟨rfl, rfl⟩ := Prod.mk.inj (Except.ok.inj h)
      obtain ⟨tail, htail⟩ := List.head?_eq_some_iff.mp hclose
      have hparts : rest = rest.takeWhile continuesWord ++ '$' :: tail := by
        rw [← htail, List.prefix_iff_eq_append.mp (List.takeWhile_prefix _)]
      refine ⟨_, tail, hparts, ?_, List.all_eq_true.mp List.all_takeWhile, rfl, rfl⟩
      cases hname : rest.takeWhile continuesWord with
      | nil =>
        -- the dollar sign is no letter
        rw [hparts, hname] at hletter
        cases hletter
      | cons d more =>
        rw [hparts, hname] at hletter
        exact hletter
    next => cases h
  next => cases h

/-- Does a number begin with the character in front of the rest? -/
def startsNumber (c : Char) (rest : Text) : Bool :=
  isAsciiDigit c || (c == '.' && rest.head?.any isAsciiDigit)

/-- What is no mark begins a number or a word, or is no character of expressions. -/
theorem readToken_of_not_mem (offset : Nat) (hc : c ∉ "+-*/%()=!<>$".toList) (rest : Text) :
    readToken offset c rest
      = if startsNumber c rest then
          (readNumber offset (c :: rest)).map fun (token, size) => (token, size - 1)
        else if isAlphabetic c || c == '_' then
          .ok (wordToken (c :: rest.takeWhile continuesWord),
            (rest.takeWhile continuesWord).length)
        else .error (.unexpectedCharacter c offset) := by
  unfold readToken
  dsimp only
  split
  case h_13 => rfl
  all_goals simp at hc

/-- What is neither a symbol nor a variable is a number or a word. -/
theorem readToken_cases (hc : c ∉ "+-*/%()=!<>$".toList)
    (h : readToken offset c rest = .ok (token, size)) :
    (startsNumber c rest = true ∧
      ∃ length, readNumber offset (c :: rest) = .ok (token, length) ∧ size = length - 1) ∨
    (startsNumber c rest = false ∧ (isAlphabetic c || c == '_') = true ∧
      token = wordToken (c :: rest.takeWhile continuesWord) ∧
      size = (rest.takeWhile continuesWord).length) := by
  rw [readToken_of_not_mem offset hc] at h
  split at h
  next hnumber =>
    cases hread : readNumber offset (c :: rest) with
    | error fault =>
      rw [hread] at h
      cases h
    | ok number =>
      rw [hread] at h
      obtain ⟨rfl, rfl⟩ := Prod.mk.inj (Except.ok.inj h)
      exact .inl ⟨hnumber, number.2, rfl, rfl⟩
  next hnumber =>
    split at h
    next hword =>
      obtain ⟨rfl, rfl⟩ := Prod.mk.inj (Except.ok.inj h)
      exact .inr ⟨Bool.eq_false_iff.mpr hnumber, hword, rfl, rfl⟩
    next => cases h

end DialogueScript.Expr
