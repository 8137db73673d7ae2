import DialogueScript.Proofs.Expr.Spelling

/-!
# The character behind a token

To read a token, no more is looked at than its spelling and the one character behind it: a text that
agrees with another one so far has the same first token (`readToken_of_agreesTo`). What comes behind
an operator or a parenthesis matters even less (`readToken_symbol`). So tokens are read again from
their spellings when what stands between them changes (`Lexes`).
-/

namespace DialogueScript.Expr

open Alphabet

/-! ## Texts that agree so far -/

/-- The texts have the same first characters, and the same one or none behind those. -/
def AgreesTo (n : Nat) (t other : Text) : Prop := other.take (n + 1) = t.take (n + 1)

section Agree

variable {n : Nat} {t other : Text}

/-- Texts that agree so far agree behind a common front, up to what is left. -/
theorem AgreesTo.drop (h : AgreesTo n t other) {k : Nat} (hk : k ≤ n) :
    AgreesTo (n - k) (t.drop k) (other.drop k) := by
  have hdrop := congrArg (List.drop k) h
  rw [List.drop_take, List.drop_take, Nat.sub_add_comm hk] at hdrop
  exact hdrop

theorem AgreesTo.head? (h : AgreesTo n t other) : other.head? = t.head? := by
  have hhead := congrArg List.head? h
  rwa [List.head?_take, List.head?_take, if_neg (Nat.succ_ne_zero n),
    if_neg (Nat.succ_ne_zero n)] at hhead

theorem AgreesTo.mono (h : AgreesTo n t other) {k : Nat} (hk : k ≤ n) : AgreesTo k t other := by
  have htake := congrArg (List.take (k + 1)) h
  rwa [List.take_take, List.take_take, Nat.min_eq_left (Nat.succ_le_succ hk)] at htake

theorem AgreesTo.cons (h : AgreesTo n t other) (c : Char) :
    AgreesTo (n + 1) (c :: t) (c :: other) := congrArg (c :: ·) h

/-- What comes behind the first characters of a text may be another text. -/
theorem drop_take_append {behind : Text} (h : t.drop n = [] → behind = []) :
    (t.take n ++ behind).drop n = behind := by
  rcases Nat.lt_or_ge t.length n with hshort | hlong
  · have hnone := List.drop_eq_nil_of_le (Nat.le_of_lt hshort)
    rw [h hnone, List.append_nil, List.drop_take, Nat.sub_self, List.take_zero]
  · exact List.drop_left' (List.length_take_of_le hlong)

/-- A text agrees with its front if the first character behind the front is the same. -/
theorem agreesTo_append {behind : Text} (hhead : behind.head? = (t.drop n).head?) :
    AgreesTo n t (t.take n ++ behind) := by
  have hdrop := @drop_take_append n t behind fun hnone => by
    rwa [hnone, List.head?_nil, List.head?_eq_none_iff] at hhead
  have htake : (t.take n ++ behind).take n = t.take n := by
    have hparts := List.take_append_drop n (t.take n ++ behind)
    rw [hdrop] at hparts
    exact List.append_cancel_right hparts
  unfold AgreesTo
  rw [List.take_add, List.take_add, htake, hdrop, List.take_one, List.take_one, hhead]

/-- A front that ends within the agreement is the same in both texts. -/
theorem AgreesTo.takeWhile {p : Char → Bool} (h : AgreesTo n t other)
    (hn : (t.takeWhile p).length ≤ n) : other.takeWhile p = t.takeWhile p := by
  unfold AgreesTo at h
  induction t generalizing other n with
  | nil =>
    obtain rfl : other = [] := by simpa using h
    rfl
  | cons c rest ih =>
    cases other with
    | nil => simp at h
    | cons d more =>
      rw [List.take_succ_cons, List.take_succ_cons] at h
      obtain ⟨rfl, hrest⟩ := List.cons.inj h
      cases hd : p d with
      | false => simp [hd]
      | true =>
        simp only [List.takeWhile_cons, hd, if_true, List.length_cons] at hn ⊢
        obtain ⟨m, rfl⟩ := Nat.exists_eq_add_of_lt hn
        rw [ih (n := (rest.takeWhile p).length + m) hrest (Nat.le_add_right ..)]

/-! ## Numbers -/

/-- A fraction is a point with the digits behind it. -/
theorem fractionPart_eq (t : Text) : fractionPart t
    = if t.head? = some '.' then '.' :: (t.drop 1).takeWhile isAsciiDigit else [] := by
  unfold fractionPart
  split
  next => simp
  next hpoint =>
    refine (if_neg fun hhead => ?_).symm
    obtain ⟨rest, rfl⟩ := List.head?_eq_some_iff.mp hhead
    exact hpoint rest rfl

/-- A fraction that ends within the agreement is the same in both texts. -/
theorem AgreesTo.fractionPart (h : AgreesTo n t other) (hn : (fractionPart t).length ≤ n) :
    fractionPart other = fractionPart t := by
  rw [fractionPart_eq] at hn
  rw [fractionPart_eq, fractionPart_eq, h.head?]
  split
  next hpoint =>
    rw [if_pos hpoint, List.length_cons] at hn
    rw [(h.drop (k := 1) (by omega)).takeWhile (by omega)]
  next => rfl

/-- Whether there is a sign depends on one character only. -/
theorem signPart_of_head? (h : other.head? = t.head?) : signPart other = signPart t := by
  cases t with
  | nil =>
    rw [List.head?_eq_none_iff.mp h]
  | cons c rest =>
    obtain ⟨more, rfl⟩ := List.head?_eq_some_iff.mp h
    rfl

/-- An exponent is its letter, a sign perhaps and digits, and no exponent without the digits. -/
theorem exponentPart_cons (c : Char) (rest : Text) : exponentPart (c :: rest)
    = if c = 'e' ∨ c = 'E' then
        let digits := (rest.drop (signPart rest).length).takeWhile isAsciiDigit
        if digits.isEmpty then [] else c :: signPart rest ++ digits
      else [] := rfl

/-- An exponent is the same too, if there is one wherever its letter stands. -/
theorem AgreesTo.exponentPart (h : AgreesTo n t other) (hn : (exponentPart t).length ≤ n)
    (hletter : exponentPart t = [] → ∀ c ∈ t.head?, continuesWord c = false) :
    exponentPart other = exponentPart t := by
  cases t with
  | nil => rw [List.head?_eq_none_iff.mp h.head?]
  | cons c rest =>
    obtain ⟨more, rfl⟩ := List.head?_eq_some_iff.mp h.head?
    rw [exponentPart_cons] at hn hletter
    rw [exponentPart_cons, exponentPart_cons]
    split
    next hc =>
      have hword : continuesWord c = true := by
        rcases hc with rfl | rfl <;> decide +kernel
      rw [if_pos hc] at hn hletter
      dsimp only at hn hletter ⊢
      split at hn
      -- a letter without digits has to go on as a word, and the number would not end here
      next hnone => simp [hnone, hword] at hletter
      next hsome =>
        rw [List.length_append, List.length_cons] at hn
        have hrest : AgreesTo (n - 1) rest more := h.drop (k := 1) (by omega)
        rw [signPart_of_head? hrest.head?,
          (hrest.drop (k := (signPart rest).length) (by omega)).takeWhile (by omega)]
    next => rfl

/-- A number is read alike from texts that agree up to the character behind it. -/
theorem readNumber_of_agreesTo {offset size : Nat} {token : Token}
    (h : readNumber offset t = .ok (token, size)) (hother : AgreesTo size t other) (place : Nat) :
    readNumber place other = .ok (token, size) := by
  have hsize := (readNumber_cases h).1
  unfold readNumber at h
  dsimp only at h
  -- each part of the number ends within what agrees
  generalize hwhole : t.takeWhile isAsciiDigit = whole at h hsize
  generalize hfraction : fractionPart (t.drop whole.length) = fraction at h hsize
  generalize hexponent : exponentPart (t.drop (whole.length + fraction.length)) = exponent
    at h hsize
  split at h
  next => cases h
  next hends =>
    rw [← hsize] at h hends
    have hwhole' : other.takeWhile isAsciiDigit = whole := by
      rw [← hwhole] at hsize ⊢
      exact hother.takeWhile (by omega)
    have hfraction' : fractionPart (other.drop whole.length) = fraction := by
      rw [← hfraction] at hsize ⊢
      exact (hother.drop (by omega)).fractionPart (by omega)
    have hexponent' : exponentPart (other.drop (whole.length + fraction.length)) = exponent := by
      rw [← hexponent] at hsize ⊢
      -- without an exponent, the character behind the number must not begin one
      refine (hother.drop (by omega)).exponentPart (by omega) fun hnone c hc => ?_
      rw [hnone, List.length_nil, Nat.add_zero] at hsize
      rw [hsize, Option.mem_def.mp hc] at hends
      simpa using hends
    have hbehind : (other.drop size).head? = (t.drop size).head? :=
      (hother.drop (Nat.le_refl _)).head?
    unfold readNumber
    dsimp only
    rw [hwhole', hfraction', hexponent', ← hsize, hbehind, if_neg hends]
    exact h

end Agree

/-! ## Tokens -/

section Token

variable {offset size : Nat} {c : Char} {rest other : Text} {token : Token}

/-- The name of a variable ends at the closing dollar, so it is read alike from such texts. -/
theorem readVariable_of_agreesTo (h : readVariable offset rest = .ok (token, size))
    (hother : AgreesTo size rest other) (place : Nat) :
    readVariable place other = .ok (token, size) := by
  unfold readVariable at h
  split at h
  next hletter =>
    dsimp only at h
    split at h
    next hclose =>
      have hsize : size = (rest.takeWhile continuesWord).length + 1 :=
        (Prod.mk.inj (Except.ok.inj h)).2.symm
      have hname : other.takeWhile continuesWord = rest.takeWhile continuesWord :=
        hother.takeWhile (by omega)
      have hbehind := (hother.drop (k := (rest.takeWhile continuesWord).length) (by omega)).head?
      unfold readVariable
      rw [hother.head?, if_pos hletter]
      dsimp only
      rw [hname, hbehind, if_pos hclose]
      exact h
    next => cases h
  next => cases h

/-- A token is the same in a text that agrees up to the character behind it. -/
theorem readToken_of_agreesTo (h : readToken offset c rest = .ok (token, size))
    (hother : AgreesTo size rest other) (place : Nat) :
    readToken place c other = .ok (token, size) := by
  by_cases hc : c ∈ "+-*/%()=!<>$".toList
  · -- marks look at one more character
    unfold readToken at h
    dsimp only at h
    rw [← hother.head?] at h
    split at h
    case h_8 | h_9 =>
      split at h
      next hnext => exact (if_pos hnext).trans h
      next => cases h
    case h_12 => exact readVariable_of_agreesTo h hother place
    case h_13 => simp_all
    all_goals exact h
  · -- numbers and words are delimited by the character behind them
    have hstarts : startsNumber c other = startsNumber c rest := by
      unfold startsNumber
      rw [hother.head?]
    rw [readToken_of_not_mem place hc, hstarts]
    rcases readToken_cases hc h with ⟨hnumber, length, hread, rfl⟩ | ⟨hnumber, hword, rfl, rfl⟩
    · have hagree : AgreesTo length (c :: rest) (c :: other) := (hother.cons c).mono (by omega)
      rw [if_pos hnumber, readNumber_of_agreesTo hread hagree place]
      rfl
    · rw [hnumber, if_neg Bool.false_ne_true, if_pos hword, hother.takeWhile (Nat.le_refl _)]

/-- How tokens are spelled. -/
inductive Shape
  /-- With neither letters nor digits. -/
  | symbol
  /-- Between dollar signs. -/
  | variable
  /-- With letters and digits. -/
  | word
  deriving DecidableEq

/-- How a token is spelled. -/
def Token.shape : Token → Shape
  | .var _ => .variable
  | .int _ | .float _ | .bool _ | .and | .or | .not | .word _ => .word
  | _ => .symbol

/-- How a token that starts with a character is spelled. -/
def shapeOf (c : Char) : Shape :=
  if c = '$' then .variable else if c ∈ "+-*/%()=!<>".toList then .symbol else .word

theorem shape_wordToken (word : Text) : (wordToken word).shape = .word := by
  unfold wordToken
  repeat' split
  all_goals rfl

/-- Numbers have the shape of words, because letters may continue them. -/
theorem shape_of_readNumber {t : Text} (h : readNumber offset t = .ok (token, size)) :
    token.shape = .word := by
  obtain ⟨-, ⟨n, value, -, rfl⟩ | ⟨value, rfl⟩⟩ := readNumber_cases h <;> rfl

/-- The first character tells how the token is spelled. -/
theorem shape_of_readToken (h : readToken offset c rest = .ok (token, size)) :
    token.shape = shapeOf c := by
  by_cases hc : c ∈ "+-*/%()=!<>$".toList
  · unfold readToken at h
    dsimp only at h
    split at h
    case h_12 =>
      obtain ⟨name, tail, -, -, -, rfl, -⟩ := name_of_readVariable h
      rfl
    case h_13 => simp_all
    all_goals repeat' split at h
    all_goals cases h
    all_goals rfl
  · have hshape : shapeOf c = .word := by
      unfold shapeOf
      rw [if_neg (by simp_all), if_neg (by simp_all)]
    rw [hshape]
    rcases readToken_cases hc h with ⟨-, length, hnumber, -⟩ | ⟨-, -, rfl, -⟩
    · exact shape_of_readNumber hnumber
    · exact shape_wordToken _

theorem mem_of_shapeOf (h : shapeOf c = .symbol) : c ∈ "+-*/%()=!<>".toList := by
  unfold shapeOf at h
  split at h
  · cases h
  · split at h
    next hmem => exact hmem
    next => cases h

/-- Behind a symbol anything may come but a character that goes on with it. -/
theorem readToken_symbol (h : readToken offset c rest = .ok (token, size))
    (htoken : token.shape = .symbol) {behind : Text}
    (hbehind : ∀ d ∈ behind.head?, d ≠ '*' ∧ d ≠ '=') (place : Nat) :
    readToken place c (rest.take size ++ behind) = .ok (token, size) := by
  have hc := mem_of_shapeOf ((shape_of_readToken h).symm.trans htoken)
  unfold readToken at h
  dsimp only at h
  split at h
  case h_3 =>
    -- one star or two
    split at h
    next hnext =>
      obtain ⟨rfl, rfl⟩ := Prod.mk.inj (Except.ok.inj h)
      rw [List.take_one, hnext]
      rfl
    next =>
      obtain ⟨rfl, rfl⟩ := Prod.mk.inj (Except.ok.inj h)
      exact if_neg fun hhead => (hbehind '*' hhead).1 rfl
  case h_8 | h_9 =>
    -- these marks need the sign of equality behind them
    split at h
    next hnext =>
      obtain ⟨rfl, rfl⟩ := Prod.mk.inj (Except.ok.inj h)
      rw [List.take_one, hnext]
      rfl
    next => cases h
  case h_10 | h_11 =>
    -- these may have one
    split at h
    next hnext =>
      obtain ⟨rfl, rfl⟩ := Prod.mk.inj (Except.ok.inj h)
      rw [List.take_one, hnext]
      rfl
    next =>
      obtain ⟨rfl, rfl⟩ := Prod.mk.inj (Except.ok.inj h)
      exact if_neg fun hhead => (hbehind '=' hhead).2 rfl
  case h_12 | h_13 => simp_all
  all_goals
    obtain ⟨rfl, rfl⟩ := Prod.mk.inj (Except.ok.inj h)
    rfl

end Token

/-! ## Texts -/

/-- The text is read as these tokens, wherever it stands. -/
def Lexes (t : Text) (tokens : List Token) : Prop :=
  ∀ offset, ∃ ts, tokensFrom offset t = .ok ts ∧ ts.map (·.token) = tokens

section Lex

variable {c : Char} {rest : Text} {tokens : List Token}

theorem lexes_nil : Lexes [] [.finish] := fun offset =>
  ⟨[⟨.finish, [], offset⟩], tokensFrom_nil offset, rfl⟩

/-- Blanks between tokens do not matter. -/
theorem Lexes.blank (h : Lexes rest tokens) (hblank : Text.isBlank c = true) :
    Lexes (c :: rest) tokens := by
  intro offset
  rw [tokensFrom_cons, if_pos hblank]
  exact h _

/-- A token in front is read first. -/
theorem Lexes.cons {token : Token} {n : Nat} (h : Lexes (rest.drop n) tokens)
    (hblank : Text.isBlank c = false) (hread : ∀ offset, readToken offset c rest = .ok (token, n)) :
    Lexes (c :: rest) (token :: tokens) := by
  intro offset
  obtain ⟨ts, hts, htokens⟩ := h (offset + Text.bytes (c :: rest.take n))
  refine ⟨⟨token, c :: rest.take n, offset⟩ :: ts, ?_, by simp [htokens]⟩
  rw [tokensFrom_cons, if_neg (by simp [hblank]), hread]
  simp only [bind, Except.bind, hts]
  rfl

end Lex

end DialogueScript.Expr
