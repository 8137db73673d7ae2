import DialogueScript.Proofs.Expr.Arrow

/-!
# Tokens in front of blanks

A token is read again from its spelling when there is a blank or nothing behind it, whatever was
there at first (`readToken_apart`). Operators only look for the one sign they may go on with, words
and variables end where a blank stands, and so do the three parts of a number: none of them goes on
with what can be behind it (`readNumber_apart`).
-/

namespace DialogueScript.Expr

open Alphabet

/-! ## Numbers -/

section Number

variable {t behind more : Text}

/-- The text goes on with neither the digits nor the point of a number in front of it. -/
def DigitsEnd (rest : Text) : Prop := ∀ c ∈ rest.head?, isAsciiDigit c = false ∧ c ≠ '.'

/-- Where a word ends, digits end as well. -/
theorem WordEnds.digitsEnd (h : WordEnds behind) : DigitsEnd behind := fun c hc =>
  ⟨isAsciiDigit_of_not_continuesWord (h c hc).1, (h c hc).2⟩

theorem signPart_eq_nil (h : ∀ c ∈ t.head?, isAsciiDigit c = true) : signPart t = [] := by
  cases t with
  | nil => rfl
  | cons c rest =>
    have hsign : ¬ (c = '+' ∨ c = '-') := by
      rintro (rfl | rfl) <;> exact absurd (h _ rfl) (by decide)
    exact if_neg hsign

/-- A sign is found again if digits come behind it. -/
theorem signPart_append (h : ∀ c ∈ more.head?, isAsciiDigit c = true) :
    signPart (signPart t ++ more) = signPart t := by
  cases t with
  | nil => exact signPart_eq_nil h
  | cons c rest =>
    by_cases hc : c = '+' ∨ c = '-'
    · have hsign : ∀ tail, signPart (c :: tail) = [c] := fun _ => if_pos hc
      rw [hsign, List.singleton_append, hsign]
    · rw [show signPart (c :: rest) = [] from if_neg hc]
      exact signPart_eq_nil h

/-- An exponent ends the digits in front of it. -/
theorem digitsEnd_exponentPart (h : WordEnds behind) : DigitsEnd (exponentPart t ++ behind) := by
  cases t with
  | nil => exact h.digitsEnd
  | cons c rest =>
    rw [exponentPart_cons]
    split
    next hc =>
      dsimp only
      split
      next => exact h.digitsEnd
      next =>
        rintro d hd
        obtain rfl : c = d := Option.some.inj hd
        rcases hc with rfl | rfl <;> decide
    next => exact h.digitsEnd

/-- An exponent is found again if its word ends behind it. -/
theorem exponentPart_append (h : WordEnds behind) :
    exponentPart (exponentPart t ++ behind) = exponentPart t := by
  cases t with
  | nil => exact exponentPart_of_wordEnds h
  | cons c rest =>
    rw [exponentPart_cons]
    split
    next hc =>
      dsimp only
      generalize hdigits : (rest.drop (signPart rest).length).takeWhile isAsciiDigit = digits
      have hall : ∀ d ∈ digits, isAsciiDigit d = true := by
        rw [← hdigits]
        exact List.all_eq_true.mp List.all_takeWhile
      split
      next => exact exponentPart_of_wordEnds h
        -- a letter without digits is no exponent, and neither is what comes behind
      next hsome =>
        have hne : digits ≠ [] := by simpa using hsome
        have hhead : ∀ d ∈ (digits ++ behind).head?, isAsciiDigit d = true := fun d hd => by
          rw [List.head?_append_of_ne_nil _ hne] at hd
          exact hall d (List.mem_of_mem_head? hd)
        have htake : (digits ++ behind).takeWhile isAsciiDigit = digits :=
          takeWhile_append_of_head? hall fun d hd => (h.digitsEnd d hd).1
        rw [List.cons_append, List.cons_append, List.append_assoc, exponentPart_cons, if_pos hc,
          signPart_append hhead, List.drop_left]
        dsimp only
        rw [htake, if_neg hsome, List.cons_append]
    next => exact exponentPart_of_wordEnds h

/-- A fraction begins with its point, which ends the digits in front of it. -/
theorem digitsEnd_fractionPart (h : DigitsEnd more) :
    ∀ c ∈ (fractionPart t ++ more).head?, isAsciiDigit c = false := by
  rw [fractionPart_eq]
  split
  next =>
    intro c hc
    obtain rfl : '.' = c := Option.some.inj hc
    decide
  next => exact fun c hc => (h c hc).1

/-- A fraction is found again if no digit and no other point comes behind it. -/
theorem fractionPart_append (h : DigitsEnd more) :
    fractionPart (fractionPart t ++ more) = fractionPart t := by
  rw [fractionPart_eq t]
  split
  next =>
    have htake : ((t.drop 1).takeWhile isAsciiDigit ++ more).takeWhile isAsciiDigit
        = (t.drop 1).takeWhile isAsciiDigit :=
      takeWhile_append_of_head? (List.all_eq_true.mp List.all_takeWhile) fun c hc => (h c hc).1
    exact congrArg ('.' :: ·) htake
  next =>
    rw [List.nil_append, fractionPart_eq]
    exact if_neg fun hpoint => (h '.' hpoint).2 rfl

/-- A row of digits, a fraction and an exponent are found again in a row, in front of what goes on
with no number. -/
theorem parts_append (h : WordEnds behind) {whole fraction exponent : Text}
    (hwhole : t.takeWhile isAsciiDigit = whole)
    (hfraction : fractionPart (t.drop whole.length) = fraction)
    (hexponent : exponentPart (t.drop (whole.length + fraction.length)) = exponent) :
    let other := whole ++ (fraction ++ (exponent ++ behind))
    other.takeWhile isAsciiDigit = whole ∧ fractionPart (other.drop whole.length) = fraction ∧
      exponentPart (other.drop (whole.length + fraction.length)) = exponent ∧
      other.drop (whole.length + fraction.length + exponent.length) = behind := by
  intro other
  have hends : DigitsEnd (exponent ++ behind) := hexponent ▸ digitsEnd_exponentPart h
  have hbehind : other.drop whole.length = fraction ++ (exponent ++ behind) := List.drop_left
  have hlast : other.drop (whole.length + fraction.length) = exponent ++ behind := by
    rw [← List.drop_drop, hbehind, List.drop_left]
  refine ⟨?_, ?_, ?_, ?_⟩
  · have hall : ∀ c ∈ whole, isAsciiDigit c = true := by
      rw [← hwhole]
      exact List.all_eq_true.mp List.all_takeWhile
    exact takeWhile_append_of_head? hall (hfraction ▸ digitsEnd_fractionPart hends)
  · rw [hbehind, ← hfraction]
    exact fractionPart_append hends
  · rw [hlast, ← hexponent]
    exact exponentPart_append h
  · rw [← List.drop_drop, hlast, List.drop_left]

/-- A number is not longer than the text that it is read from. -/
theorem length_take_of_readNumber {offset size : Nat} {token : Token}
    (h : readNumber offset t = .ok (token, size)) : (t.take size).length = size := by
  rw [(take_of_readNumber h).1, (readNumber_cases h).1, mantissa, List.length_append,
    List.length_append]

/-- A number is read again from its spelling. -/
theorem readNumber_apart {offset size : Nat} {token : Token}
    (h : readNumber offset t = .ok (token, size)) (hends : WordEnds behind) (place : Nat) :
    readNumber place (t.take size ++ behind) = .ok (token, size) := by
  have htake := (take_of_readNumber h).1
  have hsize := (readNumber_cases h).1
  unfold readNumber at h
  unfold mantissa at htake
  dsimp only at h
  rw [List.length_append] at htake
  generalize hwhole : t.takeWhile isAsciiDigit = whole at h hsize htake
  generalize hfraction : fractionPart (t.drop whole.length) = fraction at h hsize htake
  generalize hexponent : exponentPart (t.drop (whole.length + fraction.length)) = exponent
    at h hsize htake
  -- each part of the number is found again in front of the next one
  obtain ⟨hwhole', hfraction', hexponent', hbehind⟩ :=
    parts_append hends hwhole hfraction hexponent
  have hword : ¬ behind.head?.any continuesWord = true := by
    rw [Bool.not_eq_true, Option.any_eq_false]
    exact fun c hc => (hends c hc).1
  split at h
  next => cases h
  next =>
    unfold readNumber
    dsimp only
    rw [htake, List.append_assoc, List.append_assoc, hwhole', hfraction', hexponent', hbehind,
      if_neg hword]
    exact h

end Number

/-! ## Tokens -/

section Token

variable {offset size : Nat} {c : Char} {rest behind : Text} {token : Token}

theorem take_takeWhile (p : Char → Bool) (t : Text) :
    t.take (t.takeWhile p).length = t.takeWhile p :=
  (List.prefix_iff_eq_take.mp (List.takeWhile_prefix _)).symm

/-- The rest of a variable, up to the second dollar sign. -/
theorem take_closed (name tail : Text) :
    (name ++ '$' :: tail).take (name.length + 1) = name ++ ['$'] :=
  List.take_length_add_append 1

/-- There is a blank or nothing in front of the text. -/
def BlankFirst (behind : Text) : Prop := ∀ c ∈ behind.head?, Text.isBlank c = true

/-- A blank, like the end of the text, ends every word. -/
theorem BlankFirst.wordEnds (h : BlankFirst behind) : WordEnds behind :=
  fun c hc => continuesWord_of_isBlank (h c hc)

/-- A word is no number, whatever comes behind its first character. -/
theorem startsNumber_of_word (hword : (isAlphabetic c || c == '_') = true)
    (h : startsNumber c rest = false) (other : Text) : startsNumber c other = false := by
  have hpoint : c ≠ '.' := by
    rintro rfl
    exact absurd hword (by decide +kernel)
  have hdigit : isAsciiDigit c = false := (Bool.or_eq_false_iff.mp h).1
  simp [startsNumber, hdigit, hpoint]

/-- The spelling of a number begins one too: behind a first point it has a digit. -/
theorem startsNumber_append (hstarts : startsNumber c rest = true)
    (h : readNumber offset (c :: rest) = .ok (token, size + 1)) (behind : Text) :
    startsNumber c (rest.take size ++ behind) = true := by
  cases hdigit : isAsciiDigit c with
  | true => simp [startsNumber, hdigit]
  | false =>
    simp only [startsNumber, hdigit, Bool.false_or, Bool.and_eq_true, beq_iff_eq] at hstarts
    obtain ⟨rfl, hnext⟩ := hstarts
    obtain ⟨d, hhead, hd⟩ := (Option.any_eq_true _ _).mp hnext
    obtain ⟨tail, rfl⟩ := List.head?_eq_some_iff.mp hhead
    have hmantissa : mantissa ('.' :: d :: tail) = '.' :: d :: tail.takeWhile isAsciiDigit := by
      simp [mantissa, hdigit, fractionPart, hd]
    have htake := (take_of_readNumber h).1
    rw [hmantissa, List.take_succ_cons, List.cons_append] at htake
    have hspelling := (List.cons.inj htake).2
    rw [hspelling]
    simp [startsNumber, hd]

/-- A token is read again from its spelling in front of a blank or the end. -/
theorem readToken_apart (h : readToken offset c rest = .ok (token, size))
    (hends : BlankFirst behind) (place : Nat) :
    readToken place c (rest.take size ++ behind) = .ok (token, size) := by
  by_cases hc : c ∈ "+-*/%()=!<>".toList
  · -- a blank goes on with no mark
    have hsymbol : token.shape = .symbol := by
      rw [shape_of_readToken h, shapeOf, if_neg (by rintro rfl; exact absurd hc (by decide)),
        if_pos hc]
    refine readToken_symbol h hsymbol (fun d hd => ⟨?_, ?_⟩) place <;>
    · rintro rfl
      exact absurd (hends _ hd) (by decide)
  by_cases hdollar : c = '$'
  · -- the name ends at its dollar, whatever comes behind
    subst hdollar
    have hread : readVariable offset rest = .ok (token, size) := h
    have hlexed := lexed_of_readVariable hread
    obtain ⟨name, tail, rfl, -, -, rfl, rfl⟩ := name_of_readVariable hread
    obtain ⟨other, hother, hagain⟩ := @readToken_var behind place _ (hlexed _ rfl)
    obtain ⟨-, rfl⟩ := List.cons.inj hother
    rw [take_closed]
    simpa using hagain
  · have hmem : c ∉ "+-*/%()=!<>$".toList := by simp_all
    -- numbers and words end where no letter and no digit follows
    rw [readToken_of_not_mem place hmem]
    rcases readToken_cases hmem h with ⟨hnumber, length, hread, rfl⟩ | ⟨hnumber, hword, rfl, rfl⟩
    · obtain ⟨more, rfl⟩ := exists_succ_of_readNumber hnumber hread
      have hagain : readNumber place (c :: (rest.take more ++ behind)) = .ok (token, more + 1) :=
        readNumber_apart hread hends.wordEnds place
      rw [Nat.add_sub_cancel, if_pos (startsNumber_append hnumber hread behind), hagain]
      rfl
    · have hword' : (rest.takeWhile continuesWord ++ behind).takeWhile continuesWord
          = rest.takeWhile continuesWord :=
        takeWhile_append_of_head? (List.all_eq_true.mp List.all_takeWhile)
          fun d hd => (hends.wordEnds d hd).1
      rw [take_takeWhile, hword', if_neg (by rw [startsNumber_of_word hword hnumber]; simp),
        if_pos hword]

/-- No blank continues a word. -/
theorem isBlank_of_continuesWord (h : continuesWord c = true) : Text.isBlank c = false := by
  cases hblank : Text.isBlank c with
  | false => rfl
  | true => exact absurd (continuesWord_of_isBlank hblank).1 (by simp [h])

theorem isBlank_of_mem_number (h : (isAsciiDigit c || ".eE+-".toList.contains c) = true) :
    Text.isBlank c = false := by
  rcases Bool.or_eq_true_iff.mp h with hdigit | hmem
  · exact isBlank_of_isAsciiDigit hdigit
  · have hmarks : ".eE+-".toList.all (fun d => !Text.isBlank d) = true := by decide
    simpa using List.all_eq_true.mp hmarks c (List.contains_iff_mem.mp hmem)

/-- Behind its first character a token has as many others as its size says, none of them blank. -/
theorem tail_of_readToken (h : readToken offset c rest = .ok (token, size)) :
    (rest.take size).length = size ∧ ∀ d ∈ rest.take size, Text.isBlank d = false := by
  by_cases hc : c ∈ "+-*/%()=!<>$".toList
  · unfold readToken at h
    dsimp only at h
    split at h
    case h_12 =>
      obtain ⟨name, tail, rfl, -, hname, -, rfl⟩ := name_of_readVariable h
      rw [take_closed]
      refine ⟨List.length_append, fun d hd => ?_⟩
      rcases List.mem_append.mp hd with hd | hd
      · exact isBlank_of_continuesWord (hname d hd)
      · obtain rfl := List.mem_singleton.mp hd
        decide
    case h_13 => simp_all
    all_goals repeat' split at h
    all_goals cases h
    -- no further character, or one that was looked at
    all_goals first
      | rw [List.take_zero]
      | rw [take_one_of_head? ‹_›]
    all_goals exact ⟨rfl, by simp [Text.isBlank]⟩
  · rcases readToken_cases hc h with ⟨hstarts, length, hnumber, rfl⟩ | ⟨-, -, -, rfl⟩
    · obtain ⟨more, rfl⟩ := exists_succ_of_readNumber hstarts hnumber
      exact ⟨Nat.succ.inj (length_take_of_readNumber hnumber), fun d hd =>
        isBlank_of_mem_number (mem_of_readNumber hnumber (List.mem_cons_of_mem c hd))⟩
    · rw [take_takeWhile]
      exact ⟨rfl, fun d hd =>
        isBlank_of_continuesWord (List.all_eq_true.mp List.all_takeWhile d hd)⟩

end Token

/-! ## Spellings -/

/-- A spelling without blanks that is read as the token wherever it stands in front of a blank or
the end. -/
structure Spelled (token : Token) (spelling : Text) : Prop where
  read : ∃ c tail, spelling = c :: tail ∧ ∀ place behind, BlankFirst behind →
    readToken place c (tail ++ behind) = .ok (token, tail.length)
  blank : ∀ c ∈ spelling, Text.isBlank c = false
  finish : token ≠ .finish

section Spelled

variable {offset size : Nat} {c : Char} {rest behind gap spelling : Text} {token : Token}

/-- The spelling of a token that was read is read as that token in front of any blank. -/
theorem spelled_of_readToken (h : readToken offset c rest = .ok (token, size))
    (hblank : Text.isBlank c = false) : Spelled token (c :: rest.take size) where
  read := ⟨c, rest.take size, rfl, fun place behind hends => by
    rw [readToken_apart h hends place, (tail_of_readToken h).1]⟩
  blank := List.forall_mem_cons.mpr ⟨hblank, (tail_of_readToken h).2⟩
  finish := (spells_of_readToken h).finish

theorem Spelled.ne_nil (h : Spelled token spelling) : spelling ≠ [] := by
  obtain ⟨c, tail, rfl, -⟩ := h.read
  exact List.cons_ne_nil c tail

/-- Every token takes some bytes, so the next one begins later. -/
theorem Spelled.bytes_pos (h : Spelled token spelling) : 0 < Text.bytes spelling := by
  obtain ⟨c, tail, rfl, -⟩ := h.read
  exact Nat.add_pos_left c.utf8Size_pos _

/-- Blanks are passed, and count for the offsets behind them. -/
theorem tokensFrom_blank (hgap : ∀ c ∈ gap, Text.isBlank c = true) (offset : Nat) (rest : Text) :
    tokensFrom offset (gap ++ rest) = tokensFrom (offset + Text.bytes gap) rest := by
  induction gap generalizing offset with
  | nil => rfl
  | cons c gap ih =>
    obtain ⟨hc, hgap⟩ := List.forall_mem_cons.mp hgap
    rw [List.cons_append, tokensFrom_cons, if_pos hc, ih hgap, Text.bytes_cons, Nat.add_assoc]

/-- In front of a blank or the end a spelling is the next token. -/
theorem Spelled.tokensFrom (h : Spelled token spelling) (hends : BlankFirst behind)
    (offset : Nat) : tokensFrom offset (spelling ++ behind) = (do
      let more ← tokensFrom (offset + Text.bytes spelling) behind
      return ⟨token, spelling, offset⟩ :: more) := by
  obtain ⟨c, tail, rfl, hread⟩ := h.read
  have hblank := h.blank c List.mem_cons_self
  rw [List.cons_append, tokensFrom_cons, if_neg (by simp [hblank]), hread offset behind hends]
  simp only [bind, Except.bind, List.take_left, List.drop_left]

end Spelled

end DialogueScript.Expr
