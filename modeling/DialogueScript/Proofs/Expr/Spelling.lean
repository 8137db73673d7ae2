import Mathlib.Data.List.Chain
import DialogueScript.Proofs.Expr.Lexing
import DialogueScript.Proofs.Expr.Printing

/-!
# Reading back what was written, token by token

A token that a text can hold is read back from its spelling, if a space or the end of the text comes
behind it (`readToken_spelling`), so the tokens that a tree is written with are the tokens of its
text (`tokenize_text`).
-/

namespace DialogueScript.Expr

open Alphabet

/-! ## Tokens that are written -/

/-- Is the token read back from its spelling? Doubles are not considered. -/
def Token.isWritable : Token → Bool
  | .int value => 0 ≤ value.toInt
  | .var name => isVariable name
  | .float _ | .word _ | .finish => false
  | _ => true

/-- Parentheses can be written. -/
theorem isWritable_enclose {place own : Nat} {tokens : List Token}
    (h : ∀ token ∈ tokens, token.isWritable = true) :
    ∀ token ∈ enclose place own tokens, token.isWritable = true := by
  unfold enclose
  split
  · intro token hmem
    simp only [List.cons_append, List.mem_cons, List.mem_append, List.not_mem_nil,
      or_false] at hmem
    rcases hmem with rfl | hmem | rfl
    · rfl
    · exact h token hmem
    · rfl
  · exact h

theorem isWritable_operandTokens {op : BoolOp} : ∀ {operands : List Tree},
    (∀ operand ∈ operands, ∀ token ∈ operand.tokens, token.isWritable = true) →
    ∀ token ∈ operandTokens op operands, token.isWritable = true := by
  intro operands
  induction operands with
  | nil => simp [operandTokens]
  | cons operand more ih =>
    intro h token hmem
    rw [operandTokens, List.cons_append, List.mem_cons, List.mem_append] at hmem
    rcases hmem with rfl | hmem | hmem
    · cases op <;> rfl
    · exact isWritable_enclose (h operand (List.mem_cons_self ..)) token hmem
    · exact ih (fun other hother => h other (List.mem_cons_of_mem _ hother)) token hmem

theorem isWritable_linkTokens : ∀ {links : List (CompareOp × Tree)},
    (∀ link ∈ links, ∀ token ∈ link.2.tokens, token.isWritable = true) →
    ∀ token ∈ linkTokens links, token.isWritable = true := by
  intro links
  induction links with
  | nil => simp [linkTokens]
  | cons link more ih =>
    intro h token hmem
    rw [linkTokens, List.cons_append, List.mem_cons, List.mem_append] at hmem
    rcases hmem with rfl | hmem | hmem
    · cases link.1 <;> rfl
    · exact isWritable_enclose (h link (List.mem_cons_self ..)) token hmem
    · exact ih (fun other hother => h other (List.mem_cons_of_mem _ hother)) token hmem

/-- All tokens of a grammatical tree can be written, since its numbers are not negative and its
variables have names. -/
theorem isWritable_tokens {tree : Tree} (h : tree.isGrammatical false = true) :
    ∀ token ∈ tree.tokens, token.isWritable = true := by
  induction tree using Tree.induction with
  | int _ | var _ => exact List.forall_mem_singleton.mpr h
  | float _ => simp [Tree.isGrammatical] at h
  | bool _ => exact List.forall_mem_singleton.mpr rfl
  | sign op operand ih =>
    refine List.forall_mem_cons.mpr ⟨by cases op <;> rfl, isWritable_enclose (ih h)⟩
  | not operand ih => exact List.forall_mem_cons.mpr ⟨rfl, isWritable_enclose (ih h)⟩
  | binary op left right ihleft ihright =>
    obtain ⟨hleft, hright⟩ := Bool.and_eq_true_iff.mp h
    rw [Tree.tokens, List.forall_mem_append, List.forall_mem_cons]
    exact ⟨isWritable_enclose (ihleft hleft), by cases op <;> rfl,
      isWritable_enclose (ihright hright)⟩
  | logical op operands ih =>
    obtain ⟨-, hall⟩ := Bool.and_eq_true_iff.mp h
    have hoperands := fun operand hmem => ih operand hmem (isGrammatical_of_mem hall operand hmem)
    cases operands with
    | nil => simp [Tree.tokens]
    | cons first more =>
      obtain ⟨hfirst, hmore⟩ := List.forall_mem_cons.mp hoperands
      rw [Tree.tokens, List.forall_mem_append]
      exact ⟨isWritable_enclose hfirst, isWritable_operandTokens hmore⟩
  | compare first links ihfirst ihlinks =>
    obtain ⟨hlinks, hall⟩ := Bool.and_eq_true_iff.mp h
    obtain ⟨-, hfirst⟩ := Bool.and_eq_true_iff.mp hlinks
    rw [Tree.tokens, List.forall_mem_append]
    exact ⟨isWritable_enclose (ihfirst hfirst), isWritable_linkTokens fun link hmem =>
      ihlinks link hmem (isGrammatical_of_mem_links hall link hmem)⟩

/-! ## Spellings -/

/-- Nothing, or a text that starts with a space. -/
def Spaced (rest : Text) : Prop := ∀ c ∈ rest.head?, c = ' '

theorem spaced_nil : Spaced [] := by simp [Spaced]

theorem spaced_cons (rest : Text) : Spaced (' ' :: rest) := by simp [Spaced]

/-- The text goes on with no word and no number in front of it. -/
def WordEnds (rest : Text) : Prop := ∀ c ∈ rest.head?, continuesWord c = false ∧ c ≠ '.'

/-- What is taken ends where the first other character stands. -/
theorem takeWhile_append_of_head? {p : Char → Bool} {t rest : Text} (ht : ∀ c ∈ t, p c = true)
    (hrest : ∀ c ∈ rest.head?, p c = false) : (t ++ rest).takeWhile p = t := by
  rw [List.takeWhile_append_of_pos ht]
  cases rest with
  | nil => simp
  | cons c more => simp [hrest c rfl]

theorem toNat_of_isAsciiDigit {c : Char} (h : isAsciiDigit c = true) :
    48 ≤ c.toNat ∧ c.toNat ≤ 57 := by
  simpa [isAsciiDigit, Char.le_def, UInt32.le_iff_toNat_le] using h

/-- Digits continue words. -/
theorem continuesWord_of_isAsciiDigit {c : Char} (h : isAsciiDigit c = true) :
    continuesWord c = true := by
  have hdigits : (List.range' 48 10).all (fun code => continuesWord (Char.ofNat code)) = true := by
    decide +kernel
  have hbounds := toNat_of_isAsciiDigit h
  have hc := List.all_eq_true.mp hdigits c.toNat (List.mem_range'_1.mpr (by omega))
  rwa [Char.ofNat_toNat] at hc

/-- A blank goes on with no word and no number. -/
theorem continuesWord_of_isBlank {c : Char} (h : Text.isBlank c = true) :
    continuesWord c = false ∧ c ≠ '.' := by
  have hblanks : Text.blankCodes.all (fun code =>
      !continuesWord (Char.ofNat code) && Char.ofNat code != '.') = true := by
    decide +kernel
  have hc := List.all_eq_true.mp hblanks c.toNat (Text.toNat_mem_blankCodes h)
  simpa [Char.ofNat_toNat] using hc

/-- A blank ends every word. -/
theorem Spaced.wordEnds {rest : Text} (h : Spaced rest) : WordEnds rest := by
  intro c hhead
  rw [h c hhead]
  exact continuesWord_of_isBlank (by decide)

section Spell

variable {rest : Text} (offset : Nat)

/-! ## Keywords -/

/-- A word that ends where the text goes on with something else is read as a word token. -/
theorem readToken_word {c : Char} {tail : Text} (hc : c ∈ ['a', 'o', 'n', 't', 'f'])
    (htail : tail.all continuesWord = true) (hrest : WordEnds rest) :
    readToken offset c (tail ++ rest) = .ok (wordToken (c :: tail), tail.length) := by
  have hword : (tail ++ rest).takeWhile continuesWord = tail :=
    takeWhile_append_of_head? (List.all_eq_true.mp htail) fun d hd => (hrest d hd).1
  have hletters : ['a', 'o', 'n', 't', 'f'].all (fun d => !"+-*/%()=!<>$".toList.contains d &&
      !(isAsciiDigit d || d == '.') && isAlphabetic d) = true := by
    decide +kernel
  have hletter := List.all_eq_true.mp hletters c hc
  rw [Bool.and_eq_true, Bool.and_eq_true, Bool.not_eq_true', Bool.not_eq_true'] at hletter
  obtain ⟨⟨hplain, hnumber⟩, halphabetic⟩ := hletter
  rw [Bool.or_eq_false_iff] at hnumber
  have hmem : c ∉ "+-*/%()=!<>$".toList := fun hmem => by
    rw [List.contains_iff_mem.mpr hmem] at hplain
    exact Bool.noConfusion hplain
  rw [readToken_of_not_mem offset hmem, if_neg (by simp [startsNumber, hnumber]),
    if_pos (by simp [halphabetic]), hword]

/-! ## Integers -/

theorem isAsciiDigit_of_not_continuesWord {c : Char} (h : continuesWord c = false) :
    isAsciiDigit c = false := by
  cases hdigit : isAsciiDigit c with
  | false => rfl
  | true => exact absurd (continuesWord_of_isAsciiDigit hdigit) (by simp [h])

/-- Where a word ends, no fraction begins. -/
theorem fractionPart_of_wordEnds (h : WordEnds rest) : fractionPart rest = [] := by
  unfold fractionPart
  split
  next => exact absurd rfl (h _ rfl).2
  next => rfl

theorem exponentPart_of_wordEnds (h : WordEnds rest) : exponentPart rest = [] := by
  cases rest with
  | nil => rfl
  | cons c more =>
    -- the letter of an exponent would go on with the number
    have hletter : ¬ (c = 'e' ∨ c = 'E') := by
      rintro (rfl | rfl) <;> exact absurd (h _ rfl).1 (by decide +kernel)
    exact if_neg hletter

/-- Digits that nothing continues are read as the integer that they write. -/
theorem readNumber_digits {digits : Text} (hdigits : ∀ c ∈ digits, isAsciiDigit c = true)
    (hrest : WordEnds rest) {value : Int64}
    (hvalue : Number.ofInt? (decimalNumber digits) = some value) :
    readNumber offset (digits ++ rest) = .ok (.int value, digits.length) := by
  have hwhole : (digits ++ rest).takeWhile isAsciiDigit = digits :=
    takeWhile_append_of_head? hdigits fun c hc => isAsciiDigit_of_not_continuesWord (hrest c hc).1
  have hword : rest.head?.any continuesWord = false :=
    (Option.any_eq_false _ _).mpr fun c hc => (hrest c hc).1
  unfold readNumber
  simp [hwhole, fractionPart_of_wordEnds hrest, exponentPart_of_wordEnds hrest, hword, hvalue]

/-- A number in decimal digits is read back. -/
theorem toNat?_ofNat (n : Nat) : Text.toNat? (Text.ofNat n) = some n := by
  have hdigits : (Text.ofNat n).all Char.isDigit = true :=
    List.all_eq_true.mpr fun c hc => Nat.isDigit_of_mem_toDigits (by decide) (by decide) hc
  have hne : Text.ofNat n ≠ [] := Nat.toDigits_ne_nil
  unfold Text.toNat?
  rw [if_neg (by simp [hdigits, hne])]
  exact congrArg some Nat.ofDigitChars_ten_toDigits

theorem isAsciiDigit_of_mem_ofNat {n : Nat} {c : Char} (h : c ∈ Text.ofNat n) :
    isAsciiDigit c = true :=
  Nat.isDigit_of_mem_toDigits (by decide) (by decide) h

theorem isBlank_of_isAsciiDigit {c : Char} (h : isAsciiDigit c = true) :
    Text.isBlank c = false := by
  have hbounds := toNat_of_isAsciiDigit h
  simp [Text.isBlank]
  omega

/-- The lexer reads the spelling of an integer as that integer. -/
theorem readToken_ofNat {n : Nat} {value : Int64} (hvalue : Number.ofInt? n = some value)
    {c : Char} {tail : Text} (hspelling : Text.ofNat n = c :: tail) (hrest : WordEnds rest) :
    readToken offset c (tail ++ rest) = .ok (.int value, tail.length) := by
  have hdigits : ∀ d ∈ c :: tail, isAsciiDigit d = true := fun d hd =>
    isAsciiDigit_of_mem_ofNat (hspelling ▸ hd)
  have hdigit := hdigits c (List.mem_cons_self ..)
  have hnumber : decimalNumber (c :: tail) = n := by
    rw [← hspelling, decimalNumber, toNat?_ofNat]
    rfl
  have hplain : c ∉ "+-*/%()=!<>$".toList := by
    have hsymbols : "+-*/%()=!<>$".toList.all (fun d => !isAsciiDigit d) = true := by decide
    exact fun hmem => by simpa [hdigit] using List.all_eq_true.mp hsymbols c hmem
  rw [readToken_of_not_mem offset hplain, if_pos (by simp [startsNumber, hdigit]),
    ← List.cons_append, readNumber_digits offset hdigits hrest (hnumber ▸ hvalue)]
  rfl

/-! ## Variables -/

/-- The lexer reads the name of a variable as that variable, with the closing dollar. -/
theorem readToken_var {name : Text} (h : isVariable name = true) :
    ∃ tail, name = '$' :: tail ∧
      readToken offset '$' (tail ++ rest) = .ok (.var name, tail.length) := by
  unfold isVariable at h
  split at h
  next tail =>
    simp only [Bool.and_eq_true, beq_iff_eq] at h
    obtain ⟨⟨hlast, hletter⟩, hword⟩ := h
    obtain ⟨front, rfl⟩ := List.getLast?_eq_some_iff.mp hlast
    have hfront : front ≠ [] := by
      rintro rfl
      exact absurd hletter (by decide)
    have hname : (front ++ '$' :: rest).takeWhile continuesWord = front := by
      rw [List.takeWhile_append_of_pos (by simpa using hword)]
      simp [show continuesWord '$' = false by decide +kernel]
    -- the name is not empty, so its first letter is also that of the whole variable
    have hhead : (front ++ '$' :: rest).head? = (front ++ ['$']).head? := by
      cases front with
      | nil => exact absurd rfl hfront
      | cons c more => rfl
    refine ⟨front ++ ['$'], rfl, ?_⟩
    show readVariable offset (front ++ ['$'] ++ rest) = _
    rw [List.append_assoc, List.singleton_append, readVariable, hhead, if_pos hletter]
    dsimp only
    rw [hname, List.drop_left]
    simp
  next => simp at h

/-! ## All tokens -/

/-- A token is read back from its spelling. -/
theorem readToken_spelling {token : Token} (h : token.isWritable = true) (hrest : Spaced rest) :
    ∃ c tail, token.spelling = c :: tail ∧ Text.isBlank c = false ∧
      readToken offset c (tail ++ rest) = .ok (token, tail.length) := by
  -- the space keeps signs apart that would be one token together
  have hnext : ∀ c : Char, c ≠ ' ' → rest.head? ≠ some c := by
    intro c hc hhead
    exact hc (hrest c hhead)
  cases token with
  | int value =>
    obtain ⟨n, hn⟩ := Int.eq_ofNat_of_zero_le (of_decide_eq_true h)
    have hspelling : Token.spelling (.int value) = Text.ofNat n := by
      rw [Token.spelling, hn]
      rfl
    cases hdigits : Text.ofNat n with
    | nil => exact absurd hdigits Nat.toDigits_ne_nil
    | cons c tail =>
      have hdigit : isAsciiDigit c = true :=
        isAsciiDigit_of_mem_ofNat (hdigits ▸ List.mem_cons_self ..)
      exact ⟨c, tail, hspelling.trans hdigits, isBlank_of_isAsciiDigit hdigit,
        readToken_ofNat offset (Number.ofInt?_eq_some_iff.mpr hn) hdigits hrest.wordEnds⟩
  | var name =>
    obtain ⟨tail, rfl, hread⟩ := readToken_var offset h
    exact ⟨'$', tail, rfl, by decide, hread⟩
  | bool value =>
    cases value with
    | true | false =>
      exact ⟨_, _, rfl, by decide, readToken_word offset (by decide) (by decide +kernel)
        hrest.wordEnds⟩
  | and | or | not =>
    exact ⟨_, _, rfl, by decide, readToken_word offset (by decide) (by decide +kernel)
        hrest.wordEnds⟩
  | plus | minus | slash | percent | openParen | closeParen => exact ⟨_, [], rfl, by decide, rfl⟩
  | equal | notEqual | lessEqual | greaterEqual | starStar => exact ⟨_, _, rfl, by decide, rfl⟩
  | star => exact ⟨_, [], rfl, by decide, if_neg (hnext '*' (by decide))⟩
  | less | greater => exact ⟨_, [], rfl, by decide, if_neg (hnext '=' (by decide))⟩
  | float _ | word _ | finish => exact absurd h Bool.false_ne_true

/-- A token in front of a space or the end is the first token. -/
theorem tokensFrom_spelling {token : Token} (h : token.isWritable = true) (hrest : Spaced rest) :
    tokensFrom offset (token.spelling ++ rest)
      = (do
        let more ← tokensFrom (offset + Text.bytes token.spelling) rest
        return ⟨token, token.spelling, offset⟩ :: more) := by
  obtain ⟨c, tail, hspelling, hblank, hread⟩ := readToken_spelling offset h hrest
  rw [hspelling, List.cons_append, tokensFrom_cons, if_neg (by simp [hblank]), hread]
  simp only [bind, Except.bind, List.take_left, List.drop_left]

end Spell

/-! ## Whole texts -/

/-- Tokens with a space in front of each. -/
def spacedText (tokens : List Token) : Text := tokens.flatMap fun token => ' ' :: token.spelling

theorem spaced_spacedText (tokens : List Token) : Spaced (spacedText tokens) := by
  cases tokens with
  | nil => exact spaced_nil
  | cons token more => exact spaced_cons _

/-- Tokens joined by blanks are the first token, and then a blank in front of every other one. -/
theorem joinWith_cons (token : Token) (more : List Token) :
    Text.joinWith [' '] ((token :: more).map Token.spelling)
      = token.spelling ++ spacedText more := by
  induction more generalizing token with
  | nil => simp [Text.joinWith, List.intercalate, spacedText]
  | cons next more ih =>
    have hnext := ih next
    simp only [Text.joinWith, List.intercalate, List.map_cons, List.intersperse_cons_cons,
      List.flatten_cons] at hnext ⊢
    rw [hnext]
    rfl

/-- The second token stands directly behind the first. -/
def Lexeme.Touches (first second : Lexeme) : Prop :=
  second.offset = first.offset + Text.bytes first.spelling

instance : DecidableRel Lexeme.Touches := fun _ _ => inferInstanceAs (Decidable (_ = _))

/-- If anything stands directly behind the token, it is the end. -/
def Spread (first second : Lexeme) : Prop := first.Touches second → second.token = .finish

/-- Tokens with a blank in front of each are read back, and none of them touches the next. -/
theorem tokensFrom_spacedText : ∀ (tokens : List Token) (offset : Nat),
    (∀ token ∈ tokens, token.isWritable = true) →
    ∃ ts, tokensFrom offset (spacedText tokens) = .ok ts ∧
      ts.map (·.token) = tokens ++ [.finish] ∧ ts.IsChain Spread ∧
      ∀ lexeme ∈ ts.head?, lexeme.offset = offset → lexeme.token = .finish := by
  intro tokens
  induction tokens with
  | nil =>
    intro offset _
    exact ⟨[⟨.finish, [], offset⟩], by simp [spacedText], rfl, .singleton _, by simp⟩
  | cons token more ih =>
    intro offset h
    have hblank : Text.isBlank ' ' = true := by decide
    have htext : spacedText (token :: more) = ' ' :: (token.spelling ++ spacedText more) := rfl
    obtain ⟨ts, hts, htokens, hspread, hhead⟩ :=
      ih (offset + ' '.utf8Size + Text.bytes token.spelling)
        fun other hother => h other (List.mem_cons_of_mem _ hother)
    have hspace : ' '.utf8Size = 1 := by decide
    refine ⟨⟨token, token.spelling, offset + ' '.utf8Size⟩ :: ts, ?_, by simp [htokens],
      List.isChain_cons.mpr ⟨hhead, hspread⟩, by simp [hspace]⟩
    rw [htext, tokensFrom_cons, if_pos hblank,
      tokensFrom_spelling _ (h token (List.mem_cons_self ..)) (spaced_spacedText more), hts]
    rfl

/-- The tokens that a tree is written with are the tokens of its text, all apart. -/
theorem tokenize_text {tree : Tree} (h : tree.isGrammatical false = true) :
    ∃ ts, tokenize tree.text = .ok ts ∧ ts.map (·.token) = tree.tokens ++ [.finish] ∧
      ts.IsChain Spread := by
  have hwritable := isWritable_tokens h
  unfold tokenize Tree.text
  cases htokens : tree.tokens with
  | nil =>
    exact ⟨[⟨.finish, [], 0⟩], by simp [Text.joinWith, List.intercalate], rfl, .singleton _⟩
  | cons token more =>
    rw [htokens] at hwritable
    obtain ⟨ts, hts, hmore, hspread, hhead⟩ :=
      tokensFrom_spacedText more (0 + Text.bytes token.spelling)
        fun other hother => hwritable other (List.mem_cons_of_mem _ hother)
    refine ⟨⟨token, token.spelling, 0⟩ :: ts, ?_, by simp [hmore],
      List.isChain_cons.mpr ⟨hhead, hspread⟩⟩
    rw [joinWith_cons, tokensFrom_spelling _ (hwritable token (List.mem_cons_self ..))
      (spaced_spacedText more), hts]
    rfl

end DialogueScript.Expr
