import DialogueScript.Proofs.Expr.Kinding
import DialogueScript.Proofs.Expr.Lookahead
import DialogueScript.Proofs.Expr.Neighbours

/-!
# Quotes and arrows in expressions

A well-formed expression holds no quote and nowhere `->` (`marks_of_isWellFormed`), so it can stand
between a quoted pattern and an arrow. No token is spelled with a quote, and a minus sign in front
of `>` would be a token of its own in front of a comparison (`clear_tokensFrom`), which may not
stand there (`Follows.apart`).
-/

namespace DialogueScript.Expr

open Alphabet

/-! ## Numbers -/

section Number

variable {t : Text}

theorem prefix_fractionPart : fractionPart t <+: t := by
  unfold fractionPart
  split
  · exact List.cons_prefix_cons.mpr ⟨rfl, List.takeWhile_prefix _⟩
  · exact List.nil_prefix

theorem mem_fractionPart {c : Char} (h : c ∈ fractionPart t) :
    (isAsciiDigit c || c == '.') = true := by
  unfold fractionPart at h
  split at h
  · rcases List.mem_cons.mp h with rfl | hdigit
    · rfl
    · simp [List.all_eq_true.mp List.all_takeWhile c hdigit]
  · simp at h

theorem prefix_signPart : signPart t <+: t := by
  unfold signPart
  split
  · split
    · exact List.cons_prefix_cons.mpr ⟨rfl, List.nil_prefix⟩
    · exact List.nil_prefix
  · exact List.nil_prefix

/-- Of two parts in a row the first characters of a text are made up. -/
theorem take_length_add {a b : Text} (ha : a <+: t) (hb : b <+: t.drop a.length) :
    t.take (a.length + b.length) = a ++ b := by
  rw [List.take_add, ← List.prefix_iff_eq_take.mp ha, ← List.prefix_iff_eq_take.mp hb]

/-- A front and a front of what is behind it are a front together. -/
theorem prefix_append_of_drop {a b : Text} (ha : a <+: t) (hb : b <+: t.drop a.length) :
    a ++ b <+: t := by
  rw [← take_length_add ha hb]
  exact List.take_prefix _ _

/-- The exponent stands at the beginning of the text that it is taken from. -/
theorem prefix_exponentPart : exponentPart t <+: t := by
  unfold exponentPart
  split
  · split
    · dsimp only
      split
      · exact List.nil_prefix
      · exact List.cons_prefix_cons.mpr
          ⟨rfl, prefix_append_of_drop prefix_signPart (List.takeWhile_prefix _)⟩
    · exact List.nil_prefix
  · exact List.nil_prefix

/-- An exponent is empty or ends in digits. -/
theorem exponentPart_cases : exponentPart t = [] ∨ ∃ front digits,
    exponentPart t = front ++ digits ∧ digits ≠ [] ∧ (∀ c ∈ front, c ∈ ['e', 'E', '+', '-']) ∧
      ∀ c ∈ digits, isAsciiDigit c = true := by
  unfold exponentPart
  split
  next c rest =>
    split
    next hc =>
      dsimp only
      split
      · exact .inl rfl
      next hdigits =>
        refine .inr ⟨c :: signPart rest, _, rfl, by simpa using hdigits, ?_,
          List.all_eq_true.mp List.all_takeWhile⟩
        unfold signPart
        grind
    · exact .inl rfl
  · exact .inl rfl

/-- The digits in front of the exponent, with the point. -/
def mantissa (t : Text) : Text :=
  t.takeWhile isAsciiDigit ++ fractionPart (t.drop (t.takeWhile isAsciiDigit).length)

/-- The digits in front of the exponent stand at the beginning of the text. -/
theorem prefix_mantissa : mantissa t <+: t :=
  prefix_append_of_drop (List.takeWhile_prefix _) prefix_fractionPart

theorem mem_mantissa {c : Char} (h : c ∈ mantissa t) : (isAsciiDigit c || c == '.') = true := by
  rcases List.mem_append.mp h with hwhole | hfraction
  · simp [List.all_eq_true.mp List.all_takeWhile c hwhole]
  · exact mem_fractionPart hfraction

/-- What is read as a number. -/
theorem take_of_readNumber {offset size : Nat} {token : Token}
    (h : readNumber offset t = .ok (token, size)) :
    t.take size = mantissa t ++ exponentPart (t.drop (mantissa t).length) ∧ token ≠ .finish := by
  have hsize : t.take ((mantissa t).length + (exponentPart (t.drop (mantissa t).length)).length)
      = mantissa t ++ exponentPart (t.drop (mantissa t).length) :=
    take_length_add prefix_mantissa prefix_exponentPart
  obtain ⟨hread, htoken⟩ := readNumber_cases h
  have hlength : size
      = (mantissa t).length + (exponentPart (t.drop (mantissa t).length)).length := by
    rw [hread, mantissa, List.length_append]
  rw [← hsize, ← hlength]
  refine ⟨rfl, ?_⟩
  rcases htoken with ⟨n, value, -, rfl⟩ | ⟨value, rfl⟩ <;> simp

end Number

/-! ## The spelling of a token -/

/-- What matters of the spelling of a token: it has no quote, dollar signs only in a variable, `>`
only in a comparison, and its last character is a minus sign only if it is nothing else. -/
structure Spells (token : Token) (spelling : Text) : Prop where
  quote : '"' ∉ spelling
  dollar : '$' ∈ spelling → ∃ name, token = .var name
  greater : '>' ∈ spelling → spelling = ['>'] ∨ spelling = ['>', '=']
  minus : spelling.getLast? = some '-' → token = .minus
  finish : token ≠ .finish

section Spelling

variable {offset size : Nat} {token : Token} {spelling t : Text}

/-- A spelling of other characters. -/
theorem Spells.of_all (p : Char → Bool) (h : ∀ c ∈ spelling, p c = true)
    (hmarks : p '"' = false ∧ p '$' = false ∧ p '>' = false) (hlast : spelling.getLast? ≠ some '-')
    (hfinish : token ≠ .finish) : Spells token spelling where
  quote hmem := by simp [h _ hmem] at hmarks
  dollar hmem := by simp [h _ hmem] at hmarks
  greater hmem := by simp [h _ hmem] at hmarks
  minus heq := absurd heq hlast
  finish := hfinish

/-- A text does not end with a character that it does not have. -/
theorem getLast?_ne_of_all {p : Char → Bool} (h : ∀ c ∈ spelling, p c = true) {c : Char}
    (hc : p c = false) : spelling.getLast? ≠ some c := fun hlast => by
  simp [h c (List.mem_of_getLast? hlast)] at hc

/-- The characters that numbers are written with. -/
theorem mem_of_readNumber (h : readNumber offset t = .ok (token, size)) {c : Char}
    (hc : c ∈ t.take size) : (isAsciiDigit c || ".eE+-".toList.contains c) = true := by
  rw [(take_of_readNumber h).1, List.mem_append] at hc
  rcases hc with hc | hc
  · rcases Bool.or_eq_true_iff.mp (mem_mantissa hc) with hdigit | hpoint
    · simp [hdigit]
    · simp [beq_iff_eq.mp hpoint]
  · rcases exponentPart_cases (t := t.drop (mantissa t).length) with hnone
      | ⟨front, digits, hparts, -, hfront, hdigits⟩
    · simp [hnone] at hc
    · rw [hparts, List.mem_append] at hc
      rcases hc with hc | hc
      · have := hfront c hc
        grind
      · simp [hdigits c hc]

/-- A number is spelled without quotes, dollars and arrows, and ends with no minus. -/
theorem spells_of_readNumber (h : readNumber offset t = .ok (token, size)) :
    Spells token (t.take size) := by
  obtain ⟨htake, hfinish⟩ := take_of_readNumber h
  refine .of_all _ (fun _ => mem_of_readNumber h) (by decide) ?_ hfinish
  rw [htake]
  rcases exponentPart_cases (t := t.drop (mantissa t).length) with hnone
    | ⟨front, digits, hparts, hne, -, hdigits⟩
  · rw [hnone, List.append_nil]
    exact getLast?_ne_of_all (fun _ => mem_mantissa) (by decide)
  · -- the sign of an exponent has digits behind it
    rw [hparts, ← List.append_assoc, List.getLast?_append_of_ne_nil _ hne]
    exact getLast?_ne_of_all hdigits (by decide)

theorem wordToken_ne_finish (word : Text) : wordToken word ≠ .finish := by
  unfold wordToken
  repeat' split
  all_goals simp

/-- A character that begins or continues a word. -/
def isWordPart (c : Char) : Bool := isAlphabetic c || c == '_' || continuesWord c

/-- No mark that a line is split at can be part of a word. -/
theorem isWordPart_marks :
    isWordPart '"' = false ∧ isWordPart '$' = false ∧ isWordPart '>' = false := by decide +kernel

theorem isWordPart_minus : isWordPart '-' = false := by decide +kernel

/-- A word is spelled without such marks. -/
theorem spells_word {c : Char} (hc : (isAlphabetic c || c == '_') = true) (token : Token)
    (hfinish : token ≠ .finish) : Spells token (c :: t.takeWhile continuesWord) := by
  have hall : ∀ d ∈ c :: t.takeWhile continuesWord, isWordPart d = true := fun d hd => by
    rcases List.mem_cons.mp hd with rfl | hd
    · simp [isWordPart, hc]
    · simp [isWordPart, List.all_eq_true.mp List.all_takeWhile d hd]
  exact .of_all _ hall isWordPart_marks (getLast?_ne_of_all hall isWordPart_minus) hfinish

/-- The name of a variable has its two dollars and no other mark. -/
theorem spells_of_readVariable (h : readVariable offset t = .ok (token, size)) :
    Spells token ('$' :: t.take size) := by
  obtain ⟨name, tail, rfl, -, hname, rfl, rfl⟩ := name_of_readVariable h
  have htake : (name ++ '$' :: tail).take (name.length + 1) = name ++ ['$'] :=
    List.take_length_add_append 1
  have hmark : ∀ c ∈ '$' :: (name ++ ['$']), c = '$' ∨ isWordPart c = true := fun c hc => by
    simp only [List.mem_cons, List.mem_append, List.not_mem_nil, or_false] at hc
    rcases hc with rfl | hc | rfl
    · exact .inl rfl
    · exact .inr (by simp [isWordPart, hname c hc])
    · exact .inl rfl
  rw [htake]
  exact
    { quote := fun hmem => by simpa [isWordPart_marks] using hmark _ hmem
      dollar := fun _ => ⟨_, rfl⟩
      greater := fun hmem => by simpa [isWordPart_marks] using hmark _ hmem
      minus := fun hlast => by
        rw [← List.cons_append, List.getLast?_concat] at hlast
        simp at hlast
      finish := by simp }

/-- A number begins with a digit or a point, so its mantissa is not empty. -/
theorem mantissa_ne_nil {c : Char} (h : startsNumber c t = true) : mantissa (c :: t) ≠ [] := by
  unfold startsNumber at h
  unfold mantissa
  cases hc : isAsciiDigit c with
  | true => simp [hc]
  | false =>
    rw [hc, Bool.false_or, Bool.and_eq_true, beq_iff_eq] at h
    obtain ⟨rfl, -⟩ := h
    rw [show ('.' :: t).takeWhile isAsciiDigit = [] by simp [hc]]
    exact List.cons_ne_nil _ _

/-- A number has its first character. -/
theorem exists_succ_of_readNumber {c : Char} (hstarts : startsNumber c t = true)
    (h : readNumber offset (c :: t) = .ok (token, size)) : ∃ more, size = more + 1 := by
  refine Nat.exists_eq_succ_of_ne_zero ?_
  rintro rfl
  have htake := (take_of_readNumber h).1
  exact mantissa_ne_nil hstarts (List.append_eq_nil_iff.mp htake.symm).1

theorem take_one_of_head? {c : Char} (h : t.head? = some c) : t.take 1 = [c] := by
  obtain ⟨more, rfl⟩ := List.head?_eq_some_iff.mp h
  rfl

/-- Every token is spelled without quotes. A greater sign stands at its beginning, if at all, and
only the minus ends with one. -/
theorem spells_of_readToken {c : Char} (h : readToken offset c t = .ok (token, size)) :
    Spells token (c :: t.take size) := by
  by_cases hc : c ∈ "+-*/%()=!<>$".toList
  · unfold readToken at h
    dsimp only at h
    split at h
    case h_12 => exact spells_of_readVariable h
    case h_13 => simp_all
    all_goals repeat' split at h
    all_goals cases h
    -- one character, or two of which the second was looked at
    all_goals first
      | rw [List.take_zero]
      | rw [take_one_of_head? ‹_›]
    all_goals exact ⟨by decide, by simp, by decide, by decide, by decide⟩
  · rcases readToken_cases hc h with ⟨hstarts, length, hnumber, rfl⟩ | ⟨-, hword, rfl, rfl⟩
    · have hspells := spells_of_readNumber hnumber
      obtain ⟨more, rfl⟩ := exists_succ_of_readNumber hstarts hnumber
      exact hspells
    · rw [← List.prefix_iff_eq_take.mp (List.takeWhile_prefix _)]
      exact spells_word hword _ (wordToken_ne_finish _)

end Spelling

/-! ## The tokens of a text -/

/-- The first token is not directly in front of a comparison if it is a minus sign. -/
def Apart (first second : Lexeme) : Prop :=
  first.token = .minus → second.token ≠ .greater ∧ second.token ≠ .greaterEqual

/-- A text that begins with `>` begins with a comparison. -/
theorem greater_of_tokensFrom {offset : Nat} {t : Text} {ts : List Lexeme}
    (h : tokensFrom offset t = .ok ts) (hhead : t.head? = some '>') :
    ∃ lexeme, ts.head? = some lexeme ∧
      (lexeme.token = .greater ∨ lexeme.token = .greaterEqual) := by
  obtain ⟨rest, rfl⟩ := List.head?_eq_some_iff.mp hhead
  rw [tokensFrom_cons, if_neg (by decide)] at h
  obtain ⟨⟨token, size⟩, htoken, h⟩ := bind_eq_ok h
  obtain ⟨more, -, h⟩ := bind_eq_ok h
  obtain rfl := Except.ok.inj h
  refine ⟨_, rfl, ?_⟩
  change (if rest.head? = some '=' then Except.ok (Token.greaterEqual, 1)
    else .ok (.greater, 0)) = .ok (token, size) at htoken
  split at htoken
  · exact .inr (Prod.mk.inj (Except.ok.inj htoken)).1.symm
  · exact .inl (Prod.mk.inj (Except.ok.inj htoken)).1.symm

/-- The text of tokens has no quote, nor an arrow unless a minus sign is directly in front of a
comparison, and its last token alone is the end. -/
structure Clear (t : Text) (ts : List Lexeme) : Prop where
  quote : '"' ∉ t
  arrow : ts.IsChain Apart → ¬ ['-', '>'] <:+: t
  finish : ∀ lexeme rest, lexeme :: rest <:+ ts → lexeme.token = .finish → rest = []

/-- A text that can be split into tokens has no quotes, and an arrow only where a minus stands in
front of a greater sign. -/
theorem clear_tokensFrom {offset : Nat} {t : Text} {ts : List Lexeme}
    (h : tokensFrom offset t = .ok ts) : Clear t ts := by
  induction offset, t using tokensFrom.induct generalizing ts with
  | case1 offset =>
    rw [tokensFrom_nil] at h
    obtain rfl := Except.ok.inj h
    exact
      { quote := List.not_mem_nil
        arrow := fun _ => by simp
        finish := fun lexeme rest hsuffix _ => by
          rcases List.suffix_cons_iff.mp hsuffix with heq | hnil
          · exact (List.cons.inj heq).2
          · simp at hnil }
  | case2 offset c rest hblank ih =>
    rw [tokensFrom_cons, if_pos hblank] at h
    have hrest := ih h
    exact
      { quote := fun hmem => by
          rcases List.mem_cons.mp hmem with rfl | hmem
          · exact absurd hblank (by decide)
          · exact hrest.quote hmem
        arrow := fun hchain hinside => by
          rcases List.infix_cons_iff.mp hinside with hfirst | hinside
          · obtain ⟨rfl, -⟩ := List.cons_prefix_cons.mp hfirst
            exact absurd hblank (by decide)
          · exact hrest.arrow hchain hinside
        finish := hrest.finish }
  | case3 offset c rest hblank ih =>
    rw [tokensFrom_cons, if_neg hblank] at h
    obtain ⟨⟨token, size⟩, htoken, h⟩ := bind_eq_ok h
    obtain ⟨more, hmore, h⟩ := bind_eq_ok h
    obtain rfl := Except.ok.inj h
    have hspells := spells_of_readToken htoken
    have hrest := ih size hmore
    have hparts : c :: rest = (c :: rest.take size) ++ rest.drop size := by simp
    rw [hparts]
    exact
      { quote := List.not_mem_append hspells.quote hrest.quote
        arrow := fun hchain hinside => by
          rcases Text.infix_append_pair hinside with hwithin | hbehind | ⟨hlast, hhead⟩
          · -- a spelling with `>` has no minus sign
            rcases hspells.greater (hwithin.subset (by simp)) with heq | heq <;>
              exact absurd (heq ▸ hwithin.subset (List.mem_cons_self ..)) (by decide)
          · exact hrest.arrow hchain.tail hbehind
          · obtain ⟨next, hnext, hgreater⟩ := greater_of_tokensFrom hmore hhead
            have hapart := (List.isChain_cons.mp hchain).1 next hnext (hspells.minus hlast)
            exact hgreater.elim hapart.1 hapart.2
        finish := fun lexeme others hsuffix hfinish => by
          rcases List.suffix_cons_iff.mp hsuffix with heq | hsuffix
          · obtain ⟨rfl, -⟩ := List.cons.inj heq
            exact absurd hfinish hspells.finish
          · exact hrest.finish lexeme others hsuffix hfinish }

/-! ## Texts -/

/-- The tokens of a text that is read are neighbours as the grammar has them. -/
theorem follows_of_parse {t : Text} {tree : Tree} (h : parse t = .ok tree) :
    ∃ ts rest, tokenize t = .ok ts ∧ Derives (.tree 0 tree) 0 ts rest ∧
      (∀ lexeme ∈ rest.head?, lexeme.token = .finish) ∧ ts.IsChain Follows := by
  obtain ⟨ts, htokens, hread⟩ := bind_eq_ok h
  obtain ⟨rest, hderives, hfinish⟩ := derives_of_treeOfTokens hread
  have hjoined := joined_of_derives hderives
  refine ⟨ts, rest, htokens, hderives, hfinish, hjoined.chain ?_ ?_⟩
  · intro lexeme hlexeme
    rw [hfinish lexeme hlexeme]
    rfl
  · -- behind the tree there is the end alone
    cases rest with
    | nil => exact .nil
    | cons lexeme more =>
      rw [(clear_tokensFrom htokens).finish lexeme more hjoined.suffix (hfinish lexeme rfl)]
      exact .singleton _

/-- No comparison may stand behind a minus sign. -/
theorem Follows.apart {first second : Lexeme} (h : Follows first second) : Apart first second := by
  intro hminus
  rw [Follows, hminus] at h
  refine ⟨?_, ?_⟩ <;> intro hgreater <;> rw [hgreater] at h <;>
    exact h.elim (fun hends => Bool.noConfusion hends.1) fun hleads => Bool.noConfusion hleads.2

/-- **A well-formed expression holds no quote and no arrow.** -/
theorem marks_of_isWellFormed {kind : Kind} {t : Text} (h : isWellFormed kind t = true) :
    '"' ∉ t ∧ ¬ ['-', '>'] <:+: t := by
  obtain ⟨tree, hparse, -⟩ := isWellFormed_iff.mp h
  obtain ⟨ts, -, htokens, -, -, hfollows⟩ := follows_of_parse hparse
  have hclear := clear_tokensFrom htokens
  exact ⟨hclear.quote, hclear.arrow (hfollows.imp fun _ _ => Follows.apart)⟩

end DialogueScript.Expr
