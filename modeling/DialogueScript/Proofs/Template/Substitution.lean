import DialogueScript.Template
import DialogueScript.Proofs.Expr.Arrow
import DialogueScript.Proofs.Expr.Filled
import DialogueScript.Proofs.Expr.RoundTrip

/-!
# Expressions with their variables replaced

Replacing the variables in the text of an expression replaces their tokens by those of the values
(`Expr.lexes_substitute`). The values are read on their own, since no symbol goes on with a literal
and a literal does not go on with a symbol; so it is asked that nothing but a symbol stands directly
next to a variable (`Expr.SetApart`).
-/

namespace DialogueScript

/-! ## Replacing variables -/

namespace Template

variable {env : Environment}

@[simp] theorem substitute_nil : substitute env [] = [] := by
  rw [substitute]

/-- A character that is no dollar is copied. -/
theorem substitute_cons_of_ne {c : Char} (h : c ≠ '$') (rest : Text) :
    substitute env (c :: rest) = c :: substitute env rest := by
  rw [substitute, if_neg h]

/-- A front without dollars is copied. -/
theorem substitute_append {front : Text} (h : '$' ∉ front) (rest : Text) :
    substitute env (front ++ rest) = front ++ substitute env rest := by
  induction front with
  | nil => rfl
  | cons c front ih =>
    rw [List.mem_cons, not_or] at h
    rw [List.cons_append, substitute_cons_of_ne (Ne.symm h.1), ih h.2, List.cons_append]

/-- A name ends at the first dollar behind it. -/
theorem splitName_append {name : Text} (h : '$' ∉ name) (rest : Text) :
    splitName (name ++ '$' :: rest) = some (name, rest) := by
  have hname : (name ++ '$' :: rest).takeWhile (· != '$') = name :=
    Expr.takeWhile_append_of_head?
      (fun c hc => bne_iff_ne.mpr fun heq => h (heq ▸ hc)) (by simp)
  simp only [splitName, hname, List.drop_left]

/-- A bound variable is replaced by its value. -/
theorem substitute_bound {name : Text} {value : Value} (hname : '$' ∉ name)
    (hvalue : env.get? ('$' :: name ++ ['$']) = some value) (rest : Text) :
    substitute env ('$' :: (name ++ '$' :: rest)) = value.display ++ substitute env rest := by
  have hbound : ∃ hlength, boundName env (name ++ '$' :: rest) = some (value, ⟨rest, hlength⟩) := by
    unfold boundName
    split
    next other behind hsplit =>
      rw [splitName_append hname] at hsplit
      obtain ⟨rfl, rfl⟩ := Prod.mk.inj (Option.some.inj hsplit)
      exact ⟨length_of_splitName (splitName_append hname rest), by rw [hvalue]; rfl⟩
    next hsplit => simp [splitName_append hname] at hsplit
  obtain ⟨hlength, hbound⟩ := hbound
  rw [substitute, if_pos rfl, hbound]

end Template

namespace Expr

/-! ## The tokens of a value -/

section Display

variable {rest : Text} {tokens : List Token}

/-- A word in front of what goes on with none. -/
theorem lexes_word {c : Char} {tail : Text} (hc : c ∈ ['a', 'o', 'n', 't', 'f'])
    (htail : tail.all continuesWord = true) (hends : WordEnds rest) (h : Lexes rest tokens) :
    Lexes (c :: tail ++ rest) (wordToken (c :: tail) :: tokens) := by
  have hblanks : ['a', 'o', 'n', 't', 'f'].all (fun d => !Text.isBlank d) = true := by decide
  have hblank : Text.isBlank c = false := by simpa using List.all_eq_true.mp hblanks c hc
  refine Lexes.cons (n := tail.length) ?_ hblank fun offset =>
    readToken_word offset hc htail hends
  rwa [List.append_eq, List.drop_left]

/-- The digits of an integer are one token, if nothing continues them. -/
theorem lexes_ofNat {n : Nat} {value : Int64} (hvalue : Number.ofInt? n = some value)
    (hends : WordEnds rest) (h : Lexes rest tokens) :
    Lexes (Text.ofNat n ++ rest) (.int value :: tokens) := by
  cases hspelling : Text.ofNat n with
  | nil => exact absurd hspelling Nat.toDigits_ne_nil
  | cons c tail =>
    have hdigit : Alphabet.isAsciiDigit c = true :=
      isAsciiDigit_of_mem_ofNat (hspelling ▸ List.mem_cons_self ..)
    refine Lexes.cons (n := tail.length) ?_ (isBlank_of_isAsciiDigit hdigit) fun offset =>
      readToken_ofNat offset hvalue hspelling hends
    rwa [List.append_eq, List.drop_left]

/-- A literal is read as its tokens. -/
theorem lexes_display {value : Value} (hliteral : value.isLiteral = true) (hends : WordEnds rest)
    (h : Lexes rest tokens) : Lexes (value.display ++ rest) (value.tokens ++ tokens) := by
  cases value with
  | bool b => cases b <;> exact lexes_word (by decide) (by decide +kernel) hends h
  | number n =>
    cases n with
    | float x => cases hliteral
    | int i =>
      show Lexes (Text.ofInt i.toInt ++ rest) ((if 0 ≤ i.toInt then _ else _) ++ tokens)
      cases hi : i.toInt with
      | ofNat n =>
        rw [if_pos (show 0 ≤ Int.ofNat n from Int.natCast_nonneg n)]
        exact lexes_ofNat (Number.ofInt?_eq_some_iff.mpr hi) hends h
      | negSucc n =>
        have hnegative : (-i).toInt = (n + 1 : Nat) := by
          rw [toInt_neg_of_ne (bne_iff_ne.mp hliteral), hi]
          rfl
        rw [if_neg (by omega)]
        exact Lexes.cons (n := 0) (lexes_ofNat (Number.ofInt?_eq_some_iff.mpr hnegative) hends h)
          (by decide) fun offset => rfl
  | text t => cases hliteral

/-- No literal goes on with an operator in front of it. -/
theorem head?_display {value : Value} (hliteral : value.isLiteral = true) :
    ∀ c ∈ (value.display ++ rest).head?, c ≠ '*' ∧ c ≠ '=' := by
  have hdigits : ∀ n : Nat, ∀ c ∈ (Text.ofNat n ++ rest).head?, c ≠ '*' ∧ c ≠ '=' := by
    intro n c hc
    have hne : Text.ofNat n ≠ [] := Nat.toDigits_ne_nil
    rw [List.head?_append_of_ne_nil _ hne] at hc
    have hdigit := isAsciiDigit_of_mem_ofNat (List.mem_of_mem_head? hc)
    refine ⟨?_, ?_⟩ <;> rintro rfl <;> exact absurd hdigit (by decide)
  cases value with
  | bool b => cases b <;> simp [Value.display, Value.boolText]
  | number n =>
    cases n with
    | float x => cases hliteral
    | int i =>
      show ∀ c ∈ (Text.ofInt i.toInt ++ rest).head?, c ≠ '*' ∧ c ≠ '='
      cases i.toInt with
      | ofNat n => exact hdigits n
      | negSucc n => simp [Text.ofInt]
  | text t => cases hliteral

end Display

/-! ## The tokens of a text -/

/-- Directly next to a variable stands a symbol. -/
def SetApart (first second : Lexeme) : Prop :=
  first.Touches second → (second.token.shape = .variable → first.token.shape = .symbol) ∧
    (first.token.shape = .variable → second.token.shape = .symbol)

section Tokens

variable {env : Environment} {offset size : Nat} {c : Char} {rest t : Text} {token : Token}
  {ts : List Lexeme}

/-- The first token of a text that starts with it. -/
theorem head?_tokensFrom (h : tokensFrom offset (c :: rest) = .ok ts)
    (hblank : Text.isBlank c = false) : ∃ token size, readToken offset c rest = .ok (token, size) ∧
      ts.head? = some ⟨token, c :: rest.take size, offset⟩ := by
  rw [tokensFrom_cons, if_neg (by simp [hblank])] at h
  obtain ⟨⟨token, size⟩, htoken, h⟩ := bind_eq_ok h
  obtain ⟨more, -, h⟩ := bind_eq_ok h
  obtain rfl := Except.ok.inj h
  exact ⟨token, size, htoken, rfl⟩

/-- A variable with a literal is replaced by it. -/
theorem substitute_of_readVariable (h : readVariable offset rest = .ok (token, size))
    (hfills : ∀ name, token = .var name →
      ∃ value, env.get? name = some value ∧ value.isLiteral = true) :
    ∃ value : Value, value.isLiteral = true ∧ token.fill env = value.tokens ∧
      Template.substitute env ('$' :: rest)
        = value.display ++ Template.substitute env (rest.drop size) := by
  obtain ⟨name, tail, rfl, -, hname, rfl, rfl⟩ := name_of_readVariable h
  obtain ⟨value, hvalue, hliteral⟩ := hfills _ rfl
  have hdollar : '$' ∉ name := fun hmem =>
    absurd (hname _ hmem) (by decide +kernel)
  have hdrop : (name ++ '$' :: tail).drop (name.length + 1) = tail :=
    List.drop_length_add_append 1
  refine ⟨value, hliteral, by rw [Token.fill, hvalue]; rfl, ?_⟩
  rw [hdrop, Template.substitute_bound hdollar hvalue]

/-- What stands behind a variable goes on with no word, whatever the values are. -/
theorem wordEnds_substitute {lexeme : Lexeme} (h : tokensFrom offset t = .ok ts)
    (hplace : offset = lexeme.offset + Text.bytes lexeme.spelling)
    (hvariable : lexeme.token.shape = .variable) (hapart : (lexeme :: ts).IsChain SetApart) :
    WordEnds (Template.substitute env t) := by
  cases t with
  | nil => simp [WordEnds]
  | cons c rest =>
    suffices hc : c ≠ '$' ∧ continuesWord c = false ∧ c ≠ '.' by
      rw [Template.substitute_cons_of_ne hc.1]
      simpa [WordEnds] using hc.2
    cases hblank : Text.isBlank c with
    | true =>
      refine ⟨?_, continuesWord_of_isBlank hblank⟩
      rintro rfl
      cases hblank
    | false =>
      obtain ⟨token, size, htoken, hhead⟩ := head?_tokensFrom h hblank
      have hsymbol := (List.isChain_cons.mp hapart).1 _ hhead hplace |>.2 hvariable
      have hmem := mem_of_shapeOf ((shape_of_readToken htoken).symm.trans hsymbol)
      have hsymbols : "+-*/%()=!<>".toList.all
          (fun d => d != '$' && (!continuesWord d && d != '.')) = true := by decide +kernel
      simpa using List.all_eq_true.mp hsymbols c hmem

/-- A token is read again from its spelling, whatever values come behind it. -/
theorem readToken_substitute (h : readToken offset c rest = .ok (token, size)) {place : Nat}
    (hmore : tokensFrom place (rest.drop size) = .ok ts)
    (hplace : place = offset + Text.bytes (c :: rest.take size)) (hfills : Fills env ts)
    (hapart : (⟨token, c :: rest.take size, offset⟩ :: ts : List Lexeme).IsChain SetApart)
    (other : Nat) :
    readToken other c (rest.take size ++ Template.substitute env (rest.drop size))
      = .ok (token, size) := by
  cases hbehind : rest.drop size with
  | nil =>
    rw [Template.substitute_nil]
    exact readToken_of_agreesTo h (agreesTo_append (by rw [hbehind])) other
  | cons d tail =>
    by_cases hd : d = '$'
    · subst hd
      rw [hbehind] at hmore
      obtain ⟨next, length, hnext, hhead⟩ := head?_tokensFrom hmore (by decide)
      obtain ⟨value, hliteral, -, hsubstitute⟩ :=
        substitute_of_readVariable hnext (hfills _ (List.mem_of_mem_head? hhead))
      have hsymbol := (List.isChain_cons.mp hapart).1 _ hhead hplace |>.1 (shape_of_readToken hnext)
      rw [hsubstitute]
      exact readToken_symbol h hsymbol (head?_display hliteral) other
    · rw [Template.substitute_cons_of_ne hd]
      exact readToken_of_agreesTo h (agreesTo_append (by rw [hbehind]; rfl)) other

/-- The tokens of a text with literals in place of its variables are those of the text, filled. -/
theorem lexes_substitute (h : tokensFrom offset t = .ok ts) (hfills : Fills env ts)
    (hapart : ts.IsChain SetApart) : Lexes (Template.substitute env t) (fill env ts) := by
  induction offset, t using tokensFrom.induct generalizing ts with
  | case1 offset =>
    rw [tokensFrom_nil] at h
    obtain rfl := Except.ok.inj h
    rw [Template.substitute_nil]
    exact lexes_nil
  | case2 offset c rest hblank ih =>
    rw [tokensFrom_cons, if_pos hblank] at h
    have hdollar : c ≠ '$' := by
      rintro rfl
      cases hblank
    rw [Template.substitute_cons_of_ne hdollar]
    exact (ih h hfills hapart).blank hblank
  | case3 offset c rest hblank ih =>
    rw [tokensFrom_cons, if_neg hblank] at h
    obtain ⟨⟨token, size⟩, htoken, h⟩ := bind_eq_ok h
    obtain ⟨more, hmore, h⟩ := bind_eq_ok h
    obtain rfl := Except.ok.inj h
    have hbehind := ih size hmore hfills.tail hapart.tail
    have hvariable := hfills _ (List.mem_cons_self ..)
    rw [fill_cons]
    by_cases hdollar : c = '$'
    · -- a literal takes the place of a variable, and what comes behind still ends it
      subst hdollar
      obtain ⟨value, hliteral, hfill, hsubstitute⟩ := substitute_of_readVariable htoken hvariable
      rw [hfill, hsubstitute]
      exact lexes_display hliteral
        (wordEnds_substitute hmore rfl (shape_of_readToken htoken) hapart) hbehind
    · -- the spelling of any other token has no dollars and is copied
      have hshape : token.shape ≠ .variable := by
        rw [shape_of_readToken htoken, shapeOf, if_neg hdollar]
        split <;> simp
      have hspelling : '$' ∉ c :: rest.take size := fun hmem => by
        obtain ⟨name, rfl⟩ := (spells_of_readToken htoken).dollar hmem
        exact hshape rfl
      have hfill : token.fill env = [token] := by
        cases token <;> first | rfl | exact absurd rfl hshape
      have hparts : c :: rest = (c :: rest.take size) ++ rest.drop size := by simp
      rw [hfill, hparts, Template.substitute_append hspelling]
      refine Lexes.cons (n := size) ?_ (by simpa using hblank) fun place =>
        readToken_substitute htoken hmore rfl hfills.tail hapart place
      rwa [List.append_eq, drop_take_append fun hnone => by rw [hnone, Template.substitute_nil]]

end Tokens

end Expr

end DialogueScript
