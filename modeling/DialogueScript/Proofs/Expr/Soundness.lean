import DialogueScript.Proofs.Expr.Derivation
import DialogueScript.Proofs.Expr.Descent
import DialogueScript.Proofs.Expr.Lexing

/-!
# Every tree that is read can be printed

A tree that is read from tokens is one that texts stand for, and the tokens that it is printed with
are among those that were read, in the same order: what is left out are parentheses that it does
not need (`printed_of_derives`, by induction on the derivation). The tokens of the lexer are such as
this supposes (`lexed_tokensFrom`).
-/

namespace DialogueScript.Expr

/-! ## Tokens that were read -/

/-- If the token is an operand, then one that texts stand for. -/
def Token.Lexed (token : Token) : Prop :=
  ∀ leaf, leaf? token = some leaf → leaf.isGrammatical true = true

/-- The operands of one token are such as the lexer makes them. -/
def Lexed (ts : List Lexeme) : Prop := ∀ lexeme ∈ ts, lexeme.token.Lexed

/-- Tokens that are, in order, among those that stand in front of the rest. -/
def Consumes (tokens : List Token) (ts rest : List Lexeme) : Prop :=
  ∃ front, ts = front ++ rest ∧ List.Sublist tokens (front.map (·.token))

section Consume

variable {tokens more : List Token} {ts middle rest : List Lexeme} {lexeme : Lexeme}

theorem Consumes.nil (ts : List Lexeme) : Consumes [] ts ts := ⟨[], rfl, List.Sublist.refl []⟩

/-- What is taken in two steps is taken in one. -/
theorem Consumes.append (h : Consumes tokens ts middle) (hmore : Consumes more middle rest) :
    Consumes (tokens ++ more) ts rest := by
  obtain ⟨front, rfl, hfront⟩ := h
  obtain ⟨back, rfl, hback⟩ := hmore
  exact ⟨front ++ back, by simp, by simpa using hfront.append hback⟩

/-- One more token may be taken in front. -/
theorem Consumes.cons (h : Consumes tokens ts rest) (lexeme : Lexeme) :
    Consumes (lexeme.token :: tokens) (lexeme :: ts) rest := by
  obtain ⟨front, rfl, hfront⟩ := h
  exact ⟨lexeme :: front, rfl, hfront.cons_cons _⟩

/-- Fewer tokens in the same order are taken as well. -/
theorem Consumes.mono (h : Consumes tokens ts rest) (hmore : List.Sublist more tokens) :
    Consumes more ts rest := by
  obtain ⟨front, rfl, hfront⟩ := h
  exact ⟨front, rfl, hmore.trans hfront⟩

/-- What is left of tokens of the lexer are tokens of the lexer. -/
theorem Lexed.of_consumes (h : Lexed ts) (hconsumes : Consumes tokens ts rest) : Lexed rest := by
  obtain ⟨front, rfl, -⟩ := hconsumes
  exact fun other hother => h other (List.mem_append_right _ hother)

theorem Lexed.of_cons (h : Lexed (lexeme :: ts)) : Lexed ts :=
  h.of_consumes ((Consumes.nil ts).cons lexeme)

end Consume

/-! ## Tokens of trees -/

section Tokens

variable {tree : Tree} {place : Nat} {token : Token}

/-- A tree is at most put into parentheses. -/
theorem tokensAt_sublist_parens : List.Sublist (tree.tokensAt place)
    (.openParen :: tree.tokens ++ [.closeParen]) := by
  unfold Tree.tokensAt enclose
  split
  · exact List.Sublist.refl _
  · exact (List.sublist_append_left _ _).cons _

theorem tokensAt_sublist_succ : List.Sublist (tree.tokensAt place) (tree.tokensAt (place + 1)) := by
  by_cases hlevel : tree.level = place
  · rw [tokensAt_of_lt (show tree.level < place + 1 by omega)]
    exact tokensAt_sublist_parens
  · exact tokensAt_succ hlevel ▸ List.Sublist.refl _

/-- An operand of one token is that token, wherever it stands. -/
theorem tokensAt_of_leaf? {leaf : Tree} (h : leaf? token = some leaf) :
    leaf.tokensAt 8 = [token] := by
  cases token <;> simp only [leaf?, Option.some.injEq, reduceCtorEq] at h <;> subst h <;> rfl

/-- Only its own token is read as a sign. -/
theorem token_of_sign? {op : Sign} (h : sign? token = some op) : token = op.token := by
  cases token <;> simp only [sign?, Option.some.injEq, reduceCtorEq] at h <;> subst h <;> rfl

/-- Only its own token is read as a link of a chain. -/
theorem links_of_op? {chain : Chain} {op : BinaryOp} (h : chain.op? token = some op) :
    op.Links chain ∧ token = op.token := by
  cases chain <;> cases token <;>
    simp only [Chain.op?, sumOp?, productOp?, Option.some.injEq, reduceCtorEq] at h <;>
    subst h <;> exact ⟨⟨rfl, rfl, rfl, rfl, rfl⟩, rfl⟩

theorem token_of_compareOp? {op : CompareOp} (h : compareOp? token = some op) :
    token = op.token := by
  cases token <;> simp only [compareOp?, Option.some.injEq, reduceCtorEq] at h <;> subst h <;> rfl

/-! ### Chains that grow at their end -/

/-- One more operand has to be grammatical as well. -/
theorem allGrammatical_concat {doubles : Bool} (operands : List Tree) (next : Tree) :
    allGrammatical doubles (operands ++ [next])
      = (allGrammatical doubles operands && next.isGrammatical doubles) := by
  induction operands with
  | nil => simp [allGrammatical]
  | cons first rest ih => rw [List.cons_append, allGrammatical, ih, allGrammatical, Bool.and_assoc]

/-- The tokens of one more operand stand behind its operator, one level tighter. -/
theorem operandTokens_concat (op : BoolOp) (operands : List Tree) (next : Tree) :
    operandTokens op (operands ++ [next])
      = operandTokens op operands ++ op.token :: next.tokensAt (op.level + 1) := by
  induction operands with
  | nil => simp [operandTokens, Tree.tokensAt]
  | cons first rest ih => rw [List.cons_append, operandTokens, ih, operandTokens]; simp

/-- One more link has to have a grammatical operand. -/
theorem allLinksGrammatical_concat {doubles : Bool} (links : List (CompareOp × Tree))
    (next : CompareOp × Tree) : allLinksGrammatical doubles (links ++ [next])
      = (allLinksGrammatical doubles links && next.2.isGrammatical doubles) := by
  induction links with
  | nil => simp [allLinksGrammatical]
  | cons first rest ih =>
    rw [List.cons_append, allLinksGrammatical, ih, allLinksGrammatical, Bool.and_assoc]

/-- The tokens of one more link stand behind its comparison. -/
theorem linkTokens_concat (links : List (CompareOp × Tree)) (op : CompareOp) (next : Tree) :
    linkTokens (links ++ [(op, next)]) = linkTokens links ++ op.token :: next.tokensAt 4 := by
  induction links with
  | nil => simp [linkTokens, Tree.tokensAt]
  | cons first rest ih => rw [List.cons_append, linkTokens, ih, linkTokens]; simp

end Tokens

/-! ## What is derived can be printed -/

/-- A part can be printed with tokens that were read. -/
def Part.Printed (ts rest : List Lexeme) : Part → Prop
  | .tree level whole =>
    whole.isGrammatical true = true ∧ Consumes (whole.tokensAt level) ts rest
  | .chain kind _ front =>
    front.isGrammatical true = true ∧ Consumes (front.tokensAt kind.level) ts rest
  | .operands _ [] => False
  | .operands op (first :: more) =>
    (first.isGrammatical true = true ∧ allGrammatical true more = true) ∧
      Consumes (first.tokensAt (op.level + 1) ++ operandTokens op more) ts rest
  | .links first more =>
    (first.isGrammatical true = true ∧ allLinksGrammatical true more = true) ∧
      Consumes (first.tokensAt 4 ++ linkTokens more) ts rest

/-- The tree of a derivation is grammatical, and its tokens stand among those that were taken, in
their order. -/
theorem printed_of_derives {part : Part} {depth : Nat} {ts rest : List Lexeme}
    (h : Derives part depth ts rest) (hlexed : Lexed ts) : part.Printed ts rest := by
  induction h with
  | @leaf depth lexeme leaf rest hleaf =>
    refine ⟨hlexed lexeme (List.mem_cons_self ..) leaf hleaf, ?_⟩
    rw [tokensAt_of_leaf? hleaf]
    exact (Consumes.nil rest).cons lexeme
  | @parens depth opening closing tree ts rest hopening hclosing _ _ ih =>
    obtain ⟨hgrammatical, hconsumes⟩ := ih hlexed.of_cons
    -- the parentheses were read, but are printed only where they are needed
    have hparens := (hconsumes.append ((Consumes.nil rest).cons closing)).cons opening
    rw [hopening, hclosing] at hparens
    exact ⟨hgrammatical, hparens.mono tokensAt_sublist_parens⟩
  | looser _ ih =>
    obtain ⟨hgrammatical, hconsumes⟩ := ih hlexed
    exact ⟨hgrammatical, hconsumes.mono tokensAt_sublist_succ⟩
  | @power depth lexeme base exponent ts middle rest htoken _ _ _ ihleft ihright =>
    obtain ⟨hleft, hfront⟩ := ihleft hlexed
    obtain ⟨hright, hmore⟩ := ihright (hlexed.of_consumes hfront).of_cons
    have hpower := hfront.append (hmore.cons lexeme)
    rw [htoken] at hpower
    exact ⟨Bool.and_eq_true_iff.mpr ⟨hleft, hright⟩, hpower⟩
  | @sign depth lexeme op operand ts rest hop _ _ ih =>
    obtain ⟨hgrammatical, hconsumes⟩ := ih hlexed.of_cons
    have hsigned := hconsumes.cons lexeme
    rw [token_of_sign? hop] at hsigned
    exact ⟨hgrammatical, hsigned⟩
  | @not depth lexeme operand ts rest htoken _ _ ih =>
    obtain ⟨hgrammatical, hconsumes⟩ := ih hlexed.of_cons
    have hnegated := hconsumes.cons lexeme
    rw [htoken] at hnegated
    exact ⟨hgrammatical, hnegated⟩
  | chainFirst _ ih =>
    obtain ⟨hgrammatical, hconsumes⟩ := ih hlexed
    exact ⟨hgrammatical, hconsumes.mono tokensAt_sublist_succ⟩
  | @chainNext chain links depth lexeme op left right ts middle rest hop _ _ _ ihfront ih =>
    obtain ⟨hlinks, htoken⟩ := links_of_op? hop
    obtain ⟨hleft, hfront⟩ := ihfront hlexed
    obtain ⟨hright, hmore⟩ := ih (hlexed.of_consumes hfront).of_cons
    have hbinary := hfront.append (hmore.cons lexeme)
    rw [htoken, ← tokensAt_binary hlinks] at hbinary
    exact ⟨Bool.and_eq_true_iff.mpr ⟨hleft, hright⟩, hbinary⟩
  | chain _ ih => exact ih hlexed
  | operandsFirst _ ih =>
    obtain ⟨hgrammatical, hconsumes⟩ := ih hlexed
    exact ⟨⟨hgrammatical, rfl⟩, by simpa [operandTokens] using hconsumes⟩
  | @operandsNext op depth lexeme operands next ts middle rest htoken _ _ ihfront ih =>
    cases operands with
    | nil => exact (ihfront hlexed).elim
    | cons first more =>
      obtain ⟨⟨hfirst, hall⟩, hfront⟩ := ihfront hlexed
      obtain ⟨hnext, hmore⟩ := ih (hlexed.of_consumes hfront).of_cons
      have hoperands := hfront.append (hmore.cons lexeme)
      rw [htoken, List.append_assoc, ← operandTokens_concat] at hoperands
      have hlonger : allGrammatical true (more ++ [next]) = true := by
        rw [allGrammatical_concat, hall, hnext]
        rfl
      exact ⟨⟨hfirst, hlonger⟩, hoperands⟩
  | @logical op depth first more ts rest _ ih =>
    obtain ⟨⟨hfirst, hall⟩, hconsumes⟩ := ih hlexed
    cases more with
    | nil =>
      rw [operandTokens, List.append_nil] at hconsumes
      exact ⟨hfirst, hconsumes.mono tokensAt_sublist_succ⟩
    | cons second more =>
      have htokens : (Tree.logical op (first :: second :: more)).tokensAt op.level
          = first.tokensAt (op.level + 1) ++ operandTokens op (second :: more) :=
        tokensAt_of_le (Nat.le_refl _)
      have hlogical : (Tree.logical op (first :: second :: more)).isGrammatical true = true := by
        rw [Tree.isGrammatical, allGrammatical, hfirst, hall]
        simp
      exact ⟨hlogical, htokens ▸ hconsumes⟩
  | linksFirst _ ih =>
    obtain ⟨hgrammatical, hconsumes⟩ := ih hlexed
    exact ⟨⟨hgrammatical, rfl⟩, by simpa [linkTokens] using hconsumes⟩
  | @linksNext depth lexeme op first links next ts middle rest hop _ _ ihfront ih =>
    obtain ⟨⟨hfirst, hall⟩, hfront⟩ := ihfront hlexed
    obtain ⟨hnext, hmore⟩ := ih (hlexed.of_consumes hfront).of_cons
    have hlinks := hfront.append (hmore.cons lexeme)
    rw [token_of_compareOp? hop, List.append_assoc, ← linkTokens_concat] at hlinks
    exact ⟨⟨hfirst, by rw [allLinksGrammatical_concat, hall, hnext]; rfl⟩, hlinks⟩
  | @compare depth first links ts rest _ ih =>
    obtain ⟨⟨hfirst, hall⟩, hconsumes⟩ := ih hlexed
    cases links with
    | nil =>
      rw [linkTokens, List.append_nil] at hconsumes
      exact ⟨hfirst, hconsumes.mono tokensAt_sublist_succ⟩
    | cons link more => exact ⟨Bool.and_eq_true_iff.mpr ⟨hfirst, hall⟩, hconsumes⟩

/-! ## Tokens of the lexer -/

section Lexer

variable {offset size : Nat} {token : Token} {t : Text}

/-- A token that is no operand is one of the lexer, since only numbers and names are restricted. -/
theorem lexed_of_leaf? (h : leaf? token = none) : token.Lexed := by
  intro leaf hleaf
  simp [h] at hleaf

theorem lexed_bool (value : Bool) : (Token.bool value).Lexed := by
  intro leaf h
  obtain rfl := Option.some.inj h
  rfl

/-- A word is a truth value or no operand at all. -/
theorem lexed_wordToken (word : Text) : (wordToken word).Lexed := by
  unfold wordToken
  repeat' split
  all_goals first
    | exact lexed_bool _
    | exact lexed_of_leaf? rfl

/-- A number that is read is not negative, as grammatical numbers are. -/
theorem lexed_of_readNumber (h : readNumber offset t = .ok (token, size)) : token.Lexed := by
  intro leaf hleaf
  obtain ⟨-, ⟨n, value, hvalue, rfl⟩ | ⟨value, rfl⟩⟩ := readNumber_cases h
  · obtain rfl := Option.some.inj hleaf
    have hint := Number.toInt_of_ofInt? hvalue
    exact decide_eq_true (by omega)
  · obtain rfl := Option.some.inj hleaf
    rfl

/-- The name of a variable that is read is one that can be written. -/
theorem lexed_of_readVariable (h : readVariable offset t = .ok (token, size)) : token.Lexed := by
  intro leaf hleaf
  obtain ⟨name, tail, -, hletter, hname, rfl, -⟩ := name_of_readVariable h
  obtain rfl := Option.some.inj hleaf
  have hword : name.all continuesWord = true := List.all_eq_true.mpr hname
  obtain ⟨c, hhead, hc⟩ := (Option.any_eq_true _ _).mp hletter
  simp [Tree.isGrammatical, isVariable, hhead, hc, hword]

/-- Whatever token is read can stand in a grammatical tree, if in any. -/
theorem lexed_of_readToken {c : Char} (h : readToken offset c t = .ok (token, size)) :
    token.Lexed := by
  by_cases hc : c ∈ "+-*/%()=!<>$".toList
  · unfold readToken at h
    dsimp only at h
    split at h
    case h_12 => exact lexed_of_readVariable h
    case h_13 => simp_all
    all_goals repeat' split at h
    all_goals cases h
    all_goals exact lexed_of_leaf? rfl
  · rcases readToken_cases hc h with ⟨-, length, hnumber, -⟩ | ⟨-, -, rfl, -⟩
    · exact lexed_of_readNumber hnumber
    · exact lexed_wordToken _

/-- The lexer makes no operands but those that texts stand for. -/
theorem lexed_tokensFrom {ts : List Lexeme} (h : tokensFrom offset t = .ok ts) : Lexed ts := by
  induction offset, t using tokensFrom.induct generalizing ts with
  | case1 offset =>
    rw [tokensFrom_nil] at h
    obtain rfl := Except.ok.inj h
    exact List.forall_mem_singleton.mpr (lexed_of_leaf? rfl)
  | case2 offset c rest hblank ih =>
    rw [tokensFrom_cons, if_pos hblank] at h
    exact ih h
  | case3 offset c rest hblank ih =>
    rw [tokensFrom_cons, if_neg hblank] at h
    obtain ⟨⟨token, size⟩, htoken, h⟩ := bind_eq_ok h
    obtain ⟨more, hmore, h⟩ := bind_eq_ok h
    obtain rfl := Except.ok.inj h
    exact List.forall_mem_cons.mpr ⟨lexed_of_readToken htoken, ih size hmore⟩

end Lexer

end DialogueScript.Expr
