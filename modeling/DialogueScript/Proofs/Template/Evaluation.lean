import DialogueScript.Proofs.Template.Substitution

/-!
# The values of expressions with their variables replaced

Replacing the variables in the text of an expression by literals is replacing them in its tree: the
text is read as a tree that means the same as the instance (`parse_substitute`), unless a keyword
stands directly next to a variable, which would become part of one word with the value. So the text
of a tree has the value of the instance (`evaluate_substitute_text`), whatever signs the values
bring along, and a well-formed expression fails only for its values (`fault_of_substitute`).
-/

namespace DialogueScript.Expr

/-! ## Variables of a tree -/

section Variables

variable {name : Text} {place own : Nat} {tokens : List Token}

theorem mem_of_mem_enclose (h : Token.var name ∈ enclose place own tokens) :
    Token.var name ∈ tokens := by
  unfold enclose at h
  split at h
  · simpa using h
  · exact h

/-- A variable among the tokens of operands is one of their variables. -/
theorem mem_operandVariables {op : BoolOp} {operands : List Tree}
    (ih : ∀ operand ∈ operands, Token.var name ∈ operand.tokens → name ∈ operand.variables)
    (h : Token.var name ∈ operandTokens op operands) : name ∈ operandVariables operands := by
  induction operands with
  | nil => cases h
  | cons operand more ihmore =>
    rw [List.forall_mem_cons] at ih
    rw [operandVariables, List.mem_append]
    rw [operandTokens, List.cons_append, List.mem_cons, List.mem_append] at h
    rcases h with hop | hoperand | hmore
    · cases op <;> cases hop
    · exact .inl (ih.1 (mem_of_mem_enclose hoperand))
    · exact .inr (ihmore ih.2 hmore)

theorem mem_linkVariables {links : List (CompareOp × Tree)}
    (ih : ∀ link ∈ links, Token.var name ∈ link.2.tokens → name ∈ link.2.variables)
    (h : Token.var name ∈ linkTokens links) : name ∈ linkVariables links := by
  induction links with
  | nil => cases h
  | cons link more ihmore =>
    obtain ⟨op, operand⟩ := link
    rw [List.forall_mem_cons] at ih
    rw [linkVariables, List.mem_append]
    rw [linkTokens, List.cons_append, List.mem_cons, List.mem_append] at h
    rcases h with hop | hoperand | hmore
    · cases op <;> cases hop
    · exact .inl (ih.1 (mem_of_mem_enclose hoperand))
    · exact .inr (ihmore ih.2 hmore)

/-- The variables among the tokens of a tree are variables of the tree. -/
theorem mem_variables_of_mem_tokens {tree : Tree} (h : Token.var name ∈ tree.tokens) :
    name ∈ tree.variables := by
  induction tree using Tree.induction with
  | int _ | float _ | bool _ => simp [Tree.tokens] at h
  | var other => simpa [Tree.tokens, Tree.variables] using h
  | sign op operand ih =>
    rcases List.mem_cons.mp h with hop | hoperand
    · cases op <;> cases hop
    · exact ih (mem_of_mem_enclose hoperand)
  | not operand ih =>
    rcases List.mem_cons.mp h with hop | hoperand
    · cases hop
    · exact ih (mem_of_mem_enclose hoperand)
  | binary op left right ihleft ihright =>
    rw [Tree.variables, List.mem_append]
    rcases List.mem_append.mp h with hleft | hright
    · exact .inl (ihleft (mem_of_mem_enclose hleft))
    · rcases List.mem_cons.mp hright with hop | hright
      · cases op <;> cases hop
      · exact .inr (ihright (mem_of_mem_enclose hright))
  | logical op operands ih =>
    cases operands with
    | nil => cases h
    | cons first more =>
      rw [List.forall_mem_cons] at ih
      rw [Tree.variables, operandVariables, List.mem_append]
      rcases List.mem_append.mp h with hfirst | hmore
      · exact .inl (ih.1 (mem_of_mem_enclose hfirst))
      · exact .inr (mem_operandVariables ih.2 hmore)
  | compare first links ihfirst ihlinks =>
    rw [Tree.variables, List.mem_append]
    rcases List.mem_append.mp h with hfirst | hlinks
    · exact .inl (ihfirst (mem_of_mem_enclose hfirst))
    · exact .inr (mem_linkVariables ihlinks hlinks)

end Variables

/-! ## Reading -/

section Substitute

variable {env : Environment} {t : Text} {ts : List Lexeme} {tree : Tree}

/-- A text that is read with some levels open is read as the instance of its tree when literals take
the places of its variables, as far as levels are left. -/
theorem parse_substitute {depth : Nat} {rest : List Lexeme} (htokens : tokenize t = .ok ts)
    (hderives : Derives (.tree 0 tree) depth ts rest)
    (hfinish : ∀ lexeme ∈ rest.head?, lexeme.token = .finish) (hdepth : depth ≤ maxNesting)
    (hfills : Fills env ts) (hapart : ts.IsChain SetApart) :
    ∃ levels filled, parse (Template.substitute env t) = guarded levels (.ok filled) ∧
      Stands env filled tree ∧ Shallow depth levels filled := by
  obtain ⟨front, rfl, hfilled⟩ := filled_of_derives hderives hfills hdepth
  obtain ⟨levels, filled, hreads, hstands, hshallow⟩ := hfilled.exists_readsAs (Nat.zero_le 6)
  obtain ⟨lexemes, hlexemes, hfill⟩ := lexes_substitute htokens hfills hapart 0
  rw [fill_append] at hfill
  refine ⟨levels, filled, ?_, hstands, hshallow⟩
  rw [parse, tokenize, hlexemes]
  refine hreads.treeOfTokens hfill fun token htoken => ?_
  cases rest with
  | nil => cases htoken
  | cons lexeme more =>
    rw [fill_cons, hfinish lexeme rfl] at htoken
    exact (Option.some.inj htoken).symm

end Substitute

/-! ## Texts of trees -/

/-- A text is filled if all variables of its tree are bound to literals. -/
theorem fills_text {env : Environment} {tree : Tree} {ts : List Lexeme}
    (htokens : ts.map (·.token) = tree.tokens ++ [.finish])
    (hbound : ∀ name ∈ tree.variables,
      ∃ value, env.get? name = some value ∧ value.isLiteral = true) : Fills env ts := by
  intro lexeme hlexeme name hname
  have hmem : Token.var name ∈ tree.tokens ++ [.finish] := by
    rw [← htokens, ← hname]
    exact List.mem_map_of_mem hlexeme
  rcases List.mem_append.mp hmem with hmem | hfinish
  · exact hbound name (mem_variables_of_mem_tokens hmem)
  · cases List.mem_singleton.mp hfinish

/-- Between tokens that are spread nothing touches a variable but the end. -/
theorem Spread.setApart {first second : Lexeme} (h : Spread first second) :
    SetApart first second := by
  intro htouches
  rw [h htouches]
  exact ⟨nofun, fun _ => rfl⟩

/-- **Replacing variables in a text is replacing them in its tree**: the text of a tree that leaves
one level of nesting, with literals in place of its variables, has a value exactly if the instance
of the tree is of the kind and has that value. -/
theorem evaluate_substitute_text {env : Environment} {tree : Tree}
    (hgrammatical : tree.isGrammatical false = true) (hnesting : tree.nesting < maxNesting)
    (hbound : ∀ name ∈ tree.variables,
      ∃ value, env.get? name = some value ∧ value.isLiteral = true)
    (kind : Kind) (value : kind.Result) :
    evaluate (Template.substitute env tree.text) kind = .ok value ↔
      (tree.instantiate env).conforms kind = true ∧
        (tree.instantiate env).eval kind = .ok value := by
  obtain ⟨ts, hts, htokens, hspread⟩ := tokenize_text hgrammatical
  obtain ⟨finish, hfinish, hread⟩ := readAt_tokens hgrammatical htokens
    (show 1 ≤ maxNesting by decide)
  rw [guarded_of_le (by omega)] at hread
  obtain ⟨levels, filled, hparse, hstands, hshallow⟩ :=
    parse_substitute hts (derives_of_readAt ts 0 (Nat.zero_le 8) 1 tree _ hread) (by simpa)
      (by decide) (fills_text htokens hbound) (hspread.imp fun _ _ => Spread.setApart)
  rw [evaluate_eq_ok_iff, hparse, ← hstands.equivalent.conforms, ← hstands.equivalent.eval]
  constructor
  · rintro ⟨read, hreads, heval⟩
    obtain rfl := guarded_ok_eq_ok hreads
    exact ⟨(conforms_of_eval _ kind value heval).1, heval⟩
  · rintro ⟨hconforms, heval⟩
    -- the sign of a value may open the level that the text leaves
    have hlevels := hshallow kind hconforms
    exact ⟨filled, guarded_of_le (by omega) _, heval⟩

/-- A remainder of a variable behind a sign, and the variable behind a minus: `-$n$ % 3 - $n$`. -/
def signedRemainder : Tree :=
  .binary .sub (.binary .mod (.sign .minus (.var "$n$".toList)) (.int 3)) (.var "$n$".toList)

/-- With a negative value there are two signs in a row, twice, and no operator changes its place. -/
theorem evaluate_substitute_text_signedRemainder :
    let env := (Environment.initial []).bind "$n$".toList (.number (.int (-5)))
    signedRemainder.isGrammatical false = true ∧ signedRemainder.nesting < maxNesting ∧
      (∀ name ∈ signedRemainder.variables,
        ∃ value, env.get? name = some value ∧ value.isLiteral = true) ∧
      Template.substitute env signedRemainder.text = "- -5 % 3 - -5".toList ∧
      evaluate (Template.substitute env signedRemainder.text) .numeric = .ok (.int 7) := by
  intro env
  have hgrammatical : signedRemainder.isGrammatical false = true := by decide +kernel
  have hnesting : signedRemainder.nesting < maxNesting := by decide
  have hbound : ∀ name ∈ signedRemainder.variables,
      ∃ value, env.get? name = some value ∧ value.isLiteral = true := by
    intro name hname
    obtain rfl : name = "$n$".toList := by
      simpa [signedRemainder, Tree.variables] using hname
    exact ⟨.number (.int (-5)), rfl, rfl⟩
  refine ⟨hgrammatical, hnesting, hbound, ?_, ?_⟩
  · with_unfolding_all rfl
  · exact (evaluate_substitute_text hgrammatical hnesting hbound .numeric (.int 7)).mpr
      ⟨rfl, by with_unfolding_all rfl⟩

/-! ## Keywords next to variables -/

/-- Is the token a word of the grammar between operands or in front of one? -/
def Token.isKeyword : Token → Bool
  | .and | .or | .not => true
  | _ => false

/-- No keyword stands directly next to a variable. -/
def KeywordApart (first second : Lexeme) : Prop :=
  first.Touches second → (second.token.shape = .variable → first.token.isKeyword = false) ∧
    (first.token.shape = .variable → second.token.isKeyword = false)

instance : DecidableRel KeywordApart :=
  fun first second => inferInstanceAs (Decidable (first.Touches second → _ ∧ _))

theorem exists_var {token : Token} (h : token.shape = .variable) : ∃ name, token = .var name := by
  cases token with
  | var name => exact ⟨name, rfl⟩
  | _ => cases h

/-- A token in front of or behind an operand is a keyword or no word. -/
theorem shape_of_neighbour {token : Token} (h : token.leads = true ∨ token.goesOn = true)
    (hkeyword : token.isKeyword = false) : token.shape = .symbol := by
  cases token with
  | and | or | not => simp [Token.isKeyword] at hkeyword
  | int _ | float _ | bool _ | var _ | word _ =>
    rcases h with h | h <;> simp [Token.leads, Token.goesOn, Token.strength?] at h
  | _ => rfl

/-- Of the neighbours that the grammar allows a variable, only the keywords are words. -/
theorem Follows.setApart {first second : Lexeme} (h : Follows first second)
    (hapart : KeywordApart first second) : SetApart first second := by
  intro htouches
  obtain ⟨hfirst, hsecond⟩ := hapart htouches
  refine ⟨fun hvariable => ?_, fun hvariable => ?_⟩
  · obtain ⟨name, hname⟩ := exists_var hvariable
    rw [Follows, hname] at h
    rcases h with ⟨-, hgoesOn⟩ | ⟨hleads, -⟩
    · cases hgoesOn
    · exact shape_of_neighbour (.inl hleads) (hfirst hvariable)
  · obtain ⟨name, hname⟩ := exists_var hvariable
    rw [Follows, hname] at h
    rcases h with ⟨-, hgoesOn⟩ | ⟨hleads, -⟩
    · exact shape_of_neighbour (.inr hgoesOn) (hsecond hvariable)
    · cases hleads

/-- **A well-formed expression stays readable when literals take the places of its variables**, if
no keyword stands directly next to a variable. It can fail because a value is of the wrong kind for
its place, in its arithmetic, or because the sign of a value opens a level too many. -/
theorem fault_of_substitute {env : Environment} {kind : Kind} {t : Text} {ts : List Lexeme}
    {fault : Fault} (hformed : isWellFormed kind t = true) (htokens : tokenize t = .ok ts)
    (hfills : Fills env ts) (hapart : ts.IsChain KeywordApart)
    (hfault : evaluate (Template.substitute env t) kind = .error fault) :
    fault.code ≠ "EXPR_SYNTAX" ∧
      ((fault = .wrongKind kind ∧ ∃ tree, parse t = .ok tree ∧
          tree.conforms kind = true ∧ (tree.instantiate env).conforms kind = false) ∨
        fault.IsArithmetic ∨ fault = .tooDeep) := by
  obtain ⟨tree, hparse, hconforms⟩ := isWellFormed_iff.mp hformed
  obtain ⟨lexemes, rest, hlexemes, hderives, hfinish, hfollows⟩ := follows_of_parse hparse
  obtain rfl : lexemes = ts := Except.ok.inj (hlexemes.symm.trans htokens)
  have hsetApart : lexemes.IsChain SetApart := List.isChain_iff_getElem.mpr fun i hi =>
    (List.isChain_iff_getElem.mp hfollows i hi).setApart (List.isChain_iff_getElem.mp hapart i hi)
  obtain ⟨levels, filled, hread, hstands, -⟩ :=
    parse_substitute htokens hderives hfinish (by decide) hfills hsetApart
  -- the cause decides the code, and none of these is a fault of the syntax
  suffices hcause : (fault = .wrongKind kind ∧ ∃ tree, parse t = .ok tree ∧
      tree.conforms kind = true ∧ (tree.instantiate env).conforms kind = false) ∨
        fault.IsArithmetic ∨ fault = .tooDeep by
    refine ⟨?_, hcause⟩
    rcases hcause with ⟨rfl, -⟩ | (rfl | rfl) | rfl <;> simp [Fault.code]
  -- the tokens are read as the filled tree, unless that takes too many levels
  rcases fault_of_evaluate hfault with hdeep | ⟨read, hreads, hcause⟩
  · rw [hread] at hdeep
    exact .inr (.inr (guarded_ok_eq_error hdeep))
  · obtain rfl := guarded_ok_eq_ok (hread.symm.trans hreads)
    rcases hcause with ⟨hkind, rfl⟩ | ⟨hkind, heval⟩
    · rw [hstands.equivalent.conforms] at hkind
      exact .inl ⟨rfl, tree, hparse, hconforms, hkind⟩
    · exact .inr (.inl (isArithmetic_of_eval read kind fault hkind hstands.closed heval))

/-- A variable behind a keyword and a space, with a value that makes a divisor zero. -/
theorem fault_of_substitute_zeroDivisor :
    let env := (Environment.initial []).bind "$n$".toList (.number (.int (-1)))
    let guard := "not $n$/($n$+1)<1".toList
    ∃ ts, isWellFormed .boolean guard = true ∧ tokenize guard = .ok ts ∧ Fills env ts ∧
      ts.IsChain KeywordApart ∧ Template.substitute env guard = "not -1/(-1+1)<1".toList ∧
      evaluate (Template.substitute env guard) .boolean = .error .divisionByZero ∧
      Fault.divisionByZero.code ≠ "EXPR_SYNTAX" := by
  intro env guard
  have hformed : isWellFormed .boolean guard = true := by with_unfolding_all rfl
  have htokens : tokenize guard = .ok [⟨.not, "not".toList, 0⟩,
      ⟨.var "$n$".toList, "$n$".toList, 4⟩, ⟨.slash, ['/'], 7⟩, ⟨.openParen, ['('], 8⟩,
      ⟨.var "$n$".toList, "$n$".toList, 9⟩, ⟨.plus, ['+'], 12⟩, ⟨.int 1, ['1'], 13⟩,
      ⟨.closeParen, [')'], 14⟩, ⟨.less, ['<'], 15⟩, ⟨.int 1, ['1'], 16⟩, ⟨.finish, [], 17⟩] := by
    with_unfolding_all rfl
  have hfault : evaluate (Template.substitute env guard) .boolean = .error .divisionByZero := by
    with_unfolding_all rfl
  refine ⟨_, hformed, htokens, ?hfills, ?hapart, by with_unfolding_all rfl, hfault,
    (fault_of_substitute hformed htokens ?hfills ?hapart hfault).1⟩
  case hfills =>
    have hvalue : ∃ value, env.get? "$n$".toList = some value ∧ value.isLiteral = true :=
      ⟨.number (.int (-1)), rfl, rfl⟩
    simpa [Fills] using hvalue
  case hapart => decide +kernel

/-- The keyword and the value become one word, which is no expression. -/
theorem syntaxFault_of_keyword :
    let env := (Environment.initial []).bind "$flag$".toList (.bool true)
    let guard := "not$flag$".toList
    isWellFormed .boolean guard = true ∧
      tokenize guard = .ok [⟨.not, "not".toList, 0⟩, ⟨.var "$flag$".toList, "$flag$".toList, 3⟩,
        ⟨.finish, [], 9⟩] ∧
      env.get? "$flag$".toList = some (.bool true) ∧
      Template.substitute env guard = "nottrue".toList ∧
      evaluate (Template.substitute env guard) .boolean
        = .error (.nameNotAllowed "nottrue".toList 0) ∧
      (Fault.nameNotAllowed "nottrue".toList 0).code = "EXPR_SYNTAX" := by
  refine ⟨?_, ?_, rfl, ?_, ?_, rfl⟩ <;> with_unfolding_all rfl

end DialogueScript.Expr
