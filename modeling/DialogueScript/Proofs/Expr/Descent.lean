import DialogueScript.Proofs.Expr.Climbing

/-!
# Every tree is read back from its tokens

The rules by which tokens are read as a node: what tokens are read as (`ReadsAs`) follows from what
the operands' tokens are read as, whether or not they are printed from trees. Chains are read one
operand at a time, and go on behind it (`ContinuesAs`, `OperandsAs`, `LinksAs`).

By these rules and by induction on the tree, the tokens that a tree is printed with are read as the
tree (`everywhere_of_isGrammatical`).
-/

namespace DialogueScript.Expr

/-! ## Rules for single nodes -/

section Nodes

variable {levels more : Nat} {tokens back : List Token} {tree left right operand : Tree}

/-- An operand of one token is read as an atom. -/
theorem ReadsAs.leaf {token : Token} (hleaf : leaf? token = some tree) :
    ReadsAs 8 [token] 0 tree := by
  intro depth front rest hdepth hfront _
  obtain ⟨lexeme, rfl, hlexeme⟩ := List.map_eq_singleton_iff.mp hfront
  rw [List.singleton_append, readAt_atom]
  dsimp only
  rw [hlexeme, hleaf, Nat.add_zero, guarded_of_le hdepth]
  rfl

theorem token_sign? (op : Sign) : sign? op.token = some op := by
  cases op <;> rfl

/-- A sign goes in front of an operand with signs, one level further out. -/
theorem ReadsAs.sign (h : ReadsAs 6 tokens levels operand) (op : Sign) :
    ReadsAs 6 (op.token :: tokens) (levels + 1) (.sign op operand) := by
  intro depth front rest hdepth hfront hstops
  obtain ⟨lexeme, back, rfl, hlexeme, hback⟩ := List.map_eq_cons_iff.mp hfront
  have hread := fun hdeeper => h (depth + 1) back rest hdeeper hback hstops
  rw [List.cons_append, readAt_sign]
  dsimp only
  rw [hlexeme, token_sign?]
  dsimp only
  rw [descend_bind, guarded_read hread]
  rw [Nat.max_eq_right (by omega), Nat.add_right_comm, Nat.add_assoc]
  rfl

theorem ReadsAs.not (h : ReadsAs 2 tokens levels operand) :
    ReadsAs 2 (.not :: tokens) (levels + 1) (.not operand) := by
  intro depth front rest hdepth hfront hstops
  obtain ⟨lexeme, back, rfl, hlexeme, hback⟩ := List.map_eq_cons_iff.mp hfront
  have hread := fun hdeeper => h (depth + 1) back rest hdeeper hback hstops
  rw [List.cons_append, readAt_not]
  dsimp only
  rw [if_pos hlexeme, descend_bind, guarded_read hread]
  rw [Nat.max_eq_right (by omega), Nat.add_right_comm, Nat.add_assoc]
  rfl

/-- No token goes on with a signed operand but not with a power. -/
theorem Stops.six {rest : List Lexeme} (h : Stops 7 rest) : Stops 6 rest := by
  intro lexeme hhead strength hstrength
  have hlt := h lexeme hhead strength hstrength
  cases htoken : lexeme.token <;> simp_all [Token.strength?] <;> omega

/-- A power is an atom with an exponent one level further in. -/
theorem ReadsAs.power (hleft : ReadsAs 8 tokens levels left) (hright : ReadsAs 6 back more right) :
    ReadsAs 7 (tokens ++ .starStar :: back) (max levels (more + 1)) (.binary .pow left right) := by
  intro depth front rest hdepth hfront hstops
  obtain ⟨base, behind, rfl, hbase, hbehind⟩ := List.map_eq_append_iff.mp hfront
  obtain ⟨lexeme, exponent, rfl, hlexeme, hexponent⟩ := List.map_eq_cons_iff.mp hbehind
  have hread := fun hdeeper => hright (depth + 1) exponent rest hdeeper hexponent hstops.six
  have hstar : Stops 8 (lexeme :: exponent ++ rest) := by
    simp [stops_cons, hlexeme, Token.strength?]
  rw [List.append_assoc, readAt_power, hleft depth base _ hdepth hbase hstar, guarded_ok_bind]
  dsimp only [List.cons_append]
  rw [if_pos hlexeme, descend_bind, guarded_read hread]
  refine (guarded_guarded _ _ _).trans ?_
  congr 1
  omega

end Nodes

/-! ## Rules for chains

Each chain has a rule for its first operand, one for the next operand, and one that ends it. -/

section Chains

variable {levels more : Nat} {tokens back : List Token}

/-! ### Sums and products -/

/-- The tokens are read as the first operands of a chain, which goes on behind them with so many
levels open as it has links. -/
def ContinuesAs (chain : Chain) (tokens : List Token) (levels links : Nat) (tree : Tree) : Prop :=
  ∀ (depth : Nat) (front rest : List Lexeme), depth ≤ maxNesting →
    front.map (·.token) = tokens → Stops (chain.level + 1) rest →
    readAt chain.level depth (front ++ rest)
      = guarded (depth + levels) (readRest chain (depth + links) tree rest)

/-- The operator belongs to a chain that groups to the left. -/
structure BinaryOp.Links (chain : Chain) (op : BinaryOp) : Prop where
  level : op.level = chain.level
  leftLevel : op.leftLevel = chain.level
  rightLevel : op.rightLevel = chain.level + 1
  token : chain.op? op.token = some op
  strength : op.token.strength? = some chain.level

section Left

variable {links : Nat} {chain : Chain} {left right tree : Tree}

/-- A chain begins with an operand, and no link is open yet. -/
theorem ReadsAs.continues (h : ReadsAs (chain.level + 1) tokens levels tree) :
    ContinuesAs chain tokens levels 0 tree := by
  intro depth front rest hdepth hfront hstops
  rw [readAt_chain, h depth front rest hdepth hfront hstops, guarded_ok_bind]
  rfl

/-- A chain goes on with one operand more, which is read with one more link open. -/
theorem ContinuesAs.link {op : BinaryOp} (hop : op.Links chain)
    (hleft : ContinuesAs chain tokens levels links left)
    (hright : ReadsAs (chain.level + 1) back more right) :
    ContinuesAs chain (tokens ++ op.token :: back) (max levels (links + 1 + more)) (links + 1)
      (.binary op left right) := by
  intro depth front rest hdepth hfront hstops
  obtain ⟨head, behind, rfl, hhead, hbehind⟩ := List.map_eq_append_iff.mp hfront
  obtain ⟨lexeme, last, rfl, hlexeme, hlast⟩ := List.map_eq_cons_iff.mp hbehind
  have hlink : Stops (chain.level + 1) (lexeme :: last ++ rest) := by
    simp [stops_cons, hlexeme, hop.strength]
  have hread := fun hdeeper => hright (depth + links + 1) last rest hdeeper hlast hstops
  -- the chain in front is read first and leaves as many levels open as it has links
  rw [List.append_assoc, hleft depth head _ hdepth hhead hlink, List.cons_append, readRest_eq]
  dsimp only
  rw [hlexeme, hop.token]
  dsimp only
  rw [descend_bind, guarded_read hread]
  refine (guarded_guarded _ _ _).trans ?_
  rw [← Nat.add_assoc]
  congr 1
  omega

/-- What has gone on so far is a chain, if no link comes behind it. -/
theorem ContinuesAs.reads (h : ContinuesAs chain tokens levels links tree) :
    ReadsAs chain.level tokens levels tree := by
  intro depth front rest hdepth hfront hstops
  rw [h depth front rest hdepth hfront (hstops.mono (Nat.le_succ _)), readRest_of_stops hstops]

end Left

/-! ### Logical chains -/

/-- The tokens are read as the first operands of a logical chain, which goes on behind them. -/
def OperandsAs (op : BoolOp) (tokens : List Token) (levels : Nat) (first : Tree)
    (operands : List Tree) : Prop :=
  ∀ (depth : Nat) (front rest : List Lexeme), depth ≤ maxNesting →
    front.map (·.token) = tokens → Stops (op.level + 1) rest →
    readAt op.level depth (front ++ rest)
      = guarded (depth + levels) (do
          let (others, ts) ← readOperands op depth rest
          return (chain op first (operands ++ others), ts))

section Logical

variable {op : BoolOp} {first other : Tree} {done : List Tree}

/-- The token of a logical operator goes on with chains of its own level. -/
theorem strength_boolOp (op : BoolOp) : op.token.strength? = some op.level := by
  cases op <;> rfl

/-- A logical chain begins with one operand. -/
theorem ReadsAs.operands (h : ReadsAs (op.level + 1) tokens levels first) :
    OperandsAs op tokens levels first [] := by
  intro depth front rest hdepth hfront hstops
  rw [readAt_logical, h depth front rest hdepth hfront hstops, guarded_ok_bind]
  rfl

/-- A logical chain goes on with one operand more, at the same depth. -/
theorem OperandsAs.next (h : OperandsAs op tokens levels first done)
    (hother : ReadsAs (op.level + 1) back more other) :
    OperandsAs op (tokens ++ op.token :: back) (max levels more) first (done ++ [other]) := by
  intro depth front rest hdepth hfront hstops
  obtain ⟨head, behind, rfl, hhead, hbehind⟩ := List.map_eq_append_iff.mp hfront
  obtain ⟨lexeme, last, rfl, hlexeme, hlast⟩ := List.map_eq_cons_iff.mp hbehind
  have hlink : Stops (op.level + 1) (lexeme :: last ++ rest) := by
    simp [stops_cons, hlexeme, strength_boolOp]
  rw [List.append_assoc, h depth head _ hdepth hhead hlink, List.cons_append, readOperands_eq]
  dsimp only
  rw [if_pos hlexeme, hother depth last rest hdepth hlast hstops, guarded_ok_bind, guarded_bind,
    guarded_guarded, Nat.add_max_add_left]
  dsimp only
  simp only [bind_assoc, pure_bind, List.append_assoc, List.singleton_append]

/-- The operands so far are a chain, if none comes behind them. -/
theorem OperandsAs.reads (h : OperandsAs op tokens levels first done) :
    ReadsAs op.level tokens levels (chain op first done) := by
  intro depth front rest hdepth hfront hstops
  rw [h depth front rest hdepth hfront (hstops.mono (Nat.le_succ _)), readOperands_of_stops hstops]
  simp only [bind, Except.bind, pure, Except.pure, List.append_nil]

end Logical

/-! ### Comparisons -/

/-- The tokens are read as the first operands of a chain of comparisons, which goes on behind
them. -/
def LinksAs (tokens : List Token) (levels : Nat) (first : Tree)
    (links : List (CompareOp × Tree)) : Prop :=
  ∀ (depth : Nat) (front rest : List Lexeme), depth ≤ maxNesting →
    front.map (·.token) = tokens → Stops 4 rest →
    readAt 3 depth (front ++ rest)
      = guarded (depth + levels) (do
          let (others, ts) ← reading (readLinks depth rest)
          return (compareChain first (links ++ others), ts))

section Compare

variable {first other : Tree} {done : List (CompareOp × Tree)}

theorem token_compareOp? (op : CompareOp) : compareOp? op.token = some op := by
  cases op <;> rfl

/-- The token of a comparison goes on with chains of comparisons. -/
theorem strength_compareOp (op : CompareOp) : op.token.strength? = some 3 := by
  cases op <;> rfl

/-- A chain of comparisons begins with one operand. -/
theorem ReadsAs.links (h : ReadsAs 4 tokens levels first) : LinksAs tokens levels first [] := by
  intro depth front rest hdepth hfront hstops
  rw [readAt_compare, h depth front rest hdepth hfront hstops, guarded_ok_bind]
  rfl

/-- A chain of comparisons goes on with one link more, at the same depth. -/
theorem LinksAs.next (h : LinksAs tokens levels first done) (op : CompareOp)
    (hother : ReadsAs 4 back more other) :
    LinksAs (tokens ++ op.token :: back) (max levels more) first (done ++ [(op, other)]) := by
  intro depth front rest hdepth hfront hstops
  obtain ⟨head, behind, rfl, hhead, hbehind⟩ := List.map_eq_append_iff.mp hfront
  obtain ⟨lexeme, last, rfl, hlexeme, hlast⟩ := List.map_eq_cons_iff.mp hbehind
  have hlink : Stops 4 (lexeme :: last ++ rest) := by
    simp [stops_cons, hlexeme, strength_compareOp]
  rw [List.append_assoc, h depth head _ hdepth hhead hlink, List.cons_append, reading_readLinks]
  dsimp only
  rw [hlexeme, token_compareOp?]
  dsimp only
  rw [hother depth last rest hdepth hlast hstops, guarded_ok_bind, guarded_bind, guarded_guarded,
    Nat.add_max_add_left]
  dsimp only
  simp only [bind_assoc, pure_bind, List.append_assoc, List.singleton_append]

/-- The links so far are a chain, if none comes behind them. -/
theorem LinksAs.reads (h : LinksAs tokens levels first done) :
    ReadsAs 3 tokens levels (compareChain first done) := by
  intro depth front rest hdepth hfront hstops
  rw [h depth front rest hdepth hfront (hstops.mono (Nat.le_succ _)), readLinks_of_stops hstops]
  simp only [bind, Except.bind, pure, Except.pure, List.append_nil]

end Compare

end Chains

/-! ## The tokens of trees -/

section Trees

variable {tree left right first : Tree}

/-- A tree has links on its own level only. -/
theorem links_of_ne {level : Nat} (h : tree.level ≠ level) : tree.links level = 0 := by
  cases tree with
  | binary op left right => exact if_neg h
  | _ => rfl

theorem links_eight : tree.links 8 = 0 := by
  cases tree with
  | binary op left right => cases op <;> rfl
  | _ => rfl

/-- The tokens of a tree are read as the first operands of a chain, which goes on behind them with
so many levels open as the tree has links. -/
def Continues (chain : Chain) (tree : Tree) : Prop :=
  ContinuesAs chain (tree.tokensAt chain.level) (tree.nestingAt chain.level)
    (tree.links chain.level) tree

/-- A tree that is no link itself begins a chain. -/
theorem continues_of_reads {chain : Chain} (h : Reads (chain.level + 1) tree)
    (hlevel : tree.level ≠ chain.level) : Continues chain tree := by
  unfold Reads at h
  rw [tokensAt_succ hlevel, nestingAt_succ hlevel] at h
  unfold Continues
  rw [links_of_ne hlevel]
  exact h.continues

/-- All binary operators but the power make links. -/
theorem BinaryOp.links_or_pow (op : BinaryOp) : op = .pow ∨ ∃ chain, op.Links chain := by
  cases op with
  | add | sub => exact .inr ⟨.sum, rfl, rfl, rfl, rfl, rfl⟩
  | mul | div | mod => exact .inr ⟨.product, rfl, rfl, rfl, rfl, rfl⟩
  | pow => exact .inl rfl

/-- A link has its left side on the level of the chain and its right side one level tighter. -/
theorem tokensAt_binary {chain : Chain} {op : BinaryOp} (hop : op.Links chain) :
    (Tree.binary op left right).tokensAt chain.level
      = left.tokensAt chain.level ++ op.token :: right.tokensAt (chain.level + 1) := by
  rw [tokensAt_of_le (Nat.le_of_eq hop.level.symm), Tree.tokens, hop.leftLevel, hop.rightLevel]
  rfl

/-- The right side of a link stands inside all links up to it. -/
theorem nestingAt_binary {chain : Chain} {op : BinaryOp} (hop : op.Links chain) :
    (Tree.binary op left right).nestingAt chain.level
      = max (left.nestingAt chain.level)
          (left.links chain.level + 1 + right.nestingAt (chain.level + 1)) := by
  rw [nestingAt_of_le (Nat.le_of_eq hop.level.symm), Tree.nesting, hop.leftLevel, hop.rightLevel]
  rfl

/-- A link goes on with the chain on its left. -/
theorem continues_binary {chain : Chain} {op : BinaryOp} (hop : op.Links chain)
    (hleft : Continues chain left) (hright : Reads (chain.level + 1) right) :
    Continues chain (.binary op left right) := by
  have hlinks : (Tree.binary op left right).links chain.level = left.links chain.level + 1 :=
    if_pos hop.level
  unfold Continues
  rw [tokensAt_binary hop, nestingAt_binary hop, hlinks]
  exact hleft.link hop hright

/-- The tokens of a power are read as that power. -/
theorem reads_pow (hleft : Reads 8 left) (hright : Reads 6 right) :
    ReadsAs 7 (Tree.binary .pow left right).tokens (Tree.binary .pow left right).nesting
      (.binary .pow left right) := by
  have hnesting : (Tree.binary .pow left right).nesting
      = max (left.nestingAt 8) (right.nestingAt 6 + 1) := by
    -- no tree is a chain of the level of atoms, so the base leaves no level open
    rw [Tree.nesting, show left.links BinaryOp.pow.leftLevel = 0 from links_eight, Nat.zero_add,
      Nat.add_comm]
    rfl
  rw [hnesting]
  exact ReadsAs.power hleft hright

/-- Further operands are read as they are printed. -/
theorem OperandsAs.tokens {op : BoolOp} {tokens : List Token} {levels : Nat} {done more : List Tree}
    (h : OperandsAs op tokens levels first done)
    (hmore : ∀ operand ∈ more, Reads (op.level + 1) operand) :
    OperandsAs op (tokens ++ operandTokens op more) (max levels (operandNesting op more)) first
      (done ++ more) := by
  induction more generalizing tokens levels done with
  | nil => simpa [operandTokens, operandNesting] using h
  | cons operand more ih =>
    obtain ⟨hoperand, hrest⟩ := List.forall_mem_cons.mp hmore
    have hlonger := ih (h.next hoperand) hrest
    rw [operandTokens, operandNesting]
    simpa [List.append_assoc, Nat.max_assoc, Tree.tokensAt, Tree.nestingAt] using hlonger

/-- The tokens of a logical chain are read as that chain. -/
theorem reads_logical {op : BoolOp} {second : Tree} {more : List Tree}
    (hfirst : Reads (op.level + 1) first)
    (hmore : ∀ operand ∈ second :: more, Reads (op.level + 1) operand) :
    ReadsAs op.level (Tree.logical op (first :: second :: more)).tokens
      (Tree.logical op (first :: second :: more)).nesting
      (.logical op (first :: second :: more)) :=
  (OperandsAs.tokens (ReadsAs.operands hfirst) hmore).reads

/-- Further links are read as they are printed. -/
theorem LinksAs.tokens {tokens : List Token} {levels : Nat} {done more : List (CompareOp × Tree)}
    (h : LinksAs tokens levels first done) (hmore : ∀ link ∈ more, Reads 4 link.2) :
    LinksAs (tokens ++ linkTokens more) (max levels (linkNesting more)) first (done ++ more) := by
  induction more generalizing tokens levels done with
  | nil => simpa [linkTokens, linkNesting] using h
  | cons link more ih =>
    obtain ⟨hlink, hrest⟩ := List.forall_mem_cons.mp hmore
    have hlonger := ih (h.next link.1 hlink) hrest
    rw [linkTokens, linkNesting]
    simpa [List.append_assoc, Nat.max_assoc, Tree.tokensAt, Tree.nestingAt] using hlonger

/-- The tokens of a chain of comparisons are read as that chain. -/
theorem reads_compare {link : CompareOp × Tree} {more : List (CompareOp × Tree)}
    (hfirst : Reads 4 first) (hmore : ∀ other ∈ link :: more, Reads 4 other.2) :
    ReadsAs 3 (Tree.compare first (link :: more)).tokens
      (Tree.compare first (link :: more)).nesting (.compare first (link :: more)) :=
  (LinksAs.tokens (ReadsAs.links hfirst) hmore).reads

/-! ## All trees -/

/-- The tree is read at every place, and as the first operands of every chain. -/
structure Everywhere (tree : Tree) : Prop where
  reads : ∀ place ≤ 8, Reads place tree
  continues : ∀ chain, Continues chain tree

theorem Chain.level_lt (chain : Chain) : chain.level < 8 := by
  cases chain <;> decide

theorem everywhere_of_own {level : Nat} (h : ReadsAs level tree.tokens tree.nesting tree)
    (hlevel : tree.level = level) (hother : level ≠ 4 ∧ level ≠ 5) : Everywhere tree := by
  subst hlevel
  have hreads := reads_of_own h
  refine ⟨hreads, fun chain => continues_of_reads (hreads _ chain.level_lt) ?_⟩
  cases chain with
  | sum => exact hother.1
  | product => exact hother.2

theorem everywhere_of_continues {chain : Chain} (h : Continues chain tree)
    (hlevel : tree.level = chain.level) : Everywhere tree := by
  have hown : ReadsAs chain.level tree.tokens tree.nesting tree := by
    have hread := h.reads
    rwa [tokensAt_of_le (Nat.le_of_eq hlevel.symm), nestingAt_of_le (Nat.le_of_eq hlevel.symm)]
      at hread
  have hreads := reads_of_own (hlevel ▸ hown)
  refine ⟨hreads, fun other => ?_⟩
  by_cases hother : other = chain
  · exact hother ▸ h
  · refine continues_of_reads (hreads _ other.level_lt) fun heq => hother ?_
    cases other <;> cases chain <;> simp_all [Chain.level]

end Trees

/-- The tokens of a tree are read as that tree, at every place. -/
theorem everywhere_of_isGrammatical {doubles : Bool} {tree : Tree}
    (h : tree.isGrammatical doubles = true) : Everywhere tree := by
  induction tree using Tree.induction with
  | int _ | float _ | bool _ | var _ => exact everywhere_of_own (ReadsAs.leaf rfl) rfl (by decide)
  | sign op operand ih =>
    exact everywhere_of_own (ReadsAs.sign ((ih h).reads 6 (by omega)) op) rfl (by decide)
  | not operand ih =>
    exact everywhere_of_own (ReadsAs.not ((ih h).reads 2 (by omega))) rfl (by decide)
  | binary op left right ihleft ihright =>
    obtain ⟨hleft, hright⟩ := Bool.and_eq_true_iff.mp h
    -- powers are read from the right and all other operators from the left
    rcases op.links_or_pow with rfl | ⟨chain, hop⟩
    · exact everywhere_of_own (reads_pow ((ihleft hleft).reads 8 (by omega))
        ((ihright hright).reads 6 (by omega))) rfl (by decide)
    · have hbinary := continues_binary hop ((ihleft hleft).continues chain)
        ((ihright hright).reads _ chain.level_lt)
      exact everywhere_of_continues hbinary hop.level
  | logical op operands ih =>
    obtain ⟨hlength, hall⟩ := Bool.and_eq_true_iff.mp h
    have hreads : ∀ operand ∈ operands, Reads (op.level + 1) operand := fun operand hmem =>
      (ih operand hmem (isGrammatical_of_mem hall operand hmem)).reads _ (by cases op <;> decide)
    -- a chain has two operands at least
    match operands, hlength, hreads with
    | first :: second :: more, _, hreads =>
      obtain ⟨hfirst, hmore⟩ := List.forall_mem_cons.mp hreads
      exact everywhere_of_own (reads_logical hfirst hmore) rfl (by cases op <;> decide)
  | compare first links ihfirst ihlinks =>
    obtain ⟨hlinks, hall⟩ := Bool.and_eq_true_iff.mp h
    obtain ⟨hnonempty, hfirst⟩ := Bool.and_eq_true_iff.mp hlinks
    have hhead := (ihfirst hfirst).reads 4 (by omega)
    have hreads : ∀ link ∈ links, Reads 4 link.2 := fun link hmem =>
      (ihlinks link hmem (isGrammatical_of_mem_links hall link hmem)).reads 4 (by omega)
    -- a comparison has one link at least
    match links, hnonempty, hreads with
    | link :: more, _, hreads =>
      exact everywhere_of_own (reads_compare hhead hreads) rfl (by decide)

end DialogueScript.Expr
