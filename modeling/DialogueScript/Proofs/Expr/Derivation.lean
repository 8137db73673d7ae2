import DialogueScript.Proofs.Expr.Reading

/-!
# What is read follows the grammar

The grammar as rules (`Derives`): how a part of an expression stands in front of the rest of the
tokens, with so many levels of nesting open around it. Whatever is read has a derivation
(`derives_of_readAt`), so a property of all that can be read is proved by induction on derivations,
one case for each rule, and no proof follows the functions that read again.

A chain is derived from the left, one operand more at a time, and each link of a sum or a product
opens one level for the operand behind it.
-/

namespace DialogueScript.Expr

/-- What a derivation is of. -/
inductive Part
  /-- A tree on a level of the grammar. -/
  | tree (level : Nat) (tree : Tree)
  /-- The front of a sum or a product, with the number of its links. -/
  | chain (chain : Chain) (links : Nat) (tree : Tree)
  /-- The front of a logical chain. -/
  | operands (op : BoolOp) (operands : List Tree)
  /-- The front of a chain of comparisons. -/
  | links (first : Tree) (links : List (CompareOp × Tree))

/-- The rules of the grammar: a part at a depth, the tokens that start with it, and those behind
it. -/
inductive Derives : Part → Nat → List Lexeme → List Lexeme → Prop
  | leaf {depth lexeme leaf rest} (hleaf : leaf? lexeme.token = some leaf) :
      Derives (.tree 8 leaf) depth (lexeme :: rest) rest
  | parens {depth opening closing tree ts rest} (hopening : opening.token = .openParen)
      (hclosing : closing.token = .closeParen) (hdepth : depth < maxNesting)
      (inner : Derives (.tree 0 tree) (depth + 1) ts (closing :: rest)) :
      Derives (.tree 8 tree) depth (opening :: ts) rest
  | looser {level depth tree ts rest} (tighter : Derives (.tree (level + 1) tree) depth ts rest) :
      Derives (.tree level tree) depth ts rest
  | power {depth lexeme base exponent ts middle rest} (htoken : lexeme.token = .starStar)
      (hdepth : depth < maxNesting) (left : Derives (.tree 8 base) depth ts (lexeme :: middle))
      (right : Derives (.tree 6 exponent) (depth + 1) middle rest) :
      Derives (.tree 7 (.binary .pow base exponent)) depth ts rest
  | sign {depth lexeme op operand ts rest} (hop : sign? lexeme.token = some op)
      (hdepth : depth < maxNesting) (behind : Derives (.tree 6 operand) (depth + 1) ts rest) :
      Derives (.tree 6 (.sign op operand)) depth (lexeme :: ts) rest
  | not {depth lexeme operand ts rest} (htoken : lexeme.token = .not)
      (hdepth : depth < maxNesting) (behind : Derives (.tree 2 operand) (depth + 1) ts rest) :
      Derives (.tree 2 (.not operand)) depth (lexeme :: ts) rest
  | chainFirst {chain depth first ts rest}
      (operand : Derives (.tree (chain.level + 1) first) depth ts rest) :
      Derives (.chain chain 0 first) depth ts rest
  | chainNext {chain links depth lexeme op left right ts middle rest}
      (hop : chain.op? lexeme.token = some op) (hdepth : depth + links < maxNesting)
      (front : Derives (.chain chain links left) depth ts (lexeme :: middle))
      (operand : Derives (.tree (chain.level + 1) right) (depth + links + 1) middle rest) :
      Derives (.chain chain (links + 1) (.binary op left right)) depth ts rest
  | chain {chain links depth tree ts rest} (whole : Derives (.chain chain links tree) depth ts rest) :
      Derives (.tree chain.level tree) depth ts rest
  | operandsFirst {op depth first ts rest}
      (operand : Derives (.tree (op.level + 1) first) depth ts rest) :
      Derives (.operands op [first]) depth ts rest
  | operandsNext {op depth lexeme operands next ts middle rest} (htoken : lexeme.token = op.token)
      (front : Derives (.operands op operands) depth ts (lexeme :: middle))
      (operand : Derives (.tree (op.level + 1) next) depth middle rest) :
      Derives (.operands op (operands ++ [next])) depth ts rest
  | logical {op depth first more ts rest}
      (whole : Derives (.operands op (first :: more)) depth ts rest) :
      Derives (.tree op.level (chain op first more)) depth ts rest
  | linksFirst {depth first ts rest} (operand : Derives (.tree 4 first) depth ts rest) :
      Derives (.links first []) depth ts rest
  | linksNext {depth lexeme op first links next ts middle rest}
      (hop : compareOp? lexeme.token = some op)
      (front : Derives (.links first links) depth ts (lexeme :: middle))
      (operand : Derives (.tree 4 next) depth middle rest) :
      Derives (.links first (links ++ [(op, next)])) depth ts rest
  | compare {depth first links ts rest} (whole : Derives (.links first links) depth ts rest) :
      Derives (.tree 3 (compareChain first links)) depth ts rest

/-! ## Each level has derivations -/

/-- Going a level down succeeds only below the cap. -/
theorem descend_eq_ok {depth deeper : Nat} (h : descend depth = .ok deeper) :
    depth < maxNesting ∧ deeper = depth + 1 := by
  unfold descend at h
  split at h
  next hdepth => exact ⟨hdepth, (Except.ok.inj h).symm⟩
  next => cases h

/-- What is read on a level has a derivation there. -/
def Derivable (level : Nat) (ts : List Lexeme) : Prop :=
  ∀ depth tree rest, readAt level depth ts = .ok (tree, rest) →
    Derives (.tree level tree) depth ts rest

/-- What is read from shorter lists of tokens has a derivation. -/
def DerivableBelow (size : Nat) : Prop :=
  ∀ ts : List Lexeme, ts.length < size → ∀ level ≤ 8, Derivable level ts

section Levels

variable {ts : List Lexeme}

/-- Atoms are derivable, because the tree in parentheses has fewer tokens left. -/
theorem derivable_atom (hbelow : DerivableBelow ts.length) : Derivable 8 ts := by
  intro depth tree rest h
  rw [readAt_atom] at h
  cases ts with
  | nil => cases h
  | cons lexeme tail =>
    dsimp only at h
    cases hleaf : leaf? lexeme.token with
    | some leaf =>
      rw [hleaf] at h
      obtain ⟨rfl, rfl⟩ := Prod.mk.inj (Except.ok.inj h)
      exact .leaf hleaf
    | none =>
      rw [hleaf] at h
      dsimp only at h
      split at h
      next hopen =>
        obtain ⟨deeper, hdeeper, h⟩ := bind_eq_ok h
        obtain ⟨hdepth, rfl⟩ := descend_eq_ok hdeeper
        obtain ⟨⟨inner, after⟩, hinner, h⟩ := bind_eq_ok h
        -- the tree in parentheses has fewer tokens left than the atom
        have hderives := hbelow tail (Nat.lt_succ_self _) 0 (by omega) _ inner after hinner
        cases after with
        | nil => cases h
        | cons closing more =>
          dsimp only at h
          split at h
          next hclosing =>
            obtain ⟨rfl, rfl⟩ := Prod.mk.inj (Except.ok.inj h)
            exact .parens hopen hclosing hdepth hderives
          next => cases h
      next => cases h

/-- Powers are derivable, because the exponent has fewer tokens left than its base. -/
theorem derivable_power (hbelow : DerivableBelow ts.length) (hatom : Derivable 8 ts) :
    Derivable 7 ts := by
  intro depth tree rest h
  rw [readAt_power] at h
  obtain ⟨⟨base, after⟩, hbase, h⟩ := bind_eq_ok h
  have hleft := hatom depth base after hbase
  have hlength := length_of_readAt hbase
  cases after with
  | nil =>
    obtain ⟨rfl, rfl⟩ := Prod.mk.inj (Except.ok.inj h)
    exact .looser hleft
  | cons lexeme tail =>
    dsimp only at h
    split at h
    next htoken =>
      obtain ⟨deeper, hdeeper, h⟩ := bind_eq_ok h
      obtain ⟨hdepth, rfl⟩ := descend_eq_ok hdeeper
      obtain ⟨⟨exponent, more⟩, hexponent, h⟩ := bind_eq_ok h
      obtain ⟨rfl, rfl⟩ := Prod.mk.inj (Except.ok.inj h)
      -- the exponent stands behind two tokens at least
      exact .power htoken hdepth hleft
        (hbelow tail (Nat.lt_of_succ_lt hlength) 6 (by omega) _ exponent more hexponent)
    next =>
      obtain ⟨rfl, rfl⟩ := Prod.mk.inj (Except.ok.inj h)
      exact .looser hleft

theorem derivable_sign (hbelow : DerivableBelow ts.length) (hpower : Derivable 7 ts) :
    Derivable 6 ts := by
  intro depth tree rest h
  rw [readAt_sign] at h
  cases ts with
  | nil => cases h
  | cons lexeme tail =>
    dsimp only at h
    cases hop : sign? lexeme.token with
    | none =>
      rw [hop] at h
      exact .looser (hpower depth tree rest h)
    | some op =>
      rw [hop] at h
      obtain ⟨deeper, hdeeper, h⟩ := bind_eq_ok h
      obtain ⟨hdepth, rfl⟩ := descend_eq_ok hdeeper
      obtain ⟨⟨operand, after⟩, hoperand, h⟩ := bind_eq_ok h
      obtain ⟨rfl, rfl⟩ := Prod.mk.inj (Except.ok.inj h)
      exact .sign hop hdepth
        (hbelow tail (Nat.lt_succ_self _) 6 (by omega) _ operand after hoperand)

theorem derivable_not (hbelow : DerivableBelow ts.length) (hcompare : Derivable 3 ts) :
    Derivable 2 ts := by
  intro depth tree rest h
  rw [readAt_not] at h
  cases ts with
  | nil => cases h
  | cons lexeme tail =>
    dsimp only at h
    split at h
    next htoken =>
      obtain ⟨deeper, hdeeper, h⟩ := bind_eq_ok h
      obtain ⟨hdepth, rfl⟩ := descend_eq_ok hdeeper
      obtain ⟨⟨operand, after⟩, hoperand, h⟩ := bind_eq_ok h
      obtain ⟨rfl, rfl⟩ := Prod.mk.inj (Except.ok.inj h)
      exact .not htoken hdepth
        (hbelow tail (Nat.lt_succ_self _) 2 (by omega) _ operand after hoperand)
    next => exact .looser (hcompare depth tree rest h)

/-! ### Chains -/

/-- The rest of a sum or a product goes on with the derivation of its front. -/
theorem derives_readRest {size depth : Nat} (hbelow : DerivableBelow size) {chain : Chain}
    {links : Nat} {left tree : Tree} {middle rest : List Lexeme} (hsize : middle.length ≤ size)
    (hfront : Derives (.chain chain links left) depth ts middle)
    (h : readRest chain (depth + links) left middle = .ok (tree, rest)) :
    ∃ more, Derives (.chain chain more tree) depth ts rest := by
  rw [readRest_eq] at h
  cases middle with
  | nil =>
    obtain ⟨rfl, rfl⟩ := Prod.mk.inj (Except.ok.inj h)
    exact ⟨links, hfront⟩
  | cons lexeme tail =>
    dsimp only at h
    cases hop : chain.op? lexeme.token with
    | none =>
      rw [hop] at h
      obtain ⟨rfl, rfl⟩ := Prod.mk.inj (Except.ok.inj h)
      exact ⟨links, hfront⟩
    | some op =>
      rw [hop] at h
      obtain ⟨deeper, hdeeper, h⟩ := bind_eq_ok h
      obtain ⟨hdepth, rfl⟩ := descend_eq_ok hdeeper
      obtain ⟨⟨right, after⟩, hright, h⟩ := bind_eq_ok h
      have hlength := length_of_readAt hright
      rw [List.length_cons] at hsize
      -- the operand has fewer tokens left, and so has what comes behind it
      have hoperand := hbelow tail hsize (chain.level + 1) (by cases chain <;> decide) _ right after
        hright
      exact derives_readRest hbelow (by omega) (.chainNext hop hdepth hfront hoperand) h
termination_by middle.length
decreasing_by
  simp_all only [List.length_cons]
  omega

/-- Chains are derivable from their operands. -/
theorem derivable_chain (hbelow : DerivableBelow ts.length) {chain : Chain}
    (hoperand : Derivable (chain.level + 1) ts) : Derivable chain.level ts := by
  intro depth tree rest h
  rw [readAt_chain] at h
  obtain ⟨⟨first, middle⟩, hfirst, h⟩ := bind_eq_ok h
  have hlength := length_of_readAt hfirst
  obtain ⟨links, hderives⟩ := derives_readRest hbelow (Nat.le_of_lt hlength)
    (.chainFirst (hoperand depth first middle hfirst)) h
  exact .chain hderives

/-- Further links go on with the derivation of a chain of comparisons. -/
theorem derives_readLinks {size depth : Nat} (hbelow : DerivableBelow size) {first : Tree}
    {links more : List (CompareOp × Tree)} {middle rest : List Lexeme}
    (hsize : middle.length ≤ size) (hfront : Derives (.links first links) depth ts middle)
    (h : reading (readLinks depth middle) = .ok (more, rest)) :
    Derives (.links first (links ++ more)) depth ts rest := by
  rw [reading_readLinks] at h
  cases middle with
  | nil =>
    obtain ⟨rfl, rfl⟩ := Prod.mk.inj (Except.ok.inj h)
    rwa [List.append_nil]
  | cons lexeme tail =>
    dsimp only at h
    cases hop : compareOp? lexeme.token with
    | none =>
      rw [hop] at h
      obtain ⟨rfl, rfl⟩ := Prod.mk.inj (Except.ok.inj h)
      rwa [List.append_nil]
    | some op =>
      rw [hop] at h
      obtain ⟨⟨next, after⟩, hnext, h⟩ := bind_eq_ok h
      obtain ⟨⟨others, last⟩, hothers, h⟩ := bind_eq_ok h
      obtain ⟨rfl, rfl⟩ := Prod.mk.inj (Except.ok.inj h)
      have hlength := length_of_readAt hnext
      rw [List.length_cons] at hsize
      -- the operand has fewer tokens left, and so has what comes behind it
      have hoperand := hbelow tail hsize 4 (by omega) depth next after hnext
      rw [List.append_cons]
      exact derives_readLinks hbelow (by omega) (.linksNext hop hfront hoperand) hothers
termination_by middle.length
decreasing_by
  simp_all only [List.length_cons]
  omega

/-- Comparisons are derivable from sums. -/
theorem derivable_compare (hbelow : DerivableBelow ts.length) (hsum : Derivable 4 ts) :
    Derivable 3 ts := by
  intro depth tree rest h
  rw [readAt_compare] at h
  obtain ⟨⟨first, middle⟩, hfirst, h⟩ := bind_eq_ok h
  obtain ⟨⟨links, after⟩, hlinks, h⟩ := bind_eq_ok h
  obtain ⟨rfl, rfl⟩ := Prod.mk.inj (Except.ok.inj h)
  have hlength := length_of_readAt hfirst
  exact .compare (derives_readLinks hbelow (Nat.le_of_lt hlength)
    (.linksFirst (hsum depth first middle hfirst)) hlinks)

/-- Further operands go on with the derivation of a logical chain. -/
theorem derives_readOperands {size depth : Nat} (hbelow : DerivableBelow size) {op : BoolOp}
    {operands more : List Tree} {middle rest : List Lexeme} (hsize : middle.length ≤ size)
    (hfront : Derives (.operands op operands) depth ts middle)
    (h : readOperands op depth middle = .ok (more, rest)) :
    Derives (.operands op (operands ++ more)) depth ts rest := by
  rw [readOperands_eq] at h
  cases middle with
  | nil =>
    obtain ⟨rfl, rfl⟩ := Prod.mk.inj (Except.ok.inj h)
    rwa [List.append_nil]
  | cons lexeme tail =>
    dsimp only at h
    split at h
    next htoken =>
      obtain ⟨⟨next, after⟩, hnext, h⟩ := bind_eq_ok h
      obtain ⟨⟨others, last⟩, hothers, h⟩ := bind_eq_ok h
      obtain ⟨rfl, rfl⟩ := Prod.mk.inj (Except.ok.inj h)
      have hlength := length_of_readAt hnext
      rw [List.length_cons] at hsize
      -- the operand has fewer tokens left, and so has what comes behind it
      have hoperand := hbelow tail hsize (op.level + 1) (by cases op <;> decide) depth next after
        hnext
      rw [List.append_cons]
      exact derives_readOperands hbelow (by omega) (.operandsNext htoken hfront hoperand) hothers
    next =>
      obtain ⟨rfl, rfl⟩ := Prod.mk.inj (Except.ok.inj h)
      rwa [List.append_nil]
termination_by middle.length
decreasing_by
  simp_all only [List.length_cons]
  omega

/-- Logical chains are derivable from their operands. -/
theorem derivable_logical (hbelow : DerivableBelow ts.length) {op : BoolOp}
    (hoperand : Derivable (op.level + 1) ts) : Derivable op.level ts := by
  intro depth tree rest h
  rw [readAt_logical] at h
  obtain ⟨⟨first, middle⟩, hfirst, h⟩ := bind_eq_ok h
  obtain ⟨⟨more, after⟩, hmore, h⟩ := bind_eq_ok h
  obtain ⟨rfl, rfl⟩ := Prod.mk.inj (Except.ok.inj h)
  have hlength := length_of_readAt hfirst
  exact .logical (derives_readOperands hbelow (Nat.le_of_lt hlength)
    (.operandsFirst (hoperand depth first middle hfirst)) hmore)

end Levels

/-- Whatever is read has a derivation. -/
theorem derives_of_readAt (ts : List Lexeme) : ∀ level ≤ 8, Derivable level ts := by
  -- shorter lists first, then the levels from the tightest to the loosest
  have hbelow : DerivableBelow ts.length := fun shorter _ => derives_of_readAt shorter
  have hatom := derivable_atom hbelow
  have hpower := derivable_power hbelow hatom
  have hsigned := derivable_sign hbelow hpower
  have hproduct : Derivable 5 ts := @derivable_chain ts hbelow .product hsigned
  have hsum : Derivable 4 ts := @derivable_chain ts hbelow .sum hproduct
  have hcompare := derivable_compare hbelow hsum
  have hnot := derivable_not hbelow hcompare
  have hand : Derivable 1 ts := @derivable_logical ts hbelow .and hnot
  have hor : Derivable 0 ts := @derivable_logical ts hbelow .or hand
  intro level hlevel
  match level, hlevel with
  | 0, _ => exact hor
  | 1, _ => exact hand
  | 2, _ => exact hnot
  | 3, _ => exact hcompare
  | 4, _ => exact hsum
  | 5, _ => exact hproduct
  | 6, _ => exact hsigned
  | 7, _ => exact hpower
  | 8, _ => exact hatom
termination_by ts.length

/-- A tree that is read from all tokens has a derivation in front of the end. -/
theorem derives_of_treeOfTokens {ts : List Lexeme} {tree : Tree} (h : treeOfTokens ts = .ok tree) :
    ∃ rest, Derives (.tree 0 tree) 0 ts rest ∧ ∀ lexeme ∈ rest.head?, lexeme.token = .finish := by
  rw [treeOfTokens_eq] at h
  obtain ⟨⟨value, rest⟩, hread, h⟩ := bind_eq_ok h
  have hderives := derives_of_readAt ts 0 (Nat.zero_le _) 0 value rest hread
  refine ⟨rest, ?_⟩
  cases rest with
  | nil =>
    obtain rfl := Except.ok.inj h
    exact ⟨hderives, by simp⟩
  | cons lexeme more =>
    dsimp only at h
    split at h
    next hfinish =>
      obtain rfl := Except.ok.inj h
      exact ⟨hderives, by simpa using hfinish⟩
    next => cases h

end DialogueScript.Expr
