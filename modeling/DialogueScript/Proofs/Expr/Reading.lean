import DialogueScript.Expr.Parser
import DialogueScript.Proofs.Except

/-!
# What the functions of the grammar read

The functions that read expressions give back fewer tokens than they got, and carry the proof of it
along; a `reading` is what they read without that proof. The levels of the grammar are numbered,
loosest first (`readAt`). For each function there is one equation that says what it reads in terms
of the readings of the others, so that no other proof opens them. The chains of `or` and of `and`
share theirs, and so do sums and products.
-/

namespace DialogueScript.Expr

/-- What was read and the tokens behind it, without the proof that they are fewer. -/
def reading {α : Type} {size : Nat} (result : Except Fault (Parsed α size)) :
    Except Fault (α × List Lexeme) :=
  result.map fun parsed => (parsed.value, parsed.rest)

section Basic

variable {α β : Type} {size bound : Nat}

@[simp] theorem reading_ok (parsed : Parsed α size) :
    reading (.ok parsed) = .ok (parsed.value, parsed.rest) := rfl

@[simp] theorem reading_error (fault : Fault) :
    reading (.error fault : Except Fault (Parsed α size)) = .error fault := rfl

/-- A reading goes on with what was read. -/
theorem reading_bind {first : Except Fault (Parsed α size)}
    {next : Parsed α size → Except Fault (Parsed β bound)}
    {after : α × List Lexeme → Except Fault (β × List Lexeme)}
    (h : ∀ parsed, reading (next parsed) = after (parsed.value, parsed.rest)) :
    reading (first >>= next) = reading first >>= after := by
  cases first with
  | error fault => rfl
  | ok parsed => exact h parsed

/-- A level down, the sizes are forgotten in the same way. -/
theorem reading_descend {depth : Nat} {next : Nat → Except Fault (Parsed β bound)}
    {after : Nat → Except Fault (β × List Lexeme)}
    (h : ∀ deeper, reading (next deeper) = after deeper) :
    reading (descend depth >>= next) = descend depth >>= after := by
  cases descend depth with
  | error fault => rfl
  | ok deeper => exact h deeper

/-- Changing the bound of a result changes nothing that is read. -/
theorem reading_rebound {first : Except Fault (Parsed α size)}
    {next : Parsed α size → Except Fault (Parsed α bound)}
    (h : ∀ parsed, reading (next parsed) = .ok (parsed.value, parsed.rest)) :
    reading (first >>= next) = reading first := by
  cases first with
  | error fault => rfl
  | ok parsed => exact h parsed

/-- What is left is shorter. -/
theorem length_of_reading {result : Except Fault (Parsed α size)} {value : α} {rest : List Lexeme}
    (h : reading result = .ok (value, rest)) : rest.length < size := by
  cases result with
  | error fault => simp at h
  | ok parsed =>
    simp only [reading_ok, Except.ok.injEq, Prod.mk.injEq] at h
    exact h.2 ▸ parsed.bound

end Basic

/-! ## The levels of the grammar -/

/-- The level of a logical chain; its operands are one level up. -/
def BoolOp.level : BoolOp → Nat
  | .or => 0
  | .and => 1

/-- The token between the operands of a logical chain. -/
def BoolOp.token : BoolOp → Token
  | .or => .or
  | .and => .and

/-- The chains that group to the left. -/
inductive Chain
  | sum
  | product
  deriving DecidableEq, Repr

/-- The level of a chain that groups to the left; its operands are one level up. -/
def Chain.level : Chain → Nat
  | .sum => 4
  | .product => 5

/-- The operator of a chain that a token stands for. -/
def Chain.op? : Chain → Token → Option BinaryOp
  | .sum => sumOp?
  | .product => productOp?

/-- Reads the level of the grammar with a number. -/
def readAt (level depth : Nat) (ts : List Lexeme) : Except Fault (Tree × List Lexeme) :=
  match level with
  | 0 => reading (readOr depth ts)
  | 1 => reading (readAnd depth ts)
  | 2 => reading (readNot depth ts)
  | 3 => reading (readComparison depth ts)
  | 4 => reading (readSum depth ts)
  | 5 => reading (readProduct depth ts)
  | 6 => reading (readSigned depth ts)
  | 7 => reading (readPower depth ts)
  | _ => reading (readAtom depth ts)

/-- Reads the operands behind the first of a logical chain. -/
def readOperands (op : BoolOp) (depth : Nat) (ts : List Lexeme) :
    Except Fault (List Tree × List Lexeme) :=
  match op with
  | .or => reading (readOrMore depth ts)
  | .and => reading (readAndMore depth ts)

/-- Reads the rest of a sum or product whose operands so far make `left`. -/
def readRest (chain : Chain) (depth : Nat) (left : Tree) (ts : List Lexeme) :
    Except Fault (Tree × List Lexeme) :=
  match chain with
  | .sum => reading (readSumMore depth left ts)
  | .product => reading (readProductMore depth left ts)

/-- What is left behind a level is shorter. -/
theorem length_of_readAt {level depth : Nat} {ts rest : List Lexeme} {tree : Tree}
    (h : readAt level depth ts = .ok (tree, rest)) : rest.length < ts.length := by
  unfold readAt at h
  split at h <;> exact length_of_reading h

/-! ## The equations -/

section Equations

variable (depth : Nat) (ts : List Lexeme)

/-- A logical chain is an operand of the next level and the operands behind it. -/
theorem readAt_logical (op : BoolOp) : readAt op.level depth ts
    = (do
      let (first, ts) ← readAt (op.level + 1) depth ts
      let (more, ts) ← readOperands op depth ts
      return (chain op first more, ts)) := by
  cases op with
  | or =>
    show reading (readOr depth ts) = _
    rw [readOr]
    exact reading_bind fun first => reading_bind fun more => rfl
  | and =>
    show reading (readAnd depth ts) = _
    rw [readAnd]
    exact reading_bind fun first => reading_bind fun more => rfl

/-- Operands go on while their operator follows. -/
theorem readOperands_eq (op : BoolOp) : readOperands op depth ts
    = match ts with
      | [] => return ([], [])
      | lexeme :: tail =>
        if lexeme.token = op.token then do
          let (operand, ts) ← readAt (op.level + 1) depth tail
          let (more, ts) ← readOperands op depth ts
          return (operand :: more, ts)
        else return ([], lexeme :: tail) := by
  cases op with
  | or =>
    show reading (readOrMore depth ts) = _
    cases ts with
    | nil =>
      rw [readOrMore]
      rfl
    | cons lexeme tail =>
      rw [readOrMore]
      by_cases hop : lexeme.token = .or
      · refine Eq.trans ?_ (if_pos (show lexeme.token = BoolOp.or.token from hop)).symm
        rw [if_pos hop]
        -- the bound on the tokens that are left is forgotten at each step
        exact reading_bind fun operand => reading_bind fun more => rfl
      · refine Eq.trans ?_ (if_neg (show lexeme.token ≠ BoolOp.or.token from hop)).symm
        rw [if_neg hop]
        rfl
  | and =>
    show reading (readAndMore depth ts) = _
    cases ts with
    | nil =>
      rw [readAndMore]
      rfl
    | cons lexeme tail =>
      rw [readAndMore]
      by_cases hop : lexeme.token = .and
      · refine Eq.trans ?_ (if_pos (show lexeme.token = BoolOp.and.token from hop)).symm
        rw [if_pos hop]
        exact reading_bind fun operand => reading_bind fun more => rfl
      · refine Eq.trans ?_ (if_neg (show lexeme.token ≠ BoolOp.and.token from hop)).symm
        rw [if_neg hop]
        rfl

/-- A negation has a negation or a comparison behind it. -/
theorem readAt_not : readAt 2 depth ts
    = match ts with
      | [] => .error .unexpectedEnd
      | lexeme :: tail =>
        if lexeme.token = .not then do
          let depth ← descend depth
          let (operand, ts) ← readAt 2 depth tail
          return (.not operand, ts)
        else readAt 3 depth (lexeme :: tail) := by
  show reading (readNot depth ts) = _
  cases ts with
  | nil =>
    rw [readNot]
    rfl
  | cons lexeme tail =>
    rw [readNot]
    dsimp only
    split
    · exact reading_descend fun depth => reading_bind fun operand => rfl
    · rfl

/-- A comparison is a sum and the links behind it. -/
theorem readAt_compare : readAt 3 depth ts
    = (do
      let (first, ts) ← readAt 4 depth ts
      let (links, ts) ← reading (readLinks depth ts)
      return (compareChain first links, ts)) := by
  show reading (readComparison depth ts) = _
  rw [readComparison]
  exact reading_bind fun first => reading_bind fun links => rfl

/-- Links go on while a comparison follows. -/
theorem reading_readLinks : reading (readLinks depth ts)
    = match ts with
      | [] => return ([], [])
      | lexeme :: tail =>
        match compareOp? lexeme.token with
        | some op => do
          let (operand, ts) ← readAt 4 depth tail
          let (more, ts) ← reading (readLinks depth ts)
          return ((op, operand) :: more, ts)
        | none => return ([], lexeme :: tail) := by
  cases ts with
  | nil =>
    rw [readLinks]
    rfl
  | cons lexeme tail =>
    rw [readLinks]
    dsimp only
    cases compareOp? lexeme.token with
    | none => rfl
    | some op => exact reading_bind fun operand => reading_bind fun more => rfl

/-- A chain is an operand of the next level and the rest behind it. -/
theorem readAt_chain (chain : Chain) : readAt chain.level depth ts
    = (do
      let (first, ts) ← readAt (chain.level + 1) depth ts
      readRest chain depth first ts) := by
  cases chain with
  | sum =>
    show reading (readSum depth ts) = _
    rw [readSum]
    exact reading_bind fun first => reading_rebound fun rest => rfl
  | product =>
    show reading (readProduct depth ts) = _
    rw [readProduct]
    exact reading_bind fun first => reading_rebound fun rest => rfl

/-- The rest of a chain goes on to the left, one level deeper with each link. -/
theorem readRest_eq (chain : Chain) (left : Tree) : readRest chain depth left ts
    = match ts with
      | [] => return (left, [])
      | lexeme :: tail =>
        match chain.op? lexeme.token with
        | some op => do
          let depth ← descend depth
          let (right, ts) ← readAt (chain.level + 1) depth tail
          readRest chain depth (.binary op left right) ts
        | none => return (left, lexeme :: tail) := by
  cases chain with
  | sum =>
    show reading (readSumMore depth left ts) = _
    cases ts with
    | nil =>
      rw [readSumMore]
      rfl
    | cons lexeme tail =>
      rw [readSumMore]
      dsimp only [Chain.op?]
      cases sumOp? lexeme.token with
      | none => rfl
      | some op =>
        exact reading_descend fun depth => reading_bind fun right =>
          reading_rebound fun rest => rfl
  | product =>
    show reading (readProductMore depth left ts) = _
    cases ts with
    | nil =>
      rw [readProductMore]
      rfl
    | cons lexeme tail =>
      rw [readProductMore]
      dsimp only [Chain.op?]
      cases productOp? lexeme.token with
      | none => rfl
      | some op =>
        exact reading_descend fun depth => reading_bind fun right =>
          reading_rebound fun rest => rfl

/-- A sign has a sign or a power behind it. -/
theorem readAt_sign : readAt 6 depth ts
    = match ts with
      | [] => .error .unexpectedEnd
      | lexeme :: tail =>
        match sign? lexeme.token with
        | some op => do
          let depth ← descend depth
          let (operand, ts) ← readAt 6 depth tail
          return (.sign op operand, ts)
        | none => readAt 7 depth (lexeme :: tail) := by
  show reading (readSigned depth ts) = _
  cases ts with
  | nil =>
    rw [readSigned]
    rfl
  | cons lexeme tail =>
    rw [readSigned]
    dsimp only
    cases sign? lexeme.token with
    | none => rfl
    | some op => exact reading_descend fun depth => reading_bind fun operand => rfl

/-- A power has an atom in front and an operand with signs as its exponent. -/
theorem readAt_power : readAt 7 depth ts
    = (do
      let (base, ts) ← readAt 8 depth ts
      match ts with
      | [] => return (base, [])
      | lexeme :: tail =>
        if lexeme.token = .starStar then do
          let depth ← descend depth
          let (exponent, ts) ← readAt 6 depth tail
          return (.binary .pow base exponent, ts)
        else return (base, lexeme :: tail)) := by
  show reading (readPower depth ts) = _
  rw [readPower]
  refine reading_bind fun base => ?_
  obtain ⟨base, ts, hbound⟩ := base
  cases ts with
  | nil => rfl
  | cons lexeme tail =>
    dsimp only
    split
    · exact reading_descend fun depth => reading_bind fun exponent => rfl
    · rfl

/-- An atom is a token or an expression in parentheses. -/
theorem readAt_atom : readAt 8 depth ts
    = match ts with
      | [] => .error .unexpectedEnd
      | lexeme :: tail =>
        match leaf? lexeme.token with
        | some leaf => return (leaf, tail)
        | none =>
          if lexeme.token = .openParen then do
            let depth ← descend depth
            let (inner, ts) ← readAt 0 depth tail
            match ts with
            | [] => .error .unexpectedEnd
            | close :: rest =>
              if close.token = .closeParen then return (inner, rest)
              else .error (unexpected (close :: rest))
          else .error (unexpected (lexeme :: tail)) := by
  show reading (readAtom depth ts) = _
  cases ts with
  | nil =>
    rw [readAtom]
    rfl
  | cons lexeme tail =>
    rw [readAtom]
    dsimp only
    cases leaf? lexeme.token with
    | some leaf => rfl
    | none =>
      dsimp only
      split
      · refine reading_descend fun depth => reading_bind fun inner => ?_
        obtain ⟨inner, ts, hbound⟩ := inner
        cases ts with
        | nil => rfl
        | cons close rest =>
          dsimp only
          split <;> rfl
      · rfl

/-- Reading a whole list of tokens. -/
theorem treeOfTokens_eq : treeOfTokens ts
    = (do
      let (tree, ts) ← readAt 0 0 ts
      match ts with
      | [] => return tree
      | lexeme :: rest =>
        if lexeme.token = .finish then return tree else .error (unexpected (lexeme :: rest))) := by
  unfold treeOfTokens
  show _ = reading (readOr 0 ts) >>= _
  cases readOr 0 ts <;> rfl

end Equations

end DialogueScript.Expr
