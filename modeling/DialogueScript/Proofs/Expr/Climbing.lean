import DialogueScript.Proofs.Expr.Printing

/-!
# Reading back what was printed, level by level

What tokens are read as at one place of the grammar (`ReadsAs`): a tree if the nesting is not too
deep, and the fault of nesting too deep otherwise. What is read at a place is read at all looser
ones, because no token behind it goes on with it there (`Stops`), and in parentheses it is read at
the tightest. So a tree that is read on its own level is read at every place (`reads_of_own`).
-/

namespace DialogueScript.Expr

/-! ## Nesting -/

/-- A result that is reached with so many levels open. -/
def guarded {α : Type} (levels : Nat) (result : Except Fault α) : Except Fault α :=
  if levels ≤ maxNesting then result else .error .tooDeep

section Guarded

variable {α β : Type}

theorem guarded_of_le {levels : Nat} (h : levels ≤ maxNesting) (result : Except Fault α) :
    guarded levels result = result := if_pos h

/-- What follows a guarded reading is guarded by the same depth. -/
theorem guarded_bind (levels : Nat) (result : Except Fault α) (next : α → Except Fault β) :
    guarded levels result >>= next = guarded levels (result >>= next) := by
  unfold guarded
  split <;> rfl

@[simp] theorem guarded_ok_bind (levels : Nat) (value : α) (next : α → Except Fault β) :
    guarded levels (.ok value) >>= next = guarded levels (next value) :=
  guarded_bind levels (.ok value) next

/-- Of two depths in a row the deeper one decides. -/
theorem guarded_guarded (levels more : Nat) (result : Except Fault α) :
    guarded levels (guarded more result) = guarded (max levels more) result := by
  unfold guarded
  by_cases hlevels : levels ≤ maxNesting
  · by_cases hmore : more ≤ maxNesting
    · rw [if_pos hlevels, if_pos hmore, if_pos (Nat.max_le.mpr ⟨hlevels, hmore⟩)]
    · rw [if_pos hlevels, if_neg hmore, if_neg fun h => hmore (Nat.max_le.mp h).2]
  · rw [if_neg hlevels, if_neg fun h => hlevels (Nat.max_le.mp h).1]

theorem guarded_congr {levels : Nat} {result other : Except Fault α}
    (h : levels ≤ maxNesting → result = other) : guarded levels result = guarded levels other := by
  unfold guarded
  split
  next hlevels => exact h hlevels
  next => rfl

/-- Going one level down guards all that is read there. -/
theorem descend_bind (depth : Nat) (next : Nat → Except Fault β) :
    descend depth >>= next = guarded (depth + 1) (next (depth + 1)) := by
  unfold descend guarded
  by_cases h : depth < maxNesting
  · rw [if_pos h, if_pos (show depth + 1 ≤ maxNesting from h)]
    rfl
  · rw [if_neg h, if_neg (show ¬ depth + 1 ≤ maxNesting from h)]
    rfl

/-- Goes on with what is read behind so many open levels. -/
theorem guarded_read {levels more : Nat} {value : α} {result : Except Fault α}
    {next : α → Except Fault β} (h : levels ≤ maxNesting → result = guarded more (.ok value)) :
    guarded levels (result >>= next) = guarded (max levels more) (next value) := by
  rw [← guarded_guarded]
  refine guarded_congr fun hlevels => ?_
  rw [h hlevels, guarded_ok_bind]

/-- A guarded tree is no other fault than nesting too deep. -/
theorem guarded_ok_eq_error {levels : Nat} {value : α} {fault : Fault}
    (h : guarded levels (.ok value) = .error fault) : fault = .tooDeep := by
  unfold guarded at h
  split at h
  · simp at h
  · exact (Except.error.inj h).symm

theorem guarded_ok_eq_ok {levels : Nat} {value other : α}
    (h : guarded levels (.ok value) = .ok other) : other = value := by
  unfold guarded at h
  split at h
  · exact (Except.ok.inj h).symm
  · cases h

end Guarded

/-- A token that does not fit is never reported as too deep. -/
theorem unexpected_ne_tooDeep (ts : List Lexeme) : unexpected ts ≠ .tooDeep := by
  unfold unexpected
  split
  · simp
  · split <;> simp

/-! ## What stands behind a tree -/

/-- The level on which a token goes on with what is in front of it. -/
def Token.strength? : Token → Option Nat
  | .or => some 0
  | .and => some 1
  | .equal | .notEqual | .less | .lessEqual | .greater | .greaterEqual => some 3
  | .plus | .minus => some 4
  | .star | .slash | .percent => some 5
  | .starStar => some 7
  | _ => none

/-- The tokens do not go on with a tree that is read at a place. -/
def Stops (place : Nat) (rest : List Lexeme) : Prop :=
  ∀ lexeme ∈ rest.head?, ∀ strength ∈ lexeme.token.strength?, strength < place

/-- What stops a tree in a place stops it in tighter places as well. -/
theorem Stops.mono {place tighter : Nat} {rest : List Lexeme} (h : Stops place rest)
    (hle : place ≤ tighter) : Stops tighter rest :=
  fun lexeme hhead strength hstrength => Nat.lt_of_lt_of_le (h lexeme hhead strength hstrength) hle

theorem stops_cons {place : Nat} {lexeme : Lexeme} {tail : List Lexeme} :
    Stops place (lexeme :: tail) ↔ ∀ strength ∈ lexeme.token.strength?, strength < place := by
  simp [Stops]

section Stop

variable {depth : Nat} {rest : List Lexeme}

/-- If no operator of its level follows, a logical chain has no more operands. -/
theorem readOperands_of_stops {op : BoolOp} (h : Stops op.level rest) :
    readOperands op depth rest = .ok ([], rest) := by
  rw [readOperands_eq]
  cases rest with
  | nil => rfl
  | cons lexeme tail =>
    refine if_neg fun htoken => ?_
    rw [stops_cons, htoken] at h
    cases op <;> exact Nat.lt_irrefl _ (h _ rfl)

/-- If no comparison follows, a chain of comparisons has no more links. -/
theorem readLinks_of_stops (h : Stops 3 rest) :
    reading (readLinks depth rest) = .ok ([], rest) := by
  rw [reading_readLinks]
  cases rest with
  | nil => rfl
  | cons lexeme tail =>
    have hnone : compareOp? lexeme.token = none := by
      rw [stops_cons] at h
      cases htoken : lexeme.token <;> simp_all [compareOp?, Token.strength?]
    dsimp only
    rw [hnone]
    rfl

/-- If no operator of its level follows, a chain is what stands on its left. -/
theorem readRest_of_stops {chain : Chain} (h : Stops chain.level rest) (left : Tree) :
    readRest chain depth left rest = .ok (left, rest) := by
  rw [readRest_eq]
  cases rest with
  | nil => rfl
  | cons lexeme tail =>
    have hnone : chain.op? lexeme.token = none := by
      rw [stops_cons] at h
      cases chain <;> cases htoken : lexeme.token <;>
        simp_all [Chain.op?, Chain.level, sumOp?, productOp?, Token.strength?]
    dsimp only
    rw [hnone]
    rfl

end Stop

/-! ## Reading at a place -/

/-- The tokens are read at a place as the tree, with so many levels of nesting open at once. -/
def ReadsAs (place : Nat) (tokens : List Token) (levels : Nat) (tree : Tree) : Prop :=
  ∀ (depth : Nat) (front rest : List Lexeme), depth ≤ maxNesting →
    front.map (·.token) = tokens → Stops place rest →
    readAt place depth (front ++ rest) = guarded (depth + levels) (.ok (tree, rest))

/-! ### From a place to the next looser one -/

section Climb

variable {place levels : Nat} {tokens : List Token} {tree : Tree}

/-- On the level of a logical operator, a tighter tree is a chain of one operand. -/
theorem ReadsAs.climb_logical {op : BoolOp} (h : ReadsAs (op.level + 1) tokens levels tree) :
    ReadsAs op.level tokens levels tree := by
  intro depth front rest hdepth hfront hstops
  rw [readAt_logical, h depth front rest hdepth hfront (hstops.mono (Nat.le_succ _)),
    guarded_ok_bind]
  dsimp only
  rw [readOperands_of_stops hstops]
  rfl

/-- On the level of comparisons, a tighter tree is a chain without links. -/
theorem ReadsAs.climb_compare (h : ReadsAs 4 tokens levels tree) :
    ReadsAs 3 tokens levels tree := by
  intro depth front rest hdepth hfront hstops
  rw [readAt_compare, h depth front rest hdepth hfront (hstops.mono (Nat.le_succ _)),
    guarded_ok_bind]
  dsimp only
  rw [readLinks_of_stops hstops]
  rfl

/-- On the level of powers, an atom is a power without exponent. -/
theorem ReadsAs.climb_power (h : ReadsAs 8 tokens levels tree) : ReadsAs 7 tokens levels tree := by
  intro depth front rest hdepth hfront hstops
  rw [readAt_power, h depth front rest hdepth hfront (hstops.mono (Nat.le_succ _)),
    guarded_ok_bind]
  cases rest with
  | nil => rfl
  | cons lexeme tail =>
    have hother : lexeme.token ≠ .starStar := by
      intro htoken
      rw [stops_cons, htoken] at hstops
      exact Nat.lt_irrefl _ (hstops 7 rfl)
    dsimp only
    rw [if_neg hother]
    rfl

/-- On the level of a chain, a tighter tree is a chain without links. -/
theorem ReadsAs.climb_chain {chain : Chain} (h : ReadsAs (chain.level + 1) tokens levels tree) :
    ReadsAs chain.level tokens levels tree := by
  intro depth front rest hdepth hfront hstops
  rw [readAt_chain, h depth front rest hdepth hfront (hstops.mono (Nat.le_succ _)),
    guarded_ok_bind]
  dsimp only
  rw [readRest_of_stops hstops]

/-- Does an operand start with the token? -/
def Token.starts (token : Token) : Bool := (leaf? token).isSome || token == .openParen

/-- A sign begins no atom. -/
theorem starts_of_sign? {token : Token} {op : Sign} (h : sign? token = some op) :
    token.starts = false := by
  cases token <;> simp_all [sign?, Token.starts, leaf?]

/-- Where no operand starts, nothing is read. -/
theorem readAt_power_of_stuck {depth : Nat} {ts : List Lexeme}
    (h : ∀ lexeme ∈ ts.head?, lexeme.token.starts = false) :
    readAt 7 depth ts = .error (unexpected ts) := by
  have hatom : readAt 8 depth ts = .error (unexpected ts) := by
    rw [readAt_atom]
    cases ts with
    | nil => rfl
    | cons lexeme tail =>
      have hstart := h lexeme rfl
      simp only [Token.starts, Bool.or_eq_false_iff, Option.isSome_eq_false_iff,
        Option.isNone_iff_eq_none, beq_eq_false_iff_ne, ne_eq] at hstart
      dsimp only
      rw [hstart.1]
      exact if_neg hstart.2
  rw [readAt_power, hatom]
  rfl

/-- The same token ends the reading of a comparison, and it is the token that the fault names. -/
theorem readAt_compare_of_stuck {depth : Nat} {ts : List Lexeme}
    (h : ∀ lexeme ∈ ts.head?, lexeme.token.starts = false ∧ sign? lexeme.token = none) :
    readAt 3 depth ts = .error (unexpected ts) := by
  have hpower := @readAt_power_of_stuck depth ts fun lexeme hhead => (h lexeme hhead).1
  have hsign : readAt 6 depth ts = .error (unexpected ts) := by
    rw [readAt_sign]
    cases ts with
    | nil => rfl
    | cons lexeme tail =>
      dsimp only
      rw [(h lexeme rfl).2]
      exact hpower
  have hproduct : readAt 5 depth ts = .error (unexpected ts) := by
    rw [show 5 = Chain.product.level from rfl, readAt_chain]
    rw [show readAt (Chain.product.level + 1) depth ts = .error (unexpected ts) from hsign]
    rfl
  have hsum : readAt 4 depth ts = .error (unexpected ts) := by
    rw [show 4 = Chain.sum.level from rfl, readAt_chain]
    rw [show readAt (Chain.sum.level + 1) depth ts = .error (unexpected ts) from hproduct]
    rfl
  rw [readAt_compare, hsum]
  rfl

/-- A token that is a fault at a place is not the first one of what is read there. -/
theorem ReadsAs.not_stuck {depth : Nat} {front rest : List Lexeme}
    (h : ReadsAs place tokens levels tree) (hdepth : depth ≤ maxNesting)
    (hfront : front.map (·.token) = tokens) (hstops : Stops place rest) :
    readAt place depth (front ++ rest) ≠ .error (unexpected (front ++ rest)) := by
  intro herror
  rw [h depth front rest hdepth hfront hstops] at herror
  exact unexpected_ne_tooDeep _ (guarded_ok_eq_error herror)

/-- A comparison begins with no negation, so it is read as an operand of one. -/
theorem ReadsAs.climb_not (h : ReadsAs 3 tokens levels tree) : ReadsAs 2 tokens levels tree := by
  intro depth front rest hdepth hfront hstops
  have htighter : Stops 3 rest := hstops.mono (Nat.le_succ _)
  -- a `not` in front would be a fault one level up, but the tree is read there
  have hstuck := h.not_stuck hdepth hfront htighter
  rw [← h depth front rest hdepth hfront htighter, readAt_not]
  cases hts : front ++ rest with
  | nil => exact absurd (readAt_compare_of_stuck (by simp [hts])) hstuck
  | cons lexeme tail =>
    refine if_neg fun htoken => hstuck (readAt_compare_of_stuck ?_)
    simp [hts, htoken, Token.starts, leaf?, sign?]

/-- A power begins with no sign, so it is read as an operand of one. -/
theorem ReadsAs.climb_sign (h : ReadsAs 7 tokens levels tree) : ReadsAs 6 tokens levels tree := by
  intro depth front rest hdepth hfront hstops
  have htighter : Stops 7 rest := hstops.mono (Nat.le_succ _)
  -- and so would a sign
  have hstuck := h.not_stuck hdepth hfront htighter
  rw [← h depth front rest hdepth hfront htighter, readAt_sign]
  cases hts : front ++ rest with
  | nil => exact absurd (readAt_power_of_stuck (by simp [hts])) hstuck
  | cons lexeme tail =>
    dsimp only
    cases hsign : sign? lexeme.token with
    | none => rfl
    | some op =>
      refine absurd (readAt_power_of_stuck ?_) hstuck
      simp [hts, starts_of_sign? hsign]

/-- What is read at a place is read at the next looser one. -/
theorem ReadsAs.climb (h : ReadsAs (place + 1) tokens levels tree) :
    ReadsAs place tokens levels tree := by
  match place with
  | 0 => exact @ReadsAs.climb_logical levels tokens tree .or h
  | 1 => exact @ReadsAs.climb_logical levels tokens tree .and h
  | 2 => exact h.climb_not
  | 3 => exact h.climb_compare
  | 4 => exact @ReadsAs.climb_chain levels tokens tree .sum h
  | 5 => exact @ReadsAs.climb_chain levels tokens tree .product h
  | 6 => exact h.climb_sign
  | 7 => exact h.climb_power
  -- tighter than atoms there is nothing else
  | more + 8 =>
    exact fun depth front rest hdepth hfront hstops =>
      h depth front rest hdepth hfront (hstops.mono (Nat.le_succ _))

/-- What is read at a place is read at all looser ones. -/
theorem ReadsAs.looser {low : Nat} (h : ReadsAs place tokens levels tree) (hlow : low ≤ place) :
    ReadsAs low tokens levels tree := by
  induction hlow with
  | refl => exact h
  | step _ ih => exact ih h.climb

/-- What is read at the loosest place is read in parentheses. -/
theorem ReadsAs.parens (h : ReadsAs 0 tokens levels tree) :
    ReadsAs 8 (.openParen :: tokens ++ [.closeParen]) (levels + 1) tree := by
  intro depth front rest hdepth hfront hstops
  obtain ⟨«open», back, rfl, hopen, hback⟩ := List.map_eq_cons_iff.mp hfront
  obtain ⟨inner, last, rfl, hinner, hlast⟩ := List.map_eq_append_iff.mp hback
  obtain ⟨close, rfl, hclose⟩ := List.map_eq_singleton_iff.mp hlast
  -- a closing parenthesis goes on with nothing, so the inside is read to its end
  have hread : depth + 1 ≤ maxNesting → readAt 0 (depth + 1) (inner ++ close :: rest)
      = guarded (depth + 1 + levels) (.ok (tree, close :: rest)) := by
    intro hdeeper
    exact h (depth + 1) inner (close :: rest) hdeeper hinner
      (by simp [stops_cons, hclose, Token.strength?])
  rw [List.cons_append, List.append_assoc, readAt_atom]
  dsimp only
  rw [hopen]
  show (descend depth >>= fun depth => _) = _
  rw [descend_bind, List.singleton_append, guarded_read hread]
  dsimp only
  rw [if_pos hclose, Nat.max_eq_right (by omega), Nat.add_right_comm, Nat.add_assoc]
  rfl

/-- What is read from all tokens, if nothing but the end stands behind what is read. -/
theorem ReadsAs.treeOfTokens (h : ReadsAs 0 tokens levels tree) {ts : List Lexeme}
    {behind : List Token} (hts : ts.map (·.token) = tokens ++ behind)
    (hfinish : ∀ token ∈ behind.head?, token = .finish) :
    treeOfTokens ts = guarded levels (.ok tree) := by
  obtain ⟨front, rest, rfl, hfront, hrest⟩ := List.map_eq_append_iff.mp hts
  have hend : ∀ lexeme ∈ rest.head?, lexeme.token = .finish := fun lexeme hlexeme =>
    hfinish lexeme.token (by rw [← hrest, List.head?_map, Option.mem_def.mp hlexeme]; rfl)
  have hstops : Stops 0 rest := fun lexeme hlexeme strength hstrength => by
    rw [hend lexeme hlexeme] at hstrength
    cases hstrength
  rw [treeOfTokens_eq, h 0 front rest (Nat.zero_le _) hfront hstops, guarded_ok_bind, Nat.zero_add]
  cases rest with
  | nil => rfl
  | cons lexeme more =>
    dsimp only
    rw [if_pos (hend lexeme rfl)]
    rfl

end Climb

/-! ## Trees in their places -/

/-- The tokens of a tree at a place. -/
def Tree.tokensAt (place : Nat) (tree : Tree) : List Token :=
  enclose place tree.level tree.tokens

/-- The nesting of a tree at a place. -/
def Tree.nestingAt (place : Nat) (tree : Tree) : Nat :=
  encloseNesting place tree.level tree.nesting

/-- The tokens of a tree at a place are read as that tree. -/
def Reads (place : Nat) (tree : Tree) : Prop :=
  ReadsAs place (tree.tokensAt place) (tree.nestingAt place) tree

section Tokens

variable {place : Nat} {tree : Tree}

theorem tokensAt_of_le (h : place ≤ tree.level) : tree.tokensAt place = tree.tokens :=
  if_neg (Nat.not_lt.mpr h)

/-- A tree that is looser than its place stands in parentheses. -/
theorem tokensAt_of_lt (h : tree.level < place) :
    tree.tokensAt place = .openParen :: tree.tokens ++ [.closeParen] := if_pos h

theorem nestingAt_of_le (h : place ≤ tree.level) : tree.nestingAt place = tree.nesting :=
  if_neg (Nat.not_lt.mpr h)

/-- The parentheses open a level. -/
theorem nestingAt_of_lt (h : tree.level < place) :
    tree.nestingAt place = tree.nesting + 1 := if_pos h

/-- Between two places that are next to each other, only trees of the looser level differ. -/
theorem tokensAt_succ (h : tree.level ≠ place) :
    tree.tokensAt (place + 1) = tree.tokensAt place := by
  unfold Tree.tokensAt enclose
  simp only [show tree.level < place + 1 ↔ tree.level < place by omega]

theorem nestingAt_succ (h : tree.level ≠ place) :
    tree.nestingAt (place + 1) = tree.nestingAt place := by
  unfold Tree.nestingAt encloseNesting
  simp only [show tree.level < place + 1 ↔ tree.level < place by omega]

/-- A tree that is read on its own level is read at every place. -/
theorem reads_of_own (h : ReadsAs tree.level tree.tokens tree.nesting tree) :
    ∀ place ≤ 8, Reads place tree := by
  intro place hplace
  unfold Reads
  rcases Nat.lt_or_ge tree.level place with htight | hle
  · rw [tokensAt_of_lt htight, nestingAt_of_lt htight]
    exact (h.looser (Nat.zero_le _)).parens.looser hplace
  · rw [tokensAt_of_le hle, nestingAt_of_le hle]
    exact h.looser hle

end Tokens

end DialogueScript.Expr
