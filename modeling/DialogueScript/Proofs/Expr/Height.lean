import DialogueScript.Proofs.Expr.Derivation
import DialogueScript.Proofs.Expr.RoundTrip
import Mathlib.Order.Bounds.Defs
import Mathlib.Order.MinMax

/-!
# How high a tree can be

The nesting that is counted while an expression is read does not bound the height of its tree. The
front of a sum or a product is read before the operators that it becomes the left operand of, and
the levels they open are closed again at the end of the chain. So a chain stands on top of whatever
its first operand is: a product may be as long as the nesting allows, the sum on top of it too, and
both again inside of each pair of parentheses (`Tree.tower`).

With as many levels of nesting left as `room`, a tree is at most `heightBound` high
(`bounded_of_derives`). The greatest height is the square of all levels and twice their number
(`isGreatest_height`). So the cap on the nesting bounds the height of what is read with few levels
open, and no more than those few (`height_le_maxNesting_iff`); and it bounds the height of trees in
which only rows of operands stand in front of the operators of sums and products
(`height_le_nesting`).
-/

namespace DialogueScript.Expr

/-! ## Height -/

mutual

/-- The height of a tree. Signs, `not` and operators between two operands count one level; operands
of one token and the chains that are one node count none. -/
def Tree.height : Tree → Nat
  | .int _ | .float _ | .bool _ | .var _ => 0
  | .sign _ operand => operand.height + 1
  | .binary _ left right => max left.height right.height + 1
  | .logical _ operands => operandHeight operands
  | .not operand => operand.height + 1
  | .compare first links => max first.height (linkHeight links)

/-- The height of the highest operand of a logical chain. -/
def operandHeight : List Tree → Nat
  | [] => 0
  | operand :: more => max operand.height (operandHeight more)

/-- The height of the highest operand behind a comparison of a chain. -/
def linkHeight : List (CompareOp × Tree) → Nat
  | [] => 0
  | (_, operand) :: more => max operand.height (linkHeight more)

end

/-- Operands in a row are as high as the highest of them. -/
theorem operandHeight_append (operands more : List Tree) :
    operandHeight (operands ++ more) = max (operandHeight operands) (operandHeight more) := by
  induction operands with
  | nil => simp [operandHeight]
  | cons operand rest ih => rw [List.cons_append, operandHeight, operandHeight, ih, Nat.max_assoc]

theorem linkHeight_append (links more : List (CompareOp × Tree)) :
    linkHeight (links ++ more) = max (linkHeight links) (linkHeight more) := by
  induction links with
  | nil => simp [linkHeight]
  | cons link rest ih => rw [List.cons_append, linkHeight, linkHeight, ih, Nat.max_assoc]

/-- A chain is no level of its own above its operands. -/
theorem height_chain (op : BoolOp) (first : Tree) (more : List Tree) :
    (chain op first more).height = operandHeight (first :: more) := by
  cases more with
  | nil => simp [chain, operandHeight]
  | cons second rest => rfl

/-- A chain of comparisons is no level of its own either. -/
theorem height_compareChain (first : Tree) (links : List (CompareOp × Tree)) :
    (compareChain first links).height = max first.height (linkHeight links) := by
  cases links with
  | nil => simp [compareChain, linkHeight]
  | cons link rest => rfl

theorem height_of_leaf? {token : Token} {leaf : Tree} (h : leaf? token = some leaf) :
    leaf.height = 0 := by
  cases token <;> simp only [leaf?, Option.some.injEq, reduceCtorEq] at h <;> subst h <;> rfl

/-! ## The bound -/

/-- The greatest height of a tree that is read on a level with so many levels of nesting left. -/
def heightBound (level room : Nat) : Nat :=
  match level with
  | 0 | 1 | 2 | 3 | 4 => room * room + 2 * room
  | 5 => room * room + room
  | 6 | 7 => room * room
  | _ => room * room - 1

/-- A tighter level is bounded by less. -/
theorem heightBound_succ_le : ∀ level room, heightBound (level + 1) room ≤ heightBound level room
  | 0, _ | 1, _ | 2, _ | 3, _ | 6, _ => Nat.le_refl _
  | 4, room => Nat.add_le_add_left (Nat.le_mul_of_pos_left room (by omega)) _
  | 5, _ => Nat.le_add_right _ _
  | 7, _ => Nat.sub_le _ _
  | _ + 8, _ => Nat.le_refl _

/-- More room allows for more height. -/
theorem heightBound_le_of_le (level : Nat) {room more : Nat} (h : room ≤ more) :
    heightBound level room ≤ heightBound level more := by
  have hsquare := Nat.mul_le_mul h h
  unfold heightBound
  split <;> omega

/-- A level that is opened pays for what is inside. -/
theorem succ_mul_self (room : Nat) : (room + 1) * (room + 1) = room * room + 2 * room + 1 := by
  rw [Nat.add_mul, Nat.mul_add]
  omega

/-- A part is no higher than its place allows. A chain stands on the operands of its own level. -/
def Part.Bounded (room : Nat) : Part → Prop
  | .tree level value => value.height ≤ heightBound level room
  | .chain kind count value =>
    count ≤ room ∧ value.height ≤ heightBound (kind.level + 1) room + count
  | .operands op values => operandHeight values ≤ heightBound (op.level + 1) room
  | .links first more => max first.height (linkHeight more) ≤ heightBound 4 room

/-- What is read with some room for nesting is no higher than that allows. -/
theorem bounded_of_derives {part : Part} {depth : Nat} {ts rest : List Lexeme}
    (h : Derives part depth ts rest) : ∀ room, depth + room = maxNesting → part.Bounded room := by
  -- a rule that opens a level leaves one level less for the part inside
  induction h with
  | leaf hleaf =>
    intro room _
    rw [Part.Bounded, height_of_leaf? hleaf]
    exact Nat.zero_le _
  | parens _ _ hdepth _ ih =>
    intro room hroom
    obtain ⟨inside, rfl⟩ : ∃ inside, room = inside + 1 := ⟨room - 1, by omega⟩
    have hinner := ih inside (by omega)
    simp only [Part.Bounded, heightBound, succ_mul_self] at hinner ⊢
    omega
  | looser _ ih => exact fun room hroom => Nat.le_trans (ih room hroom) (heightBound_succ_le _ room)
  | power _ hdepth _ _ ihleft ihright =>
    intro room hroom
    obtain ⟨inside, rfl⟩ : ∃ inside, room = inside + 1 := ⟨room - 1, by omega⟩
    have hleft := ihleft (inside + 1) hroom
    have hright := ihright inside (by omega)
    simp only [Part.Bounded, heightBound, succ_mul_self, Tree.height] at hleft hright ⊢
    omega
  | sign _ hdepth _ ih | not _ hdepth _ ih =>
    intro room hroom
    obtain ⟨inside, rfl⟩ : ∃ inside, room = inside + 1 := ⟨room - 1, by omega⟩
    have hbehind := ih inside (by omega)
    simp only [Part.Bounded, heightBound, succ_mul_self, Tree.height] at hbehind ⊢
    omega
  | chainFirst _ ih => exact fun room hroom => ⟨Nat.zero_le _, ih room hroom⟩
  | @chainNext kind links depth _ _ _ _ _ _ _ _ hdepth _ _ ihfront ihoperand =>
    intro room hroom
    obtain ⟨-, hfront⟩ := ihfront room hroom
    have hoperand := ihoperand (room - (links + 1)) (by omega)
    -- behind its links an operand has less room, so the bound for the whole chain holds for it
    have hless := heightBound_le_of_le (kind.level + 1) (Nat.sub_le room (links + 1))
    refine ⟨by omega, ?_⟩
    simp only [Part.Bounded, Tree.height] at hfront hoperand ⊢
    omega
  | @chain kind _ _ _ _ _ _ ih =>
    intro room hroom
    -- a chain has at most as many links as there is room
    obtain ⟨hlinks, hheight⟩ := ih room hroom
    cases kind <;> simp only [Part.Bounded, heightBound, Chain.level] at hheight ⊢ <;> omega
  | operandsFirst _ ih =>
    intro room hroom
    rw [Part.Bounded, operandHeight, operandHeight, Nat.max_zero]
    exact ih room hroom
  | operandsNext _ _ _ ihfront ihoperand =>
    intro room hroom
    rw [Part.Bounded, operandHeight_append, operandHeight, operandHeight, Nat.max_zero]
    exact Nat.max_le.mpr ⟨ihfront room hroom, ihoperand room hroom⟩
  | logical _ ih =>
    intro room hroom
    rw [Part.Bounded, height_chain]
    exact Nat.le_trans (ih room hroom) (heightBound_succ_le _ room)
  | linksFirst _ ih =>
    intro room hroom
    rw [Part.Bounded, linkHeight, Nat.max_zero]
    exact ih room hroom
  | linksNext _ _ _ ihfront ihoperand =>
    intro room hroom
    rw [Part.Bounded, linkHeight_append, linkHeight, linkHeight, Nat.max_zero, ← Nat.max_assoc]
    exact Nat.max_le.mpr ⟨ihfront room hroom, ihoperand room hroom⟩
  | compare _ ih =>
    intro room hroom
    rw [Part.Bounded, height_compareChain]
    exact ih room hroom

/-- The text is read as the tree with only so many levels of nesting left to open. -/
def ReadsWithin (levels : Nat) (t : Text) (tree : Tree) : Prop :=
  ∃ ts rest, tokenize t = .ok ts ∧ readAt 0 (maxNesting - levels) ts = .ok (tree, rest)

section Within

variable {levels : Nat} {t : Text} {tree : Tree}

/-- What is read from the whole text is read with all levels left. -/
theorem readsWithin_of_parse (h : parse t = .ok tree) : ReadsWithin maxNesting t tree := by
  obtain ⟨ts, hts, htree⟩ := bind_eq_ok h
  rw [treeOfTokens_eq] at htree
  obtain ⟨⟨value, rest⟩, hread, htree⟩ := bind_eq_ok htree
  have hvalue : value = tree := by
    dsimp only at htree
    split at htree
    · exact Except.ok.inj htree
    · split at htree
      · exact Except.ok.inj htree
      · cases htree
  exact ⟨ts, rest, hts, hvalue ▸ hread⟩

/-- With so many levels left, a tree that is read is no higher than the bound. -/
theorem height_le_of_readsWithin (hlevels : levels ≤ maxNesting) (h : ReadsWithin levels t tree) :
    tree.height ≤ levels * (levels + 2) := by
  obtain ⟨ts, rest, -, hread⟩ := h
  have hderives := derives_of_readAt ts 0 (Nat.zero_le _) _ _ _ hread
  have hbounded := bounded_of_derives hderives levels (Nat.sub_add_cancel hlevels)
  rw [Nat.mul_add, Nat.mul_comm levels 2]
  exact hbounded

/-- The text of a tree asks for as many levels as the tree has nesting. -/
theorem readsWithin_text (h : tree.isGrammatical false = true) (hnesting : tree.nesting ≤ levels)
    (hcap : tree.nesting ≤ maxNesting) : ReadsWithin levels tree.text tree := by
  obtain ⟨ts, hts, htokens, -⟩ := tokenize_text h
  obtain ⟨finish, -, hread⟩ := readAt_tokens h htokens (Nat.sub_le maxNesting levels)
  exact ⟨ts, [finish], hts, hread.trans (guarded_of_le (by omega) _)⟩

end Within

/-! ## The bound is reached -/

/-- A chain on top of a tree, with ones behind its operators. -/
def Tree.linked (op : BinaryOp) (tree : Tree) : Nat → Tree
  | 0 => tree
  | links + 1 => .binary op (tree.linked op links) (.int 1)

/-- The highest tree that so many levels of nesting allow: a sum on top of a product on top of a
power whose base, in parentheses, is the highest tree of one level less. -/
def Tree.tower : Nat → Tree
  | 0 => .int 1
  | room + 1 =>
    ((Tree.binary .pow (Tree.tower room) (.int 1)).linked .mul (room + 1)).linked .add (room + 1)

section Linked

variable (tree : Tree)

/-- Each link is a level. -/
theorem height_linked (op : BinaryOp) (links : Nat) :
    (tree.linked op links).height = tree.height + links := by
  induction links with
  | zero => rfl
  | succ links ih =>
    rw [Tree.linked, Tree.height, ih]
    show max (tree.height + links) 0 + 1 = tree.height + links + 1
    rw [Nat.max_zero]

theorem isGrammatical_linked (op : BinaryOp) (links : Nat) :
    (tree.linked op links).isGrammatical false = tree.isGrammatical false := by
  induction links with
  | zero => rfl
  | succ links ih =>
    rw [Tree.linked, Tree.isGrammatical, ih]
    exact Bool.and_true _

section Chain

variable {op : BinaryOp} {chain : Chain} (hop : op.Links chain) (hlevel : chain.level < tree.level)

include hop

/-- A chain with links stands on the level of the chain. -/
theorem level_linked (links : Nat) : (tree.linked op (links + 1)).level = chain.level := hop.level

include hlevel

/-- Putting links on makes a tree no looser than the chain. -/
theorem le_level_linked (links : Nat) : chain.level ≤ (tree.linked op links).level := by
  cases links with
  | zero => exact Nat.le_of_lt hlevel
  | succ links => exact Nat.le_of_eq (level_linked tree hop links).symm

/-- The tree has a link for each number that was put on, since it had none of its own. -/
theorem links_linked (links : Nat) : (tree.linked op links).links chain.level = links := by
  induction links with
  | zero => exact links_of_ne (by rw [Tree.linked]; omega)
  | succ links ih => rw [Tree.linked, Tree.links, if_pos hop.level, ih]

/-- A chain of ones is nested as deep as it has links, unless its first operand is deeper. -/
theorem nesting_linked (links : Nat) :
    (tree.linked op links).nesting = max tree.nesting links := by
  induction links with
  | zero => exact (Nat.max_zero _).symm
  | succ links ih =>
    have hleft : ¬ (tree.linked op links).level < chain.level :=
      Nat.not_lt.mpr (le_level_linked tree hop hlevel links)
    have hright : ¬ (Tree.int 1).level < chain.level + 1 := Nat.not_lt.mpr chain.level_lt
    rw [Tree.linked, Tree.nesting, hop.leftLevel, hop.rightLevel, links_linked tree hop hlevel,
      encloseNesting, if_neg hleft, encloseNesting, if_neg hright, ih, Tree.nesting]
    omega

/-- The tokens of a chain are those of its first operand, then one operator and one number for each
link. -/
theorem tokens_linked (links : Nat) : (tree.linked op links).tokens
    = tree.tokens ++ (List.replicate links [op.token, .int 1]).flatten := by
  induction links with
  | zero => simp [Tree.linked]
  | succ links ih =>
    have hleft : ¬ (tree.linked op links).level < chain.level :=
      Nat.not_lt.mpr (le_level_linked tree hop hlevel links)
    have hright : ¬ (Tree.int 1).level < chain.level + 1 := Nat.not_lt.mpr chain.level_lt
    rw [Tree.linked, Tree.tokens, hop.leftLevel, hop.rightLevel, enclose, if_neg hleft, enclose,
      if_neg hright, ih, List.replicate_succ', List.flatten_append, List.append_assoc]
    rfl

end Chain

end Linked

/-- The tower reaches the bound. -/
theorem height_tower (room : Nat) : (Tree.tower room).height = room * (room + 2) := by
  induction room with
  | zero => rfl
  | succ room ih =>
    have hsquare := succ_mul_self room
    rw [Tree.tower, height_linked, height_linked, Tree.height, ih, Tree.height, Nat.max_zero,
      Nat.mul_add, Nat.mul_add]
    omega

theorem isGrammatical_tower (room : Nat) : (Tree.tower room).isGrammatical false = true := by
  induction room with
  | zero => decide
  | succ room ih =>
    rw [Tree.tower, isGrammatical_linked, isGrammatical_linked, Tree.isGrammatical, ih]
    decide

/-- Yet it never has more levels open than there is room. -/
theorem nesting_tower_le (room : Nat) : (Tree.tower room).nesting ≤ room := by
  induction room with
  | zero => exact Nat.le_refl _
  | succ room ih =>
    have hsum : BinaryOp.add.Links .sum := ⟨rfl, rfl, rfl, rfl, rfl⟩
    have hproduct : BinaryOp.mul.Links .product := ⟨rfl, rfl, rfl, rfl, rfl⟩
    -- the tower below stands in parentheses, which open the one level more
    have hpower : (Tree.binary .pow (Tree.tower room) (.int 1)).nesting ≤ room + 1 := by
      have hbase : encloseNesting 8 (Tree.tower room).level (Tree.tower room).nesting
          ≤ room + 1 := by
        unfold encloseNesting
        split <;> omega
      have hexponent : (Tree.tower room).links 8 + 1 + encloseNesting 6 8 0 = 1 := by
        rw [links_eight]
        rfl
      rw [Tree.nesting]
      exact Nat.max_le.mpr ⟨hbase, Nat.le_trans (Nat.le_of_eq hexponent) (by omega)⟩
    rw [Tree.tower, nesting_linked _ hsum, nesting_linked _ hproduct]
    · omega
    · exact (by decide : (5 : Nat) < 7)
    · rw [level_linked _ hproduct]
      decide

/-- The tower is read, however much higher it is than there is room. -/
theorem parse_tower {room : Nat} (h : room ≤ maxNesting) :
    parse (Tree.tower room).text = .ok (Tree.tower room) :=
  (parse_text_of_isGrammatical (isGrammatical_tower room)).trans
    (if_pos (Nat.le_trans (nesting_tower_le room) h))

/-- The greatest height of a tree that is read. -/
theorem isGreatest_height :
    IsGreatest {height | ∃ t tree, parse t = .ok tree ∧ tree.height = height}
      (maxNesting * (maxNesting + 2)) := by
  refine ⟨⟨_, Tree.tower maxNesting, parse_tower (Nat.le_refl _), height_tower maxNesting⟩, ?_⟩
  rintro height ⟨t, tree, hparse, rfl⟩
  exact height_le_of_readsWithin (Nat.le_refl _) (readsWithin_of_parse hparse)

/-! ## Where the cap is a bound -/

/-- Is the tree a row: operands without height, and operators of one level between them? -/
def Tree.isRow (level : Nat) : Tree → Bool
  | .binary op left right => op.level == level && left.isRow level && right.height == 0
  | tree => tree.height == 0

mutual

/-- Are there only rows in front of the operators of sums and products? Then no operand of a chain
has any height but the last. -/
def Tree.isForward : Tree → Bool
  | .int _ | .float _ | .bool _ | .var _ => true
  | .sign _ operand => operand.isForward
  | .binary op left right =>
    (if op = .pow then left.isForward else left.isRow op.level) && right.isForward
  | .logical _ operands => allForward operands
  | .not operand => operand.isForward
  | .compare first links => first.isForward && allLinksForward links

/-- Is that so in all operands? -/
def allForward : List Tree → Bool
  | [] => true
  | operand :: more => operand.isForward && allForward more

/-- Is that so in the operands of all links? -/
def allLinksForward : List (CompareOp × Tree) → Bool
  | [] => true
  | (_, operand) :: more => operand.isForward && allLinksForward more

end

section Forward

variable {tree : Tree}

/-- A row is as high as it has links. -/
theorem height_of_isRow {level : Nat} (h : tree.isRow level = true) :
    tree.height = tree.links level := by
  induction tree using Tree.induction with
  | binary op left right ihleft _ =>
    simp only [Tree.isRow, Bool.and_eq_true, beq_iff_eq] at h
    obtain ⟨⟨hlevel, hleft⟩, hright⟩ := h
    rw [Tree.height, hright, ihleft hleft, Tree.links, if_pos hlevel, Nat.max_zero]
  | int _ | float _ | bool _ | var _ | sign _ _ _ | logical _ _ _ | not _ _ | compare _ _ _ _ =>
    exact beq_iff_eq.mp h

/-- Only operands of one token stand on the tightest level. -/
theorem height_of_eight_le (h : 8 ≤ tree.level) : tree.height = 0 := by
  cases tree with
  | int _ | float _ | bool _ | var _ => rfl
  | binary op left right => cases op <;> simp [Tree.level, BinaryOp.level] at h
  | logical op operands => cases op <;> simp [Tree.level, BoolOp.level] at h
  | sign _ _ | not _ | compare _ _ => simp [Tree.level] at h

/-- Parentheses take no levels away. -/
theorem nesting_le_encloseNesting (place own nesting : Nat) :
    nesting ≤ encloseNesting place own nesting := by
  unfold encloseNesting
  split <;> omega

/-- Operands that grow forward only are no higher than the levels they open. -/
theorem operandHeight_le_nesting (op : BoolOp) : ∀ {operands : List Tree},
    (∀ operand ∈ operands, operand.isForward = true → operand.height ≤ operand.nesting) →
    allForward operands = true → operandHeight operands ≤ operandNesting op operands
  | [], _, _ => Nat.le_refl 0
  | operand :: more, hall, h => by
    obtain ⟨hoperand, hmore⟩ := List.forall_mem_cons.mp hall
    obtain ⟨hforward, hrest⟩ := Bool.and_eq_true_iff.mp h
    have hplace := nesting_le_encloseNesting (op.level + 1) operand.level operand.nesting
    exact max_le_max (Nat.le_trans (hoperand hforward) hplace)
      (operandHeight_le_nesting op hmore hrest)

/-- The operands of comparisons are no higher than the levels they open. -/
theorem linkHeight_le_nesting : ∀ {links : List (CompareOp × Tree)},
    (∀ link ∈ links, link.2.isForward = true → link.2.height ≤ link.2.nesting) →
    allLinksForward links = true → linkHeight links ≤ linkNesting links
  | [], _, _ => Nat.le_refl 0
  | link :: more, hall, h => by
    obtain ⟨hlink, hmore⟩ := List.forall_mem_cons.mp hall
    obtain ⟨hforward, hrest⟩ := Bool.and_eq_true_iff.mp h
    have hplace := nesting_le_encloseNesting 4 link.2.level link.2.nesting
    exact max_le_max (Nat.le_trans (hlink hforward) hplace) (linkHeight_le_nesting hmore hrest)

/-- The height is counted where no operator of a sum or product stands behind anything but a row. -/
theorem height_le_nesting (h : tree.isForward = true) : tree.height ≤ tree.nesting := by
  induction tree using Tree.induction with
  | int _ | float _ | bool _ | var _ => exact Nat.zero_le _
  | sign op operand ih | not operand ih =>
    exact Nat.succ_le_succ (Nat.le_trans (ih h) (nesting_le_encloseNesting ..))
  | binary op left right ihleft ihright =>
    obtain ⟨hfront, hbehind⟩ := Bool.and_eq_true_iff.mp h
    have hright := Nat.le_trans (ihright hbehind)
      (nesting_le_encloseNesting op.rightLevel right.level right.nesting)
    rw [Tree.height, Tree.nesting]
    rcases op.links_or_pow with rfl | ⟨kind, hop⟩
    · have hleft := ihleft hfront
      -- a base with any height stands in parentheses, which are counted
      have hbase : left.height + 1 ≤ encloseNesting 8 left.level left.nesting ∨
          left.height = 0 := by
        by_cases hlevel : left.level < 8
        · exact .inl (by rw [encloseNesting, if_pos hlevel]; omega)
        · exact .inr (height_of_eight_le (Nat.not_lt.mp hlevel))
      simp only [BinaryOp.leftLevel] at *
      omega
    · have hne : op ≠ .pow := by
        rintro rfl
        cases kind <;> exact absurd hop.level (by decide)
      rw [if_neg hne] at hfront
      have hlinks := height_of_isRow hfront
      rw [hop.leftLevel, ← hop.level]
      omega
  | logical op operands ih =>
    cases operands with
    | nil => exact Nat.le_refl 0
    | cons first more =>
      exact operandHeight_le_nesting op ih h
  | compare first links ihfirst ihlinks =>
    obtain ⟨hfirst, hlinks⟩ := Bool.and_eq_true_iff.mp h
    exact max_le_max (Nat.le_trans (ihfirst hfirst) (nesting_le_encloseNesting ..))
      (linkHeight_le_nesting ihlinks hlinks)

end Forward

/-- **When the cap on the nesting bounds the height**: if only rows stand in front of the operators
of sums and products, and for texts that open few levels. With more levels than that, there are
texts that it does not hold for. -/
theorem height_le_maxNesting_iff (levels : Nat) :
    (∀ t tree, parse t = .ok tree →
      ReadsWithin levels t tree ∨ (tree.isForward = true ∧ tree.nesting ≤ maxNesting) →
      tree.height ≤ maxNesting) ↔
    levels * (levels + 2) ≤ maxNesting := by
  constructor
  · intro hall
    have hroom : min levels maxNesting ≤ maxNesting := Nat.min_le_right ..
    have hnesting := nesting_tower_le (min levels maxNesting)
    have hwithin := readsWithin_text (isGrammatical_tower (min levels maxNesting))
      (Nat.le_trans hnesting (Nat.min_le_left ..)) (Nat.le_trans hnesting hroom)
    have hheight := hall _ _ (parse_tower hroom) (.inl hwithin)
    rw [height_tower] at hheight
    rcases Nat.le_total levels maxNesting with hle | hle
    · rwa [Nat.min_eq_left hle] at hheight
    · rw [Nat.min_eq_right hle] at hheight
      exact absurd hheight (by decide)
  · intro hlevels t tree _ hcase
    rcases hcase with hwithin | ⟨hforward, hnesting⟩
    · have hle : levels ≤ maxNesting :=
        Nat.le_trans (Nat.le_mul_of_pos_right levels (by omega)) hlevels
      exact Nat.le_trans (height_le_of_readsWithin hle hwithin) hlevels
    · exact Nat.le_trans (height_le_nesting hforward) hnesting

/-- The least product, with a sum on top of it that is as long as the nesting allows:
`1 * 1 + 1 + … + 1`. -/
def longSum : Tree := (Tree.binary .mul (.int 1) (.int 1)).linked .add maxNesting

/-- The sum as it is written. -/
theorem text_longSum : longSum.text
    = "1 * 1".toList ++ (List.replicate 200 [' ', '+', ' ', '1']).flatten := by
  have hsum : BinaryOp.add.Links .sum := ⟨rfl, rfl, rfl, rfl, rfl⟩
  have htokens : longSum.tokens = Token.int 1 ::
      ([.star, .int 1] ++ (List.replicate 200 [.plus, .int 1]).flatten) :=
    tokens_linked _ hsum (by decide) maxNesting
  have hlinks (links : Nat) : spacedText (List.replicate links [.plus, .int 1]).flatten
      = (List.replicate links [' ', '+', ' ', '1']).flatten := by
    induction links with
    | zero => rfl
    | succ links ih =>
      rw [List.replicate_succ, List.flatten_cons, List.replicate_succ, List.flatten_cons, ← ih]
      rfl
  have hproduct (more : List Token) : (Token.int 1).spelling ++ spacedText ([.star, .int 1] ++ more)
      = "1 * 1".toList ++ spacedText more := rfl
  rw [Tree.text, htokens, joinWith_cons, hproduct, hlinks]

/-- It is read, although it is higher than the nesting may be. -/
theorem maxNesting_lt_height_longSum :
    parse ("1 * 1".toList ++ (List.replicate 200 [' ', '+', ' ', '1']).flatten) = .ok longSum ∧
    longSum.height = 201 ∧
    ¬ ∀ t tree, parse t = .ok tree → tree.height ≤ maxNesting := by
  have hsum : BinaryOp.add.Links .sum := ⟨rfl, rfl, rfl, rfl, rfl⟩
  have hgrammatical : longSum.isGrammatical false = true := by
    rw [longSum, isGrammatical_linked]
    decide
  have hnesting : longSum.nesting ≤ maxNesting := by
    rw [longSum, nesting_linked _ hsum (by decide)]
    decide
  have hheight : longSum.height = 201 := height_linked _ _ _
  have hparse := (parse_text_of_isGrammatical hgrammatical).trans (if_pos hnesting)
  rw [text_longSum] at hparse
  refine ⟨hparse, hheight, fun hall => ?_⟩
  have hle := hall _ longSum hparse
  rw [hheight] at hle
  exact absurd hle (by decide)

end DialogueScript.Expr
