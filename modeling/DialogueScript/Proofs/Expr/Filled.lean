import DialogueScript.Proofs.Expr.Instance
import DialogueScript.Proofs.Expr.Soundness

/-!
# Reading tokens with values in place of variables

When literals take the place of the variables among tokens that are read as a tree, the tokens are
read as one that stands for its instance (`filled_of_derives`, by induction on the derivation). A
negative integer brings a sign along. The sign is read on its own level, in front of the power that
the integer may be the base of; on the tighter levels the tokens behind the sign are read.

The values open at most one level more than their places have, except that each base of a power may
open one; but then the tree is of no kind (`Shallow`).
-/

namespace DialogueScript.Expr

/-! ## Filling -/

/-- What a token becomes when values take the places of variables. -/
def Token.fill (env : Environment) : Token → List Token
  | .var name => ((env.get? name).map Value.tokens).getD [.var name]
  | token => [token]

/-- The tokens with the values of variables in their places. -/
def fill (env : Environment) (ts : List Lexeme) : List Token :=
  ts.flatMap fun lexeme => lexeme.token.fill env

/-- Every variable among the tokens has a literal as its value. -/
def Fills (env : Environment) (ts : List Lexeme) : Prop :=
  ∀ lexeme ∈ ts, ∀ name, lexeme.token = .var name →
    ∃ value, env.get? name = some value ∧ value.isLiteral = true

section Fill

variable {env : Environment} {lexeme : Lexeme} {ts rest : List Lexeme}

theorem fill_append : fill env (ts ++ rest) = fill env ts ++ fill env rest :=
  List.flatMap_append

theorem fill_cons : fill env (lexeme :: ts) = lexeme.token.fill env ++ fill env ts :=
  List.flatMap_cons

/-- A token that is no variable stays as it is between others. -/
theorem fill_link {front back : List Lexeme} (hlexeme : lexeme.token.fill env = [lexeme.token]) :
    fill env (front ++ lexeme :: back) = fill env front ++ lexeme.token :: fill env back := by
  rw [fill_append, fill_cons, hlexeme]
  rfl

theorem fill_sign (op : Sign) : op.token.fill env = [op.token] := by cases op <;> rfl

theorem fill_binaryOp (op : BinaryOp) : op.token.fill env = [op.token] := by cases op <;> rfl

theorem fill_boolOp (op : BoolOp) : op.token.fill env = [op.token] := by cases op <;> rfl

theorem fill_compareOp (op : CompareOp) : op.token.fill env = [op.token] := by cases op <;> rfl

theorem Fills.tail (h : Fills env (lexeme :: ts)) : Fills env ts :=
  fun other hother => h other (List.mem_cons_of_mem _ hother)

/-- What fills all tokens fills those at the end. -/
theorem Fills.behind (h : Fills env (ts ++ rest)) : Fills env rest :=
  fun other hother => h other (List.mem_append_right _ hother)

end Fill

/-! ## Levels that are open -/

/-- A logical chain conforms only if all operands do. -/
theorem conforms_chain_concat {op : BoolOp} {first other : Tree} {operands : List Tree}
    {kind : Kind} (h : (chain op first (operands ++ [other])).conforms kind = true) :
    (chain op first operands).conforms .boolean = true ∧ other.conforms .boolean = true := by
  have hall : allConform .boolean (first :: (operands ++ [other])) = true := by
    cases operands <;> exact (Bool.and_eq_true_iff.mp h).2
  rw [allConform_iff, List.forall_mem_cons, List.forall_mem_append,
    List.forall_mem_singleton] at hall
  obtain ⟨hfirst, hoperands, hother⟩ := hall
  refine ⟨?_, hother⟩
  cases operands with
  | nil => exact hfirst
  | cons second operands =>
    exact allConform_iff.mpr (List.forall_mem_cons.mpr ⟨hfirst, hoperands⟩)

/-- A chain of comparisons conforms only if all operands are numeric. -/
theorem conforms_compareChain_concat {op : CompareOp} {first other : Tree}
    {links : List (CompareOp × Tree)} {kind : Kind}
    (h : (compareChain first (links ++ [(op, other)])).conforms kind = true) :
    (∃ kind, (compareChain first links).conforms kind = true) ∧ other.conforms .numeric = true := by
  have hall : first.conforms .numeric = true ∧
      allLinksConform (links ++ [(op, other)]) = true := by
    cases links <;> exact ⟨(Bool.and_eq_true_iff.mp (Bool.and_eq_true_iff.mp h).1).2,
      (Bool.and_eq_true_iff.mp h).2⟩
  rw [allLinksConform_iff, List.forall_mem_append, List.forall_mem_singleton] at hall
  obtain ⟨hfirst, hlinks, hother⟩ := hall
  refine ⟨?_, hother⟩
  cases links with
  | nil => exact ⟨.numeric, hfirst⟩
  | cons link links =>
    exact ⟨.boolean, Bool.and_eq_true_iff.mpr ⟨hfirst, allLinksConform_iff.mpr hlinks⟩⟩

/-- A tree of some kind, read so deep, leaves all but one of the levels of nesting. -/
def Shallow (depth levels : Nat) (tree : Tree) : Prop :=
  ∀ kind, tree.conforms kind = true → depth + levels ≤ maxNesting + 1

namespace Shallow

variable {depth levels more : Nat} {tree left right first other : Tree}

/-- Parentheses take one of the levels that are left. -/
theorem parens (h : Shallow (depth + 1) levels tree) : Shallow depth (levels + 1) tree :=
  fun kind hkind => by
    have hlevels := h kind hkind
    omega

theorem sign (h : Shallow (depth + 1) levels tree) (op : Sign) :
    Shallow depth (levels + 1) (.sign op tree) := fun kind hkind => by
  have hlevels := h .numeric (Bool.and_eq_true_iff.mp hkind).2
  omega

theorem not (h : Shallow (depth + 1) levels tree) : Shallow depth (levels + 1) (.not tree) :=
  fun kind hkind => by
    have hlevels := h .boolean (Bool.and_eq_true_iff.mp hkind).2
    omega

/-- A link takes one level more than the links in front of it. -/
theorem binary {links : Nat} (hleft : Shallow depth levels left)
    (hright : Shallow (depth + links + 1) more right) (op : BinaryOp) :
    Shallow depth (max levels (links + 1 + more)) (.binary op left right) := fun kind hkind => by
  obtain ⟨-, hleftKind, hrightKind⟩ := (conforms_binary op left right kind).mp hkind
  have hlevels := hleft kind hleftKind
  have hmore := hright kind hrightKind
  omega

/-- An operand more takes no level of its own. -/
theorem next {op : BoolOp} {operands : List Tree}
    (h : Shallow depth levels (chain op first operands)) (hother : Shallow depth more other) :
    Shallow depth (max levels more) (chain op first (operands ++ [other])) := fun kind hkind => by
  obtain ⟨hfront, hlast⟩ := conforms_chain_concat hkind
  have hlevels := h .boolean hfront
  have hmore := hother .boolean hlast
  omega

/-- A comparison more takes no level of its own either. -/
theorem link {op : CompareOp} {links : List (CompareOp × Tree)}
    (h : Shallow depth levels (compareChain first links)) (hother : Shallow depth more other) :
    Shallow depth (max levels more) (compareChain first (links ++ [(op, other)])) :=
  fun kind hkind => by
    obtain ⟨⟨front, hfront⟩, hlast⟩ := conforms_compareChain_concat hkind
    have hlevels := h front hfront
    have hmore := hother .numeric hlast
    omega

end Shallow

/-! ## Parts of expressions -/

section Part

variable {env : Environment} {level depth : Nat} {tokens : List Token} {whole : Tree}

/-- The tokens are read on a level as a tree that stands for an instance. On the levels tighter than
signs a sign may be in front of the tokens that are read, and what is behind the sign is an integer
if it may be the base of a power. -/
inductive TreeFilled (env : Environment) (level depth : Nat) (tokens : List Token) (whole : Tree) :
    Prop
  | plain {levels tree} (reads : ReadsAs level tokens levels tree) (stands : Stands env tree whole)
      (shallow : Shallow depth levels tree)
  | signed {behind levels base} (hlevel : 6 < level) (htokens : tokens = .minus :: behind)
      (reads : ReadsAs level behind levels base) (stands : Stands env (.sign .minus base) whole)
      (shallow : Shallow depth (levels + 1) (.sign .minus base))
      (integer : 7 < level → ∃ magnitude value,
        base = .int magnitude ∧ whole.instantiate env = .int value)

/-- What is filled in a place may stand in the next looser one, where a sign needs no parentheses
any more. -/
theorem TreeFilled.looser (h : TreeFilled env (level + 1) depth tokens whole) :
    TreeFilled env level depth tokens whole := by
  cases h with
  | plain reads stands shallow => exact .plain reads.climb stands shallow
  | signed hlevel htokens reads stands shallow integer =>
    by_cases htight : 6 < level
    · exact .signed htight htokens reads.climb stands shallow fun hatom => integer (by omega)
    · -- on the level of signs the sign is read
      obtain rfl : level = 6 := by omega
      subst htokens
      exact .plain (reads.climb.sign .minus) stands shallow

/-- On the level of signs and looser ones all tokens are read. -/
theorem TreeFilled.exists_readsAs (h : TreeFilled env level depth tokens whole)
    (hlevel : level ≤ 6) :
    ∃ levels tree, ReadsAs level tokens levels tree ∧ Stands env tree whole ∧
      Shallow depth levels tree := by
  cases h with
  | plain reads stands shallow => exact ⟨_, _, reads, stands, shallow⟩
  | signed htight => omega

/-- The tokens are read as a part of an expression whose trees stand for instances. -/
def Part.Filled (env : Environment) (depth : Nat) (tokens : List Token) : Part → Prop
  | .tree level whole => TreeFilled env level depth tokens whole
  | .chain kind count whole => ∃ levels tree, ContinuesAs kind tokens levels count tree ∧
      Stands env tree whole ∧ Shallow depth levels tree
  | .operands op wholes => ∃ levels first operands, OperandsAs op tokens levels first operands ∧
      List.Forall₂ (Stands env) (first :: operands) wholes ∧
      Shallow depth levels (Expr.chain op first operands)
  | .links whole wholes => ∃ levels first links, LinksAs tokens levels first links ∧
      Stands env first whole ∧ List.Forall₂ (LinkStands env) links wholes ∧
      Shallow depth levels (compareChain first links)

/-! ### Rules -/

/-- A token that is an operand and stays as it is. -/
theorem filled_token {token : Token} {leaf : Tree} (hleaf : leaf? token = some leaf)
    (hinstance : whole.instantiate env = leaf) (hclosed : leaf.variables = [])
    (hdepth : depth ≤ maxNesting) : TreeFilled env 8 depth [token] whole :=
  .plain (.leaf hleaf) ⟨hinstance ▸ .refl leaf, hclosed⟩ fun _ _ => by omega

/-- A bound variable stands for the tree of its value. -/
theorem instantiate_var {name : Text} {value : Value} (hvalue : env.get? name = some value)
    {tree : Tree} (htree : value.tree? = some tree) : (Tree.var name).instantiate env = tree := by
  rw [Tree.instantiate, hvalue, Option.bind_some, htree, Option.getD_some]

/-- An operand of one token is read as one again, or as an integer behind a sign. -/
theorem filled_leaf {lexeme : Lexeme} {leaf : Tree} (hleaf : leaf? lexeme.token = some leaf)
    (hfills : Fills env [lexeme]) (hdepth : depth ≤ maxNesting) :
    TreeFilled env 8 depth (fill env [lexeme]) leaf := by
  rw [fill, List.flatMap_singleton]
  have hvar := hfills lexeme (List.mem_singleton_self lexeme)
  cases htoken : lexeme.token with
  | int value | float value | bool value =>
    rw [htoken] at hleaf
    obtain rfl := Option.some.inj hleaf
    exact filled_token rfl rfl rfl hdepth
  | var name =>
    rw [htoken] at hleaf
    obtain rfl := Option.some.inj hleaf
    obtain ⟨value, hvalue, hliteral⟩ := hvar name htoken
    rw [Token.fill, hvalue, Option.map_some, Option.getD_some]
    cases value with
    | bool b => exact filled_token rfl (instantiate_var hvalue rfl) rfl hdepth
    | number n =>
      cases n with
      | float x => cases hliteral
      | int i =>
        have hinstance := instantiate_var hvalue (show Value.tree? (.number (.int i)) = _ from rfl)
        rw [Value.tokens]
        split
        next => exact filled_token rfl hinstance rfl hdepth
        next =>
          -- a negative integer is read as a sign in front of its magnitude
          refine .signed (by omega) rfl (.leaf rfl) ⟨?_, rfl⟩ (fun _ _ => by omega)
            fun _ => ⟨-i, i, rfl, hinstance⟩
          rw [hinstance]
          exact .negative (bne_iff_ne.mp hliteral)
    | text t => cases hliteral
  | _ => simp [htoken, leaf?] at hleaf

/-- A power of filled parts is filled. If its base is filled with a negative integer, the minus is
read in front of the whole power. -/
theorem filled_power {base exponent : Tree} {back : List Token}
    (hleft : TreeFilled env 8 depth tokens base)
    (hright : TreeFilled env 6 (depth + 1) back exponent) :
    TreeFilled env 7 depth (tokens ++ .starStar :: back) (.binary .pow base exponent) := by
  obtain ⟨more, right, hreads, hstands, hshallow⟩ := hright.exists_readsAs (Nat.le_refl 6)
  cases hleft with
  | @plain levels left reads stands shallow =>
    have hpower := @Shallow.binary depth levels more left right 0 shallow hshallow .pow
    rw [Nat.zero_add, Nat.add_comm 1] at hpower
    exact .plain (reads.power hreads) (stands.binary hstands .pow) hpower
  | @signed behind levels left hlevel htokens reads stands shallow integer =>
    obtain ⟨magnitude, value, rfl, hvalue⟩ := integer (by omega)
    subst htokens
    refine .signed (by omega) rfl (reads.power hreads) ⟨?_, ?_⟩ ?_ (by omega)
    · rw [Tree.instantiate, hvalue]
      exact .negativePower .minus magnitude value right _
    · exact hstands.closed
    · -- a power of an integer is of no kind
      intro kind hkind
      cases kind <;> cases hkind

end Part

/-! ## All expressions -/

/-- Tokens that are read as a part are read as one that stands for its instance when literals take
the places of variables. -/
theorem filled_of_derives {env : Environment} {part : Part} {depth : Nat} {ts rest : List Lexeme}
    (h : Derives part depth ts rest) (hfills : Fills env ts) (hdepth : depth ≤ maxNesting) :
    ∃ front, ts = front ++ rest ∧ part.Filled env depth (fill env front) := by
  -- the rules by which tokens were read are the rules by which the filled ones are read
  induction h with
  | @leaf depth lexeme leaf rest hleaf =>
    refine ⟨[lexeme], rfl, filled_leaf hleaf (fun other hother => hfills other ?_) hdepth⟩
    exact List.mem_singleton.mp hother ▸ List.mem_cons_self ..
  | @parens depth opening closing tree ts rest hopening hclosing hdeeper _ ih =>
    obtain ⟨front, rfl, hfilled⟩ := ih hfills.tail hdeeper
    obtain ⟨levels, filled, hreads, hstands, hshallow⟩ := hfilled.exists_readsAs (by omega)
    -- the parentheses have nothing to fill
    refine ⟨opening :: front ++ [closing], by simp, ?_⟩
    have htokens : fill env (opening :: front ++ [closing])
        = .openParen :: fill env front ++ [.closeParen] := by
      simp [fill, hopening, hclosing, Token.fill]
    rw [htokens]
    exact .plain hreads.parens hstands hshallow.parens
  | looser _ ih =>
    obtain ⟨front, hfront, hfilled⟩ := ih hfills hdepth
    exact ⟨front, hfront, hfilled.looser⟩
  | @power depth lexeme base exponent ts middle rest htoken hdeeper _ _ ihleft ihright =>
    obtain ⟨front, rfl, hleft⟩ := ihleft hfills hdepth
    obtain ⟨back, rfl, hright⟩ := ihright hfills.behind.tail hdeeper
    refine ⟨front ++ lexeme :: back, by simp, ?_⟩
    rw [fill_link (by rw [htoken]; rfl), htoken]
    exact filled_power hleft hright
  | @sign depth lexeme op operand ts rest hop hdeeper _ ih =>
    obtain ⟨front, rfl, hfilled⟩ := ih hfills.tail hdeeper
    obtain ⟨levels, filled, hreads, hstands, hshallow⟩ := hfilled.exists_readsAs (by omega)
    refine ⟨lexeme :: front, rfl, ?_⟩
    rw [fill_cons, token_of_sign? hop, fill_sign]
    exact .plain (hreads.sign op) (hstands.sign op) (hshallow.sign op)
  | @not depth lexeme operand ts rest htoken hdeeper _ ih =>
    obtain ⟨front, rfl, hfilled⟩ := ih hfills.tail hdeeper
    obtain ⟨levels, filled, hreads, hstands, hshallow⟩ := hfilled.exists_readsAs (by omega)
    refine ⟨lexeme :: front, rfl, ?_⟩
    rw [fill_cons, htoken]
    exact .plain hreads.not hstands.not hshallow.not
  | @chainFirst chain depth first ts rest _ ih =>
    obtain ⟨front, hfront, hfilled⟩ := ih hfills hdepth
    -- operands of chains stand on levels where all tokens are read
    obtain ⟨levels, filled, hreads, hstands, hshallow⟩ :=
      hfilled.exists_readsAs (by cases chain <;> decide)
    exact ⟨front, hfront, levels, filled, hreads.continues, hstands, hshallow⟩
  | @chainNext chain links depth lexeme op left right ts middle rest hop hdeeper _ _ ihleft
      ihright =>
    obtain ⟨hlinks, htoken⟩ := links_of_op? hop
    obtain ⟨front, rfl, levels, filled, hreads, hstands, hshallow⟩ := ihleft hfills hdepth
    obtain ⟨back, rfl, hright⟩ := ihright hfills.behind.tail hdeeper
    obtain ⟨more, other, hreadsOther, hstandsOther, hshallowOther⟩ :=
      hright.exists_readsAs (by cases chain <;> decide)
    refine ⟨front ++ lexeme :: back, by simp, ?_⟩
    rw [fill_link (by rw [htoken, fill_binaryOp]), htoken]
    exact ⟨_, _, hreads.link hlinks hreadsOther, hstands.binary hstandsOther op,
      hshallow.binary hshallowOther op⟩
  | chain _ ih =>
    obtain ⟨front, hfront, levels, filled, hreads, hstands, hshallow⟩ := ih hfills hdepth
    exact ⟨front, hfront, .plain hreads.reads hstands hshallow⟩
  | @operandsFirst op depth first ts rest _ ih =>
    obtain ⟨front, hfront, hfilled⟩ := ih hfills hdepth
    obtain ⟨levels, filled, hreads, hstands, hshallow⟩ :=
      hfilled.exists_readsAs (by cases op <;> decide)
    exact ⟨front, hfront, levels, filled, [], hreads.operands, .cons hstands .nil, hshallow⟩
  | @operandsNext op depth lexeme operands next ts middle rest htoken _ _ ihfront ih =>
    obtain ⟨front, rfl, levels, first, done, hreads, hstands, hshallow⟩ := ihfront hfills hdepth
    obtain ⟨back, rfl, hnext⟩ := ih hfills.behind.tail hdepth
    obtain ⟨more, other, hreadsOther, hstandsOther, hshallowOther⟩ :=
      hnext.exists_readsAs (by cases op <;> decide)
    refine ⟨front ++ lexeme :: back, by simp, ?_⟩
    rw [fill_link (by rw [htoken, fill_boolOp]), htoken]
    -- the operand behind the operator joins the chain
    exact ⟨_, first, done ++ [other], hreads.next hreadsOther,
      List.rel_append hstands (.cons hstandsOther .nil), hshallow.next hshallowOther⟩
  | @logical op depth first more ts rest _ ih =>
    obtain ⟨front, hfront, levels, filled, done, hreads, hstands, hshallow⟩ := ih hfills hdepth
    obtain ⟨hfirst, hdone⟩ := List.forall₂_cons.mp hstands
    exact ⟨front, hfront, .plain hreads.reads (hfirst.chain hdone op) hshallow⟩
  | linksFirst _ ih =>
    obtain ⟨front, hfront, hfilled⟩ := ih hfills hdepth
    obtain ⟨levels, filled, hreads, hstands, hshallow⟩ := hfilled.exists_readsAs (by omega)
    exact ⟨front, hfront, levels, filled, [], hreads.links, hstands, .nil, hshallow⟩
  | @linksNext depth lexeme op first links next ts middle rest hop _ _ ihfront ih =>
    have htoken := token_of_compareOp? hop
    obtain ⟨front, rfl, levels, filled, done, hreads, hstands, hlinks, hshallow⟩ :=
      ihfront hfills hdepth
    obtain ⟨back, rfl, hnext⟩ := ih hfills.behind.tail hdepth
    obtain ⟨more, other, hreadsOther, hstandsOther, hshallowOther⟩ :=
      hnext.exists_readsAs (by omega)
    refine ⟨front ++ lexeme :: back, by simp, ?_⟩
    rw [fill_link (by rw [htoken, fill_compareOp]), htoken]
    exact ⟨_, filled, done ++ [(op, other)], hreads.next op hreadsOther, hstands,
      List.rel_append hlinks (.cons ⟨rfl, hstandsOther⟩ .nil), hshallow.link hshallowOther⟩
  | compare _ ih =>
    obtain ⟨front, hfront, levels, filled, done, hreads, hstands, hlinks, hshallow⟩ :=
      ih hfills hdepth
    exact ⟨front, hfront, .plain hreads.reads (hstands.compareChain hlinks) hshallow⟩

end DialogueScript.Expr
