import DialogueScript.Proofs.Expr.Counters

/-!
# The counters read what the grammar reads

A reader with counters, its calls being enough, gives the result of the functions of the grammar. It
ends at the tokens that they leave, with as many levels of nesting open as at its beginning; and on
its way the counters keep within their bounds (`Agrees`, `serves_read`).

This is an induction on the calls. One rule does what is expected if the reader of its parts does
(`Serves.step`), with a lemma for each rule; a level that is opened in front of a part and closed
behind it is the same for all of them (`Serves.nested`).
-/

namespace DialogueScript.Expr

/-! ## What is read with the counters -/

/-- A run does what is expected. It has the tree, and the place where the tokens behind it stand,
with so many levels open; or it has the fault. The counters are within their bounds on the way: in
front of the end and of the cap, or at most one step behind, at which there is a fault. -/
def Agrees (tokens : List Lexeme) (depth : Nat) (run : Run Tree) :
    Except Fault (Tree × List Lexeme) → Prop
  | .ok (tree, rest) =>
    run.result = .ok tree ∧ tokens.drop run.last.place = rest ∧ run.last.place < tokens.length ∧
      run.last.depth = depth ∧
      ∀ counters ∈ run.trace, counters.place < tokens.length ∧ counters.depth ≤ maxNesting
  | .error fault =>
    run.result = .error (.fault fault) ∧
      ∀ counters ∈ run.trace, counters.place ≤ tokens.length ∧ counters.depth ≤ maxNesting + 1

section Agree

variable {tokens : List Lexeme} {depth : Nat} {expected : Except Fault (Tree × List Lexeme)}

/-- A tree that is returned where the reader stands agrees with what is left there. -/
theorem agrees_pure (counters : Counters) (hplace : counters.place < tokens.length) (tree : Tree) :
    Agrees tokens counters.depth ((pure tree : Counting Tree).run counters)
      (.ok (tree, tokens.drop counters.place)) :=
  ⟨rfl, rfl, hplace, rfl, fun _ hmem => absurd hmem List.not_mem_nil⟩

/-- A fault agrees if the counters have stayed within their bounds on the way to it. -/
theorem agrees_fault {run : Run Tree} {fault : Fault} (hresult : run.result = .error (.fault fault))
    (htrace : ∀ counters ∈ run.trace,
      counters.place ≤ tokens.length ∧ counters.depth ≤ maxNesting + 1) :
    Agrees tokens depth run (.error fault) := ⟨hresult, htrace⟩

/-- Values within the bounds may come first. -/
theorem Agrees.after {run : Run Tree} (h : Agrees tokens depth run expected)
    {trace : List Counters} (htrace : ∀ counters ∈ trace,
      counters.place < tokens.length ∧ counters.depth ≤ maxNesting) :
    Agrees tokens depth (run.after trace) expected := by
  match expected, h with
  | .ok (tree, rest), ⟨hresult, hrest, hplace, hdepth, hwithin⟩ =>
    exact ⟨hresult, hrest, hplace, hdepth, List.forall_mem_append.mpr ⟨htrace, hwithin⟩⟩
  | .error fault, ⟨hresult, hwithin⟩ =>
    exact ⟨hresult, List.forall_mem_append.mpr ⟨fun counters hmem =>
      ⟨Nat.le_of_lt (htrace counters hmem).1, Nat.le_succ_of_le (htrace counters hmem).2⟩,
      hwithin⟩⟩

/-- One step within the bounds may stand in front. -/
theorem Agrees.after_one {run : Run Tree} (h : Agrees tokens depth run expected)
    {counters : Counters} (hplace : counters.place < tokens.length)
    (hdepth : counters.depth ≤ maxNesting) : Agrees tokens depth (run.after [counters]) expected :=
  h.after (List.forall_mem_singleton.mpr ⟨hplace, hdepth⟩)

/-- One part is read after the other. -/
theorem Agrees.bind {first : Counting Tree} {next : Tree → Counting Tree} {counters : Counters}
    {after : Tree × List Lexeme → Except Fault (Tree × List Lexeme)} {between : Nat}
    (h : Agrees tokens between (first.run counters) expected)
    (hnext : ∀ tree last, expected = .ok (tree, tokens.drop last.place) →
      last.place < tokens.length → last.depth = between →
      Agrees tokens depth ((next tree).run last) (after (tree, tokens.drop last.place))) :
    Agrees tokens depth ((first >>= next).run counters) (expected >>= after) := by
  rw [Counting.run_bind]
  generalize first.run counters = run at h
  obtain ⟨trace, last, result⟩ := run
  match expected, h with
  | .ok (tree, rest), ⟨hresult, hrest, hplace, hdepth, hwithin⟩ =>
    obtain rfl : result = .ok tree := hresult
    obtain rfl : tokens.drop last.place = rest := hrest
    exact (hnext tree last rfl hplace hdepth).after hwithin
  | .error fault, ⟨hresult, hwithin⟩ =>
    obtain rfl : result = .error (.fault fault) := hresult
    exact ⟨rfl, hwithin⟩

end Agree

/-! ## Reading by the rules -/

/-- So many calls at most stand inside each other when a rule is read: no more rules than the rank
says follow each other in front of a token, and each token that is left allows for sixteen. -/
def cost (tokens : List Lexeme) (rule : Rule) (counters : Counters) : Nat :=
  16 * (tokens.length - counters.place) + rule.rank

/-- A reader does what is expected by all rules that cost less than its calls. -/
def Serves (tokens : List Lexeme) (calls : Nat) (read : Rule → Counting Tree) : Prop :=
  ∀ rule counters, counters.place < tokens.length → counters.depth ≤ maxNesting →
    rule.opened ≤ counters.depth → cost tokens rule counters < calls →
    Agrees tokens (counters.depth - rule.opened) ((read rule).run counters)
      (rule.expected counters.depth (tokens.drop counters.place))

section Cost

variable {tokens : List Lexeme} {calls : Nat} {rule other : Rule} {counters last : Counters}
  (hcost : cost tokens other counters ≤ calls)

include hcost

/-- A call that moves nothing is of a lower rank. -/
theorem cost_lt_of_rank_lt (h : rule.rank < other.rank) : cost tokens rule counters < calls :=
  Nat.lt_of_lt_of_le (Nat.add_lt_add_left h _) hcost

/-- Any rule costs less behind another token. -/
theorem cost_lt_of_place_lt (h : counters.place < last.place) (hlast : last.place < tokens.length) :
    cost tokens rule last < calls := by
  have hrank := rule.rank_le
  unfold cost at hcost ⊢
  omega

omit hcost

/-- What is read takes at least one token. -/
theorem place_lt_of_readAt {level depth : Nat} {tree : Tree}
    (h : readAt level depth (tokens.drop counters.place) = .ok (tree, tokens.drop last.place)) :
    counters.place < last.place := by
  have hlength := length_of_readAt h
  rw [List.length_drop, List.length_drop] at hlength
  omega

end Cost

section Step

variable {tokens : List Lexeme} {calls : Nat} {read : Rule → Counting Tree} {counters : Counters}

/-- A reader that serves the rules serves the levels of the grammar. -/
theorem Serves.level (h : Serves tokens calls read) (level : Nat) (counters : Counters)
    (hplace : counters.place < tokens.length) (hdepth : counters.depth ≤ maxNesting)
    (hcost : cost tokens (.ofLevel level) counters < calls) :
    Agrees tokens counters.depth ((read (.ofLevel level)).run counters)
      (readAt level counters.depth (tokens.drop counters.place)) := by
  have hopened := Rule.opened_ofLevel level
  have hagrees := h (.ofLevel level) counters hplace hdepth (by omega) hcost
  rwa [hopened, Rule.expected_ofLevel] at hagrees

/-- A level of nesting is opened, if one is left. -/
theorem agrees_enter {depth : Nat} {body : Counting Tree}
    {after : Nat → Except Fault (Tree × List Lexeme)} (hplace : counters.place < tokens.length)
    (hdepth : counters.depth ≤ maxNesting)
    (h : counters.depth < maxNesting →
      Agrees tokens depth (body.run counters.deeper) (after (counters.depth + 1))) :
    Agrees tokens depth ((do Counting.enter (some maxNesting); body).run counters)
      (descend counters.depth >>= after) := by
  unfold descend
  rcases Nat.lt_or_ge counters.depth maxNesting with hroom | hfull
  · rw [Counting.bind_run (Counting.enter_run_of_lt hroom), if_pos hroom]
    exact (h hroom).after_one hplace hroom
  · rw [Counting.bind_stop (Counting.enter_run_of_le hfull), if_neg (Nat.not_lt.mpr hfull)]
    refine agrees_fault rfl fun last hmem => ?_
    obtain rfl := List.mem_singleton.mp hmem
    exact ⟨Nat.le_of_lt hplace, Nat.succ_le_succ hdepth⟩

/-- Levels of nesting are closed. -/
theorem agrees_leave {depth levels : Nat} {body : Counting Tree}
    {expected : Except Fault (Tree × List Lexeme)} (hplace : counters.place < tokens.length)
    (hlevels : levels ≤ counters.depth) (hdepth : counters.depth - levels ≤ maxNesting)
    (h : Agrees tokens depth (body.run (counters.higher levels)) expected) :
    Agrees tokens depth ((do Counting.leave levels; body).run counters) expected := by
  rw [Counting.bind_run (Counting.leave_run hlevels)]
  exact h.after_one hplace hdepth

/-- A level of nesting is opened, what is inside is read, and the level is closed again. -/
theorem Serves.nested (h : Serves tokens calls read) (level : Nat) {depth : Nat}
    {next : Tree → Counting Tree}
    {after : Tree × List Lexeme → Except Fault (Tree × List Lexeme)}
    (hplace : counters.place < tokens.length) (hdepth : counters.depth ≤ maxNesting)
    (hcost : cost tokens (.ofLevel level) counters < calls)
    (hnext : ∀ tree last, counters.place < last.place → last.place < tokens.length →
      last.depth = counters.depth →
      Agrees tokens depth ((next tree).run last) (after (tree, tokens.drop last.place))) :
    Agrees tokens depth
      ((do
        Counting.enter (some maxNesting)
        let tree ← read (.ofLevel level)
        Counting.leave 1
        next tree).run counters)
      (do
        let deeper ← descend counters.depth
        let parsed ← readAt level deeper (tokens.drop counters.place)
        after parsed) := by
  refine agrees_enter hplace hdepth fun hroom =>
    (h.level level counters.deeper hplace hroom hcost).bind
      fun tree last hread hlast hbetween => ?_
  have hopen : 1 ≤ last.depth := hbetween ▸ Nat.le_add_left 1 _
  have hclosed : last.depth - 1 = counters.depth := by
    rw [hbetween]
    rfl
  exact agrees_leave hlast hopen (hclosed ▸ hdepth)
    (hnext tree (last.higher 1) (place_lt_of_readAt hread) hlast hclosed)

/-- A rule goes on behind what was read. -/
theorem Serves.continues (h : Serves tokens calls read) (rule : Rule) {other : Rule}
    {last : Counters} (hmoved : counters.place < last.place) (hlast : last.place < tokens.length)
    (hdepth : last.depth ≤ maxNesting) (hopened : rule.opened ≤ last.depth)
    (hcost : cost tokens other counters ≤ calls) :
    Agrees tokens (last.depth - rule.opened) ((read rule).run last)
      (rule.expected last.depth (tokens.drop last.place)) :=
  h rule last hlast hdepth hopened (cost_lt_of_place_lt hcost hmoved hlast)

/-- An operand is read, and a rule that has no level to close goes on behind it. -/
theorem Serves.operand (h : Serves tokens calls read) (level : Nat) (next : Tree → Rule)
    (hopened : ∀ operand, (next operand).opened = 0) {start : Counters} {rule : Rule}
    (hstart : counters.place ≤ start.place) (hplace : start.place < tokens.length)
    (hdepth : start.depth ≤ maxNesting) (hlevel : cost tokens (.ofLevel level) start < calls)
    (hcost : cost tokens rule counters ≤ calls) :
    Agrees tokens start.depth
      ((do
        let operand ← read (.ofLevel level)
        read (next operand)).run start)
      (do
        let (operand, ts) ← readAt level start.depth (tokens.drop start.place)
        (next operand).expected start.depth ts) := by
  refine (h.level level start hplace hdepth hlevel).bind
    fun operand last hoperand hlast hbetween => ?_
  have hmore := h.continues (next operand)
    (Nat.lt_of_le_of_lt hstart (place_lt_of_readAt hoperand)) hlast (hbetween ▸ hdepth)
    (hopened operand ▸ Nat.zero_le _) hcost
  rwa [hopened, hbetween] at hmore

/-- A flat chain goes on with another operand behind the token at the place. -/
theorem Serves.link (h : Serves tokens calls read) (level : Nat) (next : Tree → Rule)
    (hopened : ∀ operand, (next operand).opened = 0) (hnext : counters.next.place < tokens.length)
    (hdepth : counters.depth ≤ maxNesting) {rule : Rule}
    (hcost : cost tokens rule counters ≤ calls) :
    Agrees tokens counters.depth
      (((do
        let operand ← read (.ofLevel level)
        read (next operand)).run counters.next).after [counters.next])
      (do
        let (operand, ts) ← readAt level counters.depth (tokens.drop (counters.place + 1))
        (next operand).expected counters.depth ts) :=
  (h.operand level next hopened (Nat.le_succ _) hnext hdepth
    (cost_lt_of_place_lt hcost (Nat.lt_succ_self _) hnext) hcost).after_one hnext hdepth

variable (hends : EndsOnce tokens) (hread : Serves tokens calls read)
  (hplace : counters.place < tokens.length) (hdepth : counters.depth ≤ maxNesting)

include hread hplace hdepth

/-- A logical chain reads its first operand and then the others. -/
theorem agrees_logical {op : BoolOp} (hcost : cost tokens (.logical op) counters ≤ calls) :
    Agrees tokens counters.depth
      ((Counting.step tokens (some maxNesting) read (.logical op)).run counters)
      (readAt op.level counters.depth (tokens.drop counters.place)) := by
  have hrank : (Rule.ofLevel (op.level + 1)).rank < (Rule.logical op).rank := by
    cases op <;> decide
  rw [Counting.step, readAt_logical]
  exact hread.operand (op.level + 1) (fun first => .operands op first []) (fun _ => rfl)
    (Nat.le_refl _) hplace hdepth (cost_lt_of_rank_lt hcost hrank) hcost

/-- A comparison reads its first operand and then its links. -/
theorem agrees_compare (hcost : cost tokens .compare counters ≤ calls) :
    Agrees tokens counters.depth
      ((Counting.step tokens (some maxNesting) read .compare).run counters)
      (readAt 3 counters.depth (tokens.drop counters.place)) := by
  rw [Counting.step, readAt_compare]
  exact hread.operand 4 (fun first => .links first []) (fun _ => rfl) (Nat.le_refl _) hplace hdepth
    (cost_lt_of_rank_lt hcost (by decide)) hcost

/-- A chain reads its first operand and then the rest, with no link open. -/
theorem agrees_chain {kind : Chain} (hcost : cost tokens (.chain kind) counters ≤ calls) :
    Agrees tokens counters.depth
      ((Counting.step tokens (some maxNesting) read (.chain kind)).run counters)
      (readAt kind.level counters.depth (tokens.drop counters.place)) := by
  have hrank : (Rule.ofLevel (kind.level + 1)).rank < (Rule.chain kind).rank := by
    cases kind <;> decide
  rw [Counting.step, readAt_chain]
  exact hread.operand (kind.level + 1) (fun first => .rest kind first 0) (fun _ => rfl)
    (Nat.le_refl _) hplace hdepth (cost_lt_of_rank_lt hcost hrank) hcost

include hends

/-- Operands are read one by one while their operator follows. -/
theorem agrees_operands {op : BoolOp} {first : Tree} {done : List Tree}
    (hcost : cost tokens (.operands op first done) counters ≤ calls) :
    Agrees tokens counters.depth
      ((Counting.step tokens (some maxNesting) read (.operands op first done)).run counters)
      ((Rule.operands op first done).expected counters.depth (tokens.drop counters.place)) := by
  rw [Counting.step, Rule.expected, List.drop_eq_getElem_cons hplace, readOperands_eq]
  dsimp only
  by_cases htoken : tokens[counters.place].token = op.token
  · have hnext : counters.next.place < tokens.length :=
      hends.succ_lt hplace (by rw [htoken]; cases op <;> decide)
    have hlink := hread.link (op.level + 1) (fun operand => .operands op first (done ++ [operand]))
      (fun _ => rfl) hnext hdepth hcost
    rw [Counting.eat_of_eq hplace _ _ htoken, if_pos htoken]
    simpa only [Rule.expected, bind_assoc, pure_bind, List.append_assoc, List.singleton_append]
      using hlink
  · rw [Counting.eat_of_ne hplace _ _ htoken, if_neg htoken, ← List.drop_eq_getElem_cons hplace,
      pure_bind, List.append_nil]
    exact agrees_pure counters hplace (chain op first done)

/-- Links are read one by one while a comparison follows. -/
theorem agrees_links {first : Tree} {done : List (CompareOp × Tree)}
    (hcost : cost tokens (.links first done) counters ≤ calls) :
    Agrees tokens counters.depth
      ((Counting.step tokens (some maxNesting) read (.links first done)).run counters)
      ((Rule.links first done).expected counters.depth (tokens.drop counters.place)) := by
  rw [Counting.step, Rule.expected, List.drop_eq_getElem_cons hplace, reading_readLinks,
    Counting.bind_run (Counting.peek_run hplace), Run.after_nil]
  dsimp only
  cases hop : compareOp? tokens[counters.place].token with
  | some op =>
    have hnext : counters.next.place < tokens.length :=
      hends.succ_lt hplace (by rintro hfinish; rw [hfinish] at hop; cases hop)
    have hlink := hread.link 4 (fun operand => .links first (done ++ [(op, operand)]))
      (fun _ => rfl) hnext hdepth hcost
    dsimp only
    rw [Counting.bind_run (Counting.take_run hplace)]
    simpa only [Rule.ofLevel, Rule.expected, bind_assoc, pure_bind, List.append_assoc,
      List.singleton_append] using hlink
  | none =>
    dsimp only
    rw [← List.drop_eq_getElem_cons hplace, pure_bind, List.append_nil]
    exact agrees_pure counters hplace (compareChain first done)

/-- A negation opens a level for its operand and closes it behind it. -/
theorem agrees_not (hcost : cost tokens .not counters ≤ calls) :
    Agrees tokens counters.depth ((Counting.step tokens (some maxNesting) read .not).run counters)
      (readAt 2 counters.depth (tokens.drop counters.place)) := by
  rw [Counting.step, readAt_not, List.drop_eq_getElem_cons hplace]
  dsimp only
  by_cases htoken : tokens[counters.place].token = .not
  · have hnext : counters.next.place < tokens.length :=
      hends.succ_lt hplace (by rw [htoken]; decide)
    rw [Counting.eat_of_eq hplace _ _ htoken, if_pos htoken]
    exact (hread.nested 2 hnext hdepth
      (cost_lt_of_place_lt hcost (Nat.lt_succ_self _) hnext)
      fun operand last _ hlast hbetween => hbetween ▸ agrees_pure last hlast _).after_one
      hnext hdepth
  · rw [Counting.eat_of_ne hplace _ _ htoken, if_neg htoken, ← List.drop_eq_getElem_cons hplace]
    exact hread.level 3 counters hplace hdepth (cost_lt_of_rank_lt hcost (by decide))

/-- A sign opens a level for its operand and closes it behind it. -/
theorem agrees_sign (hcost : cost tokens .sign counters ≤ calls) :
    Agrees tokens counters.depth ((Counting.step tokens (some maxNesting) read .sign).run counters)
      (readAt 6 counters.depth (tokens.drop counters.place)) := by
  rw [Counting.step, readAt_sign, List.drop_eq_getElem_cons hplace,
    Counting.bind_run (Counting.peek_run hplace), Run.after_nil]
  dsimp only
  cases hop : sign? tokens[counters.place].token with
  | some op =>
    have hnext : counters.next.place < tokens.length :=
      hends.succ_lt hplace (by rintro hfinish; rw [hfinish] at hop; cases hop)
    dsimp only
    rw [Counting.bind_run (Counting.take_run hplace)]
    exact (hread.nested 6 hnext hdepth
      (cost_lt_of_place_lt hcost (Nat.lt_succ_self _) hnext)
      fun operand last _ hlast hbetween => hbetween ▸ agrees_pure last hlast _).after_one
      hnext hdepth
  | none =>
    dsimp only
    rw [← List.drop_eq_getElem_cons hplace]
    exact hread.level 7 counters hplace hdepth (cost_lt_of_rank_lt hcost (by decide))

/-- A power opens a level for its exponent only. -/
theorem agrees_power (hcost : cost tokens .power counters ≤ calls) :
    Agrees tokens counters.depth ((Counting.step tokens (some maxNesting) read .power).run counters)
      (readAt 7 counters.depth (tokens.drop counters.place)) := by
  rw [Counting.step, readAt_power]
  refine (hread.level 8 counters hplace hdepth
    (cost_lt_of_rank_lt hcost (by decide))).bind
    fun base last hbase hlast hbetween => ?_
  rw [List.drop_eq_getElem_cons hlast]
  dsimp only
  by_cases htoken : tokens[last.place].token = .starStar
  · -- the end is no operator, so a token stands behind this one
    have hnext : last.next.place < tokens.length :=
      hends.succ_lt hlast (by rw [htoken]; decide)
    have hmoved : counters.place < last.next.place :=
      Nat.lt_succ_of_lt (place_lt_of_readAt hbase)
    rw [Counting.eat_of_eq hlast _ _ htoken, if_pos htoken, ← hbetween]
    rw [← hbetween] at hdepth
    exact (hread.nested 6 hnext hdepth
      (cost_lt_of_place_lt hcost hmoved hnext)
      fun exponent after _ hafter hclosed => hclosed ▸ agrees_pure after hafter _).after_one
      hnext hdepth
  · rw [Counting.eat_of_ne hlast _ _ htoken, if_neg htoken, ← List.drop_eq_getElem_cons hlast,
      ← hbetween]
    exact agrees_pure last hlast base

/-- Each link opens a level that stays open. All of them are closed at once where the chain ends. -/
theorem agrees_rest {kind : Chain} {left : Tree} {count : Nat} (hcount : count ≤ counters.depth)
    (hcost : cost tokens (.rest kind left count) counters ≤ calls) :
    Agrees tokens (counters.depth - count)
      ((Counting.step tokens (some maxNesting) read (.rest kind left count)).run counters)
      (readRest kind counters.depth left (tokens.drop counters.place)) := by
  rw [Counting.step, List.drop_eq_getElem_cons hplace, readRest_eq,
    Counting.bind_run (Counting.peek_run hplace), Run.after_nil]
  dsimp only
  cases hop : kind.op? tokens[counters.place].token with
  | some op =>
    have hnext : counters.next.place < tokens.length :=
      hends.succ_lt hplace (by
        rintro hfinish
        rw [hfinish] at hop
        cases kind <;> cases hop)
    have hmoved : counters.place < counters.next.place := Nat.lt_succ_self _
    dsimp only
    rw [Counting.bind_run (Counting.take_run hplace)]
    -- the level stays open for the operands behind, and the chain closes it at its end
    refine (agrees_enter hnext hdepth fun hroom => (hread.level (kind.level + 1)
      counters.next.deeper hnext hroom (cost_lt_of_place_lt hcost hmoved hnext)).bind
      fun right last hright hlast (hbetween : last.depth = counters.depth + 1) => ?_).after_one
      hnext hdepth
    have hmore := hread.continues (.rest kind (.binary op left right) (count + 1))
      (Nat.lt_trans hmoved (place_lt_of_readAt hright)) hlast (hbetween ▸ hroom)
      (hbetween ▸ Nat.succ_le_succ hcount) hcost
    rw [hbetween, Rule.opened, Nat.add_sub_add_right] at hmore
    exact hmore
  | none =>
    dsimp only
    rw [← List.drop_eq_getElem_cons hplace]
    exact agrees_leave hplace hcount (Nat.le_trans (Nat.sub_le ..) hdepth)
      (agrees_pure (counters.higher count) hplace left)

/-- An atom is a token, or a tree in parentheses one level further in. -/
theorem agrees_atom (hcost : cost tokens .atom counters ≤ calls) :
    Agrees tokens counters.depth ((Counting.step tokens (some maxNesting) read .atom).run counters)
      (readAt 8 counters.depth (tokens.drop counters.place)) := by
  rw [Counting.step, readAt_atom, List.drop_eq_getElem_cons hplace,
    Counting.bind_run (Counting.take_run hplace)]
  dsimp only
  cases hleaf : leaf? tokens[counters.place].token with
  | some leaf =>
    have hnext : counters.next.place < tokens.length :=
      hends.succ_lt hplace (by rintro hfinish; rw [hfinish] at hleaf; cases hleaf)
    exact (agrees_pure counters.next hnext leaf).after_one hnext hdepth
  | none =>
    dsimp only
    by_cases htoken : tokens[counters.place].token = .openParen
    · have hnext : counters.next.place < tokens.length :=
        hends.succ_lt hplace (by rw [htoken]; decide)
      rw [if_pos htoken, if_pos htoken]
      refine (hread.nested 0 hnext hdepth
        (cost_lt_of_place_lt hcost (Nat.lt_succ_self _) hnext)
        fun inner last _ hlast (hclosed : last.depth = counters.depth) => ?_).after_one hnext hdepth
      rw [List.drop_eq_getElem_cons hlast]
      dsimp only
      by_cases hclose : tokens[last.place].token = .closeParen
      · have hbehind : last.next.place < tokens.length :=
          hends.succ_lt hlast (by rw [hclose]; decide)
        rw [Counting.eat_of_eq hlast _ _ hclose, if_pos hclose, ← hclosed]
        exact (agrees_pure last.next hbehind inner).after_one hbehind
          (hclosed ▸ hdepth)
      · rw [Counting.eat_of_ne hlast _ _ hclose, if_neg hclose,
          Counting.bind_run (Counting.peek_run hlast), Run.after_nil, Counting.fail_run hlast]
        exact agrees_fault rfl fun _ hmem => absurd hmem List.not_mem_nil
    · rw [if_neg htoken, if_neg htoken, Counting.bind_run Counting.putBack_run,
        Counting.fail_run hplace]
      refine agrees_fault rfl fun last hmem => ?_
      -- only here the counter can stand behind the last token, until the token is put back
      rcases List.mem_cons.mp hmem with rfl | hmem
      · exact ⟨hplace, Nat.le_succ_of_le hdepth⟩
      · obtain rfl := List.mem_singleton.mp hmem
        exact ⟨Nat.le_of_lt hplace, Nat.le_succ_of_le hdepth⟩

end Step

/-- A rule does what is expected if its parts do. -/
theorem Serves.step {tokens : List Lexeme} {calls : Nat} {read : Rule → Counting Tree}
    (h : Serves tokens calls read) (hends : EndsOnce tokens) :
    Serves tokens (calls + 1) (Counting.step tokens (some maxNesting) read) := by
  intro rule counters hplace hdepth hopened hcost
  have hcost : cost tokens rule counters ≤ calls := Nat.le_of_lt_succ hcost
  cases rule with
  | logical op => exact agrees_logical h hplace hdepth hcost
  | operands op first done => exact agrees_operands hends h hplace hdepth hcost
  | not => exact agrees_not hends h hplace hdepth hcost
  | compare => exact agrees_compare h hplace hdepth hcost
  | links first done => exact agrees_links hends h hplace hdepth hcost
  | chain kind => exact agrees_chain h hplace hdepth hcost
  | rest kind left count => exact agrees_rest hends h hplace hdepth hopened hcost
  | sign => exact agrees_sign hends h hplace hdepth hcost
  | power => exact agrees_power hends h hplace hdepth hcost
  | atom => exact agrees_atom hends h hplace hdepth hcost

/-- With the calls that it costs, a rule does what is expected. -/
theorem serves_read {tokens : List Lexeme} (hends : EndsOnce tokens) :
    ∀ calls, Serves tokens calls (Counting.read tokens (some maxNesting) calls)
  | 0 => fun _ _ _ _ _ hcost => absurd hcost (Nat.not_lt_zero _)
  | calls + 1 => (serves_read hends calls).step hends

end DialogueScript.Expr
