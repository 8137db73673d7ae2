import DialogueScript.Proofs.Expr.Counters
import DialogueScript.Proofs.Expr.Soundness

/-!
# When nesting is too deep

A reader without a cap opens as many levels of nesting as the tokens ask for. With a cap it does the
same, up to the first level above the cap, and stops there (`capped_read`). So an expression is too
deep exactly if without the cap one level too many would be open at once.

The chains of `or`, of `and` and of comparisons open none themselves: each has the fault of one of
its operands, read with as many levels open around it as around the chain (`flat_eq_error_iff`).
-/

namespace DialogueScript.Expr

/-! ## With a cap and without -/

section Runs

variable {α β : Type}

/-- The run stops where one level of nesting too many is opened. -/
def Run.TooDeep (run : Run α) : Prop := run.result = .error (.fault .tooDeep)

/-- No more than so many levels of nesting are open on the run. -/
structure Run.Below (depth : Nat) (run : Run α) : Prop where
  result : ¬ run.TooDeep
  last : run.last.depth ≤ depth
  trace : ∀ now ∈ run.trace, now.depth ≤ depth

/-- A run with a cap beside one without: they are the same run, which stays below the cap, or the
one without gets above the cap, and the other stops with the fault. -/
def CutAt (cap : Nat) (run free : Run α) : Prop :=
  (run = free ∧ free.Below cap) ∨ (run.TooDeep ∧ ∃ now ∈ free.trace, cap < now.depth)

/-- The fault stands for a level above the cap. -/
theorem CutAt.tooDeep_iff {cap : Nat} {run free : Run α} (h : CutAt cap run free) :
    run.TooDeep ↔ ∃ now ∈ free.trace, cap < now.depth := by
  rcases h with ⟨rfl, hbelow⟩ | ⟨hdeep, habove⟩
  · refine iff_of_false hbelow.result ?_
    rintro ⟨now, hmem, habove⟩
    exact Nat.not_lt.mpr (hbelow.trace now hmem) habove
  · exact iff_of_true hdeep habove

/-- What happened before does not matter, if it stayed below the cap. -/
theorem CutAt.after {cap : Nat} {run free : Run α} (h : CutAt cap run free) {trace : List Counters}
    (htrace : ∀ now ∈ trace, now.depth ≤ cap) : CutAt cap (run.after trace) (free.after trace) := by
  rcases h with ⟨rfl, hbelow⟩ | ⟨hdeep, now, hmem, habove⟩
  · exact .inl ⟨rfl, hbelow.result, hbelow.last, List.forall_mem_append.mpr ⟨htrace, hbelow.trace⟩⟩
  · exact .inr ⟨hdeep, now, List.mem_append_right _ hmem, habove⟩

/-- What comes behind a run takes none of its counters away. -/
theorem Run.mem_trace_bind {run : Run α} (next : α → Counters → Run β) {now : Counters}
    (h : now ∈ run.trace) : now ∈ (run.bind next).trace := by
  obtain ⟨trace, last, result⟩ := run
  cases result with
  | error reason => exact h
  | ok value => exact List.mem_append_left _ h

/-- A run that stops is the same for whatever should come of it. -/
theorem Run.Below.stopped {depth : Nat} {trace : List Counters} {last : Counters} {reason : Stop}
    (h : (⟨trace, last, .error reason⟩ : Run α).Below depth) :
    (⟨trace, last, .error reason⟩ : Run β).Below depth where
  result hdeep := h.result (congrArg Except.error (Except.error.inj hdeep))
  last := h.last
  trace := h.trace

/-- Two runs in a row stay below a depth if both do. -/
theorem Run.Below.bind {run : Run α} {next : α → Counters → Run β} {depth : Nat}
    (h : run.Below depth)
    (hnext : ∀ value last, last.depth ≤ depth → (next value last).Below depth) :
    (run.bind next).Below depth := by
  obtain ⟨trace, last, result⟩ := run
  cases result with
  | error reason => exact h.stopped
  | ok value =>
    have hbelow := hnext value last h.last
    exact ⟨hbelow.result, hbelow.last, List.forall_mem_append.mpr ⟨h.trace, hbelow.trace⟩⟩

/-- A run goes on below the cap, or the fault is all that comes of it. -/
theorem CutAt.bind {cap : Nat} {run free : Run α} {next after : α → Counters → Run β}
    (h : CutAt cap run free)
    (hnext : ∀ value last, last.depth ≤ cap → CutAt cap (next value last) (after value last)) :
    CutAt cap (run.bind next) (free.bind after) := by
  rcases h with ⟨rfl, hbelow⟩ | ⟨hdeep, now, hmem, habove⟩
  · obtain ⟨trace, last, result⟩ := run
    cases result with
    | error reason => exact .inl ⟨rfl, hbelow.stopped⟩
    | ok value => exact (hnext value last hbelow.last).after hbelow.trace
  · refine .inr ⟨?_, now, Run.mem_trace_bind after hmem, habove⟩
    obtain ⟨trace, last, result⟩ := run
    obtain rfl : result = .error (.fault .tooDeep) := hdeep
    rfl

end Runs

/-! ## What opens no level -/

/-- The reader opens no level of nesting. -/
def Quiet {α : Type} (reader : Counting α) : Prop :=
  ∀ counters, (reader.run counters).Below counters.depth

namespace Quiet

variable {α β : Type}

theorem pure (value : α) : Quiet (Pure.pure value) := fun counters =>
  { result := by simp [Run.TooDeep, Pure.pure]
    last := Nat.le_refl _
    trace := fun _ hmem => absurd hmem List.not_mem_nil }

theorem stop {reason : Stop} (h : reason ≠ .fault .tooDeep) :
    Quiet (Counting.stop reason : Counting α) := fun _ =>
  { result := fun hdeep => h (Except.error.inj hdeep)
    last := Nat.le_refl _
    trace := fun _ hmem => absurd hmem List.not_mem_nil }

/-- A quiet reader stays below every depth that it starts below. -/
theorem below {reader : Counting α} (h : Quiet reader) {counters : Counters} {depth : Nat}
    (hdepth : counters.depth ≤ depth) : (reader.run counters).Below depth where
  result := (h counters).result
  last := Nat.le_trans (h counters).last hdepth
  trace now hmem := Nat.le_trans ((h counters).trace now hmem) hdepth

/-- Quiet readers in a row are quiet. -/
theorem bind {first : Counting α} {next : α → Counting β} (h : Quiet first)
    (hnext : ∀ value, Quiet (next value)) : Quiet (first >>= next) := fun counters =>
  (h counters).bind fun value _ hlast => (hnext value).below hlast

/-- Counters that are set to ones that are no deeper. -/
theorem set {counters now : Counters} (h : now.depth ≤ counters.depth) :
    ((Counting.set now).run counters).Below counters.depth where
  result := by simp [Run.TooDeep, Counting.set]
  last := h
  trace := List.forall_mem_singleton.mpr h

theorem peek (tokens : List Lexeme) : Quiet (Counting.peek tokens) := fun counters => by
  rw [Counting.peek, Counting.get_bind]
  split
  · exact pure _ counters
  · exact stop (by decide) counters

theorem take (tokens : List Lexeme) : Quiet (Counting.take tokens) :=
  (peek tokens).bind fun lexeme counters => by
    rw [Counting.get_bind]
    split
    · have hmoved : ((Counting.set counters.next).run counters).Below counters.depth :=
        set (Nat.le_refl _)
      exact hmoved.bind fun _ _ hlast => (pure lexeme).below hlast
    · exact pure _ counters

theorem eat (tokens : List Lexeme) (token : Token) : Quiet (Counting.eat tokens token) :=
  (peek tokens).bind fun lexeme => by
    split
    · exact (take tokens).bind fun _ => pure true
    · exact pure false

/-- Closing levels opens none, and panics where there is none to close. -/
theorem leave (levels : Nat) : Quiet (Counting.leave levels) := fun counters => by
  rw [Counting.leave, Counting.get_bind]
  split
  · exact set (Nat.sub_le ..)
  · exact stop (by decide) counters

theorem putBack : Quiet Counting.putBack := fun counters => by
  rw [Counting.putBack, Counting.get_bind]
  split
  · exact stop (by decide) counters
  · exact set (Nat.le_refl _)

theorem fail (tokens : List Lexeme) (token : Token) :
    Quiet (Counting.fail tokens token : Counting α) :=
  (peek tokens).bind fun _ => stop fun h => unexpected_ne_tooDeep _ (Stop.fault.inj h)

end Quiet

/-! ## Reading with a cap and without -/

/-- From counters below the cap, one reader is the other with the cap. -/
def Capped {α : Type} (cap : Nat) (capped free : Counting α) : Prop :=
  ∀ counters, counters.depth ≤ cap → CutAt cap (capped.run counters) (free.run counters)

/-- The cap is nothing to a reader that opens no level. -/
theorem Quiet.capped {α : Type} {reader : Counting α} (h : Quiet reader) (cap : Nat) :
    Capped cap reader reader := fun _ hdepth => .inl ⟨rfl, h.below hdepth⟩

/-- Readers in a row are cut at the cap if each of them is. -/
theorem Capped.bind {α β : Type} {cap : Nat} {first free : Counting α}
    {next after : α → Counting β} (h : Capped cap first free)
    (hnext : ∀ value, Capped cap (next value) (after value)) :
    Capped cap (first >>= next) (free >>= after) := fun counters hdepth =>
  (h counters hdepth).bind fun value last hlast => hnext value last hlast

/-- The cap is met where a level above it is opened. -/
theorem capped_enter (cap : Nat) :
    Capped cap (Counting.enter (some cap)) (Counting.enter none) := fun counters hdepth => by
  rcases Nat.lt_or_ge counters.depth cap with hroom | hfull
  · rw [Counting.enter_run_of_lt hroom, Counting.enter_run_none]
    exact .inl ⟨rfl, by simp [Run.TooDeep], hroom, List.forall_mem_singleton.mpr hroom⟩
  -- no level is left, so the counter of the reader without the cap is above it from here on
  · rw [Counting.enter_run_of_le hfull]
    exact .inr ⟨rfl, counters.deeper, List.mem_singleton_self _, Nat.lt_succ_of_le hfull⟩

/-- What is inside a level of nesting is read with a cap and without. -/
theorem Capped.nested {cap : Nat} {inside free : Counting Tree} (h : Capped cap inside free)
    {next : Tree → Counting Tree} (hnext : ∀ tree, Quiet (next tree)) :
    Capped cap
      (do
        Counting.enter (some cap)
        let tree ← inside
        Counting.leave 1
        next tree)
      (do
        Counting.enter none
        let tree ← free
        Counting.leave 1
        next tree) :=
  (capped_enter cap).bind fun _ => h.bind fun tree =>
    ((Quiet.leave 1).bind fun _ => hnext tree).capped cap

section Step

variable {tokens : List Lexeme} {cap : Nat} {read free : Rule → Counting Tree}

/-- A rule reads with a cap what it reads without if its parts do. -/
theorem capped_step (h : ∀ rule, Capped cap (read rule) (free rule)) (rule : Rule) :
    Capped cap (Counting.step tokens (some cap) read rule)
      (Counting.step tokens none free rule) := by
  -- looking at tokens and taking them opens no level; the cap is met in nested parts only
  cases rule with
  | logical op => exact (h _).bind fun _ => h _
  | compare => exact (h _).bind fun _ => h _
  | chain kind => exact (h _).bind fun _ => h _
  | operands op first done =>
    refine ((Quiet.eat tokens op.token).capped cap).bind fun eaten => ?_
    cases eaten with
    | true => exact (h _).bind fun _ => h _
    | false => exact (Quiet.pure _).capped cap
  | not =>
    refine ((Quiet.eat tokens .not).capped cap).bind fun eaten => ?_
    cases eaten with
    | true => exact (h _).nested fun _ => Quiet.pure _
    | false => exact h _
  | links first done =>
    refine ((Quiet.peek tokens).capped cap).bind fun lexeme => ?_
    cases compareOp? lexeme.token with
    | some op => exact ((Quiet.take tokens).capped cap).bind fun _ => (h _).bind fun _ => h _
    | none => exact (Quiet.pure _).capped cap
  | rest kind left count =>
    refine ((Quiet.peek tokens).capped cap).bind fun lexeme => ?_
    cases kind.op? lexeme.token with
    | some op =>
      -- the level of a link stays open until the chain ends
      exact ((Quiet.take tokens).capped cap).bind fun _ => (capped_enter cap).bind fun _ =>
        (h _).bind fun _ => h _
    | none => exact ((Quiet.leave count).bind fun _ => Quiet.pure _).capped cap
  | sign =>
    refine ((Quiet.peek tokens).capped cap).bind fun lexeme => ?_
    cases sign? lexeme.token with
    | some op =>
      exact ((Quiet.take tokens).capped cap).bind fun _ => (h _).nested fun _ => Quiet.pure _
    | none => exact h _
  | power =>
    refine (h _).bind fun base => ((Quiet.eat tokens .starStar).capped cap).bind fun eaten => ?_
    cases eaten with
    | true => exact (h _).nested fun _ => Quiet.pure _
    | false => exact (Quiet.pure _).capped cap
  | atom =>
    refine ((Quiet.take tokens).capped cap).bind fun lexeme => ?_
    cases leaf? lexeme.token with
    | some leaf => exact (Quiet.pure _).capped cap
    | none =>
      dsimp only
      split
      · refine (h _).nested fun inner => (Quiet.eat tokens .closeParen).bind fun closed => ?_
        cases closed with
        | true => exact Quiet.pure _
        | false => exact (Quiet.peek tokens).bind fun behind => Quiet.fail tokens behind.token
      · exact (Quiet.putBack.bind fun _ => Quiet.fail tokens _).capped cap

end Step

/-- With a cap and without, the same is read up to the first level above the cap. -/
theorem capped_read (tokens : List Lexeme) (cap : Nat) : ∀ calls rule,
    Capped cap (Counting.read tokens (some cap) calls rule) (Counting.read tokens none calls rule)
  | 0, _ => (Quiet.stop (by decide)).capped cap
  | calls + 1, rule => capped_step (capped_read tokens cap calls) rule

/-! ## Flat chains -/

/-- The levels of the grammar whose chains are flat: `or`, `and` and comparison. -/
def Flat (level : Nat) : Prop := level = 0 ∨ level = 1 ∨ level = 3

section Flat

variable {level depth : Nat} {ts : List Lexeme} {fault : Fault}

/-- An operand with what is read behind it has the fault of the one or of the other. -/
theorem both_eq_error_iff {α β : Type} {operand : Except Fault (Tree × List Lexeme)}
    {row : List Lexeme → Except Fault (α × List Lexeme)} {join : Tree → α → β} :
    (do
      let (first, ts) ← operand
      let (more, ts) ← row ts
      return (join first more, ts)) = .error fault ↔
    operand = .error fault ∨
      ∃ first rest, operand = .ok (first, rest) ∧ row rest = .error fault := by
  constructor
  · intro h
    rcases bind_eq_error h with hfirst | ⟨⟨first, rest⟩, hfirst, h⟩
    · exact .inl hfirst
    · rcases bind_eq_error h with hmore | ⟨more, -, h⟩
      · exact .inr ⟨first, rest, hfirst, hmore⟩
      · cases h
  · rintro (rfl | ⟨first, rest, rfl, hmore⟩)
    · rfl
    · show (row rest >>= _) = _
      rw [hmore]
      rfl

/-- On its level, a logical operator is the only token that goes on with a chain. -/
theorem strength_eq_level_iff {op : BoolOp} {token : Token} :
    token.strength? = some op.level ↔ token = op.token := by
  constructor
  · intro h
    cases op <;> cases token <;> first | rfl | cases h
  · rintro rfl
    exact strength_boolOp op

/-- On the level of comparisons, only a comparison goes on with a chain. -/
theorem exists_compareOp {token : Token} (h : token.strength? = some 3) :
    ∃ op, compareOp? token = some op := by
  cases token <;> first | exact ⟨_, rfl⟩ | cases h

/-- Behind a token of the chain, the operands of `or` or `and` have the fault that they have as a
chain of their own. -/
theorem readOperands_eq_error_iff {op : BoolOp} {lexeme : Lexeme} {tail : List Lexeme} :
    readOperands op depth (lexeme :: tail) = .error fault ↔
      lexeme.token.strength? = some op.level ∧ readAt op.level depth tail = .error fault := by
  rw [readOperands_eq, strength_eq_level_iff]
  dsimp only
  by_cases htoken : lexeme.token = op.token
  -- both read an operand and a row behind it, and differ only in what they make of the trees
  · rw [if_pos htoken, and_iff_right htoken, readAt_logical]
    exact both_eq_error_iff.trans both_eq_error_iff.symm
  · rw [if_neg htoken]
    exact iff_of_false (fun h => by cases h) fun h => htoken h.1

/-- And so do those of a comparison. -/
theorem readLinks_eq_error_iff {lexeme : Lexeme} {tail : List Lexeme} :
    reading (readLinks depth (lexeme :: tail)) = .error fault ↔
      lexeme.token.strength? = some 3 ∧ readAt 3 depth tail = .error fault := by
  rw [reading_readLinks]
  dsimp only
  cases hop : compareOp? lexeme.token with
  | some op =>
    have hstrength : lexeme.token.strength? = some 3 := by
      rw [token_of_compareOp? hop, strength_compareOp]
    rw [and_iff_right hstrength, readAt_compare]
    exact (@both_eq_error_iff fault _ _ (readAt 4 depth tail)
      (fun ts => reading (readLinks depth ts))
      fun operand more => (op, operand) :: more).trans both_eq_error_iff.symm
  | none =>
    refine iff_of_false (fun h => by cases h) fun ⟨hstrength, _⟩ => ?_
    obtain ⟨op, hother⟩ := exists_compareOp hstrength
    rw [hop] at hother
    cases hother

/-- A chain has the fault of its first operand, or the one that its row of other operands has. -/
theorem chain_eq_error_iff {α : Type} {row : List Lexeme → Except Fault (α × List Lexeme)}
    {join : Tree → α → Tree}
    (hwhole : readAt level depth ts = (do
      let (first, ts) ← readAt (level + 1) depth ts
      let (more, ts) ← row ts
      return (join first more, ts)))
    (hnil : row [] ≠ .error fault)
    (hcons : ∀ lexeme tail, row (lexeme :: tail) = .error fault ↔
      lexeme.token.strength? = some level ∧ readAt level depth tail = .error fault) :
    readAt level depth ts = .error fault ↔ readAt (level + 1) depth ts = .error fault ∨
      ∃ first lexeme tail, readAt (level + 1) depth ts = .ok (first, lexeme :: tail) ∧
        lexeme.token.strength? = some level ∧ readAt level depth tail = .error fault := by
  rw [hwhole, both_eq_error_iff]
  refine or_congr_right (exists_congr fun first => ⟨?_, ?_⟩)
  · rintro ⟨rest, hfirst, hrow⟩
    cases rest with
    | nil => exact absurd hrow hnil
    | cons lexeme tail => exact ⟨lexeme, tail, hfirst, (hcons lexeme tail).mp hrow⟩
  · rintro ⟨lexeme, tail, hfirst, hbehind⟩
    exact ⟨lexeme :: tail, hfirst, (hcons lexeme tail).mpr hbehind⟩

/-- A logical chain has a fault if its first operand has it or the chain behind the first operator
does. -/
theorem logical_eq_error_iff {op : BoolOp} :
    readAt op.level depth ts = .error fault ↔ readAt (op.level + 1) depth ts = .error fault ∨
      ∃ first lexeme tail, readAt (op.level + 1) depth ts = .ok (first, lexeme :: tail) ∧
        lexeme.token.strength? = some op.level ∧ readAt op.level depth tail = .error fault :=
  chain_eq_error_iff (readAt_logical depth ts op)
    (fun h => by rw [readOperands_eq] at h; cases h) fun _ _ => readOperands_eq_error_iff

/-- A chain of comparisons fails in the same way. -/
theorem compare_eq_error_iff :
    readAt 3 depth ts = .error fault ↔ readAt 4 depth ts = .error fault ∨
      ∃ first lexeme tail, readAt 4 depth ts = .ok (first, lexeme :: tail) ∧
        lexeme.token.strength? = some 3 ∧ readAt 3 depth tail = .error fault :=
  @chain_eq_error_iff 3 depth ts fault _ (fun ts => reading (readLinks depth ts)) compareChain
    (readAt_compare depth ts) (fun h => by rw [reading_readLinks] at h; cases h)
    fun _ _ => readLinks_eq_error_iff

/-- A flat chain has the fault of its first operand, or the one that it has behind the next token of
the chain. -/
theorem flat_eq_error_iff (hflat : Flat level) :
    readAt level depth ts = .error fault ↔ readAt (level + 1) depth ts = .error fault ∨
      ∃ first lexeme tail, readAt (level + 1) depth ts = .ok (first, lexeme :: tail) ∧
        lexeme.token.strength? = some level ∧ readAt level depth tail = .error fault := by
  rcases hflat with rfl | rfl | rfl
  · exact @logical_eq_error_iff depth ts fault .or
  · exact @logical_eq_error_iff depth ts fault .and
  · exact compare_eq_error_iff

end Flat

end DialogueScript.Expr
