import DialogueScript.Proofs.Expr.Climbing

/-!
# Reading with two counters

The functions of the grammar hand on the tokens that are left, and the depth as a number. The same
can be read with two counters that all rules change: a place among the tokens, which goes on when a
token is taken and back when it is put back, and the number of levels of nesting that are open
(`Counting`). A counter that would go below zero is an outcome of its own (`Stop.panic`), and a run
keeps all values that the counters take on its way (`Run.trace`).

Each rule of the grammar asks a reader for its parts (`Counting.step`), and how many calls may stand
inside each other is a number (`Counting.read`). What a rule should read is what the functions of
the grammar read (`Rule.expected`).
-/

namespace DialogueScript.Expr

/-! ## Runs -/

/-- The place among the tokens, and the number of levels of nesting that are open. -/
structure Counters where
  place : Nat
  depth : Nat
  deriving DecidableEq, Repr

/-- Why a run stops before it has a result. -/
inductive Stop
  /-- The expression has a fault. -/
  | fault (fault : Fault)
  /-- A counter would go below zero, or no token stands where one is looked at. -/
  | panic
  /-- No more calls may stand inside each other. -/
  | exhausted
  deriving DecidableEq, Repr

/-- A run: the values that the counters take on its way, those that they have at its end, and what
comes of it. -/
structure Run (α : Type) where
  trace : List Counters
  last : Counters
  result : Except Stop α

/-- A run behind some values of the counters. -/
def Run.after {α : Type} (trace : List Counters) (run : Run α) : Run α :=
  { run with trace := trace ++ run.trace }

/-- Goes on with what comes of a run, from the counters at its end. -/
def Run.bind {α β : Type} (run : Run α) (next : α → Counters → Run β) : Run β :=
  match run with
  | ⟨trace, last, .ok value⟩ => (next value last).after trace
  | ⟨trace, last, .error reason⟩ => ⟨trace, last, .error reason⟩

/-- What is done with the counters from some values on. -/
structure Counting (α : Type) where
  run : Counters → Run α

namespace Counting

instance : Monad Counting where
  pure value := ⟨fun counters => ⟨[], counters, .ok value⟩⟩
  bind first next := ⟨fun counters => (first.run counters).bind fun value => (next value).run⟩

/-- The counters as they are. -/
def get : Counting Counters := ⟨fun counters => ⟨[], counters, .ok counters⟩⟩

/-- Changes the counters. -/
def set (counters : Counters) : Counting Unit := ⟨fun _ => ⟨[counters], counters, .ok ()⟩⟩

/-- Stops the run. -/
def stop {α : Type} (reason : Stop) : Counting α :=
  ⟨fun counters => ⟨[], counters, .error reason⟩⟩

/-- The token at the place, which is the last one behind the end. -/
def peek (tokens : List Lexeme) : Counting Lexeme := do
  let counters ← get
  match tokens[min counters.place (tokens.length - 1)]? with
  | some lexeme => return lexeme
  | none => stop .panic

/-- Takes a token. -/
def take (tokens : List Lexeme) : Counting Lexeme := do
  let lexeme ← peek tokens
  let counters ← get
  if counters.place < tokens.length then set { counters with place := counters.place + 1 }
  return lexeme

/-- Takes a token if it is the one that is asked for. -/
def eat (tokens : List Lexeme) (token : Token) : Counting Bool := do
  let lexeme ← peek tokens
  if lexeme.token = token then
    let _ ← take tokens
    return true
  else return false

/-- Puts the token back that was taken last. -/
def putBack : Counting Unit := do
  let counters ← get
  if counters.place = 0 then stop .panic else set { counters with place := counters.place - 1 }

/-- Opens a level of nesting. With a cap, there is no level above it. -/
def enter (cap : Option Nat) : Counting Unit := do
  let counters ← get
  set { counters with depth := counters.depth + 1 }
  if cap.any (· < counters.depth + 1) then stop (.fault .tooDeep)

/-- Closes levels of nesting. -/
def leave (levels : Nat) : Counting Unit := do
  let counters ← get
  if levels ≤ counters.depth then set { counters with depth := counters.depth - levels }
  else stop .panic

/-- Stops at a token at which an expression cannot go on; its offset is that of the token at the
place. -/
def fail {α : Type} (tokens : List Lexeme) (token : Token) : Counting α := do
  let lexeme ← peek tokens
  stop (.fault (unexpected [{ lexeme with token := token }]))

end Counting

/-! ## The rules of the grammar -/

/-- What is read: a level of the grammar, or the rest of a chain behind its first operands. -/
inductive Rule
  | logical (op : BoolOp)
  | operands (op : BoolOp) (first : Tree) (done : List Tree)
  | not
  | compare
  | links (first : Tree) (done : List (CompareOp × Tree))
  | chain (kind : Chain)
  /-- The rest of a sum or product with so many links so far. -/
  | rest (kind : Chain) (left : Tree) (count : Nat)
  | sign
  | power
  | atom

namespace Rule

/-- The rule for a level of the grammar. -/
def ofLevel : Nat → Rule
  | 0 => logical .or
  | 1 => logical .and
  | 2 => not
  | 3 => compare
  | 4 => chain .sum
  | 5 => chain .product
  | 6 => sign
  | 7 => power
  | _ => atom

/-- The levels of nesting that were opened in front and are closed at the end. -/
def opened : Rule → Nat
  | rest _ _ count => count
  | _ => 0

/-- How many rules may follow each other before a token is taken. -/
def rank : Rule → Nat
  | logical op => 9 - op.level
  | not => 7
  | compare => 6
  | chain kind => 9 - kind.level
  | sign => 3
  | power => 2
  | atom => 1
  | operands .. | links .. | rest .. => 0

/-- What the functions of the grammar read by a rule. -/
def expected (depth : Nat) (ts : List Lexeme) : Rule → Except Fault (Tree × List Lexeme)
  | logical op => readAt op.level depth ts
  | operands op first done => do
    let (more, ts) ← readOperands op depth ts
    return (Expr.chain op first (done ++ more), ts)
  | not => readAt 2 depth ts
  | compare => readAt 3 depth ts
  | links first done => do
    let (more, ts) ← reading (readLinks depth ts)
    return (compareChain first (done ++ more), ts)
  | chain kind => readAt kind.level depth ts
  | rest kind left _ => readRest kind depth left ts
  | sign => readAt 6 depth ts
  | power => readAt 7 depth ts
  | atom => readAt 8 depth ts

theorem opened_ofLevel (level : Nat) : (ofLevel level).opened = 0 := by
  unfold ofLevel
  split <;> rfl

theorem rank_le (rule : Rule) : rule.rank ≤ 9 := by
  cases rule with
  | chain kind => exact Nat.sub_le 9 kind.level
  | logical op => exact Nat.sub_le 9 op.level
  | operands | links | rest => exact Nat.zero_le 9
  | _ => decide

/-- The rule of a level reads what that level reads. -/
theorem expected_ofLevel (depth : Nat) (ts : List Lexeme) :
    ∀ level, (ofLevel level).expected depth ts = readAt level depth ts
  | 0 | 1 | 2 | 3 | 4 | 5 | 6 | 7 | _ + 8 => rfl

end Rule

namespace Counting

/-- Reads by a rule, with a reader for its parts. -/
def step (tokens : List Lexeme) (cap : Option Nat) (read : Rule → Counting Tree) :
    Rule → Counting Tree
  | .logical op => do
    let first ← read (.ofLevel (op.level + 1))
    read (.operands op first [])
  | .operands op first done => do
    if ← eat tokens op.token then
      let operand ← read (.ofLevel (op.level + 1))
      read (.operands op first (done ++ [operand]))
    else return chain op first done
  | .not => do
    if ← eat tokens .not then
      enter cap
      let operand ← read .not
      leave 1
      return .not operand
    else read .compare
  | .compare => do
    let first ← read (.chain .sum)
    read (.links first [])
  | .links first done => do
    let lexeme ← peek tokens
    match compareOp? lexeme.token with
    | some op => do
      let _ ← take tokens
      let operand ← read (.chain .sum)
      read (.links first (done ++ [(op, operand)]))
    | none => return compareChain first done
  | .chain kind => do
    let first ← read (.ofLevel (kind.level + 1))
    read (.rest kind first 0)
  | .rest kind left count => do
    let lexeme ← peek tokens
    match kind.op? lexeme.token with
    | some op => do
      let _ ← take tokens
      enter cap
      let right ← read (.ofLevel (kind.level + 1))
      read (.rest kind (.binary op left right) (count + 1))
    | none => do
      leave count
      return left
  | .sign => do
    let lexeme ← peek tokens
    match sign? lexeme.token with
    | some op => do
      let _ ← take tokens
      enter cap
      let operand ← read .sign
      leave 1
      return .sign op operand
    | none => read .power
  | .power => do
    let base ← read .atom
    if ← eat tokens .starStar then
      enter cap
      let exponent ← read .sign
      leave 1
      return .binary .pow base exponent
    else return base
  | .atom => do
    let lexeme ← take tokens
    match leaf? lexeme.token with
    | some leaf => return leaf
    | none =>
      if lexeme.token = .openParen then do
        enter cap
        let inner ← read (.logical .or)
        leave 1
        if ← eat tokens .closeParen then return inner
        else
          let behind ← peek tokens
          fail tokens behind.token
      else do
        putBack
        fail tokens lexeme.token

/-- Reads by a rule, with so many calls inside each other. -/
def read (tokens : List Lexeme) (cap : Option Nat) : Nat → Rule → Counting Tree
  | 0, _ => stop .exhausted
  | calls + 1, rule => step tokens cap (read tokens cap calls) rule

end Counting

/-! ## Tokens that end once -/

/-- The last token is the end, and no other token is. -/
def EndsOnce (tokens : List Lexeme) : Prop :=
  ∃ front finish, tokens = front ++ [finish] ∧ finish.token = .finish ∧
    ∀ lexeme ∈ front, lexeme.token ≠ .finish

/-- Behind a token that is not the end there is another one. -/
theorem EndsOnce.succ_lt {tokens : List Lexeme} (h : EndsOnce tokens) {place : Nat}
    (hplace : place < tokens.length) (htoken : tokens[place].token ≠ .finish) :
    place + 1 < tokens.length := by
  obtain ⟨front, finish, rfl, hfinish, -⟩ := h
  rw [List.length_append, List.length_singleton] at hplace ⊢
  refine Nat.succ_lt_succ (Nat.lt_of_le_of_ne (Nat.le_of_lt_succ hplace) ?_)
  rintro rfl
  exact htoken (by rw [List.getElem_concat_length rfl]; exact hfinish)

/-- In front of the last token there is no end. -/
theorem EndsOnce.ne_finish {tokens : List Lexeme} (h : EndsOnce tokens) {place : Nat}
    (hplace : place < tokens.length) : ∀ lexeme ∈ tokens.take place, lexeme.token ≠ .finish := by
  obtain ⟨front, finish, rfl, -, hfront⟩ := h
  rw [List.length_append, List.length_singleton] at hplace
  intro lexeme hmem
  rw [List.take_append_of_le_length (Nat.le_of_lt_succ hplace)] at hmem
  exact hfront lexeme (List.mem_of_mem_take hmem)

/-! ## What the primitives do -/

namespace Counters

/-- Behind the token at the place. -/
def next (counters : Counters) : Counters := { counters with place := counters.place + 1 }

/-- A level of nesting deeper. -/
def deeper (counters : Counters) : Counters := { counters with depth := counters.depth + 1 }

/-- So many levels of nesting higher. -/
def higher (counters : Counters) (levels : Nat) : Counters :=
  { counters with depth := counters.depth - levels }

end Counters

section Primitives

variable {α β : Type}

theorem Run.after_nil (run : Run α) : run.after [] = run := rfl

namespace Counting

/-- Actions in a row run one after the other. -/
theorem run_bind (first : Counting α) (next : α → Counting β) (counters : Counters) :
    (first >>= next).run counters
      = (first.run counters).bind fun value => (next value).run := rfl

/-- A run goes on with the result of its first part. -/
theorem bind_run {first : Counting α} {counters last : Counters} {trace : List Counters}
    {value : α} (h : first.run counters = ⟨trace, last, .ok value⟩) (next : α → Counting β) :
    (first >>= next).run counters = ((next value).run last).after trace := by
  rw [run_bind, h]
  rfl

/-- A run stops where its first part does. -/
theorem bind_stop {first : Counting α} {counters last : Counters} {trace : List Counters}
    {reason : Stop} (h : first.run counters = ⟨trace, last, .error reason⟩)
    (next : α → Counting β) :
    (first >>= next).run counters = ⟨trace, last, .error reason⟩ := by
  rw [run_bind, h]
  rfl

theorem set_bind (counters now : Counters) (next : Unit → Counting β) :
    (set now >>= next).run counters = ((next ()).run now).after [now] := rfl

theorem get_bind (counters : Counters) (next : Counters → Counting β) :
    (get >>= next).run counters = (next counters).run counters := rfl

section Place

variable {tokens : List Lexeme} {counters : Counters} (hplace : counters.place < tokens.length)

include hplace

/-- Within the tokens, a look gives the token at the place and moves nothing. -/
theorem peek_run : (peek tokens).run counters = ⟨[], counters, .ok tokens[counters.place]⟩ := by
  have htoken : tokens[min counters.place (tokens.length - 1)]? = some tokens[counters.place] := by
    rw [Nat.min_eq_left (by omega)]
    exact List.getElem?_eq_getElem hplace
  rw [peek, get_bind, htoken]
  rfl

/-- Taking a token moves the place by one. -/
theorem take_run :
    (take tokens).run counters = ⟨[counters.next], counters.next, .ok tokens[counters.place]⟩ := by
  rw [take, bind_run (peek_run hplace), get_bind, if_pos hplace]
  rfl

/-- An expected token is taken, and any other one is left. -/
theorem eat_run (token : Token) :
    (eat tokens token).run counters
      = if tokens[counters.place].token = token then ⟨[counters.next], counters.next, .ok true⟩
        else ⟨[], counters, .ok false⟩ := by
  rw [eat, bind_run (peek_run hplace)]
  split
  · rw [bind_run (take_run hplace)]
    rfl
  · rfl

/-- A fault leaves the counters as they are. -/
theorem fail_run (token : Token) :
    (fail tokens token : Counting α).run counters = ⟨[], counters,
      .error (.fault (unexpected [{ tokens[counters.place] with token := token }]))⟩ := by
  rw [fail, bind_run (peek_run hplace)]
  rfl

section Eat

variable {token : Token} (yes no : Counting β)

/-- Behind the expected token the action goes on with its first branch. -/
theorem eat_of_eq (h : tokens[counters.place].token = token) :
    (do if ← eat tokens token then yes else no).run counters
      = (yes.run counters.next).after [counters.next] := by
  have heat := eat_run hplace token
  rw [if_pos h] at heat
  exact bind_run heat _

/-- At any other token it goes on with its second branch, and nothing has moved. -/
theorem eat_of_ne (h : tokens[counters.place].token ≠ token) :
    (do if ← eat tokens token then yes else no).run counters = no.run counters := by
  have heat := eat_run hplace token
  rw [if_neg h] at heat
  exact bind_run heat _

end Eat

end Place

section Depth

variable {counters : Counters}

/-- Below the cap, a level is opened. -/
theorem enter_run_of_lt {cap : Nat} (h : counters.depth < cap) :
    (enter (some cap)).run counters = ⟨[counters.deeper], counters.deeper, .ok ()⟩ := by
  rw [enter, get_bind, set_bind]
  have hroom : ¬ (some cap).any (· < counters.depth + 1) = true := by
    simpa using Nat.succ_le_of_lt h
  rw [if_neg hroom]
  rfl

/-- At the cap the level is counted first, and then the expression is too deep. -/
theorem enter_run_of_le {cap : Nat} (h : cap ≤ counters.depth) :
    (enter (some cap)).run counters
      = ⟨[counters.deeper], counters.deeper, .error (.fault .tooDeep)⟩ := by
  rw [enter, get_bind, set_bind]
  have hfull : (some cap).any (· < counters.depth + 1) = true := by
    simpa using Nat.lt_succ_of_le h
  rw [if_pos hfull]
  rfl

/-- Without a cap there is always a level left. -/
theorem enter_run_none : (enter none).run counters = ⟨[counters.deeper], counters.deeper, .ok ()⟩ :=
  rfl

/-- As many levels may be closed as are open. -/
theorem leave_run {levels : Nat} (h : levels ≤ counters.depth) :
    (leave levels).run counters = ⟨[counters.higher levels], counters.higher levels, .ok ()⟩ := by
  rw [leave, get_bind, if_pos h]
  rfl

/-- A token that was taken is put back. -/
theorem putBack_run :
    putBack.run counters.next = ⟨[counters], counters, .ok ()⟩ := by
  rw [putBack, get_bind, if_neg (show counters.next.place ≠ 0 from Nat.succ_ne_zero _)]
  rfl

end Depth

end Counting

end Primitives

end DialogueScript.Expr
