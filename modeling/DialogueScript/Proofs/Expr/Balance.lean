import DialogueScript.Proofs.Expr.Counted
import DialogueScript.Proofs.Expr.Lossless
import DialogueScript.Proofs.Expr.NestingCap

/-!
# The counters are balanced

Whatever the tokens are, if they end once, then each level of the grammar can be read from any place
among them: the counters keep within their bounds, all levels of nesting that were opened are closed
again, and at least one token is taken, but not the end (`counters_balanced`). The tokens of a text
end once (`endsOnce_of_tokenize`).
-/

namespace DialogueScript.Expr

/-- The tokens of a text end once. -/
theorem endsOnce_of_tokenize {t : Text} {tokens : List Lexeme} (h : tokenize t = .ok tokens) :
    EndsOnce tokens := by
  obtain ⟨front, hfront, hspelled⟩ := (laidOut h).ends
  exact ⟨front, _, hfront, rfl, fun lexeme hmem => (hspelled lexeme hmem).finish⟩

/-! ## Balanced runs -/

/-- The run of a level of the grammar, with so many calls inside each other. -/
def runAt (tokens : List Lexeme) (cap : Option Nat) (calls level : Nat) (start : Counters) :
    Run Tree :=
  (Counting.read tokens cap calls (.ofLevel level)).run start

namespace Run

/-- What is read on a run, with the tokens behind it. -/
def reading (tokens : List Lexeme) (run : Run Tree) : Except Stop (Tree × List Lexeme) :=
  run.result.map fun tree => (tree, tokens.drop run.last.place)

/-- The counters of a run are balanced and safe. -/
structure Balanced (tokens : List Lexeme) (start : Counters) (run : Run Tree) : Prop where
  /-- No counter goes below zero, and the calls are enough. -/
  ends : run.result ≠ .error .panic ∧ run.result ≠ .error .exhausted
  /-- The place stays within the tokens, and the depth goes at most one level above the cap. -/
  within : ∀ now ∈ run.trace, now.place ≤ tokens.length ∧ now.depth ≤ maxNesting + 1
  /-- All levels that were opened are closed. -/
  closed : ∀ tree, run.result = .ok tree → run.last.depth = start.depth
  /-- Tokens were taken, but not the end. -/
  moved : ∀ tree, run.result = .ok tree → start.place < run.last.place ∧
    run.last.place < tokens.length ∧ ∀ lexeme ∈ tokens.take run.last.place, lexeme.token ≠ .finish

end Run

section Balance

variable {tokens : List Lexeme} {level : Nat} {start : Counters} {run : Run Tree}

/-- A run that agrees reads what is expected. -/
theorem Agrees.reading {depth : Nat} {expected : Except Fault (Tree × List Lexeme)}
    (h : Agrees tokens depth run expected) :
    run.reading tokens = expected.mapError .fault := by
  match expected, h with
  | .ok (tree, rest), ⟨hresult, hrest, _⟩ =>
    rw [Run.reading, hresult, ← hrest]
    rfl
  | .error fault, ⟨hresult, _⟩ =>
    rw [Run.reading, hresult]
    rfl

/-- A run that agrees is too deep exactly if that is expected. -/
theorem Agrees.tooDeep_iff {depth : Nat} {expected : Except Fault (Tree × List Lexeme)}
    (h : Agrees tokens depth run expected) : run.TooDeep ↔ expected = .error .tooDeep := by
  unfold Run.TooDeep
  match expected, h with
  | .ok (tree, rest), ⟨hresult, _⟩ => simp [hresult]
  | .error fault, ⟨hresult, _⟩ => simp [hresult]

/-- A run that agrees closes every level that it opens. -/
theorem Agrees.balanced (hends : EndsOnce tokens)
    (h : Agrees tokens start.depth run (readAt level start.depth (tokens.drop start.place))) :
    run.Balanced tokens start := by
  generalize hread : readAt level start.depth (tokens.drop start.place) = expected at h
  match expected, h with
  | .ok (tree, rest), ⟨hresult, hrest, hplace, hdepth, hwithin⟩ =>
    exact
      { ends := by simp [hresult]
        within := fun now hmem =>
          ⟨Nat.le_of_lt (hwithin now hmem).1, Nat.le_succ_of_le (hwithin now hmem).2⟩
        closed := fun _ _ => hdepth
        moved := fun _ _ => ⟨place_lt_of_readAt (hrest ▸ hread), hplace, hends.ne_finish hplace⟩ }
  | .error fault, ⟨hresult, hwithin⟩ =>
    exact
      { ends := by simp [hresult]
        within := hwithin
        closed := fun tree htree => by simp [hresult] at htree
        moved := fun tree htree => by simp [hresult] at htree }

/-- What is read on a run that has a tree, with the tokens behind it. -/
theorem Agrees.eq_ok {depth : Nat} {expected : Except Fault (Tree × List Lexeme)}
    {trace : List Counters} {last : Counters} {tree : Tree}
    (h : Agrees tokens depth ⟨trace, last, .ok tree⟩ expected) :
    expected = .ok (tree, tokens.drop last.place) ∧ last.place < tokens.length := by
  match expected, h with
  | .ok (other, rest), ⟨hresult, hrest, hplace, _⟩ =>
    obtain rfl := Except.ok.inj hresult
    exact ⟨by rw [← hrest], hplace⟩

/-- The run on which a tree is read. -/
theorem Agrees.exists_run {depth : Nat} {tree : Tree} {rest : List Lexeme}
    (h : Agrees tokens depth run (.ok (tree, rest))) :
    ∃ trace last, run = ⟨trace, last, .ok tree⟩ ∧ tokens.drop last.place = rest ∧
      last.place < tokens.length := by
  obtain ⟨trace, last, result⟩ := run
  obtain ⟨rfl, hrest, hplace, -⟩ := h
  exact ⟨trace, last, rfl, hrest, hplace⟩

end Balance

/-! ## The operands of flat chains -/

/-- Where an operand begins of the chain that is read from a place on: at that place, or behind a
token of the chain at which the operand in front of it ends. -/
inductive OperandAt (tokens : List Lexeme) (calls depth level : Nat) : Nat → Nat → Prop
  | first {place : Nat} : OperandAt tokens calls depth level place place
  | next {place operand : Nat} {trace : List Counters} {last : Counters} {tree : Tree}
      (hread : runAt tokens (some maxNesting) calls (level + 1) ⟨place, depth⟩
        = ⟨trace, last, .ok tree⟩)
      (hlink : tokens[last.place]?.bind (·.token.strength?) = some level)
      (hmore : OperandAt tokens calls depth level (last.place + 1) operand) :
      OperandAt tokens calls depth level place operand

section Operands

variable {tokens : List Lexeme} {calls depth level start place : Nat} (hends : EndsOnce tokens)
  (hdepth : depth ≤ maxNesting) (hcalls : 16 * (tokens.length - start) + 9 < calls)
  (hstart : start ≤ place) (hplace : place < tokens.length)

include hends hdepth hcalls hstart hplace

/-- The calls that are enough from one place on are enough from all places behind it. -/
theorem agrees_runAt (level : Nat) :
    Agrees tokens depth (runAt tokens (some maxNesting) calls level ⟨place, depth⟩)
      (readAt level depth (tokens.drop place)) := by
  refine (serves_read hends calls).level level ⟨place, depth⟩ hplace hdepth ?_
  have hrank := (Rule.ofLevel level).rank_le
  unfold cost
  dsimp only
  omega

/-- Behind an operand and a token of the chain, there is a place further on to read from. -/
theorem next_operand {trace : List Counters} {last : Counters} {tree : Tree}
    (hread : runAt tokens (some maxNesting) calls (level + 1) ⟨place, depth⟩
      = ⟨trace, last, .ok tree⟩)
    (hlink : tokens[last.place]?.bind (·.token.strength?) = some level) :
    place < last.place ∧ last.place + 1 < tokens.length ∧
    ∃ lexeme, lexeme.token.strength? = some level ∧
      readAt (level + 1) depth (tokens.drop place)
        = .ok (tree, lexeme :: tokens.drop (last.place + 1)) := by
  have hagrees := agrees_runAt hends hdepth hcalls hstart hplace (level + 1)
  rw [hread] at hagrees
  obtain ⟨hexpected, hlast⟩ := hagrees.eq_ok
  rw [List.getElem?_eq_getElem hlast] at hlink
  have hstrength : tokens[last.place].token.strength? = some level := hlink
  refine ⟨@place_lt_of_readAt tokens ⟨place, depth⟩ last _ _ _ hexpected,
    hends.succ_lt hlast fun hfinish => ?_, tokens[last.place], hstrength, ?_⟩
  · rw [hfinish] at hstrength
    cases hstrength
  · rw [← List.drop_eq_getElem_cons hlast]
    exact hexpected

omit hstart hplace

/-- A flat chain in which there is one level of nesting too many has it in one of its operands. -/
theorem exists_operand (hflat : Flat level) {place : Nat} (hstart : start ≤ place)
    (hplace : place < tokens.length)
    (h : (runAt tokens (some maxNesting) calls level ⟨place, depth⟩).TooDeep) :
    ∃ operand, OperandAt tokens calls depth level place operand ∧
      (runAt tokens (some maxNesting) calls (level + 1) ⟨operand, depth⟩).TooDeep := by
  have hagrees := agrees_runAt hends hdepth hcalls hstart hplace
  rcases (flat_eq_error_iff hflat).mp ((hagrees level).tooDeep_iff.mp h) with
    hfirst | ⟨first, lexeme, tail, hread, hstrength, hdeep⟩
  · exact ⟨place, .first, (hagrees (level + 1)).tooDeep_iff.mpr hfirst⟩
  · have hoperand := hagrees (level + 1)
    rw [hread] at hoperand
    obtain ⟨trace, last, hrun, hrest, hlast⟩ := hoperand.exists_run
    rw [List.drop_eq_getElem_cons hlast] at hrest
    obtain ⟨rfl, rfl⟩ := List.cons.inj hrest
    have hlink : tokens[last.place]?.bind (·.token.strength?) = some level := by
      rw [List.getElem?_eq_getElem hlast]
      exact hstrength
    obtain ⟨hmoved, hnext, -⟩ := next_operand hends hdepth hcalls hstart hplace hrun hlink
    have hbehind : start ≤ last.place + 1 := by omega
    -- what is behind the token of the chain is too deep as a chain of its own
    obtain ⟨operand, hmore, hfound⟩ := exists_operand hflat hbehind hnext
      ((agrees_runAt hends hdepth hcalls hbehind hnext level).tooDeep_iff.mpr hdeep)
    exact ⟨operand, .next hrun hlink hmore, hfound⟩
termination_by tokens.length - place

/-- And it has as many levels open around it as its operands do. -/
theorem tooDeep_of_operand (hflat : Flat level) {operand : Nat}
    (h : OperandAt tokens calls depth level place operand)
    (hdeep : (runAt tokens (some maxNesting) calls (level + 1) ⟨operand, depth⟩).TooDeep)
    (hstart : start ≤ place) (hplace : place < tokens.length) :
    (runAt tokens (some maxNesting) calls level ⟨place, depth⟩).TooDeep := by
  -- the induction goes back to the chain from its last operand
  induction h with
  | @first place =>
    have hagrees := agrees_runAt hends hdepth hcalls hstart hplace
    exact (hagrees level).tooDeep_iff.mpr
      ((flat_eq_error_iff hflat).mpr (.inl ((hagrees (level + 1)).tooDeep_iff.mp hdeep)))
  | @next place operand trace last tree hread hlink hmore ih =>
    obtain ⟨hmoved, hnext, lexeme, hstrength, hreadAt⟩ :=
      next_operand hends hdepth hcalls hstart hplace hread hlink
    have hbehind : start ≤ last.place + 1 := by omega
    have hrest := (agrees_runAt hends hdepth hcalls hbehind hnext level).tooDeep_iff.mp
      (ih hdeep hbehind hnext)
    exact (agrees_runAt hends hdepth hcalls hstart hplace level).tooDeep_iff.mpr
      ((flat_eq_error_iff hflat).mpr (.inr ⟨tree, lexeme, _, hreadAt, hstrength, hrest⟩))

end Operands

/-- Each level of the grammar, read from a place among tokens that end once and with at most as many
levels of nesting open as there may be, ends with its counters balanced, and reads what the function
of the grammar reads. It is too deep exactly if without the cap there would be a level above it; and
a flat chain is too deep exactly if one of its operands is, with as many levels open around it. -/
theorem counters_balanced {tokens : List Lexeme} (hends : EndsOnce tokens) (level : Nat)
    {place depth : Nat} (hplace : place < tokens.length) (hdepth : depth ≤ maxNesting)
    {calls : Nat} (hcalls : 16 * (tokens.length - place) + 9 < calls) :
    (runAt tokens (some maxNesting) calls level ⟨place, depth⟩).Balanced tokens ⟨place, depth⟩ ∧
    (runAt tokens (some maxNesting) calls level ⟨place, depth⟩).reading tokens
      = (readAt level depth (tokens.drop place)).mapError .fault ∧
    ((runAt tokens (some maxNesting) calls level ⟨place, depth⟩).TooDeep ↔
      ∃ now ∈ (runAt tokens none calls level ⟨place, depth⟩).trace, maxNesting < now.depth) ∧
    (Flat level → ((runAt tokens (some maxNesting) calls level ⟨place, depth⟩).TooDeep ↔
      ∃ operand, OperandAt tokens calls depth level place operand ∧
        (runAt tokens (some maxNesting) calls (level + 1) ⟨operand, depth⟩).TooDeep)) := by
  have hagrees := agrees_runAt hends hdepth hcalls (Nat.le_refl _) hplace level
  have hcapped := capped_read tokens maxNesting calls (.ofLevel level) ⟨place, depth⟩ hdepth
  refine ⟨@Agrees.balanced tokens level ⟨place, depth⟩ _ hends hagrees, hagrees.reading,
    hcapped.tooDeep_iff, fun hflat => ⟨fun hdeep => ?_, fun ⟨operand, hoperand, hdeep⟩ => ?_⟩⟩
  · exact exists_operand hends hdepth hcalls hflat (Nat.le_refl _) hplace hdeep
  · exact tooDeep_of_operand hends hdepth hcalls hflat hoperand hdeep (Nat.le_refl _) hplace

/-- The tokens of `1 or (1)`. -/
def operandInParens : List Lexeme :=
  [⟨.int 1, ['1'], 0⟩, ⟨.or, ['o', 'r'], 2⟩, ⟨.openParen, ['('], 5⟩, ⟨.int 1, ['1'], 6⟩,
    ⟨.closeParen, [')'], 7⟩, ⟨.finish, [], 8⟩]

/-- With all levels open in front of it, the parentheses are one too many. -/
theorem counters_balanced_parens : EndsOnce operandInParens ∧ 0 < operandInParens.length ∧
    200 ≤ maxNesting ∧ 16 * (operandInParens.length - 0) + 9 < 106 ∧ Flat 0 ∧
    (runAt operandInParens (some maxNesting) 106 0 ⟨0, 200⟩).Balanced operandInParens ⟨0, 200⟩ ∧
    (runAt operandInParens (some maxNesting) 106 0 ⟨0, 200⟩).TooDeep ∧
    ∃ operand, OperandAt operandInParens 106 200 0 0 operand ∧
      (runAt operandInParens (some maxNesting) 106 1 ⟨operand, 200⟩).TooDeep := by
  have hends : EndsOnce operandInParens :=
    ⟨operandInParens.dropLast, ⟨.finish, [], 8⟩, rfl, rfl, by decide⟩
  have hplace : 0 < operandInParens.length := by decide
  have hdepth : 200 ≤ maxNesting := by decide
  have hcalls : 16 * (operandInParens.length - 0) + 9 < 106 := by decide
  have hflat : Flat 0 := .inl rfl
  obtain ⟨hbalanced, -, hcap, hchain⟩ := counters_balanced hends 0 hplace hdepth hcalls
  have hdeep := hcap.mpr ⟨⟨3, 201⟩, by decide +kernel, by decide⟩
  exact ⟨hends, hplace, hdepth, hcalls, hflat, hbalanced, hdeep, (hchain hflat).mp hdeep⟩

end DialogueScript.Expr
