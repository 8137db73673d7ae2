import DialogueScript.Pattern.Regex

/-!
# Searching

A regular expression is laid out as a program whose threads run side by side over the text, in
order of preference, each program place at most once between two characters. So a search takes
time in proportion to the text and the program, and finds the leftmost match, among those the one
that the expression prefers.

Main statement: `unmarked_set` (marking a place leaves one place less to mark, which is why
following the threads ends).
-/

namespace DialogueScript.Pattern

/-- One instruction. Distances count from the instruction itself. -/
inductive Instruction
  /-- Takes a character of the set. -/
  | take (set : CharSet)
  /-- Goes on at both places, preferring the first. -/
  | fork (first second : Int)
  | jump (distance : Int)
  | check (condition : Look)
  | accept
  deriving DecidableEq, Repr

/-- A program, run from its first instruction. -/
abbrev Program := List Instruction

/-- A choice between going on and going to `other`, going on preferred if greedy. -/
def choice (greedy : Bool) (next other : Int) : Instruction :=
  if greedy then .fork next other else .fork other next

/-- A body that may be left out, `count` times, each one inside the one before. -/
def optional (greedy : Bool) (body : Program) : Nat → Program
  | 0 => []
  | count + 1 =>
    let more := optional greedy body count
    choice greedy 1 (1 + body.length + more.length) :: body ++ more

/-- The body as often as wished. A body that can match nothing is entered once for all, so that a
repetition that takes nothing is not preferred to one that ends. -/
def unbounded (greedy nullable : Bool) (body : Program) : Program :=
  if nullable then
    choice greedy 1 (2 + body.length) :: body ++ [choice greedy (-body.length) 1]
  else
    choice greedy 1 (2 + body.length) :: body ++ [.jump (-(body.length + 1))]

mutual

/-- The program of an expression; it ends behind its last instruction. -/
def Regex.program : Regex → Program
  | .empty => []
  | .one set => [.take set]
  | .look condition => [.check condition]
  | .times least most greedy body =>
    let code := body.program
    match most with
    | some most => (List.replicate least code).flatten ++ optional greedy code (most - least)
    | none =>
      match least with
      | 0 => unbounded greedy body.isNullable code
      | least + 1 =>
        (List.replicate least code).flatten ++ code ++ [choice greedy (-code.length) 1]
  | .group _ body => body.program
  | .concat parts => programOfParts parts
  | .alternation branches => programOfBranches branches

/-- The programs of the parts, one after the other. -/
def programOfParts : List Regex → Program
  | [] => []
  | regex :: rest => regex.program ++ programOfParts rest

/-- The programs of the branches, each entered by a fork and left by a jump to the end. -/
def programOfBranches : List Regex → Program
  | [] => []
  | [regex] => regex.program
  | regex :: rest =>
    let code := regex.program
    let others := programOfBranches rest
    .fork 1 (2 + code.length) :: code ++ .jump (1 + others.length) :: others

end

/-- The number of marks that are not set. -/
def unmarked (marks : Array Bool) : Nat := marks.countP (!·)

theorem unmarked_set {marks : Array Bool} {place : Nat} (h : place < marks.size)
    (hm : marks[place] = false) : unmarked (marks.set place true h) + 1 = unmarked marks := by
  unfold unmarked
  rw [← Array.countP_toList, ← Array.countP_toList, Array.toList_set,
    List.countP_set (by simpa using h)]
  have hpos : 0 < List.countP (!·) marks.toList :=
    List.countP_pos_iff.2 ⟨marks[place], by simp, by simp [hm]⟩
  simp only [Array.getElem_toList, hm, Bool.not_false, Bool.not_true, if_true]
  rw [if_neg (by simp)]
  omega

/-- A thread: the place of its next instruction and the offset at which its match starts. -/
structure Thread where
  place : Nat
  origin : Nat
  deriving DecidableEq, Repr

/-- What following the threads between two characters came to: the threads that wait for a
character, in order of preference, and where the preferred match that ends here starts. -/
structure Front where
  waiting : List Thread
  accepted : Option Nat
  marks : Array Bool

/-- The place at a distance. -/
def placeAt (place : Nat) (distance : Int) : Nat := (place + distance).toNat

/-- Follows threads up to the instructions that take a character. A place that has been marked
was reached by a preferred thread; an accepting thread cuts off all behind it. The waiting threads
are gathered in reverse. -/
def follow (code : Array Instruction) (before behind : Option Char) (marks : Array Bool)
    (gathered : List Thread) : List Thread → Front
  | [] => ⟨gathered.reverse, none, marks⟩
  | thread :: rest =>
    if h : thread.place < marks.size then
      if hm : marks[thread.place] = true then follow code before behind marks gathered rest
      else
        let seen := marks.set thread.place true h
        have := unmarked_set h (by simpa using hm)
        let goTo (distance : Int) : Thread := ⟨placeAt thread.place distance, thread.origin⟩
        match code[thread.place]? with
        | some (.take _) => follow code before behind seen (thread :: gathered) rest
        | some (.fork first second) =>
          follow code before behind seen gathered (goTo first :: goTo second :: rest)
        | some (.jump distance) => follow code before behind seen gathered (goTo distance :: rest)
        | some (.check condition) =>
          if condition.holds before behind then
            follow code before behind seen gathered (goTo 1 :: rest)
          else follow code before behind seen gathered rest
        | some .accept => ⟨gathered.reverse, some thread.origin, seen⟩
        | none => follow code before behind seen gathered rest
    else follow code before behind marks gathered rest
termination_by threads => threads.length + 2 * unmarked marks
decreasing_by all_goals simp_wf <;> omega

/-- A match: the offset of its first character and the offset behind its last, in characters. -/
structure Match where
  first : Nat
  last : Nat
  deriving DecidableEq, Repr

/-- Lets the waiting threads take a character. -/
def advance (code : Array Instruction) (c : Char) (waiting : List Thread) : List Thread :=
  waiting.filterMap fun thread =>
    match code[thread.place]? with
    | some (Instruction.take set) =>
      if set.contains c then some ⟨thread.place + 1, thread.origin⟩ else none
    | _ => none

/-- Runs threads over the rest of a text. As long as nothing has matched, a new thread starts at
each place, behind all others. -/
def run (code : Array Instruction) (before : Option Char) (offset : Nat) (found : Option Match)
    (threads : List Thread) (t : Text) : Option Match :=
  let started := if found.isNone then threads ++ [⟨0, offset⟩] else threads
  let front := follow code before t.head? (Array.replicate code.size false) [] started
  let found := match front.accepted with
    | some origin => some ⟨origin, offset⟩
    | none => found
  match t with
  | [] => found
  | c :: rest =>
    let threads := advance code c front.waiting
    if threads.isEmpty && found.isSome then found
    else run code (some c) (offset + 1) found threads rest

/-- The leftmost preferred match of a program in a text. -/
def search (program : Program) (t : Text) : Option Match :=
  run (program ++ [Instruction.accept]).toArray none 0 none [] t

end DialogueScript.Pattern
