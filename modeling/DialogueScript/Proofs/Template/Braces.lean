import DialogueScript.Template

/-!
# The brace structure of a text

The braces of a text are matched with a stack; a brace without a partner is an ordinary character
(`matchBraces`). A rewriting of the structure visits the matched pairs from left to right, each one
after the pairs inside it, and replaces a pair when what has become of its inside is wanted
(`rewriteAll`).

The same rewriting reads the text once, with the texts in front of the open braces on a stack
(`scan`); that the two agree is `rewriteAll_matchBraces`.
-/

namespace DialogueScript.Template

/-! ## Matching braces -/

/-- A character, or a matched pair of braces. -/
inductive Piece
  | char (c : Char)
  | pair (inside : List Piece)

mutual

/-- The text that a piece stands for. -/
def Piece.flatten : Piece → Text
  | .char c => [c]
  | .pair inside => '{' :: flattenAll inside ++ ['}']

/-- The text that pieces stand for. -/
def flattenAll : List Piece → Text
  | [] => []
  | piece :: rest => piece.flatten ++ flattenAll rest

end

/-- Braces that are still open become characters; the pieces in front of each are on the stack. -/
def leaveOpen (stack : List (List Piece)) (pieces : List Piece) : List Piece :=
  stack.foldl (fun inside front => front ++ .char '{' :: inside) pieces

/-- Matches the braces of a text behind some pieces: those since the last open brace, and on the
stack those in front of each open brace, the last one first. -/
def matchFrom : List (List Piece) → List Piece → Text → List Piece
  | stack, pieces, [] => leaveOpen stack pieces
  | stack, pieces, c :: rest =>
    if c = '{' then matchFrom (pieces :: stack) [] rest
    else if c = '}' then
      match stack with
      | [] => matchFrom [] (pieces ++ [.char c]) rest
      | front :: stack => matchFrom stack (front ++ [.pair pieces]) rest
    else matchFrom stack (pieces ++ [.char c]) rest

/-- The brace structure of a text. -/
def matchBraces (t : Text) : List Piece := matchFrom [] [] t

section MatchFrom

variable (stack : List (List Piece)) (pieces : List Piece) (rest : Text)

@[simp] theorem matchFrom_nil : matchFrom stack pieces [] = leaveOpen stack pieces := by
  cases stack <;> rfl

/-- An opening brace puts the pieces so far aside. -/
@[simp] theorem matchFrom_open :
    matchFrom stack pieces ('{' :: rest) = matchFrom (pieces :: stack) [] rest := by
  cases stack <;> rfl

/-- A closing brace that nothing has opened is a character. -/
@[simp] theorem matchFrom_stray :
    matchFrom [] pieces ('}' :: rest) = matchFrom [] (pieces ++ [.char '}']) rest := rfl

/-- A closing brace makes a pair of the pieces behind the last opening one. -/
@[simp] theorem matchFrom_close (front : List Piece) :
    matchFrom (front :: stack) pieces ('}' :: rest)
      = matchFrom stack (front ++ [.pair pieces]) rest := rfl

/-- Any other character is a piece of its own. -/
theorem matchFrom_char {c : Char} (h : isBrace c = false) :
    matchFrom stack pieces (c :: rest) = matchFrom stack (pieces ++ [.char c]) rest := by
  obtain ⟨hopen, hclose⟩ : c ≠ '{' ∧ c ≠ '}' := by simpa [isBrace] using h
  cases stack <;> simp [matchFrom, hopen, hclose]

end MatchFrom

/-- A character is one of the braces or none. -/
theorem brace_cases (c : Char) : c = '{' ∨ c = '}' ∨ isBrace c = false := by
  by_cases hopen : c = '{'
  · exact .inl hopen
  · by_cases hclose : c = '}'
    · exact .inr (.inl hclose)
    · exact .inr (.inr (by simp [isBrace, hopen, hclose]))

@[simp] theorem flattenAll_append (pieces more : List Piece) :
    flattenAll (pieces ++ more) = flattenAll pieces ++ flattenAll more := by
  induction pieces with
  | nil => rfl
  | cons piece rest ih => simp [flattenAll, ih]

/-- Braces that are never closed do not disturb what comes behind them. -/
theorem flattenAll_leaveOpen_append (stack : List (List Piece)) :
    ∀ pieces more : List Piece, flattenAll (leaveOpen stack (pieces ++ more))
      = flattenAll (leaveOpen stack pieces) ++ flattenAll more := by
  induction stack with
  | nil => exact flattenAll_append
  | cons front stack ih =>
    intro pieces more
    have hfront := ih (front ++ .char '{' :: pieces) more
    rwa [List.append_assoc] at hfront

/-- Nothing is lost in matching braces. -/
theorem flattenAll_matchFrom : ∀ (t : Text) (stack : List (List Piece)) (pieces : List Piece),
    flattenAll (matchFrom stack pieces t) = flattenAll (leaveOpen stack pieces) ++ t := by
  intro t
  induction t with
  | nil => simp
  | cons c rest ih =>
    intro stack pieces
    have hlast := flattenAll_leaveOpen_append stack pieces [.char c]
    -- an open brace and one without a partner are characters until their partner is found
    have hchar : flattenAll (leaveOpen stack (pieces ++ [.char c])) ++ rest
        = flattenAll (leaveOpen stack pieces) ++ c :: rest := by
      simp [hlast, flattenAll, Piece.flatten]
    rcases brace_cases c with rfl | rfl | hchar'
    · rw [matchFrom_open, ih]
      exact hchar
    · cases stack with
      | nil =>
        rw [matchFrom_stray, ih]
        exact hchar
      | cons front stack =>
        rw [matchFrom_close, ih, show leaveOpen (front :: stack) pieces
          = leaveOpen stack (front ++ .char '{' :: pieces) from rfl]
        simp [flattenAll_leaveOpen_append, flattenAll, Piece.flatten]
    · rw [matchFrom_char _ _ _ hchar', ih]
      exact hchar

/-- The structure of a text has all its characters in their order. -/
theorem flattenAll_matchBraces (t : Text) : flattenAll (matchBraces t) = t :=
  flattenAll_matchFrom t [] []

example : matchBraces "\x7d\x7ba\x7bb\x7d".toList =
    [.char '}', .char '{', .char 'a', .pair [.char 'b']] :=
  rfl

/-! ## Rewriting the structure -/

/-- What becomes of some pieces: their text, and the insides that were replaced, in order. -/
structure Rewriting where
  text : Text
  replaced : List Text
  deriving DecidableEq, Repr

namespace Rewriting

/-- One rewriting after the other. -/
def append (first second : Rewriting) : Rewriting :=
  ⟨first.text ++ second.text, first.replaced ++ second.replaced⟩

end Rewriting

/-- Is the rewritten inside of a pair to be replaced? It has no braces left, and is wanted. -/
def isReplaceable (wanted : Text → Bool) (inside : Text) : Bool :=
  inside.all (!isBrace ·) && wanted inside

section Rewrite

variable (wanted : Text → Bool) (replace : Text → Text)

/-- Replaces a pair of braces around a rewritten inside, or leaves it in place. -/
def closePair (inside : Text) : Rewriting :=
  if isReplaceable wanted inside then ⟨replace inside, [inside]⟩
  else ⟨'{' :: inside ++ ['}'], []⟩

mutual

/-- Rewrites a piece, the inside of a pair first. -/
def Piece.rewrite : Piece → Rewriting
  | .char c => ⟨[c], []⟩
  | .pair inside =>
    let rewritten := rewriteAll inside
    let closed := closePair wanted replace rewritten.text
    ⟨closed.text, rewritten.replaced ++ closed.replaced⟩

/-- Rewrites pieces from left to right. -/
def rewriteAll : List Piece → Rewriting
  | [] => ⟨[], []⟩
  | piece :: rest => piece.rewrite.append (rewriteAll rest)

end

/-! ## Reading the text once -/

/-- Braces that are still open become characters. -/
def leaveTextOpen (stack : List Text) (t : Text) : Text :=
  stack.foldl (fun inside front => front ++ '{' :: inside) t

/-- Rewrites the pairs of a text behind some rewritten texts: the one since the last open brace, and
on the stack those in front of each open brace, the last one first. -/
def scan : List Text → Text → Text → Rewriting
  | stack, text, [] => ⟨leaveTextOpen stack text, []⟩
  | stack, text, c :: rest =>
    if c = '{' then scan (text :: stack) [] rest
    else if c = '}' then
      match stack with
      | [] => scan [] (text ++ [c]) rest
      | front :: stack =>
        let closed := closePair wanted replace text
        let result := scan stack (front ++ closed.text) rest
        ⟨result.text, closed.replaced ++ result.replaced⟩
    else scan stack (text ++ [c]) rest

/-- Pieces in a row are rewritten one after the other. -/
theorem rewriteAll_append (pieces more : List Piece) :
    rewriteAll wanted replace (pieces ++ more)
      = (rewriteAll wanted replace pieces).append (rewriteAll wanted replace more) := by
  induction pieces with
  | nil => rfl
  | cons piece rest ih =>
    rw [List.cons_append, rewriteAll, rewriteAll, ih]
    simp [Rewriting.append]

section Scan

variable (stack : List Text) (text rest : Text)

@[simp] theorem scan_nil :
    scan wanted replace stack text [] = ⟨leaveTextOpen stack text, []⟩ := by
  cases stack <;> rfl

@[simp] theorem scan_open : scan wanted replace stack text ('{' :: rest)
    = scan wanted replace (text :: stack) [] rest := by
  cases stack <;> rfl

@[simp] theorem scan_stray : scan wanted replace [] text ('}' :: rest)
    = scan wanted replace [] (text ++ ['}']) rest := rfl

/-- A closing brace replaces the text behind the last opening one, or copies both braces around it.
-/
@[simp] theorem scan_close (front : Text) : scan wanted replace (front :: stack) text ('}' :: rest)
    = (let closed := closePair wanted replace text
      let result := scan wanted replace stack (front ++ closed.text) rest
      ⟨result.text, closed.replaced ++ result.replaced⟩) := rfl

theorem scan_char {c : Char} (h : isBrace c = false) : scan wanted replace stack text (c :: rest)
    = scan wanted replace stack (text ++ [c]) rest := by
  obtain ⟨hopen, hclose⟩ : c ≠ '{' ∧ c ≠ '}' := by simpa [isBrace] using h
  cases stack <;> simp [scan, hopen, hclose]

end Scan

/-- What was replaced in front of the open braces. -/
def replacedBefore (stack : List (List Piece)) : List Text :=
  stack.reverse.flatMap fun front => (rewriteAll wanted replace front).replaced

/-- Braces that are never closed are copied, and what was replaced between them counts in the order
of the text. -/
theorem rewriteAll_leaveOpen : ∀ (stack : List (List Piece)) (pieces : List Piece),
    rewriteAll wanted replace (leaveOpen stack pieces)
      = ⟨leaveTextOpen (stack.map fun front => (rewriteAll wanted replace front).text)
          (rewriteAll wanted replace pieces).text,
        replacedBefore wanted replace stack ++ (rewriteAll wanted replace pieces).replaced⟩ := by
  intro stack
  induction stack with
  | nil => exact fun pieces => rfl
  | cons front stack ih =>
    intro pieces
    rw [show leaveOpen (front :: stack) pieces = leaveOpen stack (front ++ .char '{' :: pieces)
      from rfl, ih, rewriteAll_append]
    simp [rewriteAll, Piece.rewrite, Rewriting.append, leaveTextOpen, replacedBefore]

/-- Reading the text once rewrites its brace structure. -/
theorem rewriteAll_matchFrom : ∀ (t : Text) (stack : List (List Piece)) (pieces : List Piece),
    let result := scan wanted replace
      (stack.map fun front => (rewriteAll wanted replace front).text)
      (rewriteAll wanted replace pieces).text t
    rewriteAll wanted replace (matchFrom stack pieces t)
      = ⟨result.text, replacedBefore wanted replace stack
          ++ (rewriteAll wanted replace pieces).replaced ++ result.replaced⟩ := by
  intro t
  induction t with
  | nil =>
    intro stack pieces
    simp [rewriteAll_leaveOpen]
  | cons c rest ih =>
    intro stack pieces
    -- a character behind the pieces is kept and replaces nothing
    have hlast : ∀ d, rewriteAll wanted replace (pieces ++ [.char d])
        = ⟨(rewriteAll wanted replace pieces).text ++ [d],
            (rewriteAll wanted replace pieces).replaced⟩ := by
      intro d
      simp [rewriteAll_append, rewriteAll, Piece.rewrite, Rewriting.append]
    rcases brace_cases c with rfl | rfl | hchar
    · simp only [matchFrom_open, scan_open, ih]
      simp [rewriteAll, replacedBefore]
    · cases stack with
      | nil => simp only [matchFrom_stray, List.map_nil, scan_stray, ih, hlast]
      | cons front stack =>
        simp only [matchFrom_close, List.map_cons, scan_close, ih]
        simp [rewriteAll_append, rewriteAll, Piece.rewrite, Rewriting.append, replacedBefore]
    · simp only [matchFrom_char _ _ _ hchar, scan_char _ _ _ _ _ hchar, ih, hlast]

/-- Reading a text once rewrites it as its structure says. -/
theorem rewriteAll_matchBraces (t : Text) :
    rewriteAll wanted replace (matchBraces t) = scan wanted replace [] [] t :=
  rewriteAll_matchFrom wanted replace t [] []

end Rewrite

end DialogueScript.Template
