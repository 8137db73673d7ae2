import DialogueScript.Proofs.Expr.Arrow
import DialogueScript.Script.Compile

/-!
# Canonical layout

How instructions are written, and what their texts have to be like for that (`IsCanonical`). An
instruction is read back from its line (`readInstruction_text`).

The arrow of a transition is the first one on its line: patterns have none by agreement, and guards
have none by their grammar. The quote between a pattern and its guard is the last one, since guards
have no quotes. And the blanks that trimming takes away at each stage belong to no text, as texts
have none at their ends (`Text.Plain`).
-/

namespace DialogueScript

/-! ## Texts on lines -/

namespace Text

/-- No line break, and no blank at the ends. -/
structure Plain (t : Text) : Prop where
  line : '\n' ∉ t
  head : t.head?.any isBlank = false
  last : t.getLast?.any isBlank = false

/-- A text that is found again on an indented line, up to blanks at its end. -/
structure Fits (t : Text) : Prop where
  line : '\n' ∉ t
  head : ∃ c ∈ t.head?, isBlank c = false
  last : t.getLast? ≠ some '\r'

instance (t : Text) : Decidable t.Plain :=
  decidable_of_iff
    ('\n' ∉ t ∧ t.head?.any isBlank = false ∧ t.getLast?.any isBlank = false)
    ⟨fun h => ⟨h.1, h.2.1, h.2.2⟩, fun h => ⟨h.line, h.head, h.last⟩⟩

section Plain

variable {front t : Text}

theorem Plain.trim (h : t.Plain) : Text.trim t = t := trim_eq_self h.head h.last

/-- A plain text ends with no carriage return, which would belong to the end of its line. -/
theorem Plain.last_ne (h : t.Plain) : t.getLast? ≠ some '\r' := fun hlast => by
  have hblank := h.last
  rw [hlast] at hblank
  exact absurd hblank (by decide)

/-- A plain text that is not empty fits on a line. -/
theorem Plain.fits (h : t.Plain) (hne : t ≠ []) : t.Fits where
  line := h.line
  head := by
    cases t with
    | nil => exact absurd rfl hne
    | cons c t => exact ⟨c, rfl, h.head⟩
  last := h.last_ne

/-- A text that ends in a mark. -/
theorem Plain.append (h : t.Plain) (hne : t ≠ []) (mark : Text) (hline : '\n' ∉ mark)
    (hmark : mark ≠ []) (hlast : mark.getLast?.any isBlank = false) : (t ++ mark).Plain where
  line := List.not_mem_append h.line hline
  head := by rw [List.head?_append_of_ne_nil _ hne]; exact h.head
  last := by rwa [List.getLast?_append_of_ne_nil _ hmark]

theorem Plain.trim_concat (h : t.Plain) : Text.trim (t ++ [' ']) = t := by
  cases t with
  | nil => decide
  | cons c t =>
    have hstart : trimStart (c :: t ++ [' ']) = c :: t ++ [' '] := trimStart_eq_self h.head
    rw [Text.trim, hstart, trimEnd_append (by decide), trimEnd_eq_self h.last]

/-- A plain text behind a space: the space goes if nothing follows it. -/
theorem Plain.trim_append (hfront : front.Plain) (hne : front ≠ []) (ht : t.Plain) :
    ∃ rest, rest <+: ' ' :: t ∧ Text.trim rest = t ∧
      Text.trim (front ++ ' ' :: t) = front ++ rest := by
  cases t with
  | nil => exact ⟨[], List.nil_prefix, rfl, by rw [hfront.trim_concat, List.append_nil]⟩
  | cons c t =>
    refine ⟨' ' :: c :: t, List.prefix_rfl, ?_, trim_eq_self ?_ ?_⟩
    · exact (Text.trim_append (s := [' ']) (by decide) (c :: t)).trans ht.trim
    · rw [List.head?_append_of_ne_nil _ hne]
      exact hfront.head
    · rw [List.getLast?_append_of_ne_nil _ (by simp), List.getLast?_cons_cons]
      exact ht.last

/-- Two plain texts with a blank between them fit on a line, also if the second one is empty. -/
theorem Plain.fits_append (hfront : front.Plain) (hne : front ≠ []) (ht : t.Plain) :
    (front ++ ' ' :: t).Fits where
  line := List.not_mem_append hfront.line (by simpa using ht.line)
  head := by rw [List.head?_append_of_ne_nil _ hne]; exact (hfront.fits hne).head
  last := by
    rw [List.getLast?_append_of_ne_nil _ (by simp)]
    cases t with
    | nil => simp
    | cons c t => rw [List.getLast?_cons_cons]; exact ht.last_ne

/-- There are no two such neighbours in two parts, nor at the seam. -/
theorem not_infix_append {x y : Char} {s : Text} (hs : ¬ [x, y] <:+: s) (ht : ¬ [x, y] <:+: t)
    (hseam : s.getLast? = some x → t.head? ≠ some y) : ¬ [x, y] <:+: s ++ t := fun h => by
  rcases infix_append_pair h with h | h | ⟨hlast, hhead⟩
  · exact hs h
  · exact ht h
  · exact hseam hlast hhead

/-- A separator does not occur where one of its characters does not. -/
theorem not_infix_of_notMem {separator : Text} {c : Char} (hc : c ∈ separator) (h : c ∉ t) :
    ¬ separator <:+: t :=
  fun hinside => h (hinside.subset hc)

end Plain

end Text

/-! ## Characters of names -/

namespace Name

open Alphabet

/-- Characters of words are not blank. -/
theorem isBlank_of_isWord {c : Char} (h : isWord c = true) : Text.isBlank c = false := by
  have hblanks : ∀ code ∈ Text.blankCodes, wordRanges.contains code = false := by decide +kernel
  cases hblank : Text.isBlank c with
  | false => rfl
  | true => exact h.symm.trans (hblanks _ (Text.toNat_mem_blankCodes hblank))

theorem isWord_of_mem {key : Text} (h : isStateKey key = true) : ∀ c ∈ key, isWord c = true :=
  List.all_eq_true.mp (Bool.and_eq_true_iff.mp h).2

theorem ne_nil_of_isStateKey {key : Text} (h : isStateKey key = true) : key ≠ [] := by
  rintro rfl
  exact absurd h (by decide)

theorem isBlank_of_mem {key : Text} (h : isStateKey key = true) :
    ∀ c ∈ key, Text.isBlank c = false :=
  fun c hc => isBlank_of_isWord (isWord_of_mem h c hc)

/-- Keys of states are plain, so they survive trimming. -/
theorem plain_of_isStateKey {key : Text} (h : isStateKey key = true) : key.Plain where
  line hmem := absurd (isBlank_of_mem h _ hmem) (by decide)
  head := (Option.any_eq_false _ _).mpr fun c hc => isBlank_of_mem h c (List.mem_of_head? hc)
  last := (Option.any_eq_false _ _).mpr fun c hc => isBlank_of_mem h c (List.mem_of_getLast? hc)

/-- The characters of a variable between its dollar signs. -/
theorem isVariable_cases {name : Text} (h : isVariable name = true) :
    ∃ word, name = '$' :: word ++ ['$'] ∧
      ∀ c ∈ word, (isAsciiLetter c || isWord c) = true := by
  unfold isVariable at h
  split at h
  next c rest =>
    simp only [Bool.and_eq_true, beq_iff_eq] at h
    obtain ⟨⟨hletter, hlast⟩, hword⟩ := h
    obtain ⟨front, rfl⟩ := List.getLast?_eq_some_iff.mp hlast
    rw [List.dropLast_concat] at hword
    refine ⟨c :: front, rfl, fun d hd => ?_⟩
    rcases List.mem_cons.mp hd with rfl | hd
    · simp [hletter]
    · simp [List.all_eq_true.mp hword d hd]
  next => cases h

/-- Names of variables have dollars, letters, digits and underscores only. -/
theorem notMem_of_isVariable {name : Text} (h : isVariable name = true) {c : Char}
    (hdollar : c ≠ '$') (hword : (isAsciiLetter c || isWord c) = false) : c ∉ name := by
  obtain ⟨word, rfl, hall⟩ := isVariable_cases h
  intro hmem
  simp only [List.cons_append, List.mem_cons, List.mem_append, List.not_mem_nil, or_false] at hmem
  rcases hmem with rfl | hmem | rfl
  · exact hdollar rfl
  · simp [hall c hmem] at hword
  · exact hdollar rfl

theorem ne_nil_of_isVariable {name : Text} (h : isVariable name = true) : name ≠ [] := by
  rintro rfl
  exact absurd h (by decide)

theorem plain_of_isVariable {name : Text} (h : isVariable name = true) : name.Plain := by
  have hline : '\n' ∉ name := notMem_of_isVariable h (by decide) (by decide +kernel)
  obtain ⟨word, rfl, -⟩ := isVariable_cases h
  exact ⟨hline, by simp [Text.isBlank], by rw [List.getLast?_concat]; simp [Text.isBlank]⟩

end Name

/-! ## Keys of transitions -/

namespace TransitionKey

/-- A key as it is written. -/
def text : TransitionKey → Text
  | .pattern p => '"' :: p.source ++ ['"']
  | .guarded p guard => '"' :: p.source ++ ['"', ',', ' '] ++ guard
  | .wildcard => "REST".toList

/-- A key that can be written: nothing breaks the line, no arrow stands in a pattern and no
separator in one without a guard, and the guard is an expression. -/
def IsCanonical : TransitionKey → Prop
  | .pattern p =>
    '\n' ∉ p.source ∧ ¬ ['-', '>'] <:+: p.source ∧ ¬ ['"', ',', ' '] <:+: p.source
  | .guarded p guard =>
    '\n' ∉ p.source ∧ ¬ ['-', '>'] <:+: p.source ∧ Expr.isWellFormed .boolean guard = true ∧
      '\n' ∉ guard ∧ guard.getLast?.any Text.isBlank = false
  | .wildcard => True

instance : DecidablePred IsCanonical
  | .pattern _ => inferInstanceAs (Decidable (_ ∧ _ ∧ _))
  | .guarded _ _ => inferInstanceAs (Decidable (_ ∧ _ ∧ _ ∧ _ ∧ _))
  | .wildcard => inferInstanceAs (Decidable True)

/-- A key that its text alone tells: no separator stands in a pattern without a guard, and a guard
is an expression. -/
def IsSeparable : TransitionKey → Prop
  | .pattern p => ¬ ['"', ',', ' '] <:+: p.source
  | .guarded _ guard => Expr.isWellFormed .boolean guard = true
  | .wildcard => True

variable {key : TransitionKey}

/-- A canonical key is split where its pattern ends. -/
theorem IsCanonical.separable (h : key.IsCanonical) : key.IsSeparable := by
  cases key with
  | pattern p => exact h.2.2
  | guarded p guard => exact h.2.2.1
  | wildcard => trivial

theorem text_ne_nil (key : TransitionKey) : key.text ≠ [] := by
  cases key <;> simp [text]

/-- No empty text is a guard. -/
theorem isWellFormed_ne_nil {guard : Text} (h : Expr.isWellFormed .boolean guard = true) :
    guard ≠ [] := by
  rintro rfl
  exact absurd h (by decide +kernel)

/-- A canonical key is plain, whatever its pattern begins and ends with, because of the quotes. -/
theorem IsCanonical.plain (h : key.IsCanonical) : key.text.Plain := by
  cases key with
  | pattern p =>
    exact
      { line := by simpa [text] using h.1
        head := by simp [text, Text.isBlank]
        last := by rw [text, List.getLast?_concat]; simp [Text.isBlank] }
  | guarded p guard =>
    obtain ⟨hsource, -, hguard, hline, hlast⟩ := h
    exact
      { line := by simpa [text] using ⟨hsource, hline⟩
        head := by simp [text, Text.isBlank]
        last := by rwa [text, List.getLast?_append_of_ne_nil _ (isWellFormed_ne_nil hguard)] }
  | wildcard => decide

/-- A canonical key has no arrow, so the arrow behind it is the first one on its line. -/
theorem IsCanonical.arrow_free (h : key.IsCanonical) : ¬ ['-', '>'] <:+: key.text := by
  cases key with
  | pattern p =>
    have hfront : ¬ ['-', '>'] <:+: '"' :: p.source :=
      Text.not_infix_append (s := ['"']) (by decide) h.2.1 (by simp)
    exact Text.not_infix_append hfront (by decide) (by simp)
  | guarded p guard =>
    obtain ⟨-, hsource, hguard, -, -⟩ := h
    have hfront : ¬ ['-', '>'] <:+: '"' :: p.source :=
      Text.not_infix_append (s := ['"']) (by decide) hsource (by simp)
    have hseparated := Text.not_infix_append (t := ['"', ',', ' ']) hfront (by decide) (by simp)
    refine Text.not_infix_append hseparated (Expr.marks_of_isWellFormed hguard).2 ?_
    rw [List.getLast?_append_of_ne_nil _ (by simp)]
    simp
  | wildcard => decide

end TransitionKey

namespace Script

/-- A key is read from what is written. -/
theorem readKey_text {key : TransitionKey} (h : key.IsSeparable) (line : Nat) :
    readKey line key.text = .ok key := by
  have hpattern (p : Pattern) : patternOn line p.source = .ok p := by
    rw [patternOn, Pattern.ofSource?_source]
  cases key with
  | pattern p =>
    have hnone : splitGuarded ('"' :: p.source ++ ['"']) = none := by
      refine splitLast_eq_none fun hinside => ?_
      -- the separator ends in a blank, so it does not reach the closing quote
      rcases List.infix_concat_iff.mp hinside with ⟨before, hsuffix⟩ | hinside
      · simpa using congrArg List.getLast? hsuffix
      · exact h hinside
    have hunquote : unquote ('"' :: p.source ++ ['"']) = some p.source := by
      rw [List.cons_append, unquote, List.getLast?_concat, if_pos rfl, List.dropLast_concat]
    rw [readKey, if_neg (by simp [TransitionKey.text]), TransitionKey.text, hnone]
    dsimp only
    rw [hunquote]
    dsimp only
    rw [hpattern]
    rfl
  | guarded p guard =>
    have hguard : Expr.isWellFormed .boolean guard = true := h
    have hquote : '"' ∉ [',', ' '] ++ guard :=
      List.not_mem_append (by decide) (Expr.marks_of_isWellFormed hguard).1
    have hsplit : splitGuarded ('"' :: p.source ++ ['"', ',', ' '] ++ guard)
        = some (p.source, guard) :=
      splitLast_append p.source (by simp) (Text.not_infix_of_notMem (by simp) hquote)
    rw [readKey, if_neg (by simp [TransitionKey.text]), TransitionKey.text, hsplit]
    dsimp only
    rw [if_pos hguard, hpattern]
    rfl
  | wildcard => rfl

/-! ## Instructions -/

namespace Instruction

/-- What stands on the line of an instruction in front of its text. -/
def front : Instruction → Text
  | .retry _ => ['#']
  | .transition t => t.key.text ++ " ->".toList
  | .assignment a => a.target ++ " <-".toList

/-- The text behind it. -/
def content : Instruction → Text
  | .retry t => t
  | .transition t => t.target
  | .assignment a => a.value

/-- The line of an instruction: `# text`, `key -> target` or `variable <- value`. -/
def text (instruction : Instruction) : Text := instruction.front ++ ' ' :: instruction.content

/-- An instruction that can be written: its texts are plain, its names are names, and no arrow
stands in a value. -/
def IsCanonical : Instruction → Prop
  | .retry t => t.Plain
  | .transition t => t.key.IsCanonical ∧ Name.isStateKey t.target = true
  | .assignment a =>
    Name.isVariable a.target = true ∧ a.value.Plain ∧ ¬ ['-', '>'] <:+: a.value

instance : DecidablePred IsCanonical
  | .retry t => inferInstanceAs (Decidable t.Plain)
  | .transition _ => inferInstanceAs (Decidable (_ ∧ _))
  | .assignment _ => inferInstanceAs (Decidable (_ ∧ _ ∧ _))

end Instruction

/-- A line without `#` in front is a transition if it has an arrow. -/
theorem readInstruction_of_arrow {line : Nat} {t left right : Text} (hhead : t.head? ≠ some '#')
    (hsplit : Text.splitOnce ['-', '>'] t = some (left, right)) :
    readInstruction line t = (let target := Text.trim right
      if Name.isStateKey target then do
        let key ← readKey line (Text.trim left)
        return .transition ⟨key, target⟩
      else .error (.source .target target line)) := by
  unfold readInstruction
  split
  next rest => simp at hhead
  next => rw [hsplit]

/-- Without an arrow it is an assignment. -/
theorem readInstruction_of_assignment {line : Nat} {t left right : Text}
    (hhead : t.head? ≠ some '#') (harrow : Text.splitOnce ['-', '>'] t = none)
    (hsplit : Text.splitOnce ['<', '-'] t = some (left, right)) :
    readInstruction line t = (let target := Text.trim left
      if Name.isVariable target then .ok (.assignment ⟨target, Text.trim right⟩)
      else .error (.source .variableName target line)) := by
  unfold readInstruction
  split
  next rest => simp at hhead
  next => rw [harrow]; dsimp only; rw [hsplit]

namespace Instruction

variable {instruction : Instruction}

theorem front_ne_nil (instruction : Instruction) : instruction.front ≠ [] := by
  cases instruction <;> simp [front]

/-- What an instruction writes in front of its content is plain. -/
theorem IsCanonical.plain_front (h : instruction.IsCanonical) : instruction.front.Plain := by
  cases instruction with
  | retry t =>
    have hmark : Text.Plain ['#'] := by decide
    exact hmark
  | transition t =>
    exact h.1.plain.append t.key.text_ne_nil _ (by decide) (by decide) (by decide)
  | assignment a =>
    exact (Name.plain_of_isVariable h.1).append (Name.ne_nil_of_isVariable h.1) _ (by decide)
      (by decide) (by decide)

/-- The content of a canonical instruction is plain. -/
theorem IsCanonical.plain_content (h : instruction.IsCanonical) : instruction.content.Plain := by
  cases instruction with
  | retry t => exact h
  | transition t => exact Name.plain_of_isStateKey h.2
  | assignment a => exact h.2.1

end Instruction

section Read

variable {rest : Text}

/-- A transition is read from its line, however many blanks are behind the arrow. -/
theorem readInstruction_transition {transition : Transition}
    (h : (Instruction.transition transition).IsCanonical)
    (hrest : Text.trim rest = transition.target) (line : Nat) :
    readInstruction line (transition.key.text ++ " ->".toList ++ rest)
      = .ok (.transition transition) := by
  obtain ⟨hkey, htarget⟩ := h
  have hhead : (transition.key.text ++ " ->".toList ++ rest).head? ≠ some '#' := by
    cases transition.key <;> simp [TransitionKey.text]
  have hfront : ¬ ['-', '>'] <:+: transition.key.text ++ [' '] ++ ['-'] := by
    have hspaced := Text.not_infix_append (t := [' ']) hkey.arrow_free (by decide) (by simp)
    exact Text.not_infix_append hspaced (by decide) (by simp)
  have hparts : transition.key.text ++ " ->".toList ++ rest
      = transition.key.text ++ [' '] ++ ['-', '>'] ++ rest := by simp
  have hsplit : Text.splitOnce ['-', '>'] (transition.key.text ++ " ->".toList ++ rest)
      = some (transition.key.text ++ [' '], rest) := by
    rw [hparts]
    exact Text.splitOnce_append (by simp) hfront _
  rw [readInstruction_of_arrow hhead hsplit]
  dsimp only
  rw [hrest, if_pos htarget, hkey.plain.trim_concat, readKey_text hkey.separable]
  rfl

/-- An assignment is read from its line, however many blanks are behind the sign. -/
theorem readInstruction_assignment {assignment : Assignment}
    (h : (Instruction.assignment assignment).IsCanonical)
    (hfirst : rest <+: ' ' :: assignment.value)
    (hrest : Text.trim rest = assignment.value) (line : Nat) :
    readInstruction line (assignment.target ++ " <-".toList ++ rest)
      = .ok (.assignment assignment) := by
  obtain ⟨hname, hvalue, harrow⟩ := h
  have hhead : (assignment.target ++ " <-".toList ++ rest).head? ≠ some '#' := by
    obtain ⟨word, hword, -⟩ := Name.isVariable_cases hname
    simp [hword]
  have hminus : '-' ∉ assignment.target :=
    Name.notMem_of_isVariable hname (by decide) (by decide +kernel)
  -- there is no arrow in front of the sign, behind it or across it
  have hnone : Text.splitOnce ['-', '>'] (assignment.target ++ " <-".toList ++ rest) = none := by
    refine Text.splitOnce_eq_none ?_
    have hbehind : ¬ ['-', '>'] <:+: rest := fun hinside =>
      Text.not_infix_append (s := [' ']) (by decide) harrow (by simp)
        (hinside.trans hfirst.isInfix)
    have hname : ¬ ['-', '>'] <:+: assignment.target :=
      Text.not_infix_of_notMem (List.mem_cons_self ..) hminus
    have hfront := Text.not_infix_append (t := " <-".toList) hname (by decide) (by simp)
    refine Text.not_infix_append hfront hbehind fun _ hgreater => ?_
    obtain ⟨more, rfl⟩ := List.head?_eq_some_iff.mp hgreater
    exact absurd (List.cons_prefix_cons.mp hfirst).1 (by decide)
  have hparts : assignment.target ++ " <-".toList ++ rest
      = assignment.target ++ [' '] ++ ['<', '-'] ++ rest := by simp
  -- the minus of the sign is the first one on the line
  have hsplit : Text.splitOnce ['<', '-'] (assignment.target ++ " <-".toList ++ rest)
      = some (assignment.target ++ [' '], rest) := by
    rw [hparts]
    refine Text.splitOnce_append (by simp) (Text.not_infix_of_notMem (c := '-') (by simp) ?_) _
    simpa using hminus
  rw [readInstruction_of_assignment hhead hnone hsplit]
  dsimp only
  rw [(Name.plain_of_isVariable hname).trim_concat, if_pos hname, hrest]

/-- **An instruction is read from its line** without the blanks around it. -/
theorem readInstruction_text {instruction : Instruction} (h : instruction.IsCanonical)
    (line : Nat) : readInstruction line (Text.trim instruction.text) = .ok instruction := by
  obtain ⟨rest, hfirst, hrest, htrim⟩ :=
    h.plain_front.trim_append instruction.front_ne_nil h.plain_content
  rw [Instruction.text, htrim]
  cases instruction with
  | retry t =>
    have hread : readInstruction line ('#' :: rest) = .ok (.retry (Text.trim rest)) := rfl
    exact hread.trans (by rw [hrest]; rfl)
  | transition t => exact readInstruction_transition h hrest line
  | assignment a => exact readInstruction_assignment h hfirst hrest line

end Read

end Script

end DialogueScript
