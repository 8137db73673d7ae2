import DialogueScript.Pattern.Never
import DialogueScript.Pattern.Reader
import DialogueScript.Pattern.Size

/-!
# Patterns

A pattern is a text in the notation of patterns with a program that searches for it. There are two
programs for the text of the pattern that matches nothing: made from its text it ignores case, as
all patterns do, but that of wildcards does not. As patterns are equal when their texts are, they
are taken up to that; a search finds the same with either program
(`Pattern.Searcher.search_eq`).

Main statements: `Pattern.ext_source` (equal texts, equal patterns), `Pattern.source_ofSource?`
(a pattern keeps its text), `Pattern.ofSource?_source` (its text makes it again) and
`Pattern.infix_of_find` (what a search finds is a piece of the text).
-/

namespace DialogueScript

/-- The program of a text that is read in some modes, unless it is no pattern or takes too much
room. -/
def Pattern.programIn? (m : Pattern.Modes) (source : Text) : Option Pattern.Program :=
  match Pattern.readPatternIn m source with
  | some regex => if regex.fits then some regex.program else none
  | none => none

/-- The program of a pattern's text. -/
def Pattern.programOf? (source : Text) : Option Pattern.Program :=
  Pattern.programIn? .initial source

/-- The program with which a pattern that was written down searches again. That of wildcards is made
where case counts, all others as they were. -/
def Pattern.restoredProgram? (source : Text) : Option Pattern.Program :=
  if source = wildcardSource then programIn? .exact source else programOf? source

/-- A text with a program that searches for it, made from the text as it stands or as it was written
down. -/
structure Pattern.Searcher where
  source : Text
  program : Pattern.Program
  reads : Pattern.programOf? source = some program ∨ Pattern.restoredProgram? source = some program

namespace Pattern

theorem programOf?_wildcardSource : programOf? wildcardSource = some caselessWildcard := by
  decide +kernel

/-- Case makes no difference to whether the text of the pattern is one. -/
theorem programIn?_exact : programIn? .exact wildcardSource = some exactWildcard := by
  decide +kernel

theorem restoredProgram?_wildcardSource :
    restoredProgram? wildcardSource = some exactWildcard := by
  rw [restoredProgram?, if_pos rfl, programIn?_exact]

namespace Searcher

/-- With the text of the pattern that matches nothing, either program finds nothing. -/
theorem search_eq_none {searcher : Searcher} (h : searcher.source = wildcardSource) (t : Text) :
    search searcher.program t = none := by
  rcases searcher.reads with hreads | hreads
  · rw [h, programOf?_wildcardSource] at hreads
    exact Option.some.inj hreads ▸ search_caselessWildcard t
  · rw [h, restoredProgram?_wildcardSource] at hreads
    exact Option.some.inj hreads ▸ search_exactWildcard t

/-- With any other text there is one program only. -/
theorem programOf?_source {searcher : Searcher} (h : searcher.source ≠ wildcardSource) :
    programOf? searcher.source = some searcher.program := by
  rcases searcher.reads with hreads | hreads
  · exact hreads
  · rwa [restoredProgram?, if_neg h] at hreads

/-- The text can be made into a pattern again. -/
theorem exists_programOf? (searcher : Searcher) :
    ∃ program, programOf? searcher.source = some program := by
  by_cases h : searcher.source = wildcardSource
  · exact ⟨caselessWildcard, h ▸ programOf?_wildcardSource⟩
  · exact ⟨searcher.program, programOf?_source h⟩

/-- And so it can when it was written down. -/
theorem exists_restoredProgram? (searcher : Searcher) :
    ∃ program, restoredProgram? searcher.source = some program := by
  by_cases h : searcher.source = wildcardSource
  · exact ⟨exactWildcard, h ▸ restoredProgram?_wildcardSource⟩
  · exact ⟨searcher.program, by rw [restoredProgram?, if_neg h, programOf?_source h]⟩

/-- What is found depends on the text alone. -/
theorem search_eq {first second : Searcher} (h : first.source = second.source) :
    search first.program = search second.program := by
  by_cases hwildcard : first.source = wildcardSource
  · funext t
    rw [search_eq_none hwildcard, search_eq_none (h ▸ hwildcard)]
  · have hfirst := programOf?_source hwildcard
    rw [h, programOf?_source (h ▸ hwildcard)] at hfirst
    rw [Option.some.inj hfirst]

/-- Searchers for the same text. -/
def sameText : Setoid Searcher where
  r first second := first.source = second.source
  iseqv := ⟨fun _ => rfl, Eq.symm, Eq.trans⟩

end Searcher

end Pattern

/-- A pattern: a text with a program that searches for it, whichever of its programs that is. -/
def Pattern : Type := Quotient Pattern.Searcher.sameText

namespace Pattern

/-- The pattern that searches with a program of its text. -/
def ofSearcher (searcher : Searcher) : Pattern := Quotient.mk Searcher.sameText searcher

/-- The text of a pattern. -/
def source (p : Pattern) : Text := Quotient.lift Searcher.source (fun _ _ h => h) p

/-- Where the pattern first matches. -/
def locate (p : Pattern) (t : Text) : Option Match :=
  Quotient.lift (fun searcher : Searcher => search searcher.program)
    (fun _ _ => Searcher.search_eq) p t

theorem ext_source {p q : Pattern} (h : p.source = q.source) : p = q := by
  induction p using Quotient.ind with
  | _ first =>
    induction q using Quotient.ind with
    | _ second => exact Quotient.sound h

instance : DecidableEq Pattern := fun p q =>
  if h : p.source = q.source then isTrue (ext_source h)
  else isFalse fun he => h (by rw [he])

/-- The pattern with a text. -/
def ofSource? (source : Text) : Option Pattern :=
  match h : programOf? source with
  | some program => some (ofSearcher ⟨source, program, .inl h⟩)
  | none => none

theorem source_ofSource? {source : Text} {p : Pattern} (h : ofSource? source = some p) :
    p.source = source := by
  unfold ofSource? at h
  split at h
  · simp only [Option.some.injEq] at h
    rw [← h]
    rfl
  · simp at h

theorem ofSource?_source (p : Pattern) : ofSource? p.source = some p := by
  unfold ofSource?
  split
  next => exact congrArg some (ext_source rfl)
  next h =>
    induction p using Quotient.ind with
    | _ searcher =>
      obtain ⟨program, hprogram⟩ := searcher.exists_programOf?
      exact absurd (hprogram.symm.trans h) (Option.some_ne_none program)

/-- The pattern that matches nothing. -/
def wildcard : Pattern :=
  ofSearcher ⟨wildcardSource, exactWildcard, .inr restoredProgram?_wildcardSource⟩

/-- The pattern with a text that was written down. The text of the pattern that matches nothing
gives that one back. -/
def restore? (source : Text) : Option Pattern :=
  if source = wildcardSource then some wildcard else ofSource? source

/-- The text of a match. -/
def Match.text (m : Match) (t : Text) : Text := (t.drop m.first).take (m.last - m.first)

/-- The text that the pattern first matches. -/
def find (p : Pattern) (t : Text) : Option Text := (p.locate t).map (·.text t)

/-- What is found is a piece of the text. -/
theorem infix_of_find {p : Pattern} {t found : Text} (h : p.find t = some found) :
    found <:+: t := by
  obtain ⟨m, -, rfl⟩ := Option.map_eq_some_iff.mp h
  exact (List.take_prefix _ _).isInfix.trans (List.drop_suffix _ _).isInfix

/-- Does the pattern match anywhere? -/
def isMatch (p : Pattern) (t : Text) : Bool := (p.locate t).isSome

end Pattern

end DialogueScript
