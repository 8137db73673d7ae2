import DialogueScript.Engine.Step
import DialogueScript.Script.Json

/-!
# The pattern of wildcards

The pattern of wildcards takes a character that is neither blank nor not, and there is none, whether
case counts or not (`Pattern.search_exactWildcard`, `Pattern.search_caselessWildcard`). So it makes
no difference in which of the ways it is made, and a wildcard that is searched in turn with the
other transitions is never taken (`wildcard_finds_nothing`).
-/

namespace DialogueScript

namespace Pattern

/-! ## Nothing is found -/

/-- The pattern is found in no text. -/
def FindsNothing (p : Pattern) : Prop := ∀ t, p.find t = none ∧ p.isMatch t = false

/-- The pattern that stands for wildcards finds nothing in any text. -/
theorem findsNothing_wildcard : wildcard.FindsNothing := fun t => by
  have hlocate : wildcard.locate t = none := search_exactWildcard t
  simp [find, isMatch, hlocate]

/-- A pattern with the text of the wildcard's is that pattern, in whatever way it was made. -/
theorem eq_wildcard {p : Pattern} (h : p.source = wildcardSource) : p = wildcard := ext_source h

theorem ofSource?_wildcardSource : ofSource? wildcardSource = some wildcard :=
  ofSource?_source wildcard

/-- A pattern finds what it found before it was written down. -/
theorem search_restored (p : Pattern) :
    ∃ program, restoredProgram? p.source = some program ∧ ∀ t, search program t = p.locate t := by
  induction p using Quotient.ind with
  | _ searcher =>
    obtain ⟨program, hprogram⟩ := searcher.exists_restoredProgram?
    exact ⟨program, hprogram,
      congrFun (@Searcher.search_eq ⟨_, program, .inr hprogram⟩ searcher rfl)⟩

/-- A pattern that was written down is given back by its text. -/
theorem restore?_source (p : Pattern) : restore? p.source = some p := by
  unfold restore?
  split
  next h => rw [eq_wildcard h]
  next => exact ofSource?_source p

end Pattern

/-- The key of a transition that was written as JSON reads back. -/
theorem TransitionKey.ofJson?_toJson (key : TransitionKey) : ofJson? key.toJson = some key := by
  cases key with
  | pattern p =>
    show (Pattern.restore? p.source).bind (fun p => some (TransitionKey.pattern p)) = _
    rw [Pattern.restore?_source]
    rfl
  | guarded p guard =>
    show (Pattern.restore? p.source).bind (fun p => some (TransitionKey.guarded p guard)) = _
    rw [Pattern.restore?_source]
    rfl
  | wildcard => rfl

/-! ## Wildcards among other transitions -/

namespace Engine

/-- A wildcard searches with that pattern. -/
theorem search_of_isWildcard {key : TransitionKey} (h : key.isWildcard = true) :
    key.search = .wildcard := by
  cases key with
  | wildcard => rfl
  | pattern _ | guarded _ _ => cases h

/-- Searching the wildcards as well does not change which transition is taken. -/
theorem firstAccepting_filter (env : Environment) (response : Text)
    (transitions : List Transition) :
    firstAccepting env response (transitions.filter fun transition => !transition.key.isWildcard)
      = firstAccepting env response transitions := by
  induction transitions with
  | nil => rfl
  | cons transition rest ih =>
    cases hwildcard : transition.key.isWildcard with
    | true =>
      rw [List.filter_cons_of_neg (by simp [hwildcard]), ih, firstAccepting,
        search_of_isWildcard hwildcard, (Pattern.findsNothing_wildcard response).1]
    | false =>
      rw [List.filter_cons_of_pos (by simp [hwildcard]), firstAccepting, firstAccepting, ih]

end Engine

/-- **The pattern of wildcards is found in no text**, whether it is taken as it stands, made from
its text, read back from a key in JSON, guarded or not, or read where case counts. So whatever the
state and the response, no wildcard is found by its pattern, and searching the wildcards in their
turn with all other transitions takes the same one as leaving them out. -/
theorem wildcard_finds_nothing :
    Pattern.wildcard.FindsNothing ∧
    (∃ p, Pattern.ofSource? Pattern.wildcardSource = some p ∧ p.FindsNothing) ∧
    (∃ p, TransitionKey.ofJson? (.ofFields [("kind", .text "pattern".toList),
      ("pattern", .text Pattern.wildcardSource)]) = some (.pattern p) ∧ p.FindsNothing) ∧
    (∀ guard, ∃ p, TransitionKey.ofJson? (.ofFields [("kind", .text "guardedPattern".toList),
      ("pattern", .text Pattern.wildcardSource), ("guard", .text guard)]) = some (.guarded p guard) ∧
        p.FindsNothing) ∧
    (∃ program, Pattern.programIn? .exact Pattern.wildcardSource = some program ∧
      ∀ t, Pattern.search program t = none) ∧
    ∀ (env : Environment) (state : ScriptState) (response : Text),
      (∀ transition ∈ state.transitions, transition.key.isWildcard = true →
        transition.key.search.find response = none ∧
          transition.key.search.isMatch response = false) ∧
      Engine.firstAccepting env response state.transitions
        = Engine.firstAccepting env response state.ordered := by
  have hnothing := Pattern.findsNothing_wildcard
  refine ⟨hnothing, ⟨_, Pattern.ofSource?_wildcardSource, hnothing⟩,
    ⟨_, TransitionKey.ofJson?_toJson (.pattern .wildcard), hnothing⟩,
    fun guard => ⟨_, TransitionKey.ofJson?_toJson (.guarded .wildcard guard), hnothing⟩,
    ⟨_, Pattern.programIn?_exact, Pattern.search_exactWildcard⟩,
    fun env state response => ⟨fun transition _ hwildcard => ?_, ?_⟩⟩
  · rw [Engine.search_of_isWildcard hwildcard]
    exact hnothing response
  · exact (Engine.firstAccepting_filter env response state.transitions).symm

end DialogueScript
