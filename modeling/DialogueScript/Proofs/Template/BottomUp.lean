import DialogueScript.Proofs.Template.Replacement
import Mathlib.Data.List.Basic

/-!
# Resolving is bottom-up evaluation

Arithmetic and choices are resolved by searching the whole text for the leftmost innermost wanted
pair of braces, replacing it and searching again. That is the same as rewriting the brace structure
once, from the inside out and from left to right (`bottomUp_resolve`), because what replaces
a pair has no braces: in front of the pair that is found nothing is left to replace
(`scan_of_settled`), and reading on behind the replacement is reading on behind the pair.
-/

namespace DialogueScript.Template

section Find

variable {wanted : Text → Bool}

/-! ## The pair that is found -/

/-- A span is closed by the first closing brace, if what is in front of it is to be replaced. -/
theorem closeSpan_eq_some_iff {t inner after : Text} : closeSpan wanted t = some (inner, after) ↔
    t = inner ++ '}' :: after ∧ isReplaceable wanted inner = true := by
  constructor
  · intro h
    -- the text splits where its first brace stands
    have hfront := List.take_append_drop (t.takeWhile (!isBrace ·)).length t
    rw [← List.prefix_iff_eq_take.mp (List.takeWhile_prefix _)] at hfront
    simp only [closeSpan] at h
    split at h
    next rest hrest =>
      rw [hrest] at hfront
      split at h
      next hwanted =>
        simp only [Option.some.injEq, Prod.mk.injEq] at h
        obtain ⟨rfl, rfl⟩ := h
        exact ⟨hfront.symm, Bool.and_eq_true_iff.mpr ⟨List.all_takeWhile, hwanted⟩⟩
      next => simp at h
    next => simp at h
  · rintro ⟨rfl, h⟩
    obtain ⟨hplain, hwanted⟩ := Bool.and_eq_true_iff.mp h
    have hfront : (inner ++ '}' :: after).takeWhile (!isBrace ·) = inner := by
      rw [List.takeWhile_append_of_pos (List.all_eq_true.mp hplain)]
      simp [isBrace]
    simp only [closeSpan, hfront, List.drop_left]
    rw [if_pos hwanted]

/-- There is no span if none begins here and none further on. -/
theorem findSpan_cons_eq_none_iff {c : Char} {rest : Text} : findSpan wanted (c :: rest) = none ↔
    (c = '{' → closeSpan wanted rest = none) ∧ findSpan wanted rest = none := by
  rw [findSpan]
  by_cases hopen : c = '{'
  · rw [if_pos hopen]
    cases hclose : closeSpan wanted rest <;> simp [hopen]
  · simp [hopen]

/-- The pair that is found is wanted, and there is none in front of it. -/
theorem findSpan_eq_some {span : Span} : ∀ {t : Text}, findSpan wanted t = some span →
    t = span.before ++ '{' :: (span.inner ++ '}' :: span.after) ∧
    isReplaceable wanted span.inner = true ∧ findSpan wanted span.before = none := by
  intro t
  induction t generalizing span with
  | nil => simp [findSpan]
  | cons c rest ih =>
    intro h
    rw [findSpan] at h
    split at h
    next inner after hclose =>
      cases Option.some.inj h
      split at hclose
      next hopen =>
        obtain ⟨hrest, hwanted⟩ := closeSpan_eq_some_iff.mp hclose
        exact ⟨by simp [hopen, hrest], hwanted, rfl⟩
      next => simp at hclose
    next hnone =>
      obtain ⟨later, hlater, rfl⟩ := Option.map_eq_some_iff.mp h
      obtain ⟨hrest, hwanted, hbefore⟩ := ih hlater
      refine ⟨by rw [hrest]; rfl, hwanted, findSpan_cons_eq_none_iff.mpr ⟨fun hopen => ?_, hbefore⟩⟩
      -- a pair that closes in front of the one that is found would have been found first
      cases hclose : closeSpan wanted later.before with
      | none => rfl
      | some parts =>
        obtain ⟨hparts, hinside⟩ := closeSpan_eq_some_iff.mp (show closeSpan wanted later.before
          = some (parts.1, parts.2) from hclose)
        have hfirst : closeSpan wanted rest
            = some (parts.1, parts.2 ++ '{' :: (later.inner ++ '}' :: later.after)) :=
          closeSpan_eq_some_iff.mpr ⟨by rw [hrest, hparts]; simp, hinside⟩
        rw [if_pos hopen, hfirst] at hnone
        simp at hnone

/-- A pair to be replaced is found, unless another one is found first. -/
theorem findSpan_append_ne_none {inner after : Text} (h : isReplaceable wanted inner = true) :
    ∀ before : Text, findSpan wanted (before ++ '{' :: (inner ++ '}' :: after)) ≠ none := by
  intro before
  induction before with
  | nil =>
    intro hnone
    have hclose := (findSpan_cons_eq_none_iff.mp hnone).1 rfl
    rw [closeSpan_eq_some_iff.mpr ⟨rfl, h⟩] at hclose
    simp at hclose
  | cons c before ih => exact fun hnone => ih (findSpan_cons_eq_none_iff.mp hnone).2

end Find

/-! ## The loop -/

section Loop

variable (wanted : Text → Bool) (replace : Text → Text)

/-- A run of the loop that replaces the pair that is found until none is, with the insides that it
replaces and the text that it ends with. -/
inductive Rewrites : Text → List Text → Text → Prop
  | stop {t : Text} (hnone : findSpan wanted t = none) : Rewrites t [] t
  | step {t result : Text} {span : Span} {replaced : List Text}
      (hfound : findSpan wanted t = some span)
      (hrest : Rewrites (span.before ++ replace span.inner ++ span.after) replaced result) :
      Rewrites t (span.inner :: replaced) result

variable {wanted replace}

/-- Text behind braces that stay open is simply appended. -/
theorem leaveTextOpen_append (stack : List Text) :
    ∀ text more : Text, leaveTextOpen stack (text ++ more) = leaveTextOpen stack text ++ more := by
  induction stack with
  | nil => exact fun text more => rfl
  | cons front stack ih =>
    intro text more
    have hfront := ih (front ++ '{' :: text) more
    rwa [List.append_assoc] at hfront

/-- Characters that are no braces are read one by one. -/
theorem scan_plain (stack : List Text) : ∀ (plain text rest : Text),
    IsPlain plain →
    scan wanted replace stack text (plain ++ rest)
      = scan wanted replace stack (text ++ plain) rest := by
  intro plain
  induction plain with
  | nil => simp
  | cons c plain ih =>
    intro text rest hplain
    obtain ⟨hc, hplain⟩ := isPlain_cons.mp hplain
    rw [List.cons_append, scan_char _ _ _ _ _ hc, ih _ _ hplain, List.append_assoc]
    rfl

/-- Where nothing is found, nothing is replaced in reading. -/
theorem scan_of_settled : ∀ (t : Text) (stack : List Text) (text : Text),
    findSpan wanted (leaveTextOpen stack text ++ t) = none →
    ∃ stack' text', leaveTextOpen stack' text' = leaveTextOpen stack text ++ t ∧
      ∀ rest, scan wanted replace stack text (t ++ rest)
        = scan wanted replace stack' text' rest := by
  intro t
  induction t with
  | nil => exact fun stack text _ => ⟨stack, text, by simp, fun _ => rfl⟩
  | cons c t ih =>
    intro stack text hnone
    -- one more character that is kept, and the rest of the text
    have hkept : ∀ stack' text', leaveTextOpen stack' text' = leaveTextOpen stack text ++ [c] →
        (∀ rest, scan wanted replace stack text (c :: rest)
          = scan wanted replace stack' text' rest) →
        ∃ stack'' text'', leaveTextOpen stack'' text'' = leaveTextOpen stack text ++ c :: t ∧
          ∀ rest, scan wanted replace stack text (c :: t ++ rest)
            = scan wanted replace stack'' text'' rest := by
      intro stack' text' hsame hscan
      have hall : leaveTextOpen stack' text' ++ t = leaveTextOpen stack text ++ c :: t := by
        simp [hsame]
      obtain ⟨stack'', text'', hflat, hread⟩ := ih stack' text' (hall ▸ hnone)
      exact ⟨stack'', text'', hflat.trans hall, fun rest => (hscan (t ++ rest)).trans (hread rest)⟩
    rcases brace_cases c with rfl | rfl | hchar
    · exact hkept (text :: stack) [] (leaveTextOpen_append stack text ['{']) fun rest =>
        scan_open wanted replace stack text rest
    · cases stack with
      | nil => exact hkept [] (text ++ ['}']) rfl fun rest => scan_stray wanted replace text rest
      | cons front stack =>
        have hopen : leaveTextOpen (front :: stack) text
            = leaveTextOpen stack front ++ '{' :: text := leaveTextOpen_append stack front _
        -- a wanted pair that closes here would be found
        have hleft : isReplaceable wanted text = false := by
          rw [hopen, List.append_assoc] at hnone
          exact Bool.eq_false_iff.mpr fun h => findSpan_append_ne_none h _ hnone
        refine hkept stack (front ++ ('{' :: text ++ ['}'])) ?_ fun rest => ?_
        · rw [leaveTextOpen_append, hopen]
          simp
        · rw [scan_close, closePair, hleft]
          rfl
    · exact hkept stack (text ++ [c]) (leaveTextOpen_append stack text [c]) fun rest =>
        scan_char wanted replace stack text rest hchar

/-- The loop ends with what reading the text once gives. -/
theorem rewrites_scan
    (hplain : ∀ inner, isReplaceable wanted inner = true → IsPlain (replace inner))
    (t : Text) :
    Rewrites wanted replace t (scan wanted replace [] [] t).replaced
        (scan wanted replace [] [] t).text ∧
      (scan wanted replace [] [] t).replaced.length ≤ t.count '{' := by
  cases hfind : findSpan wanted t with
  | none =>
    obtain ⟨stack, text, hsame, hread⟩ := @scan_of_settled wanted replace t [] [] hfind
    have hscan := hread []
    rw [List.append_nil, scan_nil, hsame] at hscan
    rw [hscan]
    exact ⟨.stop hfind, Nat.zero_le _⟩
  | some span =>
    obtain ⟨ht, hwanted, hbefore⟩ := findSpan_eq_some hfind
    obtain ⟨stack, text, -, hread⟩ := @scan_of_settled wanted replace span.before [] [] hbefore
    have hinner := isPlain_of_isReplaceable hwanted
    -- the next round reads up to the replacement as this one did up to the pair
    have hnext : scan wanted replace [] [] (span.before ++ replace span.inner ++ span.after)
        = scan wanted replace stack (text ++ replace span.inner) span.after := by
      rw [List.append_assoc, hread, scan_plain _ _ _ _ (hplain _ hwanted)]
    have hscan : scan wanted replace [] [] t
        = ⟨(scan wanted replace stack (text ++ replace span.inner) span.after).text,
          span.inner :: (scan wanted replace stack (text ++ replace span.inner)
            span.after).replaced⟩ := by
      rw [ht, hread, scan_open, scan_plain _ _ _ _ hinner, List.nil_append, scan_close, closePair,
        if_pos hwanted]
      rfl
    -- every replacement takes one open brace away, which is why the loop ends
    have hfewer : (span.before ++ replace span.inner ++ span.after).count '{' + 1
        = t.count '{' := by
      rw [ht]
      simp [List.count_append, hinner.count_open, (hplain _ hwanted).count_open]
      omega
    have hrest := rewrites_scan hplain (span.before ++ replace span.inner ++ span.after)
    rw [hnext] at hrest
    rw [hscan]
    refine ⟨.step hfind hrest.1, ?_⟩
    have := hrest.2
    rw [List.length_cons]
    omega
termination_by t.count '{'
decreasing_by omega

/-- With fuel enough the loop runs to its end. -/
theorem Rewrites.resolveSpans_eq {replaceNoting : Text → Text × List Problem} {t result : Text}
    {replaced : List Text}
    (h : Rewrites wanted (fun inner => (replaceNoting inner).1) t replaced result) :
    ∀ {fuel : Nat}, replaced.length ≤ fuel → resolveSpans wanted replaceNoting fuel t
      = (result, replaced.flatMap fun inner => (replaceNoting inner).2) := by
  induction h with
  | stop hnone =>
    intro fuel _
    cases fuel with
    | zero => rfl
    | succ fuel => rw [resolveSpans, hnone]; rfl
  | step hfound _ ih =>
    intro fuel hfuel
    cases fuel with
    | zero => simp at hfuel
    | succ fuel =>
      rw [resolveSpans, hfound]
      dsimp only
      rw [ih (Nat.le_of_succ_le_succ hfuel)]
      rfl

end Loop

/-- A phase of rendering is a rewriting of the brace structure, bottom-up. -/
structure BottomUp (wanted : Text → Bool) (replace : Text → Text)
    (problem? : Text → Option Problem) (t : Text) (resolved : Text × List Problem) : Prop where
  text : resolved.1 = (rewriteAll wanted replace (matchBraces t)).text
  /-- One problem for each replacement that failed, in order. -/
  problems : resolved.2 = (rewriteAll wanted replace (matchBraces t)).replaced.filterMap problem?
  /-- The loop, without any fuel, ends after these replacements. -/
  ends : Rewrites wanted replace t (rewriteAll wanted replace (matchBraces t)).replaced
    (rewriteAll wanted replace (matchBraces t)).text
  length_le : (rewriteAll wanted replace (matchBraces t)).replaced.length ≤ t.count '{'

/-- If replacements have no braces, the loop ends with the rewriting of the structure. -/
theorem bottomUp_resolve {wanted : Text → Bool} {replace : Text → Text}
    {problem? : Text → Option Problem}
    (hplain : ∀ inner, isReplaceable wanted inner = true → IsPlain (replace inner)) (t : Text) :
    BottomUp wanted replace problem? t
      (resolve wanted (fun inner => (replace inner, (problem? inner).toList)) t) := by
  obtain ⟨hends, hlength⟩ := rewrites_scan hplain t
  rw [← rewriteAll_matchBraces] at hends hlength
  have hresolve : resolve wanted (fun inner => (replace inner, (problem? inner).toList)) t = _ :=
    Rewrites.resolveSpans_eq hends hlength
  exact
    { text := by rw [hresolve]
      problems := by rw [hresolve, List.filterMap_eq_flatMap_toList]
      ends := hends
      length_le := hlength }

/-! ## Arithmetic and choices -/

/-- The problem with arithmetic, if there is one. -/
def arithmeticProblem? (inner : Text) : Option Problem :=
  match Expr.evaluateNumber inner with
  | .ok _ => none
  | .error fault => some (.arithmetic fault inner)

/-- An arithmetic expression reports at most one problem. -/
theorem arithmeticText_eq (inner : Text) :
    arithmeticText inner = ((arithmeticText inner).1, (arithmeticProblem? inner).toList) := by
  unfold arithmeticText arithmeticProblem?
  cases Expr.evaluateNumber inner <;> rfl

/-- The problem with the guard of a choice, if there is one. -/
def choiceProblem? (inner : Text) : Option Problem :=
  let guard := ((Text.splitOnce ['@'] inner).getD (inner, [])).1
  match Expr.evaluateBool guard, readIndex (Text.trim guard) with
  | .error _, none => some (.optionGuard guard)
  | _, _ => none

/-- A choice reports at most one problem. -/
theorem chooseOption_eq (inner : Text) :
    chooseOption inner = ((chooseOption inner).1, (choiceProblem? inner).toList) := by
  unfold chooseOption choiceProblem?
  dsimp only
  cases Expr.evaluateBool ((Text.splitOnce ['@'] inner).getD (inner, [])).1 with
  | ok flag => rfl
  | error fault =>
    cases readIndex (Text.trim ((Text.splitOnce ['@'] inner).getD (inner, [])).1) <;> rfl

/-- **Resolving is bottom-up evaluation**: both phases of rendering rewrite the brace structure of a
text, from the inside out and from left to right, and their loops end by themselves. -/
theorem resolve_bottomUp (t : Text) :
    flattenAll (matchBraces t) = t ∧
    BottomUp isArithmetic (fun inner => (arithmeticText inner).1) arithmeticProblem? t
      (resolveArithmetic t) ∧
    BottomUp isChoice (fun inner => (chooseOption inner).1) choiceProblem? t
      (resolveChoices t) := by
  refine ⟨flattenAll_matchBraces t, ?_, ?_⟩
  · rw [resolveArithmetic, funext arithmeticText_eq]
    exact bottomUp_resolve (fun inner _ => isPlain_arithmeticText inner) t
  · rw [resolveChoices, funext chooseOption_eq]
    exact bottomUp_resolve (fun inner h =>
      (isPlain_of_isReplaceable h).of_subset (chooseOption_isInfix inner).subset) t

end DialogueScript.Template
