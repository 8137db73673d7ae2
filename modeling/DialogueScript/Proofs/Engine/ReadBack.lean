import DialogueScript.Engine.Step
import DialogueScript.Proofs.Engine.Turn
import DialogueScript.Proofs.Script.Layout
import DialogueScript.Proofs.Template.BottomUp
import DialogueScript.Proofs.Template.Evaluation
import DialogueScript.Proofs.Template.Walk

/-!
# Integers read back

The text of an integer is a numeric expression with this value, so a variable that holds it can be
used in spans, in typed assignments and in guards (`Engine.Usable`). There is one exception: the
digits of the least integer are too large without their sign, which is not part of the literal, so
the least integer can be computed but neither be written nor be used again
(`Engine.integer_reads_back_iff`).
-/

namespace DialogueScript

/-! ## Values of variables -/

namespace Expr

/-- If the instance of a tree has a value, its text has this value when literals take the places
of the variables. -/
theorem evaluate_of_instantiate {env : Environment} {tree : Tree} {kind : Kind}
    {value : kind.Result} (hgrammatical : tree.isGrammatical false = true)
    (hnesting : tree.nesting < maxNesting)
    (hbound : ∀ name ∈ tree.variables,
      ∃ value, env.get? name = some value ∧ value.isLiteral = true)
    (heval : (tree.instantiate env).eval kind = .ok value) :
    evaluate (Template.substitute env tree.text) kind = .ok value := by
  obtain ⟨ts, hts, htokens, hspread⟩ := tokenize_text hgrammatical
  obtain ⟨finish, hfinish, hread⟩ := readAt_tokens hgrammatical htokens
    (show 1 ≤ maxNesting by decide)
  rw [guarded_of_le (by omega)] at hread
  obtain ⟨levels, filled, hparse, hstands, hshallow⟩ :=
    parse_substitute hts (derives_of_readAt ts 0 (Nat.zero_le 8) 1 tree _ hread) (by simpa)
      (by decide) (fills_text htokens hbound) (hspread.imp fun _ _ => Spread.setApart)
  have hfilled : filled.eval kind = .ok value := (hstands.equivalent.eval kind).trans heval
  have hlevels := hshallow kind (conforms_of_eval filled kind value hfilled).1
  exact evaluate_eq_ok_iff.mpr ⟨filled, hparse.trans (guarded_of_le (by omega) _), hfilled⟩

/-- The text of any integer but the least is read as the integer. -/
theorem evaluateNumber_text {i : Int64} (h : i.toInt ≠ Number.minInt) :
    evaluateNumber (Number.int i).text = .ok (.int i) := by
  -- the text is what replaces a variable that stands alone
  let alone := Tree.var "$n$".toList
  let env := (Environment.initial []).bind "$n$".toList (.number (.int i))
  have hvalue : env.get? "$n$".toList = some (.number (.int i)) := by simp [env]
  have htext : Template.substitute env alone.text = (Number.int i).text := by
    refine (Template.substitute_bound (show '$' ∉ ['n'] by decide) hvalue []).trans ?_
    rw [Template.substitute_nil, List.append_nil]
    rfl
  have hgrammatical : alone.isGrammatical false = true := by decide +kernel
  have hbound : ∀ name ∈ alone.variables,
      ∃ value, env.get? name = some value ∧ value.isLiteral = true := by
    intro name hname
    obtain rfl := List.mem_singleton.mp hname
    exact ⟨_, hvalue, bne_iff_ne.mpr h⟩
  have heval : (alone.instantiate env).eval .numeric = .ok (.int i) := by
    rw [Tree.instantiate, hvalue]
    rfl
  rw [← htext]
  exact evaluate_of_instantiate hgrammatical (by decide) hbound heval

/-- The digits of the least integer are refused before its sign is looked at. -/
theorem evaluateNumber_text_least {i : Int64} (h : i.toInt = Number.minInt) :
    evaluateNumber (Number.int i).text
      = .error (.integerTooLarge "9223372036854775808".toList) := by
  rw [Number.text, h]
  with_unfolding_all rfl

end Expr

namespace Template

variable {env : Environment} {t : Text}

/-- A text without braces has nothing to resolve. -/
theorem resolve_of_isPlain {wanted : Text → Bool} {replace : Text → Text × List Problem}
    (h : IsPlain t) : resolve wanted replace t = (t, []) := by
  rw [resolve, h.count_open]
  rfl

/-- A text that is one span is what the span is replaced by. -/
theorem resolve_span {wanted : Text → Bool} {replace : Text → Text × List Problem} {inner : Text}
    (hinner : isReplaceable wanted inner = true) :
    resolve wanted replace ('{' :: (inner ++ ['}'])) = replace inner := by
  have hfound : findSpan wanted ('{' :: (inner ++ ['}'])) = some ⟨[], inner, []⟩ := by
    rw [findSpan, if_pos rfl, closeSpan_eq_some_iff.mpr ⟨rfl, hinner⟩]
  have hcount : ('{' :: (inner ++ ['}'])).count '{' = 1 := by
    rw [List.count_cons_self, List.count_append, (isPlain_of_isReplaceable hinner).count_open]
    rfl
  rw [resolve, hcount, resolveSpans, hfound]
  simp [resolveSpans]

/-- A text without braces is rendered by replacing its variables. -/
theorem renderNoting_of_isPlain (h : IsPlain (substitute env t)) :
    renderNoting env t = (substitute env t, []) := by
  simp [renderNoting, resolveArithmetic, resolveChoices, resolve_of_isPlain h]

/-- Digits with a sign perhaps are taken for arithmetic. -/
theorem isArithmetic_ofInt (n : Int) : isArithmetic (Text.ofInt n) = true := by
  have hdigits : ∀ m : Nat, isArithmetic (Text.ofNat m) = true := by
    intro m
    refine List.all_eq_true.mpr fun c hc => ?_
    have hdigit := Expr.isAsciiDigit_of_mem_ofNat hc
    suffices c ≠ '@' ∧ c ≠ '|' by simpa using this
    refine ⟨?_, ?_⟩ <;> rintro rfl <;> exact absurd hdigit (by decide)
  cases n with
  | ofNat m => exact hdigits m
  | negSucc m =>
    rw [Text.ofInt, isArithmetic, List.all_cons]
    exact Bool.and_eq_true_iff.mpr ⟨by decide, hdigits (m + 1)⟩

section Variable

variable {name : Text} {value : Value}

/-- A span of an integer is replaced by what its text is read as. -/
theorem renderNoting_span {i : Int64} (hname : Name.isVariable name = true)
    (hvalue : env.get? name = some (.number (.int i))) :
    renderNoting env ('{' :: (name ++ ['}'])) = arithmeticText (Number.int i).text := by
  have hplain : (Number.int i).text.all (!isBrace ·) = true := by
    simpa [IsPlain] using isPlain_numberText (.int i)
  have hwanted : isReplaceable isArithmetic (Number.int i).text = true :=
    Bool.and_eq_true_iff.mpr ⟨hplain, isArithmetic_ofInt i.toInt⟩
  have hsubstitute : substitute env ('{' :: (name ++ ['}']))
      = '{' :: ((Number.int i).text ++ ['}']) := by
    rw [substitute_cons_of_ne (by decide), substitute_name hname hvalue,
      substitute_cons_of_ne (by decide), substitute_nil]
    rfl
  rw [renderNoting, hsubstitute, resolveArithmetic, resolve_span hwanted]
  simp [resolveChoices, resolve_of_isPlain (isPlain_arithmeticText _)]

end Variable

end Template

namespace Engine

/-- The integer that a variable holds can be used: in a span it stands for itself, a typed
assignment of it binds it again, and a guard over it is decided by its value, all without a
problem. -/
structure Usable (env : Environment) (name : Text) (i : Int64) : Prop where
  span : Template.renderNoting env ('{' :: (name ++ ['}'])) = ((Number.int i).text, [])
  assignment (settings : Settings) (engine : Engine) (assignment : Assignment)
    (henvironment : engine.environment = env)
    (htarget : Name.isVariable assignment.target = true)
    (hfree : Name.isEngineBound assignment.target = false) (hcall : assignment.target ≠ Name.call)
    (htyped : assignedKind env assignment = (.number, name)) :
    engine.applyAssignment settings assignment
      = (.applied, engine.bind assignment.target (.number (.int i)))
  guard (key : TransitionKey) (tree : Expr.Tree) (holds : Bool)
    (hguard : key.guard? = some tree.text) (hgrammatical : tree.isGrammatical false = true)
    (hnesting : tree.nesting < Expr.maxNesting) (hvariables : ∀ other ∈ tree.variables, other = name)
    (heval : (tree.instantiate env).evalBool = .ok holds) :
    guardHolds env key = (holds, [])

theorem record_nil (engine : Engine) : engine.record [] = engine := by
  rw [record, List.append_nil]

/-- Every integer but the least can be used in a span and in an assignment. -/
theorem usable_of_ne {env : Environment} {name : Text} {i : Int64}
    (hname : Name.isVariable name = true) (hvalue : env.get? name = some (.number (.int i)))
    (h : i.toInt ≠ Number.minInt) : Usable env name i where
  span := by
    rw [Template.renderNoting_span hname hvalue, Template.arithmeticText,
      Expr.evaluateNumber_text h]
  assignment := by
    intro settings engine assignment henvironment htarget hfree hcall htyped
    subst henvironment
    have hsubstitute : Template.substitute engine.environment name = (Number.int i).text := by
      have happend := Template.substitute_name hname hvalue []
      rwa [List.append_nil, Template.substitute_nil, List.append_nil] at happend
    have hrender : Template.renderNoting engine.environment name = ((Number.int i).text, []) := by
      rw [← hsubstitute]
      -- the digits of the number have no braces, so they are rendered as they are
      refine Template.renderNoting_of_isPlain ?_
      rw [hsubstitute]
      exact Template.isPlain_numberText _
    have hvalueOf : valueOf .number (Number.int i).text = .ok (.number (.int i)) := by
      rw [valueOf, Expr.evaluateNumber_text h]
      rfl
    simp [applyAssignment, htarget, hfree, hcall, htyped, hrender, hvalueOf, record_nil]
  guard := by
    intro key tree holds hguard hgrammatical hnesting hvariables heval
    have hevaluate : Expr.evaluateBool (Template.substitute env tree.text) = .ok holds := by
      refine (Expr.evaluate_of_instantiate hgrammatical hnesting (fun other hother => ?_) heval :
        Expr.evaluate _ .boolean = .ok holds)
      rw [hvariables other hother]
      exact ⟨_, hvalue, bne_iff_ne.mpr h⟩
    rw [guardHolds, hguard]
    simp only [hevaluate]

/-- **An integer reads back unless it is the least one.** Every integer of 64 bits is the number of
an expression. Its text is read as the integer again, and a variable that holds it can be used,
exactly if it is not the least; the text of the least is refused for its digits. -/
theorem integer_reads_back_iff (i : Int64) :
    (∃ t, Expr.evaluateNumber t = .ok (.int i)) ∧
    (Expr.evaluateNumber (Number.int i).text = .ok (.int i) ↔ i.toInt ≠ Number.minInt) ∧
    (i.toInt = Number.minInt → Expr.evaluateNumber (Number.int i).text
      = .error (.integerTooLarge "9223372036854775808".toList)) ∧
    ∀ env name, Name.isVariable name = true → env.get? name = some (.number (.int i)) →
      (Usable env name i ↔ i.toInt ≠ Number.minInt) := by
  have hleast : i.toInt = Number.minInt →
      Expr.evaluateNumber (Number.int i).text ≠ .ok (.int i) := by
    intro h hvalue
    rw [Expr.evaluateNumber_text_least h] at hvalue
    cases hvalue
  refine ⟨?_, ⟨fun hvalue h => hleast h hvalue, Expr.evaluateNumber_text⟩,
    Expr.evaluateNumber_text_least, fun env name hname hvalue => ⟨fun husable h => ?_,
    usable_of_ne hname hvalue⟩⟩
  · by_cases h : i.toInt = Number.minInt
    · have hi : i = Int64.minValue := Int64.toInt_inj.mp h
      exact ⟨"-9223372036854775807 - 1".toList, by rw [hi]; with_unfolding_all rfl⟩
    · exact ⟨_, Expr.evaluateNumber_text h⟩
  · have hspan := husable.span
    rw [Template.renderNoting_span hname hvalue, Template.arithmeticText,
      Expr.evaluateNumber_text_least h] at hspan
    cases congrArg Prod.snd hspan

/-- A negative integer, whose text is a sign in front of a literal. -/
theorem integer_reads_back_iff_negative :
    let env := (Environment.initial []).bind "$n$".toList (.number (.int (-5)))
    Name.isVariable "$n$".toList = true ∧ env.get? "$n$".toList = some (.number (.int (-5))) ∧
    (-5 : Int64).toInt ≠ Number.minInt ∧ Usable env "$n$".toList (-5) ∧
    Expr.evaluateNumber "-5".toList = .ok (.int (-5)) := by
  intro env
  obtain ⟨-, htext, -, husable⟩ := integer_reads_back_iff (-5)
  have hname : Name.isVariable "$n$".toList = true := by decide +kernel
  have hvalue : env.get? "$n$".toList = some (.number (.int (-5))) := by simp [env]
  have hne : (-5 : Int64).toInt ≠ Number.minInt := by decide
  exact ⟨hname, hvalue, hne, (husable env _ hname hvalue).mpr hne, htext.mpr hne⟩

/-- The least integer is the number of an expression, and its text is none. -/
theorem least_integer_lost :
    Expr.evaluateNumber "-9223372036854775807 - 1".toList = .ok (.int Int64.minValue) ∧
    ¬ ∃ value, Expr.evaluateNumber (Number.int Int64.minValue).text = .ok value := by
  refine ⟨by with_unfolding_all rfl, ?_⟩
  rintro ⟨value, hvalue⟩
  rw [Expr.evaluateNumber_text_least rfl] at hvalue
  cases hvalue

end Engine

end DialogueScript
