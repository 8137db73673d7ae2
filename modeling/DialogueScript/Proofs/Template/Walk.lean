import DialogueScript.Proofs.Script.Layout
import DialogueScript.Proofs.Template.Substitution

/-!
# Variables replaced on a walk

Replacing the variables of a text goes from one dollar sign to the next and looks up the name in
between. The same comes out of a walk that asks at every character which bound name stands there
(`walk`): names begin and end with a dollar sign and hold none in between, so at most one of them
stands at a place (`Name.eq_of_prefix`), and none begins or ends inside another.
-/

namespace DialogueScript

namespace Name

theorem dollar_notMem {word : Text}
    (h : ∀ c ∈ word, (Alphabet.isAsciiLetter c || Alphabet.isWord c) = true) : '$' ∉ word :=
  fun hmem => absurd (h _ hmem) (by decide +kernel)

/-- Of the names of variables at most one stands in front of a text. -/
theorem eq_of_prefix {name other t : Text} (hname : isVariable name = true)
    (hother : isVariable other = true) (hfront : name <+: t) (hotherFront : other <+: t) :
    name = other := by
  obtain ⟨word, rfl, hword⟩ := isVariable_cases hname
  obtain ⟨otherWord, rfl, hotherWord⟩ := isVariable_cases hother
  obtain ⟨rest, rfl⟩ := hfront
  obtain ⟨otherRest, hrest⟩ := hotherFront
  -- both end where the next dollar sign stands
  have hsplit := Template.splitName_append (dollar_notMem hword) rest
  have hotherSplit := Template.splitName_append (dollar_notMem hotherWord) otherRest
  have htail : otherWord ++ '$' :: otherRest = word ++ '$' :: rest := by simpa using hrest
  rw [htail, hsplit] at hotherSplit
  obtain ⟨rfl, -⟩ := Prod.mk.inj (Option.some.inj hotherSplit)
  rfl

end Name

namespace Template

variable {env : Environment} {t name rest : Text} {value : Value}

/-! ## The walk -/

/-- The first bound name that a text begins with, and its value. -/
def nameAt? (env : Environment) (t : Text) : Option (Text × Value) :=
  env.bindings.entries.find? fun entry => entry.1.isPrefixOf t

/-- Walks over a text. Where a bound name stands, its value comes in its place; every other
character is kept. -/
def walk (env : Environment) : Text → Text
  | [] => []
  | c :: rest =>
    match nameAt? env (c :: rest) with
    | some (name, value) => value.display ++ walk env (rest.drop (name.length - 1))
    | none => c :: walk env rest
termination_by t => t.length
decreasing_by
  all_goals
    simp only [List.length_cons, List.length_drop]
    omega

/-- The name that is found is bound to the value and stands in front. -/
theorem eq_some_of_nameAt? (h : nameAt? env t = some (name, value)) :
    env.get? name = some value ∧ name <+: t :=
  ⟨Table.mem_entries_iff.mp (List.mem_of_find?_eq_some h),
    List.isPrefixOf_iff_prefix.mp
      (List.find?_some (p := fun entry : Text × Value => entry.1.isPrefixOf t) h)⟩

/-- No name is found exactly if no bound name stands in front. -/
theorem nameAt?_eq_none_iff :
    nameAt? env t = none ↔ ∀ name value, env.get? name = some value → ¬ name <+: t := by
  rw [nameAt?, List.find?_eq_none]
  constructor
  · intro h name value hvalue hfront
    exact h (name, value) (Table.mem_entries_iff.mpr hvalue)
      (List.isPrefixOf_iff_prefix.mpr hfront)
  · rintro h ⟨name, value⟩ hmem hfront
    exact h name value (Table.mem_entries_iff.mp hmem) (List.isPrefixOf_iff_prefix.mp hfront)

/-! ## Names in front of a text -/

/-- What is split off ends at the first dollar. -/
theorem eq_of_splitName (h : splitName t = some (name, rest)) :
    t = name ++ '$' :: rest ∧ '$' ∉ name := by
  simp only [splitName] at h
  split at h
  next tail hdrop =>
    obtain ⟨rfl, rfl⟩ := Prod.mk.inj (Option.some.inj h)
    have hparts := List.prefix_iff_eq_append.mp (List.takeWhile_prefix (l := t) (· != '$'))
    rw [hdrop] at hparts
    exact ⟨hparts.symm, fun hmem => by simpa using List.all_eq_true.mp List.all_takeWhile _ hmem⟩
  next => cases h

/-- A variable in a text is replaced by its value. -/
theorem substitute_name (hname : Name.isVariable name = true) (hvalue : env.get? name = some value)
    (rest : Text) : substitute env (name ++ rest) = value.display ++ substitute env rest := by
  obtain ⟨word, rfl, hword⟩ := Name.isVariable_cases hname
  rw [List.append_assoc]
  exact substitute_bound (Name.dollar_notMem hword) hvalue rest

/-- A character at which no bound name stands is kept. -/
theorem substitute_cons_of_nameAt? {c : Char} (h : nameAt? env (c :: rest) = none) :
    substitute env (c :: rest) = c :: substitute env rest := by
  by_cases hc : c = '$'
  · subst hc
    suffices hunbound : boundName env rest = none by rw [substitute, if_pos rfl, hunbound]
    unfold boundName
    split
    next name tail hsplit =>
      obtain ⟨rfl, -⟩ := eq_of_splitName hsplit
      rw [Option.map_eq_none_iff, Option.eq_none_iff_forall_ne_some]
      intro value hvalue
      exact nameAt?_eq_none_iff.mp h _ value hvalue ⟨tail, by simp⟩
    next => rfl
  · exact substitute_cons_of_ne hc rest

/-- Characters at none of which a bound name stands are kept. -/
theorem substitute_append_of_nameAt? {front : Text}
    (h : ∀ tail, tail ≠ [] → tail <:+ front → nameAt? env (tail ++ rest) = none) :
    substitute env (front ++ rest) = front ++ substitute env rest := by
  induction front with
  | nil => rfl
  | cons c front ih =>
    have hc : nameAt? env (c :: (front ++ rest)) = none :=
      h (c :: front) (List.cons_ne_nil c front) List.suffix_rfl
    rw [List.cons_append, substitute_cons_of_nameAt? hc, List.cons_append,
      ih fun tail hne htail => h tail hne (htail.trans (List.suffix_cons c front))]

/-! ## One pass and the walk -/

/-- Replacing variables in one pass does what the walk does, if only names of variables are bound.
-/
theorem substitute_eq_walk
    (h : ∀ name value, env.get? name = some value → Name.isVariable name = true) (t : Text) :
    substitute env t = walk env t := by
  induction t using walk.induct env with
  | case1 => rw [substitute_nil, walk]
  | case2 c rest name value hname ih =>
    obtain ⟨hvalue, tail, htail⟩ := eq_some_of_nameAt? hname
    have hrest : rest.drop (name.length - 1) = tail := by
      obtain ⟨d, front, rfl⟩ :=
        List.exists_cons_of_ne_nil (Name.ne_nil_of_isVariable (h name value hvalue))
      obtain ⟨-, rfl⟩ := List.cons.inj htail
      exact List.drop_left
    rw [walk, hname]
    show _ = value.display ++ walk env (rest.drop (name.length - 1))
    rw [← ih, hrest, ← htail, substitute_name (h name value hvalue) hvalue]
  | case3 c rest hname ih =>
    rw [walk, hname]
    show _ = c :: walk env rest
    rw [← ih, substitute_cons_of_nameAt? hname]

/-- Replacing the bound variables of a text is the walk that asks at every character which bound
name stands there. At most one does; its value comes in its place as it is, and what stands where
no bound name does is kept, whatever dollar signs it holds. -/
theorem substitute_exact
    (h : ∀ name value, env.get? name = some value → Name.isVariable name = true) :
    (∀ t, substitute env t = walk env t) ∧
    (∀ t name other, (env.get? name).isSome → (env.get? other).isSome →
      name <+: t → other <+: t → name = other) ∧
    (∀ name value rest, env.get? name = some value →
      substitute env (name ++ rest) = value.display ++ substitute env rest) ∧
    ∀ front rest, (∀ tail, tail ≠ [] → tail <:+ front → nameAt? env (tail ++ rest) = none) →
      substitute env (front ++ rest) = front ++ substitute env rest := by
  refine ⟨substitute_eq_walk h, fun t name other hname hother => ?_, fun name value rest hvalue =>
    substitute_name (h name value hvalue) hvalue rest, fun _ _ => substitute_append_of_nameAt?⟩
  obtain ⟨value, hvalue⟩ := Option.isSome_iff_exists.mp hname
  obtain ⟨held, hheld⟩ := Option.isSome_iff_exists.mp hother
  exact Name.eq_of_prefix (h name value hvalue) (h other held hheld)

/-- Variables that hold names and braces. -/
def nested : Environment :=
  ((Environment.initial []).bind "$a$".toList (.text "$b$".toList)).bind "$b$".toList
    (.text "{$a$}".toList)

theorem isVariable_of_nested {name : Text} {value : Value} (h : nested.get? name = some value) :
    Name.isVariable name = true := by
  have hnames : ∀ entry ∈ nested.bindings.entries, Name.isVariable entry.1 = true := by
    decide +kernel
  exact hnames _ (Table.mem_entries_iff.mpr h)

theorem substitute_exact_nested :
    (∀ name value, nested.get? name = some value → Name.isVariable name = true) ∧
    substitute nested "[$a$][$b$] $x$a$b$ $$b$$".toList
      = walk nested "[$a$][$b$] $x$a$b$ $$b$$".toList ∧
    walk nested "[$a$][$b$] $x$a$b$ $$b$$".toList = "[$b$][{$a$}] $x$b$b$ ${$a$}$".toList :=
  ⟨fun _ _ => isVariable_of_nested, (substitute_exact fun _ _ => isVariable_of_nested).1 _,
    by decide +kernel⟩

end Template

end DialogueScript
