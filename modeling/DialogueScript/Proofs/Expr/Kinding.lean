import DialogueScript.Expr.Eval
import DialogueScript.Proofs.Expr.Printing

/-!
# The kind of a tree and its evaluation

The evaluation of a tree as a truth value or as a number fails on a node of the wrong kind, on a
variable, or by its arithmetic. The check of the kind excludes exactly the first of these: a tree
that has a value is of the kind and has no variables (`conforms_of_eval`), and a tree of the kind
without variables fails only by its arithmetic (`isArithmetic_of_eval`). The check and the
evaluation visit the same operands, whether or not an earlier one decides the result.
-/

namespace DialogueScript.Expr

/-! ## Both kinds at once -/

/-- What an expression of a kind is evaluated to. -/
def Kind.Result : Kind → Type
  | .boolean => Bool
  | .numeric => Number

/-- Evaluates a tree as an expression of a kind, whose check it does not ask for. -/
def Tree.eval (tree : Tree) : (kind : Kind) → Except Fault kind.Result
  | .boolean => tree.evalBool
  | .numeric => tree.evalNumber

/-- Reads, checks and evaluates an expression of a kind. -/
def evaluate (t : Text) : (kind : Kind) → Except Fault kind.Result
  | .boolean => evaluateBool t
  | .numeric => evaluateNumber t

/-- Evaluating a text is reading it as that kind and evaluating the tree. -/
theorem evaluate_eq (kind : Kind) (t : Text) :
    evaluate t kind = parseAs kind t >>= fun tree => tree.eval kind := by
  cases kind <;> rfl

/-! ## Variables -/

mutual

/-- The names of the variables of a tree, from left to right. -/
def Tree.variables : Tree → List Text
  | .int _ | .float _ | .bool _ => []
  | .var name => [name]
  | .sign _ operand => operand.variables
  | .binary _ left right => left.variables ++ right.variables
  | .logical _ operands => operandVariables operands
  | .not operand => operand.variables
  | .compare first links => first.variables ++ linkVariables links

/-- The names of the variables of the operands of a logical chain. -/
def operandVariables : List Tree → List Text
  | [] => []
  | operand :: more => operand.variables ++ operandVariables more

/-- The names of the variables of the links of a chain of comparisons. -/
def linkVariables : List (CompareOp × Tree) → List Text
  | [] => []
  | (_, operand) :: more => operand.variables ++ linkVariables more

end

/-! ## Members of chains -/

/-- The operands of a logical operator conform if each of them does. -/
theorem allConform_iff {kind : Kind} {operands : List Tree} :
    allConform kind operands = true ↔ ∀ operand ∈ operands, operand.conforms kind = true := by
  induction operands with
  | nil => simp [allConform]
  | cons operand more ih => simp [allConform, ih]

/-- The operands of a comparison have to be numeric. -/
theorem allLinksConform_iff {links : List (CompareOp × Tree)} :
    allLinksConform links = true ↔ ∀ link ∈ links, link.2.conforms .numeric = true := by
  induction links with
  | nil => simp [allLinksConform]
  | cons link more ih => simp [allLinksConform, ih]

theorem operandVariables_eq_nil_iff {operands : List Tree} :
    operandVariables operands = [] ↔ ∀ operand ∈ operands, operand.variables = [] := by
  induction operands with
  | nil => simp [operandVariables]
  | cons operand more ih => simp [operandVariables, ih]

theorem linkVariables_eq_nil_iff {links : List (CompareOp × Tree)} :
    linkVariables links = [] ↔ ∀ link ∈ links, link.2.variables = [] := by
  induction links with
  | nil => simp [linkVariables]
  | cons link more ih => simp [linkVariables, ih]

/-- A chain has values only if every member has one. -/
theorem eval_of_mapM {α β : Type} {eval : α → Except Fault β} {members : List α} {values : List β}
    (h : members.mapM eval = .ok values) :
    ∀ member ∈ members, ∃ value, eval member = .ok value := by
  induction members generalizing values with
  | nil => simp
  | cons member more ih =>
    rw [List.mapM_cons] at h
    obtain ⟨value, hvalue, h⟩ := bind_eq_ok h
    obtain ⟨rest, hrest, -⟩ := bind_eq_ok h
    exact List.forall_mem_cons.mpr ⟨⟨value, hvalue⟩, ih hrest⟩

/-- The fault of a chain is the fault of a member. -/
theorem fault_of_mapM {α β : Type} {eval : α → Except Fault β} {members : List α} {fault : Fault}
    (h : members.mapM eval = .error fault) : ∃ member ∈ members, eval member = .error fault := by
  induction members with
  | nil => simp [pure, Except.pure] at h
  | cons member more ih =>
    rw [List.mapM_cons] at h
    rcases bind_eq_error h with hfault | ⟨value, -, h⟩
    · exact ⟨member, List.mem_cons_self .., hfault⟩
    · rcases bind_eq_error h with hmore | ⟨rest, -, h⟩
      · obtain ⟨other, hmem, hfault⟩ := ih hmore
        exact ⟨other, List.mem_cons_of_mem _ hmem, hfault⟩
      · simp [pure, Except.pure] at h

/-- Operands are evaluated from the left, and the first fault ends the evaluation. -/
theorem evalAll_eq_mapM (operands : List Tree) :
    evalAll operands = operands.mapM Tree.evalBool := by
  induction operands with
  | nil => rfl
  | cons operand more ih => rw [evalAll, List.mapM_cons, ih]

/-- The number of a link, with its comparison. -/
def evalLink (link : CompareOp × Tree) : Except Fault (CompareOp × Number) := do
  let value ← link.2.evalNumber
  return (link.1, value)

/-- The operands of a comparison are evaluated from the left as well, their operators beside them.
-/
theorem evalLinks_eq_mapM (links : List (CompareOp × Tree)) :
    evalLinks links = links.mapM evalLink := by
  induction links with
  | nil => rfl
  | cons link more ih =>
    rw [evalLinks, List.mapM_cons, ih, evalLink, bind_assoc]
    rfl

/-! ## Operators -/

/-- The faults of the values themselves. -/
def Fault.IsArithmetic (fault : Fault) : Prop := fault = .overflow ∨ fault = .divisionByZero

/-- The kind of an operator, of its operands and of its result. -/
def BinaryOp.kind : BinaryOp → Kind
  | .pow => .boolean
  | .add | .sub | .mul | .div | .mod => .numeric

/-- Applies an operator to values of its kind. -/
def BinaryOp.apply : (op : BinaryOp) → op.kind.Result → op.kind.Result →
    Except Fault op.kind.Result
  | .pow, a, b => .ok (bne (α := Bool) a b)
  | .add, a, b => arithmetic .add a b
  | .sub, a, b => arithmetic .sub a b
  | .mul, a, b => arithmetic .mul a b
  | .div, a, b => arithmetic .div a b
  | .mod, a, b => arithmetic .mod a b

section Faults

variable {fault : Fault}

/-- An integer that does not fit is an overflow. -/
theorem isArithmetic_of_fit {n : Int} (h : fit n = .error fault) : fault.IsArithmetic := by
  unfold fit at h
  split at h
  · cases h
  · exact .inl (Except.error.inj h).symm

/-- The sign of an integer can only overflow. -/
theorem isArithmetic_of_applySign {op : Sign} {n : Number} (h : applySign op n = .error fault) :
    fault.IsArithmetic := by
  cases op with
  | plus => cases h
  | minus =>
    cases n with
    | int i => exact isArithmetic_of_fit h
    | float x => cases h

theorem isArithmetic_of_intArithmetic {op : BinaryOp} {a b : Int64} (hop : op ≠ .pow)
    (h : intArithmetic op a b = .error fault) : fault.IsArithmetic := by
  cases op with
  | add | sub | mul => exact isArithmetic_of_fit h
  | div | mod =>
    rw [intArithmetic] at h
    split at h
    · exact .inr (Except.error.inj h).symm
    · cases h
  | pow => exact absurd rfl hop

/-- The only fault of floats is a division by zero. -/
theorem isArithmetic_of_floatArithmetic {op : BinaryOp} {a b : Binary64} (hop : op ≠ .pow)
    (h : floatArithmetic op a b = .error fault) : fault.IsArithmetic := by
  cases op with
  | add | sub | mul => cases h
  | div | mod =>
    rw [floatArithmetic] at h
    split at h
    · exact .inr (Except.error.inj h).symm
    · cases h
  | pow => exact absurd rfl hop

theorem isArithmetic_of_arithmetic {op : BinaryOp} {a b : Number} (hop : op ≠ .pow)
    (h : arithmetic op a b = .error fault) : fault.IsArithmetic := by
  unfold arithmetic at h
  split at h
  · exact isArithmetic_of_intArithmetic hop h
  · exact isArithmetic_of_floatArithmetic hop h

/-- Whatever the kind of an operator, what it reports is arithmetic. -/
theorem isArithmetic_of_apply {op : BinaryOp} {a b : op.kind.Result}
    (h : op.apply a b = .error fault) : fault.IsArithmetic := by
  cases op with
  | pow => cases h
  | add | sub | mul | div | mod => exact isArithmetic_of_arithmetic (by decide) h

end Faults

section Binary

variable (op : BinaryOp) (left right : Tree)

/-- A binary operator conforms to its own kind only, and so do its operands. -/
theorem conforms_binary (kind : Kind) : (Tree.binary op left right).conforms kind = true ↔
    kind = op.kind ∧ left.conforms kind = true ∧ right.conforms kind = true := by
  cases op <;> cases kind <;> simp [Tree.conforms, BinaryOp.kind]

/-- Asked for the other kind, a binary operator evaluates nothing. -/
theorem eval_binary_of_ne {kind : Kind} (h : kind ≠ op.kind) :
    (Tree.binary op left right).eval kind = .error (.wrongOperand kind) := by
  cases op <;> cases kind <;> first | rfl | exact absurd rfl h

/-- An operator evaluates both operands before it is applied. -/
theorem eval_binary : (Tree.binary op left right).eval op.kind
    = (do
      let a ← left.eval op.kind
      let b ← right.eval op.kind
      op.apply a b) := by
  cases op <;> rfl

end Binary

/-! ## What has a value -/

/-- A tree that has a value of a kind is of that kind and has no variables. -/
theorem conforms_of_eval (tree : Tree) : ∀ (kind : Kind) (value : kind.Result),
    tree.eval kind = .ok value → tree.conforms kind = true ∧ tree.variables = [] := by
  -- a node of the wrong kind and a variable have no value, and any other node has one only if all
  -- its operands have one
  induction tree using Tree.induction with
  | int value | float value =>
    intro kind result h
    cases kind with
    | boolean => cases h
    | numeric => exact ⟨rfl, rfl⟩
  | bool value =>
    intro kind result h
    cases kind with
    | boolean => exact ⟨rfl, rfl⟩
    | numeric => cases h
  | var name =>
    intro kind result h
    cases kind <;> cases h
  | sign op operand ih =>
    intro kind result h
    cases kind with
    | boolean => cases h
    | numeric =>
      rw [Tree.eval, Tree.evalNumber] at h
      obtain ⟨value, hvalue, -⟩ := bind_eq_ok h
      exact ih .numeric value hvalue
  | binary op left right ihleft ihright =>
    intro kind result h
    by_cases hkind : kind = op.kind
    · subst hkind
      rw [eval_binary] at h
      obtain ⟨a, ha, h⟩ := bind_eq_ok h
      obtain ⟨b, hb, -⟩ := bind_eq_ok h
      obtain ⟨hleft, hnoneLeft⟩ := ihleft _ a ha
      obtain ⟨hright, hnoneRight⟩ := ihright _ b hb
      refine ⟨(conforms_binary op left right _).mpr ⟨rfl, hleft, hright⟩, ?_⟩
      rw [Tree.variables, hnoneLeft, hnoneRight, List.append_nil]
    · rw [eval_binary_of_ne op left right hkind] at h
      cases h
  | logical op operands ih =>
    intro kind result h
    cases kind with
    | numeric => cases h
    | boolean =>
      rw [Tree.eval, Tree.evalBool, evalAll_eq_mapM] at h
      obtain ⟨values, hvalues, -⟩ := bind_eq_ok h
      have hoperands : ∀ operand ∈ operands,
          operand.conforms .boolean = true ∧ operand.variables = [] := by
        intro operand hmem
        obtain ⟨value, hvalue⟩ := eval_of_mapM hvalues operand hmem
        exact ih operand hmem .boolean value hvalue
      exact ⟨allConform_iff.mpr fun operand hmem => (hoperands operand hmem).1,
        operandVariables_eq_nil_iff.mpr fun operand hmem => (hoperands operand hmem).2⟩
  | not operand ih =>
    intro kind result h
    cases kind with
    | numeric => cases h
    | boolean =>
      rw [Tree.eval, Tree.evalBool] at h
      obtain ⟨value, hvalue, -⟩ := bind_eq_ok h
      exact ih .boolean value hvalue
  | compare first links ihfirst ihlinks =>
    intro kind result h
    cases kind with
    | numeric => cases h
    | boolean =>
      rw [Tree.eval, Tree.evalBool, evalLinks_eq_mapM] at h
      obtain ⟨value, hvalue, h⟩ := bind_eq_ok h
      obtain ⟨values, hvalues, -⟩ := bind_eq_ok h
      obtain ⟨hfirst, hnone⟩ := ihfirst .numeric value hvalue
      have hlinks : ∀ link ∈ links,
          link.2.conforms .numeric = true ∧ link.2.variables = [] := by
        intro link hmem
        obtain ⟨linked, hlink⟩ := eval_of_mapM hvalues link hmem
        obtain ⟨number, hnumber, -⟩ := bind_eq_ok hlink
        exact ihlinks link hmem .numeric number hnumber
      refine ⟨?_, ?_⟩
      · rw [Tree.conforms, hfirst, allLinksConform_iff.mpr fun link hmem => (hlinks link hmem).1]
        rfl
      · rw [Tree.variables, hnone,
          linkVariables_eq_nil_iff.mpr fun link hmem => (hlinks link hmem).2]
        rfl

/-! ## What has no value -/

/-- A tree of a kind without variables fails only by its arithmetic. -/
theorem isArithmetic_of_eval (tree : Tree) : ∀ (kind : Kind) (fault : Fault),
    tree.conforms kind = true → tree.variables = [] → tree.eval kind = .error fault →
      fault.IsArithmetic := by
  -- the operands of a node are of the kind that it evaluates them as
  induction tree using Tree.induction with
  | int value | float value =>
    intro kind fault hconforms _ h
    cases kind with
    | boolean => cases hconforms
    | numeric => cases h
  | bool value =>
    intro kind fault hconforms _ h
    cases kind with
    | boolean => cases h
    | numeric => cases hconforms
  | var name =>
    intro kind fault _ hnone
    cases hnone
  | sign op operand ih =>
    intro kind fault hconforms hnone h
    cases kind with
    | boolean => cases hconforms
    | numeric =>
      rw [Tree.eval, Tree.evalNumber] at h
      rcases bind_eq_error h with hfault | ⟨value, -, hfault⟩
      · exact ih .numeric fault hconforms hnone hfault
      · exact isArithmetic_of_applySign hfault
  | binary op left right ihleft ihright =>
    intro kind fault hconforms hnone h
    obtain ⟨rfl, hleft, hright⟩ := (conforms_binary op left right kind).mp hconforms
    obtain ⟨hnoneLeft, hnoneRight⟩ := List.append_eq_nil_iff.mp hnone
    rw [eval_binary] at h
    rcases bind_eq_error h with hfault | ⟨a, -, h⟩
    · exact ihleft _ fault hleft hnoneLeft hfault
    · rcases bind_eq_error h with hfault | ⟨b, -, hfault⟩
      · exact ihright _ fault hright hnoneRight hfault
      · exact isArithmetic_of_apply hfault
  | logical op operands ih =>
    intro kind fault hconforms hnone h
    cases kind with
    | numeric => cases hconforms
    | boolean =>
      rw [Tree.eval, Tree.evalBool, evalAll_eq_mapM] at h
      rcases bind_eq_error h with hfault | ⟨values, -, hfault⟩
      · obtain ⟨operand, hmem, hfault⟩ := fault_of_mapM hfault
        exact ih operand hmem .boolean fault (allConform_iff.mp hconforms operand hmem)
          (operandVariables_eq_nil_iff.mp hnone operand hmem) hfault
      · cases hfault
  | not operand ih =>
    intro kind fault hconforms hnone h
    cases kind with
    | numeric => cases hconforms
    | boolean =>
      rw [Tree.eval, Tree.evalBool] at h
      rcases bind_eq_error h with hfault | ⟨value, -, hfault⟩
      · exact ih .boolean fault hconforms hnone hfault
      · cases hfault
  | compare first links ihfirst ihlinks =>
    intro kind fault hconforms hnone h
    cases kind with
    | numeric => cases hconforms
    | boolean =>
      rw [Tree.eval, Tree.evalBool, evalLinks_eq_mapM] at h
      obtain ⟨hnoneFirst, hnoneLinks⟩ := List.append_eq_nil_iff.mp hnone
      obtain ⟨hfirst, hlinks⟩ := Bool.and_eq_true_iff.mp hconforms
      rcases bind_eq_error h with hfault | ⟨value, -, h⟩
      · exact ihfirst .numeric fault hfirst hnoneFirst hfault
      · rcases bind_eq_error h with hfault | ⟨values, -, hfault⟩
        · obtain ⟨link, hmem, hfault⟩ := fault_of_mapM hfault
          rcases bind_eq_error hfault with hfault | ⟨number, -, hfault⟩
          · exact ihlinks link hmem .numeric fault (allLinksConform_iff.mp hlinks link hmem)
              (linkVariables_eq_nil_iff.mp hnoneLinks link hmem) hfault
          · cases hfault
        · cases hfault

/-! ## Texts -/

/-- What is read as an expression of a kind is what is read and conforms to it. -/
theorem parseAs_eq_ok_iff {kind : Kind} {t : Text} {tree : Tree} :
    parseAs kind t = .ok tree ↔ parse t = .ok tree ∧ tree.conforms kind = true := by
  unfold parseAs
  constructor
  · intro h
    obtain ⟨parsed, hparsed, h⟩ := bind_eq_ok h
    split at h
    next hconforms =>
      obtain rfl := Except.ok.inj h
      exact ⟨hparsed, hconforms⟩
    next => cases h
  · rintro ⟨hparse, hconforms⟩
    rw [hparse]
    exact if_pos hconforms

/-- A text is well-formed if it is read as a tree of the kind. -/
theorem isWellFormed_iff {kind : Kind} {t : Text} :
    isWellFormed kind t = true ↔ ∃ tree, parse t = .ok tree ∧ tree.conforms kind = true := by
  simp only [← parseAs_eq_ok_iff, isWellFormed]
  split <;> simp_all

/-- A text has a value of a kind exactly if it can be read and its tree has that value. -/
theorem evaluate_eq_ok_iff {kind : Kind} {t : Text} {value : kind.Result} :
    evaluate t kind = .ok value ↔ ∃ tree, parse t = .ok tree ∧ tree.eval kind = .ok value := by
  rw [evaluate_eq]
  constructor
  · intro h
    obtain ⟨tree, htree, h⟩ := bind_eq_ok h
    exact ⟨tree, (parseAs_eq_ok_iff.mp htree).1, h⟩
  · rintro ⟨tree, hparse, h⟩
    rw [parseAs_eq_ok_iff.mpr ⟨hparse, (conforms_of_eval tree kind value h).1⟩]
    exact h

/-- A text has no value if it cannot be read, or its tree is not of the kind, or by its
evaluation. -/
theorem fault_of_evaluate {kind : Kind} {t : Text} {fault : Fault}
    (h : evaluate t kind = .error fault) :
    parse t = .error fault ∨ ∃ tree, parse t = .ok tree ∧
      (tree.conforms kind = false ∧ fault = .wrongKind kind ∨
        tree.conforms kind = true ∧ tree.eval kind = .error fault) := by
  rw [evaluate_eq] at h
  rcases bind_eq_error h with h | ⟨tree, htree, heval⟩
  · unfold parseAs at h
    rcases bind_eq_error h with hparse | ⟨tree, hparse, h⟩
    · exact .inl hparse
    · split at h
      next => cases h
      next hkind =>
        exact .inr ⟨tree, hparse, .inl ⟨Bool.eq_false_iff.mpr hkind, (Except.error.inj h).symm⟩⟩
  · obtain ⟨hparse, hkind⟩ := parseAs_eq_ok_iff.mp htree
    exact .inr ⟨tree, hparse, .inr ⟨hkind, heval⟩⟩

/-- **The check of the kind is exact**: only trees of the kind without variables have a value, such
trees fail only by their arithmetic, and trees of the kind with variables always fail. So a text
has a value exactly if its tree has that value unchecked. -/
theorem kind_exact (kind : Kind) :
    (∀ tree : Tree,
      (∀ value, tree.eval kind = .ok value →
        tree.conforms kind = true ∧ tree.variables = []) ∧
      (tree.conforms kind = true → tree.variables = [] →
        (∃ value, tree.eval kind = .ok value) ∨
        (tree.eval kind = .error .overflow ∧ Fault.overflow.code = "EXPR_OVERFLOW") ∨
        (tree.eval kind = .error .divisionByZero ∧
          Fault.divisionByZero.code = "EXPR_DIVISION_BY_ZERO")) ∧
      (tree.conforms kind = true → tree.variables ≠ [] →
        ∃ fault, tree.eval kind = .error fault)) ∧
    ∀ (t : Text) (value : kind.Result),
      evaluate t kind = .ok value ↔ ∃ tree, parse t = .ok tree ∧ tree.eval kind = .ok value := by
  refine ⟨fun tree => ⟨conforms_of_eval tree kind, fun hconforms hnone => ?_, fun _ hsome => ?_⟩,
    fun t value => evaluate_eq_ok_iff⟩
  · cases heval : tree.eval kind with
    | ok value => exact .inl ⟨value, rfl⟩
    | error fault =>
      rcases isArithmetic_of_eval tree kind fault hconforms hnone heval with rfl | rfl
      · exact .inr (.inl ⟨rfl, rfl⟩)
      · exact .inr (.inr ⟨rfl, rfl⟩)
  · cases heval : tree.eval kind with
    | ok value => exact absurd (conforms_of_eval tree kind value heval).2 hsome
    | error fault => exact ⟨fault, rfl⟩

/-- A chain that its first operand decides, with a division behind it: `true or 1 / … < 2`. -/
def decided (divisor : Tree) : Tree :=
  .logical .or [.bool true, .compare (.binary .div (.int 1) divisor) [(.less, .int 2)]]

/-- Its value asks for the division all the same. -/
theorem kind_exact_decided :
    ((decided (.int 4)).eval .boolean = .ok true ∧
      (decided (.int 4)).conforms .boolean = true ∧ (decided (.int 4)).variables = []) ∧
    ((decided (.int 0)).conforms .boolean = true ∧ (decided (.int 0)).variables = [] ∧
      (decided (.int 0)).eval .boolean = .error .divisionByZero) ∧
    ((decided (.var "$n$".toList)).conforms .boolean = true ∧
      (decided (.var "$n$".toList)).variables = ["$n$".toList] ∧
      ∃ fault, (decided (.var "$n$".toList)).eval .boolean = .error fault) ∧
    evaluate "true or 1 / 4 < 2".toList .boolean = .ok true := by
  have hvalue : (decided (.int 4)).eval .boolean = .ok true := by with_unfolding_all rfl
  have hread : parse "true or 1 / 4 < 2".toList = .ok (decided (.int 4)) := by
    with_unfolding_all rfl
  obtain ⟨hexact, htext⟩ := kind_exact .boolean
  refine ⟨⟨hvalue, (hexact _).1 true hvalue⟩, ⟨rfl, rfl, ?_⟩, ⟨rfl, rfl, ?_⟩,
    (htext _ true).mpr ⟨_, hread, hvalue⟩⟩
  · rcases (hexact (decided (.int 0))).2.1 rfl rfl with ⟨value, h⟩ | ⟨h, -⟩ | ⟨h, -⟩
    · cases h
    · cases h
    · exact h
  · exact (hexact _).2.2 rfl (by decide)

end DialogueScript.Expr
