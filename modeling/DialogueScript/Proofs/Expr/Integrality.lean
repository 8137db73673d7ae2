import DialogueScript.Proofs.Expr.Strictness

/-!
# Integers and doubles

The nodes of an expression alone decide whether its number is an integer or a double, whatever the
values are: it is a double exactly if a literal is one or something is divided
(`integer_result_iff`). A quotient stays a double though its value may be whole.
-/

namespace DialogueScript

/-- Is the number a double? -/
def Number.isFloat : Number → Bool
  | .int _ => false
  | .float _ => true

theorem Number.isFloat_eq_true_iff {n : Number} : n.isFloat = true ↔ ∃ x, n = .float x := by
  cases n <;> simp [Number.isFloat]

theorem Number.isFloat_eq_false_iff {n : Number} : n.isFloat = false ↔ ∃ i, n = .int i := by
  cases n <;> simp [Number.isFloat]

namespace Expr

/-- Does the node itself bring in a double? -/
def Tree.isFractional : Tree → Bool
  | .float _ => true
  | .binary op _ _ => op == .div
  | .int _ | .bool _ | .var _ | .sign _ _ | .logical _ _ | .not _ | .compare _ _ => false

section Operators

variable {n : Number}

theorem isFloat_of_fit {m : Int} (h : fit m = .ok n) : n.isFloat = false := by
  unfold fit at h
  split at h
  · obtain rfl := Except.ok.inj h
    rfl
  · cases h

/-- A sign keeps what a number is. -/
theorem isFloat_of_applySign {op : Sign} {operand : Number} (h : applySign op operand = .ok n) :
    n.isFloat = operand.isFloat := by
  cases op with
  | plus =>
    obtain rfl := Except.ok.inj h
    rfl
  | minus =>
    cases operand with
    | int i => exact isFloat_of_fit h
    | float x =>
      obtain rfl := Except.ok.inj h
      rfl

/-- Of the operations on integers, only division makes a float, even if it leaves no remainder. -/
theorem isFloat_of_intArithmetic {op : BinaryOp} {a b : Int64} (h : intArithmetic op a b = .ok n) :
    n.isFloat = (op == .div) := by
  cases op with
  | add | sub | mul => exact isFloat_of_fit h
  | div | mod =>
    rw [intArithmetic] at h
    split at h
    · cases h
    · obtain rfl := Except.ok.inj h
      rfl
  | pow => cases h

/-- Every operation on floats makes a float. -/
theorem isFloat_of_floatArithmetic {op : BinaryOp} {a b : Binary64}
    (h : floatArithmetic op a b = .ok n) : n.isFloat = true := by
  cases op with
  | add | sub | mul =>
    obtain rfl := Except.ok.inj h
    rfl
  | div | mod =>
    rw [floatArithmetic] at h
    split at h
    · cases h
    · obtain rfl := Except.ok.inj h
      rfl
  | pow => cases h

/-- A quotient is a double, and so is what is made of one. -/
theorem isFloat_of_arithmetic {op : BinaryOp} {a b : Number} (h : arithmetic op a b = .ok n) :
    n.isFloat = (a.isFloat || b.isFloat || op == .div) := by
  cases a with
  | int i =>
    cases b with
    | int j => exact isFloat_of_intArithmetic h
    | float y => exact isFloat_of_floatArithmetic h
  | float x => exact isFloat_of_floatArithmetic h

end Operators

/-- A number is a double if a node brings one in: any other node hands on what its operands are. -/
theorem isFloat_of_evalNumber (tree : Tree) : ∀ n : Number, tree.evalNumber = .ok n →
    n.isFloat = tree.nodes.any Tree.isFractional := by
  induction tree using Tree.induction with
  | int _ | float _ =>
    intro n h
    obtain rfl := Except.ok.inj h
    rw [any_nodes]
    rfl
  | sign op operand ih =>
    intro n h
    obtain ⟨value, hvalue, h⟩ := bind_eq_ok h
    rw [isFloat_of_applySign h, ih value hvalue, any_nodes (.sign op operand)]
    simp [Tree.operands, Tree.isFractional]
  | binary op left right ihleft ihright =>
    intro n h
    -- a power has no number
    have hop : op.kind = .numeric := by
      cases op with
      | pow => cases h
      | add | sub | mul | div | mod => rfl
    rw [evalNumber_binary hop] at h
    obtain ⟨a, ha, h⟩ := bind_eq_ok h
    obtain ⟨b, hb, h⟩ := bind_eq_ok h
    rw [isFloat_of_arithmetic h, ihleft a ha, ihright b hb,
      any_nodes (.binary op left right)]
    simp [Tree.operands, Tree.isFractional, Bool.or_assoc]
  | bool _ | var _ | logical _ _ _ | not _ _ | compare _ _ _ _ =>
    intro n h
    cases h

/-- A fractional node is a float literal or a division. -/
theorem isFractional_iff {node : Tree} : node.isFractional = true ↔
    (∃ x, node = .float x) ∨ ∃ left right, node = .binary .div left right := by
  cases node <;> simp [Tree.isFractional]

/-- **The text decides whether a number is an integer.** An expression that has a number is read as
a tree, and the number is an integer exactly if no node of the tree is a double or a division. It
is a double exactly if some node is. -/
theorem integer_result_iff {t : Text} {n : Number} (h : evaluateNumber t = .ok n) :
    ∃ tree, parse t = .ok tree ∧
      ((∃ i, n = .int i) ↔ ¬ ∃ node ∈ tree.nodes,
        (∃ x, node = .float x) ∨ ∃ left right, node = .binary .div left right) ∧
      ((∃ x, n = .float x) ↔ ∃ node ∈ tree.nodes,
        (∃ x, node = .float x) ∨ ∃ left right, node = .binary .div left right) := by
  obtain ⟨tree, hparse, heval⟩ :=
    (evaluate_eq_ok_iff (t := t) : evaluate t .numeric = .ok n ↔ _).mp h
  have hfloat : n.isFloat = true ↔ ∃ node ∈ tree.nodes,
      (∃ x, node = .float x) ∨ ∃ left right, node = .binary .div left right := by
    rw [isFloat_of_evalNumber tree n heval, List.any_eq_true]
    simp only [isFractional_iff]
  refine ⟨tree, hparse, ?_, ?_⟩
  · rw [← hfloat, Bool.not_eq_true, Number.isFloat_eq_false_iff]
  · rw [← hfloat, Number.isFloat_eq_true_iff]

/-- What is divided is a double, though its value may be whole. -/
theorem integer_result_iff_wholeQuotient :
    let quotient := Number.float ((Binary64.ofInt 6).div (Binary64.ofInt 3))
    evaluateNumber "6 / 3".toList = .ok quotient ∧ ∃ tree, parse "6 / 3".toList = .ok tree ∧
      ((∃ x, quotient = .float x) ↔ ∃ node ∈ tree.nodes,
        (∃ x, node = .float x) ∨ ∃ left right, node = .binary .div left right) := by
  intro quotient
  have hparse : parse "6 / 3".toList = .ok (.binary .div (.int 6) (.int 3)) := by
    with_unfolding_all rfl
  have hvalue : evaluateNumber "6 / 3".toList = .ok quotient := by
    rw [evaluateNumber, parseAs, hparse]
    rfl
  obtain ⟨tree, hparse, -, hfloat⟩ := integer_result_iff hvalue
  exact ⟨hvalue, tree, hparse, hfloat⟩

end Expr

end DialogueScript
