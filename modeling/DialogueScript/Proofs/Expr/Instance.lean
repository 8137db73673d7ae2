import Mathlib.Data.List.Forall2
import DialogueScript.Environment
import DialogueScript.Proofs.Expr.Descent
import DialogueScript.Proofs.Expr.Kinding

/-!
# Trees with values in place of variables

The instance of a tree has the values of its variables in their places (`Tree.instantiate`). A value
that is an expression by itself is a literal, and is written with one token or, if it is a negative
integer, with a sign in front of another one; the tree that is read then is not that of the value,
but has the same kind and the same value (`Equivalent`), alone as well as with an exponent behind
it.
-/

namespace DialogueScript

/-! ## Literals -/

namespace Value

/-- Is the text of the value an expression? Doubles are not considered, and the digits of the least
integer are too large without their sign. -/
def isLiteral : Value → Bool
  | bool _ => true
  | number (.int i) => i.toInt != Number.minInt
  | _ => false

/-- The tree of a value. -/
def tree? : Value → Option Expr.Tree
  | bool b => some (.bool b)
  | number (.int i) => some (.int i)
  | number (.float x) => some (.float x)
  | text _ => none

/-- The tokens of the text of a literal. -/
def tokens : Value → List Expr.Token
  | bool b => [.bool b]
  | number (.int i) => if 0 ≤ i.toInt then [.int i] else [.minus, .int (-i)]
  | _ => []

end Value

/-- Every integer but the least has a negative of 64 bits. -/
theorem toInt_neg_of_ne {i : Int64} (h : i.toInt ≠ Number.minInt) : (-i).toInt = -i.toInt := by
  have hleast := Int64.le_toInt i
  have hgreatest := Int64.toInt_lt i
  unfold Number.minInt at h
  rw [Int64.toInt_neg]
  exact Int.bmod_eq_of_le (by omega) (by omega)

namespace Expr

/-! ## Instances -/

mutual

/-- The tree with the values of its variables in their places. -/
def Tree.instantiate (env : Environment) : Tree → Tree
  | .int value => .int value
  | .float value => .float value
  | .bool value => .bool value
  | .var name => ((env.get? name).bind Value.tree?).getD (.var name)
  | .sign op operand => .sign op (operand.instantiate env)
  | .binary op left right => .binary op (left.instantiate env) (right.instantiate env)
  | .logical op operands => .logical op (instantiateAll env operands)
  | .not operand => .not (operand.instantiate env)
  | .compare first links => .compare (first.instantiate env) (instantiateLinks env links)

/-- The operands of a logical chain with the values of their variables. -/
def instantiateAll (env : Environment) : List Tree → List Tree
  | [] => []
  | operand :: more => operand.instantiate env :: instantiateAll env more

/-- The links of a chain of comparisons with the values of their variables. -/
def instantiateLinks (env : Environment) : List (CompareOp × Tree) → List (CompareOp × Tree)
  | [] => []
  | (op, operand) :: more => (op, operand.instantiate env) :: instantiateLinks env more

end

/-! ## Trees that mean the same -/

/-- The trees are of the same kinds and have the same values, or the same faults. -/
structure Equivalent (tree other : Tree) : Prop where
  conforms : ∀ kind, tree.conforms kind = other.conforms kind
  eval : ∀ kind, tree.eval kind = other.eval kind

namespace Equivalent

variable {tree other left right left' right' : Tree}

theorem refl (tree : Tree) : Equivalent tree tree := ⟨fun _ => rfl, fun _ => rfl⟩

theorem sign (h : Equivalent tree other) (op : Sign) :
    Equivalent (.sign op tree) (.sign op other) where
  conforms kind := by rw [Tree.conforms, Tree.conforms, h.conforms]
  eval kind := by
    cases kind with
    | boolean => rfl
    | numeric =>
      have hnumber : tree.evalNumber = other.evalNumber := h.eval .numeric
      rw [Tree.eval, Tree.eval, Tree.evalNumber, Tree.evalNumber, hnumber]

theorem not (h : Equivalent tree other) : Equivalent (.not tree) (.not other) where
  conforms kind := by rw [Tree.conforms, Tree.conforms, h.conforms]
  eval kind := by
    cases kind with
    | numeric => rfl
    | boolean =>
      have hbool : tree.evalBool = other.evalBool := h.eval .boolean
      rw [Tree.eval, Tree.eval, Tree.evalBool, Tree.evalBool, hbool]

/-- A binary operator keeps trees equivalent on both sides. -/
theorem binary (hleft : Equivalent left left') (hright : Equivalent right right')
    (op : BinaryOp) : Equivalent (.binary op left right) (.binary op left' right') where
  conforms kind := by
    rw [Bool.eq_iff_iff, conforms_binary, conforms_binary, hleft.conforms, hright.conforms]
  eval kind := by
    by_cases hkind : kind = op.kind
    · subst hkind
      rw [eval_binary, eval_binary, hleft.eval, hright.eval]
    · rw [eval_binary_of_ne _ _ _ hkind, eval_binary_of_ne _ _ _ hkind]

/-- A negative integer is a sign in front of another one. -/
theorem negative {i : Int64} (h : i.toInt ≠ Number.minInt) :
    Equivalent (.sign .minus (.int (-i))) (.int i) where
  conforms kind := by cases kind <;> rfl
  eval kind := by
    cases kind with
    | boolean => rfl
    | numeric =>
      show fit (-(-i).toInt) = .ok (.int i)
      rw [toInt_neg_of_ne h, Int.neg_neg, fit, Number.ofInt?_toInt]

/-- The sign of a negative base is in front of the whole power, but no power has a number as its
base. -/
theorem negativePower (op : Sign) (base value : Int64) (exponent other : Tree) :
    Equivalent (.sign op (.binary .pow (.int base) exponent))
      (.binary .pow (.int value) other) where
  conforms kind := by cases kind <;> rfl
  eval kind := by cases kind <;> rfl

end Equivalent

/-! ## Trees that stand for instances -/

/-- The tree means what the instance of another one does, and has no variables left. -/
structure Stands (env : Environment) (tree whole : Tree) : Prop where
  equivalent : Equivalent tree (whole.instantiate env)
  closed : tree.variables = []

/-- The link has the same comparison, and its operand stands for the instance of the other's. -/
def LinkStands (env : Environment) (link whole : CompareOp × Tree) : Prop :=
  link.1 = whole.1 ∧ Stands env link.2 whole.2

section Stand

variable {env : Environment} {tree whole left right wholeLeft wholeRight : Tree}

theorem Stands.sign (h : Stands env tree whole) (op : Sign) :
    Stands env (.sign op tree) (.sign op whole) := ⟨h.equivalent.sign op, h.closed⟩

theorem Stands.not (h : Stands env tree whole) : Stands env (.not tree) (.not whole) :=
  ⟨h.equivalent.not, h.closed⟩

/-- Operands that stand for instances make an operation that does. -/
theorem Stands.binary (hleft : Stands env left wholeLeft) (hright : Stands env right wholeRight)
    (op : BinaryOp) : Stands env (.binary op left right) (.binary op wholeLeft wholeRight) where
  equivalent := hleft.equivalent.binary hright.equivalent op
  closed := by rw [Tree.variables, hleft.closed, hright.closed, List.append_nil]

/-- Operands that stand for instances conform and evaluate as the instances do. -/
theorem stands_all {operands wholes : List Tree} (h : List.Forall₂ (Stands env) operands wholes) :
    allConform .boolean operands = allConform .boolean (instantiateAll env wholes) ∧
      evalAll operands = evalAll (instantiateAll env wholes) ∧ operandVariables operands = [] := by
  induction h with
  | nil => exact ⟨rfl, rfl, rfl⟩
  | @cons operand whole operands wholes hfirst _ ih =>
    obtain ⟨hconform, heval, hclosed⟩ := ih
    have hbool : operand.evalBool = (whole.instantiate env).evalBool :=
      hfirst.equivalent.eval .boolean
    refine ⟨?_, ?_, ?_⟩
    · rw [instantiateAll, allConform, allConform, hfirst.equivalent.conforms, hconform]
    · rw [instantiateAll, evalAll, evalAll, hbool, heval]
    · rw [operandVariables, hfirst.closed, hclosed, List.append_nil]

/-- A logical chain stands for an instance if its operands do. -/
theorem Stands.chain (h : Stands env tree whole) {operands wholes : List Tree}
    (hmore : List.Forall₂ (Stands env) operands wholes) (op : BoolOp) :
    Stands env (chain op tree operands) (chain op whole wholes) := by
  cases hmore with
  | nil => exact h
  | cons hnext hrest =>
    obtain ⟨hconform, heval, hclosed⟩ := stands_all (.cons h (.cons hnext hrest))
    refine ⟨⟨fun kind => ?_, fun kind => ?_⟩, hclosed⟩
    · exact congrArg (kind == .boolean && ·) hconform
    · cases kind with
      | numeric => rfl
      | boolean => exact congrArg (· >>= fun values => pure (op.combine values)) heval

/-- Operands of comparisons that stand for instances evaluate as the instances do. -/
theorem stands_links {links wholes : List (CompareOp × Tree)}
    (h : List.Forall₂ (LinkStands env) links wholes) :
    allLinksConform links = allLinksConform (instantiateLinks env wholes) ∧
      evalLinks links = evalLinks (instantiateLinks env wholes) ∧ linkVariables links = [] := by
  induction h with
  | nil => exact ⟨rfl, rfl, rfl⟩
  | @cons link whole links wholes hfirst _ ih =>
    obtain ⟨hconform, heval, hclosed⟩ := ih
    obtain ⟨op, operand⟩ := link
    obtain ⟨other, wholeOperand⟩ := whole
    obtain ⟨rfl, hstands⟩ : op = other ∧ Stands env operand wholeOperand := hfirst
    have hnumber : operand.evalNumber = (wholeOperand.instantiate env).evalNumber :=
      hstands.equivalent.eval .numeric
    refine ⟨?_, ?_, ?_⟩
    · rw [instantiateLinks, allLinksConform, allLinksConform, hstands.equivalent.conforms, hconform]
    · rw [instantiateLinks, evalLinks, evalLinks, hnumber, heval]
    · rw [linkVariables, hstands.closed, hclosed, List.append_nil]

/-- A chain of comparisons stands for an instance if its operands do. -/
theorem Stands.compareChain (h : Stands env tree whole) {links wholes : List (CompareOp × Tree)}
    (hlinks : List.Forall₂ (LinkStands env) links wholes) :
    Stands env (compareChain tree links) (compareChain whole wholes) := by
  cases hlinks with
  | nil => exact h
  | @cons link wholeLink links wholes hnext hrest =>
    obtain ⟨hconform, heval, hclosed⟩ := stands_links (.cons hnext hrest)
    have hnumber : tree.evalNumber = (whole.instantiate env).evalNumber :=
      h.equivalent.eval .numeric
    refine ⟨⟨fun kind => ?_, fun kind => ?_⟩, ?_⟩
    · show (kind == .boolean && tree.conforms .numeric && allLinksConform (link :: links))
        = (kind == .boolean && (whole.instantiate env).conforms .numeric && _)
      rw [h.equivalent.conforms, hconform]
    · cases kind with
      | numeric => rfl
      | boolean =>
        show Tree.evalBool (.compare tree (link :: links))
          = Tree.evalBool (.compare (whole.instantiate env) _)
        rw [Tree.evalBool, Tree.evalBool, hnumber, heval]
    · exact List.append_eq_nil_iff.mpr ⟨h.closed, hclosed⟩

end Stand

end Expr

end DialogueScript
