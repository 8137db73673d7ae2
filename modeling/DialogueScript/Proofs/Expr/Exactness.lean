import Mathlib.Data.Int.Basic
import DialogueScript.Proofs.Expr.Strictness

/-!
# Integer arithmetic is exact

A tree of integers, signs, sums, differences, products and remainders has a value in the unbounded
integers (`Tree.exact`), where the remainder is that of the quotient rounded down. The evaluation
comes to this value if every node on the way has one that fits, and otherwise it fails with what is
wrong with the first node that has none (`integers_exact`). In particular the remainder of 64 bits
is the exact one, and no step of it wraps (`toInt_intMod`, `fits_tdiv`, `fits_correction`).
-/

namespace DialogueScript.Expr

/-! ## Integers of 64 bits -/

/-- The value lies in the range of 64 bits. -/
def Fits (n : Int) : Prop := Number.minInt ≤ n ∧ n ≤ Number.maxInt

instance (n : Int) : Decidable (Fits n) := inferInstanceAs (Decidable (_ ∧ _))

theorem fits_toInt (i : Int64) : Fits i.toInt :=
  Number.ofInt?_isSome_iff.mp (by rw [Number.ofInt?_toInt]; rfl)

/-- An integer that fits is its own value. -/
theorem fit_eq_ok_iff {n : Int} {value : Number} :
    fit n = .ok value ↔ ∃ i : Int64, value = .int i ∧ i.toInt = n := by
  unfold fit
  cases h : Number.ofInt? n with
  | none =>
    refine ⟨nofun, ?_⟩
    rintro ⟨i, -, hi⟩
    rw [Number.ofInt?_eq_some_iff.mpr hi] at h
    cases h
  | some i =>
    refine ⟨fun hvalue => ⟨i, (Except.ok.inj hvalue).symm, Number.ofInt?_eq_some_iff.mp h⟩, ?_⟩
    rintro ⟨j, rfl, hj⟩
    rw [Number.ofInt?_eq_some_iff.mpr hj] at h
    rw [Option.some.inj h]

/-- What does not fit overflows. -/
theorem fault?_fit (n : Int) : fault? (fit n) = if Fits n then none else some .overflow := by
  have hfits : (Number.ofInt? n).isSome = true ↔ Fits n := Number.ofInt?_isSome_iff
  unfold fit
  cases h : Number.ofInt? n with
  | none =>
    rw [h] at hfits
    rw [if_neg fun hn => nomatch hfits.mpr hn]
    rfl
  | some i =>
    rw [h] at hfits
    rw [if_pos (hfits.mp rfl)]
    rfl

/-! ## The remainder -/

/-- The remainder that has the sign of the divisor, from the one that has the sign of the
dividend. -/
theorem fmod_eq_of_tmod (a b : Int) : a.fmod b =
    if a.tmod b ≠ 0 ∧ ¬ (a.tmod b < 0 ↔ b < 0) then a.tmod b + b else a.tmod b := by
  rw [Int.fmod_eq_tmod]
  by_cases hdvd : b ∣ a
  · simp [hdvd, Int.tmod_eq_zero_of_dvd hdvd]
  · have hrest : a.tmod b ≠ 0 := fun h => hdvd (Int.dvd_of_tmod_eq_zero h)
    by_cases ha : 0 ≤ a
    · have hsign := Int.tmod_nonneg b ha
      split_ifs <;> omega
    · have hsign := Int.tmod_nonneg b (a := -a) (by omega)
      rw [Int.neg_tmod] at hsign
      split_ifs <;> omega

/-- Of all divisors only minus one has a quotient that is too large. -/
theorem fits_tdiv {a : Int} (b : Int) (ha : Fits a) (hb : b ≠ -1) : Fits (a.tdiv b) := by
  by_cases hone : b = 1
  · rwa [hone, Int.tdiv_one]
  by_cases hzero : b = 0
  · rw [hzero, Int.tdiv_zero]
    decide
  have hhalf : (a.tdiv b).natAbs ≤ a.natAbs / 2 := by
    rw [Int.natAbs_tdiv]
    exact Nat.div_le_div_left (by omega) (by decide)
  unfold Fits Number.minInt Number.maxInt at *
  omega

/-- A sum that fits does not wrap around. -/
theorem toInt_add_of_fits {a b : Int64} (h : Fits (a.toInt + b.toInt)) :
    (a + b).toInt = a.toInt + b.toInt := by
  unfold Fits Number.minInt Number.maxInt at h
  rw [Int64.toInt_add]
  exact Int.bmod_eq_of_le (by omega) (by omega)

/-- A remainder and a divisor of different signs draw each other towards zero. -/
theorem fits_correction {rest b : Int64} (h : ¬ (rest.toInt < 0 ↔ b.toInt < 0)) :
    Fits (rest.toInt + b.toInt) := by
  have hrest := fits_toInt rest
  have hb := fits_toInt b
  unfold Fits Number.minInt Number.maxInt at *
  omega

/-- The remainder is corrected where it is not of the sign of the divisor. -/
theorem correction_iff {rest b : Int64} :
    (rest != 0 && decide (rest < 0) != decide (b < 0)) = true ↔
      rest.toInt ≠ 0 ∧ ¬ (rest.toInt < 0 ↔ b.toInt < 0) := by
  rw [Bool.and_eq_true, bne_iff_ne, bne_iff_ne, Ne, Ne, ← Int64.toInt_inj, decide_eq_decide,
    Int64.lt_iff_toInt_lt, Int64.lt_iff_toInt_lt, Int64.toInt_zero]

/-- The remainder has the sign of the divisor, as that of floored division. -/
theorem toInt_intMod (a b : Int64) : (intMod a b).toInt = a.toInt.fmod b.toInt := by
  unfold intMod
  split
  · next h =>
    rw [h, fmod_eq_of_tmod, show Int64.toInt (-1) = -1 from rfl, Int.tmod_neg, Int.tmod_one]
    rfl
  · dsimp only
    rw [fmod_eq_of_tmod, ← Int64.toInt_mod]
    split
    · next h =>
      have hcorrection := correction_iff.mp h
      rw [if_pos hcorrection, toInt_add_of_fits (fits_correction hcorrection.2)]
    · next h => rw [if_neg (mt correction_iff.mpr h)]

/-! ## Exact values -/

/-- The operators whose result between integers is an integer. -/
def BinaryOp.isInteger : BinaryOp → Bool
  | .add | .sub | .mul | .mod => true
  | .div | .pow => false

/-- A tree of integers, signs, sums, differences, products and remainders. -/
def Tree.isInteger : Tree → Bool
  | .int _ => true
  | .sign _ operand => operand.isInteger
  | .binary op left right => op.isInteger && left.isInteger && right.isInteger
  | .float _ | .bool _ | .var _ | .logical _ _ | .not _ | .compare _ _ => false

/-- A sign in the unbounded integers. -/
def Sign.exact : Sign → Int → Int
  | .plus, n => n
  | .minus, n => -n

/-- An operator in the unbounded integers. The remainder is what the quotient, rounded down, leaves
over. -/
def BinaryOp.exact : BinaryOp → Int → Int → Int
  | .add, a, b => a + b
  | .sub, a, b => a - b
  | .mul, a, b => a * b
  | .mod, a, b => a - b * a.fdiv b
  | .div, _, _ | .pow, _, _ => 0

/-- The value of a tree of integers in the unbounded integers. -/
def Tree.exact : Tree → Int
  | .int value => value.toInt
  | .sign op operand => op.exact operand.exact
  | .binary op left right => op.exact left.exact right.exact
  | .float _ | .bool _ | .var _ | .logical _ _ | .not _ | .compare _ _ => 0

/-- Is the node a remainder whose divisor is zero? -/
def Tree.dividesByZero : Tree → Bool
  | .binary .mod _ right => right.exact == 0
  | _ => false

/-- What is wrong with the exact value of a node. -/
def Tree.breach? (tree : Tree) : Option Fault :=
  if tree.dividesByZero then some .divisionByZero
  else if Fits tree.exact then none
  else some .overflow

/-- A node breaches nothing if its exact value exists and fits. -/
theorem breach?_eq_none_iff {tree : Tree} :
    tree.breach? = none ↔ tree.dividesByZero = false ∧ Fits tree.exact := by
  unfold Tree.breach?
  split_ifs <;> simp_all

/-- A division by zero comes before an overflow. -/
theorem breach?_eq_some_iff {tree : Tree} {fault : Fault} : tree.breach? = some fault ↔
    tree.dividesByZero = true ∧ fault = .divisionByZero ∨
    tree.dividesByZero = false ∧ ¬ Fits tree.exact ∧ fault = .overflow := by
  unfold Tree.breach?
  split_ifs with hzero hfits
  · simp [hzero, eq_comm]
  · simp [hzero, hfits]
  · simp [hzero, hfits, eq_comm]

theorem kind_of_isInteger {op : BinaryOp} (h : op.isInteger = true) : op.kind = .numeric := by
  cases op with
  | add | sub | mul | mod => rfl
  | div | pow => cases h

theorem isInteger_binary {op : BinaryOp} {left right : Tree} :
    (Tree.binary op left right).isInteger = true ↔
      op.isInteger = true ∧ left.isInteger = true ∧ right.isInteger = true := by
  rw [Tree.isInteger, Bool.and_eq_true, Bool.and_eq_true, and_assoc]

/-- Integer trees are numeric. -/
theorem isOf_of_isInteger {tree : Tree} (h : tree.isInteger = true) :
    tree.isOf .numeric = true := by
  cases tree with
  | int _ | sign _ _ => rfl
  | binary op left right => exact beq_iff_eq.mpr (kind_of_isInteger (isInteger_binary.mp h).1).symm
  | float _ | bool _ | var _ | logical _ _ | not _ | compare _ _ => cases h

/-- All operands of an integer tree are integer trees. -/
theorem isInteger_of_mem_operands {tree : Tree} (h : tree.isInteger = true) :
    ∀ operand ∈ tree.operands, operand.kind = .numeric ∧ operand.node.isInteger = true := by
  cases tree with
  | int _ => exact nofun
  | sign op operand => exact List.forall_mem_singleton.mpr ⟨rfl, h⟩
  | binary op left right =>
    obtain ⟨hop, hleft, hright⟩ := isInteger_binary.mp h
    exact List.forall_mem_cons.mpr ⟨⟨kind_of_isInteger hop, hleft⟩,
      List.forall_mem_singleton.mpr ⟨kind_of_isInteger hop, hright⟩⟩
  | float _ | bool _ | var _ | logical _ _ | not _ | compare _ _ => cases h

/-- A sign does what it does in the unbounded integers, or overflows. -/
theorem applySign_int (op : Sign) (i : Int64) : applySign op (.int i) = fit (op.exact i.toInt) := by
  cases op with
  | plus =>
    rw [applySign, Sign.exact]
    exact (fit_eq_ok_iff.mpr ⟨i, rfl, rfl⟩).symm
  | minus => rfl

/-- So does an operator, unless it has to divide by zero. -/
theorem intArithmetic_eq {op : BinaryOp} (hop : op.isInteger = true) (a b : Int64) :
    intArithmetic op a b
      = if op = .mod ∧ b = 0 then .error .divisionByZero
        else fit (op.exact a.toInt b.toInt) := by
  cases op with
  | add | sub | mul => rw [if_neg (by simp)]; rfl
  | mod =>
    rw [intArithmetic]
    by_cases hb : b = 0
    · rw [if_pos hb, if_pos ⟨rfl, hb⟩]
    · rw [if_neg hb, if_neg (fun h => hb h.2), eq_comm, fit_eq_ok_iff]
      exact ⟨intMod a b, rfl, (toInt_intMod a b).trans (Int.fmod_def ..)⟩
  | div | pow => cases hop

/-- The tree has a value, which is the exact one. -/
def Tree.IsExact (tree : Tree) : Prop :=
  ∃ i : Int64, tree.evalNumber = .ok (.int i) ∧ i.toInt = tree.exact

/-- What a node makes of operands that have their exact values. -/
theorem evalNumber_of_operands {tree : Tree} (h : tree.isInteger = true)
    (hoperands : ∀ operand ∈ tree.operands, operand.node.IsExact) :
    tree.evalNumber
      = if tree.dividesByZero then .error .divisionByZero else fit tree.exact := by
  cases tree with
  | int i => exact (fit_eq_ok_iff.mpr ⟨i, rfl, rfl⟩).symm
  | sign op operand =>
    obtain ⟨i, hoperand, hi⟩ := List.forall_mem_singleton.mp hoperands
    rw [Tree.evalNumber, hoperand, Tree.exact, ← hi]
    exact applySign_int op i
  | binary op left right =>
    obtain ⟨hop, hleft, hright⟩ := isInteger_binary.mp h
    obtain ⟨⟨i, hleft, hi⟩, hoperands⟩ := List.forall_mem_cons.mp hoperands
    obtain ⟨j, hright, hj⟩ := List.forall_mem_singleton.mp hoperands
    have hzero : (Tree.binary op left right).dividesByZero = true ↔ op = .mod ∧ j = 0 := by
      rw [← Int64.toInt_inj, hj, Int64.toInt_zero]
      cases op <;> simp [Tree.dividesByZero]
    rw [evalNumber_binary (kind_of_isInteger hop), hleft, hright, if_congr hzero rfl rfl,
      Tree.exact, ← hi, ← hj]
    exact intArithmetic_eq hop i j
  | float _ | bool _ | var _ | logical _ _ | not _ | compare _ _ => cases h

/-- A value of a tree of integers is its exact value. -/
theorem isExact_of_hasValue (tree : Tree) : tree.isInteger = true →
    Visit.HasValue ⟨.numeric, tree⟩ → tree.IsExact := by
  induction tree using Tree.inductionOn_operands with
  | step tree ih =>
    intro h hvalue
    have hoperands : ∀ operand ∈ tree.operands, operand.node.IsExact := by
      rintro ⟨kind, node⟩ hmem
      obtain ⟨rfl, hinteger⟩ := isInteger_of_mem_operands h _ hmem
      exact ih _ hmem hinteger (hasValue_of_mem_operands hvalue hmem)
    obtain ⟨value, hvalue⟩ := hvalue
    have hstep := evalNumber_of_operands h hoperands
    by_cases hzero : tree.dividesByZero = true
    · rw [if_pos hzero] at hstep
      cases hstep.symm.trans hvalue
    · rw [if_neg hzero] at hstep
      obtain ⟨i, rfl, hi⟩ := fit_eq_ok_iff.mp (hstep.symm.trans hvalue)
      exact ⟨i, hvalue, hi⟩

/-- A tree of integers whose operands have values fails as its exact value does. -/
theorem fault?_eq_breach? {tree : Tree} (h : tree.isInteger = true)
    (hoperands : ∀ operand ∈ tree.operands, operand.HasValue) :
    fault? tree.evalNumber = tree.breach? := by
  rw [evalNumber_of_operands h, Tree.breach?]
  · split
    · rfl
    · exact fault?_fit tree.exact
  · rintro ⟨kind, node⟩ hmem
    obtain ⟨rfl, hinteger⟩ := isInteger_of_mem_operands h _ hmem
    exact isExact_of_hasValue node hinteger (hoperands _ hmem)

/-- A tree of integers fails as the first of its nodes whose exact value is none. -/
theorem fault?_evalNumber (tree : Tree) : tree.isInteger = true →
    fault? tree.evalNumber = tree.nodes.findSome? Tree.breach? := by
  induction tree using Tree.inductionOn_operands with
  | step tree ih =>
    intro h
    have hoperands : (tree.operands.flatMap fun operand => operand.node.nodes).findSome?
        Tree.breach? = tree.operands.findSome? Visit.fault? := by
      refine findSome?_flatMap ?_
      rintro ⟨kind, node⟩ hmem
      obtain ⟨rfl, hinteger⟩ := isInteger_of_mem_operands h _ hmem
      exact (ih _ hmem hinteger).symm
    rw [nodes_eq, List.findSome?_append, List.findSome?_singleton, hoperands]
    cases outcome_of_isOf (isOf_of_isInteger h) with
    | operand fault hfirst heval =>
      rw [hfirst, Option.some_or]
      exact fault?_eq_some_iff.mpr heval
    | value hnone _ | breaks _ hnone _ _ =>
      rw [hnone, Option.none_or]
      exact fault?_eq_breach? h fun operand hmem =>
        Visit.fault?_eq_none_iff.mp (List.findSome?_eq_none_iff.mp hnone operand hmem)

section Result

variable {tree : Tree}

/-- A tree of integers has a value where nothing is wrong with the exact value of any node. -/
theorem exists_value_iff (h : tree.isInteger = true) : (∃ value, tree.evalNumber = .ok value) ↔
    ∀ node ∈ tree.nodes, node.dividesByZero = false ∧ Fits node.exact := by
  rw [← fault?_eq_none_iff, fault?_evalNumber tree h, List.findSome?_eq_none_iff]
  exact forall₂_congr fun _ _ => breach?_eq_none_iff

/-- An integer tree has a value exactly if no node divides by zero or overflows, and the value is
exact. -/
theorem evalNumber_eq_int_iff (h : tree.isInteger = true) {i : Int64} :
    tree.evalNumber = .ok (.int i) ↔
      (∀ node ∈ tree.nodes, node.dividesByZero = false ∧ Fits node.exact) ∧
      i.toInt = tree.exact := by
  constructor
  · intro hvalue
    obtain ⟨j, hj, hexact⟩ := isExact_of_hasValue tree h ⟨_, hvalue⟩
    obtain rfl := Number.int.inj (Except.ok.inj (hvalue.symm.trans hj))
    exact ⟨(exists_value_iff h).mp ⟨_, hvalue⟩, hexact⟩
  · rintro ⟨hall, hi⟩
    obtain ⟨j, hj, hexact⟩ := isExact_of_hasValue tree h ((exists_value_iff h).mpr hall)
    rw [hj, Int64.toInt_inj.mp (hi.trans hexact.symm)]

/-- Otherwise the first node in post-order that does either decides the fault. -/
theorem evalNumber_eq_error_iff (h : tree.isInteger = true) {fault : Fault} :
    tree.evalNumber = .error fault ↔ ∃ before node after, tree.nodes = before ++ node :: after ∧
      (∀ earlier ∈ before, earlier.dividesByZero = false ∧ Fits earlier.exact) ∧
      (node.dividesByZero = true ∧ fault = .divisionByZero ∨
        node.dividesByZero = false ∧ ¬ Fits node.exact ∧ fault = .overflow) := by
  rw [← fault?_eq_some_iff, fault?_evalNumber tree h, List.findSome?_eq_some_iff]
  refine exists₃_congr fun before node after => and_congr_right fun _ => ?_
  rw [and_comm, breach?_eq_some_iff]
  exact and_congr_left fun _ => forall₂_congr fun _ _ => breach?_eq_none_iff

/-- A tree of integers has no double as its value and fails for no other reason. -/
theorem int_or_arithmetic (h : tree.isInteger = true) :
    (∃ i : Int64, tree.evalNumber = .ok (.int i)) ∨
      ∃ fault, tree.evalNumber = .error fault ∧
        (fault.code = "EXPR_DIVISION_BY_ZERO" ∨ fault.code = "EXPR_OVERFLOW") := by
  cases heval : tree.evalNumber with
  | ok value =>
    obtain ⟨i, hi, -⟩ := isExact_of_hasValue tree h ⟨value, heval⟩
    exact .inl ⟨i, heval.symm.trans hi⟩
  | error fault =>
    obtain ⟨_, node, _, -, -, hnode⟩ := (evalNumber_eq_error_iff h).mp heval
    refine .inr ⟨fault, rfl, ?_⟩
    rcases hnode with ⟨-, rfl⟩ | ⟨-, -, rfl⟩
    · exact .inl rfl
    · exact .inr rfl

end Result

/-- **Integer arithmetic is exact or an error.** A tree of integers has a value exactly if none of
its nodes divides by zero and the exact values of all of them fit, and then it is the exact value.
Otherwise it fails, with what is wrong with the first such node from left to right, each behind its
operands. On the way nothing wraps: of the quotients that a remainder is taken from none is too
large, and neither is a remainder whose sign is corrected. -/
theorem integers_exact :
    (∀ tree : Tree, tree.isInteger = true →
      (∀ i : Int64, tree.evalNumber = .ok (.int i) ↔
        (∀ node ∈ tree.nodes, node.dividesByZero = false ∧ Fits node.exact) ∧
        i.toInt = tree.exact) ∧
      (∀ fault, tree.evalNumber = .error fault ↔ ∃ before node after,
        tree.nodes = before ++ node :: after ∧
        (∀ earlier ∈ before, earlier.dividesByZero = false ∧ Fits earlier.exact) ∧
        (node.dividesByZero = true ∧ fault = .divisionByZero ∨
          node.dividesByZero = false ∧ ¬ Fits node.exact ∧ fault = .overflow)) ∧
      ((∃ i : Int64, tree.evalNumber = .ok (.int i)) ∨
        ∃ fault, tree.evalNumber = .error fault ∧
          (fault.code = "EXPR_DIVISION_BY_ZERO" ∨ fault.code = "EXPR_OVERFLOW"))) ∧
    ∀ a b : Int64, b ≠ 0 →
      (intMod a b).toInt = a.toInt - b.toInt * a.toInt.fdiv b.toInt ∧
      (b ≠ -1 → Fits (a.toInt.tdiv b.toInt) ∧
        (¬ ((a % b).toInt < 0 ↔ b.toInt < 0) →
          Fits ((a % b).toInt + b.toInt) ∧
          (a % b + b).toInt = (a % b).toInt + b.toInt)) := by
  refine ⟨fun tree h => ⟨fun i => evalNumber_eq_int_iff h, fun fault => evalNumber_eq_error_iff h,
    int_or_arithmetic h⟩, fun a b _ => ⟨?_, fun hb => ⟨?_, ?_⟩⟩⟩
  · rw [toInt_intMod, Int.fmod_def]
  · exact fits_tdiv b.toInt (fits_toInt a) fun h => hb (Int64.toInt_inj.mp h)
  · intro hsigns
    exact ⟨fits_correction hsigns, toInt_add_of_fits (fits_correction hsigns)⟩

/-- The least integer leaves nothing over when it is divided by minus one, and overflows when it is
negated, which comes before the division by zero behind it. -/
theorem integers_exact_least :
    let least := Tree.binary .sub (.int (-9223372036854775807)) (.int 1)
    let rest := Tree.binary .mod least (.int (-1))
    let tree := Tree.binary .add (.sign .minus least) (.binary .mod (.int 1) (.int 0))
    ((∀ node ∈ rest.nodes, node.dividesByZero = false ∧ Fits node.exact) ∧
      Int64.toInt 0 = rest.exact) ∧
    (∃ before node after, tree.nodes = before ++ node :: after ∧
      (∀ earlier ∈ before, earlier.dividesByZero = false ∧ Fits earlier.exact) ∧
      (node.dividesByZero = true ∧ Fault.overflow = .divisionByZero ∨
        node.dividesByZero = false ∧ ¬ Fits node.exact ∧ Fault.overflow = .overflow)) ∧
    (intMod 7 (-2)).toInt = 7 - (-2) * Int.fdiv 7 (-2) ∧ Fits (Int.tdiv 7 (-2)) ∧
    ((7 : Int64) % -2 + -2).toInt = ((7 : Int64) % -2).toInt + (-2 : Int64).toInt := by
  intro least rest tree
  obtain ⟨htrees, hremainder⟩ := integers_exact
  obtain ⟨hexact, hquotient⟩ := hremainder 7 (-2) (by decide)
  obtain ⟨hfits, hcorrection⟩ := hquotient (by decide)
  exact ⟨((htrees rest rfl).1 0).mp rfl, ((htrees tree rfl).2.1 .overflow).mp rfl, hexact, hfits,
    (hcorrection (by decide)).2⟩

end DialogueScript.Expr
