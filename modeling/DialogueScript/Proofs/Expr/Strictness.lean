import Mathlib.Data.List.Forall2
import DialogueScript.Proofs.Expr.Kinding

/-!
# Evaluation is strict

The evaluation of a tree comes to its nodes in a fixed order: from left to right, and to each behind
its operands (`Tree.visits`). No node is passed over because an operand in front of it decides the
result, so the fault of a tree is that of the first node that fails (`fault?_eval`), and such a node
fails by itself, its operands having values (`Visit.Breaks`). Where nothing fails, the operators
have their classical meaning, and a chain of comparisons is the conjunction of the comparisons of
its neighbours (`strict_and_classical`).
-/

namespace DialogueScript.Expr

/-! ## Nodes -/

/-- A node, and the kind that it is evaluated as. -/
structure Visit where
  kind : Kind
  node : Tree

/-- The operands of a node from left to right, with the kinds that they are evaluated as. -/
def Tree.operands : Tree → List Visit
  | .int _ | .float _ | .bool _ | .var _ => []
  | .sign _ operand => [⟨.numeric, operand⟩]
  | .binary op left right => [⟨op.kind, left⟩, ⟨op.kind, right⟩]
  | .logical _ operands => operands.map (⟨.boolean, ·⟩)
  | .not operand => [⟨.boolean, operand⟩]
  | .compare first links => ⟨.numeric, first⟩ :: links.map (⟨.numeric, ·.2⟩)

/-- Operands are smaller than their node, whichever kind the node is of. -/
theorem sizeOf_lt_of_mem_operands {tree : Tree} {operand : Visit} (h : operand ∈ tree.operands) :
    sizeOf operand.node < sizeOf tree := by
  cases tree with
  | int _ | float _ | bool _ | var _ => cases h
  | sign op operand =>
    obtain rfl := List.mem_singleton.mp h
    have hsize := Tree.sign.sizeOf_spec op operand
    dsimp only
    omega
  | binary op left right =>
    have hsize := Tree.binary.sizeOf_spec op left right
    rcases List.mem_cons.mp h with rfl | h
    · dsimp only
      omega
    · obtain rfl := List.mem_singleton.mp h
      dsimp only
      omega
  | logical op operands =>
    obtain ⟨operand, hmem, rfl⟩ := List.mem_map.mp h
    have hsize := Tree.logical.sizeOf_spec op operands
    have hoperand := List.sizeOf_lt_of_mem hmem
    dsimp only
    omega
  | not operand =>
    obtain rfl := List.mem_singleton.mp h
    have hsize := Tree.not.sizeOf_spec operand
    dsimp only
    omega
  | compare first links =>
    have hsize := Tree.compare.sizeOf_spec first links
    rcases List.mem_cons.mp h with rfl | h
    · dsimp only
      omega
    · obtain ⟨link, hmem, rfl⟩ := List.mem_map.mp h
      have hlink : sizeOf link = 1 + sizeOf link.1 + sizeOf link.2 := rfl
      have hlinks := List.sizeOf_lt_of_mem hmem
      dsimp only
      omega

/-- Induction on a tree, with a hypothesis for each of its operands. -/
theorem Tree.inductionOn_operands {P : Tree → Prop}
    (step : ∀ tree : Tree, (∀ operand ∈ tree.operands, P operand.node) → P tree) :
    ∀ tree, P tree := by
  intro tree
  refine step tree fun operand hmem => ?_
  have hsize := sizeOf_lt_of_mem_operands hmem
  exact Tree.inductionOn_operands step operand.node
termination_by tree => sizeOf tree

/-- The nodes of a tree from left to right, each behind its operands. -/
def Tree.nodes (tree : Tree) : List Tree :=
  (tree.operands.attach.flatMap fun operand => operand.1.node.nodes) ++ [tree]
termination_by sizeOf tree
decreasing_by exact sizeOf_lt_of_mem_operands operand.2

/-- The nodes of a tree are those of its operands and the tree itself, in post-order. -/
theorem nodes_eq (tree : Tree) :
    tree.nodes = (tree.operands.flatMap fun operand => operand.node.nodes) ++ [tree] := by
  rw [Tree.nodes]
  simp only [List.flatMap_subtype, List.unattach_attach]

/-- Some node has a property if one below an operand has it or the tree has. -/
theorem any_nodes (tree : Tree) (p : Tree → Bool) : tree.nodes.any p
    = ((tree.operands.any fun operand => operand.node.nodes.any p) || p tree) := by
  rw [nodes_eq, List.any_append, List.any_flatMap, List.any_cons, List.any_nil, Bool.or_false]

/-- Is the node itself of the kind, whatever its operands are? -/
def Tree.isOf (kind : Kind) : Tree → Bool
  | .var _ => true
  | .int _ | .float _ | .sign _ _ => kind == .numeric
  | .bool _ | .logical _ _ | .not _ | .compare _ _ => kind == .boolean
  | .binary op _ _ => kind == op.kind

/-- The nodes that the evaluation of a tree comes to, from left to right and each behind its
operands. A node of the other kind is refused as it stands: there is nothing that its operands could
be evaluated for. -/
def Tree.visits (tree : Tree) (kind : Kind) : List Visit :=
  (if tree.isOf kind then
    tree.operands.attach.flatMap fun operand => operand.1.node.visits operand.1.kind
  else []) ++ [⟨kind, tree⟩]
termination_by sizeOf tree
decreasing_by exact sizeOf_lt_of_mem_operands operand.2

/-- A node of the right kind is visited after everything below it. -/
theorem visits_eq {tree : Tree} {kind : Kind} (h : tree.isOf kind = true) :
    tree.visits kind = (tree.operands.flatMap fun operand => operand.node.visits operand.kind)
      ++ [⟨kind, tree⟩] := by
  rw [Tree.visits, if_pos h]
  simp only [List.flatMap_subtype, List.unattach_attach]

/-- A node of the wrong kind is visited alone, since nothing below it is evaluated. -/
theorem visits_of_not_isOf {tree : Tree} {kind : Kind} (h : tree.isOf kind = false) :
    tree.visits kind = [⟨kind, tree⟩] := by
  rw [Tree.visits, if_neg (by simp [h])]
  rfl

/-- A tree conforms if its node is of the kind that is asked for and each operand conforms to its
own. -/
theorem conforms_iff_operands (tree : Tree) (kind : Kind) : tree.conforms kind = true ↔
    tree.isOf kind = true ∧
      ∀ operand ∈ tree.operands, operand.node.conforms operand.kind = true := by
  cases tree with
  | int _ | float _ | bool _ | var _ => simp [Tree.conforms, Tree.isOf, Tree.operands]
  | sign _ _ | not _ => simp [Tree.conforms, Tree.isOf, Tree.operands]
  | binary op left right =>
    rw [conforms_binary, Tree.isOf, beq_iff_eq]
    refine and_congr_right fun hkind => ?_
    simp [Tree.operands, hkind]
  | logical op operands =>
    rw [Tree.conforms, Bool.and_eq_true, allConform_iff, Tree.operands, List.forall_mem_map]
    rfl
  | compare first links =>
    rw [Tree.conforms, Bool.and_eq_true, Bool.and_eq_true, allLinksConform_iff, and_assoc,
      Tree.operands, List.forall_mem_cons, List.forall_mem_map]
    rfl

/-- In a tree of the kind no node is left out. -/
theorem nodes_of_conforms {tree : Tree} : ∀ {kind : Kind}, tree.conforms kind = true →
    (tree.visits kind).map (·.node) = tree.nodes := by
  induction tree using Tree.inductionOn_operands with
  | step tree ih =>
    intro kind h
    obtain ⟨hkind, hoperands⟩ := (conforms_iff_operands tree kind).mp h
    rw [visits_eq hkind, nodes_eq, List.map_append, List.map_flatMap]
    congr 1
    exact List.flatMap_congr fun operand hmem => ih operand hmem (hoperands operand hmem)

/-! ## Faults -/

/-- The fault that a result is, if it is one. -/
def fault? {α : Type} : Except Fault α → Option Fault
  | .ok _ => none
  | .error fault => some fault

section Fault

variable {α β : Type} {first : Except Fault α} {fault : Fault}

theorem fault?_eq_some_iff : fault? first = some fault ↔ first = .error fault := by
  cases first <;> simp [fault?]

/-- What has no fault has a value. -/
theorem fault?_eq_none_iff : fault? first = none ↔ ∃ value, first = .ok value := by
  cases first <;> simp [fault?]

/-- If the second part never fails, the whole fails as the first part does. -/
theorem fault?_bind_pure (first : Except Fault α) (next : α → β) :
    fault? (first >>= fun value => pure (next value)) = fault? first := by
  cases first <;> rfl

/-- A chain fails as the first of its members that does. -/
theorem fault?_mapM (eval : α → Except Fault β) (members : List α) :
    fault? (members.mapM eval) = members.findSome? fun member => fault? (eval member) := by
  induction members with
  | nil => rfl
  | cons member more ih =>
    rw [List.mapM_cons, List.findSome?_cons]
    cases eval member with
    | error fault => rfl
    | ok value =>
      show fault? (more.mapM eval >>= fun values => pure (value :: values)) = _
      rw [fault?_bind_pure, ih]
      rfl

/-- Two parts fail as the first of them that does. -/
theorem fault?_pair (second : Except Fault β) :
    fault? (do
      let a ← first
      let b ← second
      return (a, b)) = (fault? first).or (fault? second) := by
  cases first with
  | error fault => rfl
  | ok value => exact fault?_bind_pure second fun b => (value, b)

/-- The first fault is that of the first member, or else the first one behind it. -/
theorem findSome?_cons_eq_or (f : α → Option β) (member : α) (more : List α) :
    (member :: more).findSome? f = (f member).or (more.findSome? f) := by
  rw [List.findSome?_cons]
  cases f member <;> rfl

/-- The first of many parts put together is the first of the parts that has one. -/
theorem findSome?_flatMap {γ : Type} {members : List α} {parts : α → List β} {f : β → Option γ}
    {g : α → Option γ} (h : ∀ member ∈ members, (parts member).findSome? f = g member) :
    (members.flatMap parts).findSome? f = members.findSome? g := by
  induction members with
  | nil => rfl
  | cons member more ih =>
    obtain ⟨hmember, hmore⟩ := List.forall_mem_cons.mp h
    rw [List.flatMap_cons, List.findSome?_append, findSome?_cons_eq_or, hmember, ih hmore]

end Fault

namespace Visit

/-- The node has a value of its kind. -/
def HasValue (visit : Visit) : Prop := ∃ value, visit.node.eval visit.kind = .ok value

/-- The fault of the node, if it has no value. -/
def fault? (visit : Visit) : Option Fault := Expr.fault? (visit.node.eval visit.kind)

/-- A visit without a fault has a value. -/
theorem fault?_eq_none_iff {visit : Visit} : visit.fault? = none ↔ visit.HasValue :=
  Expr.fault?_eq_none_iff

theorem fault?_eq_some_iff {visit : Visit} {fault : Fault} :
    visit.fault? = some fault ↔ visit.node.eval visit.kind = .error fault :=
  Expr.fault?_eq_some_iff

/-- What goes wrong at a node itself: it is of the other kind, it is a variable, or its arithmetic
has no result. -/
inductive Breaks : Visit → Fault → Prop
  | kind {kind node} (h : Tree.isOf kind node = false) : Breaks ⟨kind, node⟩ (.wrongOperand kind)
  | unbound {kind name} : Breaks ⟨kind, .var name⟩ (.unbound name)
  | sign {op operand value fault} (hoperand : operand.evalNumber = .ok value)
      (h : applySign op value = .error fault) : Breaks ⟨.numeric, .sign op operand⟩ fault
  | arithmetic {op left right a b fault} (hop : op.kind = .numeric)
      (hleft : left.evalNumber = .ok a) (hright : right.evalNumber = .ok b)
      (h : Expr.arithmetic op a b = .error fault) :
      Breaks ⟨.numeric, .binary op left right⟩ fault

/-- Everything that the evaluation of a node can come to: the fault of the first of its operands
that fails, or, if they have values, its own value or its own fault. -/
inductive Outcome (visit : Visit) : Prop
  | operand (fault) (first : visit.node.operands.findSome? Visit.fault? = some fault)
      (eval : visit.node.eval visit.kind = .error fault)
  | value (none : visit.node.operands.findSome? Visit.fault? = none) (hasValue : visit.HasValue)
  | breaks (fault) (none : visit.node.operands.findSome? Visit.fault? = none)
      (breaks : visit.Breaks fault) (eval : visit.node.eval visit.kind = .error fault)

end Visit

/-- Of the operators only those between numbers break. -/
theorem breaks_of_apply {op : BinaryOp} {left right : Tree} {a b : op.kind.Result} {fault : Fault}
    (hleft : left.eval op.kind = .ok a) (hright : right.eval op.kind = .ok b)
    (h : op.apply a b = .error fault) : Visit.Breaks ⟨op.kind, .binary op left right⟩ fault := by
  cases op with
  | pow => cases h
  | add | sub | mul | div | mod => exact .arithmetic rfl hleft hright h

/-- The links of a comparison report the first fault among their operands, even behind a link that
does not hold. -/
theorem fault?_evalLinks (links : List (CompareOp × Tree)) :
    fault? (evalLinks links) = links.findSome? fun link => fault? link.2.evalNumber := by
  rw [evalLinks_eq_mapM, fault?_mapM]
  congr 1
  funext link
  exact fault?_bind_pure link.2.evalNumber fun value => (link.1, value)

/-- A node evaluates its operands, and then makes a value of theirs or breaks. -/
theorem Visit.Outcome.of_bind {visit : Visit} {α : Type} (operands : Except Fault α)
    (next : α → Except Fault visit.kind.Result)
    (heval : visit.node.eval visit.kind = operands >>= next)
    (hoperands : Expr.fault? operands = visit.node.operands.findSome? Visit.fault?)
    (hnext : ∀ value, operands = .ok value → (∃ result, next value = .ok result) ∨
      ∃ fault, visit.Breaks fault ∧ next value = .error fault) : visit.Outcome := by
  cases hvalue : operands with
  | error fault =>
    rw [hvalue] at heval hoperands
    exact .operand fault hoperands.symm heval
  | ok value =>
    rw [hvalue] at heval hoperands
    rcases hnext value hvalue with ⟨result, hresult⟩ | ⟨fault, hbreaks, hfault⟩
    · exact .value hoperands.symm ⟨result, heval.trans hresult⟩
    · exact .breaks fault hoperands.symm hbreaks (heval.trans hfault)

/-- What the evaluation of a node of the kind can come to. -/
theorem outcome_of_isOf {tree : Tree} {kind : Kind} (h : tree.isOf kind = true) :
    Visit.Outcome ⟨kind, tree⟩ := by
  cases tree with
  | int value =>
    obtain rfl : kind = .numeric := beq_iff_eq.mp h
    exact .value rfl ⟨.int value, rfl⟩
  | float value =>
    obtain rfl : kind = .numeric := beq_iff_eq.mp h
    exact .value rfl ⟨.float value, rfl⟩
  | bool value =>
    obtain rfl : kind = .boolean := beq_iff_eq.mp h
    exact .value rfl ⟨value, rfl⟩
  | var name => exact .breaks (.unbound name) rfl .unbound (by cases kind <;> rfl)
  | sign op operand =>
    obtain rfl : kind = .numeric := beq_iff_eq.mp h
    refine .of_bind operand.evalNumber (applySign op) rfl
      List.findSome?_singleton.symm fun value hvalue => ?_
    cases hresult : applySign op value with
    | ok result => exact .inl ⟨result, rfl⟩
    | error fault => exact .inr ⟨fault, .sign hvalue hresult, rfl⟩
  | binary op left right =>
    obtain rfl : kind = op.kind := beq_iff_eq.mp h
    -- both operands are evaluated before the operator is applied
    refine .of_bind (do
        let a ← left.eval op.kind
        let b ← right.eval op.kind
        return (a, b))
      (fun values => op.apply values.1 values.2) ?_ ?_ fun values hvalues => ?_
    · simp only [bind_assoc, pure_bind]
      exact eval_binary op left right
    · rw [fault?_pair, Tree.operands, findSome?_cons_eq_or, List.findSome?_singleton]
      rfl
    · obtain ⟨a, ha, hpair⟩ := bind_eq_ok hvalues
      obtain ⟨b, hb, hpair⟩ := bind_eq_ok hpair
      obtain rfl := Except.ok.inj hpair
      cases hresult : op.apply a b with
      | ok result => exact .inl ⟨result, rfl⟩
      | error fault => exact .inr ⟨fault, breaks_of_apply ha hb hresult, rfl⟩
  | logical op operands =>
    obtain rfl : kind = .boolean := beq_iff_eq.mp h
    -- all operands are evaluated, also behind one that decides
    refine .of_bind (operands.mapM Tree.evalBool)
      (fun values => .ok (op.combine values)) ?_ ?_ fun values _ => .inl ⟨_, rfl⟩
    · rw [← evalAll_eq_mapM]
      rfl
    · rw [fault?_mapM, Tree.operands, List.findSome?_map]
      rfl
  | not operand =>
    obtain rfl : kind = .boolean := beq_iff_eq.mp h
    exact .of_bind operand.evalBool (fun value => .ok (!value)) rfl
      List.findSome?_singleton.symm fun value _ => .inl ⟨_, rfl⟩
  | compare first links =>
    obtain rfl : kind = .boolean := beq_iff_eq.mp h
    -- all operands are evaluated before any two are compared
    refine .of_bind (do
        let value ← first.evalNumber
        let values ← evalLinks links
        return (value, values))
      (fun values => .ok (linksHold values.1 values.2)) ?_ ?_ fun values _ => .inl ⟨_, rfl⟩
    · simp only [bind_assoc, pure_bind]
      rfl
    · rw [fault?_pair, fault?_evalLinks, Tree.operands, findSome?_cons_eq_or, List.findSome?_map]
      rfl

/-- A node of the other kind is refused, whatever its operands are. -/
theorem eval_of_not_isOf {tree : Tree} {kind : Kind} (h : tree.isOf kind = false) :
    tree.eval kind = .error (.wrongOperand kind) := by
  cases tree with
  | var name => cases h
  | binary op left right => exact eval_binary_of_ne op left right (beq_eq_false_iff_ne.mp h)
  | int _ | float _ | sign _ _ | bool _ | logical _ _ | not _ | compare _ _ =>
    cases kind <;> first | rfl | cases h

/-- An operator between numbers evaluates both operands before it is applied. -/
theorem evalNumber_binary {op : BinaryOp} (hop : op.kind = .numeric) (left right : Tree) :
    (Tree.binary op left right).evalNumber
      = (do
        let a ← left.evalNumber
        let b ← right.evalNumber
        arithmetic op a b) := by
  cases op with
  | pow => cases hop
  | add | sub | mul | div | mod => rfl

/-- A node that breaks evaluates to the fault it breaks with. -/
theorem eval_of_breaks {visit : Visit} {fault : Fault} (h : visit.Breaks fault) :
    visit.node.eval visit.kind = .error fault := by
  cases h with
  | kind h => exact eval_of_not_isOf h
  | @unbound kind name => cases kind <;> rfl
  | sign hoperand h =>
    rw [Tree.eval, Tree.evalNumber, hoperand]
    exact h
  | arithmetic hop hleft hright h =>
    rw [Tree.eval, evalNumber_binary hop, hleft, hright]
    exact h

/-- The fault of a tree is that of the first of its nodes that fails. -/
theorem fault?_eval (tree : Tree) : ∀ kind : Kind,
    fault? (tree.eval kind) = (tree.visits kind).findSome? Visit.fault? := by
  induction tree using Tree.inductionOn_operands with
  | step tree ih =>
    intro kind
    cases hkind : tree.isOf kind with
    | false => rw [visits_of_not_isOf hkind, List.findSome?_singleton, Visit.fault?]
    | true =>
      rw [visits_eq hkind, List.findSome?_append, List.findSome?_singleton,
        findSome?_flatMap fun operand hmem => (ih operand hmem operand.kind).symm]
      show fault? (tree.eval kind)
        = (tree.operands.findSome? Visit.fault?).or (fault? (tree.eval kind))
      cases outcome_of_isOf hkind with
      | operand fault hfirst heval => rw [hfirst, Option.some_or, fault?_eq_some_iff.mpr heval]
      | value hnone _ | breaks _ hnone _ _ => rw [hnone, Option.none_or]

/-- What has a value comes to no node without one. -/
theorem hasValue_of_mem_visits {whole visit : Visit} (h : whole.HasValue)
    (hmem : visit ∈ whole.node.visits whole.kind) : visit.HasValue := by
  have hnone := Visit.fault?_eq_none_iff.mpr h
  rw [Visit.fault?, fault?_eval, List.findSome?_eq_none_iff] at hnone
  exact Visit.fault?_eq_none_iff.mp (hnone visit hmem)

/-- The first of the nodes that breaks does it with the fault. Those in front of it have values. -/
def FirstBreaks (visits : List Visit) (fault : Fault) : Prop :=
  ∃ before visit after, visits = before ++ visit :: after ∧
    (∀ earlier ∈ before, earlier.HasValue) ∧ visit.Breaks fault

/-- The first break stays the first one behind visits that have values, whatever comes after it. -/
theorem FirstBreaks.behind {front visits : List Visit} {fault : Fault}
    (hfront : ∀ earlier ∈ front, earlier.HasValue) (h : FirstBreaks visits fault)
    (back : List Visit) : FirstBreaks (front ++ (visits ++ back)) fault := by
  obtain ⟨before, visit, after, rfl, hbefore, hbreaks⟩ := h
  refine ⟨front ++ before, visit, after ++ back, ?_,
    List.forall_mem_append.mpr ⟨hfront, hbefore⟩, hbreaks⟩
  simp only [List.append_assoc, List.cons_append]

/-- Operands that have values come to no node without one. -/
theorem hasValue_of_mem_flatMap {operands : List Visit}
    (h : ∀ operand ∈ operands, operand.fault? = none) :
    ∀ earlier ∈ operands.flatMap fun operand => operand.node.visits operand.kind,
      earlier.HasValue := by
  intro earlier hmem
  obtain ⟨operand, hoperand, hvisit⟩ := List.mem_flatMap.mp hmem
  exact hasValue_of_mem_visits (Visit.fault?_eq_none_iff.mp (h operand hoperand)) hvisit

/-- A tree without a value comes to a node that breaks. -/
theorem firstBreaks_of_eval (tree : Tree) : ∀ (kind : Kind) (fault : Fault),
    tree.eval kind = .error fault → FirstBreaks (tree.visits kind) fault := by
  induction tree using Tree.inductionOn_operands with
  | step tree ih =>
    intro kind fault h
    cases hkind : tree.isOf kind with
    | false =>
      obtain rfl := Except.error.inj ((eval_of_not_isOf hkind).symm.trans h)
      exact ⟨[], ⟨kind, tree⟩, [], visits_of_not_isOf hkind, nofun, .kind hkind⟩
    | true =>
      cases outcome_of_isOf hkind with
      | operand first hfirst heval =>
        -- the first operand with a fault breaks, and what was visited before it has a value
        obtain rfl := Except.error.inj (heval.symm.trans h)
        obtain ⟨front, operand, back, hoperands, hfault, hnone⟩ :=
          List.findSome?_eq_some_iff.mp hfirst
        have hoperands : tree.operands = front ++ operand :: back := hoperands
        have hbreaks := ih operand (by simp [hoperands]) operand.kind first
          (Visit.fault?_eq_some_iff.mp hfault)
        rw [visits_eq hkind, hoperands, List.flatMap_append, List.flatMap_cons, List.append_assoc,
          List.append_assoc]
        exact hbreaks.behind (hasValue_of_mem_flatMap hnone) _
      | value _ hvalue =>
        obtain ⟨value, hvalue⟩ := hvalue
        cases hvalue.symm.trans h
      | breaks own hnone hbreaks heval =>
        -- all operands have values, and the node itself breaks
        obtain rfl := Except.error.inj (heval.symm.trans h)
        exact ⟨_, ⟨kind, tree⟩, [], visits_eq hkind,
          hasValue_of_mem_flatMap (List.findSome?_eq_none_iff.mp hnone), hbreaks⟩

/-- A tree fails with what breaks behind nodes that have values. -/
theorem eval_eq_error_iff {tree : Tree} {kind : Kind} {fault : Fault} :
    tree.eval kind = .error fault ↔ FirstBreaks (tree.visits kind) fault := by
  refine ⟨firstBreaks_of_eval tree kind fault, ?_⟩
  rintro ⟨before, visit, after, hvisits, hbefore, hbreaks⟩
  have hnone : before.findSome? Visit.fault? = none := List.findSome?_eq_none_iff.mpr
    fun earlier hmem => Visit.fault?_eq_none_iff.mpr (hbefore earlier hmem)
  have hfault : visit.fault? = some fault :=
    Visit.fault?_eq_some_iff.mpr (eval_of_breaks hbreaks)
  rw [← fault?_eq_some_iff, fault?_eval, hvisits, List.findSome?_append, hnone, Option.none_or,
    findSome?_cons_eq_or, hfault, Option.some_or]

/-! ## Values -/

/-- A chain of comparisons as the comparisons of its neighbours, each on its own. -/
def neighbours : Tree → List (CompareOp × Tree) → List Tree
  | _, [] => []
  | first, (op, operand) :: more => .compare first [(op, operand)] :: neighbours operand more

/-- A chain of comparisons holds if all pairs of neighbours compare. -/
theorem evalAll_neighbours {first : Tree} {value : Number} (h : first.evalNumber = .ok value) :
    ∀ links : List (CompareOp × Tree),
      (evalAll (neighbours first links) >>= fun values => pure (values.all id))
        = (evalLinks links >>= fun values => pure (linksHold value values)) := by
  intro links
  induction links generalizing first value with
  | nil => rfl
  | cons link more ih =>
    obtain ⟨op, operand⟩ := link
    cases hoperand : operand.evalNumber with
    | error fault =>
      -- the fault of the operand is that of the first pair it stands in
      have hcompare : (Tree.compare first [(op, operand)]).evalBool = .error fault := by
        rw [Tree.evalBool, h, evalLinks, hoperand]
        rfl
      rw [neighbours, evalAll, hcompare, evalLinks, hoperand]
      rfl
    | ok other =>
      have hcompare : (Tree.compare first [(op, operand)]).evalBool
          = .ok (op.holds value other && true) := by
        rw [Tree.evalBool, h, evalLinks, hoperand]
        rfl
      -- the next pair begins with the operand of this one
      have hmore := congrArg (· >>= fun rest => pure (op.holds value other && rest)) (ih hoperand)
      simp only [bind_assoc, pure_bind] at hmore
      rw [Bool.and_true] at hcompare
      rw [neighbours, evalAll, hcompare, evalLinks, hoperand]
      show (evalAll (neighbours operand more) >>= fun values =>
          pure (op.holds value other :: values))
          >>= (fun values => pure (values.all id))
        = (evalLinks more >>= fun values => pure ((op, other) :: values))
          >>= fun values => pure (linksHold value values)
      simp only [bind_assoc, pure_bind]
      exact hmore

/-- A chain of comparisons comes to what the conjunction of its neighbours does. -/
theorem evalBool_compare_eq_neighbours (first : Tree) (op : CompareOp) (operand : Tree)
    (more : List (CompareOp × Tree)) : (Tree.compare first ((op, operand) :: more)).evalBool
      = (Tree.logical .and (neighbours first ((op, operand) :: more))).evalBool := by
  cases hfirst : first.evalNumber with
  | error fault =>
    have hcompare : (Tree.compare first [(op, operand)]).evalBool = .error fault := by
      rw [Tree.evalBool, hfirst]
      rfl
    rw [neighbours, Tree.evalBool, Tree.evalBool, evalAll, hfirst, hcompare]
    rfl
  | ok value =>
    rw [Tree.evalBool, Tree.evalBool, hfirst]
    exact (evalAll_neighbours hfirst _).symm

/-- The operands of a logical chain have the values. -/
theorem evalAll_of_forall₂ {operands : List Tree} {values : List Bool}
    (h : List.Forall₂ (fun operand value => operand.evalBool = .ok value) operands values) :
    evalAll operands = .ok values := by
  induction h with
  | nil => rfl
  | cons hoperand _ ih =>
    rw [evalAll, hoperand, ih]
    rfl

/-- A logical operator combines the values of all its operands. -/
theorem evalBool_logical {op : BoolOp} {operands : List Tree} {values : List Bool}
    (h : List.Forall₂ (fun operand value => operand.evalBool = .ok value) operands values) :
    (Tree.logical op operands).evalBool = .ok (op.combine values) := by
  rw [Tree.evalBool, evalAll_of_forall₂ h]
  rfl

theorem mem_visits_self (tree : Tree) (kind : Kind) : ⟨kind, tree⟩ ∈ tree.visits kind := by
  cases hkind : tree.isOf kind with
  | false => simp [visits_of_not_isOf hkind]
  | true => simp [visits_eq hkind]

/-- What has a value has operands that have values. -/
theorem hasValue_of_mem_operands {whole operand : Visit} (h : whole.HasValue)
    (hmem : operand ∈ whole.node.operands) : operand.HasValue := by
  cases hkind : whole.node.isOf whole.kind with
  | false =>
    obtain ⟨value, hvalue⟩ := h
    cases (eval_of_not_isOf hkind).symm.trans hvalue
  | true =>
    refine hasValue_of_mem_visits h ?_
    rw [visits_eq hkind]
    exact List.mem_append_left _ (List.mem_flatMap.mpr ⟨operand, hmem, mem_visits_self _ _⟩)

/-- What has no value has a fault. -/
theorem exists_fault_of_not_hasValue (visit : Visit) (h : ¬ visit.HasValue) :
    ∃ fault, visit.node.eval visit.kind = .error fault := by
  cases hvalue : visit.node.eval visit.kind with
  | error fault => exact ⟨fault, rfl⟩
  | ok value => exact absurd ⟨value, hvalue⟩ h

/-- **Evaluation is strict and has the classical meaning.** The first three statements are about
every tree: it fails exactly with what breaks at the first node that breaks, the nodes in front
having values; it fails wherever an operand of a node that it comes to fails; and in a tree of the
kind it comes to every node, from left to right and to each behind its operands. The others say
what the operators make of operands that have values, and that a chain of comparisons is the
conjunction of the comparisons of its neighbours, also where it fails. -/
theorem strict_and_classical :
    (∀ (tree : Tree) (kind : Kind),
      (∀ fault, tree.eval kind = .error fault ↔ FirstBreaks (tree.visits kind) fault) ∧
      (∀ visit ∈ tree.visits kind, ∀ operand ∈ visit.node.operands, ¬ operand.HasValue →
        ∃ fault, tree.eval kind = .error fault) ∧
      (tree.conforms kind = true → (tree.visits kind).map (·.node) = tree.nodes)) ∧
    (∀ operands values,
      List.Forall₂ (fun operand value => operand.evalBool = .ok value) operands values →
      (Tree.logical .and operands).evalBool = .ok (decide (∀ value ∈ values, value = true)) ∧
      (Tree.logical .or operands).evalBool = .ok (decide (∃ value ∈ values, value = true))) ∧
    (∀ left right a b, left.evalBool = .ok a → right.evalBool = .ok b →
      (Tree.binary .pow left right).evalBool = .ok (a ^^ b) ∧
      (Tree.not left).evalBool = .ok (!a)) ∧
    ∀ first op operand more, (Tree.compare first ((op, operand) :: more)).evalBool
      = (Tree.logical .and (neighbours first ((op, operand) :: more))).evalBool := by
  refine ⟨fun tree kind => ⟨fun fault => eval_eq_error_iff, ?_, nodes_of_conforms⟩, ?_, ?_,
    evalBool_compare_eq_neighbours⟩
  · intro visit hvisit operand hoperand hfails
    refine exists_fault_of_not_hasValue ⟨kind, tree⟩ fun hvalue => ?_
    exact hfails (hasValue_of_mem_operands (hasValue_of_mem_visits hvalue hvisit) hoperand)
  · intro operands values h
    rw [evalBool_logical h, evalBool_logical h, BoolOp.combine, BoolOp.combine]
    constructor <;> congr 1 <;> rw [Bool.eq_iff_iff] <;> simp
  · intro left right a b hleft hright
    constructor
    · rw [Tree.evalBool, hleft, hright]
      rfl
    · rw [Tree.evalBool, hleft]
      rfl

/-- What is false already fails for the last operand of the chain behind it. -/
theorem strict_and_classical_decided :
    let links := [(.less, .int 1), (.less, .binary .mod (.int 1) (.int 0))]
    let chain := Tree.compare (.int 3) links
    let tree := Tree.logical .and [.bool false, chain]
    tree.conforms .boolean = true ∧ (tree.visits .boolean).map (·.node) = tree.nodes ∧
    tree.eval .boolean = .error .divisionByZero ∧
    FirstBreaks (tree.visits .boolean) .divisionByZero ∧
    (∃ fault, tree.eval .boolean = .error fault) ∧
    (Tree.logical .or [.bool false, .bool true]).evalBool = .ok true ∧
    (Tree.binary .pow (.bool false) (.bool true)).evalBool = .ok true ∧
    chain.evalBool = (Tree.logical .and (neighbours (.int 3) links)).evalBool := by
  intro links chain tree
  obtain ⟨hstrict, hlogical, hoperators, hchain⟩ := strict_and_classical
  obtain ⟨hfault, hoperand, hnodes⟩ := hstrict tree .boolean
  refine ⟨rfl, hnodes rfl, rfl, (hfault .divisionByZero).mp rfl, ?_,
    (hlogical [.bool false, .bool true] [false, true] (.cons rfl (.cons rfl .nil))).2,
    (hoperators (.bool false) (.bool true) false true rfl rfl).1, hchain ..⟩
  refine hoperand ⟨.boolean, tree⟩ (mem_visits_self tree .boolean) ⟨.boolean, chain⟩
    (List.mem_cons_of_mem _ (List.mem_cons_self ..)) ?_
  rintro ⟨value, hvalue⟩
  cases hvalue

end DialogueScript.Expr
