import Mathlib
import ExprTree.Proofs.FirstFault
import ExprTree.Proofs.Pointwise
import ExprTree.Node.Validate

/-
  Validation: what the stack walk of `Node.validate` checks and in which order it reports. Popping
  a node and pushing its children, left then right, visits the node and then the subtrees of its
  children right first (`checkStack_eq_checkVisits`), so the walk visits the positions of the tree
  in `Node.mirrorPreorder`, the depth-first order with the right subtree first, whatever the tree
  shares. Checking the visits in turn passes exactly when no tag comes twice and every operator
  slot holds an operator (`checkVisits_eq_ok_iff`), and otherwise fails at the first position
  whose node was met before, or, met there for the first time, holds no operator
  (`checkVisits_eq_error_iff`). A validated tree therefore compiles, and its evaluation never
  reports a broken invariant.

  Main result: `validate_reports_first_visit_fault`.
-/

namespace ExprTree

namespace Node

/-! ## The operator check -/

theorem checkOperator_eq_ok_iff (n : Node) : n.checkOperator = .ok () ↔ n.slotFault? = none := by
  cases n with
  | bin tag op l r =>
    simp only [checkOperator, slotFault?]
    cases Operator.ofSlot op <;> simp [faultOf, bind, Except.bind, pure, Except.pure]
  | lit | var => exact iff_of_true rfl rfl

theorem checkOperator_eq_error_iff (n : Node) (f : Fault) :
    n.checkOperator = .error f ↔ n.slotFault? = some f := by
  cases n with
  | bin tag op l r =>
    simp only [checkOperator, slotFault?]
    cases Operator.ofSlot op <;> simp [faultOf, bind, Except.bind, pure, Except.pure]
  | lit | var => simp [checkOperator, slotFault?, pure, Except.pure]

/-- A slot that fails holds a value that is not an operator. -/
theorem slotFault?_eq_some {n : Node} {f : Fault} (h : n.slotFault? = some f) :
    ∃ op, f = .unknownOperator op := by
  cases n with
  | bin tag op l r =>
    cases op with
    | operator o => cases h
    | _ => exact ⟨_, (Option.some.inj h).symm⟩
  | lit | var => cases h

/-- The operators of a tree are real exactly when no slot of its depth-first walk fails. -/
theorem operatorsReal_iff_slotFault? (t : Node) :
    t.operatorsReal = true ↔ ∀ m ∈ t.preorder, m.slotFault? = none := by
  induction t with
  | lit tag x => simp [operatorsReal, slotFault?]
  | var tag s => simp [operatorsReal, slotFault?]
  | bin tag op l r ihl ihr =>
    rw [operatorsReal_bin, ihl, ihr, preorder_bin, List.forall_mem_cons, List.forall_mem_append]
    have hself : (∃ o, op = .operator o) ↔ (bin tag op l r).slotFault? = none := by
      cases op <;> simp [slotFault?, Operator.ofSlot, faultOf, pure, Except.pure, throw,
        throwThe, MonadExceptOf.throw]
    rw [hself]

/-! ## The stack and the visits -/

/-- Visiting a node checks its tag against those already met, then its operator slot. -/
theorem checkVisits_cons (seen : List Nat) (n : Node) (rest : List Node) :
    checkVisits seen (n :: rest) = if seen.contains n.tag then throw (.sharedNode n)
      else n.checkOperator >>= fun _ => checkVisits (n.tag :: seen) rest := by
  cases n with
  | bin tag op l r =>
    simp only [checkVisits, checkOperator]
    cases Operator.ofSlot op <;> rfl
  | lit tag x =>
    simp only [checkVisits, checkOperator]
    rfl
  | var tag s =>
    simp only [checkVisits, checkOperator]
    rfl

/-- The mirrored walk of a node is the node, then the mirrored walks of its children, right
first: the order in which a stack pops them. -/
theorem mirrorPreorder_eq (n : Node) :
    n.mirrorPreorder = n :: (n.children.map Prod.snd).reverse.flatMap mirrorPreorder := by
  cases n <;> simp [mirrorPreorder, children]

theorem mirrorPreorder_perm (n : Node) : n.mirrorPreorder.Perm n.preorder := by
  induction n with
  | lit tag x => rfl
  | var tag s => rfl
  | bin tag op l r ihl ihr =>
    rw [mirrorPreorder_eq, preorder_bin]
    simp only [children, List.map_cons, List.map_nil, List.reverse_cons, List.reverse_nil,
      List.nil_append, List.cons_append, List.flatMap_cons, List.flatMap_nil, List.append_nil]
    exact ((ihr.append ihl).trans List.perm_append_comm).cons _

/-- The stack walk visits the subtrees on the stack, top first, each in mirrored walk order. The
induction follows the loop: a popped node is visited, and its children pushed right on top are
then walked right first. -/
theorem checkStack_eq_checkVisits (seen : List Nat) (stack : List Node) :
    checkStack seen stack = checkVisits seen (stack.flatMap mirrorPreorder) := by
  fun_induction checkStack seen stack with
  | case1 seen => rfl
  | case2 seen n stack hseen =>
    rw [List.flatMap_cons, mirrorPreorder_eq, List.cons_append, checkVisits_cons, if_pos hseen]
  | case3 seen n stack hseen ih =>
    rw [List.flatMap_cons, mirrorPreorder_eq, List.cons_append, checkVisits_cons, if_neg hseen,
      ← List.flatMap_append, ← ih]

theorem validate_eq_checkVisits (t : Node) : t.validate = checkVisits [] t.mirrorPreorder := by
  rw [validate, checkStack_eq_checkVisits, List.flatMap_singleton]

/-! ## What the visits report -/

/-- The fault of a node visited after the tags `seen`: the node was met before, or else its
operator slot holds no operator. -/
def visitFault? (seen : List Nat) (n : Node) : Option Fault :=
  if n.tag ∈ seen then some (.sharedNode n) else n.slotFault?

theorem visitFault?_eq_none_iff (seen : List Nat) (n : Node) :
    visitFault? seen n = none ↔ n.tag ∉ seen ∧ n.slotFault? = none := by
  by_cases h : n.tag ∈ seen <;> simp [visitFault?, h]

/-- One visit: the node's own fault is reported, or the visits go on with its tag met. -/
theorem checkVisits_step (seen : List Nat) (n : Node) (rest : List Node) :
    checkVisits seen (n :: rest) = match visitFault? seen n with
      | some f => .error f
      | none => checkVisits (n.tag :: seen) rest := by
  rw [checkVisits_cons, visitFault?]
  by_cases hmem : n.tag ∈ seen
  · rw [if_pos (List.contains_iff_mem.mpr hmem), if_pos hmem]
    rfl
  · rw [if_neg (fun h => hmem (List.contains_iff_mem.mp h)), if_neg hmem]
    cases hop : n.checkOperator with
    | error g => rw [(checkOperator_eq_error_iff n g).mp hop]; rfl
    | ok u => rw [(checkOperator_eq_ok_iff n).mp hop]; rfl

/-- Visits in two stretches: the second starts with the tags of the first met, latest first. -/
theorem checkVisits_append (seen : List Nat) (pre rest : List Node) :
    checkVisits seen (pre ++ rest) =
      (checkVisits seen pre >>= fun _ => checkVisits ((pre.map tag).reverse ++ seen) rest) := by
  induction pre generalizing seen with
  | nil => rfl
  | cons n pre ih =>
    rw [List.cons_append, checkVisits_step, checkVisits_step]
    cases visitFault? seen n with
    | some f => rfl
    | none =>
      rw [ih, List.map_cons, List.reverse_cons, List.append_assoc, List.singleton_append]

/-- The visits pass exactly when no tag comes twice or was met before, and no slot fails. -/
theorem checkVisits_eq_ok_iff (seen : List Nat) (W : List Node) :
    checkVisits seen W = .ok () ↔
      (W.map tag).Nodup ∧ (∀ n ∈ W, n.tag ∉ seen) ∧ ∀ n ∈ W, n.slotFault? = none := by
  induction W generalizing seen with
  | nil => simp [checkVisits, pure, Except.pure]
  | cons n rest ih =>
    rw [checkVisits_step, List.map_cons, List.nodup_cons, List.forall_mem_cons,
      List.forall_mem_cons]
    cases hv : visitFault? seen n with
    | some f =>
      -- the first node faults, so it was met before or its slot fails
      have hfails : ¬(n.tag ∉ seen ∧ n.slotFault? = none) := by
        rw [← visitFault?_eq_none_iff, hv]
        exact Option.some_ne_none f
      simp only [reduceCtorEq, false_iff]
      exact fun ⟨_, ⟨hnot, _⟩, ⟨hslot, _⟩⟩ => hfails ⟨hnot, hslot⟩
    | none =>
      obtain ⟨hnot, hslot⟩ := (visitFault?_eq_none_iff seen n).mp hv
      rw [ih]
      simp only [List.mem_cons, not_or, List.mem_map, not_exists, not_and, hnot, hslot,
        not_false_eq_true, true_and]
      constructor
      · rintro ⟨hnd, hfresh, hops⟩
        exact ⟨⟨fun m hm htag => (hfresh m hm).1 htag, hnd⟩, fun m hm => (hfresh m hm).2, hops⟩
      · rintro ⟨⟨hnew, hnd⟩, hfresh, hops⟩
        exact ⟨hnd, fun m hm => ⟨hnew m hm, hfresh m hm⟩, hops⟩

/-- The visits fail at the first position whose node faults given the tags met before it: the
nodes before it pass, and the fault is the one of that node. -/
theorem checkVisits_eq_error_iff (seen : List Nat) (W : List Node) (f : Fault) :
    checkVisits seen W = .error f ↔ ∃ pre n post, W = pre ++ n :: post ∧
      checkVisits seen pre = .ok () ∧ visitFault? ((pre.map tag).reverse ++ seen) n = some f := by
  constructor
  · induction W generalizing seen with
    | nil => exact fun h => nomatch h
    | cons m rest ih =>
      rw [checkVisits_step]
      cases hv : visitFault? seen m with
      | some g =>
        -- the first node faults
        rintro ⟨⟩
        exact ⟨[], m, rest, rfl, rfl, hv⟩
      | none =>
        -- the first node passes and the fault comes later
        intro h
        obtain ⟨pre, n, post, hrest, hpre, hfault⟩ := ih (m.tag :: seen) h
        refine ⟨m :: pre, n, post, by rw [hrest, List.cons_append], ?_, ?_⟩
        · rw [checkVisits_step, hv]
          exact hpre
        · rwa [List.map_cons, List.reverse_cons, List.append_assoc, List.singleton_append]
  · rintro ⟨pre, n, post, rfl, hpre, hfault⟩
    rw [checkVisits_append, hpre]
    show checkVisits _ (n :: post) = _
    rw [checkVisits_step, hfault]

/-! ## Validated trees -/

/-- Converting a value to a float fails with a fault of its type or of its content. -/
theorem toFloat_fault_kind {v : Value} {f : Fault} (h : v.toFloat = .error f) :
    f.kind ≠ .invariant := by
  cases v with
  | bool | float | nanObject | operator => cases h
  | null | list | dict =>
    cases h
    simp [Fault.kind]
  | int n | str s | tensor t =>
    simp only [Value.toFloat] at h
    split at h <;> cases h
    simp [Fault.kind]

theorem ofValue_eq_error {v : Value} {f : Fault} (h : Operand.ofValue v = .error f) :
    v.toFloat = .error f := by
  have hscalar : ∀ r : Except Fault Float, Operand.scalar <$> r = .error f → r = .error f := by
    intro r hr
    cases r with
    | error g => cases hr; rfl
    | ok x => cases hr
  cases v with
  | tensor t =>
    simp only [Operand.ofValue] at h
    split at h
    · cases h
    · exact hscalar _ h
  | _ => exact hscalar _ h

/-- Evaluation with real operators never reports a broken invariant: its faults come from
looking up and converting variables and from shapes that do not broadcast. -/
theorem evaluate_fault_kind {t : Node} (hreal : t.operatorsReal = true) {c : Context} {f : Fault}
    (h : t.evaluate c = .error f) : f.kind ≠ .invariant := by
  induction t generalizing f with
  | lit tag x => cases h
  | var tag s =>
    -- an unbound name, or a bound value without a float
    cases hv : c.lookup? (.str s) with
    | none =>
      have hget : (var tag s).evaluate c = .error (.undefined (.str s)) := by
        simp only [evaluate, Context.get, Value.hash, hv]
        rfl
      rw [hget] at h
      cases h
      simp [Fault.kind]
    | some v =>
      rw [evaluate_var_of_lookup hv] at h
      exact toFloat_fault_kind (ofValue_eq_error h)
  | bin tag op l r ihl ihr =>
    obtain ⟨⟨o, rfl⟩, hl, hr⟩ := operatorsReal_bin.mp hreal
    rw [evaluate_bin_operator] at h
    cases hle : l.evaluate c with
    | error g =>
      rw [hle] at h
      cases h
      exact ihl hl hle
    | ok x =>
      cases hre : r.evaluate c with
      | error g =>
        rw [hle, hre] at h
        cases h
        exact ihr hr hre
      | ok y =>
        -- only shapes that do not broadcast make an operator fail
        rw [hle, hre] at h
        change Operand.apply o x y = .error f at h
        cases hb : Tensor.broadcastShape? x.shape y.shape with
        | none =>
          rw [Operand.apply_of_broadcastShape?_none hb] at h
          cases h
          simp [Fault.kind]
        | some s =>
          obtain ⟨z, hz, -⟩ := Operand.apply_of_broadcastShape? (o := o) hb
          rw [hz] at h
          cases h

/-- A tree fails validation at the first position of its mirrored walk that fails: the positions
before it hold distinct nodes with operators in their slots, and the node there stood at one of
them, or holds no operator. -/
theorem validate_eq_error_iff (t : Node) (f : Fault) :
    t.validate = .error f ↔ ∃ pre n post, t.mirrorPreorder = pre ++ n :: post ∧
      (pre.map tag).Nodup ∧ (∀ m ∈ pre, m.slotFault? = none) ∧
      if n.tag ∈ pre.map tag then f = .sharedNode n else n.slotFault? = some f := by
  rw [validate_eq_checkVisits, checkVisits_eq_error_iff]
  refine exists₃_congr fun pre n post => and_congr_right fun _ => ?_
  rw [checkVisits_eq_ok_iff, visitFault?, List.append_nil]
  simp only [List.not_mem_nil, not_false_eq_true, implies_true, true_and, List.mem_reverse]
  by_cases hmem : n.tag ∈ pre.map tag
  · simp only [hmem, if_true, Option.some.injEq, eq_comm, and_assoc]
  · simp only [hmem, if_false, and_assoc]

theorem validate_eq_ok_iff (t : Node) :
    t.validate = .ok () ↔ (t.preorder.map tag).Nodup ∧ t.operatorsReal = true := by
  rw [validate_eq_checkVisits, checkVisits_eq_ok_iff, operatorsReal_iff_slotFault?,
    ((mirrorPreorder_perm t).map tag).nodup_iff]
  simp only [List.not_mem_nil, not_false_eq_true, implies_true, true_and]
  exact and_congr_right fun _ => forall_congr' fun m => imp_congr_left (mirrorPreorder_perm t).mem_iff

/-- Validation reports a node with two parents or a slot without an operator, nothing else. -/
theorem validate_error_cases {t : Node} {f : Fault} (h : t.validate = .error f) :
    (∃ n, f = .sharedNode n) ∨ ∃ op, f = .unknownOperator op := by
  obtain ⟨pre, n, post, -, -, -, hf⟩ := (validate_eq_error_iff t f).mp h
  split at hf
  · exact .inl ⟨n, hf⟩
  · exact .inr (slotFault?_eq_some hf)

/-- The validator reports in the order of its stack. A value that is not a node is refused as
such, and a tree never is. A tree passes exactly when no node object stands at two of its
positions and every operator slot holds an operator. Otherwise the walk with the right subtree
first (`Node.mirrorPreorder`, the order in which the stack pops the positions) splits at the first
position that fails: every position before it passes, and its node either stood at an earlier
position, which is reported as a node with two parents, or, met there for the first time, is a
binary node whose operator slot holds no operator. No other fault is reported, so none says that
a child is not a node. A tree that passes compiles; its evaluation never reports a broken
invariant, and in a context that binds its variables to floats it gives a float. -/
theorem validate_reports_first_visit_fault (t : Node) :
    (∀ i : Item, (∃ v, i.validate = .error (.notANode v)) ↔ ∃ v, i = .value v) ∧
      (t.validate = .ok () ↔ (t.preorder.map tag).Nodup ∧ t.operatorsReal = true) ∧
      (∀ f, t.validate = .error f ↔ ∃ pre n post, t.mirrorPreorder = pre ++ n :: post ∧
        (pre.map tag).Nodup ∧ (∀ m ∈ pre, m.slotFault? = none) ∧
        if n.tag ∈ pre.map tag then f = .sharedNode n else n.slotFault? = some f) ∧
      (∀ f, t.validate = .error f → (∃ n, f = .sharedNode n) ∨ ∃ op, f = .unknownOperator op) ∧
      (t.validate = .ok () → (∃ text, t.compile = .ok text) ∧
        (∀ c f, t.evaluate c = .error f → f.kind ≠ .invariant) ∧
        ∀ c : Context, (∀ p ∈ c.bindings, p.2.hasAxes = false ∧ ∃ x, p.2.toFloat = .ok x) →
          (∀ s ∈ t.variables, (c.lookup? (.str s)).isSome) → ∃ x, t.evaluate c = .ok (.scalar x)) := by
  refine ⟨fun i => ?_, validate_eq_ok_iff t, validate_eq_error_iff t, fun f => validate_error_cases,
    fun hv => ?_⟩
  · cases i with
    | node n =>
      -- a tree is refused only for a shared node or an operator slot
      refine iff_of_false (fun ⟨v, hv⟩ => ?_) (fun ⟨v, hv⟩ => by cases hv)
      rcases validate_error_cases hv with ⟨m, hm⟩ | ⟨op, hop⟩
      · cases hm
      · cases hop
    | value v => exact iff_of_true ⟨v, rfl⟩ ⟨v, rfl⟩
  · obtain ⟨-, hreal⟩ := (validate_eq_ok_iff t).mp hv
    have hnone : t.preorder.findSome? slotFault? = none :=
      List.findSome?_eq_none_iff.mpr ((operatorsReal_iff_slotFault? t).mp hreal)
    refine ⟨?_, fun c f he => evaluate_fault_kind hreal he, fun c hc hbound => ?_⟩
    · rcases compile_cases t with ⟨f, -, hf⟩ | ⟨text, htext, -⟩
      · rw [hnone] at hf
        cases hf
      · exact ⟨text, htext⟩
    · -- no node fails: the slots hold operators and every variable is bound to a float
      have hfirst := findSome?_fault_eq hreal fun p hp => (hc p hp).2
      have hunbound : (t.occurrences.find? fun s => (c.lookup? (.str s)).isNone) = none :=
        List.find?_eq_none.mpr fun s hs => by
          simpa [Option.isSome_iff_ne_none] using hbound s (mem_variables.mpr hs)
      rw [hunbound, Option.map_none] at hfirst
      rcases evaluate_cases (fun p hp => (hc p hp).1) t with ⟨f, -, hf⟩ | ⟨x, hx, -⟩
      · rw [hfirst] at hf
        cases hf
      · exact ⟨x, hx⟩

/-- The stack meets the right subtree first: a node shared under the right child is reported,
although the left child holds no operator and compiling reports that slot. -/
theorem validate_reports_shared_before_operator :
    let s := var 5 "x"
    let t := bin 0 (.operator .add) (bin 1 (.int 99) (lit 2 1) (lit 3 2))
      (bin 4 (.operator .multiply) s s)
    t.validate = .error (.sharedNode s) ∧ t.compile = .error (.unknownOperator (.int 99)) := by
  intro s t
  refine ⟨((validate_reports_first_visit_fault t).2.2.1 _).mpr
    ⟨[t, bin 4 (.operator .multiply) s s, s], s,
      [bin 1 (.int 99) (lit 2 1) (lit 3 2), lit 3 2, lit 2 1], rfl, by decide, ?_, ?_⟩, rfl⟩
  · simp only [List.forall_mem_cons, List.not_mem_nil, false_imp_iff, implies_true, and_true]
    exact ⟨rfl, rfl, rfl⟩
  · rw [if_pos (by decide)]

end Node

end ExprTree
