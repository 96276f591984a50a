import ExprTree.Proofs.CompileEvaluate
import ExprTree.Node.Symbolic

/-
  The fault of an evaluation is the fault of the first failing node of the depth-first walk. A
  node fails by itself (`Node.fault?`) when it is a binary node whose operator slot holds no
  operator, or a variable whose name is unbound or whose value has no float. In a context whose
  values are no tensors with axes, evaluation reads the slot of a binary node before either
  child and the left child before the right, so it either fails with the fault of the first
  failing node in the walk or, where no node fails, gives a float (`evaluate_cases`, as one
  equation `faultOf_evaluate`). Compiling and the symbolic form read the slot of a binary node
  before its children and fail nowhere else, so both fail exactly at the first slot that holds no
  operator (`faultOf_slotsFirst`, hence `faultOf_compile` and `faultOf_toSymbolic`).

  Main result: `evaluate_first_fault`, which also names the walk `Node.traverse` gives for
  `depth_first` and, for trees with real operators in a context whose values all have floats,
  the fault: the first variable, in the order of `Node.variables`, that the context does not
  bind (`find?_variables` moves the search from the walk to the variables).
-/

namespace ExprTree

/-- The fault of a computation that fails, if it does. -/
def faultOf {α : Type} : Except Fault α → Option Fault
  | .error f => some f
  | .ok _ => none

theorem faultOf_eq_some {α : Type} {r : Except Fault α} {f : Fault} :
    faultOf r = some f ↔ r = .error f := by
  cases r with
  | error g => simp [faultOf]
  | ok a => simp [faultOf]

/-- Whether a value is a tensor with one axis or more: such a value is an operand of its own and
never one float. -/
def Value.hasAxes : Value → Bool
  | .tensor t => decide (0 < t.ndim)
  | _ => false

namespace Node

/-- The fault of a binary node whose operator slot holds no operator. -/
def slotFault? : Node → Option Fault
  | .bin _ op _ _ => faultOf (Operator.ofSlot op)
  | _ => none

/-- The fault a node raises by itself when it is evaluated in `c`: a binary node whose slot holds
no operator, or a variable whose name is unbound or whose value has no float. -/
def fault? (c : Context) : Node → Option Fault
  | .var _ s => faultOf (c.get (.str s) >>= Value.toFloat)
  | n => n.slotFault?

@[simp] theorem preorder_lit (tag : Nat) (x : Float) : (lit tag x).preorder = [lit tag x] := rfl

@[simp] theorem preorder_var (tag : Nat) (s : String) : (var tag s).preorder = [var tag s] := rfl

@[simp] theorem preorder_bin (tag : Nat) (op : Value) (l r : Node) :
    (bin tag op l r).preorder = bin tag op l r :: (l.preorder ++ r.preorder) := rfl

/-- The first fault of the walk of a binary node: its own, then the first of the left child's
walk, then the first of the right child's. -/
theorem findSome?_preorder_bin {g : Node → Option Fault} (tag : Nat) (op : Value) (l r : Node) :
    (bin tag op l r).preorder.findSome? g =
      ((g (bin tag op l r)).or (l.preorder.findSome? g)).or (r.preorder.findSome? g) := by
  rw [preorder_bin, List.findSome?_cons, List.findSome?_append]
  cases g (bin tag op l r) <;> rfl

/-- `depth_first` names the depth-first walk. -/
theorem traverse_depthFirst (n : Node) : n.traverse (.str "depth_first") = .ok n.preorder := by
  simp [traverse, breadthFirst?, Value.eqTruth, Value.tensorEq?, Value.eqv, pure, Except.pure,
    bind, Except.bind]

end Node

/-- In a context whose values are no tensors with axes, a bound value becomes the operand of its
float. -/
theorem ofValue_of_hasAxes {v : Value} (h : v.hasAxes = false) :
    Operand.ofValue v = .scalar <$> v.toFloat := by
  cases v with
  | tensor t =>
    have ht : ¬(0 < t.ndim) := by simpa [Value.hasAxes] using h
    simp only [Operand.ofValue, ht, if_false]
  | _ => rfl

theorem lookup?_mem {c : Context} {name v : Value} (h : c.lookup? name = some v) :
    ∃ k, (k, v) ∈ c.bindings := by
  unfold Context.lookup? at h
  obtain ⟨⟨k, w⟩, hfind, rfl⟩ := Option.map_eq_some_iff.mp h
  exact ⟨k, List.mem_of_find?_eq_some hfind⟩

section Faults

variable {c : Context}

/-- A variable evaluates to the operand of its float, or fails with its own fault. -/
theorem evaluate_var_eq (hc : ∀ p ∈ c.bindings, p.2.hasAxes = false) (tag : Nat) (s : String) :
    (Node.var tag s).evaluate c = .scalar <$> (c.get (.str s) >>= Value.toFloat) := by
  simp only [Node.evaluate, Context.get, Value.hash]
  cases h : c.lookup? (.str s) with
  | none => rfl
  | some v =>
    obtain ⟨k, hk⟩ := lookup?_mem h
    show Operand.ofValue v = _
    rw [ofValue_of_hasAxes (hc _ hk)]
    rfl

/-- Evaluation either fails with the fault of the first failing node of the depth-first walk, or
no node fails and it gives a float. -/
theorem evaluate_cases (hc : ∀ p ∈ c.bindings, p.2.hasAxes = false) (t : Node) :
    (∃ f, t.evaluate c = .error f ∧ t.preorder.findSome? (Node.fault? c) = some f) ∨
      (∃ x, t.evaluate c = .ok (.scalar x) ∧ t.preorder.findSome? (Node.fault? c) = none) := by
  induction t with
  | lit tag x => exact .inr ⟨x, rfl, rfl⟩
  | var tag s =>
    rw [evaluate_var_eq hc, Node.preorder_var, List.findSome?_singleton]
    cases h : c.get (.str s) >>= Value.toFloat with
    | error f => exact .inl ⟨f, rfl, by simp only [Node.fault?, h, faultOf]⟩
    | ok x => exact .inr ⟨x, rfl, by simp only [Node.fault?, h, faultOf]⟩
  | bin tag op l r ihl ihr =>
    rw [Node.findSome?_preorder_bin]
    -- the slot is read first, then the left child, then the right child
    cases hop : Operator.ofSlot op with
    | error f =>
      refine .inl ⟨f, ?_, ?_⟩
      · simp only [Node.evaluate, hop]
        rfl
      · simp only [Node.fault?, Node.slotFault?, hop, faultOf]
        rfl
    | ok o =>
      have hself : Node.fault? c (.bin tag op l r) = none := by
        simp only [Node.fault?, Node.slotFault?, hop, faultOf]
      rw [hself, Option.none_or]
      rcases ihl with ⟨f, hl, hfl⟩ | ⟨x, hl, hfl⟩
      · refine .inl ⟨f, ?_, by rw [hfl]; rfl⟩
        simp only [Node.evaluate, hop, hl]
        rfl
      · rw [hfl, Option.none_or]
        rcases ihr with ⟨f, hr, hfr⟩ | ⟨y, hr, hfr⟩
        · refine .inl ⟨f, ?_, hfr⟩
          simp only [Node.evaluate, hop, hl, hr]
          rfl
        · refine .inr ⟨o.apply x y, ?_, hfr⟩
          simp only [Node.evaluate, hop, hl, hr]
          rfl

/-- A computation over trees that reads the slot of a binary node, then its children, left before
right, and fails nowhere else, fails exactly with the fault of the first slot of the depth-first
walk that holds no operator. The induction follows the tree; at a binary node the slot's own
fault comes first, then the left walk's, then the right walk's, as in `findSome?_preorder_bin`. -/
theorem faultOf_slotsFirst {β : Type} {F : Node → Except Fault β}
    {G : Operator → β → β → Except Fault β}
    (hlit : ∀ tag x, ∃ b, F (.lit tag x) = .ok b) (hvar : ∀ tag s, ∃ b, F (.var tag s) = .ok b)
    (hbin : ∀ tag op l r, F (.bin tag op l r) =
      (Operator.ofSlot op).bind fun o => (F l).bind fun a => (F r).bind fun b => G o a b)
    (hG : ∀ o a b, ∃ c, G o a b = .ok c) (t : Node) :
    faultOf (F t) = t.preorder.findSome? Node.slotFault? := by
  induction t with
  | lit tag x =>
    obtain ⟨b, hb⟩ := hlit tag x
    rw [hb]
    rfl
  | var tag s =>
    obtain ⟨b, hb⟩ := hvar tag s
    rw [hb]
    rfl
  | bin tag op l r ihl ihr =>
    rw [hbin, Node.findSome?_preorder_bin, ← ihl, ← ihr]
    cases hop : Operator.ofSlot op with
    | error f => simp [Node.slotFault?, hop, faultOf, Except.bind]
    | ok o =>
      cases F l with
      | error f => simp [Node.slotFault?, hop, faultOf, Except.bind]
      | ok a =>
        cases F r with
        | error f => simp [Node.slotFault?, hop, faultOf, Except.bind]
        | ok b =>
          obtain ⟨c, hc⟩ := hG o a b
          simp [Node.slotFault?, hop, hc, faultOf, Except.bind]

theorem faultOf_compile (t : Node) : faultOf t.compile = t.preorder.findSome? Node.slotFault? := by
  refine faultOf_slotsFirst (F := Node.compile) (fun _ _ => ⟨_, rfl⟩) (fun _ _ => ⟨_, rfl⟩)
    (fun _ _ _ _ => rfl) ?_ t
  -- each operator writes its text around the two children's texts
  intro o a b
  cases o <;> exact ⟨_, rfl⟩

/-- Compiling fails exactly with the fault of the first slot of the depth-first walk that holds
no operator, and otherwise gives a text. -/
theorem compile_cases (t : Node) :
    (∃ f, t.compile = .error f ∧ t.preorder.findSome? Node.slotFault? = some f) ∨
      (∃ text, t.compile = .ok text ∧ t.preorder.findSome? Node.slotFault? = none) := by
  have h := faultOf_compile t
  cases hc : t.compile with
  | error f => exact .inl ⟨f, rfl, by rw [← h, hc]; rfl⟩
  | ok text => exact .inr ⟨text, rfl, by rw [← h, hc]; rfl⟩

/-- The symbolic form of a tree is refused exactly where compiling is: at the first slot of the
depth-first walk that holds no operator, with that slot's fault. -/
theorem faultOf_toSymbolic (t : Node) :
    faultOf t.toSymbolic = t.preorder.findSome? Node.slotFault? :=
  faultOf_slotsFirst (F := Node.toSymbolic) (fun _ _ => ⟨_, rfl⟩) (fun _ _ => ⟨_, rfl⟩)
    (fun _ _ _ _ => rfl) (fun _ _ _ => ⟨_, rfl⟩) t

/-- The check that the compiled text reads back as the symbolic form compiles first, so it fails
with the fault of the first slot that holds no operator, before any text is read. -/
theorem compiledMatches_of_slotFault {t : Node} {f : Fault}
    (h : t.preorder.findSome? Node.slotFault? = some f) : t.compiledMatches = .error f := by
  have hc : t.compile = .error f := faultOf_eq_some.mp ((faultOf_compile t).trans h)
  simp only [Node.compiledMatches, hc]
  rfl

theorem faultOf_evaluate (hc : ∀ p ∈ c.bindings, p.2.hasAxes = false) (t : Node) :
    faultOf (t.evaluate c) = t.preorder.findSome? (Node.fault? c) := by
  rcases evaluate_cases hc t with ⟨f, he, hf⟩ | ⟨x, he, hf⟩
  · rw [he, hf]
    rfl
  · rw [he, hf]
    rfl

/-- With real operators, and a float for every value of the context, the only nodes that fail
are the variables the context does not bind, each with the fault that carries its name. -/
theorem findSome?_fault_eq {t : Node} (hops : t.operatorsReal = true)
    (hconv : ∀ p ∈ c.bindings, ∃ x, p.2.toFloat = .ok x) :
    t.preorder.findSome? (Node.fault? c) =
      (t.occurrences.find? fun s => (c.lookup? (.str s)).isNone).map
        fun s => Fault.undefined (.str s) := by
  induction t with
  | lit tag x => rfl
  | var tag s =>
    rw [Node.preorder_var, List.findSome?_singleton, Node.occurrences_var, List.find?_singleton]
    simp only [Node.fault?, Context.get, Value.hash]
    cases h : c.lookup? (.str s) with
    | none => rfl
    | some v =>
      obtain ⟨k, hk⟩ := lookup?_mem h
      obtain ⟨x, hx⟩ := hconv _ hk
      show faultOf (v.toFloat) = _
      rw [hx]
      rfl
  | bin tag op l r ihl ihr =>
    obtain ⟨⟨o, rfl⟩, hl, hr⟩ := Node.operatorsReal_bin.mp hops
    rw [Node.findSome?_preorder_bin, Node.occurrences_bin, List.find?_append, ihl hl, ihr hr]
    cases l.occurrences.find? fun s => (c.lookup? (.str s)).isNone <;> rfl

end Faults

/-- Take a tree, its operators possibly corrupted, and a context whose values are no tensors
with axes. The depth-first walk lists the tree's nodes; evaluation fails exactly with the fault
of the first node of the walk that fails, and otherwise gives a float; compiling fails exactly
with the fault of the first slot of the walk that holds no operator. When the operators are real
and every value of the context has a float, the fault names the first variable of the tree that
the context does not bind. -/
theorem evaluate_first_fault (t : Node) (c : Context)
    (hc : ∀ p ∈ c.bindings, p.2.hasAxes = false) :
    ∃ nodes, t.traverse (.str "depth_first") = .ok nodes ∧
      (∀ f, t.evaluate c = .error f ↔ nodes.findSome? (Node.fault? c) = some f) ∧
      (nodes.findSome? (Node.fault? c) = none → ∃ x, t.evaluate c = .ok (.scalar x)) ∧
      (∀ f, t.compile = .error f ↔ nodes.findSome? Node.slotFault? = some f) ∧
      (t.operatorsReal = true → (∀ p ∈ c.bindings, ∃ x, p.2.toFloat = .ok x) →
        ∀ f, t.evaluate c = .error f ↔
          ∃ s, t.variables.find? (fun s => (c.lookup? (.str s)).isNone) = some s ∧
            f = .undefined (.str s)) := by
  have hevaluate (f : Fault) :
      t.evaluate c = .error f ↔ t.preorder.findSome? (Node.fault? c) = some f := by
    rw [← faultOf_evaluate hc t, faultOf_eq_some]
  have hcompile (f : Fault) :
      t.compile = .error f ↔ t.preorder.findSome? Node.slotFault? = some f := by
    rw [← faultOf_compile t, faultOf_eq_some]
  refine ⟨t.preorder, Node.traverse_depthFirst t, hevaluate, ?_, hcompile, ?_⟩
  · intro hnone
    rcases evaluate_cases hc t with ⟨f, -, hf⟩ | ⟨x, he, -⟩
    · rw [hf] at hnone
      exact absurd hnone (Option.some_ne_none f)
    · exact ⟨x, he⟩
  · intro hops hconv f
    rw [hevaluate, findSome?_fault_eq hops hconv, Node.find?_variables, Option.map_eq_some_iff]
    constructor
    · rintro ⟨s, hs, rfl⟩
      exact ⟨s, hs, rfl⟩
    · rintro ⟨s, hs, rfl⟩
      exact ⟨s, hs, rfl⟩

/-- The tree `y + (1 ? x)` with a corrupted operator `99`, in a context that binds `x` alone. -/
theorem evaluate_first_fault_corrupt :
    let t := Node.bin 0 (.operator .add) (.var 1 "y") (.bin 2 (.int 99) (.lit 3 1) (.var 4 "x"))
    let c : Context := ⟨[(.str "x", .float 2)]⟩
    (∀ p ∈ c.bindings, p.2.hasAxes = false) ∧
      ∃ nodes, t.traverse (.str "depth_first") = .ok nodes ∧
        (∀ f, t.evaluate c = .error f ↔ nodes.findSome? (Node.fault? c) = some f) ∧
        (nodes.findSome? (Node.fault? c) = none → ∃ x, t.evaluate c = .ok (.scalar x)) ∧
        (∀ f, t.compile = .error f ↔ nodes.findSome? Node.slotFault? = some f) ∧
        (t.operatorsReal = true → (∀ p ∈ c.bindings, ∃ x, p.2.toFloat = .ok x) →
          ∀ f, t.evaluate c = .error f ↔
            ∃ s, t.variables.find? (fun s => (c.lookup? (.str s)).isNone) = some s ∧
              f = .undefined (.str s)) := by
  intro t c
  have hc : ∀ p ∈ c.bindings, p.2.hasAxes = false := by
    intro p hp
    rw [List.mem_singleton] at hp
    rw [hp]
    rfl
  exact ⟨hc, evaluate_first_fault t c hc⟩

end ExprTree
