import ExprTree.Proofs.TreeEquality
import ExprTree.Node.Text

/-
  Equal trees are interchangeable exactly where their literals agree in sign. The comparison takes
  literals as floats, so `0` and `-0` are equal, while compiling, rendering and the operators tell
  them apart: `1/0` and `1/(-0.0)` compare equal, yet they compile to `(1/0)` and `(1/(-0.0))`,
  render differently and evaluate to the two infinities
  (`reciprocal_signed_zero_not_interchangeable`). On a coherent family with operators in its
  slots, two trees that compare equal and agree in the sign of every literal have one shape, bit
  for bit, and conversely; trees of one shape compile, render and evaluate alike
  (`equal_interchangeable_iff_signs`). The argument goes through `Node.eraseTags`: one shape is
  one tree once the tags are erased (`sameShape_iff`), and compiling, rendering and evaluating
  never read a tag.
-/

namespace ExprTree

namespace Node

/-! ## Tags erased -/

/-- The tree with every tag set to `0`: its shape, slots, names and literals without the
identity of its nodes. -/
def eraseTags : Node → Node
  | .lit _ x => .lit 0 x
  | .var _ s => .var 0 s
  | .bin _ op l r => .bin 0 op l.eraseTags r.eraseTags

@[simp] theorem compile_eraseTags (a : Node) : a.eraseTags.compile = a.compile := by
  induction a with
  | lit | var => rfl
  | bin tag op l r ihl ihr => simp only [eraseTags, compile, ihl, ihr]

@[simp] theorem repr_eraseTags (a : Node) : a.eraseTags.repr = a.repr := by
  induction a with
  | lit | var => unfold eraseTags Node.repr; rfl
  | bin tag op l r ihl ihr =>
    unfold eraseTags
    unfold Node.repr
    rw [ihl, ihr]

@[simp] theorem evaluate_eraseTags (c : Context) (a : Node) :
    a.eraseTags.evaluate c = a.evaluate c := by
  induction a with
  | lit | var => rfl
  | bin tag op l r ihl ihr => simp only [eraseTags, evaluate, ihl, ihr]

@[simp] theorem constants_lit (tag : Nat) (x : Float) : (lit tag x).constants = [x] := rfl

@[simp] theorem constants_var (tag : Nat) (s : String) : (var tag s).constants = [] := rfl

@[simp] theorem constants_bin (tag : Nat) (op : Value) (l r : Node) :
    (bin tag op l r).constants = l.constants ++ r.constants := by
  show List.filterMap _ (bin tag op l r :: (l.preorder ++ r.preorder)) = _
  rw [List.filterMap_cons_none rfl, List.filterMap_append]
  rfl

@[simp] theorem constants_eraseTags (a : Node) : a.eraseTags.constants = a.constants := by
  induction a with
  | lit | var => rfl
  | bin tag op l r ihl ihr => simp only [eraseTags, constants_bin, ihl, ihr]

/-- Two trees have one shape exactly when their slots hold operators and they are one tree once
their tags are erased. -/
theorem sameShape_iff {a b : Node} :
    a.sameShape b = true ↔ a.operatorsReal = true ∧ a.eraseTags = b.eraseTags := by
  induction a generalizing b with
  | lit t x =>
    cases b with
    | lit t' y => simp [sameShape, eraseTags, operatorsReal, Float.toBits_inj]
    | var | bin => simp [sameShape, eraseTags]
  | var t s =>
    cases b with
    | var t' s' => simp [sameShape, eraseTags, operatorsReal]
    | lit | bin => simp [sameShape, eraseTags]
  | bin t op l r ihl ihr =>
    cases b with
    | bin t' op' l' r' =>
      rw [operatorsReal_bin]
      simp only [sameShape, Bool.and_eq_true, ihl, ihr, eraseTags, bin.injEq, true_and]
      split
      · -- both slots hold operators
        simp only [beq_iff_eq, Value.operator.injEq, exists_eq', true_and]
        tauto
      · -- a slot holding any other value has no shape in common with anything
        rename_i hno
        simp only [Bool.false_eq_true, false_and, false_iff, not_and]
        rintro ⟨⟨o, rfl⟩, -⟩ rfl
        exact (hno o o rfl rfl).elim
    | lit | var => simp [sameShape, eraseTags]

theorem sameShape_self {a : Node} (h : a.operatorsReal = true) : a.sameShape a = true :=
  sameShape_iff.mpr ⟨h, rfl⟩

/-! ## What one shape keeps -/

section SameShape

variable {a b : Node}

theorem repr_eq_of_sameShape (h : a.sameShape b = true) : a.repr = b.repr := by
  rw [← repr_eraseTags a, (sameShape_iff.mp h).2, repr_eraseTags]

theorem evaluate_eq_of_sameShape (h : a.sameShape b = true) (c : Context) :
    a.evaluate c = b.evaluate c := by
  rw [← evaluate_eraseTags c a, (sameShape_iff.mp h).2, evaluate_eraseTags]

theorem constants_eq_of_sameShape (h : a.sameShape b = true) : a.constants = b.constants := by
  rw [← constants_eraseTags a, (sameShape_iff.mp h).2, constants_eraseTags]

/-- A literal matches itself: a NaN as a NaN, any other float as equal to itself. -/
theorem litMatch_self (x : Float) : (x = Float.nan ∧ x = Float.nan) ∨ (x == x) = true := by
  by_cases hx : x = Float.nan
  · exact .inl ⟨hx, hx⟩
  · exact .inr (Decimal.beq_self hx)

/-- Trees of one shape are structurally equal. -/
theorem equal_of_sameShape (h : a.sameShape b = true) : Equal a b := by
  induction a generalizing b with
  | lit t x =>
    cases b with
    | lit t' y =>
      obtain ⟨-, he⟩ := sameShape_iff.mp h
      obtain rfl : x = y := (lit.injEq _ _ _ _).mp he |>.2
      exact .lit (litMatch_self x)
    | var | bin => exact absurd h Bool.false_ne_true
  | var t s =>
    cases b with
    | var t' s' =>
      obtain rfl : s = s' := beq_iff_eq.mp h
      exact .var
    | lit | bin => exact absurd h Bool.false_ne_true
  | bin t op l r ihl ihr =>
    cases b with
    | bin t' op' l' r' =>
      obtain ⟨hreal, he⟩ := sameShape_iff.mp h
      obtain ⟨⟨o, rfl⟩, hl, hr⟩ := operatorsReal_bin.mp hreal
      simp only [eraseTags, bin.injEq, true_and] at he
      obtain ⟨rfl, hel, her⟩ := he
      exact .bin (Value.eqv_operator_operator.mpr rfl) (ihl (sameShape_iff.mpr ⟨hl, hel⟩))
        (ihr (sameShape_iff.mpr ⟨hr, her⟩))
    | lit | var => exact absurd h Bool.false_ne_true

end SameShape

/-! ## Equal trees with one sign at each literal -/

theorem operatorsReal_iff_slotsAll {a : Node} :
    a.operatorsReal = true ↔ a.SlotsAll fun v => ∃ o, v = .operator o := by
  induction a with
  | lit | var => exact iff_of_true rfl trivial
  | bin tag op l r ihl ihr =>
    rw [operatorsReal_bin, ihl, ihr]
    rfl

/-- Literals that match and have one sign are one float. -/
theorem eq_of_litMatch {x y : Float} (h : (x = Float.nan ∧ y = Float.nan) ∨ (x == y) = true)
    (hs : Decimal.signBit x = Decimal.signBit y) : x = y := by
  rcases h with ⟨rfl, rfl⟩ | h
  · rfl
  · exact Decimal.eq_of_beq_of_signBit_eq h hs

section Family

variable {roots : List Node}

theorem operatorsReal_of_mem_subtreesOf (hreal : ∀ n ∈ roots, n.operatorsReal = true) {x : Node}
    (hx : x ∈ subtreesOf roots) : x.operatorsReal = true :=
  operatorsReal_iff_slotsAll.mpr
    (slotsAll_of_mem_subtreesOf (fun n hn => operatorsReal_iff_slotsAll.mp (hreal n hn)) hx)

/-- Equal trees have as many literals, in a coherent family. -/
theorem length_constants_of_equal (hcoh : Coherent roots) {a b : Node}
    (ha : a ∈ subtreesOf roots) (hb : b ∈ subtreesOf roots) (h : Equal a b) :
    a.constants.length = b.constants.length := by
  induction h with
  | same h => rw [hcoh _ ha _ hb h]
  | lit | var => rfl
  | bin _ _ _ ihl ihr =>
    rw [constants_bin, constants_bin, List.length_append, List.length_append,
      ihl (lhs_mem_subtreesOf ha) (lhs_mem_subtreesOf hb),
      ihr (rhs_mem_subtreesOf ha) (rhs_mem_subtreesOf hb)]

/-- Equal trees of a coherent family with operators in their slots, whose literals have one sign
position by position, have one shape: equality then only identifies NaN with NaN and a float
with itself. -/
theorem sameShape_of_equal (hcoh : Coherent roots) (hreal : ∀ n ∈ roots, n.operatorsReal = true)
    {a b : Node} (ha : a ∈ subtreesOf roots) (hb : b ∈ subtreesOf roots) (h : Equal a b)
    (hs : a.constants.map Decimal.signBit = b.constants.map Decimal.signBit) :
    a.sameShape b = true := by
  induction h with
  | same h =>
    rw [hcoh _ ha _ hb h]
    exact sameShape_self (operatorsReal_of_mem_subtreesOf hreal hb)
  | lit h =>
    simp only [constants_lit, List.map_cons, List.map_nil, List.cons.injEq, and_true] at hs
    obtain rfl := eq_of_litMatch h hs
    exact beq_self_eq_true _
  | var => exact beq_self_eq_true _
  | bin ho hl hr ihl ihr =>
    obtain ⟨⟨o, rfl⟩, -, -⟩ := operatorsReal_bin.mp (operatorsReal_of_mem_subtreesOf hreal ha)
    obtain ⟨⟨o', rfl⟩, -, -⟩ := operatorsReal_bin.mp (operatorsReal_of_mem_subtreesOf hreal hb)
    obtain rfl := Value.eqv_operator_operator.mp ho
    -- the signs split between the children, which have as many literals on each side
    have hlen := length_constants_of_equal hcoh (lhs_mem_subtreesOf ha) (lhs_mem_subtreesOf hb) hl
    rw [constants_bin, constants_bin, List.map_append, List.map_append] at hs
    obtain ⟨hsl, hsr⟩ := List.append_inj hs (by rw [List.length_map, List.length_map, hlen])
    simp only [sameShape, beq_self_eq_true, Bool.true_and, Bool.and_eq_true]
    exact ⟨ihl (lhs_mem_subtreesOf ha) (lhs_mem_subtreesOf hb) hsl,
      ihr (rhs_mem_subtreesOf ha) (rhs_mem_subtreesOf hb) hsr⟩

/-- Equal trees are interchangeable exactly where their literals agree in sign. Take a coherent
family of trees with operators in their slots. Two of its trees compare equal and have one sign
at each literal position exactly when they have one shape, bit for bit at every literal; and
then they compile to one text, render alike, and evaluate alike in every context. -/
theorem equal_interchangeable_iff_signs (hcoh : Coherent roots)
    (hreal : ∀ n ∈ roots, n.operatorsReal = true) :
    ∀ a ∈ subtreesOf roots, ∀ b ∈ subtreesOf roots,
      (a.beq b = .ok true ∧ a.constants.map Decimal.signBit = b.constants.map Decimal.signBit ↔
        a.sameShape b = true) ∧
      (a.beq b = .ok true → a.constants.map Decimal.signBit = b.constants.map Decimal.signBit →
        a.compile = b.compile ∧ a.repr = b.repr ∧ ∀ c, a.evaluate c = b.evaluate c) := by
  intro a ha b hb
  have hplain : ∀ x ∈ subtreesOf roots, x.SlotsAll Value.Plain := fun x hx =>
    (operatorsReal_iff_slotsAll.mp (operatorsReal_of_mem_subtreesOf hreal hx)).mono
      fun _ ⟨o, ho⟩ => ho ▸ .operator o
  have hiff : a.beq b = .ok true ∧ a.constants.map Decimal.signBit =
      b.constants.map Decimal.signBit ↔ a.sameShape b = true := by
    rw [beq_eq_true_iff (hplain a ha) (hplain b hb)]
    constructor
    · rintro ⟨he, hs⟩
      exact sameShape_of_equal hcoh hreal ha hb he hs
    · intro h
      exact ⟨equal_of_sameShape h, by rw [constants_eq_of_sameShape h]⟩
  refine ⟨hiff, fun he hs => ?_⟩
  have h := hiff.mp ⟨he, hs⟩
  exact ⟨Compiled.compile_eq_of_sameShape h, repr_eq_of_sameShape h, evaluate_eq_of_sameShape h⟩

end Family

/-- Two trees dividing NaN by `-0`, as distinct objects, compare equal with one sign at each
literal and are interchangeable. -/
theorem equal_interchangeable_iff_signs_nan_quotient :
    let a := bin 0 (.operator .divide) (lit 1 Float.nan) (lit 2 (-0))
    let b := bin 3 (.operator .divide) (lit 4 Float.nan) (lit 5 (-0))
    Coherent [a, b] ∧ (∀ n ∈ [a, b], n.operatorsReal = true) ∧ a.beq b = .ok true ∧
      a.compile = b.compile ∧ a.repr = b.repr ∧ ∀ c, a.evaluate c = b.evaluate c := by
  intro a b
  have hcoh : Coherent [a, b] := coherent_of_nodup (by decide)
  have hreal : ∀ n ∈ [a, b], n.operatorsReal = true := by
    simp only [List.mem_cons, List.not_mem_nil, or_false, forall_eq_or_imp, forall_eq]
    exact ⟨rfl, rfl⟩
  have hmem : ∀ n ∈ [a, b], n ∈ subtreesOf [a, b] := fun _ h => mem_subtreesOf_of_mem h
  obtain ⟨hiff, himp⟩ :=
    equal_interchangeable_iff_signs hcoh hreal a (hmem a (by simp)) b (hmem b (by simp))
  obtain ⟨hbeq, hs⟩ := hiff.mpr rfl
  exact ⟨hcoh, hreal, hbeq, himp hbeq hs⟩

/-- The trees `1/0` and `1/(-0.0)` compare equal, yet they compile to different texts, render
differently and evaluate to the two infinities. -/
theorem reciprocal_signed_zero_not_interchangeable :
    let a := bin 0 (.operator .divide) (lit 1 1) (lit 2 0)
    let b := bin 3 (.operator .divide) (lit 4 1) (lit 5 (-0))
    a.beq b = .ok true ∧ a.compile = .ok "(1/0)" ∧ b.compile = .ok "(1/(-0.0))" ∧
      a.repr ≠ b.repr ∧ a.evaluate Context.empty = .ok (.scalar Float.inf) ∧
      b.evaluate Context.empty = .ok (.scalar (-Float.inf)) := by
  intro a b
  have hab : Equal a b :=
    .bin (Value.eqv_operator_operator.mpr rfl) (.lit (.inr (by decide +kernel)))
      (.lit (.inr (by decide +kernel)))
  have hbeq : a.beq b = .ok true :=
    (beq_eq_true_iff (show a.SlotsAll Value.Plain from ⟨.operator _, trivial, trivial⟩)
      (show b.SlotsAll Value.Plain from ⟨.operator _, trivial, trivial⟩)).mpr hab
  exact ⟨hbeq, rfl, rfl, by decide +kernel, rfl, rfl⟩

end Node

end ExprTree
