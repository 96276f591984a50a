import ExprTree.Proofs.Broadcast
import ExprTree.Proofs.CompileEvaluate

/-
  Evaluating a tree over arrays is evaluating it element by element. An operand has a shape, a
  float the shape of no axes, and an element at every index of a shape it broadcasts to. An
  operator combines two operands whose shapes broadcast into an operand of the broadcast shape,
  element by element, and refuses any others (`Operand.apply_of_broadcastShape?`). So over a tree
  whose variables all stand for operands, evaluation is refused exactly when the arrays at the
  variable positions have no joint shape, and otherwise gives an operand of the joint shape whose
  element at each index is the evaluation over the elements there (`evaluate_broadcasts`, by
  induction on the tree). The joint shape depends only on which arrays are bound, so it is that of
  the arrays bound to the tree's variables (`evaluate_pointwise`).
-/

namespace ExprTree

open Tensor

/-! ## Operands as arrays -/

namespace Operand

/-- The shape of an operand; a float has the shape of no axes. -/
def shape : Operand → List Nat
  | .scalar _ => []
  | .tensor t => t.shape

/-- Whether an operand is a single float. -/
def isScalar : Operand → Bool
  | .scalar _ => true
  | .tensor _ => false

/-- The element of an operand at an index of a shape it broadcasts to; a float is every
element. -/
def elementAt (ix : List Nat) : Operand → Float
  | .scalar x => x
  | .tensor t => t.get ix

/-- Operands whose shapes broadcast combine into an operand of the broadcast shape, a float
exactly when both are, whose element at each index is the operator on theirs. -/
theorem apply_of_broadcastShape? {o : Operator} {x y : Operand} {s : List Nat}
    (h : broadcastShape? x.shape y.shape = some s) :
    ∃ z, apply o x y = .ok z ∧ z.shape = s ∧ z.isScalar = (x.isScalar && y.isScalar) ∧
      ∀ u, Fits s u → ∀ ix ∈ indices u, z.elementAt ix = o.apply (x.elementAt ix) (y.elementAt ix) := by
  cases x with
  | scalar a =>
    cases y with
    | scalar b =>
      obtain rfl : s = [] := Option.some.inj (h.symm.trans (broadcastShape?_nil_left []))
      exact ⟨.scalar (o.apply a b), rfl, rfl, rfl, fun _ _ _ _ => rfl⟩
    | tensor t =>
      obtain rfl : s = t.shape := Option.some.inj (h.symm.trans (broadcastShape?_nil_left _))
      exact ⟨.tensor (t.map (o.apply a ·)), rfl, rfl, rfl, fun u hu ix hix => get_map _ t hu hix⟩
  | tensor t =>
    cases y with
    | scalar b =>
      obtain rfl : s = t.shape := Option.some.inj (h.symm.trans (broadcastShape?_nil_right _))
      exact ⟨.tensor (t.map (o.apply · b)), rfl, rfl, rfl, fun u hu ix hix => get_map _ t hu hix⟩
    | tensor t' =>
      have hz : zipWith? o.apply t t' = some (ofFn s fun ix => o.apply (t.get ix) (t'.get ix)) := by
        simp only [zipWith?]
        rw [show broadcastShape? t.shape t'.shape = some s from h, Option.map_some]
      exact ⟨.tensor _, by simp only [apply, hz]; rfl, rfl, rfl,
        fun u hu ix hix => (get_zipWith? hz hu hix).2⟩

/-- Operands whose shapes do not broadcast are refused. -/
theorem apply_of_broadcastShape?_none {o : Operator} {x y : Operand}
    (h : broadcastShape? x.shape y.shape = none) : apply o x y = .error .broadcast := by
  cases x with
  | scalar a => exact absurd (h.symm.trans (broadcastShape?_nil_left _)) nofun
  | tensor t =>
    cases y with
    | scalar b => exact absurd (h.symm.trans (broadcastShape?_nil_right _)) nofun
    | tensor t' =>
      have hz : zipWith? o.apply t t' = none := by
        simp only [zipWith?]
        rw [show broadcastShape? t.shape t'.shape = none from h, Option.map_none]
      simp only [apply, hz]
      rfl

end Operand

/-! ## Bindings at one index -/

namespace Value

/-- The shape of a value that evaluation keeps as an array: a tensor with at least one axis. -/
def arrayShape? : Value → Option (List Nat)
  | .tensor t => if 0 < t.ndim then some t.shape else none
  | _ => none

/-- The value a binding takes at the index `ix` of a broadcast shape: an array its broadcast
element there, any other value the float it stands for. -/
def elementAt (ix : List Nat) (v : Value) : Value :=
  match Operand.ofValue v with
  | .ok o => .float (o.elementAt ix)
  | .error _ => v

/-- The operand of a value is an array exactly when the value has an array shape, and then of
that shape. -/
theorem arrayShape?_of_ofValue {v : Value} {o : Operand} (h : Operand.ofValue v = .ok o) :
    v.arrayShape? = if o.isScalar then none else some o.shape := by
  -- a value that stands for a float is no array
  have hscalar : ∀ x : Except Fault Float, Operand.scalar <$> x = .ok o → o.isScalar = true := by
    intro x hx
    cases x with
    | error e => cases hx
    | ok y =>
      cases hx
      rfl
  cases v with
  | tensor t =>
    by_cases ht : 0 < t.ndim
    · simp only [Operand.ofValue, ht, if_true] at h
      cases h
      simp [arrayShape?, ht, Operand.isScalar, Operand.shape]
    · simp only [Operand.ofValue, ht, if_false] at h
      simp [arrayShape?, ht, hscalar _ h]
  | _ => simp [arrayShape?, hscalar _ h]

theorem elementAt_of_ofValue {v : Value} {o : Operand} (h : Operand.ofValue v = .ok o)
    (ix : List Nat) : v.elementAt ix = .float (o.elementAt ix) := by
  simp only [elementAt, h]

end Value

/-- The context of the elements at `ix`: every binding replaced by its element there. -/
def Context.elementAt (c : Context) (ix : List Nat) : Context :=
  ⟨c.bindings.map fun (k, v) => (k, v.elementAt ix)⟩

theorem Context.lookup?_elementAt (c : Context) (ix : List Nat) (name : Value) :
    (c.elementAt ix).lookup? name = (c.lookup? name).map (Value.elementAt ix) := by
  simp only [Context.lookup?, Context.elementAt, List.find?_map, Option.map_map]
  rfl

/-! ## Evaluating a tree over arrays -/

namespace Node

/-- The shapes of the arrays bound at the variable positions of a tree, depth first, a shape once
for each position. -/
def arrayShapes (c : Context) (t : Node) : List (List Nat) :=
  t.occurrences.filterMap fun s => (c.lookup? (.str s)).bind Value.arrayShape?

@[simp] theorem arrayShapes_lit (c : Context) (tag : Nat) (x : Float) :
    (lit tag x).arrayShapes c = [] :=
  rfl

@[simp] theorem arrayShapes_bin (c : Context) (tag : Nat) (op : Value) (l r : Node) :
    (bin tag op l r).arrayShapes c = l.arrayShapes c ++ r.arrayShapes c := by
  simp [arrayShapes, List.filterMap_append]

theorem evaluate_var_of_lookup {c : Context} {tag : Nat} {s : String} {v : Value}
    (h : c.lookup? (.str s) = some v) : (var tag s).evaluate c = Operand.ofValue v := by
  simp only [evaluate, Context.get, Value.hash, h]
  rfl

theorem evaluate_bin_operator (c : Context) (tag : Nat) (o : Operator) (l r : Node) :
    (bin tag (.operator o) l r).evaluate c =
      (l.evaluate c >>= fun x => r.evaluate c >>= fun y => Operand.apply o x y) :=
  rfl

section Arrays

variable {c : Context}

/-- A variable bound to an operand evaluates to it, over the elements at `ix` to its element
there, and contributes its shape when it is an array. -/
theorem evaluate_var_broadcasts (tag : Nat) {name : String} {v : Value} {o : Operand}
    (hv : c.lookup? (.str name) = some v) (ho : Operand.ofValue v = .ok o) :
    (var tag name).evaluate c = .ok o ∧
      (var tag name).arrayShapes c = (if o.isScalar then [] else [o.shape]) ∧
      ∀ ix, (var tag name).evaluate (c.elementAt ix) = .ok (.scalar (o.elementAt ix)) := by
  refine ⟨(evaluate_var_of_lookup hv).trans ho, ?_, fun ix => ?_⟩
  · simp only [arrayShapes, occurrences_var, List.filterMap_cons, List.filterMap_nil, hv,
      Option.bind_some, Value.arrayShape?_of_ofValue ho]
    cases o.isScalar <;> rfl
  · have hl : (c.elementAt ix).lookup? (.str name) = some (v.elementAt ix) := by
      rw [Context.lookup?_elementAt, hv]
      rfl
    rw [evaluate_var_of_lookup hl, Value.elementAt_of_ofValue ho]
    rfl

/-- A tree broadcasts over a context when, without a joint shape of the arrays at its variable
positions, evaluation is refused, and with one it gives an operand of that shape, a float exactly
when no array takes part, whose element at each index of a shape it broadcasts to is what the tree
evaluates to over the elements there. -/
def Broadcasts (c : Context) (t : Node) : Prop :=
  (broadcastShapes? (t.arrayShapes c) = none → t.evaluate c = .error .broadcast) ∧
    ∀ s, broadcastShapes? (t.arrayShapes c) = some s → ∃ z, t.evaluate c = .ok z ∧ z.shape = s ∧
      (z.isScalar = true ↔ t.arrayShapes c = []) ∧
      ∀ u, Fits s u → ∀ ix ∈ indices u,
        t.evaluate (c.elementAt ix) = .ok (.scalar (z.elementAt ix))

theorem broadcasts_lit (tag : Nat) (x : Float) : (lit tag x).Broadcasts c := by
  rw [Broadcasts, arrayShapes_lit, broadcastShapes?_nil]
  refine ⟨nofun, fun s hs => ?_⟩
  obtain rfl := Option.some.inj hs
  exact ⟨.scalar x, rfl, rfl, iff_of_true rfl rfl, fun _ _ _ _ => rfl⟩

theorem broadcasts_var (tag : Nat) {name : String} {v : Value} {o : Operand}
    (hv : c.lookup? (.str name) = some v) (ho : Operand.ofValue v = .ok o) :
    (var tag name).Broadcasts c := by
  obtain ⟨heval, hshapes, helem⟩ := evaluate_var_broadcasts tag hv ho
  rw [Broadcasts]
  cases hs : o.isScalar
  · -- an array, of its own shape
    rw [hs, if_neg Bool.false_ne_true] at hshapes
    rw [hshapes, broadcastShapes?_singleton]
    refine ⟨nofun, fun s h => ?_⟩
    obtain rfl := Option.some.inj h
    exact ⟨o, heval, rfl, by simp [hs], fun _ _ ix _ => helem ix⟩
  · -- a float, of no shape
    rw [hs, if_pos rfl] at hshapes
    rw [hshapes, broadcastShapes?_nil]
    refine ⟨nofun, fun s h => ?_⟩
    obtain rfl := Option.some.inj h
    obtain ⟨x, rfl⟩ : ∃ x, o = .scalar x := by
      cases o with
      | scalar x => exact ⟨x, rfl⟩
      | tensor _ => cases hs
    exact ⟨.scalar x, heval, rfl, iff_of_true rfl rfl, fun _ _ ix _ => helem ix⟩

/-- The step of the induction: at a binary node the joint shape of the leaves is the broadcast of
the joint shapes of the two sides (`broadcastShapes?_append`), so the operator meets operands
whose shapes broadcast exactly when the leaves have a joint shape. -/
theorem broadcasts_bin (tag : Nat) (o : Operator) {l r : Node} (hl : l.Broadcasts c)
    (hr : r.Broadcasts c) : (bin tag (.operator o) l r).Broadcasts c := by
  obtain ⟨hnl, hsl⟩ := hl
  obtain ⟨hnr, hsr⟩ := hr
  rw [Broadcasts, arrayShapes_bin, broadcastShapes?_append]
  constructor
  · intro h
    cases hbsl : broadcastShapes? (l.arrayShapes c) with
    | none =>
      rw [evaluate_bin_operator, hnl hbsl]
      rfl
    | some sl =>
      obtain ⟨zl, hzl, hshl, -, -⟩ := hsl sl hbsl
      cases hbsr : broadcastShapes? (r.arrayShapes c) with
      | none =>
        rw [evaluate_bin_operator, hzl, hnr hbsr]
        rfl
      | some sr =>
        obtain ⟨zr, hzr, hshr, -, -⟩ := hsr sr hbsr
        rw [hbsl, hbsr, Option.bind_some, Option.bind_some] at h
        have hzs : broadcastShape? zl.shape zr.shape = none := by rw [hshl, hshr]; exact h
        rw [evaluate_bin_operator, hzl, hzr]
        exact Operand.apply_of_broadcastShape?_none hzs
  · intro s h
    -- both sides have joint shapes, and these broadcast to `s`
    obtain ⟨sl, hbsl, h⟩ := Option.bind_eq_some_iff.mp h
    obtain ⟨sr, hbsr, hs⟩ := Option.bind_eq_some_iff.mp h
    obtain ⟨zl, hzl, hshl, hscl, hell⟩ := hsl sl hbsl
    obtain ⟨zr, hzr, hshr, hscr, helr⟩ := hsr sr hbsr
    have hzs : broadcastShape? zl.shape zr.shape = some s := by rw [hshl, hshr]; exact hs
    obtain ⟨z, hz, hshz, hscz, helz⟩ := Operand.apply_of_broadcastShape? (o := o) hzs
    obtain ⟨hfl, hfr⟩ := fits_of_broadcastShape? hs
    refine ⟨z, by rw [evaluate_bin_operator, hzl, hzr]; exact hz, hshz, ?_,
      fun u hu ix hix => ?_⟩
    · rw [hscz, Bool.and_eq_true, hscl, hscr, List.append_eq_nil_iff]
    · rw [evaluate_bin_operator, hell u (hfl.trans hu) ix hix, helr u (hfr.trans hu) ix hix,
        helz u hu ix hix]
      rfl

/-- Evaluation broadcasts over every tree with operators in its slots whose variables all stand
for operands. -/
theorem evaluate_broadcasts {t : Node} (hreal : t.operatorsReal = true)
    (hbound : ∀ s ∈ t.occurrences, ∃ v o, c.lookup? (.str s) = some v ∧ Operand.ofValue v = .ok o) :
    t.Broadcasts c := by
  induction t with
  | lit tag x => exact broadcasts_lit tag x
  | var tag name =>
    obtain ⟨v, o, hv, ho⟩ := hbound name (by simp)
    exact broadcasts_var tag hv ho
  | bin tag op l r ihl ihr =>
    obtain ⟨⟨o, rfl⟩, hl, hr⟩ := operatorsReal_bin.mp hreal
    exact broadcasts_bin tag o (ihl hl fun s hs => hbound s (by simp [hs]))
      (ihr hr fun s hs => hbound s (by simp [hs]))

/-- Evaluating over arrays is evaluating element by element over the joint broadcast shape. Take a
tree with operators in its slots and a context that binds every variable of the tree to a value
standing for a float, or to an array with at least one axis, and let `S` list the shapes of the
variables bound to arrays. Without arrays the tree evaluates to a float. With arrays, evaluation
is refused for broadcasting exactly when the shapes in `S` have no joint shape, wherever the
variables stand in the tree; and when they have one, it gives the array of that shape whose
element at each index is what the tree evaluates to when every variable is bound to its element
there. -/
theorem evaluate_pointwise {t : Node} (hreal : t.operatorsReal = true)
    (hbound : ∀ s ∈ t.variables, ∃ v o, c.lookup? (.str s) = some v ∧ Operand.ofValue v = .ok o) :
    let S := t.variables.filterMap fun s => (c.lookup? (.str s)).bind Value.arrayShape?
    (S = [] → ∃ x, t.evaluate c = .ok (.scalar x)) ∧
    (S ≠ [] → (t.evaluate c = .error .broadcast ↔ broadcastShapes? S = none) ∧
      ∀ s, broadcastShapes? S = some s → ∃ g : List Nat → Float,
        t.evaluate c = .ok (.tensor (ofFn s g)) ∧
        ∀ ix ∈ indices s, t.evaluate (c.elementAt ix) = .ok (.scalar (g ix))) := by
  intro S
  -- the variables and the variable positions bind the same arrays
  have hmem : ∀ a, a ∈ S ↔ a ∈ t.arrayShapes c := by
    intro a
    simp only [S, arrayShapes, List.mem_filterMap, mem_variables]
  have hjoint : broadcastShapes? S = broadcastShapes? (t.arrayShapes c) :=
    broadcastShapes?_congr hmem
  have hnil : S = [] ↔ t.arrayShapes c = [] := by
    simp only [List.eq_nil_iff_forall_not_mem, hmem]
  obtain ⟨hnone, hsome⟩ := evaluate_broadcasts hreal fun s hs => hbound s (mem_variables.mpr hs)
  refine ⟨fun hS => ?_, fun hS => ⟨⟨fun he => ?_, fun h => hnone (hjoint.symm.trans h)⟩,
    fun s h => ?_⟩⟩
  · obtain ⟨z, hz, -, hsc, -⟩ := hsome [] (by rw [← hjoint, hS]; rfl)
    cases z with
    | scalar x => exact ⟨x, hz⟩
    | tensor _ => exact absurd (hsc.mpr (hnil.mp hS)) Bool.false_ne_true
  · cases h : broadcastShapes? S with
    | none => rfl
    | some s =>
      obtain ⟨z, hz, -⟩ := hsome s (hjoint.symm.trans h)
      rw [hz] at he
      cases he
  · obtain ⟨z, hz, hsh, hsc, hel⟩ := hsome s (hjoint.symm.trans h)
    cases z with
    | scalar x => exact absurd (hnil.mpr (hsc.mp rfl)) hS
    | tensor r =>
      obtain rfl : r.shape = s := hsh
      exact ⟨r.get, by rw [hz, ofFn_get], fun ix hix => hel r.shape (Fits.refl _) ix hix⟩

end Arrays

/-- A column of two floats plus a row of three broadcast to a two-by-three grid, element by
element. -/
theorem evaluate_pointwise_grid :
    let col := ofFn [2, 1] fun ix => if ix = [0, 0] then 1 else 2
    let row := ofFn [3] fun _ => 10
    let t := bin 0 (.operator .add) (var 1 "x") (var 2 "y")
    let c : Context := ⟨[(.str "x", .tensor col), (.str "y", .tensor row)]⟩
    t.operatorsReal = true ∧
      (∀ s ∈ t.variables, ∃ v o, c.lookup? (.str s) = some v ∧ Operand.ofValue v = .ok o) ∧
      broadcastShapes? [[2, 1], [3]] = some [2, 3] ∧
      ∃ g : List Nat → Float, t.evaluate c = .ok (.tensor (ofFn [2, 3] g)) ∧
        ∀ ix ∈ indices [2, 3], t.evaluate (c.elementAt ix) = .ok (.scalar (g ix)) := by
  intro col row t c
  have hreal : t.operatorsReal = true := rfl
  have hvars : t.variables = ["x", "y"] := rfl
  have hx : c.lookup? (.str "x") = some (.tensor col) := by simp [c, Context.lookup?, Value.eqv]
  have hy : c.lookup? (.str "y") = some (.tensor row) := by simp [c, Context.lookup?, Value.eqv]
  have hbound : ∀ s ∈ t.variables, ∃ v o, c.lookup? (.str s) = some v ∧
      Operand.ofValue v = .ok o := by
    rw [hvars]
    intro s hs
    simp only [List.mem_cons, List.not_mem_nil, or_false] at hs
    rcases hs with rfl | rfl
    · exact ⟨_, .tensor col, hx, rfl⟩
    · exact ⟨_, .tensor row, hy, rfl⟩
  have hS : (t.variables.filterMap fun s => (c.lookup? (.str s)).bind Value.arrayShape?) =
      [[2, 1], [3]] := by
    rw [hvars]
    simp only [List.filterMap_cons, List.filterMap_nil, hx, hy, Option.bind_some]
    rfl
  have hjoint : broadcastShapes? [[2, 1], [3]] = some [2, 3] := by decide
  obtain ⟨-, harrays⟩ := evaluate_pointwise hreal hbound
  rw [hS] at harrays
  obtain ⟨-, hgrid⟩ := harrays (List.cons_ne_nil _ _)
  exact ⟨hreal, hbound, hjoint, hgrid [2, 3] hjoint⟩

end Node

end ExprTree
