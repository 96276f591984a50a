/-!
  Tensors: arrays of floats with a shape, stored in row-major order, and broadcasting of two
  shapes. Two shapes are aligned at their last axes; on each axis a length 1 on the left takes the
  length on the right, and otherwise the right length must be 1 or equal to the left one. A
  tensor is read at an index of a broadcast shape by ignoring its leading axes and reading
  position 0 on every axis of length 1.
-/

-- The core instances for powers, products and sums of numbers, also where Mathlib's are
-- in scope, so that the definitions below are the same terms in every build.
attribute [local instance (high)] One.ofOfNat1

namespace ExprTree

/-- A tensor of floats: its shape and its elements in row-major order. -/
structure Tensor where
  shape : List Nat
  data : Array Float
  size_eq : data.size = shape.prod

namespace Tensor

/-- The number of axes. -/
def ndim (t : Tensor) : Nat := t.shape.length

/-- The multi-indices of a shape, in row-major order. -/
def indices : List Nat → List (List Nat)
  | [] => [[]]
  | d :: ds => (List.range d).flatMap fun i => (indices ds).map (i :: ·)

/-- The row-major position of a multi-index in a shape. -/
def offset (shape ix : List Nat) : Nat :=
  (shape.zip ix).foldl (fun acc (d, i) => acc * d + i) 0

/-- A shape has as many multi-indices as elements. -/
theorem length_indices (s : List Nat) : (indices s).length = s.prod := by
  induction s with
  | nil => rfl
  | cons d ds ih =>
    simp [indices, List.length_flatMap, ih, List.map_const']

/-- The tensor with elements `f ix` at the multi-indices `ix` of `shape`. -/
def ofFn (shape : List Nat) (f : List Nat → Float) : Tensor :=
  ⟨shape, ((indices shape).map f).toArray, by simp [length_indices]⟩

/-- The tensor of the given shape whose row-major elements are `xs`, if their count fits. -/
def ofList? (shape : List Nat) (xs : List Float) : Option Tensor :=
  if h : xs.toArray.size = shape.prod then some ⟨shape, xs.toArray, h⟩ else none

/-- The element of `t` at a multi-index of a shape that `t` broadcasts to. -/
def get (t : Tensor) (ix : List Nat) : Float :=
  let own := ix.drop (ix.length - t.ndim)
  let own := (t.shape.zip own).map fun (d, i) => if d = 1 then 0 else i
  t.data[offset t.shape own]?.getD 0

/-- The shape that two shapes broadcast to, if they are compatible. -/
def broadcastShape? (a b : List Nat) : Option (List Nat) :=
  let n := max a.length b.length
  let a' := List.replicate (n - a.length) 1 ++ a
  let b' := List.replicate (n - b.length) 1 ++ b
  (a'.zip b').mapM fun (x, y) =>
    if x = 1 then some y else if y = 1 ∨ y = x then some x else none

/-- The element-wise combination of two tensors over their broadcast shape. -/
def zipWith? (f : Float → Float → Float) (a b : Tensor) : Option Tensor :=
  (broadcastShape? a.shape b.shape).map fun s => ofFn s fun ix => f (a.get ix) (b.get ix)

/-- A function applied to every element. -/
def map (f : Float → Float) (t : Tensor) : Tensor :=
  ofFn t.shape fun ix => f (t.get ix)

/-- The elements in row-major order. -/
def toList (t : Tensor) : List Float := t.data.toList

end Tensor

end ExprTree
