import ExprTree.Value.Real
import ExprTree.Operator.Slot
/-!
  Operands: what evaluation computes, a single float or a tensor with at least one axis. A value
  becomes an operand by keeping a tensor that has axes and taking the float of anything else.
  An operator applies to two operands element by element over their broadcast shape, a float
  standing for every element.
-/

namespace ExprTree

/-- The result of evaluating a tree: a float, or a tensor with at least one axis. -/
inductive Operand where
  | scalar (x : Float)
  | tensor (t : Tensor)
  deriving Inhabited

namespace Operand

/-- The operand a value stands for. -/
def ofValue (v : Value) : Except Fault Operand :=
  match v with
  | .tensor t => if t.ndim > 0 then pure (.tensor t) else .scalar <$> v.toFloat
  | v => .scalar <$> v.toFloat

/-- The operator applied to two operands; tensors whose shapes do not broadcast are refused. -/
def apply (o : Operator) : Operand → Operand → Except Fault Operand
  | .scalar x, .scalar y => pure (.scalar (o.apply x y))
  | .scalar x, .tensor t => pure (.tensor (t.map (o.apply x ·)))
  | .tensor t, .scalar y => pure (.tensor (t.map (o.apply · y)))
  | .tensor s, .tensor t =>
    match Tensor.zipWith? o.apply s t with
    | some r => pure (.tensor r)
    | none => throw .broadcast

/-- The operator in a slot applied to two values: the slot is read first, then each value becomes
an operand, left before right. -/
def applyValues (op a b : Value) : Except Fault Operand := do
  let o ← Operator.ofSlot op
  let x ← ofValue a
  let y ← ofValue b
  apply o x y

/-- Whether every element of an operand is finite. -/
def allFinite : Operand → Bool
  | .scalar x => !x.isNaN && !x.isInf
  | .tensor t => t.toList.all fun x => !x.isNaN && !x.isInf

end Operand

end ExprTree
