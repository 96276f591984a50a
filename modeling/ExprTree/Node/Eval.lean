import ExprTree.Node.Build
import ExprTree.Operand
import ExprTree.Context
/-!
  Evaluation of a tree in a context. A literal is its float; a variable is the operand of the value
  its name is bound to. A binary node first reads its operator slot, then evaluates its left child,
  then its right child, and applies the operator; so the fault reported is the first in the order
  in which a walk from the root meets the nodes, left before right.
-/

namespace ExprTree

namespace Node

/-- The operand a tree evaluates to in a context. -/
def evaluate (c : Context) : Node → Except Fault Operand
  | .lit _ x => pure (.scalar x)
  | .var _ s => do Operand.ofValue (← c.get (.str s))
  | .bin _ op l r => do
    let o ← Operator.ofSlot op
    let x ← l.evaluate c
    let y ← r.evaluate c
    Operand.apply o x y

end Node

end ExprTree
