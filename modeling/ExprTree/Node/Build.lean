import ExprTree.Operator.Slot
import ExprTree.Value.Real
/-!
  Building trees. The checked constructors refuse what does not make a node: a literal must be a
  number (a text is refused before any conversion), a variable name a nonempty text, and the
  children of a binary node must be nodes, checked left then right, before its operator is
  accepted by `Operator.coerce`. Each constructor hands out a fresh identity tag, so nodes built
  separately are distinct objects even when they are equal.
-/

namespace ExprTree

/-- What a caller passes where a node may stand: a node, or any other value. -/
inductive Item where
  | node (n : Node)
  | value (v : Value)
  deriving Inhabited

/-- A computation that builds nodes: it draws fresh identity tags from a counter and may fail. -/
abbrev Build := StateT Nat (Except Fault)

namespace Build

/-- A fresh identity tag. -/
def fresh : Build Nat :=
  modifyGet fun n => (n, n + 1)

/-- Runs a build with tags counted from zero. -/
def run {α : Type} (b : Build α) : Except Fault α :=
  (StateT.run' b 0)

end Build

namespace Item

/-- The name of the kind of an item, as messages name it. -/
def typeName : Item → String
  | .node n => n.kind.className
  | .value v => v.typeName

/-- The node of an item, or the fault `f` made from the value that is not one. -/
def toNode (f : Value → Fault) : Item → Except Fault Node
  | .node n => pure n
  | .value v => throw (f v)

end Item

namespace Node

/-- A literal node for a number. -/
def literal (v : Value) : Build Node := do
  match v with
  | .str s => throw (.textLiteral s)
  | v =>
    let x ← v.toFloat
    return .lit (← Build.fresh) x

/-- A variable node for a nonempty name. -/
def named (v : Value) : Build Node := do
  match v with
  | .str s =>
    if s.isEmpty then throw .emptyName
    else return .var (← Build.fresh) s
  | v => throw (.nameNotText v)

/-- A binary node joining two nodes with an operator. -/
def binary (op : Value) (lhs rhs : Item) : Build Node := do
  let l ← (lhs.toNode (.childNotANode .lhs))
  let r ← (rhs.toNode (.childNotANode .rhs))
  let o ← (Operator.coerce op)
  return .bin (← Build.fresh) (.operator o) l r

/-- The same binary node with another value in its operator slot, bypassing the checks of the
constructor; a leaf has no operator slot. -/
def setOperator (n : Node) (v : Value) : Except Fault Node :=
  match n with
  | .bin t _ l r => pure (.bin t v l r)
  | n => throw (.noAttribute n.kind.className "operator")

end Node

end ExprTree
