import ExprTree.Value.Basic
/-!
  Expression trees. A node is a literal float, a named variable, or a binary node with an operator
  slot and two children. Every node carries a tag, the identity of the node object: a tree may
  hold one node at several positions (a shared subtree), and those positions then carry the same
  tag. The operator slot holds a `Value`; the checked constructors put an `Operator` there, and
  anything else in the slot is a corrupted operator that evaluation and compilation refuse.
-/

namespace ExprTree

/-- A node of an expression tree, with the identity tag of the node object first. -/
inductive Node where
  | lit (tag : Nat) (value : Float)
  | var (tag : Nat) (name : String)
  | bin (tag : Nat) (op : Value) (lhs rhs : Node)
  deriving Inhabited

/-- The side of a binary node on which a child stands. -/
inductive Role where
  | lhs
  | rhs
  deriving DecidableEq, Repr, Inhabited

/-- The name of a role, as renderings and paths write it. -/
def Role.name : Role → String
  | .lhs => "lhs"
  | .rhs => "rhs"

/-- The three kinds of node. -/
inductive NodeKind where
  | literal
  | variable
  | binary
  deriving DecidableEq, Repr, Inhabited

/-- The class name of a node kind, as renderings write it. -/
def NodeKind.className : NodeKind → String
  | .literal => "LiteralNode"
  | .variable => "VariableNode"
  | .binary => "BinaryExpressionNode"

namespace Node

/-- The identity tag of a node. -/
def tag : Node → Nat
  | .lit t _ | .var t _ | .bin t _ _ _ => t

/-- The kind of a node. -/
def kind : Node → NodeKind
  | .lit .. => .literal
  | .var .. => .variable
  | .bin .. => .binary

/-- The children of a node with their roles: none for a leaf, `lhs` then `rhs` for a binary
node. -/
def children : Node → List (Role × Node)
  | .bin _ _ l r => [(.lhs, l), (.rhs, r)]
  | _ => []

/-- The child in a role, if the node has one there. -/
def child? (n : Node) (r : Role) : Option Node :=
  n.children.lookup r

/-- The node reached by following a path of roles from `n`. -/
def follow? (n : Node) : List Role → Option Node
  | [] => some n
  | r :: rs => (n.child? r).bind (follow? · rs)

end Node

end ExprTree
