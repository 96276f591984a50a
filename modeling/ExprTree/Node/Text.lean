import ExprTree.Node.Basic
import ExprTree.Value.Text
/-!
  Renderings of nodes. `Node.repr` writes a whole tree, naming each class and field, with the
  literal value as a float text, the variable name quoted and the operator by its name (or, for a
  corrupted operator, the written form of the value in the slot). `Node.describe` writes the one
  field of a node alone, with the variable name unquoted, and `Node.label` is the class name
  followed by it.
-/

namespace ExprTree

namespace Node

/-- The name of the value in an operator slot: an operator's name, otherwise its written form. -/
def operatorName : Value → String
  | .operator o => o.name
  | v => v.repr

/-- The full rendering of a tree. -/
def repr : Node → String
  | .lit _ x => "LiteralNode(value=" ++ Decimal.text x ++ ")"
  | .var _ s => "VariableNode(name=" ++ Text.quote s ++ ")"
  | .bin _ op l r =>
    "BinaryExpressionNode(operator=" ++ operatorName op ++ ", lhs=" ++ l.repr ++ ", rhs=" ++
      r.repr ++ ")"

/-- The field of a node, in parentheses. -/
def describe : Node → String
  | .lit _ x => "(value=" ++ Decimal.text x ++ ")"
  | .var _ s => "(name=" ++ s ++ ")"
  | .bin _ op _ _ => "(operator=" ++ operatorName op ++ ")"

/-- The class name of a node followed by its field. -/
def label (n : Node) : String :=
  n.kind.className ++ n.describe

end Node

end ExprTree
