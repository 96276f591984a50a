import ExprTree.Node.Validate
import ExprTree.Node.Compile
import ExprTree.Node.Walk
import ExprTree.Node.Equality
/-!
  Expressions: an immutable wrapper around the root node of a tree. Besides the operations of its
  root, an expression evaluates a tree over columns of equal length at once: the columns become
  tensors, which must all have one axis of one length `n` (checked before anything else), the tree
  is compiled, so that a corrupted operator is reported before any variable is looked up, and the
  result is spread to `n` elements.
-/

namespace ExprTree

/-- A tree wrapped as one expression. -/
structure Expression where
  root : Node
  deriving Inhabited

namespace Expression

/-- The expression of an item, which must be a node. -/
def ofItem : Item → Except Fault Expression
  | .node n => pure ⟨n⟩
  | .value v => throw (.rootNotANode v)

/-- The rendering of an expression. -/
def repr (e : Expression) : String :=
  "Expression(" ++ e.root.repr ++ ")"

/-- The common length of one-axis tensors, or `none` if some tensor has another number of axes
or two lengths differ; without tensors the length is 1. -/
def commonLength (ts : List Tensor) : Option Nat :=
  if ts.all (·.ndim == 1) then
    match (ts.map (·.shape)).flatten with
    | [] => some 1
    | n :: rest => if rest.all (· == n) then some n else none
  else none

/-- An operand spread to `n` elements: a float repeated, a tensor with one axis as it is. -/
def spread (n : Nat) : Operand → Tensor
  | .scalar x => Tensor.ofFn [n] fun _ => x
  | .tensor t => Tensor.ofFn [n] fun ix => t.get ix

/-- Evaluates the expression over named columns, one result per row. -/
def evaluateBatch (e : Expression) (columns : List (String × Value)) : Except Fault Tensor := do
  let arrays ← columns.mapM fun (k, v) => do pure (k, ← v.toTensor)
  match commonLength (arrays.map Prod.snd) with
  | none => throw .columnShape
  | some n =>
    let _ ← e.root.compile
    let r ← e.root.evaluate (Context.ofEntries (arrays.map fun (k, t) => (k, .tensor t)))
    pure (spread n r)

end Expression

/-- Anything that can be compared: a node, an expression or another value. -/
inductive Subject where
  | node (n : Node)
  | expression (e : Expression)
  | value (v : Value)
  deriving Inhabited

namespace Subject

/-- The subject of an item, wrapped as an expression when `wrap` holds. -/
def ofItem (i : Item) (wrap : Bool) : Except Fault Subject :=
  if wrap then .expression <$> Expression.ofItem i
  else match i with
    | .node n => pure (.node n)
    | .value v => pure (.value v)

/-- Equality of subjects: nodes as trees, expressions by their roots, values as values, and
subjects of different sorts never. -/
def beq : Subject → Subject → Except Fault Bool
  | .node a, .node b => a.beq b
  | .expression a, .expression b => a.root.beq b.root
  | .value a, .value b => pure (a.eqv b)
  | _, _ => pure false

/-- Inequality of subjects: the negation of their equality, as for any class that defines
equality alone. -/
def bne (a b : Subject) : Except Fault Bool :=
  (!·) <$> a.beq b

/-- The hash of a subject through the hashes that nodes keep; an expression hashes as its root,
and any other value is hashed anew. -/
def hashWith : Subject → List (Nat × UInt64) → Except Fault UInt64 × List (Nat × UInt64)
  | .node n, cache => n.hashWith cache
  | .expression e, cache => e.root.hashWith cache
  | .value v, cache => (v.hash, cache)

end Subject

/-- The nodes of an item in the order a caller names. A value that is not a node has no
children to walk, once the order is known to be one of the two. -/
def Item.traverse (i : Item) (order : Value) : Except Fault (List Node) :=
  match i with
  | .node n => n.traverse order
  | .value v => do
    let _ ← Node.breadthFirst? order
    throw (.noAttribute v.typeName "children")

/-- The binary nodes of an item whose operator slot equals the operator a caller names. A value
that is not a node has no children to walk, once the operator is known. -/
def Item.withOperator (i : Item) (op : Value) : Except Fault (List Node) :=
  match i with
  | .node n => n.withOperator op
  | .value v => do
    let _ ← Operator.coerce op
    throw (.noAttribute v.typeName "children")

/-- Setting (`deleting = false`) or deleting an attribute of an item: nodes and expressions are
immutable, and other values have no attributes to change. -/
def Item.changeAttribute (i : Item) (attr : String) (deleting : Bool) : Except Fault Unit :=
  match i with
  | .node n => throw (.immutable n.kind.className attr deleting)
  | .value v => throw (.noAttribute v.typeName attr)

/-- Setting or deleting an attribute of an expression, which is immutable. -/
def Expression.changeAttribute (_ : Expression) (attr : String) (deleting : Bool) :
    Except Fault Unit :=
  throw (.immutable "Expression" attr deleting)

end ExprTree
