import ExprTree.Operator.Slot
/-!
  Walks over a tree. Positions are paths of roles from the root; a shared node is met once for
  every path that reaches it. `Node.preorder` lists the nodes depth first, a node before its
  children and the left child's subtree before the right one; `Node.paths` pairs each with its
  path. `Node.levelOrder` lists them in the order they leave a queue that starts with the root and
  to whose end every visited node adds its children. The size of a tree is counted with a cache
  of the sizes of the nodes already counted, so a shared node is counted once and read back
  wherever else it stands. Depth, the variables and the constants of a tree are read off these
  walks.
-/

-- The core instance for sums of numbers, also where Mathlib's are in scope, so that the
-- definitions below are the same terms in every build.
attribute [local instance (high)] Zero.ofOfNat0

namespace ExprTree

namespace Node

/-- The size of a tree counted with a cache of sizes by node tag: a node counted before is read
from the cache; any other counts one more than its children, the left one first, and is stored. -/
def sizeWith (n : Node) (cache : List (Nat × Nat)) : Nat × List (Nat × Nat) :=
  match cache.lookup n.tag with
  | some s => (s, cache)
  | none =>
    match n with
    | .bin t _ l r =>
      let (a, cache) := l.sizeWith cache
      let (b, cache) := r.sizeWith cache
      (1 + (a + b), (t, 1 + (a + b)) :: cache)
    | n => (1, (n.tag, 1) :: cache)

/-- The number of nodes of a tree, counted from an empty cache. -/
def size (n : Node) : Nat := (n.sizeWith []).1

/-- The number of levels of a tree: a leaf has depth 1. -/
def depth : Node → Nat
  | .bin _ _ l r => 1 + max l.depth r.depth
  | _ => 1

/-- The nodes depth first: a node, then the walk of its left child, then of its right child. -/
def preorder : Node → List Node
  | n@(.bin _ _ l r) => n :: (l.preorder ++ r.preorder)
  | n => [n]

/-- The nodes depth first, paired with their paths from the root. -/
def paths : Node → List (List Role × Node)
  | n@(.bin _ _ l r) =>
    ([], n) :: ((l.paths.map fun (p, m) => (.lhs :: p, m)) ++
      (r.paths.map fun (p, m) => (.rhs :: p, m)))
  | n => [([], n)]

/-- The nodes at depth `k`, from left to right. -/
def level : Node → Nat → List Node
  | n, 0 => [n]
  | .bin _ _ l r, k + 1 => l.level k ++ r.level k
  | _, _ + 1 => []

/-- The nodes in the order they leave a queue: the node at the front is visited, and its
children, left then right, join the end. -/
def visitQueue : List Node → List Node
  | [] => []
  | n :: queue => n :: visitQueue (queue ++ n.children.map Prod.snd)
termination_by queue => (queue.map fun m => m.preorder.length).sum
decreasing_by
  cases n with
  | bin => simp [children, preorder]; omega
  | lit | var => simp [children, preorder]

/-- The nodes breadth first, from a queue that holds the root alone at the start. -/
def levelOrder (n : Node) : List Node :=
  visitQueue [n]

/-- Which of the two traversals a caller names: exactly the text `breadth_first` (`true`) or
`depth_first`. Each is compared with the order as a condition, so a tensor is compared element by
element. -/
def breadthFirst? (order : Value) : Except Fault Bool := do
  if ← order.eqTruth (.str "breadth_first") then return true
  if ← order.eqTruth (.str "depth_first") then return false
  throw (.traversalOrder order)

/-- The nodes in the order a caller names: exactly the text `breadth_first` or `depth_first`. -/
def traverse (n : Node) (order : Value) : Except Fault (List Node) := do
  if ← breadthFirst? order then pure n.levelOrder else pure n.preorder

/-- The nodes of a kind depth first, or all nodes for no kind. -/
def ofKind (n : Node) (k : Option NodeKind) : List Node :=
  n.preorder.filter fun m => k.all (m.kind == ·)

/-- The binary nodes depth first whose operator slot equals the operator a caller names. -/
def withOperator (n : Node) (op : Value) : Except Fault (List Node) := do
  let target ← Operator.coerce op
  n.preorder.filterM fun m =>
    match m with
    | .bin _ v _ _ => v.eqTruth (.operator target)
    | _ => pure false

/-- The names of a tree's variables depth first, each once, at its first occurrence. -/
def «variables» (n : Node) : List String :=
  let names := n.preorder.filterMap fun m =>
    match m with
    | .var _ s => some s
    | _ => none
  names.foldl (fun acc s => if acc.contains s then acc else acc ++ [s]) []

/-- The values of a tree's literals depth first. -/
def constants (n : Node) : List Float :=
  n.preorder.filterMap fun m =>
    match m with
    | .lit _ x => some x
    | _ => none

end Node

end ExprTree
