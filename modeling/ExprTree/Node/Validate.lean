import ExprTree.Node.Eval
import ExprTree.Node.Walk
/-!
  Validation of trees. A valid tree is a strict tree whose binary nodes hold operators: no node
  object stands at two positions. `Node.validate` pops nodes from a stack that starts with the
  root, keeping the tags it has visited; it reports a popped node whose tag it has seen, then a
  binary node whose operator slot is not an operator, and otherwise pushes the node's children,
  left then right, so that the right one is popped first. `checkVisits` checks a list of nodes in
  the same way, one after another. `isValid` also evaluates the tree when a context is given, and
  then asks that every result be finite; faults of broken invariants and unbound variables make a
  tree invalid, other faults are reported.
-/

-- The core instance for sums of numbers, also where Mathlib's are in scope, so that the
-- definitions below are the same terms in every build.
attribute [local instance (high)] Zero.ofOfNat0

namespace ExprTree

namespace Node

/-- The nodes depth first with the right subtree before the left one. -/
def mirrorPreorder : Node → List Node
  | n@(.bin _ _ l r) => n :: (r.mirrorPreorder ++ l.mirrorPreorder)
  | n => [n]

/-- Checks the visited nodes in order, given the tags already visited. -/
def checkVisits : List Nat → List Node → Except Fault Unit
  | _, [] => pure ()
  | seen, n :: rest =>
    if seen.contains n.tag then throw (.sharedNode n)
    else
      match n with
      | .bin _ op _ _ => do
        let _ ← Operator.ofSlot op
        checkVisits (n.tag :: seen) rest
      | _ => checkVisits (n.tag :: seen) rest

/-- Checks the operator slot of a node: a binary node must hold an operator there. -/
def checkOperator : Node → Except Fault Unit
  | .bin _ op _ _ => do
    let _ ← Operator.ofSlot op
    pure ()
  | _ => pure ()

/-- Checks the nodes popped from a stack whose top is its head, given the tags already visited:
a node visited before is reported, then a binary node whose operator slot holds no operator;
otherwise the node's children are pushed, left then right. -/
def checkStack : List Nat → List Node → Except Fault Unit
  | _, [] => pure ()
  | seen, n :: stack =>
    if seen.contains n.tag then throw (.sharedNode n)
    else do
      n.checkOperator
      checkStack (n.tag :: seen) ((n.children.map Prod.snd).reverse ++ stack)
termination_by _ stack => (stack.map fun m => m.preorder.length).sum
decreasing_by
  cases n with
  | bin => simp [children, preorder]; omega
  | lit | var => simp [children, preorder]

/-- Checks that a tree is strict and holds only operators in its operator slots. -/
def validate (n : Node) : Except Fault Unit :=
  checkStack [] [n]

end Node

/-- Whether a fault belongs to this library's own failures, a broken invariant or an unbound
variable, which make a tree invalid rather than being reported. -/
def Fault.isOwn (f : Fault) : Bool :=
  f.kind == .invariant || f.kind == .undefinedVariable

namespace Item

/-- Checks that an item is a node and a valid tree. -/
def validate : Item → Except Fault Unit
  | .node n => n.validate
  | .value v => throw (.notANode v)

/-- Whether an item is a valid tree and, given a context, evaluates there to finite results. -/
def isValid (i : Item) (c : Option Context) : Except Fault Bool :=
  match i.validate, i, c with
  | .error f, _, _ => if f.isOwn then pure false else throw f
  | .ok _, .node n, some c =>
    match n.evaluate c with
    | .ok r => pure r.allFinite
    | .error f => if f.isOwn then pure false else throw f
  | .ok _, _, _ => pure true

end Item

end ExprTree
