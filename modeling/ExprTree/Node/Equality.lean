import ExprTree.Value.Equality
/-!
  Equality and hashing of trees. Two trees are equal when they are the same node object (their
  tags agree) or when they are of one kind and agree field by field: literals whose floats are
  equal or both NaN, variables with one name, binary nodes whose operator slots are equal values
  and whose children are equal in turn. The hash of a tree combines the hashes of its fields, the
  children before the operator slot, so equal trees hash alike; a slot holding a list, record or
  tensor cannot be hashed.

  A node keeps its hash once computed. `Node.hashWith` hashes through these kept hashes, a cache
  by node tag that a caller threads from one hash to the next: a node hashed before, through any
  parent, answers from the cache, and a node whose slot was overwritten after it was hashed keeps
  the hash of its old slot.
-/

namespace ExprTree

namespace Node

/-- Equality of trees: the same node, or equal kind by kind. Operator slots are compared first,
as conditions, so a tensor in a slot is compared element by element and may leave the comparison
undecided. -/
def beq (a b : Node) : Except Fault Bool :=
  if a.tag == b.tag then pure true
  else
    match a, b with
    | .lit _ x, .lit _ y => pure ((x.isNaN && y.isNaN) || x == y)
    | .var _ s, .var _ t => pure (s == t)
    | .bin _ o l r, .bin _ o' l' r' => do
      if !(← o.eqTruth o') then return false
      if !(← beq l l') then return false
      beq r r'
    | _, _ => pure false

/-- Tags that separate the hashes of the three kinds of node. -/
def kindSeed : NodeKind → UInt64
  | .literal => 0x4c4954
  | .variable => 0x564152
  | .binary => 0x42494e

/-- The hash of a tree. -/
def hash : Node → Except Fault UInt64
  | .lit _ x =>
    if x.isNaN then pure (Value.mix (kindSeed .literal) 0x6e616e)
    else do pure (Value.mix (kindSeed .literal) (← (Value.float x).hash))
  | .var _ s => do pure (Value.mix (kindSeed .variable) (← (Value.str s).hash))
  | .bin _ o l r => do
    let hl ← l.hash
    let hr ← r.hash
    let ho ← o.hash
    pure (Value.mix (Value.mix (Value.mix (kindSeed .binary) ho) hl) hr)

/-- The hash of a tree through the hashes that nodes keep, a cache by node tag. A node hashed
before gives its kept hash. Any other node computes its hash from its fields, a binary node
from the hashes of its children, the left one first, and then from its operator slot, and keeps
it. A slot that cannot be hashed ends the computation; the hashes kept until then stay. -/
def hashWith (n : Node) (cache : List (Nat × UInt64)) :
    Except Fault UInt64 × List (Nat × UInt64) :=
  match cache.lookup n.tag with
  | some h => (.ok h, cache)
  | none =>
    match n with
    | .bin t o l r =>
      match l.hashWith cache with
      | (.error f, cache) => (.error f, cache)
      | (.ok hl, cache) =>
        match r.hashWith cache with
        | (.error f, cache) => (.error f, cache)
        | (.ok hr, cache) =>
          match o.hash with
          | .error f => (.error f, cache)
          | .ok ho =>
            let h := Value.mix (Value.mix (Value.mix (kindSeed .binary) ho) hl) hr
            (.ok h, (t, h) :: cache)
    | n =>
      match n.hash with
      | .ok h => (.ok h, (n.tag, h) :: cache)
      | .error f => (.error f, cache)

end Node

end ExprTree
