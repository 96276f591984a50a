import ExprTree.Value.Equality
/-!
  Evaluation contexts: bindings of names to values, kept in the order in which the names were
  first bound. Names are values and compare as values do (`Value.eqv`), so the name `5` and the
  name `5.0` are one name; rebinding a name keeps its place and its first spelling. A name that
  cannot be hashed is refused by every operation.
-/

namespace ExprTree

/-- Bindings of names to values, in the order the names were first bound. -/
structure Context where
  bindings : List (Value × Value)
  deriving Inhabited

namespace Context

/-- The context without bindings. -/
def empty : Context := ⟨[]⟩

/-- The value bound to a name equal to `name`, if any. -/
def lookup? (c : Context) (name : Value) : Option Value :=
  (c.bindings.find? fun (k, _) => k.eqv name).map Prod.snd

/-- The value bound to `name`; an unbound name is a fault that carries it. -/
def get (c : Context) (name : Value) : Except Fault Value := do
  let _ ← name.hash
  match c.lookup? name with
  | some v => pure v
  | none => throw (.undefined name)

/-- The bindings with `name` bound to `v`: a name already bound keeps its place. -/
def insert (bs : List (Value × Value)) (name v : Value) : List (Value × Value) :=
  if bs.any fun (k, _) => k.eqv name then
    bs.map fun (k, w) => if k.eqv name then (k, v) else (k, w)
  else bs ++ [(name, v)]

/-- Binds `name` to `v`. -/
def set (c : Context) (name v : Value) : Except Fault Context := do
  let _ ← name.hash
  pure ⟨insert c.bindings name v⟩

/-- Whether `name` is bound. -/
def contains (c : Context) (name : Value) : Except Fault Bool := do
  let _ ← name.hash
  pure (c.lookup? name).isSome

/-- The number of bound names. -/
def size (c : Context) : Nat := c.bindings.length

/-- The bound names, in the order they were first bound. -/
def names (c : Context) : List Value := c.bindings.map Prod.fst

/-- The context binding the text keys of a record, a later key rebinding an earlier one. -/
def ofEntries (kvs : List (String × Value)) : Context :=
  ⟨kvs.foldl (fun bs (k, v) => insert bs (.str k) v) []⟩

end Context

end ExprTree
