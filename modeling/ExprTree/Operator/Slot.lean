import ExprTree.Value.Equality
/-!
  Operators from caller values. `Operator.coerce` accepts what a caller may name an operator by:
  an operator itself, one of its symbols, or exactly its name in capitals. `Operator.ofSlot` reads
  the operator slot of a binary node, which must hold an operator; anything else there is a broken
  invariant of the tree.
-/

namespace ExprTree

namespace Operator

/-- The operator a caller names. -/
def coerce : Value → Except Fault Operator
  | .operator o => pure o
  | v@(.str s) =>
    match ofText? s with
    | some o => pure o
    | none => throw (.unknownOperatorText v)
  | v => throw (.unknownOperatorText v)

/-- The operator in an operator slot. -/
def ofSlot : Value → Except Fault Operator
  | .operator o => pure o
  | v => throw (.unknownOperator v)

/-- The operator whose code is the number `v`; any other value is refused. -/
def ofCodeValue (v : Value) : Except Fault Operator :=
  match (if v.isNumber then v.wholeNumber? else none).bind ofCode? with
  | some o => pure o
  | none => throw (.unknownOperatorCode v)

end Operator

end ExprTree
