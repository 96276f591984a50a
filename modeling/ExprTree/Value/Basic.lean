import ExprTree.Operator
import ExprTree.Tensor.Basic
/-!
  Values that callers hand to the library: the literal of a node, the name of a variable, an
  operator slot, a binding of a context or a column. A value is one of the kinds a caller can
  write: nothing, a truth value, a whole number of any size, a float, a text, a list or a record
  of values, a tensor or an operator.

  A value is an object, and a caller may hand one object over at several places. Lists and
  records compare their items identity first, so identity is seen only where an object is unequal
  to itself. Of the values a caller can write that is a NaN alone, and a NaN that the caller may
  hold at several places is therefore written with its identity (`Value.nanObject`); every other
  value is taken as an object of its own.
-/

namespace ExprTree

/-- A value supplied by a caller. -/
inductive Value where
  /-- The absent value. -/
  | null
  | bool (b : Bool)
  | int (n : Int)
  | float (x : Float)
  | str (s : String)
  | list (items : List Value)
  /-- A record of values under text keys, in the order written. -/
  | dict (entries : List (String × Value))
  | tensor (t : Tensor)
  | operator (o : Operator)
  /-- A NaN float object named by its identity. -/
  | nanObject (id : Nat)
  deriving Inhabited

namespace Value

/-- The name of a value's kind, as messages name it. -/
def typeName : Value → String
  | .null => "NoneType"
  | .bool _ => "bool"
  | .int _ => "int"
  | .float _ | .nanObject _ => "float"
  | .str _ => "str"
  | .list _ => "list"
  | .dict _ => "dict"
  | .tensor _ => "ndarray"
  | .operator _ => "Operator"

/-- The qualified name of a value's kind, as the refusal to hash it names it. -/
def qualifiedTypeName : Value → String
  | .tensor _ => "numpy.ndarray"
  | v => v.typeName

/-- Whether the value is a number: a truth value, a whole number, a float or an operator, all
of which stand for a number. -/
def isNumber : Value → Bool
  | .bool _ | .int _ | .float _ | .operator _ | .nanObject _ => true
  | _ => false

end Value

end ExprTree
