import ExprTree.Error
import ExprTree.Decimal.Reading
/-!
  Values as floats and as tensors. `Value.toFloat` is the float of a single value: a truth value is
  0 or 1, a whole number is rounded to the nearest float, a text is read as numeric text, a tensor
  without axes gives its element, and an operator its code. `Value.toTensor` builds a tensor
  from nested lists, which must be rectangular; its elements convert like single values, except
  that the absent value becomes NaN.
-/

namespace ExprTree

namespace Value

/-- The float of a value. -/
def toFloat : Value → Except Fault Float
  | .bool b => pure (if b then 1 else 0)
  | .int n =>
    match Decimal.ofInt? n with
    | some x => pure x
    | none => throw .tooLarge
  | .float x => pure x
  | .nanObject _ => pure (0.0 / 0.0)
  | .str s =>
    match Decimal.read? s with
    | some x => pure x
    | none => throw (.unreadable s)
  | .tensor t =>
    match t.shape, t.data.toList with
    | [], [x] => pure x
    | _, _ => throw .notScalar
  | .operator o => pure (Float.ofNat o.code)
  | v => throw (.notReal v)

/-- The float of a tensor element: the absent value is NaN, others as `toFloat`. -/
def toElement : Value → Except Fault Float
  | .null => pure (0.0 / 0.0)
  | v => v.toFloat

/-- The length of a list value; other values have none. -/
def listLength? : Value → Option Nat
  | .list xs => some xs.length
  | _ => none

/-- The items of a list value; other values have none. -/
def items? : Value → Option (List Value)
  | .list xs => some xs
  | _ => none

/-- The shape of nested lists, found level by level: `level` holds every value at the current
depth. A level whose values are all lists of one length adds that length to the shape; a level of
values none of which is a list ends the shape; any other level is ragged, reported with the
depth reached and the shape found so far. -/
def discoverShape (level : List Value) (shape : List Nat) (fuel : Nat) :
    Except Fault (List Nat) :=
  match fuel with
  | 0 => pure shape
  | fuel + 1 =>
    let lengths := level.map listLength?
    if lengths.all Option.isNone then pure shape
    else
      match lengths with
      | some n :: rest =>
        if rest.all (· == some n) then
          discoverShape (level.flatMap fun v => (items? v).getD []) (shape ++ [n]) fuel
        else throw (.ragged shape.length shape)
      | _ => throw (.ragged shape.length shape)

/-- The leaves of nested lists in row-major order, `depth` levels deep. -/
def leaves : Nat → Value → List Value
  | 0, v => [v]
  | d + 1, .list xs => xs.flatMap fun x => leaves d x
  | _ + 1, v => [v]

/-- The depth of nesting of a value: how many list levels enclose its deepest item. -/
def nesting : Value → Nat
  | .list xs => 1 + (xs.attach.map fun ⟨x, _⟩ => nesting x).foldl max 0
  | _ => 0

/-- The tensor built from a value: a tensor is kept, nested lists give a tensor of their shape,
and any other value a tensor with no axes. -/
def toTensor (v : Value) : Except Fault Tensor := do
  match v with
  | .tensor t => return t
  | .list _ =>
    let shape ← discoverShape [v] [] (v.nesting + 1)
    let xs ← (leaves shape.length v).mapM toElement
    match Tensor.ofList? shape xs with
    | some t => return t
    | none => throw (.ragged shape.length shape)
  | v =>
    let x ← toElement v
    return Tensor.ofFn [] fun _ => x

end Value

end ExprTree
