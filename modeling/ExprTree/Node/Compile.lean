import ExprTree.Operator.Slot
/-!
  Compiled text of a tree: a source expression that computes what the tree evaluates to. A binary
  node is written `(L+R)`, `(L-R)`, `(L*R)`, `(L/R)` or `pow(L,R)` without blanks, a variable as its
  name, and a literal as in `literalText`. The operator slot of a binary node is read before its
  children are written.
-/

-- The core instances for powers, products and sums of numbers, also where Mathlib's are
-- in scope, so that the definitions below are the same terms in every build.
attribute [local instance (high)] instPowNat

namespace ExprTree

namespace Node

/-- The largest magnitude below which whole floats are written as whole numbers: `2 ^ 53`, past
which not every whole number is a float. -/
def wholeLimit : Nat := 2 ^ (53 : Nat)

/-- The text of a literal: NaN is `float(\x27nan\x27)` and the infinities `float(\x27inf\x27)` and
`(-float(\x27inf\x27))`; negative zero is `(-0.0)`; a whole value below `2 ^ 53` in magnitude is
written as a whole number, any other as its float text; and a negative value is put in
parentheses. -/
def literalText (x : Float) : String :=
  if x.isNaN then "float(\x27nan\x27)"
  else if x.isInf then
    if Decimal.signBit x then "(-float(\x27inf\x27))" else "float(\x27inf\x27)"
  else if x == 0 then
    if Decimal.signBit x then "(-0.0)" else "0"
  else
    let magnitude := Decimal.Binary.ofFloat x
    let body := match magnitude.wholeValue? with
      | some n => if n < wholeLimit then toString n else Decimal.text (Float.abs x)
      | none => Decimal.text (Float.abs x)
    if Decimal.signBit x then "(-" ++ body ++ ")" else body

/-- The compiled text of a tree. -/
def compile : Node → Except Fault String
  | .lit _ x => pure (literalText x)
  | .var _ s => pure s
  | .bin _ op l r => do
    let o ← Operator.ofSlot op
    let a ← l.compile
    let b ← r.compile
    match o.function?, o.symbol? with
    | some f, _ => pure (f ++ "(" ++ a ++ "," ++ b ++ ")")
    | none, some s => pure ("(" ++ a ++ s ++ b ++ ")")
    | none, none => pure ("(" ++ a ++ b ++ ")")

end Node

end ExprTree
