import ExprTree.Node.Compile
import ExprTree.Formula.Evaluate
/-!
  Trees as symbolic expressions, and the check that a tree's compiled text reads back as the same
  expression.

  A literal becomes NaN, an infinity, an exact whole number when it is whole and below `2 ^ 53` in
  magnitude, and otherwise the float with its exact binary value at 53 bits. A variable becomes
  the symbol of its name. A binary node becomes the canonical sum, difference (the sum with minus
  one times the right side), product, quotient (the product with the right side to the power
  minus one) or power; its operator slot is read before its children, as in evaluation.
-/

namespace ExprTree

open Symbolic

namespace Operator

/-- The symbolic form of applying an operator to two expressions. -/
def symbolic : Operator → Expr → Expr → Expr
  | .add, a, b => Expr.sumOf [a, b]
  | .subtract, a, b => Expr.sumOf [a, Expr.productOf [Expr.int (-1), b]]
  | .multiply, a, b => Expr.productOf [a, b]
  | .divide, a, b => Expr.productOf [a, Expr.powerOf b (Expr.int (-1))]
  | .exponentiate, a, b => Expr.powerOf a b

end Operator

namespace Symbolic.Expr

/-- Whether some power in the expression has a float zero for its exponent. -/
def hasZeroFloatPower : Expr → Bool
  | .add xs => xs.attach.any fun ⟨x, _⟩ => hasZeroFloatPower x
  | .mul xs => xs.attach.any fun ⟨x, _⟩ => hasZeroFloatPower x
  | .pow b e =>
    (match e with
      | .num (.float x _) => x.isZero
      | _ => false) || hasZeroFloatPower b || hasZeroFloatPower e
  | _ => false

/-- The expression rebuilt canonically with every power whose exponent is a float zero replaced
by one, as a product drops such a power. -/
def dropZeroFloatPowers : Expr → Expr
  | .add xs => sumOf (xs.attach.map fun ⟨x, _⟩ => dropZeroFloatPowers x)
  | .mul xs => productOf (xs.attach.map fun ⟨x, _⟩ => dropZeroFloatPowers x)
  | .pow b e =>
    let zero := match e with
      | .num (.float x _) => x.isZero
      | _ => false
    if zero then one else powerOf (dropZeroFloatPowers b) (dropZeroFloatPowers e)
  | e => e

/-- Whether a number is a float below zero. -/
def isNegativeFloat : Num → Bool
  | .float x _ => x.neg && !x.isZero
  | _ => false

/-- The numbers that clearing denominators and multiplying out turn a product's coefficient into:
the coefficient times each number among the terms of the sums that are factors of the product,
or raised to a whole power in it (a number term counting as its own coefficient). -/
def scaledNumbers (e : Expr) : List Num :=
  let c := e.coeffMul.1
  let terms := e.mulArgs.flatMap fun f =>
    match f with
    | .add ts => ts
    | .pow (.add ts) (.num (.int _)) => ts
    | _ => []
  terms.map fun t => Num.mul c t.coeffMul.1

/-- Whether every number of the first list has the value of a distinct number of the second, and
no number of the second is left over. -/
def sameValues : List Num → List Num → Bool
  | [], ys => ys.isEmpty
  | x :: xs, ys =>
    match ys.findIdx? (Num.same x) with
    | some i => sameValues xs (ys.eraseIdx i)
    | none => false

/-- Whether two expressions of one shape agree once simplified, with `fuel` bounding the depth.
Terms of sums and factors of products are matched in any order, and a product's coefficient
times each number in the sums among its factors must agree too, since simplification multiplies
those out (a float read with more digits rounds the product at its own precision). Floats are
compared by value,
since simplification combines them as coefficients and expands sums, products and whole powers,
except where `strict` holds: in the base of a power with an exponent that is not a whole number,
and in an exponent other than a negative float, floats are compared with their precision too,
since such a power stays as it is. A negative float exponent is compared by value because the
power moves to a denominator, where the exponents of a common denominator are added up. An
infinity or NaN agrees with nothing, as its difference with itself is NaN. -/
def agrees : Nat → Bool → Expr → Expr → Bool
  | 0, _, _, _ => false
  | fuel + 1, strict, a, b =>
    match a, b with
    | .num m, .num n =>
      -- an infinity or NaN leaves NaN in the difference
      let finite := match m with
        | .int _ | .rat .. | .float .. => true
        | _ => false
      finite && (if strict then m == n else m.same n)
    | .imag, .imag => true
    | .sym s, .sym t => s == t
    | .add xs, .add ys => matchAll (agrees fuel strict) xs ys
    | .mul xs, .mul ys =>
      -- the coefficient is multiplied into the sums, at the precision of each float there
      matchAll (agrees fuel strict) xs ys && sameValues (scaledNumbers a) (scaledNumbers b)
    | .pow b e, .pow c f =>
      match e, f with
      | .num m, .num _ =>
        let wholeExp := match m with
          | .int _ => true
          | _ => false
        agrees fuel (strict || !isNegativeFloat m) e f && agrees fuel (strict || !wholeExp) b c
      | _, _ => agrees fuel true b c && agrees fuel true e f
    | _, _ => false
where
  /-- Whether every item of the first list agrees with a distinct item of the second, and no
  item of the second is left over. -/
  matchAll (f : Expr → Expr → Bool) : List Expr → List Expr → Bool
    | [], ys => ys.isEmpty
    | x :: xs, ys =>
      match ys.findIdx? (f x) with
      | some i => matchAll f xs (ys.eraseIdx i)
      | none => false

end Symbolic.Expr

/-- The written form of an expression; one holding a whole number of more than
`Formula.Object.digitLimit` digits cannot be written. -/
def Symbolic.Expr.written (e : Expr) : Except Fault String :=
  if e.exceedsDigits Formula.Object.digitLimit then .error (.longInteger Formula.Object.digitLimit)
  else .ok e.text

/-- What a formula's text reads as, with `pow` and `float` standing for the classes of powers and
floats. -/
def readFormula (text : String) : Except Fault Formula.Object :=
  (Formula.read text).mapError Fault.reading

/-- The written form of what a formula's text reads as. -/
def formulaText (text : String) : Except Fault String := do
  ((← readFormula text).written).mapError Fault.reading

namespace Node

/-- The symbolic form of a literal. -/
def literalSymbolic (x : Float) : Expr :=
  if x.isNaN then .num .nan
  else if x.isInf then (if Decimal.signBit x then .num .negInf else .num .posInf)
  else
    let magnitude := Decimal.Binary.ofFloat x
    match magnitude.wholeValue? with
    | some n =>
      if n < wholeLimit then Expr.int (if Decimal.signBit x then -(n : Int) else n)
      else .num (.float (BigFloat.ofFloat x) 53)
    | none => .num (.float (BigFloat.ofFloat x) 53)

/-- The symbolic form of a tree. -/
def toSymbolic : Node → Except Fault Expr
  | .lit _ x => pure (literalSymbolic x)
  | .var _ s => pure (.sym s)
  | .bin _ op l r => do
    let o ← Operator.ofSlot op
    let a ← l.toSymbolic
    let b ← r.toSymbolic
    pure (o.symbolic a b)

/-- The difference `a - b` of two expressions: of numbers as numbers, otherwise the canonical
sum with the negation. -/
def difference (a b : Expr) : Expr :=
  match a, b with
  | .num m, .num n => .num (m.add n.negKeep)
  | _, _ => Expr.sumOf [a, Expr.negationOf b]

/-- Whether the compiled text of a tree reads back as the tree's own symbolic form: their
difference must simplify to zero. The text is compiled first, then read as a formula, then the
tree converted; the difference of what the text reads as and the tree's form is taken as the
language takes it, so a text that reads as something other than an expression fails there. The
compiled text repeats the tree's structure, so the two differ at most in their floats, which may
be read back with another precision; the difference vanishes when it is zero as it stands, or
when the two agree once simplified (`Expr.agrees`), a float zero exponent counting as no power
at all. -/
def compiledMatches (n : Node) : Except Fault Bool := do
  let text ← n.compile
  let read ← readFormula text
  let own ← n.toSymbolic
  let diff ← (Formula.Operate.binary .sub read (.expr own)).mapError Fault.reading
  match read.toExpr?, diff with
  | some parsed, .expr _ =>
    let simplified := fun (e : Expr) => if e.hasZeroFloatPower then e.dropZeroFloatPowers else e
    let (p, o) := (simplified parsed, simplified own)
    pure ((difference parsed own).isZeroNum || (difference p o).isZeroNum ||
      Expr.agrees (p.size + o.size + 1) false p o)
  | _, .expr d => pure d.isZeroNum
  | _, _ => pure false

end Node

end ExprTree
