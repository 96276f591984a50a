import ExprTree.Symbolic.Special
/-!
  Cylinder functions and their relatives: the Bessel functions of the first and second kind and
  the modified Bessel functions, the spherical Bessel function of the first kind, the Airy
  functions and their derivatives, the Mathieu functions, and the Marcum Q-function.

  Each evaluates at zero and at the infinities where its value is known, takes a sign or a
  factor `I` out of its argument at a whole order, turns a negative whole order into a positive
  one, and stays as it is elsewhere.
-/

namespace ExprTree.Symbolic

namespace Fn

open ExprTree.Symbolic.Expr

/-- Whether the real part of an expression is known positive (`some true`), known not
positive (`some false`), or neither. -/
def realPartPositive (e : Expr) : Option Bool := (realPart e).facts.positive

/-- Whether the real part of an expression is known zero, known nonzero, or neither. -/
def realPartZero (e : Expr) : Option Bool :=
  let r := realPart e
  if r.isZeroNum then some true else r.facts.zero

/-- Whether an order is a whole number known not to be zero. -/
def nonzeroWhole (nu : Expr) : Bool :=
  nu.facts.integer == some true && nu.facts.zero == some false

/-- The value at zero of a Bessel function of the first kind, plain or modified: one at order
zero, zero at a nonzero whole order or one with positive real part, the unsigned infinity at an
order with negative real part that is not known whole, and NaN at an imaginary order. -/
def firstKindAtZero (nu : Expr) : Option Expr :=
  if nu.isZeroKnown then some one
  else if nonzeroWhole nu || realPartPositive nu == some true then some zero
  else if (realPart nu).facts.negative == some true && nu.facts.integer != some true then
    some (.num .complexInf)
  else if nu.facts.imaginary == some true then some (.num .nan)
  else none

/-- The factor `z^ν (-z)^(-ν)` that moves a sign out of the argument of a Bessel function. -/
def reflectionFactor (nu z : Expr) : Expr :=
  productOf [powerOf z nu, powerOf (negationOf z) (negationOf nu)]

/-- The Bessel function of the first kind `J ν z`: its value at zero, zero at the real
infinities, a sign out of the argument by `J ν (-z) = z^ν (-z)^(-ν) J ν z`, and at a whole order
`J (-n) = (-1)^n J n` and `J n (I z) = I^n I n z`. -/
def besselJ (ev : String → List Expr → Expr) (nu z : Expr) : Expr :=
  match (if z.isZeroKnown then firstKindAtZero nu else none) with
  | some v => v
  | none =>
    if z.isInfiniteNum && z.facts.extReal == some true then zero
    else if z.couldExtractMinus then
      productOf [reflectionFactor nu z, ev "besselj" [nu, negationOf z]]
    else if nu.facts.integer == some true && nu.couldExtractMinus then
      productOf [powerOf (int (-1)) (negationOf nu), ev "besselj" [negationOf nu, z]]
    else
      match (if nu.facts.integer == some true then imagCoeff? z else none) with
      | some w => productOf [powerOf .imag nu, ev "besseli" [nu, w]]
      | none => call "besselj" [nu, z]

/-- The Bessel function of the second kind `Y ν z`: minus infinity at zero for order zero, the
unsigned infinity there for an order whose real part is not zero and NaN for one whose real part
is zero; zero at the real infinities; `Y (-n) = (-1)^n Y n` at a whole order. -/
def besselY (ev : String → List Expr → Expr) (nu z : Expr) : Expr :=
  let atZero : Option Expr :=
    if !z.isZeroKnown then none
    else if nu.isZeroKnown then some (.num .negInf)
    else
      match realPartZero nu with
      | some false => some (.num .complexInf)
      | some true => some (.num .nan)
      | none => none
  match atZero with
  | some v => v
  | none =>
    if z.isInfiniteNum && z.facts.extReal == some true then zero
    else if nu.facts.integer == some true && nu.couldExtractMinus then
      productOf [powerOf (int (-1)) (negationOf nu), ev "bessely" [negationOf nu, z]]
    else call "bessely" [nu, z]

/-- The modified Bessel function of the first kind `I ν z`: its value at zero, infinity at
infinity and `(-1)^ν ∞` at minus infinity, a sign out of the argument as for `J`, and at a whole
order `I (-n) = I n` and `I n (I z) = I^(-n) J n (-z)`. -/
def besselI (ev : String → List Expr → Expr) (nu z : Expr) : Expr :=
  match (if z.isZeroKnown then firstKindAtZero nu else none) with
  | some v => v
  | none =>
    if z.same (.num .posInf) then z
    else if z.same (.num .negInf) then productOf [powerOf (int (-1)) nu, .num .posInf]
    else if z.couldExtractMinus then
      productOf [reflectionFactor nu z, ev "besseli" [nu, negationOf z]]
    else if nu.facts.integer == some true && nu.couldExtractMinus then
      ev "besseli" [negationOf nu, z]
    else
      match (if nu.facts.integer == some true then imagCoeff? z else none) with
      | some w => productOf [powerOf .imag (negationOf nu), ev "besselj" [nu, negationOf w]]
      | none => call "besseli" [nu, z]

/-- The modified Bessel function of the second kind `K ν z`: infinity at zero for order zero,
the unsigned infinity there for an order whose real part is not zero and NaN for one whose real
part is zero; zero at infinity; `K (-n) = K n` at a whole order. -/
def besselK (ev : String → List Expr → Expr) (nu z : Expr) : Expr :=
  let atZero : Option Expr :=
    if !z.isZeroKnown then none
    else if nu.isZeroKnown then some (.num .posInf)
    else
      match realPartZero nu with
      | some false => some (.num .complexInf)
      | some true => some (.num .nan)
      | none => none
  match atZero with
  | some v => v
  | none =>
    if z.same (.num .posInf) then zero
    else if nu.facts.integer == some true && nu.couldExtractMinus then
      ev "besselk" [negationOf nu, z]
    else call "besselk" [nu, z]

/-- The spherical Bessel function of the first kind `j ν z`: one at zero for order zero, zero
there for a positive whole order and the unsigned infinity for another whole order; zero at the
real infinities. -/
def sphericalJ (nu z : Expr) : Expr :=
  let atZero : Option Expr :=
    if !z.isZeroKnown then none
    else if nu.isZeroKnown then some one
    else if nu.facts.integer == some true then
      if nu.facts.positive == some true then some zero else some (.num .complexInf)
    else none
  match atZero with
  | some v => v
  | none =>
    if z.isInfiniteNum && z.facts.extReal == some true then zero else call "jn" [nu, z]

/-- The Airy functions and their derivatives at zero and at the real infinities:
`Ai 0 = 1 / (3^(2/3) Γ(2/3))`, `Bi 0 = 1 / (3^(1/6) Γ(2/3))`, `Ai' 0 = -1 / (3^(1/3) Γ(1/3))`
and `Bi' 0 = 3^(1/6) / Γ(1/3)`; `Ai` and `Ai'` vanish at infinity, `Bi` and `Bi'` grow to
infinity there, and all but `Ai'` vanish at minus infinity. NaN stays NaN. -/
def airy (name : String) (z : Expr) : Expr :=
  let gammaOf := fun (p q : Int) => gamma (frac p q)
  let inv := fun (e : Expr) => powerOf e (int (-1))
  if z.isNaN then .num .nan
  else if z.isZeroKnown then
    match name with
    | "airyai" => inv (productOf [powerOf (int 3) (frac 2 3), gammaOf 2 3])
    | "airybi" => inv (productOf [powerOf (int 3) (frac 1 6), gammaOf 2 3])
    | "airyaiprime" => negationOf (inv (productOf [powerOf (int 3) (frac 1 3), gammaOf 1 3]))
    | _ => productOf [powerOf (int 3) (frac 1 6), inv (gammaOf 1 3)]
  else if z.same (.num .posInf) then
    if name == "airyai" || name == "airyaiprime" then zero else z
  else if z.same (.num .negInf) && name != "airyaiprime" then zero
  else call name [z]

/-- The Mathieu functions `S`, `C` and their derivatives at parameters `a`, `q` and argument
`z`: at `q = 0` they are `sin (√a z)`, `cos (√a z)`, `√a cos (√a z)` and `-√a sin (√a z)`;
a sign comes out of the argument, oddly for `S` and `C'` and evenly for `C` and `S'`. -/
def mathieu (ev : String → List Expr → Expr) (name : String) (a q z : Expr) : Expr :=
  let root := powerOf a (frac 1 2)
  let angle := productOf [root, z]
  if q.isZeroNum then
    match name with
    | "mathieus" => ev "sin" [angle]
    | "mathieuc" => ev "cos" [angle]
    | "mathieusprime" => productOf [root, ev "cos" [angle]]
    | _ => negationOf (productOf [root, ev "sin" [angle]])
  else if z.couldExtractMinus then
    let inner := ev name [a, q, negationOf z]
    if name == "mathieus" || name == "mathieucprime" then negationOf inner else inner
  else call name [a, q, z]

/-- The Marcum Q-function `Q m a b`: zero when `m`, `a` and `b` are all zero,
`Γ(m, b²/2) / Γ(m)` when `a` is zero, `1 - e^(-a²/2)` when `m` and `b` are zero, and for `a = b`
at `m = 1` and `m = 2` its closed forms in the modified Bessel functions. -/
def marcumQ (ev : String → List Expr → Expr) (args : List Expr) : Expr :=
  match args with
  | [m, a, b] =>
    let halfSquare := fun (v : Expr) => productOf [frac 1 2, powerOf v (int 2)]
    if a.isZeroNum || a.isZeroKnown then
      if m.isZeroNum && b.isZeroNum then zero
      else productOf [ev "uppergamma" [m, halfSquare b], powerOf (ev "gamma" [m]) (int (-1))]
    else if m.isZeroNum && b.isZeroNum then
      sumOf [one, negationOf (powerOf (ev "exp" [halfSquare a]) (int (-1)))]
    else if a.same b && (m.isInt 1 || m.isInt 2) then
      let sq := powerOf a (int 2)
      let damp := ev "exp" [negationOf sq]
      if m.isInt 1 then
        productOf [frac 1 2, sumOf [one, productOf [damp, ev "besseli" [zero, sq]]]]
      else
        sumOf [frac 1 2, productOf [frac 1 2, damp, ev "besseli" [zero, sq]],
          productOf [damp, ev "besseli" [one, sq]]]
    else call "marcumq" args
  | _ => call "marcumq" args

end Fn

end ExprTree.Symbolic
