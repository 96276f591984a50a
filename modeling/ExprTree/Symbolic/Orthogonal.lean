import ExprTree.Symbolic.Special
/-!
  Orthogonal polynomials: the Chebyshev polynomials of both kinds and their roots, the Legendre
  and associated Legendre polynomials, the Hermite polynomials in both normalizations, the
  Laguerre and associated Laguerre polynomials, the Gegenbauer and Jacobi polynomials, and the
  spherical harmonics `Y n m` and their real form `Z n m`.

  At a whole-number degree each is its polynomial, built from its three-term recurrence on exact
  coefficient lists (lowest coefficient first) and then taken at the argument. At a symbolic
  degree the rules take out a sign of the argument or of the degree and give the values at zero,
  one and infinity; elsewhere the polynomial stays as it is. The parameters of the Gegenbauer,
  Jacobi and associated Laguerre polynomials are evaluated when they are exact numbers.
-/

namespace ExprTree.Symbolic

namespace Fn

open ExprTree.Symbolic.Expr

/-! ### Coefficient lists -/

/-- The sum of two polynomials given by their coefficients. -/
def polyAdd (a b : List Num) : List Num :=
  (List.range (max a.length b.length)).map fun i => Num.add (a.getD i (.int 0)) (b.getD i (.int 0))

/-- A polynomial times a number. -/
def polyScale (c : Num) (a : List Num) : List Num := a.map (Num.mul c)

/-- The difference of two polynomials. -/
def polySub (a b : List Num) : List Num := polyAdd a (polyScale (.int (-1)) b)

/-- A polynomial times `x`. -/
def polyShift (a : List Num) : List Num := .int 0 :: a

/-- The derivative of a polynomial. -/
def polyDerivative (a : List Num) : List Num :=
  (a.zipIdx.drop 1).map fun (c, i) => Num.mul (.int i) c

/-- The `m`-th derivative of a polynomial. -/
def polyDerivativeN (a : List Num) (m : Nat) : List Num :=
  (List.range m).foldl (fun p _ => polyDerivative p) a

/-- The polynomials of a three-term recurrence at index `n`: `first` and `second` at zero and
one, and `step k (p (k-1)) (p (k-2))` at each `k ≥ 2`. -/
def recurrence (first second : List Num) (step : Nat → List Num → List Num → List Num)
    (n : Nat) : List Num :=
  if n = 0 then first
  else
    ((List.range (n - 1)).foldl (fun (st : List Num × List Num) i =>
      let (prev, cur) := st
      (cur, step (i + 2) cur prev)) (first, second)).2

/-- The fraction `p/q` as an exact number. -/
def ratio (p q : Int) : Num := Num.ofFraction p q

/-- The Chebyshev polynomial of the first kind, `T k = 2x T (k-1) - T (k-2)`. -/
def chebyshevFirstCoeffs (n : Nat) : List Num :=
  recurrence [.int 1] [.int 0, .int 1] (fun _ c p => polySub (polyScale (.int 2) (polyShift c)) p) n

/-- The Chebyshev polynomial of the second kind, `U 1 = 2x` and the same recurrence. -/
def chebyshevSecondCoeffs (n : Nat) : List Num :=
  recurrence [.int 1] [.int 0, .int 2] (fun _ c p => polySub (polyScale (.int 2) (polyShift c)) p) n

/-- The Legendre polynomial, `k P k = (2k-1) x P (k-1) - (k-1) P (k-2)`. -/
def legendreCoeffs (n : Nat) : List Num :=
  recurrence [.int 1] [.int 0, .int 1] (fun k c p =>
    polySub (polyScale (ratio (2 * k - 1) k) (polyShift c)) (polyScale (ratio (k - 1) k) p)) n

/-- The Hermite polynomial, `H k = 2 (x H (k-1) - (k-1) H (k-2))`. -/
def hermiteCoeffs (n : Nat) : List Num :=
  recurrence [.int 1] [.int 0, .int 2] (fun k c p =>
    polyScale (.int 2) (polySub (polyShift c) (polyScale (.int (k - 1)) p))) n

/-- The probabilists' Hermite polynomial, `He k = x He (k-1) - (k-1) He (k-2)`. -/
def hermiteProbCoeffs (n : Nat) : List Num :=
  recurrence [.int 1] [.int 0, .int 1] (fun k c p =>
    polySub (polyShift c) (polyScale (.int (k - 1)) p)) n

/-- The associated Laguerre polynomial of parameter `α`:
`L k = ((α-1)/k + 2 - x/k) L (k-1) - ((α-1)/k + 1) L (k-2)`, with `L 1 = α + 1 - x`. -/
def laguerreCoeffs (alpha : Num) (n : Nat) : List Num :=
  let am1 := Num.add alpha (.int (-1))
  recurrence [.int 1] [Num.add alpha (.int 1), .int (-1)] (fun k c p =>
    let «over» := Num.div am1 (.int k)
    polySub
      (polyAdd (polyScale (Num.add «over» (.int 2)) c) (polyScale (ratio (-1) k) (polyShift c)))
      (polyScale (Num.add «over» (.int 1)) p)) n

/-- The Gegenbauer polynomial of parameter `a`: `C 1 = 2a x` and
`C k = (2(a-1)/k + 2) x C (k-1) - (2(a-1)/k + 1) C (k-2)`. -/
def gegenbauerCoeffs (a : Num) (n : Nat) : List Num :=
  let twoAm1 := Num.mul (.int 2) (Num.add a (.int (-1)))
  recurrence [.int 1] [.int 0, Num.mul (.int 2) a] (fun k c p =>
    let «over» := Num.div twoAm1 (.int k)
    polySub (polyScale (Num.add «over» (.int 2)) (polyShift c)) (polyScale (Num.add «over» (.int 1)) p)) n

/-- The Jacobi polynomial of parameters `a` and `b`, by its three-term recurrence from
`P 1 = ((a+b)/2 + 1) x + (a-b)/2`. -/
def jacobiCoeffs (a b : Num) (n : Nat) : List Num :=
  let ab := Num.add a b
  let half := ratio 1 2
  recurrence [.int 1] [Num.mul half (Num.add a (Num.neg b)), Num.add (Num.mul half ab) (.int 1)]
    (fun k c p =>
      let s := fun (j : Int) => Num.add ab (.int (2 * k + j))
      let den := Num.mul (.int k) (Num.mul (Num.add ab (.int k)) (s (-2)))
      let f0 := Num.div (Num.mul (s (-1)) (Num.add (Num.mul a a) (Num.neg (Num.mul b b))))
        (Num.mul (.int 2) den)
      let f1 := Num.div (Num.mul (s (-1)) (Num.mul (s (-2)) (s 0))) (Num.mul (.int 2) den)
      let f2 := Num.div (Num.mul (Num.add a (.int (k - 1)))
        (Num.mul (Num.add b (.int (k - 1))) (s 0))) den
      polySub (polyAdd (polyScale f0 c) (polyScale f1 (polyShift c))) (polyScale f2 p)) n

/-! ### The polynomials as functions -/

/-- The exact number an expression is, if it is an integer or a fraction. -/
def exactArg? : Expr → Option Num
  | .num (.int k) => some (.int k)
  | .num (.rat p q) => some (.rat p q)
  | _ => none

/-- The degree a numeric index stands for when the polynomial is built: a whole number as it
is, a fraction cut to its whole part. -/
def wholeDegree? : Expr → Option Int
  | .num (.int k) => some k
  | .num (.rat p q) => some (p.tdiv q)
  | _ => none

/-- The sign factor `(-1)^n`. -/
def signPower (n : Expr) : Expr := powerOf (int (-1)) n

/-- Whether the argument is the positive infinity. -/
def isPosInf (x : Expr) : Bool := x.same (.num .posInf)

/-- The Chebyshev polynomials of the first kind: `T (-n) = T n` at a whole degree; at a
symbolic degree `T n (-x) = (-1)^n T n x`, `T (-n) = T n`, `cos (π n / 2)` at zero, one at one
and infinity at infinity. -/
def chebyshevT (ev : String → List Expr → Expr) (n x : Expr) : Expr :=
  match n with
  | .num (.int k) => polynomialAtNum (chebyshevFirstCoeffs k.natAbs) x
  | .num _ => call "chebyshevt" [n, x]
  | _ =>
    if x.couldExtractMinus then productOf [signPower n, ev "chebyshevt" [n, negationOf x]]
    else if n.couldExtractMinus then ev "chebyshevt" [negationOf n, x]
    else if x.isZeroKnown then ev "cos" [productOf [frac 1 2, .const .pi, n]]
    else if x.isInt 1 then one
    else if isPosInf x then x
    else call "chebyshevt" [n, x]

/-- The Chebyshev polynomials of the second kind: `U (-1) = 0` and `U (-n) = -U (n-2)` at a
whole degree; at a symbolic degree the sign rules, `cos (π n / 2)` at zero, `n + 1` at one and
infinity at infinity. -/
def chebyshevU (ev : String → List Expr → Expr) (n x : Expr) : Expr :=
  match n with
  | .num (.int k) =>
    if k = -1 then zero
    else if k < -1 then negationOf (polynomialAtNum (chebyshevSecondCoeffs (-k - 2).toNat) x)
    else polynomialAtNum (chebyshevSecondCoeffs k.toNat) x
  | .num _ => call "chebyshevu" [n, x]
  | _ =>
    if x.couldExtractMinus then productOf [signPower n, ev "chebyshevu" [n, negationOf x]]
    else if n.couldExtractMinus && !(sumOf [negationOf n, int (-2)]).couldExtractMinus then
      negationOf (ev "chebyshevu" [sumOf [negationOf n, int (-2)], x])
    else if x.isZeroKnown then ev "cos" [productOf [frac 1 2, .const .pi, n]]
    else if x.isInt 1 then sumOf [one, n]
    else if isPosInf x then x
    else call "chebyshevu" [n, x]

/-- The roots `cos (π (2k+1) / (2n))` of the Chebyshev polynomials of the first kind, or
`cos (π (k+1) / (n+1))` of the second kind when `second`, for `0 ≤ k < n`. -/
def chebyshevRoot (ev : String → List Expr → Expr) (second : Bool) (n k : Expr) :
    Except Refusal Expr := do
  let undecided : Refusal := .kind "cannot determine truth value of Relational"
  match Expr.decideGe k zero with
  | some false => throw (.domain (rootMessage k n))
  | none => throw undecided
  | some true =>
    match Expr.decideGe k n with
    | some true => throw (.domain (rootMessage k n))
    | none => throw undecided
    | some false => pure ()
  if second then
    return ev "cos" [productOf [.const .pi, sumOf [k, one], powerOf (sumOf [n, one]) (int (-1))]]
  else
    return ev "cos" [productOf [.const .pi, sumOf [productOf [int 2, k], one],
      powerOf (productOf [int 2, n]) (int (-1))]]
where
  /-- The message for a root index out of range. -/
  rootMessage (k n : Expr) : String :=
    "must have 0 <= k < n, got k = " ++ k.text ++ " and n = " ++ n.text

/-- The Legendre polynomials: `P (-n) = P (n-1)` at a whole degree; at a symbolic degree the
sign rules, `√π / (Γ(1/2 - n/2) Γ(1 + n/2))` at zero, one at one and infinity at infinity. -/
def legendre (ev : String → List Expr → Expr) (n x : Expr) : Expr :=
  match n with
  | .num (.int k) => polynomialAtNum (legendreCoeffs (if k < 0 then (-k - 1).toNat else k.toNat)) x
  | .num _ => call "legendre" [n, x]
  | _ =>
    let down := sumOf [negationOf n, int (-1)]
    if x.couldExtractMinus then productOf [signPower n, ev "legendre" [n, negationOf x]]
    else if n.couldExtractMinus && !down.couldExtractMinus then ev "legendre" [down, x]
    else if x.isZeroKnown then
      productOf [sqrtPi, powerOf (productOf [
        ev "gamma" [sumOf [frac 1 2, productOf [frac (-1) 2, n]]],
        ev "gamma" [sumOf [one, productOf [frac 1 2, n]]]]) (int (-1))]
    else if x.isInt 1 then one
    else if isPosInf x then x
    else call "legendre" [n, x]

/-- The associated Legendre functions `P n m`: a negative order by
`P n (-m) = (-1)^m (n-m)!/(n+m)! P n m`, the Legendre polynomial at order zero, a quotient of
gamma values at zero, and at whole `n ≥ |m|` the function
`(-1)^m (1 - x²)^(m/2) (d/dx)^m P n`. A negative degree or an order above it is refused. -/
def assocLegendre (ev : String → List Expr → Expr) (n m x : Expr) : Except Refusal Expr := do
  if m.couldExtractMinus then
    let mm := negationOf m
    return productOf [powerOf (int (-1)) mm,
      ev "factorial" [sumOf [m, n]], powerOf (ev "factorial" [sumOf [n, mm]]) (int (-1)),
      ev "assoc_legendre" [n, mm, x]]
  if m.isZeroKnown then return ev "legendre" [n, x]
  if x.isZeroKnown then
    return productOf [powerOf (int 2) m, sqrtPi, powerOf (productOf [
      ev "gamma" [productOf [frac 1 2, sumOf [one, negationOf m, negationOf n]]],
      ev "gamma" [sumOf [one, productOf [frac (-1) 2, sumOf [m, negationOf n]]]]]) (int (-1))]
  match n, m with
  | .num (.int a), .num (.int b) =>
    if a < 0 then
      throw (.domain ("assoc_legendre : 1st index must be nonnegative integer (got " ++
        toString a ++ ")"))
    if b.natAbs > a.natAbs then
      throw (.domain ("assoc_legendre : abs(\x272nd index\x27) must be <= \x271st index\x27 (got " ++
        toString a ++ ", " ++ toString b ++ ")"))
    let order := b.natAbs
    let p := polyDerivativeN (legendreCoeffs a.toNat) order
    return productOf [powerOf (int (-1)) (int order),
      powerOf (sumOf [one, negationOf (powerOf x (int 2))]) (frac order 2),
      polynomialAtNum p x]
  | _, _ => return call "assoc_legendre" [n, m, x]

/-- The Hermite polynomials: refused at a negative whole degree; at a symbolic degree the sign
rule, `2^n √π / Γ((1-n)/2)` at zero and infinity at infinity. -/
def hermite (ev : String → List Expr → Expr) (n x : Expr) : Except Refusal Expr :=
  match n with
  | .num (.int k) =>
    if k < 0 then .error (.domain ("The index n must be nonnegative integer (got " ++
      toString k ++ ")"))
    else .ok (polynomialAtNum (hermiteCoeffs k.toNat) x)
  | .num _ => .ok (call "hermite" [n, x])
  | _ =>
    if x.couldExtractMinus then .ok (productOf [signPower n, ev "hermite" [n, negationOf x]])
    else if x.isZeroKnown then
      .ok (productOf [powerOf (int 2) n, sqrtPi,
        powerOf (ev "gamma" [productOf [frac 1 2, sumOf [one, negationOf n]]]) (int (-1))])
    else if isPosInf x then .ok x
    else .ok (call "hermite" [n, x])

/-- The probabilists' Hermite polynomials: a negative whole degree stays as it is; at a
symbolic degree the sign rule, `√π / Γ((1-n)/2)` at zero and infinity at infinity. -/
def hermiteProb (ev : String → List Expr → Expr) (n x : Expr) : Expr :=
  match n with
  | .num (.int k) =>
    if k < 0 then call "hermite_prob" [n, x] else polynomialAtNum (hermiteProbCoeffs k.toNat) x
  | .num _ => call "hermite_prob" [n, x]
  | _ =>
    if x.couldExtractMinus then productOf [signPower n, ev "hermite_prob" [n, negationOf x]]
    else if x.isZeroKnown then
      productOf [sqrtPi, powerOf (ev "gamma" [productOf [frac 1 2, sumOf [one, negationOf n]]])
        (int (-1))]
    else if isPosInf x then x
    else call "hermite_prob" [n, x]

/-- The Laguerre polynomials: refused at a degree known not to be whole;
`L (-n) x = e^x L (n-1) (-x)`; at a symbolic degree one at zero, infinity at minus infinity and
`(-1)^n ∞` at infinity. -/
def laguerre (ev : String → List Expr → Expr) (n x : Expr) : Except Refusal Expr :=
  if n.facts.integer == some false then .error (.domain "Error: n should be an integer.")
  else
    match n with
    | .num (.int k) =>
      if k < 0 then .ok (productOf [ev "exp" [x], ev "laguerre" [int (-k - 1), negationOf x]])
      else .ok (polynomialAtNum (laguerreCoeffs (.int 0) k.toNat) x)
    | .num _ => .ok (call "laguerre" [n, x])
    | _ =>
      let down := sumOf [negationOf n, int (-1)]
      if n.couldExtractMinus && !down.couldExtractMinus then
        .ok (productOf [ev "exp" [x], ev "laguerre" [down, negationOf x]])
      else if x.isZeroKnown then .ok one
      else if x.same (.num .negInf) then .ok (.num .posInf)
      else if isPosInf x then .ok (productOf [signPower n, x])
      else .ok (call "laguerre" [n, x])

/-- The associated Laguerre polynomials: the Laguerre polynomial at parameter zero, refused at
a negative whole degree, the polynomial at a whole degree and an exact parameter, and at a
symbolic degree `binomial(n + α, α)` at zero. -/
def assocLaguerre (ev : String → List Expr → Expr) (n alpha x : Expr) : Except Refusal Expr :=
  if alpha.isZeroKnown then .ok (ev "laguerre" [n, x])
  else
    match n with
    | .num (.int k) =>
      if k < 0 then .error (.domain ("The index n must be nonnegative integer (got " ++
        toString k ++ ")"))
      else
        match exactArg? alpha with
        | some a => .ok (polynomialAtNum (laguerreCoeffs a k.toNat) x)
        | none => .ok (call "assoc_laguerre" [n, alpha, x])
    | .num _ => .ok (call "assoc_laguerre" [n, alpha, x])
    | _ =>
      if x.isZeroKnown then .ok (ev "binomial" [sumOf [n, alpha], alpha])
      else .ok (call "assoc_laguerre" [n, alpha, x])

/-- The Gegenbauer polynomials: zero at a negative degree and at parameter minus one, the
Legendre and Chebyshev polynomials at parameters one half and one, the polynomial at a numeric
degree and an exact parameter, and at a symbolic degree the sign rule and the values at zero,
one and minus one. -/
def gegenbauer (ev : String → List Expr → Expr) (n a x : Expr) : Except Refusal Expr := do
  if n.facts.negative == some true then return zero
  if a.same (frac 1 2) then return ev "legendre" [n, x]
  if a.isInt 1 then return ev "chebyshevu" [n, x]
  if a.isInt (-1) then return zero
  match n with
  | .num _ =>
    match wholeDegree? n, exactArg? a with
    | some k, some av => return polynomialAtNum (gegenbauerCoeffs av k.toNat) x
    | _, _ => return call "gegenbauer" [n, a, x]
  | _ =>
    let twoA := productOf [int 2, a]
    if x.isInt (-1) then
      return call "gegenbauer" [n, a, x]
    if x.couldExtractMinus then
      return productOf [signPower n, ev "gegenbauer" [n, a, negationOf x]]
    if x.isZeroKnown then
      return productOf [powerOf (int 2) n, sqrtPi,
        ev "gamma" [sumOf [a, productOf [frac 1 2, n]]],
        powerOf (productOf [ev "gamma" [productOf [frac 1 2, sumOf [one, negationOf n]]],
          ev "gamma" [sumOf [n, one]], ev "gamma" [a]]) (int (-1))]
    if x.isInt 1 then
      return productOf [ev "gamma" [sumOf [twoA, n]],
        powerOf (productOf [ev "gamma" [twoA], ev "gamma" [sumOf [n, one]]]) (int (-1))]
    return call "gegenbauer" [n, a, x]

/-- The Jacobi polynomials: with equal parameters the Chebyshev, Legendre or Gegenbauer
polynomial times a ratio of rising factorials, with opposite parameters an associated Legendre
function times powers of `1 + x` and `1 - x`; the polynomial at a numeric degree and exact
parameters; at a symbolic degree the sign rule and the value `(a+1)_n / n!` at one. -/
def jacobi (ev : String → List Expr → Expr) (n a b x : Expr) : Except Refusal Expr := do
  if a.same b then
    if a.same (frac (-1) 2) then
      return productOf [ev "RisingFactorial" [frac 1 2, n],
        powerOf (ev "factorial" [n]) (int (-1)), ev "chebyshevt" [n, x]]
    if a.isZeroKnown then return ev "legendre" [n, x]
    if a.same (frac 1 2) then
      return productOf [ev "RisingFactorial" [frac 3 2, n],
        powerOf (ev "factorial" [sumOf [n, one]]) (int (-1)), ev "chebyshevu" [n, x]]
    return productOf [ev "RisingFactorial" [sumOf [a, one], n],
      powerOf (ev "RisingFactorial" [sumOf [productOf [int 2, a], one], n]) (int (-1)),
      ev "gegenbauer" [n, sumOf [a, frac 1 2], x]]
  if b.same (negationOf a) then
    let half := productOf [frac 1 2, a]
    return productOf [ev "gamma" [sumOf [n, a, one]], powerOf (ev "gamma" [sumOf [n, one]]) (int (-1)),
      powerOf (sumOf [one, x]) half, powerOf (powerOf (sumOf [one, negationOf x]) half) (int (-1)),
      ev "assoc_legendre" [n, negationOf a, x]]
  match n with
  | .num _ =>
    match wholeDegree? n, exactArg? a, exactArg? b with
    | some k, some av, some bv =>
      if k < 0 then
        throw (.domain ("Cannot generate Jacobi polynomial of degree " ++ toString k))
      return polynomialAtNum (jacobiCoeffs av bv k.toNat) x
    | _, _, _ => return call "jacobi" [n, a, b, x]
  | _ =>
    if x.couldExtractMinus then
      return productOf [signPower n, ev "jacobi" [n, b, a, negationOf x]]
    if x.isInt 1 then
      return productOf [ev "RisingFactorial" [sumOf [a, one], n],
        powerOf (ev "factorial" [n]) (int (-1))]
    return call "jacobi" [n, a, b, x]

/-- The spherical harmonics `Y n m θ φ`: a negative order by
`Y n (-m) = (-1)^m e^(-2Imφ) Y n m`, the polar angle by `Y n m (-θ) = Y n m θ`, and the
azimuth by `Y n m θ (-φ) = e^(-2Imφ) Y n m θ φ`. -/
def sphericalHarmonic (ev : String → List Expr → Expr) (n m theta phi : Expr) : Expr :=
  let turn := fun (k angle : Expr) => ev "exp" [productOf [int (-2), .imag, k, angle]]
  if m.couldExtractMinus then
    let k := negationOf m
    productOf [signPower k, turn k phi, ev "Ynm" [n, k, theta, phi]]
  else if theta.couldExtractMinus then ev "Ynm" [n, m, negationOf theta, phi]
  else if phi.couldExtractMinus then
    let a := negationOf phi
    productOf [turn m a, ev "Ynm" [n, m, theta, a]]
  else call "Ynm" [n, m, theta, phi]

/-- The conjugate of a spherical harmonic, by `conj (Y n m) = (-1)^m Y n (-m)`, factor by
factor over a product and by the general rules elsewhere. -/
def sphericalHarmonicConjugate (ev : String → List Expr → Expr) (n m theta phi : Expr) : Expr :=
  let single := fun (e : Expr) =>
    match e.appOf? "Ynm" with
    | some [n', m', t', p'] => productOf [signPower m', ev "Ynm" [n', negationOf m', t', p']]
    | _ => conjugate e
  match ev "Ynm" [n, m, theta, phi] with
  | .mul xs => productOf (xs.map single)
  | y => single y

/-- The real spherical harmonics: `(Y + conj Y) / √2` at a positive order, `Y` at order zero
and `(Y - conj Y) / (√2 I)` at a negative order. -/
def realSphericalHarmonic (ev : String → List Expr → Expr) (n m theta phi : Expr) : Expr :=
  let y := ev "Ynm" [n, m, theta, phi]
  let yc := sphericalHarmonicConjugate ev n m theta phi
  let root2 := powerOf (int 2) (frac 1 2)
  if m.facts.finitePositive == some true then
    productOf [sumOf [y, yc], powerOf root2 (int (-1))]
  else if m.isZeroKnown then y
  else if m.facts.finiteNegative == some true then
    productOf [sumOf [y, negationOf yc], powerOf (productOf [root2, .imag]) (int (-1))]
  else call "Znm" [n, m, theta, phi]

end Fn

end ExprTree.Symbolic
