import ExprTree.Symbolic.Special
/-!
  Incomplete integrals: the lower and upper incomplete gamma functions, the generalized
  exponential integral `E ν z`, the multivariate gamma function, and the error function between
  two points with its inverse.

  The incomplete gamma functions have closed forms at whole and at half-odd first arguments,
  in the exponential, the error functions and the exponential integral; the exponential
  integral of a whole order at most zero or of a half-odd order is the upper incomplete gamma
  function with its products multiplied out. Elsewhere each stays as it is.
-/

namespace ExprTree.Symbolic

namespace Fn

open ExprTree.Symbolic.Expr

/-- The difference `a - b`. -/
def difference (a b : Expr) : Expr := sumOf [a, negationOf b]

/-- An expression with its products of sums multiplied out, at every depth that `fuel`
reaches: each product whose factors include sums becomes the sum of the products of one term
of each. A power of a sum is not multiplied out. -/
def distributeProducts : Nat → Expr → Expr
  | 0, e => e
  | fuel + 1, e =>
    match e with
    | .add xs => sumOf (xs.map (distributeProducts fuel))
    | .mul xs =>
      let ys := xs.map (distributeProducts fuel)
      if ys.any (fun y => (y matches .add _)) then
        let terms := ys.foldl (fun (acc : List (List Expr)) y =>
          match y with
          | .add zs => acc.flatMap fun t => zs.map fun z => t ++ [z]
          | _ => acc.map fun t => t ++ [y]) [[]]
        sumOf (terms.map fun t => distributeProducts fuel (productOf t))
      else productOf ys
    | .pow b x => powerOf (distributeProducts fuel b) (distributeProducts fuel x)
    | _ => e

/-- The sum `Σ_{k<n} x^k / k!`. -/
def expPartialSum (n : Nat) (x : Expr) : Expr :=
  sumOf ((List.range n).map fun (k : Nat) => productOf [powerOf x (int k), reciprocal (factorial (int k))])

/-- The lower incomplete gamma function `γ(a, x)`: zero at `x = 0`; `1 - e^(-x)` at `a = 1`;
`√π erf √x` at `a = 1/2`; at a whole `a ≥ 2` the value `(a-1)! (1 - e^(-x) Σ_{k<a} x^k/k!)`;
at a half-odd `a > 1` one through `γ(1/2, x)`; and at a negative half-odd `a` one through
`erf √x` and a finite sum. -/
def lowerGamma (ev : String → List Expr → Expr) (a x : Expr) : Expr :=
  let stay := call "lowergamma" [a, x]
  if x.isInt 0 then zero
  else
    let damp := ev "exp" [negationOf x]
    let rootX := powerOf x (frac 1 2)
    match a with
    | .num (.int 1) => sumOf [one, negationOf damp]
    | .num (.rat 1 2) => productOf [sqrtPi, ev "erf" [rootX]]
    | .num (.int k) =>
      if k ≥ 2 then
        let f := factorial (int (k - 1))
        sumOf [f, negationOf (productOf [damp, f, expPartialSum k.toNat x])]
      else if x.isZeroKnown then zero else stay
    | .num (.rat p 2) =>
      if p > 0 then
        let terms := (List.range ((p.toNat + 1) / 2 - 1)).map fun (i : Nat) =>
          let k : Int := i + 1
          productOf [powerOf x (sumOf [int k, frac (-1) 2]),
            reciprocal (gammaFunction (sumOf [int k, frac 1 2]))]
        productOf [gammaFunction a, sumOf [
          productOf [ev "lowergamma" [frac 1 2, x], reciprocal sqrtPi],
          negationOf (productOf [damp, sumOf terms])]]
      else
        let count := (3 - p) / 2
        let terms := (List.range (count.toNat - 1)).map fun (i : Nat) =>
          let k : Int := i + 1
          productOf [powerOf x (sumOf [int k, a, int (-1)]), gammaFunction a,
            reciprocal (gammaFunction (sumOf [int k, a]))]
        sumOf [productOf [powerOf (int (-1)) (difference (frac 1 2) a), .const .pi,
            ev "erf" [rootX], reciprocal (gammaFunction (difference one a))],
          productOf [damp, sumOf terms]]
    | _ => if x.isZeroKnown then zero else stay

/-- The upper incomplete gamma function `Γ(a, z)`: NaN at NaN, zero at infinity, `Γ(a)` at
zero when the real part of `a` is positive; `-Ei(-z)` at `a = 0` for positive `z`, `e^(-z)` at
`a = 1`, `√π erfc √z` at `a = 1/2`; at a whole `a ≥ 2` the value
`e^(-z) (a-1)! Σ_{k<a} z^k/k!`; at a whole `a ≤ 0` the exponential integral
`E (1-a) z · z^(a-1)`; and at half-odd `a` closed forms in `erfc √z`. -/
def upperGamma (ev : String → List Expr → Expr) (a z : Expr) : Expr :=
  let stay := call "uppergamma" [a, z]
  let atZero := z.isZeroKnown && realPartPositiveOf a
  if z.isNaN then .num .nan
  else if z.same (.num .posInf) then zero
  else if z.isNumber && z.isZeroNum && realPartPositiveOf a then gammaFunction a
  else
    let damp := ev "exp" [negationOf z]
    let rootZ := powerOf z (frac 1 2)
    match a with
    | .num (.int 0) =>
      if z.facts.positive == some true then negationOf (ev "Ei" [negationOf z])
      else ev "expint" [one, z]
    | .num (.int 1) => damp
    | .num (.rat 1 2) => productOf [sqrtPi, ev "erfc" [rootZ]]
    | .num (.int k) =>
      if k ≥ 2 then productOf [damp, factorial (int (k - 1)), expPartialSum k.toNat z]
      else productOf [ev "expint" [int (1 - k), z], powerOf z (int k)]
    | .num (.rat p 2) =>
      if p > 0 then
        let terms := (List.range ((p.toNat - 1) / 2)).map fun (k : Nat) =>
          productOf [gammaFunction (sumOf [frac (-1) 2, int (-(k : Int))]),
            powerOf (negationOf z) (int k), reciprocal (gammaFunction (difference one a))]
        sumOf [productOf [gammaFunction a, ev "erfc" [rootZ]],
          productOf [powerOf (int (-1)) (sumOf [a, frac (-3) 2]), damp, rootZ, sumOf terms]]
      else
        let terms := (List.range ((1 - p).toNat / 2)).map fun (k : Nat) =>
          productOf [powerOf z (int k), gammaFunction a,
            reciprocal (gammaFunction (sumOf [a, int k, one]))]
        sumOf [productOf [powerOf (int (-1)) (difference (frac 1 2) a), .const .pi,
            ev "erfc" [rootZ], reciprocal (gammaFunction (difference one a))],
          negationOf (productOf [powerOf z a, damp, sumOf terms])]
    | _ => if atZero then gammaFunction a else stay
where
  /-- Whether the real part of the first argument is known positive. -/
  realPartPositiveOf (a : Expr) : Bool := (realPart a).facts.positive == some true

/-- The generalized exponential integral `E ν z`: at a whole order at most zero or a half-odd
order it is `z^(ν-1) Γ(1-ν, z)` with its products multiplied out; elsewhere it stays. -/
def expint (ev : String → List Expr → Expr) (nu z : Expr) : Expr :=
  let closed : Bool := match nu with
    | .num (.int k) => decide (k ≤ 0)
    | .num (.rat _ 2) => true
    | _ => false
  if closed then
    distributeProducts 16
      (productOf [powerOf z (sumOf [nu, int (-1)]), ev "uppergamma" [difference one nu, z]])
  else call "expint" [nu, z]

/-- The multivariate gamma function `Γ_p(x) = π^(p(p-1)/4) Π_{k=1..p} Γ(x + (1-k)/2)`; an order
that is not a positive whole number is refused. -/
def multigamma (ev : String → List Expr → Expr) (x p : Expr) : Except Refusal Expr :=
  match p with
  | .num (.int k) =>
    if k ≤ 0 then .error (.domain "Order parameter p must be positive integer.")
    else
      let factors := (List.range k.toNat).map fun (i : Nat) =>
        ev "gamma" [sumOf [x, frac (-(i : Int)) 2]]
      .ok (productOf (powerOf (.const .pi) (frac (k * (k - 1)) 4) :: factors))
  | _ => .error (.domain "Order parameter p must be positive integer.")

/-- The error function between two points, `erf y - erf x`: NaN at NaN, zero for equal points,
the difference when a point is zero or a real infinity or when exactly one point carries a
minus sign, and `-erf2(-x, -y)` when both do. -/
def erfBetween (ev : String → List Expr → Expr) (x y : Expr) : Expr :=
  let diff := sumOf [ev "erf" [y], negationOf (ev "erf" [x])]
  let edge := fun (e : Expr) => e.isZeroKnown || (e.isInfiniteNum && e.facts.extReal == some true)
  if x.isNaN || y.isNaN then .num .nan
  else if x.same y then zero
  else if edge x || edge y then diff
  else
    match y.appOf? "erf2inv" with
    | some [w, v] => if w.same x then v else call "erf2" [x, y]
    | _ =>
      let sx := x.couldExtractMinus
      let sy := y.couldExtractMinus
      if sx && sy then negationOf (ev "erf2" [negationOf x, negationOf y])
      else if sx || sy then diff
      else call "erf2" [x, y]

/-- The inverse of the error function between two points, the `w` with
`erf w - erf x = y`: NaN at NaN, zero at two zeros, infinity at `(0, 1)`, one at `(1, 0)`,
`erfinv y` at `x = 0`, `erfcinv (-y)` at `x = ∞`, `x` at `y = 0` and `erfinv x` at `y = ∞`. -/
def erfBetweenInverse (ev : String → List Expr → Expr) (x y : Expr) : Expr :=
  if x.isNaN || y.isNaN then .num .nan
  else if x.isZeroKnown && y.isZeroKnown then zero
  else if x.isZeroKnown && y.isInt 1 then .num .posInf
  else if x.isInt 1 && y.isZeroKnown then one
  else if x.isZeroKnown then ev "erfinv" [y]
  else if x.same (.num .posInf) then ev "erfcinv" [negationOf y]
  else if y.isZeroKnown then x
  else if y.same (.num .posInf) then ev "erfinv" [x]
  else call "erf2inv" [x, y]

end Fn

end ExprTree.Symbolic
