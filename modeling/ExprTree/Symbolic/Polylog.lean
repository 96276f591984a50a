import ExprTree.Symbolic.Special
/-!
  Functions around the zeta function: the polylogarithm `Li_s(z)`, the Stieltjes constants
  `γ_n` and their generalized form `γ_n(a)`, and the Riemann xi function.

  The polylogarithm is the zeta function at one and minus the eta function at minus one, a
  rational function of its argument at orders zero and minus one, and the dilogarithm has
  closed forms at the points of its classical table. The Stieltjes constant `γ_0` is the
  Euler–Mascheroni constant and the constants at negative or fractional indices are the
  unsigned infinity. The xi function is built from the zeta function where that has a closed
  form.
-/

namespace ExprTree.Symbolic

namespace Fn

open ExprTree.Symbolic.Expr

/-- The points and values of the classical table of the dilogarithm `Li_2`: one half, two,
the golden-ratio points `±(√5 ∓ 1)/2` and `(3 - √5)/2`, and `±I`, `1 ± I` and `(1 - I)/2`. -/
def dilogarithmTable (ev : String → List Expr → Expr) : List (Expr × Expr) :=
  let pi := Expr.const .pi
  let pi2 := powerOf pi (int 2)
  let log2 := ev "log" [int 2]
  let cat := Expr.const .catalan
  let root5 := powerOf (int 5) (frac 1 2)
  let down := productOf [frac 1 2, sumOf [root5, int (-1)]]
  let up := productOf [frac 1 2, sumOf [root5, one]]
  let logDown := ev "log" [down]
  let logUp := ev "log" [up]
  let sq := fun (e : Expr) => powerOf e (int 2)
  let piI := productOf [pi, .imag]
  [(frac 1 2, sumOf [productOf [frac 1 12, pi2], productOf [frac (-1) 2, sq log2]]),
    (int 2, sumOf [productOf [frac 1 4, pi2], negationOf (productOf [piI, log2])]),
    (negationOf down, sumOf [productOf [frac (-1) 15, pi2], productOf [frac 1 2, sq logDown]]),
    (negationOf up, sumOf [productOf [frac (-1) 10, pi2], negationOf (sq logUp)]),
    (productOf [frac 1 2, sumOf [int 3, negationOf root5]],
      sumOf [productOf [frac 1 15, pi2], negationOf (sq logDown)]),
    (down, sumOf [productOf [frac 1 10, pi2], negationOf (sq logDown)]),
    (.imag, sumOf [productOf [.imag, cat], productOf [frac (-1) 48, pi2]]),
    (negationOf .imag, sumOf [negationOf (productOf [.imag, cat]), productOf [frac (-1) 48, pi2]]),
    (sumOf [one, negationOf .imag], sumOf [productOf [frac 1 16, pi2],
      negationOf (productOf [.imag, cat]), negationOf (productOf [frac 1 4, piI, log2])]),
    (sumOf [one, .imag], sumOf [productOf [frac 1 16, pi2], productOf [.imag, cat],
      productOf [frac 1 4, piI, log2]]),
    (productOf [frac 1 2, sumOf [one, negationOf .imag]], sumOf [
      productOf [frac (-1) 8, sq log2], productOf [frac 1 8, piI, log2],
      productOf [frac 5 96, pi2], negationOf (productOf [.imag, cat])])]

/-- The polylogarithm `Li_s(z)`: `ζ s` at `z = 1`, `-η s` at `z = -1`, zero at `z = 0`, the
table value of the dilogarithm, `z/(1 - z)` at order zero and `z/(1 - z)²` at order minus
one. -/
def polylog (ev : String → List Expr → Expr) (s z : Expr) : Expr :=
  let tabled : Option Expr :=
    if z.isNumber && s.isInt 2 then
      ((dilogarithmTable ev).find? fun (p, _) => p.same z).map Prod.snd
    else none
  if z.isInt 1 then ev "zeta" [s]
  else if z.isInt (-1) then negationOf (ev "dirichlet_eta" [s])
  else if z.isZeroKnown then zero
  else
    match tabled with
    | some v => v
    | none =>
      let rest := sumOf [one, negationOf z]
      if s.isZeroKnown then productOf [z, powerOf rest (int (-1))]
      else if s.isInt (-1) then productOf [z, powerOf rest (int (-2))]
      else call "polylog" [s, z]

/-- The Stieltjes constants `γ_n` and `γ_n(a)`: NaN at NaN, the unsigned infinity at a
second argument that is a whole number at most zero and at an index that is negative or not
whole, and the Euler–Mascheroni constant at index zero without a second argument or with
second argument one. -/
def stieltjes (args : List Expr) : Expr :=
  let (n, a?) := match args with
    | [n, a] => (n, some a)
    | [n] => (n, none)
    | _ => (zero, none)
  let plain := match a? with
    | none => true
    | some a => a.isInt 1
  if a?.any Expr.isNaN then .num .nan
  else if a?.any (fun a => match a with
      | .num (.int k) => k ≤ 0
      | _ => false) then .num .complexInf
  else if n.isNaN then .num .nan
  else
    match n with
    | .num (.int k) =>
      if k < 0 then .num .complexInf
      else if k = 0 && plain then .const .eulerGamma
      else call "stieltjes" args
    | .num _ => .num .complexInf
    | _ =>
      if n.facts.negative == some true then .num .complexInf
      else if n.isZeroKnown && plain then .const .eulerGamma
      else if n.facts.integer == some false then .num .complexInf
      else call "stieltjes" args

/-- The Riemann xi function `ξ s = s (s-1) Γ(s/2) ζ s / (2 π^(s/2))`: one half at zero and
one, the formula where the zeta function has a closed form, and as it is elsewhere. -/
def riemannXi (ev : String → List Expr → Expr) (s : Expr) : Expr :=
  if s.isInt 0 || s.isInt 1 then frac 1 2
  else
    let z := ev "zeta" [s]
    if z.isAppOf "zeta" then call "riemann_xi" [s]
    else
      let half := productOf [frac 1 2, s]
      productOf [s, sumOf [s, int (-1)], ev "gamma" [half], z,
        powerOf (productOf [int 2, powerOf (.const .pi) half]) (int (-1))]

end Fn

end ExprTree.Symbolic
