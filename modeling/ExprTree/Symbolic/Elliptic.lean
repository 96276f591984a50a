import ExprTree.Symbolic.Special
/-!
  Elliptic integrals in the parameter `m`: the complete and incomplete integrals of the first
  kind `K(m)` and `F(z|m)`, of the second kind `E(m)` and `E(z|m)`, and of the third kind
  `Π(n|m)` and `Π(n; z|m)`.

  Each evaluates where its integrand degenerates (a parameter of zero or one, an amplitude of
  zero or a whole multiple of `π/2`, a characteristic equal to the parameter), at the
  infinities, takes a sign out of the amplitude, and stays as it is elsewhere.
-/

namespace ExprTree.Symbolic

namespace Fn

open ExprTree.Symbolic.Expr

/-- Whether an expression is a real infinity. -/
def isRealInfinity (e : Expr) : Bool := e.same (.num .posInf) || e.same (.num .negInf)

/-- The amplitude `z` as a multiple `2z/π` of a quarter turn, when that is a whole number. -/
def quarterTurns? (z : Expr) : Option Expr :=
  let k := productOf [int 2, z, powerOf (.const .pi) (int (-1))]
  if k.facts.integer == some true then some k else none

/-- The complete elliptic integral of the first kind `K(m)`: `π/2` at zero,
`8 π^(3/2) / Γ(-1/4)²` at one half, the unsigned infinity at one, `Γ(1/4)² / (4 √(2π))` at minus
one and zero at the infinities. -/
def ellipticK (ev : String → List Expr → Expr) (m : Expr) : Expr :=
  if m.isZeroKnown then productOf [frac 1 2, .const .pi]
  else if m.same (frac 1 2) then
    productOf [int 8, powerOf (.const .pi) (frac 3 2),
      powerOf (ev "gamma" [frac (-1) 4]) (int (-2))]
  else if m.isInt 1 then .num .complexInf
  else if m.isInt (-1) then
    productOf [powerOf (ev "gamma" [frac 1 4]) (int 2),
      powerOf (productOf [int 4, powerOf (productOf [int 2, .const .pi]) (frac 1 2)]) (int (-1))]
  else if m.isInfiniteNum then zero
  else call "elliptic_k" [m]

/-- The elliptic integral of the first kind `F(z|m)`: zero at amplitude zero, the amplitude at
parameter zero, `k K(m)` at an amplitude of `k` quarter turns, zero at an infinite parameter,
and odd in the amplitude. -/
def ellipticF (ev : String → List Expr → Expr) (z m : Expr) : Expr :=
  if z.isZeroKnown then zero
  else if m.isZeroKnown then z
  else
    match quarterTurns? z with
    | some k => productOf [k, ev "elliptic_k" [m]]
    | none =>
      if isRealInfinity m then zero
      else if z.couldExtractMinus then negationOf (ev "elliptic_f" [negationOf z, m])
      else call "elliptic_f" [z, m]

/-- The elliptic integrals of the second kind: `E(m)` is `π/2` at zero, one at one, `I ∞` at
infinity, infinity at minus infinity; `E(z|m)` is the amplitude at parameter zero, zero at
amplitude zero, `k E(m)` at `k` quarter turns, the unsigned infinity at an infinite parameter,
and odd in the amplitude. -/
def ellipticE (ev : String → List Expr → Expr) (args : List Expr) : Expr :=
  match args with
  | [m] =>
    if m.isZeroKnown then productOf [frac 1 2, .const .pi]
    else if m.isInt 1 then one
    else if m.same (.num .posInf) then productOf [.imag, .num .posInf]
    else if m.same (.num .negInf) then .num .posInf
    else if m.same (.num .complexInf) then m
    else call "elliptic_e" args
  | [z, m] =>
    if m.isZeroKnown then z
    else if z.isZeroKnown then zero
    else
      match quarterTurns? z with
      | some k => productOf [k, ev "elliptic_e" [m]]
      | none =>
        if isRealInfinity m then .num .complexInf
        else if z.couldExtractMinus then negationOf (ev "elliptic_e" [negationOf z, m])
        else call "elliptic_e" args
  | _ => call "elliptic_e" args

/-- The elliptic integrals of the third kind. `Π(n|m)` is `K(m)` at `n = 0`, the unsigned
infinity at `n = 1`, `π / (2 √(1-n))` at `m = 0`, `-∞ / sign(n-1)` at `m = 1`,
`E(n)/(1-n)` at `n = m`, and zero at infinite `n` or `m`. `Π(n; z|m)` is `F(z|m)` at `n = 0`,
its closed form at `n = 1`, `k Π(n|m)` at `k` quarter turns, `atanh(√(n-1) tan z) / √(n-1)` at
`m = 0`, a closed form at `n = m`, zero at infinite `n` or `m`, and odd in the amplitude. -/
def ellipticPi (ev : String → List Expr → Expr) (args : List Expr) : Expr :=
  match args with
  | [n, m] =>
    if n.isZeroKnown then ev "elliptic_k" [m]
    else if n.isInt 1 then .num .complexInf
    else if m.isZeroKnown then
      productOf [.const .pi, powerOf (productOf [int 2,
        powerOf (sumOf [one, negationOf n]) (frac 1 2)]) (int (-1))]
    else if m.isInt 1 then
      productOf [.num .negInf, powerOf (ev "sign" [sumOf [n, int (-1)]]) (int (-1))]
    else if n.same m then
      productOf [ev "elliptic_e" [n], powerOf (sumOf [one, negationOf n]) (int (-1))]
    else if isRealInfinity n || isRealInfinity m then zero
    else call "elliptic_pi" args
  | [n, z, m] =>
    let sinSq := powerOf (ev "sin" [z]) (int 2)
    if n.isZeroKnown then ev "elliptic_f" [z, m]
    else if n.isInt 1 then
      sumOf [ev "elliptic_f" [z, m],
        productOf [sumOf [productOf [
            powerOf (sumOf [one, negationOf (productOf [m, sinSq])]) (frac 1 2), ev "tan" [z]],
          negationOf (ev "elliptic_e" [z, m])],
          powerOf (sumOf [one, negationOf m]) (int (-1))]]
    else
      match quarterTurns? z with
      | some k => productOf [k, ev "elliptic_pi" [n, m]]
      | none =>
        if m.isZeroKnown then
          let root := powerOf (sumOf [n, int (-1)]) (frac 1 2)
          productOf [ev "atanh" [productOf [root, ev "tan" [z]]], powerOf root (int (-1))]
        else if n.same m then
          sumOf [ev "elliptic_f" [z, n], negationOf (ev "elliptic_pi" [one, z, n]),
            productOf [ev "tan" [z],
              powerOf (sumOf [one, negationOf (productOf [n, sinSq])]) (frac (-1) 2)]]
        else if isRealInfinity n || isRealInfinity m then zero
        else if z.couldExtractMinus then negationOf (ev "elliptic_pi" [n, negationOf z, m])
        else call "elliptic_pi" args
  | _ => call "elliptic_pi" args

end Fn

end ExprTree.Symbolic
