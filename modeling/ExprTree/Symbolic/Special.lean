import ExprTree.Symbolic.Sequence
import ExprTree.Symbolic.Trigonometric
/-!
  Special functions: the gamma function and its logarithm, the polygamma functions with the
  digamma and trigamma functions, the beta function, the Riemann and Hurwitz zeta functions and
  the Dirichlet eta function, the error functions and their inverses, the Lambert W function,
  the sinc function `sin x / x`, the Heaviside step, the Dirac delta and the Kronecker delta,
  and the exponential, logarithmic, sine, cosine and Fresnel integrals.

  Each evaluates at the points where its value is a closed form (the gamma function at halves
  of odd numbers, the zeta function at even and at negative whole numbers, the digamma function
  at fractions with small denominators, and so on), uses its symmetries to take out a sign or a
  factor `I`, and stays as it is elsewhere.
-/

-- The core instances for powers, products and sums of numbers, also where Mathlib's are
-- in scope, so that the definitions below are the same terms in every build.
attribute [local instance (high)] instPowNat

namespace ExprTree.Symbolic

namespace Fn

open ExprTree.Symbolic.Expr

/-- The square root of `π`. -/
def sqrtPi : Expr := powerOf (.const .pi) (frac 1 2)

/-- The gamma function: NaN at NaN, infinity at infinity, `(n-1)!` at a positive whole number,
the unsigned infinity at zero and the negative whole numbers, and at half an odd number `p/2` a
multiple of `√π` by the product of the odd numbers below `|p|` over a power of two. -/
def gammaFunction (a : Expr) : Expr :=
  match a with
  | .num .nan => .num .nan
  | .num (.rat p 2) =>
    let n := p.natAbs / 2
    let k := if p > 0 then n else n + 1
    let odd : Nat := (List.range k).foldl (fun (acc i : Nat) => if i ≥ 1 then acc * (2 * i + 1) else acc) 1
    if p > 0 then productOf [int odd, sqrtPi, powerOf (int 2) (int (-(n : Int)))]
    else
      let sgn : Int := if k % 2 = 0 then 1 else -1
      productOf [powerOf (int 2) (int k), sqrtPi, powerOf (int (sgn * (odd : Int))) (int (-1))]
  | _ => gamma a

/-- The logarithm of the gamma function: infinity at zero and the negative whole numbers,
`log((n-1)!)` at a positive whole number, the logarithm of the closed form at half an odd
positive number, infinity at infinity and the unsigned infinity at the other infinities. -/
def logGamma (ev : String → List Expr → Expr) (a : Expr) : Expr :=
  match a with
  | .num .nan => .num .nan
  | .num .posInf => .num .posInf
  | .num .negInf | .num .complexInf => .num .complexInf
  | .num (.int k) =>
    if k ≤ 0 then .num .posInf else ev "log" [gammaFunction a]
  | .num (.rat p 2) =>
    if p > 0 then
      ev "log" [productOf [sqrtPi, powerOf (int 2) (int (1 - p)), gammaFunction (int p),
        powerOf (gammaFunction (frac (p + 1) 2)) (int (-1))]]
    else call "loggamma" [a]
  | _ => call "loggamma" [a]

/-- The Riemann zeta function `ζ s`, and the Hurwitz zeta function `ζ(s, a)` with a second
argument: NaN at NaN, the unsigned infinity at `s = 1`, one at `s = ∞`, zero at `a = ∞`,
`-B (1-s) a / (1 - s)` at a whole `s ≤ 0`, the multiple of `π^s` by a Bernoulli number at an even
`s > 0`, and `ζ s` less a harmonic number at a positive whole `a`. -/
def zeta (ev : String → List Expr → Expr) (args : List Expr) : Expr :=
  match args with
  | [s, .num (.int 1)] => zeta' s none
  | [s] => zeta' s none
  | [s, a] => zeta' s (some a)
  | _ => call "zeta" args
where
  /-- The Riemann zeta function at an even `s > 0`: `-(2πI)^s B s / (2 s!)`, which is
  `(-1)^(s/2 + 1) 2^s B s / (2 s!)` times `π^s`. -/
  riemannEven? (s : Expr) : Option Expr :=
    match intArg? s with
    | some k =>
      if k > 0 ∧ k % 2 = 0 ∧ k.toNat ≤ sequenceLimit then
        let m := k.toNat
        let c := Num.mul (Num.mul (.int (if m / 2 % 2 = 0 then -1 else 1)) (.int (2 ^ m)))
          (Num.mul (bernoulliNumber m) (Num.ofFraction 1 (2 * rangeProduct 0 m)))
        some (productOf [.num c, powerOf (.const .pi) s])
      else none
    | none => none
  /-- The zeta function at `s`, with its second argument `a` when given and not one. -/
  zeta' (s : Expr) (a? : Option Expr) : Expr :=
    let stay := call "zeta" (s :: a?.toList)
    if s.isNaN || a?.any Expr.isNaN then .num .nan
    else if s.isInt 1 then .num .complexInf
    else if s.same (.num .posInf) then one
    else if a?.any (·.same (.num .posInf)) then zero
    else
      let a := a?.getD one
      match intArg? s with
      | some k =>
        if k ≤ 0 then
          productOf [ev "bernoulli" [int (1 - k), a], powerOf (int (k - 1)) (int (-1))]
        else match a? with
          | none => (riemannEven? s).getD stay
          | some b =>
            match intArg? b with
            | some j =>
              if j > 0 then
                sumOf [(riemannEven? s).getD (call "zeta" [s]),
                  negationOf (ev "harmonic" [int (j - 1), s])]
              else stay
            | none => stay
      | none =>
        match a? with
        | some (.num (.int j)) =>
          if j ≤ 0 ∧ (s.facts.integer == some false || s.facts.positive == some true) then
            .num .nan
          else stay
        | _ => stay

/-- The Dirichlet eta function `η s = (1 - 2^(1-s)) ζ s`, and its form with a second argument:
`log 2` at `s = 1`, and the combination of zeta values when they are closed forms. -/
def dirichletEta (ev : String → List Expr → Expr) (args : List Expr) : Expr :=
  match args with
  | [s] | [s, .num (.int 1)] =>
    if s.isInt 1 then logarithm (int 2)
    else
      let z := ev "zeta" [s]
      if z.isAppOf "zeta" then call "dirichlet_eta" [s]
      else productOf [sumOf [one, negationOf (powerOf (int 2) (sumOf [one, negationOf s]))], z]
  | [s, a] =>
    if s.isInt 1 then
      sumOf [logarithm (int 2), negationOf (ev "digamma" [a]),
        ev "digamma" [productOf [sumOf [a, one], frac 1 2]]]
    else
      let z1 := ev "zeta" [s, a]
      let z2 := ev "zeta" [s, productOf [sumOf [a, one], frac 1 2]]
      if z1.isAppOf "zeta" || z2.isAppOf "zeta" then call "dirichlet_eta" args
      else sumOf [z1, negationOf (productOf [powerOf (int 2) (sumOf [one, negationOf s]), z2])]
  | _ => call "dirichlet_eta" args

/-- The digamma function at a fraction `p/q`, by Gauss's theorem:
`-γ - (π/2) cot(πp/q) - log q + Σ cos(2πkp/q) log(2 sin(πk/q))`, then shifted by the whole part
of `p/q`. -/
def digammaAtFraction (ev : String → List Expr → Expr) (p : Int) (q : Nat) : Expr :=
  let z := Num.ofFraction p q
  let angle := fun (r : Num) => productOf [.num r, .const .pi]
  let gauss := sumOf ([negationOf (.const .eulerGamma),
      negationOf (productOf [.const .pi, ev "cot" [angle z], frac 1 2]),
      negationOf (logarithm (int q))] ++
    (List.range (q - 1)).map fun (i : Nat) =>
      let k : Int := i + 1
      productOf [ev "cos" [angle (Num.ofFraction (2 * k * p) q)],
        ev "log" [productOf [int 2, ev "sin" [angle (Num.ofFraction k q)]]]])
  if p > 0 then
    let n := p / q
    let z0 := Num.ofFraction (p - n * q) q
    sumOf (gauss :: (List.range n.toNat).map fun (k : Nat) =>
      powerOf (.num (z0.add (.int k))) (int (-1)))
  else
    let n := Int.fdiv (q - p) q
    let z0 := z.add (.int n)
    sumOf (gauss :: (List.range n.toNat).map fun (k : Nat) =>
      negationOf (powerOf (.num (z0.add (.int (-1 - (k : Int))))) (int (-1))))

/-- The polygamma function `ψ⁽ⁿ⁾ z`: NaN at NaN, at `z = ∞` infinity for `n = 0` and zero
otherwise, the unsigned infinity at zero and the negative whole numbers, `log Γ(z) - log(2π)/2`
for `n = -1`, `H (z-1) - γ` at a whole `z` for `n = 0`, Gauss's value at a fraction with
denominator at most six, and `(-1)^(n+1) n! ζ(n+1, z)` at a whole `z` or
`(-1)^(n+1) n! (2^(n+1) - 1) ζ(n+1)` at `z = 1/2` for a whole `n > 0`. -/
def polygamma (ev : String → List Expr → Expr) (n z : Expr) : Expr :=
  let stay := call "polygamma" [n, z]
  if n.isNaN || z.isNaN then .num .nan
  else if z.same (.num .posInf) then (if n.isZeroNum then .num .posInf else zero)
  else match z with
    | .num (.int k) =>
      if k ≤ 0 then .num .complexInf
      else if n.isInt (-1) then
        sumOf [ev "loggamma" [z], negationOf (productOf [ev "log" [productOf [int 2, .const .pi]],
          frac 1 2])]
      else match intArg? n with
        | some 0 => sumOf [ev "harmonic" [int (k - 1)], negationOf (.const .eulerGamma)]
        | some m =>
          if m > 0 then
            productOf [int (if m % 2 = 0 then -1 else 1), factorial n,
              ev "zeta" [int (m + 1), z]]
          else stay
        | none => stay
    | _ =>
      if n.isInt (-1) then
        sumOf [ev "loggamma" [z], negationOf (productOf [ev "log" [productOf [int 2, .const .pi]],
          frac 1 2])]
      else match intArg? n, z with
        | some 0, .num .negInf => .num .posInf
        | some 0, .num (.rat p q) => if q ≤ 6 then digammaAtFraction ev p q else stay
        | some m, .num (.rat 1 2) =>
          if m > 0 then
            productOf [int (if m % 2 = 0 then -1 else 1), factorial n, int (2 ^ (m.toNat + 1) - 1),
              ev "zeta" [int (m + 1)]]
          else stay
        | _, _ => stay

/-- The beta function `B(x, y)`, with `B x = B(x, x)`: at numbers, the unsigned infinity when
either is zero, `1/x` when `y = 1` and `1/y` when `x = 1`, `1/(x y C x)` with the Catalan number
`C x` when `y = x + 1`, and zero when `x + y` is a negative whole number and neither is whole. -/
def beta (ev : String → List Expr → Expr) (args : List Expr) : Expr :=
  match args with
  | [x] => beta' x x
  | [x, y] => beta' x y
  | _ => call "beta" args
where
  /-- The beta function of two arguments. -/
  beta' (x y : Expr) : Expr :=
    match x, y with
    | .num _, .num _ =>
      if x.isZeroNum || y.isZeroNum then .num .complexInf
      else if y.isInt 1 then powerOf x (int (-1))
      else if x.isInt 1 then powerOf y (int (-1))
      else if y.same (sumOf [x, one]) then
        powerOf (productOf [x, y, ev "catalan" [x]]) (int (-1))
      else
        let s := sumOf [x, y]
        if s.facts.integer == some true && s.facts.negative == some true &&
            x.facts.integer == some false && y.facts.integer == some false then zero
        else call "beta" [x, y]
    | _, _ => call "beta" [x, y]

/-! ### Error functions -/

/-- The error function: NaN at NaN, `±1` at `±∞`, zero at zero, the argument of an inverse
error function back, the argument itself at `±I∞`, and odd in its argument. -/
def errorFunction (a : Expr) : Expr :=
  match a with
  | .num .nan => .num .nan
  | .num .posInf => one
  | .num .negInf => int (-1)
  | _ =>
    if a.isZeroKnown then zero
    else match a.appOf? "erfinv", a.appOf? "erfcinv", imagCoeff? a with
      | some [x], _, _ => x
      | _, some [x], _ => sumOf [one, negationOf x]
      | _, _, some (.num .posInf) | _, _, some (.num .negInf) => a
      | _, _, _ =>
        if a.couldExtractMinus then negationOf (call "erf" [negationOf a]) else call "erf" [a]

/-- The complementary error function `1 - erf x`: NaN at NaN, zero at infinity, one at zero,
two at minus infinity, the value back at an inverse error function, `-x` at `x = ±I∞`, and
`2 - erfc x` at `-x`. -/
def complementaryError (a : Expr) : Expr :=
  match a with
  | .num .nan => .num .nan
  | .num .posInf => zero
  | .num .negInf => int 2
  | _ =>
    if a.isZeroKnown then one
    else match a.appOf? "erfinv", a.appOf? "erfcinv", imagCoeff? a with
      | some [x], _, _ => sumOf [one, negationOf x]
      | _, some [x], _ => x
      | _, _, some (.num .posInf) | _, _, some (.num .negInf) => negationOf a
      | _, _, _ =>
        if a.couldExtractMinus then sumOf [int 2, negationOf (call "erfc" [negationOf a])]
        else call "erfc" [a]

/-- The imaginary error function `-I erf(I x)`: NaN at NaN, zero at zero, infinity at infinity,
odd in its argument, `I` at `I∞`, and `I` times the value back at `I` times an inverse error
function. -/
def imaginaryError (a : Expr) : Expr :=
  match a with
  | .num .nan => .num .nan
  | .num .posInf => .num .posInf
  | _ =>
    if a.isZeroKnown then zero
    else if a.couldExtractMinus then negationOf (imaginaryError' (negationOf a))
    else imaginaryError' a
where
  /-- The imaginary error function of an argument without a sign to take out. -/
  imaginaryError' (a : Expr) : Expr :=
    match a with
    | .num .posInf => .num .posInf
    | _ =>
      match imagCoeff? a with
      | some (.num .posInf) => .imag
      | some k =>
        match k.appOf? "erfinv", k.appOf? "erfcinv" with
        | some [x], _ => productOf [.imag, x]
        | _, some [x] => productOf [.imag, sumOf [one, negationOf x]]
        | _, _ => call "erfi" [a]
      | none => call "erfi" [a]

/-- The inverse error function: NaN at NaN, `∓∞` at `∓1`, zero at zero, and the argument back at
the error function of a real argument or its negation. -/
def inverseError (a : Expr) : Expr :=
  match a with
  | .num .nan => .num .nan
  | _ =>
    if a.isInt (-1) then .num .negInf
    else if a.isInt 1 then .num .posInf
    else if a.isZeroKnown then zero
    else match a.appOf? "erf" with
      | some [x] => if x.facts.extReal == some true then x else call "erfinv" [a]
      | _ =>
        match (negationOf a).appOf? "erf" with
        | some [x] =>
          if a.couldExtractMinus && x.facts.extReal == some true then negationOf x
          else call "erfinv" [a]
        | _ => call "erfinv" [a]

/-- The inverse complementary error function: NaN at NaN, infinity at zero, zero at one, minus
infinity at two, and the argument back at the complementary error function of a real
argument. -/
def inverseComplementaryError (a : Expr) : Expr :=
  match a with
  | .num .nan => .num .nan
  | _ =>
    if a.isZeroKnown then .num .posInf
    else if a.isInt 1 then zero
    else if a.isInt 2 then .num .negInf
    else match a.appOf? "erfc" with
      | some [x] => if x.facts.extReal == some true then x else call "erfcinv" [a]
      | _ => call "erfcinv" [a]

/-! ### The Lambert W function -/

/-- Whether `x` is `-1/e`. -/
def isMinusInverseE (x : Expr) : Bool :=
  x.same (negationOf (powerOf (.const .e) (int (-1))))

/-- The Lambert W function `W x`, the inverse of `w eʷ`, on its principal branch, and on the
branch `k` with a second argument. On the principal branch it is zero at zero, one at `e`, `-1`
at `-1/e`, `log c` at `c log c` for a number `c ≥ 1/e`, `-log 2` at `-log(2)/2`, `1/c` at
`e^(1/c)/c`, `Iπ/2` at `-π/2`, `e` at `e^(1+e)` and infinity at infinity; on another branch it
is minus infinity at zero, and on the branch `-1` it is `-Iπ/2` at `-π/2`, `-1` at `-1/e` and
`-2` at `-2/e²`. -/
def lambertW (ev : String → List Expr → Expr) (args : List Expr) : Expr :=
  match args with
  | [x] => principal x
  | [x, k] =>
    if k.isZeroNum then principal x
    else
      let stay := call "LambertW" [x, k]
      if k.facts.zero == some false && x.isZeroNum then .num .negInf
      else if k.isInt (-1) then
        if x.same (negationOf (productOf [.const .pi, frac 1 2])) then
          negationOf (productOf [.imag, .const .pi, frac 1 2])
        else if isMinusInverseE x then int (-1)
        else if x.same (productOf [int (-2), powerOf (.const .e) (int (-2))]) then int (-2)
        else stay
      else stay
  | _ => call "LambertW" args
where
  /-- The principal branch. -/
  principal (x : Expr) : Expr :=
    let stay := call "LambertW" [x]
    if x.isZeroNum then zero
    else if x.same (.const .e) then one
    else if isMinusInverseE x then int (-1)
    else match timesOwnLog? x with
      | some c => logarithm c
      | none =>
        if x.same (negationOf (productOf [logarithm (int 2), frac 1 2])) then
          negationOf (logarithm (int 2))
        else match x with
          | .mul [.num r, .pow (.const .e) (.num s)] =>
            if r.same s then .num (Num.div (.int 1) r) else stay
          | _ =>
            if x.same (negationOf (productOf [.const .pi, frac 1 2])) then
              productOf [.imag, .const .pi, frac 1 2]
            else if x.same (powerOf (.const .e) (sumOf [one, .const .e])) then .const .e
            else if x.same (.num .posInf) then .num .posInf
            else let _ := ev; stay
  /-- The number `c` with `x = c log c` and `c e ≥ 1`, if there is one. -/
  timesOwnLog? (x : Expr) : Option Expr :=
    match x with
    | .mul [.num c, l] =>
      match l.appOf? "log" with
      | some [.num d] =>
        if c.same d && c.isRational && !(Num.lt (Num.mul c (.int 3)) (.int 1)) then some (.num c)
        else none
      | _ => none
    | _ => none

/-! ### The sinc function and the step and delta functions -/

/-- The function `sin x / x` at a float, with twenty guard bits. -/
def floatSinc (x : BigFloat) (prec : Nat) : BigFloat :=
  let (_, s) := BigFloat.cosSin .nearest x (prec + 20)
  (s.div x (prec + 20)).round prec

/-- The sinc function `sin x / x`: one at zero, zero at the infinities, NaN at NaN and the
unsigned infinity, even in its argument, zero at the whole multiples of `π` and `±1/x` at the
odd multiples of `π/2`; a float evaluates. -/
def sinc (a : Expr) : Expr :=
  match a with
  | .num .nan | .num .complexInf => .num .nan
  | .num .posInf | .num .negInf => zero
  | .num (.float x prec) =>
    if x.isZero then one else .num (.float (floatSinc x.neg' prec) prec)
  | _ =>
    if a.isZeroKnown then one
    else if a.couldExtractMinus then sinc' (negationOf a)
    else sinc' a
where
  /-- The sinc function of an argument without a sign to take out. -/
  sinc' (a : Expr) : Expr :=
    match piCoeff? a with
    | some (.int _) => if a.facts.zero == some false then zero else call "sinc" [a]
    | some (.rat p 2) =>
      -- `(-1)^(c - 1/2) / x` with `c = p/2`
      let sgn : Int := if (p - 1) / 2 % 2 = 0 then 1 else -1
      productOf [int sgn, powerOf a (int (-1))]
    | _ => call "sinc" [a]

/-- The written form that the message of a refused complex argument shows. -/
def complexPartMessage (a : Expr) : String :=
  "Function defined only for Real Values. Complex part: " ++ (imagPart a).text ++ "  found in " ++
    a.text ++ " ."

/-- The Heaviside step: zero below zero, one above, its second argument (one half when not
given) at zero, NaN at NaN; an argument that is known not to be real is refused. -/
def heaviside (args : List Expr) : Except Refusal Expr :=
  let (a, h) := match args with
    | [a, h] => (a, h)
    | [a] => (a, frac 1 2)
    | _ => (zero, frac 1 2)
  let f := a.facts
  if f.negative == some true then .ok zero
  else if f.positive == some true then .ok one
  else if f.zero == some true then .ok h
  else if a.isNaN then .ok (.num .nan)
  else if (imagPart a).facts.zero == some false then .error (.domain (complexPartMessage a))
  else .ok (call "Heaviside" (if h.same (frac 1 2) then [a] else [a, h]))

/-- The Dirac delta: NaN at NaN, zero away from zero; an argument known not to be real is
refused, and so is an order that is not a whole number at least zero. -/
def diracDelta (args : List Expr) : Except Refusal Expr :=
  let (a, k) := match args with
    | [a, k] => (a, k)
    | [a] => (a, zero)
    | _ => (zero, zero)
  match intArg? k with
  | none => .error (.domain (orderMessage k))
  | some j =>
    if j < 0 then .error (.domain (orderMessage k))
    else if a.isNaN then .ok (.num .nan)
    else if a.facts.zero == some false then .ok zero
    else if (imagPart a).facts.zero == some false then .error (.domain (complexPartMessage a))
    else .ok (call "DiracDelta" (if j = 0 then [a] else [a, k]))
where
  /-- The message for an order that is not a whole number at least zero. -/
  orderMessage (k : Expr) : String :=
    "Error: the second argument of DiracDelta must be             a non-negative integer, " ++
      k.text ++ " given instead."

/-- The Kronecker delta: one when the difference of its arguments is zero, zero when it is not,
and otherwise with its first two arguments in key order. -/
def kroneckerDelta (args : List Expr) : Expr :=
  match args with
  | i :: j :: rest =>
    let d := sumOf [i, negationOf j]
    if d.isZeroKnown then one
    else if d.facts.zero == some false then zero
    else if Key.lt (sortKey 64 j) (sortKey 64 i) then call "KroneckerDelta" (j :: i :: rest)
    else call "KroneckerDelta" args
  | _ => call "KroneckerDelta" args

/-- The Levi-Civita symbol: at whole numbers the product `Π_{i<j} (a_j - a_i) / i!`, the sign
of the permutation they form; zero when two arguments are the same; otherwise it stays. -/
def leviCivita (args : List Expr) : Expr :=
  match args.mapM intArg? with
  | some ks =>
    let n := ks.length
    .num ((List.range n).foldl (fun (acc : Num) i =>
      let diffs := (List.range n).foldl (fun (d : Int) j =>
        if j > i then d * (ks.getD j 0 - ks.getD i 0) else d) 1
      Num.mul acc (Num.ofFraction diffs (rangeProduct 0 i))) (.int 1))
  | none =>
    if args.zipIdx.any (fun (a, i) => (args.drop (i + 1)).any (·.same a)) then zero
    else call "LeviCivita" args

/-- The singularity function `⟨x - a⟩^n`: refused for a shift or an exponent known not to be
real and for an exponent below `-4`; NaN at NaN; zero for a negative shift; the power of the
shift for an exponent at least zero and a shift at least zero; for the exponents `-1` to `-4`
zero away from the singular point and infinity at it. -/
def singularityFunction (x a n : Expr) : Except Refusal Expr := do
  let shift := sumOf [x, negationOf a]
  if (imagPart shift).facts.zero == some false then
    throw (.domain "Singularity Functions are defined only for Real Numbers.")
  if (imagPart n).facts.zero == some false then
    throw (.domain "Singularity Functions are not defined for imaginary exponents.")
  if shift.isNaN || n.isNaN then return .num .nan
  if (sumOf [n, int 4]).facts.negative == some true then
    throw (.domain "Singularity Functions are not defined for exponents less than -4.")
  let sf := shift.facts
  if sf.negative == some true then return zero
  if n.facts.nonnegative == some true then
    if sf.zero == some true then return powerOf zero n
    if sf.nonnegative == some true then return powerOf shift n
  if [-1, -2, -3, -4].any n.isInt then
    if sf.negative == some true || sf.positive == some true then return zero
    if sf.zero == some true then return .num .posInf
  return call "SingularityFunction" [x, a, n]

/-- The Appell function `F1(a; b1, b2; c; x, y)`: its pairs `(b1, x)` and `(b2, y)` put in key
order of `b1` and `b2` (of `x` and `y` when `b1 = b2`), and one at `x = y = 0`. -/
def appellF1 (args : List Expr) : Expr :=
  match args with
  | [a, b1, b2, c, x, y] =>
    let key := sortKey 64
    if Key.lt (key b2) (key b1) then call "appellf1" [a, b2, b1, c, y, x]
    else if b1.same b2 && Key.lt (key y) (key x) then call "appellf1" [a, b1, b2, c, y, x]
    else if x.isZeroNum && y.isZeroNum then one
    else call "appellf1" args
  | _ => call "appellf1" args

/-! ### Integrals -/

/-- The exponential integral `Ei`: minus infinity at zero, infinity at infinity, zero at minus
infinity. -/
def exponentialIntegral (a : Expr) : Expr :=
  match a with
  | .num .posInf => .num .posInf
  | .num .negInf => zero
  | _ => if a.isZeroKnown then .num .negInf else call "Ei" [a]

/-- The logarithmic integral `li`: zero at zero, minus infinity at one, infinity at
infinity. -/
def logIntegral (a : Expr) : Expr :=
  if a.isZeroKnown then zero
  else if a.isInt 1 then .num .negInf
  else if a.same (.num .posInf) then .num .posInf
  else call "li" [a]

/-- The offset logarithmic integral `Li x = li x - li 2`: infinity at infinity, zero at two. -/
def offsetLogIntegral (a : Expr) : Expr :=
  if a.same (.num .posInf) then .num .posInf
  else if a.isInt 2 then zero
  else call "Li" [a]

/-- The sine, cosine, hyperbolic sine and hyperbolic cosine integrals `Si`, `Ci`, `Shi` and
`Chi`, at zero and the infinities, with a factor `I` taken out of `Si` and `Shi` (each turns
into `I` times the other) and a sign taken out of the odd ones. -/
def trigIntegral (name : String) (a : Expr) : Expr :=
  let stay := call name [a]
  let halfPi := productOf [.const .pi, frac 1 2]
  match name, a with
  | "Si", .num .posInf => halfPi
  | "Si", .num .negInf => negationOf halfPi
  | "Ci", .num .posInf => zero
  | "Ci", .num .negInf => productOf [.imag, .const .pi]
  | "Shi", .num .posInf => .num .posInf
  | "Shi", .num .negInf => .num .negInf
  | "Chi", .num .posInf | "Chi", .num .negInf => .num .posInf
  | _, _ =>
    if a.isZeroKnown then (if name == "Si" || name == "Shi" then zero else .num .complexInf)
    else if name == "Si" || name == "Shi" then
      let other := if name == "Si" then "Shi" else "Si"
      match imagCoeff? a with
      | some k => productOf [.imag, call other [k]]
      | none =>
        if a.couldExtractMinus then negationOf (call name [negationOf a]) else stay
    else stay

/-- The Fresnel integrals `S` and `C`: one half at infinity, zero at zero, a sign and a factor
`I` taken out (`S(I x) = -I S x`, `C(I x) = I C x`). -/
def fresnel (name : String) (a : Expr) : Expr :=
  if a.same (.num .posInf) then frac 1 2
  else if a.isZeroKnown then zero
  else
    let (s1, b) := match extractMinus? a with
      | some b => (-1, b)
      | none => (1, a)
    let (factor, b) := match imagCoeff? b with
      | some k => (productOf [int (if name == "fresnels" then -s1 else s1), .imag], k)
      | none => (int s1, b)
    if s1 == 1 && factor.isInt 1 then call name [a]
    else productOf [factor, fresnel' b]
where
  /-- The integral of an argument with its sign and factor `I` taken out. -/
  fresnel' (b : Expr) : Expr := if b.same (.num .posInf) then frac 1 2 else call name [b]
  /-- The argument over `-1`, when that division leaves no minus sign inside. -/
  extractMinus? (a : Expr) : Option Expr :=
    match a with
    | .num .negInf => some (.num .posInf)
    | .num n => if n.isFinite && Num.lt n (.int 0) then some (.num n.neg) else none
    | .mul (.num c :: rest) => if Num.lt c (.int 0) then some (productOf (.num c.neg :: rest)) else none
    | _ => none

end Fn

end ExprTree.Symbolic
