import ExprTree.Symbolic.Number
import ExprTree.Symbolic.Elementary
/-!
  Arithmetic on symbolic numbers beyond sums and products: whole roots and perfect powers,
  factors by a bounded search, powers of floats, and quotients.

  A float raised to a power is computed as follows. A whole exponent is a whole power. An
  exponent that is half an odd number goes through a square root taken ten bits finer. Any other
  exponent goes through the logarithm and the exponential. A negative float raised to a
  fractional power has a complex value, given as its real and imaginary parts.
-/

-- The core instances for powers, products and sums of numbers, also where Mathlib's are
-- in scope, so that the definitions below are the same terms in every build.
attribute [local instance (high)] instPowNat

namespace ExprTree.Symbolic

/-- The floor of the `k`-th root of `n` and whether that root is exact, found by bisection
between `0` and a power of two whose `k`-th power exceeds `n`. When `n < 2 ^ k` the root is
below two, so it is `0` or `1`. -/
def rootFloor (n k : Nat) : Nat × Bool :=
  if k = 0 then (n, false)
  else if k ≥ BigFloat.bitLength n then (min n 1, n ≤ 1)
  else
    let rec go : Nat → Nat → Nat → Nat
      | 0, lo, _ => lo
      | f + 1, lo, hi =>
        if hi ≤ lo + 1 then lo
        else
          let mid := (lo + hi) / 2
          if mid ^ k ≤ n then go f mid hi else go f lo mid
    let r := go (BigFloat.bitLength n + 2) 0 (2 ^ (BigFloat.bitLength n / k + 1))
    (r, r ^ k == n)

/-- Writes `n` as `r ^ k` with `k ≥ 2` as large as possible, if it can be. -/
def perfectPower (n : Nat) : Option (Nat × Nat) :=
  if n < 4 then none
  else
    let ks := ((List.range (BigFloat.bitLength n + 1)).filter (· ≥ 2)).reverse
    ks.findSome? fun k =>
      let (r, exact) := rootFloor n k
      if exact ∧ r ≥ 2 then some (r, k) else none

/-- How often `p ≥ 2` divides a positive `n`, and what is left of `n` after dividing. -/
def multiplicity (p n : Nat) : Nat × Nat :=
  let rec go : Nat → Nat → Nat → Nat × Nat
    | 0, e, m => (e, m)
    | f + 1, e, m => if m > 0 ∧ m % p = 0 then go f (e + 1) (m / p) else (e, m)
  if p < 2 then (0, n) else go (BigFloat.bitLength n) 0 n

/-- The bound on trial divisors when a power of a whole number is simplified. -/
def trialLimit : Nat := 2 ^ (15 : Nat)

/-- How many divisors in a row may leave a number whole before the first pass of trial
division gives up. -/
def failLimit : Nat := 600

/-- What the first pass of trial division ends with: the factors found, what is left of the
number, and the next divisor it would have tried, or zero when what is left is one or a
prime. -/
def passEnd (fs : List (Nat × Nat)) (m d : Nat) : List (Nat × Nat) × Nat × Nat :=
  (fs.reverse, m, if d * d ≤ m then d else 0)

/-- Divides `m` by `d` as often as it goes, adding `d` to the factors found (most recent first)
and setting the count of failures in a row to zero when it divides, else adding one to it. -/
def tryDivisor (d m fails : Nat) (fs : List (Nat × Nat)) : Nat × Nat × List (Nat × Nat) :=
  let (e, r) := multiplicity d m
  if e > 0 then (r, 0, (d, e) :: fs) else (m, fails + 1, fs)

/-- The first pass of trial division from the divisor `d`, one of the numbers `6k ± 1`: it tries
`d` and `d + 2`, then goes on from `d + 6`, until the square of the divisor passes what is left
or `trialLimit ^ 2`, or `failLimit` divisors in a row leave it whole. -/
def firstPassFrom : Nat → Nat → Nat → Nat → List (Nat × Nat) → List (Nat × Nat) × Nat × Nat
  | 0, d, m, _, fs => passEnd fs m d
  | f + 1, d, m, fails, fs =>
    if fails ≥ failLimit ∨ d * d > min m (trialLimit ^ (2 : Nat)) then passEnd fs m d
    else
      let (m, fails, fs) := tryDivisor d m fails fs
      if (d + 2) * (d + 2) > min m (trialLimit ^ (2 : Nat)) then passEnd fs m (d + 2)
      else
        let (m, fails, fs) := tryDivisor (d + 2) m fails fs
        firstPassFrom f (d + 6) m fails fs

/-- The first pass of trial division of `n ≥ 1`: by two, by three, then by the numbers `6k ± 1`
from five on, as `firstPassFrom` says. -/
def firstPass (n : Nat) : List (Nat × Nat) × Nat × Nat :=
  let (e2, m) := multiplicity 2 n
  let fs := if e2 > 0 then [(2, e2)] else []
  if 9 > min m (trialLimit ^ (2 : Nat)) then passEnd fs m 3
  else
    let (e3, m) := multiplicity 3 m
    let fs := if e3 > 0 then (3, e3) :: fs else fs
    if 25 > min m (trialLimit ^ (2 : Nat)) then passEnd fs m 5
    else firstPassFrom trialLimit 5 m 0 fs

/-- Two factors `a - b` and `a + b` of an odd `n` with `n = a² - b²`, looked for at the three
values of `a` just above the square root of `n` whose parity such a pair allows: `a` is odd
when `n` is one more than a multiple of four, and even otherwise. -/
def differenceOfSquares (n : Nat) : Option (Nat × Nat) :=
  let a := (rootFloor n 2).1 + 1
  let a := if (n % 4 == 1) != (a % 2 == 1) then a + 1 else a
  [a, a + 2, a + 4].findSome? fun a =>
    let (b, exact) := rootFloor (a * a - n) 2
    if exact then some (a - b, a + b) else none

/-- Adds factors to a list of factors, adding the exponents of a factor already there. -/
def mergeFactors (fs gs : List (Nat × Nat)) : List (Nat × Nat) :=
  gs.foldl (fun acc (p, e) =>
    if acc.any (·.1 == p) then acc.map fun (q, k) => if q == p then (q, k + e) else (q, k)
    else acc ++ [(p, e)]) fs

/-- The factors of `m` with exponents multiplied by `k`. -/
def scaleFactors (k : Nat) (fs : List (Nat × Nat)) : List (Nat × Nat) :=
  fs.map fun (p, e) => (p, e * k)

/-- Trial division of `m` by every divisor from `d` up to `hi - 1`, `count` of them at most; the
factors found come first, most recent first, then what is left. -/
def trialRange : Nat → Nat → Nat → Nat → List (Nat × Nat) → List (Nat × Nat) × Nat
  | 0, _, _, m, fs => (fs, m)
  | count + 1, d, hi, m, fs =>
    if d ≥ hi then (fs, m)
    else
      let (e, r) := multiplicity d m
      trialRange count (d + 1) hi r (if e > 0 then (d, e) :: fs else fs)

/-- The later passes of trial division of `m`, over ranges of divisors from `low` that double
in length up to `trialLimit`. After a range that found a factor, what is left is tried as a
perfect power, whose root `factor` breaks up; what is left after the last range is a factor. -/
def laterPasses (factor : Nat → List (Nat × Nat)) : Nat → Nat → Nat → List (Nat × Nat)
  | 0, m, _ => if m > 1 then [(m, 1)] else []
  | f + 1, m, low =>
    let high := 2 * low
    let (found, m) := trialRange high low (min high (trialLimit + 1)) m []
    let found := found.reverse
    let rest := fun (_ : Unit) =>
      if high > trialLimit + 1 then found ++ (if m > 1 then [(m, 1)] else [])
      else found ++ laterPasses factor f m high
    if found.isEmpty then rest ()
    else if m = 1 then found
    else match perfectPower m with
      | some (r, k) => found ++ scaleFactors k (factor r)
      | none => rest ()

/-- The factors of `n ≥ 1` that a bounded search finds, with their exponents, in the order they
are found; `fuel` bounds the depth of the search. Trial division by divisors up to `trialLimit`
runs in a first pass, which may give up early; what is left is then tried as a perfect power
and, unless the first pass ran to the limit, split as a difference of two squares, the parts
being broken up in turn; failing both, later passes finish the trial division. A factor above
`trialLimit` may so be composite. -/
def boundedFactors : Nat → Nat → List (Nat × Nat)
  | 0, n => if n > 1 then [(n, 1)] else []
  | fuel + 1, n =>
    let (fs, m, next) := firstPass n
    if next = 0 then fs ++ (if m > 1 then [(m, 1)] else [])
    else match perfectPower m with
      | some (r, k) => fs ++ scaleFactors k (boundedFactors fuel r)
      | none =>
        if next > trialLimit then fs ++ [(m, 1)]
        else match differenceOfSquares m with
          | some (x, y) => mergeFactors fs (mergeFactors (boundedFactors fuel x) (boundedFactors fuel y))
          | none => fs ++ laterPasses (boundedFactors fuel) 64 m next

/-- The factors of `n ≥ 1` that the bounded search of `boundedFactors` finds. -/
def smallFactors (n : Nat) : List (Nat × Nat) := boundedFactors (BigFloat.bitLength n + 1) n

/-- Floor division of whole numbers, rounding toward negative infinity. -/
def floorDiv (a : Int) (b : Nat) : Int := Int.fdiv a b

/-- The remainder of floor division, between `0` and `b - 1`. -/
def floorMod (a : Int) (b : Nat) : Nat := (Int.fmod a b).toNat

namespace BigFloat

/-- The most bits a whole exponent of a float power may have; a higher power is left as it
stands. -/
def exponentBitLimit : Nat := 2 ^ (12 : Nat)

/-- The power `x ^ t` of a positive `x`, rounded to `prec` bits; none for a whole exponent of
more than `exponentBitLimit` bits. A whole exponent gives the whole power; half an odd number
gives a power of the square root taken ten bits finer; any other exponent gives
`exp (t · log x)`, with the logarithm rounded to ten bits more and the product exact. -/
def realPow (x t : BigFloat) (prec : Nat) : Option BigFloat :=
  if t.isZero then some one
  else if t.exp ≥ 0 then
    if t.top > exponentBitLimit then none
    else some (powInt x (t.signedMan * 2 ^ t.exp.toNat) prec)
  else if t.exp = -1 then
    if t.man = 1 then
      some (if t.neg then div one (sqrt x (prec + 10)) prec else sqrt x prec)
    else some (powInt (sqrt x (prec + 10)) t.signedMan prec)
  else some (exponential .nearest (mulExact t (logarithm .nearest x (prec + 10))) prec)

/-- The power `x ^ t` of a negative `x` with a fractional `t`, as real and imaginary parts
rounded to `prec` bits. For `t` half an odd number `n`, the square root of `x` is `i · √-x`
(cut toward zero ten bits finer), and the power of a pure imaginary number cycles through the
four axes. Otherwise the power is `exp (t · (log |x| + iπ))`: the logarithm and `π` are cut
toward zero ten bits finer, so are their products with `t`, and the exponential `e^a (cos b +
i sin b)` multiplies `e^a` by the cosine and the sine, each taken four bits finer. -/
def complexPow (x t : BigFloat) (prec : Nat) : BigFloat × BigFloat :=
  if t.exp = -1 then
    let n := t.signedMan
    let v := powInt (sqrtBy .down x.neg' (prec + 10)) n prec
    match floorMod n 4 with
    | 0 => (v, zero)
    | 1 => (zero, v)
    | 2 => (v.neg', zero)
    | _ => (zero, v.neg')
  else
    let w := prec + 10
    let a := roundBy .down (mulExact (logarithm .down x.neg' w) t) w
    let b := roundBy .down (mulExact (pi .down w) t) w
    if a.isZero then cosSin .nearest b prec
    else if b.isZero then (exponential .nearest a prec, zero)
    else
      let m := exponential .nearest a (prec + 4)
      let (c, s) := cosSin .nearest b (prec + 4)
      (mul m c prec, mul m s prec)

end BigFloat

namespace Num

/-- Whether the number is an exact whole number. -/
def isInteger : Num → Bool
  | .int _ => true
  | _ => false

/-- The absolute value. -/
def abs (n : Num) : Num := if n.isNegative then n.neg else n

/-- The sign as a whole number: one, minus one or zero. -/
def signum (n : Num) : Num :=
  match n.positive? with
  | some true => .int 1
  | some false => .int (-1)
  | none => .int 0

/-- Whether the number is zero or positive, NaN and the unsigned infinity excluded. -/
def isNonnegative (n : Num) : Bool := n.isZero || n.isPositive

/-- The reciprocal of a float as a float at the float's precision; zero has none. -/
def floatReciprocal (x : BigFloat) (prec : Nat) : Num :=
  if x.isZero then .complexInf else ofBig (BigFloat.div BigFloat.one x prec) prec

/-- The quotient `a / b` of two numbers. Exact numbers divide exactly; a nonzero number over
exact zero is the unsigned infinity and zero over zero is NaN. A float over a finite nonzero
number is the correctly rounded quotient at the larger precision; an exact number over a float
is the number times the float's rounded reciprocal. Positive and negative infinity keep or flip
their sign by the divisor's sign and give NaN over an infinity or NaN; a finite number over an
infinity is zero. -/
def div (a b : Num) : Num :=
  match a, b with
  | .nan, _ | _, .nan => .nan
  | .posInf, d =>
    if d == .posInf ∨ d == .negInf then .nan
    else if d.isNonnegative then .posInf else .negInf
  | .negInf, d =>
    if d == .posInf ∨ d == .negInf then .nan
    else if d.isNonnegative then .negInf else .posInf
  | .complexInf, d => if d.isFinite then .complexInf else .nan
  | n, .posInf | n, .negInf | n, .complexInf => if n.isFinite then .int 0 else .nan
  | n, d =>
    match n.fraction?, d.fraction? with
    | some (p, q), some (r, s) =>
      if r = 0 then (if p = 0 then .nan else .complexInf)
      else ofFraction (p * s) (q * r)
    | _, _ =>
      match n, d with
      | .float x p, .float y r =>
        if y.isZero then mul n .complexInf else ofBig (BigFloat.div x y (max p r)) (max p r)
      | .float x p, _ =>
        match d.fraction? with
        | some (r, s) =>
          if r = 0 then mul n .complexInf
          else ofBig (BigFloat.div x (toBig r s p) p) p
        | none => .nan
      | _, .float y r => mul n (floatReciprocal y r)
      | _, _ => .nan

end Num

end ExprTree.Symbolic
