import ExprTree.Symbolic.Function
import ExprTree.Symbolic.Prime
/-!
  Integer sequences and arithmetic functions of the library: Fibonacci, Lucas and tribonacci
  numbers, Catalan, Bell, Motzkin, Bernoulli, Euler, Genocchi and zigzag numbers, harmonic
  numbers, derangements, partitions, rising and falling factorials, and the arithmetic
  functions of a whole number (the prime count, Euler's totient and its reduced form, the
  Möbius function, the numbers of distinct and of all prime factors, the divisor sums, and the
  Legendre, Jacobi and Kronecker symbols).

  Each evaluates at whole numbers as far as its rules go and stays as it is elsewhere. A
  function that is only defined on whole numbers refuses an argument that is known not to be
  one, with the message the library gives.
-/

-- The core instances for powers, products and sums of numbers, also where Mathlib's are
-- in scope, so that the definitions below are the same terms in every build.
attribute [local instance (high)] instPowNat Zero.ofOfNat0

namespace ExprTree.Symbolic

namespace Fn

open ExprTree.Symbolic.Expr

/-- The exact whole number an expression is, if it is one. -/
def intArg? : Expr → Option Int
  | .num (.int k) => some k
  | _ => none

/-- The Fibonacci numbers `F n` and `F (n + 1)`, by doubling: `F 2k = F k (2 F (k+1) - F k)` and
`F (2k+1) = F k² + F (k+1)²`. -/
def fibPair : Nat → Nat → Nat × Nat
  | 0, _ => (0, 1)
  | fuel + 1, n =>
    if n = 0 then (0, 1)
    else
      let (a, b) := fibPair fuel (n / 2)
      let c := a * (2 * b - a)
      let d := a * a + b * b
      if n % 2 = 0 then (c, d) else (d, c + d)

/-- The Fibonacci number `F n`, extended to negative `n` by `F (-n) = (-1)^(n+1) F n`. -/
def fibonacciNumber (n : Int) : Int :=
  let f := (fibPair (BigFloat.bitLength n.natAbs + 1) n.natAbs).1
  if n < 0 ∧ n % 2 = 0 then -(f : Int) else f

/-- The coefficients, lowest first, of the Fibonacci polynomials `F 1 = 1`, `F 2 = x` and
`F n = x F (n-1) + F (n-2)`, at index `n ≥ 1`. -/
def fibonacciPolynomial (n : Nat) : List Int :=
  let step := fun (st : List Int × List Int) (_ : Nat) =>
    let (prev, cur) := st
    let shifted := 0 :: cur
    let next := (List.range (max shifted.length prev.length)).map fun i =>
      shifted.getD i 0 + prev.getD i 0
    (cur, next)
  if n ≤ 1 then [1] else ((List.range (n - 2)).foldl step ([1], [0, 1])).2

/-- The polynomial with the given coefficients, lowest first, at `x`. -/
def polynomialAt (cs : List Int) (x : Expr) : Expr :=
  sumOf (cs.zipIdx.filterMap fun (c, i) =>
    if c = 0 then none else some (productOf [int c, powerOf x (int i)]))

/-- The Fibonacci numbers, and the Fibonacci polynomials with a second argument: infinity at
infinity, the number or expanded polynomial at a whole index. -/
def fibonacci (args : List Expr) : Except Refusal Expr :=
  match args with
  | [.num .posInf] | [.num .posInf, _] => .ok (.num .posInf)
  | [n] => .ok ((intArg? n).elim (call "fibonacci" [n]) fun k => int (fibonacciNumber k))
  | [n, x] =>
    match intArg? n with
    | some k =>
      if k < 1 then .error (.domain "Fibonacci polynomials are defined only for positive integer indices.")
      else .ok (polynomialAt (fibonacciPolynomial k.toNat) x)
    | none => .ok (call "fibonacci" [n, x])
  | _ => .ok (call "fibonacci" args)

/-- The Lucas numbers `L n = F (n+1) + F (n-1)`. -/
def lucas (n : Expr) : Expr :=
  match n with
  | .num .posInf => .num .posInf
  | _ => (intArg? n).elim (call "lucas" [n]) fun k =>
    int (fibonacciNumber (k + 1) + fibonacciNumber (k - 1))

/-- The tribonacci number `T n`, with `T 0 = 0`, `T 1 = T 2 = 1`. -/
def tribonacciNumber (n : Nat) : Nat :=
  ((List.range n).foldl (fun (t : Nat × Nat × Nat) _ =>
    let (a, b, c) := t
    (b, c, a + b + c)) (0, 1, 1)).1

/-- The sum of two lists of coefficients, lowest first. -/
def addCoeffs (a b : List Int) : List Int :=
  (List.range (max a.length b.length)).map fun i => a.getD i 0 + b.getD i 0

/-- The coefficients, lowest first, of the tribonacci polynomials `T 0 = 0`, `T 1 = 1`,
`T 2 = x²` and `T n = x² T (n-1) + x T (n-2) + T (n-3)`. -/
def tribonacciPolynomial (n : Nat) : List Int :=
  ((List.range n).foldl (fun (t : List Int × List Int × List Int) _ =>
    let (a, b, c) := t
    (b, c, addCoeffs a (addCoeffs (0 :: b) (0 :: 0 :: c)))) ([0], [1], [0, 0, 1])).1

/-- The tribonacci numbers, and the tribonacci polynomials with a second argument: infinity at
infinity, the number or expanded polynomial at a whole index at least zero. -/
def tribonacci (args : List Expr) : Except Refusal Expr :=
  match args with
  | .num .posInf :: _ => .ok (.num .posInf)
  | n :: rest =>
    match intArg? n, rest with
    | some k, _ =>
      if k < 0 then
        .error (.domain "Tribonacci polynomials are defined only for non-negative integer indices.")
      else match rest with
        | [x] => .ok (polynomialAt (tribonacciPolynomial k.toNat) x)
        | _ => .ok (int (tribonacciNumber k.toNat))
    | none, _ => .ok (call "tribonacci" args)
  | _ => .ok (call "tribonacci" args)

/-- The binomial coefficient `C(n, k)` of whole numbers `0 ≤ k ≤ n`. -/
def choose (n k : Nat) : Nat := rangeProduct (n - k) k / rangeProduct 0 k

/-- The Catalan numbers: `C(2n, n)/(n + 1)` at a whole `n ≥ 0`, `-1/2` at `-1`, zero below, and
`4^n Γ(n + 1/2) / (Γ(1/2) Γ(n + 2))` at a negative fraction. -/
def catalan (ev : String → List Expr → Expr) (n : Expr) : Expr :=
  match n with
  | .num (.int k) =>
    if k ≥ 0 then int (choose (2 * k.toNat) k.toNat / (k.toNat + 1))
    else if k = -1 then frac (-1) 2
    else zero
  | .num (.rat p q) =>
    if p < 0 then
      productOf [powerOf (int 4) n, ev "gamma" [sumOf [n, frac 1 2]],
        powerOf (productOf [ev "gamma" [frac 1 2], ev "gamma" [sumOf [n, int 2]]]) (int (-1))]
    else let _ := q; call "catalan" [n]
  | _ => call "catalan" [n]

/-- The Bernoulli numbers `B 0 … B n` with `B 1 = 1/2`, by the Akiyama–Tanigawa triangle. -/
def bernoulliNumbers (n : Nat) : Array Num :=
  let row0 : Array Num := Array.ofFn (n := n + 1) fun i => Num.ofFraction 1 (i.val + 1)
  let step := fun (st : Array Num × Array Num) (m : Nat) =>
    let (out, row) := st
    let len := n + 1 - m
    -- the next row: `a j := (j + 1) (a j - a (j + 1))`
    let row := (List.range (len - 1)).foldl (fun (r : Array Num) j =>
      r.set! j (Num.mul (.int (j + 1)) (Num.add (r.getD j (.int 0)) (r.getD (j + 1) (.int 0)).neg))) row
    (out.push (row.getD 0 (.int 0)), row)
  let first := row0.getD 0 (.int 1)
  ((List.range n).foldl step (#[first], row0)).1

/-- The Bernoulli number `B n`, with `B 1 = 1/2`. -/
def bernoulliNumber (n : Nat) : Num :=
  if n = 1 then Num.ofFraction 1 2
  else if n % 2 = 1 then .int 0
  else (bernoulliNumbers n).getD n (.int 0)

/-- The Bernoulli polynomial `B n x = Σ C(n, k) B k x^(n-k)`, with `B 1 = -1/2` inside it. -/
def bernoulliPolynomial (n : Nat) (x : Expr) : Expr :=
  let bs := bernoulliNumbers n
  sumOf ((List.range (n + 1)).map fun k =>
    let b : Num := if k = 1 then Num.ofFraction (-1) 2 else bs.getD k (.int 0)
    productOf [.num (Num.mul (.int (choose n k)) b), powerOf x (int (n - k))])

/-- The largest index for which the Bernoulli, Euler and related numbers are computed. -/
def sequenceLimit : Nat := 2000

/-- The Bernoulli numbers, and the Bernoulli polynomials with a second argument. -/
def bernoulli (args : List Expr) : Expr :=
  match args with
  | [n, .num (.int 1)] => bernoulli' n
  | [n] => bernoulli' n
  | [n, x] =>
    if n.isZeroNum then one
    else match intArg? n with
      | some k =>
        if k < 0 then (match x with
          | .num (.int j) => if j ≤ 0 then .num .nan else call "bernoulli" args
          | _ => call "bernoulli" args)
        else if k.toNat ≤ sequenceLimit then bernoulliPolynomial k.toNat x
        else call "bernoulli" args
      | none =>
        match n, x with
        | .num (.rat ..), .num (.int j) => if j ≤ 0 then .num .nan else call "bernoulli" args
        | _, _ => call "bernoulli" args
  | _ => call "bernoulli" args
where
  /-- The Bernoulli number at an index. -/
  bernoulli' (n : Expr) : Expr :=
    match intArg? n with
    | some k =>
      if k < 0 ∨ k.toNat > sequenceLimit then call "bernoulli" [n]
      else .num (bernoulliNumber k.toNat)
    | none => call "bernoulli" [n]

/-- The Euler numbers `E 0 … E n`, from `Σ C(n, k) E k = 0` over even `k ≤ n` for even `n > 0`. -/
def eulerNumbers (n : Nat) : Array Int :=
  (List.range n).foldl (fun (es : Array Int) m0 =>
    let m := m0 + 1
    if m % 2 = 1 then es.push 0
    else
      let s := (List.range m).foldl (fun (acc : Int) k =>
        if k % 2 = 0 then acc + (choose m k : Int) * es.getD k 0 else acc) 0
      es.push (-s)) #[1]

/-- The polynomial with the given exact coefficients, lowest first, at `x`. -/
def polynomialAtNum (cs : List Num) (x : Expr) : Expr :=
  sumOf (cs.zipIdx.filterMap fun (c, i) =>
    if c.isZero then none else some (productOf [.num c, powerOf x (int i)]))

/-- The coefficients, lowest first, of the Euler polynomial
`E n x = Σ C(n, k) E k 0 x^(n-k)`, with `E k 0 = -2 (2^(k+1) - 1) B (k+1) / (k + 1)` from the
Bernoulli numbers with `B 1 = -1/2`. -/
def eulerPolynomial (n : Nat) : List Num :=
  let bs := bernoulliNumbers (n + 1)
  let atZero := fun (k : Nat) =>
    let b : Num := if k + 1 = 1 then Num.ofFraction (-1) 2 else bs.getD (k + 1) (.int 0)
    Num.mul (Num.ofFraction (-2 * (2 ^ (k + 1) - 1)) (k + 1)) b
  (List.range (n + 1)).map fun i => Num.mul (.int (choose n (n - i))) (atZero (n - i))

/-- The Euler numbers, and the Euler polynomials with a second argument: one at zero, `π/2` at
minus one (`ψ((x+1)/2) - ψ(x/2)` with a second argument), zero at odd indices, and the number
or expanded polynomial at a whole index. -/
def euler (ev : String → List Expr → Expr) (args : List Expr) : Expr :=
  match args with
  | [n] =>
    match intArg? n with
    | some k =>
      if k = -1 then piFractionOf 1 2
      else if k < 0 ∨ k.toNat > sequenceLimit then call "euler" [n]
      else int ((eulerNumbers k.toNat).getD k.toNat 0)
    | none => call "euler" [n]
  | [n, x] =>
    match intArg? n with
    | some 0 => one
    | some (-1) =>
      sumOf [ev "digamma" [productOf [sumOf [x, one], frac 1 2]],
        negationOf (ev "digamma" [productOf [x, frac 1 2]])]
    | some k =>
      if k < 0 ∨ k.toNat > sequenceLimit then call "euler" args
      else polynomialAtNum (eulerPolynomial k.toNat) x
    | none => call "euler" args
  | _ => call "euler" args
where
  /-- The multiple `(p/q)·π`. -/
  piFractionOf (p q : Int) : Expr := productOf [frac p q, .const .pi]

/-- The Genocchi numbers `G n = 2 (1 - 2^n) B n`. -/
def genocchi (args : List Expr) : Expr :=
  match args with
  | [n] | [n, .num (.int 1)] =>
    match intArg? n with
    | some k =>
      if k < 0 ∨ k.toNat > sequenceLimit then call "genocchi" [n]
      else
        let b := bernoulliNumber k.toNat
        .num (Num.mul (.int (2 * (1 - 2 ^ k.toNat))) b)
    | none => call "genocchi" [n]
  | _ => call "genocchi" args

/-- The zigzag numbers `A n`, the counts of alternating permutations, by the boustrophedon
triangle. -/
def zigzagNumber (n : Nat) : Nat :=
  let step := fun (row : List Nat) (_ : Nat) =>
    -- the next row runs the other way: `b (k+1) = b k + a (m - k)`
    let rev := row.reverse
    let next := rev.foldl (fun (acc : List Nat) a => (acc.headD 0 + a) :: acc) [0]
    next.reverse
  ((List.range n).foldl step [1]).getLast?.getD 1

/-- The zigzag numbers: one at zero, `-log 2` at minus one, `-2 G` at minus two (with Catalan's
constant `G`), and the count at a whole index. -/
def andre (n : Expr) : Expr :=
  match n with
  | .num .nan => .num .nan
  | .num .posInf => .num .posInf
  | _ =>
    match intArg? n with
    | some 0 => one
    | some (-1) => negationOf (logarithm (int 2))
    | some (-2) => productOf [int (-2), .const .catalan]
    | some k => if k > 0 ∧ k.toNat ≤ sequenceLimit then int (zigzagNumber k.toNat) else call "andre" [n]
    | none => call "andre" [n]

/-- The Bell number `B n`, by the Bell triangle. -/
def bellNumber (n : Nat) : Nat :=
  let step := fun (row : List Nat) (_ : Nat) =>
    (row.foldl (fun (acc : List Nat) a => (acc.headD 0 + a) :: acc) [row.getLast?.getD 1]).reverse
  ((List.range n).foldl step [1]).headD 1

/-- The Bell numbers: infinity at infinity, the number at a whole index at least zero; a
negative index or one known not to be whole is refused. -/
def bell (args : List Expr) : Except Refusal Expr :=
  match args with
  | [.num .posInf] => .ok (.num .posInf)
  | n :: rest =>
    if n.facts.negative == some true || n.facts.integer == some false then
      .error (.domain "a non-negative integer expected")
    else match intArg? n, rest with
      | some k, [] => .ok (int (bellNumber k.toNat))
      | some k, [x] => .ok (polynomialAt (touchard k.toNat) x)
      | _, _ => .ok (call "bell" args)
  | _ => .ok (call "bell" args)
where
  /-- The coefficients, lowest first, of the Bell polynomial `Σ S(n, k) x^k`, the Stirling
  numbers of the second kind by `S(m+1, k) = k S(m, k) + S(m, k-1)`. -/
  touchard (n : Nat) : List Int :=
    (List.range n).foldl (fun (row : List Int) _ =>
      (List.range (row.length + 1)).map fun (k : Nat) =>
        (k : Int) * row.getD k 0 + (if k = 0 then 0 else row.getD (k - 1) 0)) [1]

/-- The number of derangements of `n` things: `!0 = 1`, `!1 = 0`,
`!n = (n - 1) (!(n-1) + !(n-2))`. -/
def derangements (n : Nat) : Nat :=
  if n = 0 then 1
  else ((List.range (n - 1)).foldl (fun (t : Nat × Nat) i =>
    let (a, b) := t
    (b, (i + 1) * (a + b))) (1, 0)).2

/-- The number of derangements: NaN at NaN, infinity at infinity, the count at a whole number
at least zero. -/
def subfactorial (n : Expr) : Expr :=
  match n with
  | .num .nan => .num .nan
  | .num .posInf => .num .posInf
  | .num (.int k) => if k ≥ 0 then int (derangements k.toNat) else call "subfactorial" [n]
  | _ => call "subfactorial" [n]

/-- The Motzkin number `M n`, from `(n + 2) M n = (2n + 1) M (n-1) + (3n - 3) M (n-2)`. -/
def motzkinNumber (n : Nat) : Nat :=
  ((List.range n).foldl (fun (t : Nat × Nat × Nat) _ =>
    let (k, a, b) := t
    let k := k + 1
    (k, b, if k < 2 then 1 else ((2 * k + 1) * b + (3 * k - 3) * a) / (k + 2))) (0, 1, 1)).2.2

/-- The Motzkin numbers at whole indices at least zero; anything else is refused. -/
def motzkin (n : Expr) : Except Refusal Expr :=
  match intArg? n with
  | some k =>
    if k < 0 then .error (.domain "The provided number must be a positive integer")
    else .ok (int (if k = 0 then 1 else motzkinNumber k.toNat))
  | none => .error (.domain "The provided number must be a positive integer")

/-- The number of partitions `p n`, by Euler's pentagonal recurrence. -/
def partitionNumber (n : Nat) : Nat :=
  let ps := (List.range n).foldl (fun (ps : Array Int) m0 =>
    let m := m0 + 1
    let terms := (List.range m).foldl (fun (acc : Int) k0 =>
      let k := k0 + 1
      let g1 := k * (3 * k - 1) / 2
      let g2 := k * (3 * k + 1) / 2
      let s : Int := if k % 2 = 1 then 1 else -1
      let acc := if g1 ≤ m then acc + s * ps.getD (m - g1) 0 else acc
      if g2 ≤ m then acc + s * ps.getD (m - g2) 0 else acc) 0
    ps.push terms) #[1]
  (ps.getD n 0).toNat

/-- The partition numbers: zero below zero, one at zero and one, the count at a whole number;
an argument known not to be whole is refused. -/
def partition (n : Expr) : Except Refusal Expr :=
  if n.facts.integer == some false then .error (.kind "n should be an integer")
  else if n.facts.negative == some true then .ok zero
  else match intArg? n with
    | some k => if k.toNat ≤ 20000 then .ok (int (partitionNumber k.toNat)) else .ok (call "partition" [n])
    | none => .ok (call "partition" [n])

/-- The harmonic numbers `H n = Σ 1/k`, and `H (n, m) = Σ 1/k^m` with a second argument: zero at
zero, `n` for `m = 0`, the limits at infinity, the unsigned infinity (or NaN) at a negative
whole `n`, and the sum at a whole `n` at least zero. -/
def harmonic (ev : String → List Expr → Expr) (args : List Expr) : Expr :=
  let (n, m) := match args with
    | [n, m] => (n, m)
    | [n] => (n, one)
    | _ => (zero, one)
  let stay := call "harmonic" (if m.isInt 1 then [n] else [n, m])
  if args.length > 2 then call "harmonic" args
  else if n.isZeroNum then zero
  else if m.isZeroNum then n
  else match n with
    | .num .posInf =>
      if m.facts.negative == some true then .num .nan
      else match Expr.decideGe one m with
        | some true => .num .posInf
        | some false => ev "zeta" [m]
        | none => stay
    | _ =>
      -- `(B (1-m) (n+1) - B (1-m)) / (1 - m)` for a whole `m ≤ 0`, which at `n ≥ 0` is `Σ k^(-m)`
      let byBernoulli := fun (j : Int) =>
        let d := (1 - j).toNat
        productOf [sumOf [bernoulliPolynomial d (sumOf [n, one]), negationOf (.num (bernoulliNumber d))],
          frac 1 (1 - j)]
      match intArg? n, intArg? m with
      | none, some j => if j ≤ 0 then byBernoulli j else stay
      | some k, some j =>
        if j ≤ 0 then byBernoulli j
        else if k < 0 then (if j = 1 then .num .complexInf else .num .nan)
        else if k.toNat ≤ 10000 then
          sumOf ((List.range k.toNat).map fun (i : Nat) => powerOf (int (i + 1)) (int (-j)))
        else stay
      | some k, none =>
        if k < 0 then
          (if m.facts.integer == some false || m.facts.positive == some true then .num .nan else stay)
        else if k.toNat ≤ 10000 then
          sumOf ((List.range k.toNat).map fun (i : Nat) => powerOf (int (i + 1)) (negationOf m))
        else stay
      | _, _ => stay

/-- The rising factorial `x (x + 1) ⋯ (x + k - 1)`, and its reciprocal counterpart for a
negative `k`: NaN at NaN, `k!` at `x = 1`, one for `k = 0`, and the product for a whole `k`. -/
def risingFactorial (x k : Expr) : Expr :=
  if x.isNaN || k.isNaN then .num .nan
  else if x.isInt 1 then factorial k
  else match intArg? k with
    | some 0 => one
    | some j =>
      if j > 0 then
        match x with
        | .num .posInf => .num .posInf
        | .num .negInf => .num (if j % 2 = 1 then .negInf else .posInf)
        | _ => productOf ((List.range j.toNat).map fun (i : Nat) => sumOf [x, int i])
      else
        match x with
        | .num .posInf | .num .negInf => .num .posInf
        | _ => powerOf (productOf ((List.range j.natAbs).map fun (i : Nat) => sumOf [x, int (-((i : Int) + 1))]))
            (int (-1))
    | none =>
      if k.facts.integer == some false && x.facts.integer == some true &&
          x.facts.negative == some true then zero
      else call "RisingFactorial" [x, k]

/-- The falling factorial `x (x - 1) ⋯ (x - k + 1)`, and its reciprocal counterpart for a
negative `k`: NaN at NaN, `x!` when `k = x` is whole, one for `k = 0`, and the product for a
whole `k`. -/
def fallingFactorial (x k : Expr) : Expr :=
  if x.isNaN || k.isNaN then .num .nan
  else if k.facts.integer == some true && x.same k then factorial x
  else match intArg? k with
    | some 0 => one
    | some j =>
      if j > 0 then
        match x with
        | .num .posInf => .num .posInf
        | .num .negInf => .num (if j % 2 = 1 then .negInf else .posInf)
        | _ => productOf ((List.range j.toNat).map fun (i : Nat) => sumOf [x, int (-(i : Int))])
      else
        match x with
        | .num .posInf => .num .posInf
        | .num .negInf => .num .posInf
        | _ => powerOf (productOf ((List.range j.natAbs).map fun (i : Nat) => sumOf [x, int (i + 1)]))
            (int (-1))
    | none => call "FallingFactorial" [x, k]

/-! ### Arithmetic functions -/

/-- Euler's totient of the factorization. -/
def totientOf (fs : List (Nat × Nat)) : Nat :=
  fs.foldl (fun acc (p, e) => acc * (p - 1) * p ^ (e - 1)) 1

/-- The reduced totient (Carmichael's function) of the factorization: the least common multiple
of `λ(p^e)`, which is `φ(p^e)` except that `λ(2^e) = 2^(e-2)` for `e ≥ 3`. -/
def reducedTotientOf (fs : List (Nat × Nat)) : Nat :=
  fs.foldl (fun acc (p, e) =>
    let l := if p = 2 ∧ e ≥ 3 then 2 ^ (e - 2) else (p - 1) * p ^ (e - 1)
    Nat.lcm acc l) 1

/-- An arithmetic function of a positive whole number: `f` of its factorization; an argument
known not to be whole, or not to be positive, is refused. -/
def ofPositiveWhole (name : String) (f : List (Nat × Nat) → Nat) (n : Expr) : Except Refusal Expr :=
  if n.facts.integer == some false then .error (.kind "n should be an integer")
  else if n.facts.positive == some false then .error (.domain "n should be a positive integer")
  else match intArg? n with
    | some k => .ok (int (f (primeFactors k.toNat)))
    | none => .ok (call name [n])

/-- The number of primes up to `n`: infinity at infinity, zero at minus infinity and below two,
and the count up to the whole part of a real number; a bound beyond `10^10` stays. -/
def primepi (n : Expr) : Expr :=
  let count := fun (k : Int) =>
    if k < 2 then zero else if k > 10 ^ (10 : Nat) then call "primepi" [n] else int (primeCount k.toNat)
  match n with
  | .num .posInf => .num .posInf
  | .num .negInf => zero
  | .num (.int k) => count k
  | .num (.rat p q) => count (p.tdiv q)
  | .num (.float x _) => count x.floorInt
  | .const c => count (if c == .pi then 3 else c.wholeBounds.1)
  | _ => call "primepi" [n]

/-- The Möbius function: `-1` at a prime, one at one, `(-1)^k` at a product of `k` distinct
primes, zero at a number with a square factor; an argument that is not known to be whole is
refused, and so is a whole number not known to be positive. -/
def mobius (n : Expr) : Except Refusal Expr :=
  if n.facts.integer != some true then .error (.kind "n should be an integer")
  else if n.facts.positive != some true then .error (.domain "n should be a positive integer")
  else match intArg? n with
    | some k =>
      let fs := primeFactors k.toNat
      .ok (if fs.any (·.2 > 1) then zero else int (if fs.length % 2 = 0 then 1 else -1))
    | none => .ok (call "mobius" [n])

/-- A count over the prime factors of a positive whole number (of the distinct ones, or with
multiplicity): an argument known not to be whole, or not positive, is refused. -/
def primeFactorCount (name : String) (withMultiplicity : Bool) (n : Expr) : Except Refusal Expr :=
  if n.facts.integer == some false then .error (.kind "n should be an integer")
  else if n.facts.positive == some false then .error (.domain "n should be a positive integer")
  else match intArg? n with
    | some k =>
      let fs := primeFactors k.toNat
      .ok (int (if withMultiplicity then (fs.map (·.2)).sum else fs.length))
    | none => .ok (call name [n])

/-- The divisor sum `σ_k n = Σ d^k` over the divisors of `n`, with `k = 1` when not given:
`1 + n^k` at a prime, one at one, and the product over the prime powers at a whole number. -/
def divisorSigma (args : List Expr) : Except Refusal Expr :=
  let (n, k) := match args with
    | [n, k] => (n, k)
    | [n] => (n, one)
    | _ => (one, one)
  if n.facts.integer == some false then .error (.kind "n should be an integer")
  else if n.facts.positive == some false then .error (.domain "n should be a positive integer")
  else if k.facts.integer == some false then .error (.kind "k should be an integer")
  else if k.facts.negative == some true then
    .error (.domain "k should be a nonnegative integer")
  else match intArg? n with
    | some m =>
      if isPrime m.toNat then .ok (sumOf [one, powerOf n k])
      else if m = 1 then .ok one
      else
        let fs := primeFactors m.toNat
        match intArg? k with
        | some 0 => .ok (int (fs.foldl (fun acc (_, e) => acc * (e + 1)) 1))
        | some j =>
          .ok (int (fs.foldl (fun acc (p, e) =>
            acc * ((p ^ (j.toNat * (e + 1)) - 1) / (p ^ j.toNat - 1))) 1))
        | none => .ok (call "divisor_sigma" args)
    | none => .ok (call "divisor_sigma" args)

/-- The Jacobi symbol `(a/n)` for an odd positive `n`, by quadratic reciprocity. -/
def jacobiOf (a : Int) (n : Nat) : Int :=
  let rec go : Nat → Nat → Nat → Int → Int
    | 0, _, _, s => s
    | fuel + 1, a, n, s =>
      if a = 0 then (if n = 1 then s else 0)
      else
        let (e, a') := multiplicity 2 a
        let s := if e % 2 = 1 ∧ (n % 8 = 3 ∨ n % 8 = 5) then -s else s
        let s := if a' % 4 = 3 ∧ n % 4 = 3 then -s else s
        go fuel (n % a') a' s
  go (2 * BigFloat.bitLength n + 4) (Int.fmod a n).toNat n 1

/-- The Kronecker symbol `(a/n)`, which extends the Jacobi symbol to every whole `n`. -/
def kroneckerOf (a n : Int) : Int :=
  if n = 0 then (if a.natAbs = 1 then 1 else 0)
  else
    let signPart : Int := if n < 0 ∧ a < 0 then -1 else 1
    let (e, odd) := multiplicity 2 n.natAbs
    let twoPart : Int :=
      if e = 0 then 1
      else if a % 2 = 0 then 0
      else if Int.fmod a 8 = 1 ∨ Int.fmod a 8 = 7 then 1
      else if e % 2 = 0 then 1 else -1
    signPart * twoPart * jacobiOf a odd

/-- The Legendre symbol `(a/p)` for an odd prime `p`. -/
def legendreSymbol (a p : Expr) : Except Refusal Expr :=
  if a.facts.integer == some false then .error (.kind "a should be an integer")
  else if p.facts.integer == some false then .error (.kind "p should be an integer")
  else
    match intArg? p with
    | some q =>
      if q < 3 ∨ !isPrime q.toNat then .error (.domain "p should be an odd prime integer")
      else match intArg? a with
        | some b => .ok (int (jacobiOf b q.toNat))
        | none => .ok (call "legendre_symbol" [a, p])
    | none => .ok (call "legendre_symbol" [a, p])

/-- The Jacobi symbol `(m/n)` for an odd positive `n`. -/
def jacobiSymbol (m n : Expr) : Except Refusal Expr :=
  if m.facts.integer == some false then .error (.kind "m should be an integer")
  else if n.facts.integer == some false then .error (.kind "n should be an integer")
  else if n.facts.positive == some false || n.parity == some true then
    .error (.domain "n should be an odd positive integer")
  else if m.isInt 1 || n.isInt 1 then .ok one
  else match intArg? m, intArg? n with
    | some a, some b => .ok (int (jacobiOf a b.toNat))
    | _, _ => .ok (call "jacobi_symbol" [m, n])

/-- The Kronecker symbol `(a/n)`. -/
def kroneckerSymbol (a n : Expr) : Except Refusal Expr :=
  if a.facts.integer == some false then .error (.kind "a should be an integer")
  else if n.facts.integer == some false then .error (.kind "n should be an integer")
  else if a.isInt 1 || n.isInt 1 then .ok one
  else match intArg? a, intArg? n with
    | some b, some m => .ok (int (kroneckerOf b m))
    | _, _ => .ok (call "kronecker_symbol" [a, n])

end Fn

end ExprTree.Symbolic
