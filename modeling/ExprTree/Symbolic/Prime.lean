import ExprTree.Symbolic.Arith
/-!
  Primes: a primality test, the factorization of a whole number into primes, and the count of
  the primes up to a bound.

  `isPrime` divides by the primes below a hundred and then runs the strong probable-prime test
  to the first twenty prime bases, which decides every number below `3.3 · 10^24` and, as far as
  is known, every larger one. `primeFactors` divides by the numbers up to a thousand and splits
  what is left by Pollard's rho method. `primeCount` counts primes by sieving the values
  `⌊n / k⌋` one prime at a time.
-/

-- The core instances for powers, products and sums of numbers, also where Mathlib's are
-- in scope, so that the definitions below are the same terms in every build.
attribute [local instance (high)] Zero.ofOfNat0

namespace ExprTree.Symbolic

/-- `b ^ e mod m`, by squaring for each bit of `e`. -/
def powMod (b e m : Nat) : Nat :=
  let rec go : Nat → Nat → Nat → Nat → Nat
    | 0, _, _, acc => acc
    | fuel + 1, b, e, acc =>
      if e = 0 then acc
      else go fuel (b * b % m) (e / 2) (if e % 2 = 1 then acc * b % m else acc)
  if m = 1 then 0 else go (BigFloat.bitLength e + 1) (b % m) e 1

/-- The primes below a hundred. -/
def smallPrimes : List Nat :=
  [2, 3, 5, 7, 11, 13, 17, 19, 23, 29, 31, 37, 41, 43, 47, 53, 59, 61, 67, 71, 73, 79, 83, 89,
    97]

/-- Whether the base `a` shows the odd number `n > 2` composite: with `n - 1 = d · 2^s` and `d`
odd, neither `a^d ≡ 1` nor `a^(d·2^r) ≡ -1` for some `r < s`. -/
def witnessComposite (n a : Nat) : Bool :=
  let (s, d) := multiplicity 2 (n - 1)
  let x := powMod a d n
  if x = 1 ∨ x = n - 1 then false
  else
    let rec squares : Nat → Nat → Bool
      | 0, _ => true
      | r + 1, x =>
        let x := x * x % n
        if x = n - 1 then false else squares r x
    squares (s - 1) x

/-- Whether `n` is prime. -/
def isPrime (n : Nat) : Bool :=
  if n < 2 then false
  else if smallPrimes.contains n then true
  else if smallPrimes.any (n % · = 0) then false
  else if n < 10000 then true
  else !(smallPrimes.take 20).any (witnessComposite n)

/-- A factor of the composite odd `n` found by Floyd's cycle search on `x ↦ x² + c mod n` from
two, in at most `fuel` steps; `none` when the search meets `n` itself or runs out. -/
def rhoFactor (n c : Nat) (fuel : Nat) : Option Nat :=
  let f := fun (x : Nat) => (x * x + c) % n
  let rec go : Nat → Nat → Nat → Option Nat
    | 0, _, _ => none
    | k + 1, x, y =>
      let x := f x
      let y := f (f y)
      let d := Nat.gcd (if x ≥ y then x - y else y - x) n
      if d = 1 then go k x y
      else if d = n then none
      else some d
  go fuel 2 2

/-- A proper factor of the composite `n`, trying the constants `c = 1, 2, …` of the rho
search in turn. -/
def splitComposite (n : Nat) : Option Nat :=
  if n % 2 = 0 then some 2
  else (List.range 20).findSome? fun c =>
    rhoFactor n (c + 1) (4 * Nat.sqrt (Nat.sqrt n) + 1000)

/-- The prime factors of `m ≥ 1`, each with multiplicity one per time it is found, unsorted;
`fuel` bounds the depth of splitting. -/
def splitFactors : Nat → Nat → List (Nat × Nat)
  | 0, m => [(m, 1)]
  | fuel + 1, m =>
    if m ≤ 1 then []
    else if isPrime m then [(m, 1)]
    else match splitComposite m with
      | some d => splitFactors fuel d ++ splitFactors fuel (m / d)
      | none => [(m, 1)]

/-- Gathers equal primes of a list of factors, adding their multiplicities, in increasing
order. -/
def gatherFactors (fs : List (Nat × Nat)) : List (Nat × Nat) :=
  let ps := (fs.map (·.1)).eraseDups.mergeSort (· ≤ ·)
  ps.map fun p => (p, ((fs.filter (·.1 == p)).map (·.2)).sum)

/-- The factorization of `n ≥ 1` into primes with their multiplicities, in increasing order:
trial division by the numbers up to a thousand, then splitting what is left. -/
def primeFactors (n : Nat) : List (Nat × Nat) :=
  let rec trial : Nat → Nat → Nat → List (Nat × Nat) → Nat × List (Nat × Nat)
    | 0, _, m, acc => (m, acc)
    | fuel + 1, d, m, acc =>
      if m = 1 ∨ d * d > m then (m, acc)
      else
        let (e, r) := multiplicity d m
        trial fuel (d + 1) r (if e > 0 then (d, e) :: acc else acc)
  if n ≤ 1 then []
  else
    let (m, small) := trial 999 2 n []
    gatherFactors (small ++ splitFactors 64 m)

/-- The number of primes up to `n`. For each value `v = ⌊n / k⌋` it keeps the count of numbers
from two to `v` with no prime factor below the current prime, and strikes out the multiples of
each prime up to `√n` in turn. -/
def primeCount (n : Nat) : Nat :=
  if n < 2 then 0
  else
    let r := Nat.sqrt n
    -- counts for the values `v ≤ r` at `small[v]`, and for `v = n / k` (`k ≤ r`) at `large[k]`
    let small : Array Nat := Array.ofFn (n := r + 1) fun i => i.val - 1
    let large : Array Nat := Array.ofFn (n := r + 1) fun i =>
      if i.val = 0 then 0 else n / i.val - 1
    let get := fun (small large : Array Nat) (v : Nat) =>
      if v ≤ r then small.getD v 0 else large.getD (n / v) 0
    let step := fun (st : Array Nat × Array Nat) (p : Nat) =>
      let (small, large) := st
      if p < 2 ∨ small.getD p 0 ≤ small.getD (p - 1) 0 then st
      else
        let sp := small.getD (p - 1) 0
        let p2 := p * p
        -- the large values first, in increasing `k`, since each reads smaller values
        let large := (List.range r).foldl (fun (lg : Array Nat) k0 =>
          let k := k0 + 1
          let v := n / k
          if v < p2 then lg
          else lg.set! k (lg.getD k 0 - (get small lg (v / p) - sp))) large
        let small := (List.range r).foldl (fun (sm : Array Nat) i =>
          let v := r - i
          if v < p2 then sm
          else sm.set! v (sm.getD v 0 - (sm.getD (v / p) 0 - sp))) small
        (small, large)
    let (small, large) := (List.range (r + 1)).foldl step (small, large)
    get small large n

end ExprTree.Symbolic
