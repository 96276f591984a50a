import ExprTree.Symbolic.BigFloat
/-!
  The logarithm, exponential, cosine, sine and inverse tangent of binary floats, and the
  constant `π`, rounded to any precision.

  Each function is evaluated in fixed point: a whole number `A` stands for `A / 2^w`, with a
  working precision `w` sixty-four bits above the target (more where the result is small against
  its argument), and the result is rounded once by the requested rule. The series are summed
  with every term cut to whole units, so the error is a few units of `2^-w` and the rounding is
  the exact one unless the true value lies within about `2^-58` units of a rounding boundary.

  * `log x` reduces `x` to `m · 2^e` with `m` between `1/√2` and `√2`, and sums
    `log m = 2 atanh ((m - 1) / (m + 1))`.
  * `exp y` takes out the nearest multiple `n · log 2` and sums the Taylor series of the rest,
    which lies within `±(log 2) / 2`.
  * `cos` and `sin` take out the nearest multiple of `π / 2`, found with as many bits of `π` as
    the argument needs to leave a remainder of full precision, and sum both Taylor series.
  * `π = 16 atan (1/5) - 4 atan (1/239)`.
  * `atan t` for `0 ≤ t ≤ 1` halves its argument eight times, then sums the series; the other
    inverse circular functions are angles of points `(b, a)` built from their argument.
-/

namespace ExprTree.Symbolic

namespace BigFloat

/-- The product without rounding. -/
def mulExact (x y : BigFloat) : BigFloat :=
  normalize (x.neg != y.neg) (x.man * y.man) (x.exp + y.exp)

/-- The number `x · 2^w` cut to a whole number toward zero. -/
def toFixed (x : BigFloat) (w : Nat) : Int :=
  let s : Int := x.exp + w
  let m : Nat := if s ≥ 0 then x.man <<< s.toNat else x.man >>> (-s).toNat
  if x.neg then -(m : Int) else m

/-- The fixed-point number `a / 2^w` rounded to `prec` bits by `mode`. -/
def ofFixed (mode : Rounding) (a : Int) (w : Nat) (prec : Nat) : BigFloat :=
  ofIntBy mode (a < 0) a.natAbs (-(w : Int)) prec

/-- The product of two fixed-point numbers with `w` bits after the point, cut toward negative
infinity. -/
def fixedMul (a b : Int) (w : Nat) : Int := (a * b) >>> w

/-- `⌊2^w · log 2⌋` up to a unit, from `log 2 = 2 atanh (1/3)` summed with guard bits. -/
def logTwoFixed (w : Nat) : Int :=
  let g := 2 * bitLength w + 10
  ((2 * atanhInvFixed 3 (w + g)) >>> g : Nat)

/-- The sum `Σ (-1)^j ⌊2^w / ((2j+1) · m^(2j+1))⌋`, which is `2^w · atan (1/m)` up to a unit per
term, for `m ≥ 2`. -/
def atanInvFixed (m w : Nat) : Int :=
  let unit := 1 <<< w
  let rec go : Nat → Nat → Nat → Int → Int
    | 0, _, _, acc => acc
    | fuel + 1, j, p, acc =>
      let t := unit / ((2 * j + 1) * p)
      if t = 0 then acc
      else go fuel (j + 1) (p * m * m) (if j % 2 = 0 then acc + t else acc - t)
  go (w + 1) 0 m 0

/-- `⌊2^w · π⌋` up to a unit, from `π = 16 atan (1/5) - 4 atan (1/239)` summed with guard
bits. -/
def piFixed (w : Nat) : Int :=
  let g := 2 * bitLength w + 10
  (16 * atanInvFixed 5 (w + g) - 4 * atanInvFixed 239 (w + g)) >>> g

/-- The sum `Σ z^(2j+1) / (2j+1)` in fixed point with `w` bits, which is `atanh z` for a small
fixed-point `z`; each term is cut to whole units. -/
def atanhFixed (z : Int) (w : Nat) : Int :=
  let z2 := fixedMul z z w
  let rec go : Nat → Nat → Int → Int → Int
    | 0, _, _, acc => acc
    | fuel + 1, j, p, acc =>
      if p = 0 then acc
      else go fuel (j + 1) (fixedMul p z2 w) (acc + p.tdiv (2 * j + 1))
  go (w + 1) 0 z 0

/-- `log x` in fixed point with `w` bits for a positive `x`: with `x = m · 2^e` and `m` between
`1/√2` and `√2`, it is `2 atanh ((m - 1) / (m + 1)) + e · log 2`. -/
def logFixedOf (x : BigFloat) (w : Nat) : Int :=
  let bl := bitLength x.man
  -- `x = m · 2^e` with `m` in `[1, 2)`, `m` held with `w` bits after the point
  let m : Int := ((x.man <<< w) >>> (bl - 1) : Nat)
  let e : Int := x.exp + bl - 1
  let unit : Int := ((1 <<< w : Nat) : Int)
  -- halve `m` above `√2`, that is when `m² > 2`
  let (m, e) := if m * m > 2 * unit * unit then (m / 2, e + 1) else (m, e)
  let z := (m - unit) * unit / (m + unit)
  let k := bitLength e.natAbs + 2
  2 * atanhFixed z w + ((e * logTwoFixed (w + k)) >>> k)

/-- The exact difference `x - 1`, for an `x` whose leading bit lies within a few places of the
point. -/
def minusOne (x : BigFloat) : BigFloat :=
  let e := min x.exp 0
  let a : Int := x.signedMan * ((1 <<< (x.exp - e).toNat : Nat) : Int)
  let v := a - ((1 <<< (-e).toNat : Nat) : Int)
  normalize (v < 0) v.natAbs e

/-- How many places below one the difference `x - 1` begins, for a positive `x` other than
one: the bits that the logarithm, which is about `x - 1` near one, loses against its argument. -/
def placesBelowOne (x : BigFloat) : Nat :=
  if x.top > 2 ∨ x.top < -1 then 0 else (-(minusOne x).top).toNat

/-- The natural logarithm of a positive number, rounded to `prec` bits by `mode`. Near one the
working precision grows by the places that `x - 1` lies below one. -/
def logarithm (mode : Rounding) (x : BigFloat) (prec : Nat) : BigFloat :=
  if x.man = 1 ∧ x.exp = 0 then zero
  else
    let w := prec + 64 + placesBelowOne x
    ofFixed mode (logFixedOf x w) w prec

/-- The Taylor sum `Σ r^k / k!` in fixed point with `w` bits, each term cut to whole units. -/
def expSeries (r : Int) (w : Nat) : Int :=
  let unit : Int := ((1 <<< w : Nat) : Int)
  let rec go : Nat → Nat → Int → Int → Int
    | 0, _, _, acc => acc
    | fuel + 1, k, t, acc =>
      let t := (fixedMul t r w).tdiv k
      if t = 0 then acc else go fuel (k + 1) t (acc + t)
  go (w + 1) 1 unit unit

/-- The exponential rounded to `prec` bits by `mode`: `exp y = 2^n · exp (y - n log 2)` with `n`
the whole number nearest to `y / log 2`. -/
def exponential (mode : Rounding) (y : BigFloat) (prec : Nat) : BigFloat :=
  if y.isZero then one
  else
    let w := prec + 64
    -- bits for the multiple of `log 2` taken out, so that the rest keeps `w` bits
    let w1 := w + (max y.top 0).toNat + 8
    let l := logTwoFixed w1
    let yv := y.toFixed w1
    let n := Int.fdiv (yv + l / 2) l
    let r := (yv - n * l) >>> (w1 - w)
    ofIntBy mode false (expSeries r w).toNat (n - w) prec

/-- The Taylor sums of `cos r` and `sin r` in fixed point with `w` bits, each term cut to
whole units. -/
def cosSinSeries (r : Int) (w : Nat) : Int × Int :=
  let r2 := fixedMul r r w
  let unit : Int := ((1 <<< w : Nat) : Int)
  let rec go : Nat → Nat → Int → Int → Int → Int → Int × Int
    | 0, _, _, _, c, s => (c, s)
    | fuel + 1, k, tc, ts, c, s =>
      -- the terms `(-1)^k r^(2k) / (2k)!` and `(-1)^k r^(2k+1) / (2k+1)!`
      let tc := -(fixedMul tc r2 w).tdiv ((2 * k - 1) * (2 * k))
      let ts := -(fixedMul ts r2 w).tdiv ((2 * k) * (2 * k + 1))
      if tc = 0 ∧ ts = 0 then (c, s) else go fuel (k + 1) tc ts (c + tc) (s + ts)
  go (w + 1) 1 unit r unit r

/-- The argument less the nearest multiple `q` of `π / 2`, in fixed point with `w` bits, with
`q` and `w`. The working precision is raised, at most `fuel` times, until the remainder has
`need` significant bits. -/
def reduceQuarter (b : BigFloat) (need : Nat) (fuel w : Nat) : Int × Int × Nat :=
  let halfPi := piFixed (w + 1) >>> 2
  let bv := b.toFixed w
  let q := Int.fdiv (bv + halfPi / 2) halfPi
  let r := bv - q * halfPi
  let got := bitLength r.natAbs
  match fuel with
  | 0 => (r, q, w)
  | fuel + 1 => if got ≥ need then (r, q, w) else reduceQuarter b need fuel (w + need - got + 32)

/-- The cosine and sine, each rounded to `prec` bits by `mode`. -/
def cosSin (mode : Rounding) (b : BigFloat) (prec : Nat) : BigFloat × BigFloat :=
  if b.isZero then (one, zero)
  else
    -- the multiple of `π / 2` taken out carries an error of about `|q|` units
    let need := prec + 64 + (max b.top 0).toNat
    let w0 := need + 8
    let (r, q, w) := reduceQuarter b need 8 w0
    let (c, s) := cosSinSeries r w
    let (c, s) := match Int.fmod q 4 with
      | 0 => (c, s)
      | 1 => (-s, c)
      | 2 => (-c, -s)
      | _ => (s, -c)
    (ofFixed mode c w prec, ofFixed mode s w prec)

/-- The Taylor sum `Σ (-1)^j z^(2j+1) / (2j+1)` in fixed point with `w` bits, which is `atan z`
for a small fixed-point `z`; each term is cut to whole units. -/
def atanSeries (z : Int) (w : Nat) : Int :=
  let z2 := fixedMul z z w
  let rec go : Nat → Nat → Int → Int → Int
    | 0, _, _, acc => acc
    | fuel + 1, j, p, acc =>
      if p = 0 then acc
      else go fuel (j + 1) (-(fixedMul p z2 w)) (acc + p.tdiv (2 * j + 1))
  go (w + 1) 0 z 0

/-- `2^w · atan t` for a fixed-point `t` between zero and one: the argument is halved eight
times by `atan t = 2 atan (t / (1 + √(1 + t²)))`, which leaves it below `2^-8`, and the series
summed. -/
def atanFixed (t : Nat) (w : Nat) : Int :=
  let unit := 1 <<< w
  let small := (List.range 8).foldl
    (fun (t : Nat) _ => t * unit / (unit + Nat.sqrt (unit * unit + t * t))) t
  atanSeries small w * 256

/-- `2^w · atan (a / b)` for whole numbers `a ≥ 0` and `b > 0`, the angle of the point `(b, a)`:
`atan (a / b)` when `a ≤ b`, else `π/2 - atan (b / a)`. -/
def atanRatioFixed (a b : Nat) (w : Nat) : Int :=
  let unit := 1 <<< w
  if a ≤ b then atanFixed (a * unit / b) w
  else piFixed w / 2 - atanFixed (b * unit / a) w

/-- The constant `π` rounded to `prec` bits by `mode`. -/
def pi (mode : Rounding) (prec : Nat) : BigFloat :=
  let w := prec + 64
  ofFixed mode (piFixed w) w prec

end BigFloat

end ExprTree.Symbolic
