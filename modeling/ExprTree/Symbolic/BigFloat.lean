/-!
  Binary floating-point numbers of any precision, `(-1)^neg · man · 2^exp`, as symbolic numbers
  use them. An operation computes its result exactly and rounds it once to the requested number
  of bits, to the nearest with ties to even unless another rule is asked for. Two operations bound
  their work instead: a sum whose smaller term lies far below the larger one's last place, and a
  high whole power, which is found by repeated squaring at a working precision above the target.
  `BigFloat.digits` writes a number with a given count of significant decimal digits: the digits
  are first cut toward zero a few places further and then rounded on the first digit cut off. A
  number whose leading bit lies more than 3500 places from the point is first divided by a power
  of ten near it, so that no digit text longer than the precision asks for is ever built.
-/

-- The core instances for powers, products and sums of numbers, also where Mathlib's are
-- in scope, so that the definitions below are the same terms in every build.
attribute [local instance (high)] instPowNat

namespace ExprTree.Symbolic

/-- A binary number `(-1)^neg · man · 2^exp`; `man` is odd, or zero for the number zero. -/
structure BigFloat where
  neg : Bool
  man : Nat
  exp : Int
  deriving DecidableEq, Inhabited

/-- How a result is rounded to a number of bits: to the nearest with ties to even, toward zero,
or away from zero. -/
inductive Rounding where
  | nearest
  | down
  | up
  deriving DecidableEq, Inhabited

/-- The rule for a reciprocal whose result is to be rounded by the given rule: cutting the
divisor toward zero moves the quotient away from zero, and the other way round. -/
def Rounding.reciprocal : Rounding → Rounding
  | .nearest => .nearest
  | .down => .up
  | .up => .down

namespace BigFloat

/-- The number zero. -/
def zero : BigFloat := ⟨false, 0, 0⟩

/-- The number of binary digits of `n`; zero has none. -/
def bitLength (n : Nat) : Nat := if n = 0 then 0 else Nat.log2 n + 1

/-- The number of trailing zero bits of a positive `n`: with `t` of them, `n` and `n - 1`
differ exactly in their last `t + 1` bits. -/
def trailingZeros (n : Nat) : Nat := if n = 0 then 0 else Nat.log2 (n ^^^ (n - 1))

/-- The number with the given sign, magnitude and exponent, with trailing zero bits moved into
the exponent. -/
def normalize (neg : Bool) (man : Nat) (exp : Int) : BigFloat :=
  if man = 0 then zero
  else
    let t := trailingZeros man
    ⟨neg, man >>> t, exp + t⟩

/-- Whether the number is zero. -/
def isZero (x : BigFloat) : Bool := x.man = 0

/-- Whether a quotient `q` with remainder `r` by `den` is moved up by one unit under a rule. -/
def roundsUp (mode : Rounding) (q r den : Nat) : Bool :=
  match mode with
  | .nearest => 2 * r > den || (2 * r == den && q % 2 == 1)
  | .down => false
  | .up => r > 0

/-- The quotient `n / d` rounded to `prec` bits by `mode`, times `2 ^ shift`. -/
def roundQuotient (mode : Rounding) (neg : Bool) (n d : Nat) (shift : Int) (prec : Nat) :
    BigFloat :=
  if n = 0 ∨ d = 0 then zero
  else
    let s0 : Int := (bitLength n : Int) - bitLength d - prec
    let quot (s : Int) : Nat × Nat × Nat :=
      if d = 1 ∧ s ≥ 0 then
        let q := n >>> s.toNat
        (q, n - (q <<< s.toNat), 1 <<< s.toNat)
      else
        let num := n <<< (-s).toNat
        let den := d <<< s.toNat
        (num / den, num % den, den)
    let s := if (quot s0).1 ≥ 2 ^ prec then s0 + 1 else s0
    let s := if (quot s).1 < 2 ^ (prec - 1) then s - 1 else s
    let (q, r, den) := quot s
    normalize neg (if roundsUp mode q r den then q + 1 else q) (s + shift)

/-- The number `m · 2 ^ e` rounded to `prec` bits by `mode`. -/
def ofIntBy (mode : Rounding) (neg : Bool) (m : Nat) (e : Int) (prec : Nat) : BigFloat :=
  roundQuotient mode neg m 1 e prec

/-- The number `m · 2 ^ e` rounded to `prec` bits. -/
def ofInt (neg : Bool) (m : Nat) (e : Int) (prec : Nat) : BigFloat :=
  ofIntBy .nearest neg m e prec

/-- The rational `p / q` rounded to `prec` bits. -/
def ofRat (p : Int) (q : Nat) (prec : Nat) : BigFloat :=
  roundQuotient .nearest (p < 0) p.natAbs q 0 prec

/-- The exact value of a binary64 float, which must be finite. -/
def ofFloat (x : Float) : BigFloat :=
  let b := x.toBits.toNat
  let neg := b / 2 ^ (63 : Nat) % 2 = 1
  let field : Nat := b / 2 ^ (52 : Nat) % 2 ^ (11 : Nat)
  let frac : Nat := b % 2 ^ (52 : Nat)
  if field = 0 then normalize neg frac (-1074)
  else normalize neg (frac + 2 ^ (52 : Nat)) ((field : Int) - 1075)

/-- The signed mantissa. -/
def signedMan (x : BigFloat) : Int := if x.neg then -(x.man : Int) else x.man

/-- One past the place of the leading bit: `2 ^ (top - 1) ≤ |x| < 2 ^ top` when `x ≠ 0`. -/
def top (x : BigFloat) : Int := x.exp + bitLength x.man

/-- The number rounded to `prec` bits by `mode`. -/
def roundBy (mode : Rounding) (x : BigFloat) (prec : Nat) : BigFloat :=
  ofIntBy mode x.neg x.man x.exp prec

/-- The number rounded to `prec` bits. -/
def round (x : BigFloat) (prec : Nat) : BigFloat := roundBy .nearest x prec

/-- The sum rounded to `prec` bits. When the smaller term lies more than `prec + 4` places
below the larger one (and more than a hundred places apart in exponent), it only decides the
direction of rounding, so it is replaced by one unit `prec + 4` places below the larger term's
last bit, with the smaller term's sign. -/
def add (x y : BigFloat) (prec : Nat) : BigFloat :=
  if x.isZero then y.round prec
  else if y.isZero then x.round prec
  else
    let (s, t) := if x.exp ≥ y.exp then (x, y) else (y, x)
    let offset := s.exp - t.exp
    if offset > 100 ∧ s.top - t.top > (prec : Int) + 4 then
      let m := s.man <<< (prec + 4)
      let m := if s.neg == t.neg then m + 1 else m - 1
      ofInt s.neg m (s.exp - ((prec + 4 : Nat) : Int)) prec
    else
      let a := s.man <<< offset.toNat
      if s.neg == t.neg then ofInt s.neg (a + t.man) t.exp prec
      else if a ≥ t.man then ofInt s.neg (a - t.man) t.exp prec
      else ofInt t.neg (t.man - a) t.exp prec

/-- The negation. -/
def neg' (x : BigFloat) : BigFloat := if x.isZero then x else { x with neg := !x.neg }

/-- The exact product rounded to `prec` bits. -/
def mul (x y : BigFloat) (prec : Nat) : BigFloat :=
  ofInt (x.neg != y.neg) (x.man * y.man) (x.exp + y.exp) prec

/-- The quotient rounded to `prec` bits by `mode`; the divisor must not be zero. -/
def divBy (mode : Rounding) (x y : BigFloat) (prec : Nat) : BigFloat :=
  roundQuotient mode (x.neg != y.neg) x.man y.man (x.exp - y.exp) prec

/-- The quotient rounded to `prec` bits; the divisor must not be zero. -/
def div (x y : BigFloat) (prec : Nat) : BigFloat := divBy .nearest x y prec

/-- The square root of a nonnegative number rounded to `prec` bits by `mode`. The whole root
`r` of the scaled mantissa has at least `prec + 4` bits; when it is not exact, the root lies
strictly between `r` and `r + 1`, and so rounds as `r + 1/2` does. -/
def sqrtBy (mode : Rounding) (x : BigFloat) (prec : Nat) : BigFloat :=
  if x.isZero then zero
  else
    -- shift so that the exponent is even and the root has at least `prec + 4` bits
    let want : Int := 2 * (prec + 4) - bitLength x.man
    let sh0 : Int := max want 0
    let sh : Int := if (x.exp - sh0) % 2 = 0 then sh0 else sh0 + 1
    let n := x.man <<< sh.toNat
    let r := Nat.sqrt n
    let e := (x.exp - sh) / 2
    if r * r = n then ofIntBy mode false r e prec
    else ofIntBy mode false (2 * r + 1) (e - 1) prec

/-- The square root of a nonnegative number rounded to `prec` bits. -/
def sqrt (x : BigFloat) (prec : Nat) : BigFloat := sqrtBy .nearest x prec

/-- The number one. -/
def one : BigFloat := ⟨false, 1, 0⟩

/-- A magnitude `m · 2 ^ e` cut to at most `w` bits, toward zero when `down` and away from it
otherwise. -/
def cutTo (down : Bool) (w : Nat) (m : Nat) (e : Int) : Nat × Int :=
  let b := bitLength m
  if b > w then
    let k := b - w
    (if down then m >>> k else (m + (1 <<< k) - 1) >>> k, e + k)
  else (m, e)

/-- Repeated squaring for `pm · 2^pe · (man · 2^exp) ^ n`, every product cut to `w` bits. -/
def squaring (down : Bool) (w : Nat) : Nat → Nat → Nat → Int → Nat → Int → Nat × Int
  | 0, _, _, _, pm, pe => (pm, pe)
  | fuel + 1, n, man, exp, pm, pe =>
    let (pm, pe, n) :=
      if n % 2 = 1 then
        let (m, e) := cutTo down w (pm * man) (pe + exp)
        (m, e, n - 1)
      else (pm, pe, n)
    if n = 0 then (pm, pe)
    else
      let (man, exp) := cutTo down w (man * man) (exp + exp)
      squaring down w fuel (n / 2) man exp pm pe

/-- The power `x ^ n` for `n ≥ 2`, rounded to `prec` bits by `mode`. A square, a power of two
and a power of fewer than a thousand bits are exact before rounding; a larger power is found by
repeated squaring at `prec + 4 · bits(n) + 4` bits, which keeps the error below the last place. -/
def powNat (mode : Rounding) (x : BigFloat) (n : Nat) (prec : Nat) : BigFloat :=
  let neg := x.neg && n % 2 == 1
  if x.isZero then zero
  else if n = 2 then ofIntBy mode false (x.man * x.man) (2 * x.exp) prec
  else if x.man = 1 then ⟨neg, 1, x.exp * n⟩
  else if bitLength x.man * n < 1000 then ofIntBy mode neg (x.man ^ n) (x.exp * n) prec
  else
    let w := prec + 4 * bitLength n + 4
    let (m, e) := squaring (mode != .up) w (2 * bitLength n + 2) n x.man x.exp 1 0
    ofIntBy mode neg m e prec

/-- The whole power `x ^ n` rounded to `prec` bits by `mode`; a negative power is the
reciprocal of the positive power taken five bits finer and rounded the other way, so that it is
rounded twice. The number must not be zero when `n < 0`. -/
def powIntBy (mode : Rounding) (x : BigFloat) (n : Int) (prec : Nat) : BigFloat :=
  if n = 0 then one
  else if n = 1 then x.roundBy mode prec
  else if n = -1 then divBy mode one x prec
  else if n > 0 then powNat mode x n.toNat prec
  else divBy mode one (powNat mode.reciprocal x n.natAbs (prec + 5)) prec

/-- The whole power `x ^ n` rounded to `prec` bits. -/
def powInt (x : BigFloat) (n : Int) (prec : Nat) : BigFloat := powIntBy .nearest x n prec

/-- Compares the magnitudes of two nonzero numbers: by the place of the leading bit first, and
only when that agrees by the aligned mantissas. -/
def compareMagnitude (x y : BigFloat) : Ordering :=
  if x.top ≠ y.top then compare x.top y.top
  else
    let e := min x.exp y.exp
    compare (x.man <<< (x.exp - e).toNat) (y.man <<< (y.exp - e).toNat)

/-- The sign: `1`, `-1` or `0`. -/
def sign (x : BigFloat) : Int := if x.isZero then 0 else if x.neg then -1 else 1

/-- Compares two numbers by value. -/
def compare' (x y : BigFloat) : Ordering :=
  match compare x.sign y.sign with
  | .eq =>
    if x.isZero then .eq
    else if x.neg then compareMagnitude y x
    else compareMagnitude x y
  | o => o

/-- Compares a number with the fraction `p / q`, `q ≥ 1`. The magnitudes are first told apart
by the places of their leading bits; only when these are close are the exact values compared. -/
def compareRat (x : BigFloat) (p : Int) (q : Nat) : Ordering :=
  let sp : Int := if p > 0 then 1 else if p < 0 then -1 else 0
  match compare x.sign sp with
  | .eq =>
    if sp = 0 then .eq
    else
      let d : Int := (bitLength p.natAbs : Int) - bitLength q
      let mag :=
        if x.top - 1 ≥ d + 1 then Ordering.gt
        else if x.top ≤ d - 1 then Ordering.lt
        else if x.exp ≥ 0 then compare ((x.man <<< x.exp.toNat) * q) p.natAbs
        else compare (x.man * q) (p.natAbs <<< (-x.exp).toNat)
      if x.neg then mag.swap else mag
  | o => o

/-- The nearest binary64 float; beyond the range of floats, an infinity or a zero of the sign.
A negative power of two `2^-k` is `5^k / 10^k`, so both cases are one correctly rounded
decimal conversion. -/
def toFloat (x : BigFloat) : Float :=
  let v :=
    if x.top > 1100 then 1.0 / 0.0
    else if x.top < -1100 then 0.0
    else if x.exp ≥ 0 then Float.ofScientific (x.man <<< x.exp.toNat) false 0
    else Float.ofScientific (x.man * 5 ^ (-x.exp).toNat) true (-x.exp).toNat
  if x.neg then -v else v

/-- The number of decimal digits that a precision of `prec` bits carries. -/
def precToDigits (prec : Nat) : Nat :=
  let r := (prec.toFloat / 3.3219280948873626).round
  max 1 (r.toUInt64.toNat - 1)

/-- The number of bits that carry `dps` decimal digits. -/
def digitsToPrec (dps : Nat) : Nat :=
  max 1 (((dps + 1).toFloat * 3.3219280948873626).round.toUInt64.toNat)

/-- The sum `Σ ⌊2^w / ((2j+1) · m^(2j+1))⌋` over `j ≥ 0`, which is `2^w · atanh (1/m)` less
at most one unit per term, for `m ≥ 2`. -/
def atanhInvFixed (m w : Nat) : Nat :=
  let unit := 1 <<< w
  let rec go : Nat → Nat → Nat → Nat → Nat
    | 0, _, _, acc => acc
    | fuel + 1, j, p, acc =>
      let t := unit / ((2 * j + 1) * p)
      if t = 0 then acc else go fuel (j + 1) (p * m * m) (acc + t)
  go (w + 1) 0 m 0

/-- The pair `⌊2^k · log 2⌋` and `⌊2^k · log 10⌋`, from `log 2 = 2 atanh (1/3)` and
`log 10 = 3 log 2 + 2 atanh (1/9)`. The series are summed with `2 · bits(k) + 10` bits more
than asked, which exceed the error of the cut terms. -/
def logFixed (k : Nat) : Nat × Nat :=
  let g := 2 * bitLength k + 10
  let w := k + g
  let l2 := 2 * atanhInvFixed 3 w
  let l10 := 3 * l2 + 2 * atanhInvFixed 9 w
  (l2 >>> g, l10 >>> g)

/-- The whole part of `e · log 2 / log 10` toward zero, from `log 2` and `log 10` cut to
`bits(e) + 5` significant bits, which leaves the whole part unchanged. -/
def decimalShift (e : Int) : Int :=
  let k := bitLength e.natAbs + 5
  let (l2, l10) := logFixed k
  Int.tdiv (e * l2) (l10 / 4 * 4)

/-- The decimal digits of a nonzero magnitude `man · 2^exp`, cut toward zero: the digit text and
the decimal exponent of its first digit. About `dps` digits are produced, often more. A
magnitude whose leading bit lies more than 3500 places from the point is first divided by the
power of ten `10^b` nearest below it, both cut toward zero, and `b` is added to the exponent. -/
def digitsToward (man : Nat) (exp : Int) (dps : Nat) : String × Int :=
  let bitprec : Nat := (dps.toFloat * 3.3219280948873626).floor.toUInt64.toNat + 10
  let (man, exp, shift) :=
    if (exp + bitLength man).natAbs > 3500 then
      let b := decimalShift exp
      let ten : BigFloat := ⟨false, 5, 1⟩
      let s := divBy .down ⟨false, man, exp⟩ (powIntBy .down ten b bitprec) bitprec
      (s.man, s.exp, b)
    else (man, exp, 0)
  let bc : Int := bitLength man
  let fixprec : Nat := ((bitprec : Int) - exp - bc).toNat
  let fixdps : Nat := (fixprec.toFloat / 3.3219280948873626 + 0.5).floor.toUInt64.toNat
  let offset : Int := exp + fixprec
  let sf := if offset ≥ 0 then man <<< offset.toNat else man >>> (-offset).toNat
  let sd := (sf * 10 ^ fixdps) >>> fixprec
  let ds := toString sd
  (ds, (ds.length : Int) - fixdps - 1 + shift)

/-- The increment of a digit text by one unit in its last place; the flag tells whether a
carry ran out of the front. -/
def incrementDigits (ds : List Char) : List Char × Bool :=
  let rec go : List Char → List Char × Bool
    | [] => ([], true)
    | c :: rest =>
      let (rest', carry) := go rest
      if carry then
        if c = '9' then ('0' :: rest', true) else (Char.ofNat (c.toNat + 1) :: rest', false)
      else (c :: rest', false)
  go ds

/-- Writes a number with `dps` significant digits: positionally when its decimal exponent lies
strictly between `min (-(dps / 3)) (-5)` and `dps`, otherwise with an exponent `e+N` or `e-N`;
with `strip`, trailing zeros after the point are removed, keeping one digit after it. -/
def digits (x : BigFloat) (dps : Nat) (strip : Bool) : String :=
  if x.isZero then (if dps = 0 then ".0" else "0.0")
  else
    let sign := if x.neg then "-" else ""
    let minFixed : Int := min (-((dps / 3 : Nat) : Int)) (-5)
    let maxFixed : Int := dps
    let (ds, e0) := digitsToward x.man x.exp (dps + 3)
    let cs := ds.toList
    let (cs, e) :=
      if dps = 0 then
        (['.', '0'], if (cs.headD '0').toNat ≥ '5'.toNat then e0 + 1 else e0)
      else if cs.length > dps ∧ (cs.getD dps '0').toNat ≥ '5'.toNat then
        let (inc, carry) := incrementDigits (cs.take dps)
        if carry then ('1' :: List.replicate (dps - 1) '0', e0 + 1) else (inc, e0)
      else (cs.take dps, e0)
    if dps = 0 then sign ++ String.ofList cs ++ (if e ≥ 0 then "e+" ++ toString e else "e" ++ toString e)
    else
      let (cs, split, e) :=
        if minFixed < e ∧ e < maxFixed then
          if e < 0 then (List.replicate e.natAbs '0' ++ cs, 1, (0 : Int))
          else
            let split := e.toNat + 1
            (if split > dps then cs ++ List.replicate (split - dps) '0' else cs, split, (0 : Int))
        else (cs, 1, e)
      let body := cs.take split ++ ['.'] ++ cs.drop split
      let body := if strip then
          let t := (body.reverse.dropWhile (· = '0')).reverse
          if t.getLast? = some '.' then t ++ ['0'] else t
        else body
      let text := String.ofList body
      if e = 0 then sign ++ text
      else if e > 0 then sign ++ text ++ "e+" ++ toString e
      else sign ++ text ++ "e" ++ toString e

end BigFloat

end ExprTree.Symbolic
