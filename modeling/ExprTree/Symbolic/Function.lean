import ExprTree.Symbolic.Printer
/-!
  Functions of symbolic expressions and the rules by which their applications evaluate: whole
  parts, factorials and the binomial coefficient, parts of complex values, the sign and the
  absolute value, logarithms, the maximum and minimum, and remainders.

  An application evaluates where a rule gives its value: at numbers and named constants, and by
  taking out the parts whose value is known (whole terms out of `floor` and `ceiling`, known
  factors out of `Abs`). A float argument makes the logarithm evaluate to a float of its
  precision. Where no rule applies the application stays as it is.
-/

-- The core instances for powers, products and sums of numbers, also where Mathlib's are
-- in scope, so that the definitions below are the same terms in every build.
attribute [local instance (high)] instPowNat

namespace ExprTree.Symbolic

namespace BigFloat

/-- The greatest whole number not above a binary number. -/
def floorInt (x : BigFloat) : Int :=
  if x.exp ≥ 0 then x.signedMan * 2 ^ x.exp.toNat
  else Int.fdiv x.signedMan (2 ^ (-x.exp).toNat)

/-- Whether a binary number is a whole number. -/
def isWhole (x : BigFloat) : Bool := x.isZero || x.exp ≥ 0

end BigFloat

namespace Num

/-- The negation, with a float zero kept as it is. -/
def negKeep : Num → Num
  | .float x p => if x.isZero then .float x p else Num.neg (.float x p)
  | n => n.neg

/-- The whole number below a number, or above it when `up`; the infinities and NaN stay. -/
def toWhole (up : Bool) : Num → Num
  | .int n => .int n
  | .rat p q => .int (if up then -Int.fdiv (-p) q else Int.fdiv p q)
  | .float x _ => .int (if up then -x.neg'.floorInt else x.floorInt)
  | n => n

/-- The remainder of a division of exact numbers, with the sign of the divisor. -/
def ratMod (a b : Num) : Option Num :=
  match a.fraction?, b.fraction? with
  | some (p, q), some (r, s) =>
    if r = 0 then none
    else
      let n := Int.fdiv (p * s) (r * q)
      some (ofFraction (p * s - n * r * q) (q * s))
  | _, _ => none

/-- The remainder `a mod b` of two finite numbers with `b ≠ 0`: exact numbers exactly, and a
float computed exactly from the binary values and then rounded to the float's precision. -/
def modulo (a b : Num) : Num :=
  match ratMod a b with
  | some r => r
  | none =>
    let exact : Num → Option (Int × Nat) := fun n =>
      match n with
      | .float x _ =>
        if x.exp ≥ 0 then some (x.signedMan * 2 ^ x.exp.toNat, 1)
        else some (x.signedMan, 2 ^ (-x.exp).toNat)
      | m => m.fraction?
    let prec := match a, b with
      | .float _ p, .float _ r => max p r
      | .float _ p, _ | _, .float _ p => p
      | _, _ => 53
    match exact a, exact b with
    | some (p, q), some (r, s) =>
      if r = 0 then .nan
      else
        let n := Int.fdiv (p * s) (r * q)
        let num := p * s - n * r * q
        let den := q * s
        .float (BigFloat.ofRat num den prec) prec
    | _, _ => .nan

end Num

/-- The whole numbers just below and just above a constant. -/
def Constant.wholeBounds : Constant → Int × Int
  | .pi => (3, 4)
  | .e => (2, 3)
  | .goldenRatio => (1, 2)
  | .eulerGamma => (0, 1)
  | .catalan => (0, 1)
  | .tribonacci => (1, 2)

namespace Expr

/-- Whether a symbol occurs in an expression. -/
def hasSymbol : Expr → Bool
  | .sym _ => true
  | .add xs => xs.attach.any fun ⟨x, _⟩ => hasSymbol x
  | .mul xs => xs.attach.any fun ⟨x, _⟩ => hasSymbol x
  | .pow b e => hasSymbol b || hasSymbol e
  | .app _ xs => xs.attach.any fun ⟨x, _⟩ => hasSymbol x
  | _ => false

/-- The arguments of an application of the library function `name`. -/
def appOf? (name : String) : Expr → Option (List Expr)
  | .app f xs => if f.name == name && !f.undefined then some xs else none
  | _ => none

/-- Whether an expression applies the library function `name`. -/
def isAppOf (name : String) (e : Expr) : Bool := (e.appOf? name).isSome

/-- An application of the library function `name`, left as it is. -/
def call (name : String) (args : List Expr) : Expr := .app (Fn.named name) args

/-- The coefficient `k` of a term `k·I` with `k` a number, `1` for the unit itself. -/
def imagNum? : Expr → Option Num
  | .imag => some (.int 1)
  | .mul [.num k, .imag] => some k
  | _ => none

/-- Whether an expression applies a logical operation (and, or, not, exclusive or,
implication and their kin), whose value is a truth value rather than a number. -/
def isLogic : Expr → Bool
  | .app f _ => !f.undefined && f.group == 5 &&
      ["And", "Or", "Not", "Xor", "Implies", "Nand", "Nor", "Equivalent", "ITE"].contains f.name
  | _ => false

/-- Whether `a ≥ b` is decided, from what is known of the difference `a - b`. -/
def decideGe (a b : Expr) : Option Bool :=
  match a, b with
  | .num m, .num n =>
    if m == .nan || n == .nan || m == .complexInf || n == .complexInf then none
    else some (m.compareValue n != .lt)
  | _, _ =>
    let f := (sumOf [a, negationOf b]).facts
    if f.nonnegative == some true then some true
    else if f.negative == some true then some false
    else none

end Expr

namespace Fn

open ExprTree.Symbolic.Expr

/-! ### Whole parts -/

/-- The whole number below (or above, when `up`) the value of an expression without symbols,
when its approximate value is far enough from a whole number to tell. -/
def approxWhole (up : Bool) (e : Expr) : Option Int :=
  match e with
  | .num n =>
    match n.toWhole up with
    | .int k => some k
    | _ => none
  | _ =>
    match e.approx with
    | some ((re, im), scale) =>
      let w := if up then re.ceil else re.floor
      if im != 0 || (re - re.round).abs ≤ 1.0e-9 * (scale + 1) || w.abs ≥ 1.0e15 then none
      else some w.toInt64.toInt
    | none => none

/-- The whole value of a term of a sum under `floor` or `ceiling`, if it is known to be whole: a
whole float, a term known to be whole, or a whole multiple of the imaginary unit. -/
def wholeTerm? (t : Expr) : Option Expr :=
  match t with
  | .num (.float x _) => if x.isWhole then some (int x.floorInt) else none
  | _ =>
    if t.facts.integer == some true then some t
    else match t.imagNum? with
      | some k =>
        match k with
        | .int _ => some t
        | .float x _ => if x.isWhole then some (productOf [int x.floorInt, .imag]) else none
        | _ => none
      | none => none

/-- `floor` of an expression, or `ceiling` when `up`. A number rounds; a constant gives the
whole number next to it; a rounded expression stays; an expression known to be whole or
infinite is its own value. Otherwise the terms of a sum split into whole terms, which come out,
terms without symbols, whose sum rounds by its value when nothing else is left, and the rest,
which stays under the function. -/
def rounding (up : Bool) (a : Expr) : Expr :=
  let name := if up then "ceiling" else "floor"
  let rounded := fun (e : Expr) => e.isAppOf "floor" || e.isAppOf "ceiling"
  match a with
  | .num n => .num (n.toWhole up)
  | .const k => int (if up then k.wholeBounds.2 else k.wholeBounds.1)
  | _ =>
    if rounded a || rounded (negationOf a) then a
    else
      let fa := a.facts
      if fa.integer == some true || fa.finite == some false then a
      else match a.imagNum? with
        | some k => productOf [.num (k.toWhole up), .imag]
        | none =>
          let (whole, numeric, symbolic) := a.addArgs.foldl
            (fun (acc : List Expr × List Expr × List Expr) t =>
              let (w, n, s) := acc
              match wholeTerm? t with
              | some v => (w ++ [v], n, s)
              | none => if t.hasSymbol || t.imagNum?.isSome then (w, n, s ++ [t])
                else (w, n ++ [t], s)) ([], [], [])
          if numeric.isEmpty && symbolic.isEmpty then sumOf whole
          else
            let (whole, numeric) :=
              if !numeric.isEmpty && symbolic.isEmpty then
                match approxWhole up (sumOf numeric) with
                | some k => (whole ++ [int k], [])
                | none => (whole, numeric)
              else (whole, numeric)
            if numeric.isEmpty && symbolic.isEmpty then sumOf whole
            else
              let rest := sumOf (symbolic ++ numeric)
              if rounded rest then sumOf (whole ++ [rest])
              else sumOf (whole ++ [call name [rest]])

/-! ### Factorials -/

/-- The product of the `n` whole numbers after `lo`, split in halves so that the factors stay
balanced. -/
def rangeProduct (lo n : Nat) : Nat :=
  if h : n ≤ 1 then (if n = 0 then 1 else lo + 1)
  else rangeProduct lo (n / 2) * rangeProduct (lo + n / 2) (n - n / 2)
termination_by n
decreasing_by all_goals omega

/-- The largest whole number whose factorial is computed; a larger one stays unevaluated. -/
def factorialLimit : Nat := 200000

/-- The factorial: of a whole number its value (the unsigned infinity below zero), of zero one,
and of infinity infinity. -/
def factorial (a : Expr) : Expr :=
  match a with
  | .num n =>
    if n.isZero then one
    else match n with
      | .int k =>
        if k < 0 then .num .complexInf
        else if k.toNat ≤ factorialLimit then int (rangeProduct 0 k.toNat)
        else call "factorial" [a]
      | .posInf => .num .posInf
      | _ => call "factorial" [a]
  | _ => call "factorial" [a]

/-- The product of the whole numbers from `n` down to one or two by steps of two. -/
def doubleProduct (n : Nat) : Nat :=
  if n ≤ 1 then 1 else n * doubleProduct (n - 2)
termination_by n
decreasing_by omega

/-- The double factorial: of a whole number at least zero the product of every second number
down from it, of a negative odd one the fraction that continues that product downwards, and of
any other number nothing (`none`); another expression stays. -/
def factorial2? (a : Expr) : Option Expr :=
  match a with
  | .num (.int k) =>
    if k ≥ 0 then
      if k.toNat ≤ factorialLimit then some (int (doubleProduct k.toNat))
      else some (call "factorial2" [a])
    else if k % 2 == 0 then none
    else
      let sign : Int := if ((1 - k) / 2) % 2 == 0 then 1 else -1
      some (frac (k * sign) (doubleProduct (-k).toNat))
  | .num _ => none
  | _ => some (call "factorial2" [a])

/-- The binomial coefficient of whole numbers; other arguments stay, except that choosing none
gives one and choosing one gives the number itself. -/
def binomial (n k : Expr) : Expr :=
  match n, k with
  | .num (.int a), .num (.int b) =>
    if b < 0 then zero
    else if a ≥ 0 then
      if b > a then zero
      else
        let b := if 2 * b > a then a - b else b
        int (rangeProduct (a - b).toNat b.toNat / rangeProduct 0 b.toNat)
    else
      -- a negative upper index: `(-1)^b` times the coefficient of `b - a - 1` over `b`
      let m := b - a - 1
      let v : Int := rangeProduct (m - b).toNat b.toNat / rangeProduct 0 b.toNat
      int (if b % 2 = 0 then v else -v)
  | _, _ =>
    if k.isZeroNum then one else if k.isInt 1 then n else call "binomial" [n, k]

/-- The gamma function at whole numbers: `(n-1)!` above zero, the unsigned infinity at zero and
below. -/
def gamma (a : Expr) : Expr :=
  match a with
  | .num (.int k) =>
    if k ≤ 0 then .num .complexInf
    else if k.toNat ≤ factorialLimit + 1 then int (rangeProduct 0 (k.toNat - 1))
    else call "gamma" [a]
  | .num .posInf => .num .posInf
  | _ => call "gamma" [a]

/-! ### Parts of complex values -/

/-- The real part: a number or real expression itself, zero for an imaginary one, taken term by
term over a sum and out of a real coefficient. -/
def realPart (a : Expr) : Expr :=
  match a with
  | .num _ | .const _ => a
  | .imag => zero
  | .add xs => sumOf (xs.attach.map fun ⟨x, _⟩ =>
      if x.facts.extReal == some true then x
      else if x.facts.imaginary == some true then zero
      else call "re" [x])
  | _ =>
    if a.facts.extReal == some true then a
    else if a.facts.imaginary == some true then zero
    else match a.imagNum? with
      | some _ => zero
      | none => call "re" [a]

/-- The imaginary part: zero for a real expression, the coefficient of a multiple of the
imaginary unit, taken term by term over a sum. -/
def imagPart (a : Expr) : Expr :=
  match a with
  | .num _ | .const _ => zero
  | .imag => one
  | _ =>
    if a.facts.extReal == some true then zero
    else match a.imagNum? with
      | some k => .num k
      | none =>
        match a with
        | .add xs => sumOf (xs.map fun x =>
            if x.facts.extReal == some true then zero
            else match x.imagNum? with
              | some k => .num k
              | none => (ofImagTerm x).getD (call "im" [x]))
        | _ => (ofImagTerm a).getD (call "im" [a])
where
  /-- The imaginary part of a product `c·I`: `c` for a real `c`, `re c` for another. -/
  ofImagTerm (x : Expr) : Option Expr :=
    match x with
    | .mul _ =>
      (Canon.imagCoeff? x).map fun c =>
        if c.facts.extReal == some true then c else realPart c
    | _ => none

/-- The complex conjugate, term by term over a sum and factor by factor over a product: a
number or constant itself, `-I` for `I`, the base conjugated under a whole power and the exponent
over a positive base, the argument conjugated under the exponential, circular and hyperbolic
functions, the argument of a conjugate back, a real expression itself and the negation of an
imaginary one; anything else stays. -/
def conjugateBy : Nat → Expr → Expr
  | 0, a => call "conjugate" [a]
  | fuel + 1, a =>
    let stay := call "conjugate" [a]
    let real := fun (e : Expr) =>
      if e.facts.extReal == some true then some e
      else if e.facts.imaginary == some true then some (negationOf e)
      else none
    match a with
    | .num _ | .const _ => a
    | .imag => negationOf .imag
    | .add xs => sumOf (xs.map (conjugateBy fuel))
    | .mul xs => productOf (xs.map (conjugateBy fuel))
    | .pow b e =>
      if e.facts.integer == some true then powerOf (conjugateBy fuel b) e
      else if b.facts.positive == some true then powerOf b (conjugateBy fuel e)
      else (real a).getD stay
    | .app f [x] =>
      if f.undefined then (real a).getD stay
      else if f.name == "conjugate" then x
      else if ["exp", "sin", "cos", "tan", "cot", "sinh", "cosh", "tanh", "coth"].contains f.name
      then .app f [conjugateBy fuel x]
      else (real a).getD stay
    | _ => (real a).getD stay

/-- The complex conjugate. -/
def conjugate (a : Expr) : Expr := conjugateBy (a.size + 1) a

/-- Whether the imaginary unit occurs in an expression. -/
def hasImag : Expr → Bool
  | .imag => true
  | .add xs => xs.attach.any fun ⟨x, _⟩ => hasImag x
  | .mul xs => xs.attach.any fun ⟨x, _⟩ => hasImag x
  | .pow b e => hasImag b || hasImag e
  | .app _ xs => xs.attach.any fun ⟨x, _⟩ => hasImag x
  | _ => false

/-- The fractional part `x - ⌊x⌋`, taken apart into a real and an imaginary part: `[0, 1]` at
the infinities, zero at a whole number, NaN at NaN and the unsigned infinity, `x - ⌊x⌋` at a
number, and otherwise the part stays under the function. -/
def fractionalPart (a : Expr) : Expr :=
  let part := fun (x : Expr) =>
    match x with
    | .num .posInf | .num .negInf => call "AccumBounds" [zero, one]
    | .num .nan | .num .complexInf => .num .nan
    | _ =>
      if x.facts.integer == some true then zero
      else if x.isNumber then sumOf [x, negationOf (rounding false x)]
      else call "frac" [x]
  let (re, im) := a.addArgs.foldl (fun (acc : List Expr × List Expr) t =>
    let (re, im) := acc
    if t.facts.imaginary == some true || (productOf [.imag, t]).facts.extReal == some true then
      let i := imagPart t
      if hasImag i then (re ++ [t], im) else (re, im ++ [i])
    else (re ++ [t], im)) ([], [])
  sumOf [part (sumOf re), productOf [.imag, part (sumOf im)]]

/-- The sign. Of a product: the sign of its coefficient, flipped by each factor known to be
negative, times `I` (or `-I`) for each factor that is a real multiple of `I` with a known sign,
times the sign of the factors left over; a product of which nothing is known stays. Otherwise:
NaN at NaN, zero, one or minus one where the sign is known, itself at a sign, and `±I` at an
imaginary expression, a square root or one whose product with `-I` has a known sign. -/
def sign : Nat → Expr → Expr
  | 0, a => call "sign" [a]
  | fuel + 1, a =>
    let stay := call "sign" [a]
    match a with
    | .mul xs =>
      let (c, args) := match xs with
        | .num k :: rest => (k, rest)
        | _ => (Num.int 1, xs)
      let s0 : Expr := if c.isZero then zero else if c.isNegative then int (-1) else one
      let (s, unknown) := args.foldl (fun (acc : Expr × List Expr) x =>
        let (s, u) := acc
        let f := x.facts
        if f.negative == some true then (negationOf s, u)
        else if f.positive == some true then (s, u)
        else if f.imaginary == some true then
          let ai := imagPart x
          if ai.isNumber && ai.facts.extReal == some true then
            let s := productOf [s, .imag]
            if ai.facts.negative == some true then (negationOf s, u) else (s, u)
          else (s, u ++ [x])
        else (s, u ++ [x])) (s0, [])
      if c == .int 1 && unknown.length == args.length then stay
      else productOf [s, sign fuel (mulRaw unknown)]
    | _ =>
      let f := a.facts
      if a.isNaN then .num .nan
      else if f.zero == some true then zero
      else if f.positive == some true then one
      else if f.negative == some true then int (-1)
      else if a.isAppOf "sign" then a
      else if f.imaginary == some true then
        match a with
        | .pow _ (.num (.rat 1 2)) => .imag
        | _ =>
          let g := (productOf [int (-1), .imag, a]).facts
          if g.positive == some true then .imag
          else if g.negative == some true then negationOf .imag
          else stay
      else stay

/-- The absolute value. A number gives its magnitude; `I` and the constants give one and
themselves; a product splits into the factors whose absolute value is known, taken out, and the
rest, left under the function; a power of a real base by a whole exponent loses its sign; an
expression of known sign gives itself or its negation; `a + b·I` with exact `a` and `b` gives
`√(a² + b²)`. -/
def absolute : Nat → Expr → Expr
  | 0, a => call "Abs" [a]
  | fuel + 1, a =>
    match a with
    | .num .nan => .num .nan
    | .num .complexInf | .num .negInf | .num .posInf => .num .posInf
    | .num n => .num n.abs
    | .imag => one
    | .const _ => a
    | .mul xs =>
      let (known, unknown) := xs.foldl (fun (acc : List Expr × List Expr) t =>
        let (k, u) := acc
        let v := absolute fuel t
        if v.isAppOf "Abs" then (k, u ++ [t]) else (k ++ [v], u)) ([], [])
      productOf (known ++ (if unknown.isEmpty then [] else [call "Abs" [mulRaw unknown]]))
    | .pow b e =>
      if b.facts.extReal == some true && e.facts.integer == some true then
        if e.parity == some true then a
        else if b.isInt (-1) then one
        else powerOf (absolute fuel b) e
      else if b.facts.extReal == some true && b.facts.nonnegative == some true &&
          e.facts.extReal == some true then a
      else rest fuel a
    | .app f [x] =>
      if f == Fn.exp then .app Fn.exp [realPart x]
      else if f.name == "exp_polar" && !f.undefined then (canon canonDepth).exponential (realPart x)
      else rest fuel a
    | _ => rest fuel a
where
  /-- The rules for an expression that is not a number, product or power. -/
  rest (fuel : Nat) (a : Expr) : Expr :=
    let f := a.facts
    if f.zero == some true then zero
    else if f.nonnegative == some true then a
    else if f.nonpositive == some true then negationOf a
    else if f.imaginary == some true &&
        (productOf [int (-1), .imag, a]).facts.nonnegative == some true then
      productOf [int (-1), .imag, a]
    else if f.extReal == some true then call "Abs" [a]
    else match a with
      | .add xs =>
        match Canon.pureComplex? xs with
        | some (r, i) => powerOf (.num ((r.mul r).add (i.mul i))) (frac 1 2)
        | none => call "Abs" [a]
      | _ => let _ := fuel; call "Abs" [a]

/-! ### Logarithm -/

/-- The logarithm of a positive float at its precision: with four guard bits, then rounded. -/
def floatLog (x : BigFloat) (prec : Nat) : Expr :=
  .num (.float (BigFloat.round (BigFloat.logarithm .nearest x (prec + 4)) prec) prec)

/-- The natural logarithm of a positive number: zero at one, `-log q` at `1/q`, a float at a
float; at any other it stays. -/
def positiveLog (n : Num) : Expr :=
  match n with
  | .int 1 => zero
  | .rat 1 q => negationOf (call "log" [int q])
  | .float x prec => floatLog x prec
  | _ => call "log" [.num n]

/-- The natural logarithm. It is zero at one, the unsigned infinity at zero, infinity at either
infinity, `-log q` at `1/q`, one at `E`, the argument of an exponential with a real argument,
`iπ + log(-a)` at a negative number, `±iπ/2 + log|k|` at `k·I`, and a float at a positive
float. -/
def logarithm (a : Expr) : Expr :=
  let stay := call "log" [a]
  match a with
  | .num n =>
    if n.isZero then .num .complexInf
    else match n with
      | .int 1 => zero
      | .posInf | .negInf => .num .posInf
      | .nan => .num .nan
      | .complexInf => .num .complexInf
      | .rat 1 q => negationOf (call "log" [int q])
      | .float x prec =>
        if x.neg then sumOf [productOf [.const .pi, .imag], floatLog x.neg' prec]
        else floatLog x prec
      | _ =>
        if n.isNegative then sumOf [productOf [.const .pi, .imag], positiveLog n.neg]
        else stay
  | .const .e => one
  | .app f [x] => if f == Fn.exp && x.facts.extReal == some true then x else stay
  | _ =>
    if a.isNumber && a.facts.negative == some true then
      sumOf [productOf [.const .pi, .imag], call "log" [negationOf a]]
    else if a.facts.zero == some true then .num .complexInf
    else match a with
      | .add _ => stay
      | _ =>
        match a.imagNum? with
        | some k =>
          match k with
          | .posInf | .negInf => .num .posInf
          | _ =>
            if !k.isRational then stay
            else if k.isNonnegative then
              sumOf [productOf [frac 1 2, .imag, .const .pi], positiveLog k]
            else sumOf [productOf [frac (-1) 2, .imag, .const .pi], positiveLog k.neg]
        | none => stay

/-- How often a whole number `p ≥ 2` divides a whole number `n ≠ 0`; nothing for other
arguments. -/
def intMultiplicity? (p n : Int) : Option Int :=
  if n = 0 ∨ p < 2 then none else some (multiplicity p.toNat n.natAbs).1

/-- The whole number `m` for which `p ^ m` divides `n` as far as it can, for exact numbers: for
whole numbers how often `p` divides `n`; for fractions the count of the numerator less that of
the denominator when `p` is whole, the count in the denominators when `p` is a unit fraction, and
otherwise the counts of like parts less those of crossed parts, each the smaller of two. Nothing
when an argument is not exact, `n` is zero or a count is taken by a number below two. -/
def exactMultiplicity? (p n : Num) : Option Int :=
  match p, n with
  | .int p, .int n => intMultiplicity? p n
  | _, _ =>
    let parts : Num → Option (Int × Int) := fun x =>
      match x with
      | .int k => some (k, 1)
      | .rat a b => some (a, b)
      | _ => none
    match parts p, parts n with
    | some (pp, pq), some (np, nq) =>
      if pq = 1 then
        if np = 1 then (intMultiplicity? pp nq).map (- ·)
        else do
          let a ← intMultiplicity? pp np
          let b ← intMultiplicity? pp nq
          pure (a - b)
      else if pp = 1 then intMultiplicity? pq nq
      else do
        let like1 ← intMultiplicity? pp np
        let like2 ← intMultiplicity? pq nq
        let cross1 ← intMultiplicity? pq np
        let cross2 ← intMultiplicity? pp nq
        pure (min like1 like2 - min cross1 cross2)
    | _, _ => none

/-- The logarithm of `a` to the base `b`: not defined at base one; for exact numbers the
power `m` of the base that divides `a` comes out, `m + log(a / b^m) / log b`; otherwise the
natural logarithm at base `E` and the quotient of the natural logarithms at any other base. -/
def logarithmTo (a b : Expr) : Expr :=
  if b.isInt 1 then (if a.isInt 1 then .num .nan else .num .complexInf)
  else
    let «over» := fun (x : Expr) => productOf [logarithm x, powerOf (logarithm b) (int (-1))]
    match a, b with
    | .num na, .num nb =>
      match exactMultiplicity? nb na with
      | some m =>
        if m = 0 then «over» a
        else sumOf [int m, «over» (productOf [a, powerOf b (int (-m))])]
      | none => «over» a
    | _, _ => if b.same (.const .e) then logarithm a else «over» a

/-! ### Refusals -/

/-- Why a function refuses its arguments. -/
inductive Refusal where
  /-- The function does not take that many arguments; the message says so. -/
  | arity (msg : String)
  /-- A remainder by zero; the message says which. -/
  | divisionByZero (msg : String)
  /-- An argument of a maximum or minimum, written as shown, cannot be compared. -/
  | incomparable (shown : String)
  /-- An argument outside the function's domain; the message says so. -/
  | domain (msg : String)
  /-- An argument of a kind the function does not take; the message says so. -/
  | kind (msg : String)
  deriving Inhabited

/-! ### Maximum and minimum -/

/-- The maximum of expressions, or the minimum when `low`. Each argument must be comparable: a
real expression, a number only if its value is real. An infinity in the direction sought
decides; one in the other is dropped; nested maxima are flattened; of two arguments whose order
is decided only the larger (smaller) stays. The rest stay in canonical order; a single one is
the value. -/
def extremum (low : Bool) (args : List Expr) : Except Refusal Expr := do
  let name := if low then "Min" else "Max"
  let top : Expr := .num (if low then .negInf else .posInf)
  let bottom : Expr := .num (if low then .posInf else .negInf)
  for a in args do
    if a.facts.extReal == some false || a.isNaN || (a.isNumber && a.facts.extReal != some true) then
      throw (.incomparable a.text)
  let flat := args.flatMap fun a =>
    match a.appOf? name with
    | some xs => xs
    | none => [a]
  if flat.any (·.same top) then return top
  let kept := flat.filter fun a => !a.same bottom
  let distinct := kept.foldl (fun (acc : List Expr) a =>
    if acc.any (·.same a) then acc else acc ++ [a]) []
  let ordered := sortByKey (sortKey 400) distinct
  let better := fun (x y : Expr) => if low then Expr.decideGe y x else Expr.decideGe x y
  let locals := ordered.foldl (fun (acc : List Expr) v =>
    if acc.any fun z => better z v == some true then acc
    else (acc.filter fun z => better v z != some true) ++ [v]) []
  match locals with
  | [] => return bottom
  | [x] => return x
  | xs => return .app (Fn.operation name) (sortByKey (sortKey 400) xs)

/-! ### Remainders -/

/-- The remainder `p mod q` (a zero divisor is the caller's fault): NaN at NaN or an infinity,
zero when `p` is zero, `±q`, or whole with `q = 1`, the remainder of numbers, and of an
expression without symbols by its whole quotient; otherwise it stays. -/
def modulo (p q : Expr) : Expr :=
  let stay := call "Mod" [p, q]
  if p.isNaN || q.isNaN || p.facts.finite == some false || q.facts.finite == some false then
    .num .nan
  else if p.isZeroNum || p.same q || p.same (negationOf q) ||
      (p.facts.integer == some true && q.isInt 1) then zero
  else match p, q with
    | .num m, .num n => .num (Num.modulo m n)
    | _, .num (.int 2) =>
      match p.parity with
      | some true => zero
      | some false => one
      | none => stay
    | _, _ =>
      let r := productOf [p, powerOf q (int (-1))]
      if r.facts.integer == some true then zero
      else if r.isNumber && !r.hasSymbol then
        match approxWhole false r, r.approx with
        | some _, some ((v, 0), _) =>
          if v.abs ≥ 1.0e15 then stay
          else
            let d : Int := (if v < 0 then v.ceil else v.floor).toInt64.toInt
            let rv := sumOf [p, negationOf (productOf [int d, q])]
            match Expr.decideGe (productOf [rv, q]) zero with
            | some false => sumOf [rv, q]
            | _ => rv
        | _, _ => stay
      else stay

/-- The whole part of a finite number, cut toward zero. -/
def truncatedWhole? : Num → Option Int
  | .int k => some k
  | .rat p q => some (p.tdiv q)
  | .float x _ =>
    if x.exp ≥ 0 then some (x.signedMan * 2 ^ x.exp.toNat)
    else some (x.signedMan.tdiv (2 ^ (-x.exp).toNat))
  | _ => none

/-- The remainder `p - q·trunc(p/q)` of a division cut toward zero (a zero divisor is the
caller's fault): NaN at NaN or an infinity, zero when `p` is zero, `±q`, or whole with `q = 1`,
the remainder of numbers; otherwise it stays. -/
def truncatedRemainder (p q : Expr) : Expr :=
  if p.isNaN || q.isNaN || p.facts.finite == some false || q.facts.finite == some false then
    .num .nan
  else if p.isInt 0 || p.same q || p.same (negationOf q) ||
      (p.facts.integer == some true && q.isInt 1) then zero
  else match p, q with
    | .num m, .num n =>
      match truncatedWhole? (Num.div m n) with
      | some t => sumOf [p, negationOf (productOf [int t, q])]
      | none => call "Rem" [p, q]
    | _, _ => call "Rem" [p, q]

/-- The argument (phase) of a complex value: NaN at NaN and the unsigned infinity, the angle
`atan2 (im z, re z)` at a number `z`, the imaginary part of `w` brought into `(-π, π]` at
`exp w` when it is a real number, and with a positive coefficient taken off a product;
anything else stays. -/
def argument (ev : String → List Expr → Expr) (a : Expr) : Expr :=
  let stay := call "arg" [a]
  match a with
  | .num .nan | .num .complexInf => .num .nan
  | _ =>
    match a.appOf? "exp" with
    | some [w] =>
      let i := imagPart w
      if i.isNumber && i.facts.extReal == some true then
        let twoPi := productOf [int 2, .const .pi]
        let r := modulo i twoPi
        match Expr.decideGe (.const .pi) r with
        | some true => r
        | some false => sumOf [r, negationOf twoPi]
        | none => stay
      else stay
    | _ =>
      if a.isNumber then ev "atan2" [imagPart a, realPart a]
      else match a with
        | .mul (.num c :: rest) =>
          if c.isFinite && Num.lt (.int 0) c then call "arg" [mulRaw rest] else stay
        | _ => stay

end Fn

end ExprTree.Symbolic
