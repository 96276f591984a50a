import ExprTree.Symbolic.BigFloat
/-!
  Symbolic numbers: exact integers and fractions, binary floats that carry their precision, and
  the four special values NaN, positive and negative infinity and the unsigned (complex)
  infinity. Exact numbers combine exactly. A float combines with an exact number by first
  rounding that number to the float's precision, and two floats combine at the larger of their
  precisions; a float result that is exactly zero is the exact zero. Infinities absorb finite
  numbers, and the undefined combinations (`∞ - ∞`, `0 · ∞`, anything with NaN) give NaN.
-/

namespace ExprTree.Symbolic

/-- A symbolic number. A fraction is in lowest terms with a denominator of at least two. -/
inductive Num where
  | int (n : Int)
  | rat (p : Int) (q : Nat)
  | float (x : BigFloat) (prec : Nat)
  | nan
  | posInf
  | negInf
  | complexInf
  deriving DecidableEq, Inhabited

namespace Num

/-- The exact number `p / q`: a fraction in lowest terms, a whole number, or for `q = 0` the
unsigned infinity (NaN when `p = 0` too). -/
def ofFraction (p : Int) (q : Int) : Num :=
  if q = 0 then (if p = 0 then .nan else .complexInf)
  else
    let g := Nat.gcd p.natAbs q.natAbs
    let s : Int := if q < 0 then -1 else 1
    let p' := s * p / g
    let q' := q.natAbs / g
    if q' = 1 then .int p' else .rat p' q'

/-- A float result: the exact zero when it is zero. -/
def ofBig (x : BigFloat) (prec : Nat) : Num :=
  if x.isZero then .int 0 else .float x prec

/-- The numerator and denominator of an exact number. -/
def fraction? : Num → Option (Int × Nat)
  | .int n => some (n, 1)
  | .rat p q => some (p, q)
  | _ => none

/-- Whether the number is exact (whole or a fraction). -/
def isRational : Num → Bool
  | .int _ | .rat .. => true
  | _ => false

/-- Whether the number is zero. -/
def isZero : Num → Bool
  | .int 0 => true
  | .float x _ => x.isZero
  | _ => false

/-- Whether the number is finite and not NaN. -/
def isFinite : Num → Bool
  | .int _ | .rat .. | .float .. => true
  | _ => false

/-- The sign of a number: `some true` when positive, `some false` when negative, `none` for
zero, NaN and the unsigned infinity. -/
def positive? : Num → Option Bool
  | .int n => if n > 0 then some true else if n < 0 then some false else none
  | .rat p _ => some (p > 0)
  | .float x _ => if x.isZero then none else some !x.neg
  | .posInf => some true
  | .negInf => some false
  | _ => none

/-- Whether the number is positive. -/
def isPositive (n : Num) : Bool := n.positive? == some true

/-- Whether the number is negative. -/
def isNegative (n : Num) : Bool := n.positive? == some false

/-- The value of an exact number rounded to `prec` bits. -/
def toBig (p : Int) (q : Nat) (prec : Nat) : BigFloat := BigFloat.ofRat p q prec

/-- The float operands of a float operation: both values at the common precision. -/
def floatPair? : Num → Num → Option (BigFloat × BigFloat × Nat)
  | .float x p, .float y r => some (x, y, max p r)
  | .float x p, .int n => some (x, toBig n 1 p, p)
  | .float x p, .rat a b => some (x, toBig a b p, p)
  | .int n, .float y r => some (toBig n 1 r, y, r)
  | .rat a b, .float y r => some (toBig a b r, y, r)
  | _, _ => none

/-- The negation. -/
def neg : Num → Num
  | .int n => .int (-n)
  | .rat p q => .rat (-p) q
  | .float x p => ofBig x.neg' p
  | .posInf => .negInf
  | .negInf => .posInf
  | n => n

/-- The sum. -/
def add (a b : Num) : Num :=
  match a, b with
  | .nan, _ | _, .nan => .nan
  | .complexInf, .complexInf => .nan
  | .complexInf, x | x, .complexInf => if x.isFinite then .complexInf else .nan
  | .posInf, .negInf | .negInf, .posInf => .nan
  | .posInf, _ | _, .posInf => .posInf
  | .negInf, _ | _, .negInf => .negInf
  | a, b =>
    match a.fraction?, b.fraction? with
    | some (p, q), some (r, s) => ofFraction (p * s + r * q) (q * s)
    | _, _ =>
      match floatPair? a b with
      | some (x, y, prec) => ofBig (x.add y prec) prec
      | none => .nan

/-- The product. -/
def mul (a b : Num) : Num :=
  match a, b with
  | .nan, _ | _, .nan => .nan
  | .complexInf, x | x, .complexInf => if x.isZero then .nan else .complexInf
  | .posInf, x | x, .posInf =>
    match x.positive? with
    | some true => .posInf
    | some false => .negInf
    | none => .nan
  | .negInf, x | x, .negInf =>
    match x.positive? with
    | some true => .negInf
    | some false => .posInf
    | none => .nan
  | a, b =>
    match a.fraction?, b.fraction? with
    | some (p, q), some (r, s) => ofFraction (p * r) (q * s)
    | _, _ =>
      match floatPair? a b with
      | some (x, y, prec) => ofBig (x.mul y prec) prec
      | none => .nan

/-- Compares two finite numbers by value. -/
def compareFinite (a b : Num) : Ordering :=
  match a, b with
  | .float x _, .float y _ => x.compare' y
  | .float x _, n => match n.fraction? with
    | some (p, q) => x.compareRat p q
    | none => .eq
  | n, .float y _ => match n.fraction? with
    | some (p, q) => (y.compareRat p q).swap
    | none => .eq
  | _, _ => match a.fraction?, b.fraction? with
    | some (p, r), some (s, t) => compare (p * t) (s * r)
    | _, _ => .eq

/-- Compares two numbers by value; NaN and the unsigned infinity sit below everything else. -/
def compareValue (a b : Num) : Ordering :=
  let rank : Num → Nat := fun n =>
    match n with
    | .nan => 0
    | .complexInf => 1
    | .negInf => 2
    | .posInf => 4
    | _ => 3
  match compare (rank a) (rank b) with
  | .eq => if rank a = 3 then compareFinite a b else .eq
  | o => o

/-- Equality as values of one kind: exact numbers by value, floats by value whatever their
precision, and a float never equal to an exact number unless both are zero. -/
def same (a b : Num) : Bool :=
  match a, b with
  | .float x _, .float y _ => x.compare' y == .eq
  | .float x _, .int 0 | .int 0, .float x _ => x.isZero
  | .float .., _ | _, .float .. => false
  | a, b => a == b

/-- The float value of a number, for finite numbers within the range of floats. -/
def toFloat : Num → Float
  | .int n => (BigFloat.ofRat n 1 53).toFloat
  | .rat p q => (BigFloat.ofRat p q 53).toFloat
  | .float x _ => x.toFloat
  | .nan => 0.0 / 0.0
  | .posInf => 1.0 / 0.0
  | .negInf => -1.0 / 0.0
  | .complexInf => 0.0 / 0.0

/-- The written form of a number. Floats show the digits their precision carries; `strip`
removes trailing zeros after the point, as for floats inside a larger expression. -/
def text (n : Num) (strip : Bool) : String :=
  match n with
  | .int n => toString n
  | .rat p q => toString p ++ "/" ++ toString q
  | .float x prec =>
    let dps := if prec < 5 then 0 else BigFloat.precToDigits prec
    let t := x.digits dps strip
    if t.startsWith "-.0" then "-0." ++ (t.drop 3).toString
    else if t.startsWith ".0" then "0." ++ (t.drop 2).toString
    else t
  | .nan => "nan"
  | .posInf => "oo"
  | .negInf => "-oo"
  | .complexInf => "zoo"

end Num

end ExprTree.Symbolic
