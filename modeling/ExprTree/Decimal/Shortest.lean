/-!
  The shortest decimal of a binary64 float: among the decimals that read back as the float, one
  with the fewest significant digits, and of those the nearest. A finite float is decoded from its
  bits into `m · 2 ^ q`; the reals that round to it form an interval around it whose ends are
  included exactly when `m` is even. For 1, 2, … 17 significant digits the two neighbours of the
  value on that decimal grid are tested against the interval in exact natural arithmetic; the
  first grid with a hit gives the digits.
-/

-- The core instances for powers, products and sums of numbers, also where Mathlib's are
-- in scope, so that the definitions below are the same terms in every build.
attribute [local instance (high)] instPowNat

namespace ExprTree.Decimal

/-- The magnitude of a finite nonzero float as `mantissa · 2 ^ exponent`. `narrowBelow` holds when
the next smaller float is nearer than the next larger one, which happens at a power of two above
the subnormal range. -/
structure Binary where
  mantissa : Nat
  exponent : Int
  narrowBelow : Bool

/-- A decimal `mantissa · 10 ^ exponent`. -/
structure Digits where
  mantissa : Nat
  exponent : Int

/-- Whether the sign bit of `x` is set (true for `-0.0` and for negative values). -/
def signBit (x : Float) : Bool :=
  x.toBits.toNat / 2 ^ (63 : Nat) % 2 = 1

/-- The magnitude of a float decoded from its bits; meaningful for finite nonzero floats. -/
def Binary.ofFloat (x : Float) : Binary :=
  let b := x.toBits.toNat
  let field : Nat := b / 2 ^ (52 : Nat) % 2 ^ (11 : Nat)
  let frac : Nat := b % 2 ^ (52 : Nat)
  if field = 0 then ⟨frac, -1074, false⟩
  else ⟨frac + 2 ^ (52 : Nat), (field : Int) - 1075, frac = 0 ∧ field > 1⟩

/-- Compares `a · 2 ^ p · 10 ^ r` with `b · 2 ^ p' · 10 ^ r'` exactly. -/
def compareScaled (a : Nat) (p r : Int) (b : Nat) (p' r' : Int) : Ordering :=
  let p0 := min p p'
  let r0 := min r r'
  compare (a * 2 ^ (p - p0).toNat * 10 ^ (r - r0).toNat)
    (b * 2 ^ (p' - p0).toNat * 10 ^ (r' - r0).toNat)

/-- Whether the decimal `d · 10 ^ s` lies in the interval of reals that round to `x`. -/
def Binary.roundsTo (x : Binary) (d : Nat) (s : Int) : Bool :=
  let lo := if x.narrowBelow then 4 * x.mantissa - 1 else 4 * x.mantissa - 2
  let hi := 4 * x.mantissa + 2
  let vsLo := compareScaled d 0 s lo (x.exponent - 2) 0
  let vsHi := compareScaled d 0 s hi (x.exponent - 2) 0
  if x.mantissa % 2 = 0 then vsLo != .lt && vsHi != .gt
  else vsLo == .gt && vsHi == .lt

/-- The decimal exponent of `x`: the `e` with `10 ^ e ≤ x < 10 ^ (e + 1)`. -/
def Binary.decimalExponent (x : Binary) : Int :=
  let e0 : Int := ((Nat.log2 x.mantissa : Int) + x.exponent) * 78913 / 2 ^ (18 : Nat)
  let below (e : Int) : Bool := compareScaled x.mantissa x.exponent 0 1 0 e == .lt
  let up (e : Int) : Int := if below (e + 1) then e else e + 1
  let down (e : Int) : Int := if below e then e - 1 else e
  down (down (up (up e0)))

/-- Removes trailing zeros of a decimal's mantissa, raising its exponent. -/
def Digits.trim (d : Digits) : Digits :=
  if h : d.mantissa ≠ 0 ∧ d.mantissa % 10 = 0 then
    Digits.trim ⟨d.mantissa / 10, d.exponent + 1⟩
  else d
termination_by d.mantissa
decreasing_by exact Nat.div_lt_self (Nat.pos_of_ne_zero h.1) (by decide)

/-- The decimal with `k` significant digits nearest to `x` among those that round to `x`, if any. -/
def Binary.candidate (x : Binary) (k : Nat) : Option Digits :=
  let s := x.decimalExponent - k + 1
  let num := x.mantissa * 2 ^ x.exponent.toNat * 10 ^ (-s).toNat
  let den := 2 ^ (-x.exponent).toNat * 10 ^ s.toNat
  let dl := num / den
  let du := dl + 1
  if num % den = 0 then some ⟨dl, s⟩
  else
    match x.roundsTo dl s, x.roundsTo du s with
    | true, true =>
      match compare (2 * num) ((dl + du) * den) with
      | .lt => some ⟨dl, s⟩
      | .gt => some ⟨du, s⟩
      | .eq => some ⟨if dl % 2 = 0 then dl else du, s⟩
    | true, false => some ⟨dl, s⟩
    | false, true => some ⟨du, s⟩
    | false, false => none

/-- The shortest decimal that rounds to `x`, trimmed of trailing zeros. Seventeen significant
digits always suffice for a binary64 float. -/
def Binary.shortest (x : Binary) : Digits :=
  let found := (List.range 17).findSome? fun i => x.candidate (i + 1)
  (found.getD ⟨x.mantissa, 0⟩).trim

/-- The value of `x` as a natural number, if it is a whole number. -/
def Binary.wholeValue? (x : Binary) : Option Nat :=
  if x.exponent ≥ 0 then some (x.mantissa * 2 ^ x.exponent.toNat)
  else if x.mantissa % 2 ^ (-x.exponent).toNat = 0 then some (x.mantissa / 2 ^ (-x.exponent).toNat)
  else none

end ExprTree.Decimal
