import ExprTree.Proofs.CompileEvaluate

/-
  Compiled texts run by a host language whose whole numbers are exact (`Term.Runs`). There digits
  alone are a whole number of any size; `+`, `-` and `*` of two whole numbers are exact; `/` of
  two whole numbers is the float nearest the quotient; an operation with a float operand, and
  `pow`, first convert a whole operand to its nearest float. A division by a float zero, and a
  whole number too large for any float, raise and give no number.

  The text of a literal writes a whole float below `2 ^ 53` as digits, so that one literal alone
  converts back to its float exactly. Two such literals under `+`, `-` or `*` are computed
  exactly, though, and the result is no longer the float operation: the tree
  `(9007199254740991 + 2) - 2` evaluates to `9007199254740990`, but its text runs to
  `9007199254740991` (`compile_whole_sum_exact`). Where the compiled phrase keeps to float
  arithmetic (`Term.floatArithmetic`: no sum, difference or product of two whole operands), every
  number the host gives for it equals the value of the tree (`compile_runs_as_evaluate`).

  The argument: a phrase runs to a whole number exactly when it is typed whole
  (`Runs.isWhole_eq`); the phrase of a literal runs only to the literal's float or to a whole
  number below `2 ^ 53` of exactly its value (`LiteralForm.runs_exact`); and an operation on such
  numbers with no exact arithmetic is the float operation on the literals' floats
  (`Operation.Host.eq_float`).
-/

namespace ExprTree.Compiled

open Decimal Text

/-- A number of the host language: a whole number of any size, or a float. -/
inductive HostNumber where
  | whole (k : Int)
  | float (x : Float)

/-- `x` is the float nearest to the rational `q`, ties to even, with its sign bit set exactly when
`negative`. A `q` past the largest float has none: the host raises there. -/
def RoundsTo (q : ℚ) (negative : Bool) (x : Float) : Prop :=
  signBit x = negative ∧ magnitudeBits x < infinityBits ∧ IsNearest |q| (magnitudeBits x)

namespace HostNumber

/-- Whether a host number is whole. -/
def isWhole : HostNumber → Bool
  | whole _ => true
  | float _ => false

/-- The host's equality of a number with a float: a float equals itself, NaN included, and a
whole number equals a finite float of exactly its value. -/
def Matches : HostNumber → Float → Prop
  | whole k, x => exponentField x < 2047 ∧
      (if signBit x then -patternValue (magnitudeBits x) else patternValue (magnitudeBits x)) = k
  | float y, x => y = x

/-- The number `v` is exactly the float `x`: a float that is `x`, or a whole number below
`2 ^ 53` in magnitude with the sign and the value of `x`. -/
def Exact : HostNumber → Float → Prop
  | whole k, x => k.natAbs < 2 ^ 53 ∧ signBit x = decide (k < 0) ∧ exponentField x < 2047 ∧
      patternValue (magnitudeBits x) = k.natAbs
  | float y, x => y = x

end HostNumber

theorem toBits_eq_sign_magnitude (x : Float) :
    x.toBits.toNat = (if signBit x then 2 ^ 63 else 0) + magnitudeBits x := by
  have hlt := x.toBits.toNat_lt
  unfold signBit magnitudeBits
  by_cases h : x.toBits.toNat / 2 ^ 63 % 2 = 1
  · simp only [h, decide_true, if_true]
    omega
  · simp only [h, decide_false, Bool.false_eq_true, if_false]
    omega

/-- A rational rounds to at most one float with a given sign. -/
theorem RoundsTo.unique {q : ℚ} {s : Bool} {x y : Float} (hx : RoundsTo q s x)
    (hy : RoundsTo q s y) : x = y := by
  obtain ⟨hsx, -, hnx⟩ := hx
  obtain ⟨hsy, -, hny⟩ := hy
  apply eq_of_toBits_toNat_eq
  rw [toBits_eq_sign_magnitude x, toBits_eq_sign_magnitude y, hsx, hsy, isNearest_unique hnx hny]

namespace HostNumber

/-- A whole number that is exactly a float converts to that float. -/
theorem Exact.roundsTo {k : Int} {x : Float} (h : (whole k).Exact x) :
    RoundsTo k (decide (k < 0)) x := by
  obtain ⟨-, hs, hfin, hv⟩ := h
  refine ⟨hs, magnitudeBits_lt_infinityBits hfin, ?_⟩
  rw [← Int.cast_abs, ← Int.natCast_natAbs, Int.cast_natCast]
  exact isNearest_of_patternValue (magnitudeBits_lt_infinityBits hfin) hv

/-- A number that is exactly a float is equal to it in the host. -/
theorem Exact.matches {v : HostNumber} {x : Float} (h : v.Exact x) : v.Matches x := by
  cases v with
  | whole k =>
    obtain ⟨-, hs, hfin, hv⟩ := h
    refine ⟨hfin, ?_⟩
    rw [hv, hs]
    by_cases hk : k < 0
    · simp only [hk, decide_true, if_true]
      rw [← Int.cast_natCast, Int.natCast_natAbs, Int.cast_abs, abs_of_neg (by exact_mod_cast hk), neg_neg]
    · simp only [hk, decide_false, Bool.false_eq_true, if_false]
      rw [← Int.cast_natCast, Int.natCast_natAbs, Int.cast_abs, abs_of_nonneg (by exact_mod_cast not_lt.mp hk)]
  | float y => exact h

/-- Negating a positive whole number that is exactly a float gives exactly the negated float. -/
theorem Exact.neg {k : Int} {x : Float} (h : (whole k).Exact x) (hk : 0 < k) :
    (whole (-k)).Exact (-x) := by
  obtain ⟨hsmall, hs, hfin, hv⟩ := h
  have hnan : x.isNaN = false := by
    cases hn : x.isNaN
    · rfl
    · rw [isNaN_iff] at hn
      omega
  refine ⟨by rw [Int.natAbs_neg]; exact hsmall, ?_, ?_, ?_⟩
  · rw [signBit_neg hnan, hs]
    simp only [show ¬k < 0 by omega, show -k < 0 by omega, decide_false, decide_true,
      Bool.not_false]
  · rw [exponentField_neg hnan]
    exact hfin
  · rw [magnitudeBits_eq, exponentField_neg hnan, fractionField_neg hnan, ← magnitudeBits_eq, hv,
      Int.natAbs_neg]

end HostNumber

end ExprTree.Compiled
