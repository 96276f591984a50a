import ExprTree.Proofs.Rounding

/-
  The shortest decimal of a float reads back as the float. For a finite nonzero float `x` with
  magnitude pattern `b = magnitudeBits x`, the decoded `Binary.ofFloat x` has the value of `b`
  (`value_ofFloat`), and its interval test `roundsTo` is membership of the decimal in the
  rounding interval of `b` (`roundsTo_iff`): the bounds `(4m ± 2) · 2 ^ (e - 2)` are the midpoints
  of `b` with its neighbours, the lower one `(4m - 1) · 2 ^ (e - 2)` at the bottom of a binade.

  So every candidate decimal lies in the interval (`candidate_mem`). The estimate of the decimal
  exponent never overshoots (`decimalExponent_le`), which makes the grid of seventeen digits finer
  than the interval, and a candidate always exists there (`candidate_seventeen_isSome`). Hence the
  shortest decimal, trimmed of trailing zeros, rounds to `x` (`isNearest_shortest`). A whole value
  read off the decoded float is the float's value (`wholeValue?_value`).
-/

namespace ExprTree.Decimal

/-- The value `mantissa · 2 ^ exponent` of a binary magnitude. -/
def Binary.value (B : Binary) : ℚ := B.mantissa * 2 ^ B.exponent

/-- The value `mantissa · 10 ^ exponent` of a decimal. -/
def Digits.value (d : Digits) : ℚ := d.mantissa * 10 ^ d.exponent

/-- The pattern of the magnitude of a float: its bits with the sign bit cleared. -/
def magnitudeBits (x : Float) : Nat := x.toBits.toNat % 2 ^ 63

theorem magnitudeBits_eq (x : Float) :
    magnitudeBits x = exponentField x * 2 ^ 52 + fractionField x := by
  unfold magnitudeBits exponentField fractionField
  have := x.toBits.toNat_lt
  omega

theorem ofFloat_eq (x : Float) :
    Binary.ofFloat x =
      if exponentField x = 0 then ⟨fractionField x, -1074, false⟩
      else ⟨fractionField x + 2 ^ 52, (exponentField x : Int) - 1075,
        fractionField x = 0 ∧ exponentField x > 1⟩ := rfl

/-! ## The decoded magnitude -/

section Decoded

variable (x : Float)

theorem ofFloat_mantissa :
    (Binary.ofFloat x).mantissa =
      if exponentField x = 0 then fractionField x else fractionField x + 2 ^ 52 := by
  rw [ofFloat_eq]
  split_ifs <;> rfl

theorem ofFloat_exponent :
    (Binary.ofFloat x).exponent =
      if exponentField x = 0 then -1074 else (exponentField x : Int) - 1075 := by
  rw [ofFloat_eq]
  split_ifs <;> rfl

theorem ofFloat_narrowBelow :
    (Binary.ofFloat x).narrowBelow = true ↔ fractionField x = 0 ∧ 1 < exponentField x := by
  rw [ofFloat_eq]
  split_ifs with h
  · simp only [false_iff]
    omega
  · simp

theorem ofFloat_mantissa_mod_two :
    (Binary.ofFloat x).mantissa % 2 = magnitudeBits x % 2 := by
  rw [ofFloat_mantissa, magnitudeBits_eq]
  split_ifs <;> omega

theorem ofFloat_mantissa_lt : (Binary.ofFloat x).mantissa < 2 ^ 53 := by
  have := fractionField_lt x
  rw [ofFloat_mantissa]
  split_ifs <;> omega

/-- The binary exponent of a float is at least that of the subnormals. -/
theorem ofFloat_exponent_ge : -1074 ≤ (Binary.ofFloat x).exponent := by
  rw [ofFloat_exponent]
  split_ifs <;> omega

end Decoded

theorem patternValue_fields (f r : Nat) (hr : r < 2 ^ 52) :
    patternValue (f * 2 ^ 52 + r) =
      if f = 0 then (r : ℚ) * 2 ^ (-1074 : Int)
      else ((r : ℚ) + 2 ^ 52) * 2 ^ ((f : Int) - 1075) := by
  unfold patternValue
  rw [units_of_fields f r hr]
  split_ifs with hf
  · rw [zpow_neg, zpow_ofNat, div_eq_mul_inv]
  · have he : (f : Int) - 1075 = ((f - 1 : Nat) : Int) - 1074 := by omega
    push_cast
    rw [he, zpow_sub₀ (by norm_num), zpow_natCast, zpow_ofNat]
    ring

/-- The decoded magnitude has the value of the magnitude pattern. -/
theorem value_ofFloat (x : Float) :
    (Binary.ofFloat x).value = patternValue (magnitudeBits x) := by
  rw [magnitudeBits_eq, patternValue_fields _ _ (fractionField_lt x)]
  unfold Binary.value
  rw [ofFloat_mantissa, ofFloat_exponent]
  split_ifs <;> push_cast <;> ring

theorem ofFloat_mantissa_pos {x : Float} (h : magnitudeBits x ≠ 0) :
    0 < (Binary.ofFloat x).mantissa := by
  rw [magnitudeBits_eq] at h
  rw [ofFloat_mantissa]
  split_ifs with hf
  · rw [hf] at h
    omega
  · omega

theorem magnitudeBits_lt_infinityBits {x : Float} (h : exponentField x < 2047) :
    magnitudeBits x < infinityBits := by
  rw [magnitudeBits_eq]
  unfold infinityBits
  have := fractionField_lt x
  omega

/-! ## The neighbours of a float -/

theorem patternValue_succ (b : Nat) : patternValue (b + 1) = patternValue b + step b / 2 ^ 1074 := by
  unfold patternValue
  rw [units_succ]
  push_cast
  ring

/-- One step above a float is one unit of its binary exponent. -/
theorem step_magnitudeBits (x : Float) :
    (step (magnitudeBits x) : ℚ) / 2 ^ 1074 = 2 ^ (Binary.ofFloat x).exponent := by
  rw [magnitudeBits_eq, step_of_fields _ _ (fractionField_lt x), ofFloat_exponent]
  split_ifs with hf
  · rw [hf, zpow_neg, zpow_ofNat]
    simp
  · have he : (exponentField x : Int) - 1075 = ((exponentField x - 1 : Nat) : Int) - 1074 := by
      omega
    rw [he, zpow_sub₀ (by norm_num), zpow_natCast, zpow_ofNat]
    push_cast
    ring

/-- The step below a pattern is half the step above it exactly at the bottom of a binade above
the subnormals, where the fraction field is `0` and the exponent field exceeds `1`. -/
theorem step_pred (f r : Nat) (hr : r < 2 ^ 52) (hb : 0 < f * 2 ^ 52 + r) :
    step (f * 2 ^ 52 + r - 1) * (if r = 0 ∧ 1 < f then 2 else 1) = step (f * 2 ^ 52 + r) := by
  rw [step_of_fields f r hr]
  by_cases hr0 : r = 0
  · subst hr0
    have hpred : f * 2 ^ 52 + 0 - 1 = (f - 1) * 2 ^ 52 + (2 ^ 52 - 1) := by
      have : 0 < f := by omega
      obtain ⟨g, rfl⟩ : ∃ g, f = g + 1 := ⟨f - 1, by omega⟩
      rw [Nat.add_sub_cancel, Nat.add_mul]
      omega
    rw [hpred, step_of_fields _ _ (by omega)]
    by_cases hf : 1 < f
    · rw [if_pos ⟨rfl, hf⟩, ← Nat.pow_succ]
      congr 1
      omega
    · have : f = 1 := by omega
      subst this
      rfl
  · have hpred : f * 2 ^ 52 + r - 1 = f * 2 ^ 52 + (r - 1) := by omega
    rw [hpred, step_of_fields _ _ (by omega), if_neg (by omega), Nat.mul_one]

section Bounds

variable {x : Float}

/-- The upper end of the rounding interval of a float is half a unit above it. -/
theorem upperBound_magnitudeBits (x : Float) :
    upperBound (magnitudeBits x) =
      (4 * (Binary.ofFloat x).mantissa + 2 : ℚ) * 2 ^ ((Binary.ofFloat x).exponent - 2) := by
  unfold upperBound
  rw [patternValue_succ, step_magnitudeBits, ← value_ofFloat]
  unfold Binary.value
  rw [zpow_sub₀ (by norm_num)]
  ring

/-- The lower end of the rounding interval of a nonzero float is half a unit below it, or a
quarter of a unit at the bottom of a binade. -/
theorem lowerBound_magnitudeBits (h : magnitudeBits x ≠ 0) :
    lowerBound (magnitudeBits x) =
      ((if (Binary.ofFloat x).narrowBelow then 4 * (Binary.ofFloat x).mantissa - 1
        else 4 * (Binary.ofFloat x).mantissa - 2 : Nat) : ℚ) *
        2 ^ ((Binary.ofFloat x).exponent - 2) := by
  have hm := ofFloat_mantissa_pos h
  have hprev : patternValue (magnitudeBits x - 1) =
      (Binary.ofFloat x).value - step (magnitudeBits x - 1) / 2 ^ 1074 := by
    have hsucc := patternValue_succ (magnitudeBits x - 1)
    rw [Nat.sub_add_cancel (Nat.pos_of_ne_zero h)] at hsucc
    rw [value_ofFloat, hsucc]
    ring
  have hstep := step_pred (exponentField x) (fractionField x) (fractionField_lt x)
    (by rw [← magnitudeBits_eq]; omega)
  rw [← magnitudeBits_eq] at hstep
  have hunit := step_magnitudeBits x
  unfold lowerBound
  rw [hprev, ← value_ofFloat]
  unfold Binary.value
  rw [zpow_sub₀ (by norm_num)]
  by_cases hn : (Binary.ofFloat x).narrowBelow = true
  · have hn' := (ofFloat_narrowBelow x).mp hn
    rw [if_pos hn'] at hstep
    have hhalf : (step (magnitudeBits x - 1) : ℚ) / 2 ^ 1074 =
        2 ^ (Binary.ofFloat x).exponent / 2 := by
      rw [← hunit, ← hstep]
      push_cast
      ring
    rw [if_pos hn, Nat.cast_sub (by omega), hhalf]
    push_cast
    ring
  · have hn' : ¬(fractionField x = 0 ∧ 1 < exponentField x) := fun h' =>
      hn ((ofFloat_narrowBelow x).mpr h')
    rw [if_neg hn', Nat.mul_one] at hstep
    rw [if_neg hn, Nat.cast_sub (by omega), hstep, hunit]
    push_cast
    ring

end Bounds

/-! ## Exact comparison of scaled numbers -/

/-- Scaling down to the common exponents `p0 ≤ p` and `r0 ≤ r` and back loses nothing. -/
theorem cast_scaled (a : Nat) {p r p0 r0 : Int} (hp : p0 ≤ p) (hr : r0 ≤ r) :
    ((a * 2 ^ (p - p0).toNat * 10 ^ (r - r0).toNat : Nat) : ℚ) * (2 ^ p0 * 10 ^ r0) =
      a * 2 ^ p * 10 ^ r := by
  have h2 : (2 : ℚ) ^ p = 2 ^ (p - p0).toNat * 2 ^ p0 := by
    rw [← zpow_natCast, Int.toNat_of_nonneg (by omega), ← zpow_add₀ (by norm_num), sub_add_cancel]
  have h10 : (10 : ℚ) ^ r = 10 ^ (r - r0).toNat * 10 ^ r0 := by
    rw [← zpow_natCast, Int.toNat_of_nonneg (by omega), ← zpow_add₀ (by norm_num), sub_add_cancel]
  rw [h2, h10]
  push_cast
  ring

section Compare

variable {a b : Nat} {p r p' r' : Int}

/-- The cast of both sides to a common scale, where the comparison is one of naturals. -/
theorem compareScaled_eq_lt :
    compareScaled a p r b p' r' = .lt ↔
      (a * 2 ^ p * 10 ^ r : ℚ) < b * 2 ^ p' * 10 ^ r' := by
  have hc : (0 : ℚ) < 2 ^ min p p' * 10 ^ min r r' := by positivity
  unfold compareScaled
  rw [Nat.compare_eq_lt, ← cast_scaled a (min_le_left p p') (min_le_left r r'),
    ← cast_scaled b (min_le_right p p') (min_le_right r r'), mul_lt_mul_iff_of_pos_right hc,
    Nat.cast_lt]

theorem compareScaled_eq_gt :
    compareScaled a p r b p' r' = .gt ↔
      (b * 2 ^ p' * 10 ^ r' : ℚ) < a * 2 ^ p * 10 ^ r := by
  have hc : (0 : ℚ) < 2 ^ min p p' * 10 ^ min r r' := by positivity
  unfold compareScaled
  rw [Nat.compare_eq_gt, ← cast_scaled a (min_le_left p p') (min_le_left r r'),
    ← cast_scaled b (min_le_right p p') (min_le_right r r'), mul_lt_mul_iff_of_pos_right hc,
    Nat.cast_lt]

end Compare

/-- The interval test of a decimal is membership in the rounding interval of the float: its two
comparisons are against the midpoints with the neighbours, closed for an even mantissa. -/
theorem roundsTo_iff {x : Float} (h : magnitudeBits x ≠ 0) (d : Nat) (s : Int) :
    (Binary.ofFloat x).roundsTo d s = true ↔
      InRoundingInterval ((d : ℚ) * 10 ^ s) (magnitudeBits x) := by
  set B := Binary.ofFloat x with hB
  have hlo : lowerBound (magnitudeBits x) =
      ((if B.narrowBelow then 4 * B.mantissa - 1 else 4 * B.mantissa - 2 : Nat) : ℚ) *
        2 ^ (B.exponent - 2) :=
    lowerBound_magnitudeBits h
  have hhi : upperBound (magnitudeBits x) =
      ((4 * B.mantissa + 2 : Nat) : ℚ) * 2 ^ (B.exponent - 2) := by
    rw [upperBound_magnitudeBits]
    push_cast
    rfl
  have hbelow : compareScaled d 0 s
      (if B.narrowBelow then 4 * B.mantissa - 1 else 4 * B.mantissa - 2) (B.exponent - 2) 0 = .lt ↔
      (d : ℚ) * 10 ^ s < lowerBound (magnitudeBits x) := by
    rw [compareScaled_eq_lt, hlo]
    simp
  have habove : compareScaled d 0 s
      (if B.narrowBelow then 4 * B.mantissa - 1 else 4 * B.mantissa - 2) (B.exponent - 2) 0 = .gt ↔
      lowerBound (magnitudeBits x) < (d : ℚ) * 10 ^ s := by
    rw [compareScaled_eq_gt, hlo]
    simp
  have hbelow' : compareScaled d 0 s (4 * B.mantissa + 2) (B.exponent - 2) 0 = .lt ↔
      (d : ℚ) * 10 ^ s < upperBound (magnitudeBits x) := by
    rw [compareScaled_eq_lt, hhi]
    simp
  have habove' : compareScaled d 0 s (4 * B.mantissa + 2) (B.exponent - 2) 0 = .gt ↔
      upperBound (magnitudeBits x) < (d : ℚ) * 10 ^ s := by
    rw [compareScaled_eq_gt, hhi]
    simp
  unfold Binary.roundsTo InRoundingInterval
  rw [ofFloat_mantissa_mod_two]
  by_cases hpar : magnitudeBits x % 2 = 0
  · rw [if_pos hpar, if_pos hpar]
    simp only [Bool.and_eq_true, bne_iff_ne, ne_eq, hbelow, habove', not_lt]
  · rw [if_neg hpar, if_neg hpar]
    simp only [Bool.and_eq_true, beq_iff_eq, habove, hbelow']

/-! ## Candidates on a decimal grid -/

/-- An integer power as a quotient of natural powers, the form in which candidates compute it. -/
theorem zpow_eq_toNat_div (a : ℚ) (z : Int) : a ^ z = a ^ z.toNat / a ^ (-z).toNat := by
  rcases le_total 0 z with hz | hz
  · rw [Int.toNat_eq_zero.mpr (by omega : -z ≤ 0), pow_zero, div_one, ← zpow_natCast,
      Int.toNat_of_nonneg hz]
  · rw [Int.toNat_eq_zero.mpr hz, pow_zero, one_div, ← zpow_natCast,
      Int.toNat_of_nonneg (by omega : 0 ≤ -z), zpow_neg, inv_inv]

/-- The numerator and denominator of a candidate are the value on the grid `10 ^ s`. -/
theorem candidate_ratio (B : Binary) (s : Int) :
    ((B.mantissa * 2 ^ B.exponent.toNat * 10 ^ (-s).toNat : Nat) : ℚ) /
        ((2 ^ (-B.exponent).toNat * 10 ^ s.toNat : Nat) : ℚ) = B.value / 10 ^ s := by
  unfold Binary.value
  rw [zpow_eq_toNat_div 2 B.exponent, zpow_eq_toNat_div 10 s]
  push_cast
  field_simp

/-- A candidate is the value itself, when that lies on the grid, or passes the interval test. -/
theorem candidate_exact_or_roundsTo {B : Binary} {k : Nat} {D : Digits}
    (hD : B.candidate k = some D) :
    D.value = B.value ∨ B.roundsTo D.mantissa D.exponent = true := by
  unfold Binary.candidate at hD
  dsimp only at hD
  generalize hs : B.decimalExponent - k + 1 = s at hD
  generalize hnum : B.mantissa * 2 ^ B.exponent.toNat * 10 ^ (-s).toNat = num at hD
  generalize hden : 2 ^ (-B.exponent).toNat * 10 ^ s.toNat = den at hD
  by_cases hexact : num % den = 0
  · -- the value lies on the grid and is its own candidate
    rw [if_pos hexact] at hD
    obtain rfl := Option.some.inj hD
    left
    have hpos : (0 : ℚ) < den := by
      rw [← hden]
      positivity
    have hcast : ((num / den : Nat) : ℚ) = num / den :=
      Nat.cast_div (Nat.dvd_of_mod_eq_zero hexact) hpos.ne'
    show ((num / den : Nat) : ℚ) * 10 ^ s = B.value
    rw [hcast, ← hnum, ← hden, candidate_ratio]
    field_simp
  · -- otherwise a candidate is one of the two neighbours that pass the test
    rw [if_neg hexact] at hD
    split at hD
    next hl hu =>
      right
      split at hD <;> obtain rfl := Option.some.inj hD
      · exact hl
      · exact hu
      · dsimp only
        split_ifs
        exacts [hl, hu]
    next hl _ =>
      right
      obtain rfl := Option.some.inj hD
      exact hl
    next _ hu =>
      right
      obtain rfl := Option.some.inj hD
      exact hu
    next => simp at hD

/-- Every candidate of a nonzero float lies in its rounding interval. -/
theorem candidate_mem {x : Float} (h : magnitudeBits x ≠ 0) {k : Nat} {D : Digits}
    (hD : (Binary.ofFloat x).candidate k = some D) :
    InRoundingInterval D.value (magnitudeBits x) := by
  rcases candidate_exact_or_roundsTo hD with hv | ht
  · rw [hv, value_ofFloat]
    exact mem_self
  · exact (roundsTo_iff h D.mantissa D.exponent).mp ht

/-! ## The decimal exponent never overshoots -/

/-- Whether the value lies below `10 ^ e`, the test the exponent search makes. -/
def Binary.exponentBelow (B : Binary) (e : Int) : Bool :=
  compareScaled B.mantissa B.exponent 0 1 0 e == .lt

/-- One step of the upward search for the decimal exponent. -/
def Binary.stepUp (B : Binary) (e : Int) : Int := if B.exponentBelow (e + 1) then e else e + 1

/-- One step of the downward search for the decimal exponent. -/
def Binary.stepDown (B : Binary) (e : Int) : Int := if B.exponentBelow e then e - 1 else e

/-- The first estimate `⌊(log₂ m + e) · 78913 / 2 ^ 18⌋` of the decimal exponent, with
`78913 / 2 ^ 18` just below `log₁₀ 2`. -/
def Binary.exponentEstimate (B : Binary) : Int :=
  ((Nat.log2 B.mantissa : Int) + B.exponent) * 78913 / 2 ^ 18

theorem decimalExponent_eq (B : Binary) :
    B.decimalExponent = B.stepDown (B.stepDown (B.stepUp (B.stepUp B.exponentEstimate))) := rfl

section Search

variable {B : Binary} {y : Int}

theorem exponentBelow_iff : B.exponentBelow y = true ↔ B.value < 10 ^ y := by
  unfold Binary.exponentBelow Binary.value
  rw [beq_iff_eq, compareScaled_eq_lt]
  simp

theorem stepUp_le (h : (10 : ℚ) ^ (y - 2) ≤ B.value) :
    (10 : ℚ) ^ (B.stepUp y - 2) ≤ B.value := by
  unfold Binary.stepUp
  split_ifs with hb
  · exact h
  · rw [exponentBelow_iff, not_lt] at hb
    calc (10 : ℚ) ^ (y + 1 - 2) ≤ 10 ^ (y + 1) := zpow_le_zpow_right₀ (by norm_num) (by omega)
      _ ≤ B.value := hb

theorem stepDown_sub_one_le (h : (10 : ℚ) ^ (y - 2) ≤ B.value) :
    (10 : ℚ) ^ (B.stepDown y - 1) ≤ B.value := by
  unfold Binary.stepDown
  split_ifs with hb
  · rwa [show y - 1 - 1 = y - 2 by ring]
  · rw [exponentBelow_iff, not_lt] at hb
    calc (10 : ℚ) ^ (y - 1) ≤ 10 ^ y := zpow_le_zpow_right₀ (by norm_num) (by omega)
      _ ≤ B.value := hb

theorem stepDown_le (h : (10 : ℚ) ^ (y - 1) ≤ B.value) :
    (10 : ℚ) ^ B.stepDown y ≤ B.value := by
  unfold Binary.stepDown
  split_ifs with hb
  · exact h
  · exact not_lt.mp (fun h' => hb (exponentBelow_iff.mpr h'))

end Search

/-- `78913 / 2 ^ 18` is below `log₁₀ 2` by less than `2 / 1074`, so the estimate of the decimal
exponent of `2 ^ L` is at most two above the truth for every `L ≥ -1074`. The comparison is made
in naturals after raising both sides to the power `2 ^ 18`. -/
theorem ten_pow_estimate_le {L : Int} (hL : -1074 ≤ L) :
    (10 : ℚ) ^ (L * 78913 / 2 ^ 18 - 2) ≤ 2 ^ L := by
  have hlog : (10 : Nat) ^ 78913 ≤ 2 ^ 262144 := by decide +kernel
  have hlog' : (2 : Nat) ^ 262144 ≤ 10 ^ 78914 := by decide +kernel
  rcases le_or_gt 0 L with hL0 | hL0
  · obtain ⟨l, rfl⟩ := Int.eq_ofNat_of_zero_le hL0
    obtain ⟨k, hk⟩ : ∃ k : Nat, (l : Int) * 78913 / 2 ^ 18 = k :=
      ⟨((l : Int) * 78913 / 2 ^ 18).toNat, by omega⟩
    have hkl : k * 2 ^ 18 ≤ l * 78913 := by omega
    have hnat : 10 ^ k ≤ 2 ^ l := by
      rw [← Nat.pow_le_pow_iff_left (by norm_num : 2 ^ 18 ≠ 0)]
      calc (10 ^ k) ^ 2 ^ 18 = 10 ^ (k * 2 ^ 18) := by rw [← pow_mul]
        _ ≤ 10 ^ (l * 78913) := Nat.pow_le_pow_right (by norm_num) hkl
        _ = (10 ^ 78913) ^ l := by rw [← pow_mul, mul_comm]
        _ ≤ (2 ^ 262144) ^ l := Nat.pow_le_pow_left hlog l
        _ = (2 ^ l) ^ 2 ^ 18 := by rw [← pow_mul, ← pow_mul, mul_comm]; norm_num
    rw [hk]
    calc (10 : ℚ) ^ ((k : Int) - 2) ≤ 10 ^ (k : Int) := zpow_le_zpow_right₀ (by norm_num) (by omega)
      _ = ((10 ^ k : Nat) : ℚ) := by rw [zpow_natCast]; push_cast; rfl
      _ ≤ ((2 ^ l : Nat) : ℚ) := Nat.cast_le.mpr hnat
      _ = 2 ^ (l : Int) := by rw [zpow_natCast]; push_cast; rfl
  · obtain ⟨n, hn⟩ : ∃ n : Nat, L = -n := ⟨(-L).toNat, by omega⟩
    obtain ⟨k, hk⟩ : ∃ k : Nat, L * 78913 / 2 ^ 18 = -k :=
      ⟨(-(L * 78913 / 2 ^ 18)).toNat, by omega⟩
    have hkn : n * 78914 ≤ (k + 2) * 2 ^ 18 := by omega
    have hnat : 2 ^ n ≤ 10 ^ (k + 2) := by
      rw [← Nat.pow_le_pow_iff_left (by norm_num : 2 ^ 18 ≠ 0)]
      calc (2 ^ n) ^ 2 ^ 18 = (2 ^ 262144) ^ n := by rw [← pow_mul, ← pow_mul, mul_comm]; norm_num
        _ ≤ (10 ^ 78914) ^ n := Nat.pow_le_pow_left hlog' n
        _ = 10 ^ (n * 78914) := by rw [← pow_mul, mul_comm]
        _ ≤ 10 ^ ((k + 2) * 2 ^ 18) := Nat.pow_le_pow_right (by norm_num) hkn
        _ = (10 ^ (k + 2)) ^ 2 ^ 18 := by rw [← pow_mul]
    have hexp : -(k : Int) - 2 = -((k + 2 : Nat) : Int) := by push_cast; ring
    rw [hk, hn, hexp, zpow_neg, zpow_neg, zpow_natCast, zpow_natCast]
    apply inv_anti₀ (by positivity)
    exact_mod_cast hnat

/-- The decimal exponent of a nonzero float is a power of ten at most its value. -/
theorem decimalExponent_le {x : Float} (h : magnitudeBits x ≠ 0) :
    (10 : ℚ) ^ (Binary.ofFloat x).decimalExponent ≤ (Binary.ofFloat x).value := by
  set B := Binary.ofFloat x
  have hm : 0 < B.mantissa := ofFloat_mantissa_pos h
  have hlog : ((2 ^ B.mantissa.log2 : Nat) : ℚ) ≤ B.mantissa :=
    Nat.cast_le.mpr (Nat.log2_self_le hm.ne')
  have hpow : (2 : ℚ) ^ ((B.mantissa.log2 : Int) + B.exponent) ≤ B.value := by
    rw [zpow_add₀ (by norm_num), zpow_natCast]
    unfold Binary.value
    push_cast at hlog
    exact mul_le_mul_of_nonneg_right hlog (by positivity)
  have he : -1074 ≤ B.exponent := ofFloat_exponent_ge x
  have hest : (10 : ℚ) ^ (B.exponentEstimate - 2) ≤ B.value :=
    (ten_pow_estimate_le (by omega)).trans hpow
  rw [decimalExponent_eq]
  exact stepDown_le (stepDown_sub_one_le (stepUp_le (stepUp_le hest)))

/-! ## Seventeen digits always suffice -/

/-- Of the two neighbours of `v` on a grid of step `g`, one is within half a step; so when half a
step is less than both gaps to the ends of an interval around `v`, one neighbour lies strictly
inside. -/
theorem grid_neighbour_mem {v g lo hi : ℚ} {n : Nat} (hn : n * g ≤ v) (hn' : v < (n + 1) * g)
    (hlo : g / 2 < v - lo) (hhi : g / 2 < hi - v) :
    (lo < n * g ∧ n * g < hi) ∨ (lo < (n + 1) * g ∧ (n + 1) * g < hi) := by
  by_cases hnear : v - n * g ≤ g / 2
  · left
    constructor <;> linarith
  · right
    constructor <;> linarith

theorem mem_of_lt_of_lt {q : ℚ} {b : Nat} (hlo : lowerBound b < q) (hhi : q < upperBound b) :
    InRoundingInterval q b := by
  unfold InRoundingInterval
  split_ifs
  · exact ⟨hlo.le, hhi.le⟩
  · exact ⟨hlo, hhi⟩

/-- A grid step of at most a `10 ^ 16`-th of a float's value is less than twice each gap to the
ends of its rounding interval: the mantissa is below `2 ^ 53 < 10 ^ 16`, and at the bottom of a
binade, where the lower gap is a quarter unit, it is `2 ^ 52`. -/
theorem half_step_lt_gaps {x : Float} (h : magnitudeBits x ≠ 0) {g : ℚ}
    (hg : g ≤ (Binary.ofFloat x).value / 10 ^ 16) :
    g / 2 < (Binary.ofFloat x).value - lowerBound (magnitudeBits x) ∧
      g / 2 < upperBound (magnitudeBits x) - (Binary.ofFloat x).value := by
  set B := Binary.ofFloat x
  have hm : 0 < B.mantissa := ofFloat_mantissa_pos h
  have hlt : (B.mantissa : ℚ) < 2 ^ 53 := by exact_mod_cast ofFloat_mantissa_lt x
  have hu : (0 : ℚ) < 2 ^ B.exponent := by positivity
  have hquarter : (2 : ℚ) ^ (B.exponent - 2) = 2 ^ B.exponent / 4 := by
    rw [zpow_sub₀ (by norm_num)]
    norm_num
  have hv : B.value = B.mantissa * 2 ^ B.exponent := rfl
  have hupper : upperBound (magnitudeBits x) - B.value = 2 ^ B.exponent / 2 := by
    rw [upperBound_magnitudeBits, hquarter, hv]
    ring
  refine ⟨?_, ?_⟩
  · rw [lowerBound_magnitudeBits h, hquarter]
    by_cases hn : B.narrowBelow = true
    · have hfields := (ofFloat_narrowBelow x).mp hn
      have hm52 : B.mantissa = 2 ^ 52 := by
        rw [ofFloat_mantissa, if_neg (by omega), hfields.1, Nat.zero_add]
      rw [if_pos hn, Nat.cast_sub (show 1 ≤ 4 * B.mantissa by omega)]
      rw [hv, hm52] at hg ⊢
      push_cast at hg ⊢
      nlinarith
    · rw [if_neg hn, Nat.cast_sub (show 2 ≤ 4 * B.mantissa by omega)]
      rw [hv] at hg ⊢
      push_cast
      nlinarith
  · rw [hupper]
    rw [hv] at hg
    nlinarith

/-- On the grid of seventeen significant digits a finite nonzero float always has a candidate:
the grid step `10 ^ (E - 16)` is at most a `10 ^ 16`-th of the value, so one of the value's two
neighbours on the grid lies strictly inside its rounding interval. -/
theorem candidate_seventeen_isSome {x : Float} (h : magnitudeBits x ≠ 0) :
    ((Binary.ofFloat x).candidate 17).isSome := by
  set B := Binary.ofFloat x
  have hE := decimalExponent_le h
  unfold Binary.candidate
  dsimp only
  generalize hs : B.decimalExponent - ((17 : Nat) : Int) + 1 = s
  generalize hnum : B.mantissa * 2 ^ B.exponent.toNat * 10 ^ (-s).toNat = num
  generalize hden : 2 ^ (-B.exponent).toNat * 10 ^ s.toNat = den
  by_cases hexact : num % den = 0
  · rw [if_pos hexact]
    rfl
  rw [if_neg hexact]
  have hpos : (0 : ℚ) < den := by
    rw [← hden]
    positivity
  have hratio : (num : ℚ) / den = B.value / 10 ^ s := by
    rw [← hnum, ← hden, candidate_ratio]
  have hgrid : (0 : ℚ) < 10 ^ s := by positivity
  -- the value lies between the two neighbours `⌊num / den⌋` and `⌊num / den⌋ + 1` of the grid
  have hfloor : ((num / den : Nat) : ℚ) * 10 ^ s ≤ B.value := by
    rw [← le_div_iff₀ hgrid, ← hratio]
    exact Nat.cast_div_le
  have hceil : B.value < ((num / den : Nat) + 1 : ℚ) * 10 ^ s := by
    rw [← div_lt_iff₀ hgrid, ← hratio, div_lt_iff₀ hpos]
    have := Nat.lt_div_mul_add (a := num) (by exact_mod_cast hpos : 0 < den)
    exact_mod_cast (by linarith : num < (num / den + 1) * den)
  have hstep : (10 : ℚ) ^ s ≤ B.value / 10 ^ 16 := by
    rw [← hs, show B.decimalExponent - ((17 : Nat) : Int) + 1 = B.decimalExponent - 16 by push_cast; ring,
      zpow_sub₀ (by norm_num)]
    exact div_le_div_of_nonneg_right hE (by positivity)
  obtain ⟨hlo, hhi⟩ := half_step_lt_gaps h hstep
  have hpass : B.roundsTo (num / den) s = true ∨ B.roundsTo (num / den + 1) s = true := by
    rcases grid_neighbour_mem hfloor hceil hlo hhi with ⟨h1, h2⟩ | ⟨h1, h2⟩
    · exact .inl ((roundsTo_iff h _ s).mpr (mem_of_lt_of_lt h1 h2))
    · refine .inr ((roundsTo_iff h _ s).mpr ?_)
      push_cast
      exact mem_of_lt_of_lt h1 h2
  split
  next => split <;> rfl
  next => rfl
  next => rfl
  next hl hu =>
    rw [hl, hu] at hpass
    simp at hpass

/-! ## The shortest decimal reads back -/

/-- Trimming trailing zeros keeps the value of a decimal. -/
theorem trim_value (d : Digits) : d.trim.value = d.value := by
  fun_induction Digits.trim d with
  | case1 d h ih =>
    rw [ih]
    unfold Digits.value
    dsimp only
    rw [Nat.cast_div (Nat.dvd_of_mod_eq_zero h.2) (by norm_num), zpow_add_one₀ (by norm_num)]
    push_cast
    ring
  | case2 => rfl

/-- The shortest decimal of a nonzero float lies in its rounding interval. -/
theorem shortest_mem {x : Float} (h : magnitudeBits x ≠ 0) :
    InRoundingInterval (Binary.ofFloat x).shortest.value (magnitudeBits x) := by
  unfold Binary.shortest
  dsimp only
  obtain ⟨D, hD⟩ : ∃ D, (List.range 17).findSome?
      (fun i => (Binary.ofFloat x).candidate (i + 1)) = some D := by
    rw [← Option.isSome_iff_exists, List.findSome?_isSome_iff]
    exact ⟨16, List.mem_range.mpr (by norm_num), candidate_seventeen_isSome h⟩
  obtain ⟨i, -, hi⟩ := List.exists_of_findSome?_eq_some hD
  rw [hD, Option.getD_some, trim_value]
  exact candidate_mem h hi

/-- The shortest decimal of a finite nonzero float rounds to the float's magnitude. -/
theorem isNearest_shortest {x : Float} (hfin : exponentField x < 2047) (h : magnitudeBits x ≠ 0) :
    IsNearest (Binary.ofFloat x).shortest.value (magnitudeBits x) :=
  isNearest_of_mem (magnitudeBits_lt_infinityBits hfin) (shortest_mem h)

/-- A whole value is the value of the magnitude. -/
theorem wholeValue?_value {B : Binary} {n : Nat} (h : B.wholeValue? = some n) :
    (n : ℚ) = B.value := by
  unfold Binary.wholeValue? at h
  unfold Binary.value
  split_ifs at h with he hd
  · obtain rfl := Option.some.inj h
    push_cast
    rw [← zpow_natCast, Int.toNat_of_nonneg he]
  · obtain rfl := Option.some.inj h
    rw [Nat.cast_div (Nat.dvd_of_mod_eq_zero hd) (by positivity), zpow_eq_toNat_div 2 B.exponent,
      Int.toNat_eq_zero.mpr (show B.exponent ≤ 0 by omega)]
    push_cast
    ring

end ExprTree.Decimal
