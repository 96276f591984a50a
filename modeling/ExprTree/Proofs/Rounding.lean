import ExprTree.Proofs.FloatBits

/-
  Rounding to the nearest float, ties to even. The patterns with the sign bit clear, read as
  natural numbers, list the nonnegative floats in increasing order: `0` is `+0`, then the
  subnormals, the normal floats, and `infinityBits` is `+∞`. `units b` is the value of the pattern
  `b` in units of the least subnormal `2 ^ -1074`; each pattern adds `step b` to the one before
  (`units_succ`), so values grow strictly with patterns (`units_lt_units`).

  `IsNearest q b` is the rounding of a nonnegative rational `q` as IEEE 754 defines it: below the
  overflow bound, `b` is a finite float that no finite float is nearer to `q` than, and of two as
  near the even pattern wins; from the overflow bound on, `b` is infinity. Then:

  * at most one pattern is the nearest (`isNearest_unique`);
  * a `q` between the midpoints of `b` with its two neighbours, the midpoints counted when `b` is
    even, rounds to `b` (`isNearest_of_mem`). This is the test a shortest-digits writer runs.
-/

namespace ExprTree.Decimal

/-- The pattern of positive infinity. The patterns below it are the nonnegative finite floats. -/
def infinityBits : Nat := 2047 * 2 ^ 52

/-- The value of the pattern `b` in units of `2 ^ -1074`: the fraction field when the exponent
field is `0`, and otherwise the mantissa `2 ^ 52 + r` times `2 ^ (f - 1)`. -/
def units (b : Nat) : Nat :=
  if b / 2 ^ 52 = 0 then b % 2 ^ 52 else (2 ^ 52 + b % 2 ^ 52) * 2 ^ (b / 2 ^ 52 - 1)

/-- The step from the value of the pattern `b` to the value of the next one, in the same units:
one unit among the subnormals, `2 ^ (f - 1)` at exponent field `f`. -/
def step (b : Nat) : Nat := 2 ^ (b / 2 ^ 52 - 1)

/-- The value of a pattern with the sign bit clear. -/
def patternValue (b : Nat) : ℚ := units b / 2 ^ 1074

theorem step_pos (b : Nat) : 0 < step b := Nat.two_pow_pos _

theorem units_of_fields (f r : Nat) (hr : r < 2 ^ 52) :
    units (f * 2 ^ 52 + r) = if f = 0 then r else (2 ^ 52 + r) * 2 ^ (f - 1) := by
  have hq : (f * 2 ^ 52 + r) / 2 ^ 52 = f := by omega
  have hm : (f * 2 ^ 52 + r) % 2 ^ 52 = r := by omega
  unfold units
  rw [hq, hm]

theorem step_of_fields (f r : Nat) (hr : r < 2 ^ 52) : step (f * 2 ^ 52 + r) = 2 ^ (f - 1) := by
  have hq : (f * 2 ^ 52 + r) / 2 ^ 52 = f := by omega
  unfold step
  rw [hq]

/-- Each pattern is one step above the one before. At the end of an exponent field the fraction
carries into the exponent, and `(2 ^ 53 - 1) · 2 ^ (f - 1) + 2 ^ (f - 1) = 2 ^ 52 · 2 ^ f`. -/
theorem units_succ (b : Nat) : units (b + 1) = units b + step b := by
  obtain ⟨f, r, hr, rfl⟩ : ∃ f r, r < 2 ^ 52 ∧ b = f * 2 ^ 52 + r :=
    ⟨b / 2 ^ 52, b % 2 ^ 52, Nat.mod_lt _ (by decide), by omega⟩
  rw [units_of_fields f r hr, step_of_fields f r hr]
  by_cases hcarry : r + 1 = 2 ^ 52
  · -- the fraction field is full: the next pattern starts a new exponent field
    have hnext : f * 2 ^ 52 + r + 1 = (f + 1) * 2 ^ 52 + 0 := by omega
    rw [hnext, units_of_fields (f + 1) 0 (by decide), if_neg (by omega), Nat.add_sub_cancel]
    by_cases hf : f = 0
    · subst hf
      rw [if_pos rfl]
      omega
    · obtain ⟨k, rfl⟩ : ∃ k, f = k + 1 := ⟨f - 1, by omega⟩
      rw [if_neg hf, Nat.add_sub_cancel, Nat.pow_succ 2 k]
      have hr' : r = 2 ^ 52 - 1 := by omega
      subst hr'
      ring_nf
  · -- the fraction field grows by one within the exponent field
    have hnext : f * 2 ^ 52 + r + 1 = f * 2 ^ 52 + (r + 1) := by omega
    rw [hnext, units_of_fields f (r + 1) (by omega)]
    by_cases hf : f = 0
    · rw [if_pos hf, if_pos hf, hf]
      simp
    · rw [if_neg hf, if_neg hf]
      ring

theorem units_lt_succ (b : Nat) : units b < units (b + 1) := by
  rw [units_succ]
  exact Nat.lt_add_of_pos_right (step_pos b)

/-- Values grow strictly with patterns. -/
theorem units_lt_units {b c : Nat} (h : b < c) : units b < units c := by
  induction c with
  | zero => omega
  | succ c ih =>
    rcases Nat.lt_succ_iff_lt_or_eq.mp h with hlt | rfl
    · exact Nat.lt_trans (ih hlt) (units_lt_succ c)
    · exact units_lt_succ b

theorem patternValue_lt {b c : Nat} (h : b < c) : patternValue b < patternValue c := by
  unfold patternValue
  have : (units b : ℚ) < units c := by exact_mod_cast units_lt_units h
  exact div_lt_div_of_pos_right this (by positivity)

theorem patternValue_le {b c : Nat} (h : b ≤ c) : patternValue b ≤ patternValue c := by
  rcases Nat.lt_or_eq_of_le h with hlt | rfl
  · exact le_of_lt (patternValue_lt hlt)
  · exact le_refl _

theorem patternValue_zero : patternValue 0 = 0 := by
  simp [patternValue, units]

/-! ## The nearest float -/

/-- Halfway between the largest finite float and `2 ^ 1024`, the value the pattern of infinity
would have as a finite float. A value at or past it rounds to infinity. -/
def overflowBound : ℚ := (patternValue (infinityBits - 1) + patternValue infinityBits) / 2

/-- `b` is the pattern of the float nearest to the nonnegative rational `q`, ties to even. -/
def IsNearest (q : ℚ) (b : Nat) : Prop :=
  if q < overflowBound then
    b < infinityBits ∧ ∀ c < infinityBits,
      |q - patternValue b| ≤ |q - patternValue c| ∧
      (|q - patternValue b| = |q - patternValue c| → c = b ∨ b % 2 = 0)
  else b = infinityBits

/-- Between two floats, a third: if `b < c` are equally near to `q`, then `q` is their midpoint,
and any pattern strictly between them is strictly nearer. -/
theorem nearer_between {q : ℚ} {b c d : Nat} (hbd : b < d) (hdc : d < c)
    (heq : |q - patternValue b| = |q - patternValue c|) :
    |q - patternValue d| < |q - patternValue b| := by
  have h1 := patternValue_lt hbd
  have h2 := patternValue_lt hdc
  have hmid : 2 * q = patternValue b + patternValue c := by
    rcases abs_eq_abs.mp heq with h | h <;> linarith
  have hpos : 0 < q - patternValue b := by linarith
  rw [abs_of_pos hpos, abs_lt]
  constructor <;> linarith

/-- At most one float is the nearest to `q`: two equally near finite floats would both be even,
and then a float between them is nearer still, or they are neighbours of different parity. -/
theorem isNearest_unique {q : ℚ} {b c : Nat} (hb : IsNearest q b) (hc : IsNearest q c) :
    b = c := by
  unfold IsNearest at hb hc
  split_ifs at hb hc with hq
  · obtain ⟨hbi, hbn⟩ := hb
    obtain ⟨hci, hcn⟩ := hc
    obtain ⟨hbc, htie_b⟩ := hbn c hci
    obtain ⟨hcb, htie_c⟩ := hcn b hbi
    have heq : |q - patternValue b| = |q - patternValue c| := le_antisymm hbc hcb
    -- both are even unless they coincide
    rcases htie_b heq with rfl | hbe
    · rfl
    rcases htie_c heq.symm with rfl | hce
    · rfl
    rcases Nat.lt_trichotomy b c with hlt | rfl | hgt
    · by_cases hadj : b + 1 = c
      · omega
      · have := nearer_between (Nat.lt_succ_self b) (by omega) heq
        have := (hbn (b + 1) (by omega)).1
        linarith
    · rfl
    · by_cases hadj : c + 1 = b
      · omega
      · have := nearer_between (Nat.lt_succ_self c) (by omega) heq.symm
        have := (hcn (c + 1) (by omega)).1
        linarith
  · rw [hb, hc]

/-! ## Rounding intervals -/

/-- Halfway between the pattern `b` and the one below it; `0` for `b = 0`. -/
def lowerBound (b : Nat) : ℚ := (patternValue (b - 1) + patternValue b) / 2

/-- Halfway between the pattern `b` and the one above it. -/
def upperBound (b : Nat) : ℚ := (patternValue b + patternValue (b + 1)) / 2

/-- `q` lies in the rounding interval of `b`: between the two midpoints, which count for `b`
exactly when `b` is even. -/
def InRoundingInterval (q : ℚ) (b : Nat) : Prop :=
  if b % 2 = 0 then lowerBound b ≤ q ∧ q ≤ upperBound b
  else lowerBound b < q ∧ q < upperBound b

theorem le_upperBound_of_mem {q : ℚ} {b : Nat} (h : InRoundingInterval q b) :
    q ≤ upperBound b := by
  unfold InRoundingInterval at h
  split_ifs at h
  · exact h.2
  · exact le_of_lt h.2

theorem lowerBound_le_of_mem {q : ℚ} {b : Nat} (h : InRoundingInterval q b) :
    lowerBound b ≤ q := by
  unfold InRoundingInterval at h
  split_ifs at h
  · exact h.1
  · exact le_of_lt h.1

/-- Against a float above `b`: no nearer, and as near only for the next pattern at the upper
midpoint. -/
theorem dist_le_of_lt {q : ℚ} {b c : Nat} (hq : q ≤ upperBound b) (hbc : b < c) :
    |q - patternValue b| ≤ |q - patternValue c| ∧
      (|q - patternValue b| = |q - patternValue c| → c = b + 1 ∧ q = upperBound b) := by
  unfold upperBound at hq
  have hnext : patternValue (b + 1) ≤ patternValue c := patternValue_le hbc
  have hb1 := patternValue_lt (Nat.lt_succ_self b)
  have hbc' := patternValue_lt hbc
  have hc : |q - patternValue c| = patternValue c - q := by
    rw [abs_sub_comm, abs_of_nonneg (by linarith)]
  rw [hc]
  refine ⟨abs_le.mpr ⟨by linarith, by linarith⟩, fun heq => ?_⟩
  rcases abs_cases (q - patternValue b) with ⟨hb, hpos⟩ | ⟨hb, hneg⟩
  · have hle : patternValue c ≤ patternValue (b + 1) := by linarith
    have hcb : c ≤ b + 1 := by
      by_contra hgt
      have := patternValue_lt (show b + 1 < c by omega)
      linarith
    refine ⟨by omega, ?_⟩
    have : c = b + 1 := by omega
    subst this
    unfold upperBound
    linarith
  · linarith

/-- Against a float below `b`: no nearer, and as near only for the pattern before at the lower
midpoint. -/
theorem dist_le_of_gt {q : ℚ} {b c : Nat} (hq : lowerBound b ≤ q) (hcb : c < b) :
    |q - patternValue b| ≤ |q - patternValue c| ∧
      (|q - patternValue b| = |q - patternValue c| → c + 1 = b ∧ q = lowerBound b) := by
  unfold lowerBound at hq
  have hprev : patternValue c ≤ patternValue (b - 1) := patternValue_le (by omega)
  have hb1 := patternValue_lt (show b - 1 < b by omega)
  have hcb' := patternValue_lt hcb
  have hc : |q - patternValue c| = q - patternValue c := abs_of_nonneg (by linarith)
  rw [hc]
  refine ⟨abs_le.mpr ⟨by linarith, by linarith⟩, fun heq => ?_⟩
  rcases abs_cases (q - patternValue b) with ⟨hb, hpos⟩ | ⟨hb, hneg⟩
  · linarith
  · have hle : patternValue (b - 1) ≤ patternValue c := by linarith
    have hbc : b - 1 ≤ c := by
      by_contra hlt
      have := patternValue_lt (show c < b - 1 by omega)
      linarith
    refine ⟨by omega, ?_⟩
    have : c = b - 1 := by omega
    subst this
    unfold lowerBound
    linarith

theorem upperBound_lt_overflowBound {b : Nat} (h : b + 1 < infinityBits) :
    upperBound b < overflowBound := by
  unfold upperBound overflowBound
  have h1 := patternValue_lt (show b < infinityBits - 1 by omega)
  have h2 := patternValue_le (show b + 1 ≤ infinityBits by omega)
  linarith

/-- A rational in the rounding interval of a finite pattern rounds to it. -/
theorem isNearest_of_mem {q : ℚ} {b : Nat} (hb : b < infinityBits)
    (h : InRoundingInterval q b) : IsNearest q b := by
  have hup := le_upperBound_of_mem h
  have hlo := lowerBound_le_of_mem h
  have hq : q < overflowBound := by
    by_cases hmax : b + 1 < infinityBits
    · exact lt_of_le_of_lt hup (upperBound_lt_overflowBound hmax)
    · -- the largest finite float has an odd pattern, so its upper midpoint is excluded
      have hbm : b = infinityBits - 1 := by omega
      have hodd : b % 2 = 1 := by rw [hbm]; decide
      unfold InRoundingInterval at h
      rw [if_neg (by omega)] at h
      have : upperBound b = overflowBound := by
        unfold upperBound overflowBound
        rw [hbm, Nat.sub_add_cancel (by decide)]
      linarith [h.2]
  unfold IsNearest
  rw [if_pos hq]
  refine ⟨hb, fun c _ => ?_⟩
  rcases Nat.lt_trichotomy c b with hcb | rfl | hbc
  · obtain ⟨hle, htie⟩ := dist_le_of_gt hlo hcb
    refine ⟨hle, fun heq => Or.inr ?_⟩
    obtain ⟨-, hqlo⟩ := htie heq
    by_contra hodd
    unfold InRoundingInterval at h
    rw [if_neg hodd] at h
    linarith [h.1]
  · exact ⟨le_refl _, fun _ => Or.inl rfl⟩
  · obtain ⟨hle, htie⟩ := dist_le_of_lt hup hbc
    refine ⟨hle, fun heq => Or.inr ?_⟩
    obtain ⟨-, hqhi⟩ := htie heq
    by_contra hodd
    unfold InRoundingInterval at h
    rw [if_neg hodd] at h
    linarith [h.2]

/-- A finite pattern's own value lies in its rounding interval. -/
theorem mem_self {b : Nat} : InRoundingInterval (patternValue b) b := by
  have hup : patternValue b < upperBound b := by
    unfold upperBound
    linarith [patternValue_lt (Nat.lt_succ_self b)]
  have hlo : lowerBound b ≤ patternValue b := by
    unfold lowerBound
    linarith [patternValue_le (show b - 1 ≤ b by omega)]
  unfold InRoundingInterval
  split_ifs with heven
  · exact ⟨hlo, le_of_lt hup⟩
  · -- an odd pattern is not `0`, so the one below it is strictly below
    have hlt : lowerBound b < patternValue b := by
      unfold lowerBound
      linarith [patternValue_lt (show b - 1 < b by omega)]
    exact ⟨hlt, hup⟩

end ExprTree.Decimal
