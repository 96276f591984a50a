import ExprTree.Decimal.Shortest
import Mathlib

/-
  Floats read off their bits. A float is a 64-bit pattern: the sign bit, an 11-bit biased
  exponent field and a 52-bit fraction field. The logical model of `Float` unpacks a pattern
  into an infinity, the NaN, a signed zero or a finite float; `unpack_eq_ofFields` says which,
  in terms of the two fields and the sign, and `toBits_pack_ofFields` packs such a float back
  into its pattern. From these two facts:

  * `isNaN`, `isInf` and the comparison `== 0` test the fields (`isNaN_iff`, `isInf_iff`,
    `beq_zero_iff`), and the one NaN of the model has the pattern `0x7FF8000000000000`
    (`toBits_of_isNaN`);
  * `Float.abs` clears the sign bit and negation flips it, on every float but the NaN
    (`toBits_abs`, `toBits_neg`);
  * two floats with one pattern are one float (`eq_of_toBits_eq`).
-/

namespace ExprTree.Decimal

open Float.Model Float.Model.UnpackedFloat

/-- The biased exponent field of a float: bits 52 to 62. -/
def exponentField (x : Float) : Nat := x.toBits.toNat / 2 ^ 52 % 2 ^ 11

/-- The fraction field of a float: bits 0 to 51. -/
def fractionField (x : Float) : Nat := x.toBits.toNat % 2 ^ 52

/-- The sign of a float, from its sign bit. -/
def signOf (x : Float) : Sign := if signBit x then .negative else .positive

/-- What the sign bit adds to the pattern. -/
def signWeight : Sign → Nat
  | .negative => 2 ^ 63
  | .positive => 0

/-- The unpacked float with the given sign and fields: exponent field `2047` holds the infinities
and the NaN, exponent field `0` the zeros and the subnormals, and any other the normal floats,
whose mantissa has the leading bit `2 ^ 52` set. -/
def ofFields (s : Sign) (f r : Nat) : UnpackedFloat :=
  if f = 2047 then (if r = 0 then .infinity s else .notANumber)
  else if f = 0 then
    if hr : r = 0 then .zero s else .finite s r (-1074) (Nat.pos_of_ne_zero hr)
  else .finite s (2 ^ 52 + r) ((f : Int) - 1075)
    (Nat.lt_of_lt_of_le (Nat.two_pow_pos 52) (Nat.le_add_right _ _))

theorem signWeight_signOf (x : Float) :
    signWeight (signOf x) = x.toBits.toNat / 2 ^ 63 * 2 ^ 63 := by
  have hlt : x.toBits.toNat < 2 ^ 64 := x.toBits.toNat_lt
  unfold signOf signBit
  by_cases h : x.toBits.toNat / 2 ^ 63 % 2 = 1
  · simp only [h, decide_true, if_true, signWeight]
    omega
  · simp only [h, decide_false, Bool.false_eq_true, if_false, signWeight]
    omega

/-- The pattern of a float is its sign, exponent field and fraction field side by side. -/
theorem toBits_eq_fields (x : Float) :
    x.toBits.toNat = signWeight (signOf x) + exponentField x * 2 ^ 52 + fractionField x := by
  rw [signWeight_signOf]
  unfold exponentField fractionField
  have hlt : x.toBits.toNat < 2 ^ 64 := x.toBits.toNat_lt
  omega

theorem exponentField_lt (x : Float) : exponentField x < 2048 :=
  Nat.mod_lt _ (by decide)

theorem fractionField_lt (x : Float) : fractionField x < 2 ^ 52 :=
  Nat.mod_lt _ (by decide)

/-- Two floats with one pattern are one float: the model has a single NaN, so a pattern names
exactly one float. -/
theorem eq_of_toBits_eq {x y : Float} (h : x.toBits = y.toBits) : x = y := by
  rcases x with ⟨⟨bx, hx⟩⟩
  rcases y with ⟨⟨bY, hY⟩⟩
  change bx = bY at h
  subst h
  rfl

theorem eq_of_toBits_toNat_eq {x y : Float} (h : x.toBits.toNat = y.toBits.toNat) : x = y :=
  eq_of_toBits_eq (UInt64.toNat_inj.mp h)

/-! ## Unpacking -/

theorem unpackMantissa_toNat (v : BitVec 64) :
    (@unpackMantissa Format.binary64 v).toNat = v.toNat % 2 ^ 52 := by
  simp [unpackMantissa]

theorem unpackExponent_toNat (v : BitVec 64) :
    (@unpackExponent Format.binary64 v).toNat = v.toNat / 2 ^ 52 % 2 ^ 11 := by
  simp [unpackExponent, Nat.shiftRight_eq_div_pow]

theorem unpackSign_toNat (v : BitVec 64) :
    (@unpackSign Format.binary64 v).toNat = v.toNat / 2 ^ 63 := by
  have := v.isLt
  simp [unpackSign, Nat.shiftRight_eq_div_pow]
  omega

/-- The model unpacks a float into `ofFields` of its sign and fields. -/
theorem unpack_eq_ofFields (x : Float) :
    x.toModel.unpack = ofFields (signOf x) (exponentField x) (fractionField x) := by
  have hm := unpackMantissa_toNat x.toModel.toBits.toBitVec
  have he := unpackExponent_toNat x.toModel.toBits.toBitVec
  have hs := unpackSign_toNat x.toModel.toBits.toBitVec
  have hlt : x.toBits.toNat < 2 ^ 64 := x.toBits.toNat_lt
  have hsign : Sign.ofBitVec (@unpackSign Format.binary64 x.toModel.toBits.toBitVec) =
      signOf x := by
    have hiff : @unpackSign Format.binary64 x.toModel.toBits.toBitVec = 0#1 ↔
        ¬signBit x = true := by
      rw [← BitVec.toNat_inj, hs]
      simp only [signBit, decide_eq_true_eq]
      change x.toBits.toNat / 2 ^ 63 = 0 ↔ ¬x.toBits.toNat / 2 ^ 63 % 2 = 1
      omega
    unfold Sign.ofBitVec signOf
    by_cases h : signBit x = true <;> simp [hiff, h]
  have hE1 : @unpackExponent Format.binary64 x.toModel.toBits.toBitVec = -1#11 ↔
      exponentField x = 2047 := by
    rw [← BitVec.toNat_inj, he]; rfl
  have hE0 : @unpackExponent Format.binary64 x.toModel.toBits.toBitVec = 0#11 ↔
      exponentField x = 0 := by
    rw [← BitVec.toNat_inj, he]; rfl
  have hM0 : @unpackMantissa Format.binary64 x.toModel.toBits.toBitVec = 0#52 ↔
      fractionField x = 0 := by
    rw [← BitVec.toNat_inj, hm]; rfl
  simp only [Float.Model.unpack, UnpackedFloat.unpack, ofFields, hsign, hE1, hE0, hM0]
  split_ifs with h1 h2 h3 h4
  · rfl
  · rfl
  · rfl
  · -- a subnormal: the mantissa is the fraction field, the exponent the least one
    simp only [finite.injEq, hm, he, true_and]
    refine ⟨rfl, ?_⟩
    change x.toBits.toNat / 2 ^ 52 % 2 ^ 11 = 0 at h3
    change ((x.toBits.toNat / 2 ^ 52 % 2 ^ 11 : Nat) : Int) - (1023 + 52) + 1 = -1074
    omega
  · -- a normal float: the leading bit `2 ^ 52` joins the fraction field
    have hr : x.toBits.toNat % 2 ^ 52 < 2 ^ 52 := Nat.mod_lt _ (by decide)
    simp only [finite.injEq, true_and, BitVec.toNat_append, hm, he]
    refine ⟨?_, rfl⟩
    change 2 ^ 52 ||| x.toBits.toNat % 2 ^ 52 = 2 ^ 52 + x.toBits.toNat % 2 ^ 52
    rw [Nat.or_comm, Nat.or_two_pow_eq_add_of_lt hr, Nat.add_comm]

/-! ## Packing -/

theorem toNat_packComponents (s : Sign) (e : BitVec 11) (m : BitVec 52) :
    (packComponents Format.binary64 s e m).toNat = signWeight s + e.toNat * 2 ^ 52 + m.toNat := by
  have he := e.isLt
  have hm := m.isLt
  unfold packComponents
  rw [BitVec.toNat_append, BitVec.toNat_append]
  simp only [Nat.shiftLeft_eq]
  rw [Nat.mul_comm _ (2 ^ 11), ← Nat.two_pow_add_eq_or_of_lt he]
  rw [Nat.mul_comm _ (2 ^ 52), ← Nat.two_pow_add_eq_or_of_lt hm]
  cases s
  · change 2 ^ 52 * (2 ^ 11 * 1 + e.toNat) + m.toNat = 2 ^ 63 + e.toNat * 2 ^ 52 + m.toNat
    omega
  · change 2 ^ 52 * (2 ^ 11 * 0 + e.toNat) + m.toNat = 0 + e.toNat * 2 ^ 52 + m.toNat
    omega

/-- Packing the unpacked float of a sign and fields gives back the pattern, for every pattern
but a NaN's. -/
theorem toBits_pack_ofFields (s : Sign) (f r : Nat) (hf : f < 2047 ∨ f = 2047 ∧ r = 0)
    (hr : r < 2 ^ 52) :
    (Float.Model.pack (ofFields s f r)).toBits.toNat = signWeight s + f * 2 ^ 52 + r := by
  unfold ofFields
  by_cases hinf : f = 2047
  · -- an infinity: exponent field all ones, fraction field zero
    obtain ⟨rfl, rfl⟩ : f = 2047 ∧ r = 0 := by omega
    change (packComponents Format.binary64 s (-1#_) 0).toNat = _
    rw [toNat_packComponents]
    rfl
  rw [if_neg hinf]
  by_cases h0 : f = 0
  · subst h0
    by_cases hr0 : r = 0
    · subst hr0
      change (packComponents Format.binary64 s 0 0).toNat = _
      rw [toNat_packComponents]
      rfl
    · have hlog : r.log2 < 52 := (Nat.log2_lt hr0).mpr hr
      simp only [if_true, hr0, dite_false]
      change (UnpackedFloat.pack Format.binary64
        (.finite s r (-1074) (Nat.pos_of_ne_zero hr0))).toNat = _
      unfold UnpackedFloat.pack
      rw [if_neg (by decide), if_neg (by change ¬(r.log2 + 1 = 53); omega), toNat_packComponents]
      simp only [BitVec.toNat_ofNat]
      rw [Nat.mod_eq_of_lt hr]
  · have hlog : (2 ^ 52 + r).log2 = 52 := (Nat.log2_eq_iff (by omega)).mpr ⟨by omega, by omega⟩
    rw [if_neg h0]
    change (UnpackedFloat.pack Format.binary64 (.finite s (2 ^ 52 + r) ((f : Int) - 1075)
      (Nat.lt_of_lt_of_le (Nat.two_pow_pos 52) (Nat.le_add_right _ _)))).toNat = _
    unfold UnpackedFloat.pack
    have hb : ((f : Int) - 1075 + (Format.binary64.exponentBias : Int) +
        (Format.binary64.mantissaBitsWithoutImplicit : Int)).toNat = f := by
      change ((f : Int) - 1075 + 1023 + 52).toNat = f
      omega
    rw [hb, if_neg (by change ¬(2048 ≤ f + 1); omega), hlog,
      if_pos (show 52 + 1 = Format.binary64.mantissaBits from rfl), toNat_packComponents]
    simp only [BitVec.toNat_ofNat]
    rw [Nat.mod_eq_of_lt (show f < 2 ^ 11 by omega), Nat.add_mod_left, Nat.mod_eq_of_lt hr]

/-! ## Tests and sign operations -/

theorem isNaN_iff (x : Float) :
    x.isNaN = true ↔ exponentField x = 2047 ∧ fractionField x ≠ 0 := by
  change x.toModel.unpack.isNaN = true ↔ _
  rw [unpack_eq_ofFields]
  unfold ofFields
  split_ifs <;> simp_all [UnpackedFloat.isNaN]

theorem isInf_iff (x : Float) :
    x.isInf = true ↔ exponentField x = 2047 ∧ fractionField x = 0 := by
  change x.toModel.unpack.isInf = true ↔ _
  rw [unpack_eq_ofFields]
  unfold ofFields
  split_ifs <;> simp_all [UnpackedFloat.isInf]

theorem unpack_zero : (0 : Float).toModel.unpack = .zero .positive := by
  rw [unpack_eq_ofFields]
  rfl

theorem beq_zero_iff (x : Float) :
    (x == 0) = true ↔ exponentField x = 0 ∧ fractionField x = 0 := by
  change x.toModel.unpack.beq (0 : Float).toModel.unpack = true ↔ _
  rw [unpack_zero, unpack_eq_ofFields]
  unfold ofFields
  split_ifs <;> cases signOf x <;>
    simp_all [UnpackedFloat.beq, UnpackedFloat.compare]

/-- The one NaN of the model: its exponent field is all ones and its fraction field has the top
bit alone. -/
theorem toBits_of_isNaN {x : Float} (h : x.isNaN = true) :
    x.toBits.toNat = 0x7FF8000000000000 := by
  rw [isNaN_iff] at h
  have hv := x.toModel.valid.eq_packedNaN
  have he := unpackExponent_toNat x.toModel.toBits.toBitVec
  have hm := unpackMantissa_toNat x.toModel.toBits.toBitVec
  have hpat := hv (BitVec.eq_of_toNat_eq (by rw [he]; exact h.1))
    (fun h0 => h.2 (by have := congrArg BitVec.toNat h0; rw [hm] at this; exact this))
  exact congrArg BitVec.toNat hpat

theorem abs_ofFields (s : Sign) (f r : Nat) : (ofFields s f r).abs = ofFields .positive f r := by
  unfold ofFields
  split_ifs <;> rfl

theorem neg_ofFields (s : Sign) (f r : Nat) : (ofFields s f r).neg = ofFields (-s) f r := by
  unfold ofFields
  split_ifs <;> rfl

/-- `Float.abs` clears the sign bit of every float but the NaN. -/
theorem toBits_abs {x : Float} (h : x.isNaN = false) :
    (Float.abs x).toBits.toNat = x.toBits.toNat % 2 ^ 63 := by
  have hn : ¬(exponentField x = 2047 ∧ fractionField x ≠ 0) := by
    rw [← isNaN_iff, h]; decide
  have hf := exponentField_lt x
  change (Float.Model.pack x.toModel.unpack.abs).toBits.toNat = _
  rw [unpack_eq_ofFields, abs_ofFields,
    toBits_pack_ofFields _ _ _ (by omega) (fractionField_lt x), toBits_eq_fields x]
  have hb : exponentField x * 2 ^ 52 + fractionField x < 2 ^ 63 := by
    have := fractionField_lt x
    omega
  cases signOf x <;> simp only [signWeight] <;> omega

/-- Negation flips the sign bit of every float but the NaN. -/
theorem toBits_neg {x : Float} (h : x.isNaN = false) :
    (-x).toBits.toNat = signWeight (-signOf x) + exponentField x * 2 ^ 52 + fractionField x := by
  have hn : ¬(exponentField x = 2047 ∧ fractionField x ≠ 0) := by
    rw [← isNaN_iff, h]; decide
  have hf := exponentField_lt x
  change (Float.Model.pack x.toModel.unpack.neg).toBits.toNat = _
  rw [unpack_eq_ofFields, neg_ofFields,
    toBits_pack_ofFields _ _ _ (by omega) (fractionField_lt x)]

theorem signWeight_eq (s : Sign) : signWeight s = 0 ∨ signWeight s = 2 ^ 63 := by
  cases s
  · exact .inr rfl
  · exact .inl rfl

theorem exponentField_neg {x : Float} (h : x.isNaN = false) :
    exponentField (-x) = exponentField x := by
  have he := exponentField_lt x
  have hf := fractionField_lt x
  rcases signWeight_eq (-signOf x) with hw | hw <;>
  · show (-x).toBits.toNat / 2 ^ 52 % 2 ^ 11 = exponentField x
    rw [toBits_neg h, hw]
    omega

theorem fractionField_neg {x : Float} (h : x.isNaN = false) :
    fractionField (-x) = fractionField x := by
  have hf := fractionField_lt x
  rcases signWeight_eq (-signOf x) with hw | hw <;>
  · show (-x).toBits.toNat % 2 ^ 52 = fractionField x
    rw [toBits_neg h, hw]
    omega

/-- Negation flips the sign bit of every float but the NaN. -/
theorem signBit_neg {x : Float} (h : x.isNaN = false) : signBit (-x) = !signBit x := by
  have hm : exponentField x * 2 ^ 52 + fractionField x < 2 ^ 63 := by
    have := fractionField_lt x
    have := exponentField_lt x
    omega
  have hb := toBits_neg h
  unfold signOf at hb
  unfold signBit at hb ⊢
  by_cases hs : x.toBits.toNat / 2 ^ 63 % 2 = 1
  · simp only [hs, decide_true, if_true, Bool.not_true] at hb ⊢
    rw [hb, show signWeight (-Sign.negative) = 0 from rfl]
    simp only [decide_eq_false_iff_not]
    omega
  · simp only [hs, decide_false, Bool.false_eq_true, if_false, Bool.not_false] at hb ⊢
    rw [hb, show signWeight (-Sign.positive) = 2 ^ 63 from rfl]
    simp only [decide_eq_true_eq]
    omega

theorem signBit_eq_false_of_lt {y : Float} (h : y.toBits.toNat < 2 ^ 63) : signBit y = false := by
  unfold signBit
  simp only [decide_eq_false_iff_not]
  rw [Nat.div_eq_of_lt h]
  decide

theorem exponentField_abs {x : Float} (hnan : x.isNaN = false) :
    exponentField (Float.abs x) = exponentField x := by
  unfold exponentField
  rw [toBits_abs hnan]
  omega

theorem fractionField_abs {x : Float} (hnan : x.isNaN = false) :
    fractionField (Float.abs x) = fractionField x := by
  unfold fractionField
  rw [toBits_abs hnan]
  omega

/-- The magnitude of a float that is not NaN passes the same tests as the float. -/
theorem isNaN_abs {x : Float} (hnan : x.isNaN = false) : (Float.abs x).isNaN = x.isNaN := by
  rw [Bool.eq_iff_iff, isNaN_iff, isNaN_iff, exponentField_abs hnan, fractionField_abs hnan]

theorem isInf_abs {x : Float} (hnan : x.isNaN = false) : (Float.abs x).isInf = x.isInf := by
  rw [Bool.eq_iff_iff, isInf_iff, isInf_iff, exponentField_abs hnan, fractionField_abs hnan]

theorem beq_zero_abs {x : Float} (hnan : x.isNaN = false) : (Float.abs x == 0) = (x == 0) := by
  rw [Bool.eq_iff_iff, beq_zero_iff, beq_zero_iff, exponentField_abs hnan, fractionField_abs hnan]

theorem signBit_abs {x : Float} (hnan : x.isNaN = false) : signBit (Float.abs x) = false := by
  apply signBit_eq_false_of_lt
  rw [toBits_abs hnan]
  exact Nat.mod_lt _ (by decide)

/-- A float with its sign bit clear is its own magnitude. -/
theorem abs_of_signBit_false {x : Float} (hnan : x.isNaN = false) (hs : signBit x = false) :
    Float.abs x = x := by
  apply eq_of_toBits_toNat_eq
  rw [toBits_abs hnan]
  apply Nat.mod_eq_of_lt
  unfold signBit at hs
  have := x.toBits.toNat_lt
  simp only [decide_eq_false_iff_not] at hs
  omega

/-- A float with its sign bit set is the negation of its magnitude. -/
theorem neg_abs_of_signBit_true {x : Float} (hnan : x.isNaN = false) (hs : signBit x = true) :
    -(Float.abs x) = x := by
  have hnan' : (Float.abs x).isNaN = false := (isNaN_abs hnan).trans hnan
  apply eq_of_toBits_toNat_eq
  rw [toBits_neg hnan', exponentField_abs hnan, fractionField_abs hnan, toBits_eq_fields x]
  have hpos : signOf (Float.abs x) = .positive := by
    unfold signOf
    rw [signBit_abs hnan]
    rfl
  have hneg : signOf x = .negative := by
    unfold signOf
    rw [hs]
    rfl
  rw [hpos, hneg]
  rfl

end ExprTree.Decimal
