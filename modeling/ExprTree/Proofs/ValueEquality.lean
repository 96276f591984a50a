import ExprTree.Proofs.ShortestDecimal
import ExprTree.Value.Equality

/-
  Equality of values as equality of what it sees. IEEE equality of floats holds between two
  floats that are not NaN exactly when they are one float or both zeros (`Decimal.beq_iff`). A
  number compares by its exact value (`Value.wholeNumber?`), and a whole float below the
  overflow is determined by that value (`Value.beq_of_wholeNumber?_eq`). So every value without
  records and tensors has a key (`Value.key`): NaN has none, a whole number or whole float its
  value, any other float its bits, a text its characters and a list the keys of its items; two
  such values are equal exactly when they have one key (`Value.eqv_iff_key`). Equality of these
  values is therefore symmetric and transitive (`Value.eqv_comm`, `Value.eqv_trans`), and the hash
  of a value that can be hashed is a function of its key, so equal values hash alike
  (`Value.hash_eq_of_eqv`).
-/

namespace ExprTree.Decimal

/-! ## IEEE equality of floats -/

theorem zero_ne_nan : (0 : Float) ≠ Float.nan := by
  rw [Ne, ← Float.toBits_inj]
  decide

theorem neg_zero_ne_nan : (-0 : Float) ≠ Float.nan := by
  rw [Ne, ← Float.toBits_inj]
  decide

/-- A float compares equal to zero exactly when it is one of the two zeros. -/
theorem beq_zero_iff_eq {x : Float} : (x == 0) = true ↔ x = 0 ∨ x = -0 := by
  rw [Float.beq_iff_ne_nan_and_eq]
  constructor
  · rintro ⟨-, -, h | ⟨h, -⟩ | ⟨h, -⟩⟩
    · exact .inl h
    · exact .inl h
    · exact .inr h
  · rintro (rfl | rfl)
    · exact ⟨zero_ne_nan, zero_ne_nan, .inl rfl⟩
    · exact ⟨neg_zero_ne_nan, zero_ne_nan, .inr (.inr ⟨rfl, rfl⟩)⟩

theorem ne_nan_of_beq_zero {x : Float} (h : (x == 0) = true) : x ≠ Float.nan := by
  rcases beq_zero_iff_eq.mp h with rfl | rfl
  · exact zero_ne_nan
  · exact neg_zero_ne_nan

/-- IEEE equality: two floats compare equal when neither is NaN and they are one float, or
both are zeros of any sign. -/
theorem beq_iff {x y : Float} :
    (x == y) = true ↔ x ≠ Float.nan ∧ (x = y ∨ (x == 0) = true ∧ (y == 0) = true) := by
  rw [Float.beq_iff_ne_nan_and_eq, beq_zero_iff_eq, beq_zero_iff_eq]
  constructor
  · rintro ⟨hx, -, h | ⟨h, h'⟩ | ⟨h, h'⟩⟩
    · exact ⟨hx, .inl h⟩
    · exact ⟨hx, .inr ⟨.inl h, .inr h'⟩⟩
    · exact ⟨hx, .inr ⟨.inr h, .inl h'⟩⟩
  · rintro ⟨hx, rfl | ⟨hx0, hy0⟩⟩
    · exact ⟨hx, hx, .inl rfl⟩
    · have hy : y ≠ Float.nan := by
        rcases hy0 with rfl | rfl
        · exact zero_ne_nan
        · exact neg_zero_ne_nan
      refine ⟨hx, hy, ?_⟩
      rcases hx0 with rfl | rfl <;> rcases hy0 with rfl | rfl
      · exact .inl rfl
      · exact .inr (.inl ⟨rfl, rfl⟩)
      · exact .inr (.inr ⟨rfl, rfl⟩)
      · exact .inl rfl

theorem ne_nan_of_beq {x y : Float} (h : (x == y) = true) : x ≠ Float.nan :=
  (beq_iff.mp h).1

theorem beq_self {x : Float} (hx : x ≠ Float.nan) : (x == x) = true :=
  beq_iff.mpr ⟨hx, .inl rfl⟩

theorem beq_comm (x y : Float) : (x == y) = (y == x) := by
  apply Bool.eq_iff_iff.mpr
  -- each direction is the same argument with the floats swapped
  have swap : ∀ {a b : Float}, (a == b) = true → (b == a) = true := by
    intro a b h
    obtain ⟨ha, rfl | ⟨ha0, hb0⟩⟩ := beq_iff.mp h
    · exact beq_self ha
    · exact beq_iff.mpr ⟨ne_nan_of_beq_zero hb0, .inr ⟨hb0, ha0⟩⟩
  exact ⟨swap, swap⟩

theorem beq_trans {x y z : Float} (hxy : (x == y) = true) (hyz : (y == z) = true) :
    (x == z) = true := by
  obtain ⟨hx, rfl | ⟨hx0, -⟩⟩ := beq_iff.mp hxy
  · exact hyz
  · obtain ⟨-, rfl | ⟨-, hz0⟩⟩ := beq_iff.mp hyz
    · exact hxy
    · exact beq_iff.mpr ⟨hx, .inr ⟨hx0, hz0⟩⟩

/-- Equal floats of one sign are one float: `==` identifies only the two zeros. -/
theorem eq_of_beq_of_signBit_eq {x y : Float} (h : (x == y) = true)
    (hs : signBit x = signBit y) : x = y := by
  obtain ⟨-, hxy | ⟨hx0, hy0⟩⟩ := beq_iff.mp h
  · exact hxy
  · rcases beq_zero_iff_eq.mp hx0 with rfl | rfl <;> rcases beq_zero_iff_eq.mp hy0 with rfl | rfl
    · rfl
    · exact absurd hs (by decide +kernel)
    · exact absurd hs (by decide +kernel)
    · rfl

/-! ## Sign and magnitude -/

/-- The pattern of a float is its sign bit above the magnitude pattern. -/
theorem toBits_toNat_eq_sign_add (x : Float) :
    x.toBits.toNat = (if signBit x then 2 ^ 63 else 0) + magnitudeBits x := by
  have hlt : x.toBits.toNat < 2 ^ 64 := x.toBits.toNat_lt
  unfold signBit magnitudeBits
  split_ifs with h
  · simp only [decide_eq_true_eq] at h
    omega
  · simp only [decide_eq_true_eq] at h
    omega

theorem magnitudeBits_eq_zero_iff (x : Float) : magnitudeBits x = 0 ↔ (x == 0) = true := by
  rw [beq_zero_iff, magnitudeBits_eq]
  omega

theorem patternValue_pos {b : Nat} (h : b ≠ 0) : 0 < patternValue b := by
  rw [← patternValue_zero]
  exact patternValue_lt (Nat.pos_of_ne_zero h)

theorem patternValue_injective : Function.Injective patternValue :=
  StrictMono.injective fun _ _ h => patternValue_lt h

end ExprTree.Decimal

namespace ExprTree.Value

open Decimal

/-! ## Exact values of floats -/

section WholeNumber

variable {x y : Float}

theorem wholeNumber?_float (x : Float) :
    (Value.float x).wholeNumber? =
      if x.isNaN ∨ x.isInf then none
      else if x == 0 then some 0
      else
        match (Binary.ofFloat x).wholeValue? with
        | some n => some (if signBit x then -(n : Int) else n)
        | none => none := rfl

theorem isInf_eq_false_of_beq_zero (h : (x == 0) = true) : x.isInf = false := by
  rw [beq_zero_iff] at h
  cases hi : x.isInf
  · rfl
  · rw [isInf_iff] at hi
    omega

theorem wholeNumber?_of_beq_zero (h : (x == 0) = true) : (Value.float x).wholeNumber? = some 0 := by
  have hni : ¬(x.isNaN = true ∨ x.isInf = true) := by
    simp [ne_nan_of_beq_zero h, isInf_eq_false_of_beq_zero h]
  rw [wholeNumber?_float, if_neg hni, if_pos h]

theorem wholeNumber?_nan : (Value.float Float.nan).wholeNumber? = none := by
  simp [wholeNumber?_float]

/-- The whole value of a float that is not a zero is the magnitude of the float, with its sign;
so it is not zero either. -/
theorem wholeNumber?_of_ne_zero {m : Int} (h : (Value.float x).wholeNumber? = some m)
    (h0 : (x == 0) = false) :
    x ≠ Float.nan ∧ m ≠ 0 ∧ (m.natAbs : ℚ) = patternValue (magnitudeBits x) ∧
      (signBit x = true ↔ m < 0) := by
  rw [wholeNumber?_float, h0] at h
  by_cases hni : x.isNaN = true ∨ x.isInf = true
  · rw [if_pos hni] at h
    exact absurd h (Option.some_ne_none m).symm
  rw [if_neg hni] at h
  simp only [Bool.false_eq_true, ↓reduceIte] at h
  have hnan : x ≠ Float.nan := by simpa using (not_or.mp hni).1
  have hmag : magnitudeBits x ≠ 0 := by
    rw [Ne, magnitudeBits_eq_zero_iff, h0]
    decide
  cases hw : (Binary.ofFloat x).wholeValue? with
  | none => simp [hw] at h
  | some n =>
    have hv : (n : ℚ) = patternValue (magnitudeBits x) := by
      rw [wholeValue?_value hw, value_ofFloat]
    -- the magnitude is not zero, so neither is its whole value
    have hn : 0 < n := by
      have := patternValue_pos hmag
      rw [← hv] at this
      exact_mod_cast this
    have hm : m = if signBit x then -(n : Int) else n := by
      simpa [hw] using h.symm
    refine ⟨hnan, ?_, ?_, ?_⟩ <;> by_cases hs : signBit x = true <;> simp [hm, hs] <;> omega

theorem beq_zero_of_wholeNumber?_zero (h : (Value.float x).wholeNumber? = some 0) :
    (x == 0) = true := by
  cases h0 : (x == 0)
  · exact absurd rfl (wholeNumber?_of_ne_zero h h0).2.1
  · rfl

/-- Two floats with one whole value compare equal: the value fixes the sign and the magnitude. -/
theorem beq_of_wholeNumber?_eq {m : Int} (hx : (Value.float x).wholeNumber? = some m)
    (hy : (Value.float y).wholeNumber? = some m) : (x == y) = true := by
  by_cases hm : m = 0
  · subst hm
    have hx0 := beq_zero_of_wholeNumber?_zero hx
    exact beq_iff.mpr ⟨ne_nan_of_beq_zero hx0, .inr ⟨hx0, beq_zero_of_wholeNumber?_zero hy⟩⟩
  · have ne_zero : ∀ {z : Float}, (Value.float z).wholeNumber? = some m → (z == 0) = false := by
      intro z hz
      cases h0 : (z == 0)
      · rfl
      · rw [wholeNumber?_of_beq_zero h0, Option.some.injEq] at hz
        exact absurd hz.symm hm
    obtain ⟨hnx, -, hmx, hsx⟩ := wholeNumber?_of_ne_zero hx (ne_zero hx)
    obtain ⟨-, -, hmy, hsy⟩ := wholeNumber?_of_ne_zero hy (ne_zero hy)
    have hmag : magnitudeBits x = magnitudeBits y := patternValue_injective (hmx.symm.trans hmy)
    have hsign : signBit x = signBit y := Bool.eq_iff_iff.mpr (hsx.trans hsy.symm)
    have hxy : x = y := by
      apply eq_of_toBits_toNat_eq
      rw [toBits_toNat_eq_sign_add, toBits_toNat_eq_sign_add, hmag, hsign]
    subst hxy
    exact beq_self hnx

end WholeNumber

/-! ## Keys -/

/-- What equality sees of a value: a text's characters, a number's exact value when it is
whole, the bits of any other float, the keys of a list's items, and of an item that is a NaN
object the identity of the object. -/
inductive Key where
  | null
  | text (s : String)
  | number (n : Int)
  | float (bits : UInt64)
  | list (ks : List Key)
  | object (id : Nat)

mutual

/-- The key of a value; NaN, and every value holding a record, a tensor or a NaN that is not an
object named by its identity, has none. -/
def key : Value → Option Key
  | .null => some .null
  | .str s => some (.text s)
  | .float x =>
    if x.isNaN then none
    else
      match (Value.float x).wholeNumber? with
      | some n => some (.number n)
      | none => some (.float x.toBits)
  | .list xs => .list <$> keys xs
  | .dict _ | .tensor _ => none
  | v => Key.number <$> v.wholeNumber?

/-- The keys of the items of a list, if each has one: a NaN object is known by its identity, any
other item by its key. -/
def keys : List Value → Option (List Key)
  | [] => some []
  | x :: xs => do
    let k ← match x with
      | .nanObject i => some (.object i)
      | x => key x
    let ks ← keys xs
    pure (k :: ks)

end

/-- What a list sees of an item: the identity of a NaN object, and the key of any other item. -/
def itemKey : Value → Option Key
  | .nanObject i => some (.object i)
  | v => v.key

theorem keys_cons (x : Value) (xs : List Value) :
    keys (x :: xs) = (do let k ← x.itemKey; let ks ← keys xs; pure (k :: ks)) := by
  cases x <;> rfl

/-- The values compared here: nothing, truth values, whole numbers, floats, NaN objects, texts,
operators and lists of such values; no record and no tensor at any depth. -/
inductive Plain : Value → Prop
  | null : Plain .null
  | bool (b : Bool) : Plain (.bool b)
  | int (n : Int) : Plain (.int n)
  | float (x : Float) : Plain (.float x)
  | nanObject (i : Nat) : Plain (.nanObject i)
  | str (s : String) : Plain (.str s)
  | operator (o : Operator) : Plain (.operator o)
  | list {xs : List Value} : (∀ x ∈ xs, Plain x) → Plain (.list xs)

section Keys

variable {x y : Float}

theorem key_float_eq_number_iff {n : Int} :
    (Value.float x).key = some (.number n) ↔ (Value.float x).wholeNumber? = some n := by
  by_cases hnan : x = Float.nan
  · subst hnan
    simp [key, wholeNumber?_nan]
  · cases hw : (Value.float x).wholeNumber? <;> simp [key, hnan, hw]

theorem key_float_eq_float_iff {b : UInt64} :
    (Value.float x).key = some (.float b) ↔
      x ≠ Float.nan ∧ (Value.float x).wholeNumber? = none ∧ x.toBits = b := by
  by_cases hnan : x = Float.nan
  · simp [key, hnan]
  · cases hw : (Value.float x).wholeNumber? <;> simp [key, hnan, hw]

theorem key_float_isSome (hx : x ≠ Float.nan) : ((Value.float x).key).isSome := by
  cases hw : (Value.float x).wholeNumber? <;> simp [key, hx, hw]

/-- Two floats compare equal exactly when they have one key. -/
theorem beq_iff_key :
    (x == y) = true ↔ ∃ k, (Value.float x).key = some k ∧ (Value.float y).key = some k := by
  constructor
  · intro h
    obtain ⟨hx, rfl | ⟨hx0, hy0⟩⟩ := beq_iff.mp h
    · obtain ⟨k, hk⟩ := Option.isSome_iff_exists.mp (key_float_isSome hx)
      exact ⟨k, hk, hk⟩
    · exact ⟨.number 0, key_float_eq_number_iff.mpr (wholeNumber?_of_beq_zero hx0),
        key_float_eq_number_iff.mpr (wholeNumber?_of_beq_zero hy0)⟩
  · rintro ⟨k, hxk, hyk⟩
    cases k with
    | number n =>
      exact beq_of_wholeNumber?_eq (key_float_eq_number_iff.mp hxk)
        (key_float_eq_number_iff.mp hyk)
    | float b =>
      obtain ⟨hx, -, hxb⟩ := key_float_eq_float_iff.mp hxk
      obtain ⟨-, -, hyb⟩ := key_float_eq_float_iff.mp hyk
      rw [← eq_of_toBits_eq (hxb.trans hyb.symm)]
      exact beq_self hx
    | null | text _ | list _ | object _ =>
      by_cases hnan : x = Float.nan
      · simp [key, hnan] at hxk
      · cases hw : (Value.float x).wholeNumber? <;> simp [key, hnan, hw] at hxk

/-- A number's key is its exact value exactly when that value is whole. -/
theorem key_eq_number_iff {v : Value} (hv : v.isNumber = true) {n : Int} :
    v.key = some (.number n) ↔ v.wholeNumber? = some n := by
  cases v with
  | float x => exact key_float_eq_number_iff
  | _ => simp_all [isNumber, key, wholeNumber?]

/-- The key of a number that is not a float is a whole value. -/
theorem key_of_not_float {v : Value} (hv : v.isNumber = true) (hf : ∀ x, v ≠ .float x) {k : Key}
    (hk : v.key = some k) : ∃ n, k = .number n := by
  cases v with
  | float x => exact absurd rfl (hf x)
  | nanObject _ => simp [key, wholeNumber?] at hk
  | bool _ | int _ | operator _ =>
    simp only [key, wholeNumber?, Option.map_eq_map, Option.map_eq_some_iff] at hk
    obtain ⟨n, -, rfl⟩ := hk
    exact ⟨n, rfl⟩
  | _ => simp [isNumber] at hv

/-- Unless both are floats, two numbers are compared through their whole values. -/
theorem numberEq_iff_of_not_floats {a b : Value} (h : ¬((∃ x, a = .float x) ∧ ∃ y, b = .float y)) :
    a.numberEq b = true ↔ ∃ n, a.wholeNumber? = some n ∧ b.wholeNumber? = some n := by
  unfold numberEq
  split
  · exact absurd ⟨⟨_, rfl⟩, ⟨_, rfl⟩⟩ h
  · rcases a.wholeNumber? with _ | m <;> rcases b.wholeNumber? with _ | n <;> simp
    exact eq_comm

/-- Two numbers are equal exactly when they have one key. -/
theorem numberEq_iff_key {a b : Value} (ha : a.isNumber = true) (hb : b.isNumber = true) :
    a.numberEq b = true ↔ ∃ k, a.key = some k ∧ b.key = some k := by
  by_cases hfl : (∃ x, a = .float x) ∧ ∃ y, b = .float y
  · obtain ⟨⟨x, rfl⟩, ⟨y, rfl⟩⟩ := hfl
    exact beq_iff_key
  rw [numberEq_iff_of_not_floats hfl]
  -- one side is not a float, so its key is a whole value, and so is any key the two share
  have hnum : ∀ {k}, a.key = some k → b.key = some k → ∃ n, k = .number n := by
    intro k hak hbk
    rcases not_and_or.mp hfl with hfa | hfb
    · exact key_of_not_float ha (by simpa using hfa) hak
    · exact key_of_not_float hb (by simpa using hfb) hbk
  constructor
  · rintro ⟨n, han, hbn⟩
    exact ⟨.number n, (key_eq_number_iff ha).mpr han, (key_eq_number_iff hb).mpr hbn⟩
  · rintro ⟨k, hak, hbk⟩
    obtain ⟨n, rfl⟩ := hnum hak hbk
    exact ⟨n, (key_eq_number_iff ha).mp hak, (key_eq_number_iff hb).mp hbk⟩

/-- The key of a number is a whole value or the bits of a float. -/
theorem key_of_isNumber {v : Value} (hv : v.isNumber = true) {k : Key} (hk : v.key = some k) :
    (∃ n, k = .number n) ∨ ∃ b, k = .float b := by
  cases v with
  | float x =>
    by_cases hnan : x = Float.nan
    · simp [key, hnan] at hk
    · cases hw : (Value.float x).wholeNumber? <;> simp [key, hnan, hw] at hk <;> simp [← hk]
  | bool _ | int _ | operator _ | nanObject _ =>
    simp only [key, wholeNumber?, Option.map_eq_map, Option.map_eq_some_iff] at hk
    obtain ⟨n, -, rfl⟩ := hk
    exact .inl ⟨n, rfl⟩
  | _ => simp [isNumber] at hv

/-! ### Identity of items -/

/-- Only an item is known by its identity: no value has such a key. -/
@[simp]
theorem key_ne_object (v : Value) (i : Nat) : v.key ≠ some (.object i) := by
  cases v with
  | float x =>
    by_cases hnan : x = Float.nan
    · simp [key, hnan]
    · cases hw : (Value.float x).wholeNumber? <;> simp [key, hnan, hw]
  | _ => simp [key, wholeNumber?]

theorem itemKey_eq_object_iff {v : Value} {i : Nat} :
    v.itemKey = some (.object i) ↔ v = .nanObject i := by
  cases v <;> simp [itemKey]

/-- An item that is no NaN object is known by its key. -/
theorem itemKey_of_ne {v : Value} (hv : ∀ i, v ≠ .nanObject i) : v.itemKey = v.key := by
  cases v <;> simp_all [itemKey]

theorem sameObject_iff {a b : Value} :
    a.sameObject b = true ↔ ∃ i, a = .nanObject i ∧ b = .nanObject i := by
  constructor
  · intro h
    unfold sameObject at h
    split at h
    next i j => exact ⟨i, rfl, by rw [beq_iff_eq.mp h]⟩
    next => cases h
  · rintro ⟨i, rfl, rfl⟩
    simp [sameObject]

/-- A value that is no NaN object is the same object as no other: its identity is not modelled,
as comparing it by identity or by value gives one answer. -/
theorem sameObject_of_ne {a : Value} (ha : ∀ i, a ≠ .nanObject i) (b : Value) :
    a.sameObject b = false := by
  cases hs : a.sameObject b
  · rfl
  · obtain ⟨i, rfl, -⟩ := sameObject_iff.mp hs
    exact absurd rfl (ha i)

/-- A NaN object equals no value, itself included: identity counts only inside a list. -/
theorem eqv_nanObject_left (i : Nat) (b : Value) : (Value.nanObject i).eqv b = false := by
  cases b <;> simp [eqv, isNumber, numberEq, wholeNumber?]

theorem eqv_nanObject_right (a : Value) (i : Nat) : a.eqv (.nanObject i) = false := by
  cases a <;> simp [eqv, isNumber, numberEq, wholeNumber?]

/-- Two items of lists compare as one object or as equal values exactly when they have one item
key, given that their values compare as their keys. -/
theorem itemEq_iff_itemKey {a b : Value}
    (hab : a.eqv b = true ↔ ∃ k, a.key = some k ∧ b.key = some k) :
    (a.sameObject b || a.eqv b) = true ↔ ∃ k, a.itemKey = some k ∧ b.itemKey = some k := by
  by_cases ha : ∃ i, a = .nanObject i
  · obtain ⟨i, rfl⟩ := ha
    rw [eqv_nanObject_left, Bool.or_false, sameObject_iff]
    simp only [itemKey, Option.some.injEq, exists_eq_left', nanObject.injEq]
    exact itemKey_eq_object_iff.symm
  have hna : ∀ i, a ≠ .nanObject i := fun i h => ha ⟨i, h⟩
  rw [itemKey_of_ne hna]
  by_cases hb : ∃ j, b = .nanObject j
  · -- a value known by its key never meets an item known by its identity
    obtain ⟨j, rfl⟩ := hb
    rw [eqv_nanObject_right, Bool.or_false, sameObject_iff]
    simp only [itemKey, Option.some.injEq, exists_eq_right', key_ne_object, iff_false, not_exists,
      not_and]
    intro i hai
    exact absurd hai (hna i)
  · have hnb : ∀ j, b ≠ .nanObject j := fun j h => hb ⟨j, h⟩
    rw [sameObject_of_ne hna, Bool.false_or, itemKey_of_ne hnb, hab]

/-- A list is equal to a list whose items are, one by one, the same objects or equal values. -/
theorem eqv_list_iff {xs ys : List Value} :
    (Value.list xs).eqv (.list ys) = true ↔
      List.Forall₂ (fun x y => (x.sameObject y || x.eqv y) = true) xs ys := by
  have hzip : (xs.attach.zip ys).map (Prod.map Subtype.val id) = xs.zip ys := by
    rw [← List.zip_map_left, List.attach_map_subtype_val]
  rw [eqv, Bool.and_eq_true, beq_iff_eq, List.forall₂_iff_zip, ← hzip]
  simp only [List.all_eq_true, List.mem_map, Prod.exists, Prod.map, id]
  constructor
  · rintro ⟨hlen, h⟩
    refine ⟨hlen, ?_⟩
    rintro a b ⟨a', b', hmem, rfl, rfl⟩
    exact h _ hmem
  · rintro ⟨hlen, h⟩
    exact ⟨hlen, fun p hp => h ⟨_, _, hp, rfl⟩⟩

theorem keys_eq_some_iff_forall₂ {xs : List Value} {ks : List Key} :
    keys xs = some ks ↔ List.Forall₂ (fun x k => x.itemKey = some k) xs ks := by
  induction xs generalizing ks with
  | nil => cases ks <;> simp [keys]
  | cons x xs ih =>
    cases ks with
    | nil => cases h : itemKey x <;> cases h' : keys xs <;> simp [keys_cons, h, h']
    | cons k ks =>
      rw [List.forall₂_cons, ← ih]
      cases h : itemKey x <;> cases h' : keys xs <;> simp [keys_cons, h, h']

/-- Item by item, lists related by a relation that is equality of item keys have one list of
keys. -/
theorem forall₂_iff_keys {xs ys : List Value} {R : Value → Value → Prop}
    (hR : ∀ x ∈ xs, ∀ y ∈ ys, R x y ↔ ∃ k, x.itemKey = some k ∧ y.itemKey = some k) :
    List.Forall₂ R xs ys ↔ ∃ ks, keys xs = some ks ∧ keys ys = some ks := by
  simp only [keys_eq_some_iff_forall₂]
  induction xs generalizing ys with
  | nil => cases ys <;> simp
  | cons x xs ih =>
    cases ys with
    | nil => simp
    | cons y ys =>
      simp only [List.forall₂_cons]
      rw [hR x (by simp) y (by simp),
        ih (fun x' hx' y' hy' => hR x' (by simp [hx']) y' (by simp [hy']))]
      constructor
      · rintro ⟨⟨k, hxk, hyk⟩, ks, hxs, hys⟩
        exact ⟨k :: ks, .cons hxk hxs, .cons hyk hys⟩
      · rintro ⟨_ | ⟨k, ks⟩, hx, hy⟩
        · cases hx
        · cases hx
          cases hy
          exact ⟨⟨k, ‹_›, ‹_›⟩, ks, ‹_›, ‹_›⟩

/-- The key of a plain value that is no number: nothing, a text or a list. -/
theorem key_of_not_isNumber {v : Value} (hv : v.Plain) (hn : v.isNumber = false) {k : Key}
    (hk : v.key = some k) : k = .null ∨ (∃ s, k = .text s) ∨ ∃ ks, k = .list ks := by
  cases hv with
  | null => simp_all [key]
  | str s =>
    simp only [key, Option.some.injEq] at hk
    exact .inr (.inl ⟨s, hk.symm⟩)
  | list _ =>
    simp only [key, Option.map_eq_map, Option.map_eq_some_iff] at hk
    obtain ⟨ks, -, rfl⟩ := hk
    exact .inr (.inr ⟨ks, rfl⟩)
  | _ => simp [isNumber] at hn

theorem key_eq_null_iff {v : Value} (hv : v.Plain) : v.key = some .null ↔ v = .null := by
  constructor
  · intro hk
    cases hn : v.isNumber
    · cases hv <;> simp_all [key, isNumber]
    · rcases key_of_isNumber hn hk with ⟨_, h⟩ | ⟨_, h⟩ <;> cases h
  · rintro rfl
    rfl

theorem key_eq_text_iff {v : Value} (hv : v.Plain) {s : String} :
    v.key = some (.text s) ↔ v = .str s := by
  constructor
  · intro hk
    cases hn : v.isNumber
    · cases hv <;> simp_all [key, isNumber]
    · rcases key_of_isNumber hn hk with ⟨_, h⟩ | ⟨_, h⟩ <;> cases h
  · rintro rfl
    rfl

theorem key_eq_list_iff {v : Value} (hv : v.Plain) {ks : List Key} :
    v.key = some (.list ks) ↔ ∃ ys, v = .list ys ∧ keys ys = some ks := by
  constructor
  · intro hk
    cases hn : v.isNumber
    · cases hv <;> simp_all [key, isNumber]
    · rcases key_of_isNumber hn hk with ⟨_, h⟩ | ⟨_, h⟩ <;> cases h
  · rintro ⟨ys, rfl, hys⟩
    simp [key, hys]

theorem eqv_null {b : Value} : Value.null.eqv b = true ↔ b = .null := by
  cases b <;> simp [eqv, isNumber]

theorem eqv_str {s : String} {b : Value} : (Value.str s).eqv b = true ↔ b = .str s := by
  cases b with
  | str t =>
    simp only [eqv, beq_iff_eq, str.injEq]
    exact eq_comm
  | _ => simp [eqv, isNumber]

theorem eqv_list {xs : List Value} {b : Value} :
    (Value.list xs).eqv b = true ↔
      ∃ ys, b = .list ys ∧ List.Forall₂ (fun x y => (x.sameObject y || x.eqv y) = true) xs ys := by
  cases b with
  | list ys => simp [eqv_list_iff]
  | _ => simp [eqv, isNumber]

/-- A number equals only numbers, and those by exact value. -/
theorem eqv_of_isNumber {a b : Value} (ha : a.isNumber = true) :
    a.eqv b = (b.isNumber && a.numberEq b) := by
  cases a <;> cases b <;> simp_all [eqv, isNumber]

theorem eqv_iff_key_of_isNumber {a b : Value} (ha : a.isNumber = true) (hb : b.Plain) :
    a.eqv b = true ↔ ∃ k, a.key = some k ∧ b.key = some k := by
  rw [eqv_of_isNumber ha]
  cases hn : b.isNumber
  · -- a number's key is a whole value or float bits, which no other plain value has
    simp only [Bool.false_and, Bool.false_eq_true, false_iff, not_exists, not_and]
    intro k hak hbk
    rcases key_of_isNumber ha hak with ⟨_, rfl⟩ | ⟨_, rfl⟩ <;>
      rcases key_of_not_isNumber hb hn hbk with h | ⟨_, h⟩ | ⟨_, h⟩ <;> cases h
  · rw [Bool.true_and]
    exact numberEq_iff_key ha hn

/-- Two plain values are equal exactly when they have one key. The induction runs over the first
value; the items of two lists match exactly when their item keys do (`itemEq_iff_itemKey`). -/
theorem eqv_iff_key {a b : Value} (ha : a.Plain) (hb : b.Plain) :
    a.eqv b = true ↔ ∃ k, a.key = some k ∧ b.key = some k := by
  induction ha generalizing b with
  | null =>
    rw [eqv_null, ← key_eq_null_iff hb]
    simp [key]
  | str s =>
    rw [eqv_str, ← key_eq_text_iff hb]
    simp [key]
  | @list xs _ ih =>
    rw [eqv_list]
    have hitems : ∀ {ys : List Value}, (∀ y ∈ ys, y.Plain) →
        ∀ x ∈ xs, ∀ y ∈ ys, (x.sameObject y || x.eqv y) = true ↔
          ∃ k, x.itemKey = some k ∧ y.itemKey = some k :=
      fun hys x hx y hy => itemEq_iff_itemKey (ih x hx (hys y hy))
    constructor
    · rintro ⟨ys, rfl, hxy⟩
      have hys : ∀ y ∈ ys, y.Plain := by cases hb; assumption
      obtain ⟨ks, hxs, hks⟩ := (forall₂_iff_keys (hitems hys)).mp hxy
      exact ⟨.list ks, by simp [key, hxs], by simp [key, hks]⟩
    · rintro ⟨k, hak, hbk⟩
      simp only [key, Option.map_eq_map, Option.map_eq_some_iff] at hak
      obtain ⟨ks, hxs, rfl⟩ := hak
      obtain ⟨ys, rfl, hys⟩ := (key_eq_list_iff hb).mp hbk
      have hyp : ∀ y ∈ ys, y.Plain := by cases hb; assumption
      exact ⟨ys, rfl, (forall₂_iff_keys (hitems hyp)).mpr ⟨ks, hxs, hys⟩⟩
  | bool _ | int _ | float _ | nanObject _ | operator _ => exact eqv_iff_key_of_isNumber rfl hb

theorem eqv_comm {a b : Value} (ha : a.Plain) (hb : b.Plain) : a.eqv b = b.eqv a := by
  apply Bool.eq_iff_iff.mpr
  rw [eqv_iff_key ha hb, eqv_iff_key hb ha]
  exact ⟨fun ⟨k, h1, h2⟩ => ⟨k, h2, h1⟩, fun ⟨k, h1, h2⟩ => ⟨k, h2, h1⟩⟩

theorem eqv_trans {a b c : Value} (ha : a.Plain) (hb : b.Plain) (hc : c.Plain)
    (hab : a.eqv b = true) (hbc : b.eqv c = true) : a.eqv c = true := by
  obtain ⟨k, hak, hbk⟩ := (eqv_iff_key ha hb).mp hab
  obtain ⟨k', hbk', hck⟩ := (eqv_iff_key hb hc).mp hbc
  rw [hbk, Option.some.injEq] at hbk'
  subst hbk'
  exact (eqv_iff_key ha hc).mpr ⟨k, hak, hck⟩

/-- An operator is equal to exactly the numbers whose value is its code. -/
theorem eqv_operator_iff {o : Operator} {v : Value} :
    (Value.operator o).eqv v = true ↔ v.isNumber = true ∧ v.wholeNumber? = some (o.code : Int) := by
  have hnf : ¬((∃ x, Value.operator o = .float x) ∧ ∃ y, v = .float y) := by simp
  rw [eqv_of_isNumber rfl, Bool.and_eq_true, numberEq_iff_of_not_floats hnf]
  simp only [wholeNumber?, Option.some.injEq, exists_eq_left']

/-- Two operators are equal values exactly when they are one operator. -/
theorem eqv_operator_operator {o o' : Operator} :
    (Value.operator o).eqv (.operator o') = true ↔ o = o' := by
  rw [eqv_operator_iff]
  simp only [isNumber, wholeNumber?, Option.some.injEq, Nat.cast_inj, true_and]
  cases o <;> cases o' <;> simp [Operator.code]

/-! ### Comparisons as conditions -/

/-- In `Except`, checking items one by one with a test that never fails checks them all. -/
theorem allM_ok {α ε : Type} {p : α → Except ε Bool} {f : α → Bool} :
    ∀ {l : List α}, (∀ a ∈ l, p a = .ok (f a)) → l.allM p = .ok (l.all f)
  | [], _ => rfl
  | a :: l, h => by
    have hrest := allM_ok fun b hb => h b (List.mem_cons_of_mem a hb)
    simp only [List.allM, h a List.mem_cons_self, List.all_cons]
    cases f a
    · rfl
    · exact hrest

/-- No tensor takes part in a comparison of plain values. -/
theorem tensorEq?_of_plain {a b : Value} (ha : a.Plain) (hb : b.Plain) : a.tensorEq? b = none := by
  cases ha <;> cases hb <;> rfl

/-- A condition comparing plain values is their equality: no tensor takes part, and two lists
compare item by item, each item as the same object or by its own comparison. -/
theorem eqTruth_of_plain {a b : Value} (ha : a.Plain) (hb : b.Plain) :
    a.eqTruth b = .ok (a.eqv b) := by
  induction ha generalizing b with
  | @list xs hxs ih =>
    cases hb with
    | @list ys hys =>
      rw [eqTruth, eqv]
      have hitems : ∀ p ∈ xs.attach.zip ys,
          (if p.1.1.sameObject p.2 then pure true else p.1.1.eqTruth p.2) =
            (.ok (p.1.1.sameObject p.2 || p.1.1.eqv p.2) : Except Fault Bool) := by
        intro p hp
        have hy : p.2 ∈ ys := (List.of_mem_zip hp).2
        cases p.1.1.sameObject p.2
        · exact ih p.1.1 p.1.2 (hys p.2 hy)
        · rfl
      split
      · rename_i hlen
        rw [allM_ok hitems, hlen, Bool.true_and]
      · rename_i hlen
        rw [Bool.not_eq_true] at hlen
        rw [hlen, Bool.false_and]
        rfl
    | _ =>
      rw [eqTruth.eq_def]
      rfl
  | _ =>
    rw [eqTruth.eq_def]
    cases hb <;> rfl

end Keys

/-! ## Hashes -/

/-- The hash `Value.hash` gives a value with this key. -/
def Key.hash : Key → UInt64
  | .null => 0x6e6f6e65
  | .text s => mix 0x737472 (Hashable.hash s)
  | .number n => mix 0x6e756d (Hashable.hash n)
  | .float b => mix 0x666c74 b
  | .list _ | .object _ => 0

/-- A value that can be hashed: no list, record or tensor. -/
def IsHashable (v : Value) : Prop := ∃ h, v.hash = .ok h

theorem isHashable_float (x : Float) : (Value.float x).IsHashable := by
  by_cases hx : x.isNaN = true
  · exact ⟨_, by simp only [hash, hx, ↓reduceIte]; rfl⟩
  · cases hw : (Value.float x).wholeNumber? with
    | none => exact ⟨_, by simp only [hash, hx, hw, Bool.false_eq_true, ↓reduceIte]; rfl⟩
    | some n => exact ⟨_, by simp only [hash, hx, hw, Bool.false_eq_true, ↓reduceIte]; rfl⟩

theorem plain_of_isHashable {v : Value} (hv : v.IsHashable) : v.Plain := by
  obtain ⟨h, hh⟩ := hv
  cases v with
  | null => exact .null
  | bool b => exact .bool b
  | int n => exact .int n
  | float x => exact .float x
  | nanObject i => exact .nanObject i
  | str s => exact .str s
  | operator o => exact .operator o
  | list _ | dict _ | tensor _ => simp [hash, throw, throwThe, MonadExceptOf.throw] at hh

/-- The hash of a value that can be hashed is the hash of its key. -/
theorem hash_eq_of_key {v : Value} (hv : v.IsHashable) {k : Key} (hk : v.key = some k) :
    v.hash = .ok k.hash := by
  cases v with
  | float x =>
    by_cases hnan : x = Float.nan
    · simp [key, hnan] at hk
    · cases hw : (Value.float x).wholeNumber? <;> simp [key, hnan, hw] at hk <;> subst hk <;>
        simp [hash, Key.hash, hnan, hw, pure, Except.pure]
  | nanObject _ => simp [key, wholeNumber?] at hk
  | list _ | dict _ | tensor _ =>
    obtain ⟨_, hh⟩ := hv
    simp [hash, throw, throwThe, MonadExceptOf.throw] at hh
  | _ =>
    simp only [key, wholeNumber?, Option.map_eq_map, Option.map_some, Option.some.injEq] at hk
    subst hk
    rfl

/-- Equal values that can be hashed hash alike. -/
theorem hash_eq_of_eqv {a b : Value} (ha : a.IsHashable) (hb : b.IsHashable)
    (h : a.eqv b = true) : a.hash = b.hash := by
  obtain ⟨k, hak, hbk⟩ := (eqv_iff_key (plain_of_isHashable ha) (plain_of_isHashable hb)).mp h
  rw [hash_eq_of_key ha hak, hash_eq_of_key hb hbk]

end ExprTree.Value
