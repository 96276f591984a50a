import ExprTree.Proofs.ShortestDecimal
import ExprTree.Decimal.Notation

/-
  Numerals: a run of digits, then an optional fraction after a point, then an optional exponent
  after `e` with its sign, standing for `digits · 10 ^ (exponent - fraction length)`.

  * `Numeral.read` reads the longest numeral at the front of a text; reading the spelling of a
    well-formed numeral followed by a text that cannot continue it gives back the numeral and
    that text (`read_spell_append`).
  * The writers of whole numbers and of floats write numerals: `toString n` spells a numeral of
    value `n` (`spell_ofNat`, `value_ofNat`), and the text of a positive finite float spells a
    numeral whose value is the float's shortest decimal (`text_numeral`), whether the layout is
    positional or scientific.
-/

namespace ExprTree.Decimal

/-- Every character of `cs` is a decimal digit. -/
def AllDigits (cs : List Char) : Prop := ∀ c ∈ cs, c.isDigit = true

/-- The number that a run of digits stands for. -/
def digitValue (cs : List Char) : Nat := Nat.ofDigitChars 10 cs 0

/-- A run of characters that pass `p`, followed by a text that does not start with one, is taken
whole and leaves the text. -/
theorem takeWhile_dropWhile_append {p : Char → Bool} {w r : List Char}
    (hw : ∀ c ∈ w, p c = true) (hr : ∀ c ∈ r.head?, p c = false) :
    (w ++ r).takeWhile p = w ∧ (w ++ r).dropWhile p = r := by
  have hstop : r.takeWhile p = [] ∧ r.dropWhile p = r := by
    cases r with
    | nil => exact ⟨rfl, rfl⟩
    | cons c r => simp [hr c rfl]
  rw [List.takeWhile_append_of_pos hw, List.dropWhile_append_of_pos hw, hstop.1, hstop.2,
    List.append_nil]
  exact ⟨rfl, rfl⟩

/-- A decimal numeral: the digits before the point, the digits after it (none when the numeral has
no point), and the sign and digits of its exponent, if it has one. -/
structure Numeral where
  whole : List Char
  fraction : List Char
  exponent : Option (Bool × List Char)
  deriving DecidableEq

namespace Numeral

/-- A numeral is well formed when it starts with a digit and every part is a run of digits, the
exponent's run not empty. -/
structure WellFormed (n : Numeral) : Prop where
  whole_ne_nil : n.whole ≠ []
  whole_digits : AllDigits n.whole
  fraction_digits : AllDigits n.fraction
  exponent_digits : ∀ e ∈ n.exponent, e.2 ≠ [] ∧ AllDigits e.2

/-- The text of the exponent part: `e`, a sign and the digits. -/
def exponentSpell : Option (Bool × List Char) → List Char
  | none => []
  | some (neg, ds) => 'e' :: (if neg then '-' else '+') :: ds

/-- The text of a numeral. -/
def spell (n : Numeral) : List Char :=
  n.whole ++ ((if n.fraction = [] then [] else '.' :: n.fraction) ++ exponentSpell n.exponent)

/-- Whether a numeral has neither a point nor an exponent: it is written as a whole number. -/
def isWhole (n : Numeral) : Bool := n.fraction.isEmpty && n.exponent.isNone

/-- The power of ten that the exponent part stands for. -/
def exponentValue (n : Numeral) : Int :=
  match n.exponent with
  | none => 0
  | some (neg, ds) => if neg then -(digitValue ds : Int) else digitValue ds

/-- The rational a numeral stands for. -/
def value (n : Numeral) : ℚ :=
  digitValue (n.whole ++ n.fraction) * 10 ^ (n.exponentValue - n.fraction.length)

/-- The run of digits at the front of a text, and the rest. -/
def digitRun (cs : List Char) : List Char × List Char :=
  (cs.takeWhile Char.isDigit, cs.dropWhile Char.isDigit)

/-- Reads a point and the nonempty run of digits after it, if the text starts with a point. -/
def readFraction : List Char → Option (List Char × List Char)
  | '.' :: cs => if (digitRun cs).1 = [] then none else some (digitRun cs)
  | cs => some ([], cs)

/-- The sign of an exponent. -/
def readSign : Char → Option Bool
  | '+' => some false
  | '-' => some true
  | _ => none

/-- Reads `e`, a sign and a nonempty run of digits, if the text starts with `e`. -/
def readExponent : List Char → Option (Option (Bool × List Char) × List Char)
  | 'e' :: s :: cs =>
    (readSign s).bind fun neg =>
      if (digitRun cs).1 = [] then none else some (some (neg, (digitRun cs).1), (digitRun cs).2)
  | cs => some (none, cs)

/-- Reads the numeral at the front of a text: digits, then a fraction, then an exponent. -/
def read (cs : List Char) : Option (Numeral × List Char) :=
  if (digitRun cs).1 = [] then none
  else
    (readFraction (digitRun cs).2).bind fun (f, r) =>
      (readExponent r).bind fun (e, r') => some (⟨(digitRun cs).1, f, e⟩, r')

/-- A text that cannot continue a numeral: it is empty or starts with a character that is no
digit, point or exponent mark. -/
def Stops (r : List Char) : Prop :=
  ∀ c ∈ r.head?, c.isDigit = false ∧ c ≠ '.' ∧ c ≠ 'e'

/-! ## Reading back a spelling -/

theorem digitRun_append {w r : List Char} (hw : AllDigits w)
    (hr : ∀ c ∈ r.head?, c.isDigit = false) : digitRun (w ++ r) = (w, r) := by
  obtain ⟨htake, hdrop⟩ := takeWhile_dropWhile_append hw hr
  rw [digitRun, htake, hdrop]

theorem readFraction_of_not_point {cs : List Char} (h : ∀ c ∈ cs.head?, c ≠ '.') :
    readFraction cs = some ([], cs) := by
  cases cs with
  | nil => rfl
  | cons c cs =>
    have hc : c ≠ '.' := h c rfl
    unfold readFraction
    split
    next heq => exact absurd (List.cons.inj heq).1 hc
    next => rfl

theorem readExponent_of_not_mark {cs : List Char} (h : ∀ c ∈ cs.head?, c ≠ 'e') :
    readExponent cs = some (none, cs) := by
  match cs, h with
  | [], _ => rfl
  | [c], _ =>
    unfold readExponent
    split
    next heq => simp at heq
    next => rfl
  | c :: d :: cs, h =>
    have hc : c ≠ 'e' := h c rfl
    unfold readExponent
    split
    next heq => exact absurd (List.cons.inj heq).1 hc
    next => rfl

/-- The exponent part of a well-formed numeral reads back, whatever follows it that is no
digit. -/
theorem readExponent_spell {e : Option (Bool × List Char)} (he : ∀ x ∈ e, x.2 ≠ [] ∧ AllDigits x.2)
    {r : List Char} (hr : Stops r) : readExponent (exponentSpell e ++ r) = some (e, r) := by
  match e with
  | none => exact readExponent_of_not_mark (fun c hc => (hr c hc).2.2)
  | some (neg, ds) =>
    obtain ⟨hne, hds⟩ := he (neg, ds) rfl
    have hrun := digitRun_append hds (fun c hc => (hr c hc).1)
    cases neg <;> simp [exponentSpell, readExponent, readSign, hrun, hne]

theorem read_spell_append {n : Numeral} (hn : n.WellFormed) {r : List Char} (hr : Stops r) :
    read (n.spell ++ r) = some (n, r) := by
  -- after the fraction comes the exponent mark or the stopping text: no digit and no point
  have hexp : ∀ c ∈ (exponentSpell n.exponent ++ r).head?, c.isDigit = false ∧ c ≠ '.' := by
    intro c hc
    cases h : n.exponent with
    | none =>
      rw [h] at hc
      exact ⟨(hr c hc).1, (hr c hc).2.1⟩
    | some e =>
      rw [h] at hc
      simp only [exponentSpell, List.cons_append, List.head?_cons, Option.mem_def,
        Option.some.injEq] at hc
      subst hc
      decide
  have hfrac : readFraction (((if n.fraction = [] then [] else '.' :: n.fraction) ++
      exponentSpell n.exponent) ++ r) = some (n.fraction, exponentSpell n.exponent ++ r) := by
    by_cases hf : n.fraction = []
    · rw [if_pos hf, List.nil_append, hf]
      exact readFraction_of_not_point (fun c hc => (hexp c hc).2)
    · rw [if_neg hf, List.cons_append, List.cons_append, List.append_assoc, readFraction,
        digitRun_append hn.fraction_digits (fun c hc => (hexp c hc).1)]
      simp [hf]
  have hwhole : digitRun (n.spell ++ r) = (n.whole, ((if n.fraction = [] then [] else
      '.' :: n.fraction) ++ exponentSpell n.exponent) ++ r) := by
    unfold spell
    rw [List.append_assoc]
    apply digitRun_append hn.whole_digits
    intro c hc
    by_cases hf : n.fraction = []
    · rw [if_pos hf, List.nil_append] at hc
      exact (hexp c hc).1
    · rw [if_neg hf] at hc
      simp only [List.cons_append, List.head?_cons, Option.mem_def, Option.some.injEq] at hc
      subst hc
      decide
  unfold read
  rw [hwhole, if_neg hn.whole_ne_nil, hfrac]
  simp [readExponent_spell hn.exponent_digits hr]

/-! ## Runs of digits -/

theorem allDigits_append {l m : List Char} (hl : AllDigits l) (hm : AllDigits m) :
    AllDigits (l ++ m) := by
  intro c hc
  rcases List.mem_append.mp hc with h | h
  · exact hl c h
  · exact hm c h

theorem allDigits_zeros (k : Nat) : AllDigits (List.replicate k '0') := by
  intro c hc
  rw [List.eq_of_mem_replicate hc]
  rfl

theorem allDigits_toDigits (n : Nat) : AllDigits (Nat.toDigits 10 n) :=
  fun _ hc => Nat.isDigit_of_mem_toDigits (by decide) (by decide) hc

theorem digitValue_toDigits (n : Nat) : digitValue (Nat.toDigits 10 n) = n :=
  Nat.ofDigitChars_toDigits (by decide) (by decide)

theorem digitValue_append (l m : List Char) :
    digitValue (l ++ m) = digitValue l * 10 ^ m.length + digitValue m := by
  unfold digitValue
  rw [Nat.ofDigitChars_append, Nat.ofDigitChars_eq_ofDigitChars_zero, Nat.mul_comm]

theorem digitValue_zeros (k : Nat) : digitValue (List.replicate k '0') = 0 := by
  unfold digitValue
  rw [Nat.ofDigitChars_replicate_zero, Nat.mul_zero]

/-- The numeral of a whole number, as `toString` writes it. -/
def ofNat (n : Nat) : Numeral := ⟨Nat.toDigits 10 n, [], none⟩

theorem ofNat_wellFormed (n : Nat) : (ofNat n).WellFormed :=
  ⟨Nat.toDigits_ne_nil, allDigits_toDigits n, (fun _ h => nomatch h), fun _ h => nomatch h⟩

theorem spell_ofNat (n : Nat) : (ofNat n).spell = (toString n).toList := by
  simp [ofNat, spell, exponentSpell]

theorem value_ofNat (n : Nat) : (ofNat n).value = n := by
  simp [ofNat, value, exponentValue, digitValue_toDigits]

/-! ## The numerals of float texts -/

section Layout

variable {ds : List Char}

/-- A run of digits written positionally is a numeral: `0.00ddd` below one, `dd.ddd` when the
point falls inside the digits, and `ddd00.0` past them. -/
theorem positional_numeral (hne : ds ≠ []) (hds : AllDigits ds) (e : Int) :
    ∃ m : Numeral, m.WellFormed ∧ m.isWhole = false ∧
      m.spell = (Notation.standard.positional ds e).toList ∧
      m.value = digitValue ds * 10 ^ (e + 1 - ds.length) := by
  unfold Notation.positional
  simp only [show Notation.standard.pointZero = true from rfl, if_true]
  split_ifs with hneg hmid
  · -- below one: a zero, the point, zeros and the digits
    refine ⟨⟨['0'], List.replicate ((-e).toNat - 1) '0' ++ ds, none⟩,
      ⟨by simp, allDigits_zeros 1, allDigits_append (allDigits_zeros _) hds, fun _ h => nomatch h⟩,
      by simp [isWhole, hne], ?_, ?_⟩
    · simp [spell, exponentSpell, hne, String.toList_append]
    · have hwhole : ['0'] ++ (List.replicate ((-e).toNat - 1) '0' ++ ds) =
          List.replicate ((-e).toNat - 1 + 1) '0' ++ ds := by
        rw [List.replicate_succ, List.cons_append]
        rfl
      have hk : (((-e).toNat - 1 : Nat) : Int) = -e - 1 := by omega
      simp only [value, exponentValue, List.length_append, List.length_replicate]
      rw [hwhole, digitValue_append, digitValue_zeros]
      push_cast
      rw [hk]
      ring_nf
  · -- the point inside the digits
    have hlen : e.toNat + 1 ≤ ds.length := by omega
    have hdrop : ds.drop (e.toNat + 1) ≠ [] := by
      simp only [ne_eq, List.drop_eq_nil_iff, not_le]
      exact hmid
    refine ⟨⟨ds.take (e.toNat + 1), ds.drop (e.toNat + 1), none⟩,
      ⟨?_, ?_, ?_, fun _ h => nomatch h⟩, by simp [isWhole, hdrop], ?_, ?_⟩
    · simp [hne]
    · exact fun c hc => hds c (List.mem_of_mem_take hc)
    · exact fun c hc => hds c (List.mem_of_mem_drop hc)
    · simp [spell, exponentSpell, hdrop, String.toList_append]
    · simp only [value, exponentValue, List.take_append_drop, List.length_drop]
      push_cast [Nat.cast_sub hlen]
      rw [show (e.toNat : Int) = e by omega]
      ring_nf
  · -- past the digits: zeros, then a point and one zero
    refine ⟨⟨ds ++ List.replicate (e.toNat + 1 - ds.length) '0', ['0'], none⟩,
      ⟨by simp [hne], allDigits_append hds (allDigits_zeros _), allDigits_zeros 1,
        fun _ h => nomatch h⟩, rfl, ?_, ?_⟩
    · simp [spell, exponentSpell, String.toList_append]
    · have hdigits : digitValue ((ds ++ List.replicate (e.toNat + 1 - ds.length) '0') ++ ['0']) =
          digitValue ds * 10 ^ (e.toNat + 1 - ds.length + 1) := by
        rw [digitValue_append, digitValue_append, digitValue_zeros, List.length_replicate,
          show digitValue ['0'] = 0 from rfl]
        simp only [List.length_singleton, Nat.add_zero, Nat.pow_succ, Nat.mul_assoc]
      have hj : (((e.toNat + 1 - ds.length + 1 : Nat) : Int)) + (0 - 1) = e + 1 - ds.length := by
        omega
      simp only [value, exponentValue, List.length_singleton]
      rw [hdigits]
      push_cast
      rw [← hj, zpow_add₀ (by norm_num), zpow_natCast]
      ring

/-- A run of digits written with an exponent is a numeral: the first digit, the others after a
point, and `e` with the sign and at least two digits of the exponent. -/
theorem scientific_numeral (hne : ds ≠ []) (hds : AllDigits ds) (e : Int) :
    ∃ m : Numeral, m.WellFormed ∧ m.isWhole = false ∧
      m.spell = (Notation.standard.scientific ds e).toList ∧
      m.value = digitValue ds * 10 ^ (e + 1 - ds.length) := by
  set exp := digitChars e.natAbs
  have hexp : digitValue (List.replicate (2 - exp.length) '0' ++ exp) = e.natAbs := by
    rw [digitValue_append, digitValue_zeros, Nat.zero_mul, Nat.zero_add]
    exact digitValue_toDigits _
  refine ⟨⟨ds.take 1, ds.drop 1, some (decide (e < 0), List.replicate (2 - exp.length) '0' ++ exp)⟩,
    ⟨?_, ?_, ?_, ?_⟩, by simp [isWhole], ?_, ?_⟩
  · simp [hne]
  · exact fun c hc => hds c (List.mem_of_mem_take hc)
  · exact fun c hc => hds c (List.mem_of_mem_drop hc)
  · rintro x hx
    obtain rfl := Option.some.inj hx
    exact ⟨by simp [exp, digitChars, Nat.toDigits_ne_nil],
      allDigits_append (allDigits_zeros _) (allDigits_toDigits _)⟩
  · have hdrop : ds.tail = [] ↔ ¬ds.length > 1 := by
      rw [← List.drop_one, List.drop_eq_nil_iff, gt_iff_lt, not_lt]
    unfold Notation.scientific
    by_cases hlen : ds.length > 1
    · have hne' : ds.tail ≠ [] := fun h => (hdrop.mp h) hlen
      by_cases he : e < 0 <;>
        simp [spell, exponentSpell, Notation.standard, hlen, hne', he, exp, String.toList_append]
    · have hnil : ds.tail = [] := hdrop.mpr hlen
      by_cases he : e < 0 <;>
        simp [spell, exponentSpell, Notation.standard, hlen, hnil, he, exp, String.toList_append]
  · simp only [value, exponentValue, List.take_append_drop, List.length_drop, hexp]
    have hpos : 1 ≤ ds.length := List.length_pos_iff.mpr hne
    push_cast [Nat.cast_sub hpos]
    by_cases he : e < 0
    · simp only [he, decide_true, if_true]
      rw [abs_of_neg he]
      ring_nf
    · simp only [he, decide_false, if_false, Bool.false_eq_true]
      rw [abs_of_nonneg (not_lt.mp he)]
      ring_nf

end Layout

/-- The text of a positive finite nonzero float is a numeral whose value is the float's shortest
decimal. -/
theorem text_numeral {x : Float} (hnan : x.isNaN = false) (hinf : x.isInf = false)
    (hzero : (x == 0) = false) (hsign : signBit x = false) :
    ∃ m : Numeral, m.WellFormed ∧ m.isWhole = false ∧ m.spell = (text x).toList ∧
      m.value = (Binary.ofFloat x).shortest.value := by
  set d := (Binary.ofFloat x).shortest
  set ds := digitChars d.mantissa
  have hne : ds ≠ [] := Nat.toDigits_ne_nil
  have hdig : AllDigits ds := allDigits_toDigits d.mantissa
  have hval : (digitValue ds : ℚ) * 10 ^ (d.exponent + ds.length - 1 + 1 - ds.length) =
      d.value := by
    rw [show digitValue ds = d.mantissa from digitValue_toDigits _]
    unfold Digits.value
    ring_nf
  unfold text Notation.render
  simp only [hnan, hinf, hzero, hsign, Bool.false_eq_true, if_false, String.empty_append]
  split_ifs
  · obtain ⟨m, hm, hw, hspell, hvalue⟩ := positional_numeral hne hdig (d.exponent + ds.length - 1)
    exact ⟨m, hm, hw, hspell, hvalue.trans hval⟩
  · obtain ⟨m, hm, hw, hspell, hvalue⟩ := scientific_numeral hne hdig (d.exponent + ds.length - 1)
    exact ⟨m, hm, hw, hspell, hvalue.trans hval⟩

end Numeral

end ExprTree.Decimal
