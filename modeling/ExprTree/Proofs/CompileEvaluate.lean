import ExprTree.Proofs.CompiledText
import ExprTree.Proofs.Walks
import ExprTree.Node.Compile
import ExprTree.Node.Eval

/-
  Compiling a tree and evaluating it agree. The text of a literal is the spelling of a phrase that
  stands for exactly the literal's float (`literalText_form`): NaN and the infinities through the
  two calls, zeros and whole floats below `2 ^ 53` through their digits, every other float through
  its shortest decimal, and a negative float through the negation of its magnitude. By induction
  on the tree, a tree whose operators are real and whose names are identifiers compiles to the
  spelling of a well-formed phrase that reads the tree (`compile_reads`), and in a context that
  binds its names to floats that phrase stands for what the tree evaluates to
  (`evaluate_denotes`).

  Main results: `compile_reads_as_evaluate` (the compiled text reads uniquely, as a phrase that
  stands for exactly the value of the tree) and `compile_eq_compile_iff` (for such trees, equal
  texts come from trees with one shape, one operator at each binary position, one name at each
  variable position and the same float at each literal position).
-/

namespace ExprTree

/-- Whether every operator slot of a tree holds an operator. -/
def Node.operatorsReal : Node → Bool
  | .lit _ _ | .var _ _ => true
  | .bin _ (.operator _) l r => l.operatorsReal && r.operatorsReal
  | .bin _ _ _ _ => false

theorem Node.operatorsReal_bin {tag : Nat} {op : Value} {l r : Node} :
    (Node.bin tag op l r).operatorsReal = true ↔
      (∃ o, op = .operator o) ∧ l.operatorsReal = true ∧ r.operatorsReal = true := by
  cases op <;> simp [Node.operatorsReal]

/-- Whether two trees have one shape, one operator at each binary position, one name at each
variable position and one float, bit for bit, at each literal position. Tags are not compared. -/
def Node.sameShape : Node → Node → Bool
  | .lit _ x, .lit _ y => x.toBits == y.toBits
  | .var _ s, .var _ s' => s == s'
  | .bin _ op l r, .bin _ op' l' r' =>
    (match op, op' with
      | .operator o, .operator o' => o == o'
      | _, _ => false) && l.sameShape l' && r.sameShape r'
  | _, _ => false

end ExprTree

namespace ExprTree.Compiled

open Decimal Text

/-! ## Literals -/

section Literal

variable {x : Float}

theorem ofFloat_abs (hnan : x.isNaN = false) : Binary.ofFloat (Float.abs x) = Binary.ofFloat x := by
  rw [ofFloat_eq, ofFloat_eq, exponentField_abs hnan, fractionField_abs hnan]

/-- A phrase made of a numeral, NaN or the infinity under negations: the form of a literal. -/
def Term.IsLiteral : Term → Prop
  | .number _ | .nan | .infinity => True
  | .negate t => t.IsLiteral
  | .name _ | .binary _ _ _ | .power _ _ => False

/-- The phrase `u` stands for exactly the float `z`, in every context. -/
def StandsFor (u : Term) (z : Float) : Prop := ∀ c y, u.Denotes c y ↔ y = z

theorem standsFor_number {m : Numeral} {z : Float} (hz : IsNearest m.value z.toBits.toNat) :
    StandsFor (.number m) z := by
  intro c y
  constructor
  · intro h
    cases h with
    | number h => exact eq_of_toBits_toNat_eq (isNearest_unique h hz)
  · rintro rfl
    exact .number hz

theorem standsFor_nan (hx : x.isNaN = true) : StandsFor .nan x := by
  intro c y
  constructor
  · intro h
    cases h with
    | nan h => exact Term.eq_of_isNaN h hx
  · rintro rfl
    exact .nan hx

theorem standsFor_infinity (hx : x.toBits.toNat = infinityBits) : StandsFor .infinity x := by
  intro c y
  constructor
  · intro h
    cases h with
    | infinity h => exact eq_of_toBits_toNat_eq (h.trans hx.symm)
  · rintro rfl
    exact .infinity hx

/-- The negation of a phrase that stands for exactly `z` stands for exactly `-z`. -/
theorem standsFor_negate {u : Term} {z : Float} (hu : StandsFor u z) :
    StandsFor (.negate u) (-z) := by
  intro c y
  constructor
  · intro h
    cases h with
    | negate h => rw [(hu c _).mp h]
  · rintro rfl
    exact .negate ((hu c z).mpr rfl)

/-- How the magnitude of a literal is written: NaN and `+∞` as the two calls, a whole magnitude
from `1` to below `2 ^ 53` as its digits, and any other as a numeral with a point or an exponent
that rounds to it. -/
inductive MagnitudeForm : Term → Float → Prop
  | nan {x : Float} : x.isNaN = true → MagnitudeForm .nan x
  | infinity {x : Float} : x.toBits.toNat = infinityBits → MagnitudeForm .infinity x
  | whole {x : Float} {n : Nat} : x.toBits.toNat < infinityBits →
      patternValue x.toBits.toNat = n → 0 < n → n < Node.wholeLimit →
      MagnitudeForm (.number (Numeral.ofNat n)) x
  | decimal {m : Numeral} {x : Float} : m.isWhole = false → IsNearest m.value x.toBits.toNat →
      MagnitudeForm (.number m) x

/-- How a literal is written: positive zero as `0`, a float with its sign bit clear as its
magnitude, and a float with its sign bit set as the negation of its magnitude. -/
inductive LiteralForm : Term → Float → Prop
  | zero {x : Float} : x.toBits.toNat = 0 → LiteralForm (.number (Numeral.ofNat 0)) x
  | magnitude {u : Term} {x : Float} : MagnitudeForm u x → LiteralForm u x
  | negate {u : Term} {x : Float} : MagnitudeForm u x → LiteralForm (.negate u) (-x)

/-- A finite pattern whose value is a whole number is the nearest pattern to it. -/
theorem isNearest_of_patternValue {b n : Nat} (hb : b < infinityBits)
    (hv : patternValue b = n) : IsNearest n b := by
  rw [← hv]
  exact isNearest_of_mem hb mem_self

theorem isNearest_zero_zero : IsNearest 0 0 := by
  have h := isNearest_of_patternValue (by decide) (patternValue_zero.trans Nat.cast_zero.symm)
  rwa [Nat.cast_zero] at h

/-- A numeral written for a magnitude rounds to it. -/
theorem MagnitudeForm.isNearest {m : Numeral} (h : MagnitudeForm (.number m) x) :
    IsNearest m.value x.toBits.toNat := by
  cases h with
  | whole hb hv _ _ =>
    rw [Numeral.value_ofNat]
    exact isNearest_of_patternValue hb hv
  | decimal _ h => exact h

theorem MagnitudeForm.standsFor {u : Term} (h : MagnitudeForm u x) : StandsFor u x := by
  cases h with
  | nan h => exact standsFor_nan h
  | infinity h => exact standsFor_infinity h
  | whole hb hv hpos hlt => exact standsFor_number (MagnitudeForm.whole hb hv hpos hlt).isNearest
  | decimal _ h => exact standsFor_number h

theorem LiteralForm.standsFor {u : Term} (h : LiteralForm u x) : StandsFor u x := by
  cases h with
  | zero h =>
    apply standsFor_number
    rw [Numeral.value_ofNat, h, Nat.cast_zero]
    exact isNearest_zero_zero
  | magnitude h => exact h.standsFor
  | negate h => exact standsFor_negate h.standsFor

theorem MagnitudeForm.isLiteral {u : Term} (h : MagnitudeForm u x) : u.IsLiteral := by
  cases h <;> trivial

theorem LiteralForm.isLiteral {u : Term} (h : LiteralForm u x) : u.IsLiteral := by
  cases h with
  | zero _ => trivial
  | magnitude h => exact h.isLiteral
  | negate h => exact h.isLiteral

/-- `x` is written with `body` for its magnitude, and a negative `x` as `(-body)`: the text is then
the spelling of a phrase of the form of a literal for `x`. -/
theorem signed_form (hnan : x.isNaN = false) {u : Term} {body : String} (hu : u.WellFormed)
    (hb : u.spell = body.toList) (hf : MagnitudeForm u (Float.abs x)) :
    ∃ v : Term, v.WellFormed ∧
      v.spell = (if signBit x then "(-" ++ body ++ ")" else body).toList ∧ LiteralForm v x := by
  cases hs : signBit x
  · refine ⟨u, hu, by simpa using hb, ?_⟩
    rw [← abs_of_signBit_false hnan hs]
    exact .magnitude hf
  · refine ⟨.negate u, hu, ?_, ?_⟩
    · simp [Term.spell, hb, String.toList_append]
    · rw [← neg_abs_of_signBit_true hnan hs]
      exact .negate hf

/-- A finite float other than zero has a magnitude that is neither zero nor the infinity. -/
theorem finite_fields (hnan : x.isNaN = false) (hinf : x.isInf = false)
    (hzero : (x == 0) = false) : exponentField x < 2047 ∧ magnitudeBits x ≠ 0 := by
  have hn : ¬(exponentField x = 2047 ∧ fractionField x ≠ 0) := by
    rw [← isNaN_iff, hnan]
    decide
  have hi : ¬(exponentField x = 2047 ∧ fractionField x = 0) := by
    rw [← isInf_iff, hinf]
    decide
  have hz : ¬(exponentField x = 0 ∧ fractionField x = 0) := by
    rw [← beq_zero_iff, hzero]
    decide
  have := exponentField_lt x
  rw [magnitudeBits_eq]
  omega

/-- A whole magnitude below `2 ^ 53` other than zero is written as its digits. -/
theorem whole_form (hnan : x.isNaN = false) (hfin : exponentField x < 2047)
    (hmag : magnitudeBits x ≠ 0) {n : Nat} (hw : (Binary.ofFloat x).wholeValue? = some n)
    (hn : n < Node.wholeLimit) : MagnitudeForm (.number (Numeral.ofNat n)) (Float.abs x) := by
  have hbits : (Float.abs x).toBits.toNat = magnitudeBits x := toBits_abs hnan
  have hv : patternValue (magnitudeBits x) = n := by
    rw [← value_ofFloat, ← wholeValue?_value hw]
  refine .whole (hbits ▸ magnitudeBits_lt_infinityBits hfin) (hbits ▸ hv) ?_ hn
  -- a whole value of zero would make the magnitude zero
  rcases Nat.eq_zero_or_pos n with rfl | hpos
  · have hlt := patternValue_lt (Nat.pos_of_ne_zero hmag)
    rw [patternValue_zero, hv, Nat.cast_zero] at hlt
    exact absurd hlt (lt_irrefl 0)
  · exact hpos

/-- The float text of the magnitude of a finite float other than zero spells a numeral with a
point or an exponent that rounds to the magnitude. -/
theorem decimal_form (hnan : x.isNaN = false) (hinf : x.isInf = false)
    (hzero : (x == 0) = false) :
    ∃ m : Numeral, m.WellFormed ∧ m.spell = (text (Float.abs x)).toList ∧
      MagnitudeForm (.number m) (Float.abs x) := by
  obtain ⟨hfin, hmag⟩ := finite_fields hnan hinf hzero
  obtain ⟨m, hm, hwhole, hspell, hvalue⟩ :=
    Numeral.text_numeral ((isNaN_abs hnan).trans hnan) ((isInf_abs hnan).trans hinf)
      ((beq_zero_abs hnan).trans hzero) (signBit_abs hnan)
  refine ⟨m, hm, hspell, .decimal hwhole ?_⟩
  rw [hvalue, ofFloat_abs hnan, toBits_abs hnan]
  exact isNearest_shortest hfin hmag

/-- The numeral `0.0`. -/
def pointZero : Numeral := ⟨['0'], ['0'], none⟩

theorem pointZero_wellFormed : pointZero.WellFormed :=
  ⟨List.cons_ne_nil _ _, Numeral.allDigits_zeros 1, Numeral.allDigits_zeros 1, fun _ h => nomatch h⟩

theorem pointZero_value : pointZero.value = 0 := by
  have h00 : digitValue ['0', '0'] = 0 := Numeral.digitValue_zeros 2
  simp [pointZero, Numeral.value, h00]

/-- A zero has the pattern of all zeros once its sign bit is cleared. -/
theorem toBits_abs_of_beq_zero (hnan : x.isNaN = false) (hzero : (x == 0) = true) :
    (Float.abs x).toBits.toNat = 0 := by
  obtain ⟨he, hf⟩ := (beq_zero_iff x).mp hzero
  rw [toBits_abs hnan, ← magnitudeBits, magnitudeBits_eq]
  omega

/-- `0.0` rounds to the magnitude of a zero. -/
theorem isNearest_pointZero (hnan : x.isNaN = false) (hzero : (x == 0) = true) :
    IsNearest pointZero.value (Float.abs x).toBits.toNat := by
  rw [pointZero_value, toBits_abs_of_beq_zero hnan hzero]
  exact isNearest_zero_zero

/-- The text of a zero spells a phrase of the form of a literal for it: `0` for zero and `(-0.0)`
for negative zero. -/
theorem zero_form (hnan : x.isNaN = false) (hzero : (x == 0) = true) :
    ∃ v : Term, v.WellFormed ∧
      v.spell = (if signBit x then "(-0.0)" else "0").toList ∧ LiteralForm v x := by
  cases hs : signBit x
  · refine ⟨.number (Numeral.ofNat 0), Numeral.ofNat_wellFormed 0, by decide, .zero ?_⟩
    rw [← abs_of_signBit_false hnan hs]
    exact toBits_abs_of_beq_zero hnan hzero
  · refine ⟨.negate (.number pointZero), pointZero_wellFormed, by decide, ?_⟩
    rw [← neg_abs_of_signBit_true hnan hs]
    exact .negate (.decimal rfl (isNearest_pointZero hnan hzero))

/-- The text of the magnitude of a finite float other than zero: its digits when it is whole and
below `2 ^ 53`, its float text otherwise. -/
def magnitudeText (x : Float) : String :=
  match (Binary.ofFloat x).wholeValue? with
  | some n => if n < Node.wholeLimit then toString n else text (Float.abs x)
  | none => text (Float.abs x)

theorem literalText_of_finite (hnan : x.isNaN = false) (hinf : x.isInf = false)
    (hzero : (x == 0) = false) :
    Node.literalText x = if signBit x then "(-" ++ magnitudeText x ++ ")" else magnitudeText x := by
  unfold Node.literalText
  simp only [hnan, hinf, hzero, Bool.false_eq_true, if_false]
  cases h : (Binary.ofFloat x).wholeValue? <;> simp only [magnitudeText, h]

theorem magnitudeText_form (hnan : x.isNaN = false) (hinf : x.isInf = false)
    (hzero : (x == 0) = false) :
    ∃ m : Numeral, m.WellFormed ∧ m.spell = (magnitudeText x).toList ∧
      MagnitudeForm (.number m) (Float.abs x) := by
  obtain ⟨hfin, hmag⟩ := finite_fields hnan hinf hzero
  unfold magnitudeText
  cases hw : (Binary.ofFloat x).wholeValue? with
  | none => exact decimal_form hnan hinf hzero
  | some n =>
    dsimp only
    by_cases hn : n < Node.wholeLimit
    · rw [if_pos hn]
      exact ⟨Numeral.ofNat n, Numeral.ofNat_wellFormed n, Numeral.spell_ofNat n,
        whole_form hnan hfin hmag hw hn⟩
    · rw [if_neg hn]
      exact decimal_form hnan hinf hzero

theorem toBits_abs_of_isInf (hnan : x.isNaN = false) (hinf : x.isInf = true) :
    (Float.abs x).toBits.toNat = infinityBits := by
  obtain ⟨he, hf⟩ := (isInf_iff x).mp hinf
  rw [toBits_abs hnan, ← magnitudeBits, magnitudeBits_eq, he, hf]
  rfl

/-- The text of every literal is the spelling of a well-formed phrase of the form of a literal
for the literal's float. -/
theorem literalText_form (x : Float) :
    ∃ u : Term, u.WellFormed ∧ u.spell = (Node.literalText x).toList ∧ LiteralForm u x := by
  by_cases hnan : x.isNaN = true
  · refine ⟨.nan, trivial, ?_, .magnitude (.nan hnan)⟩
    simp only [Node.literalText, hnan, if_true]
    decide
  rw [Bool.not_eq_true] at hnan
  by_cases hinf : x.isInf = true
  · have hlit : Node.literalText x =
        if signBit x then "(-" ++ "float(\x27inf\x27)" ++ ")" else "float(\x27inf\x27)" := by
      simp only [Node.literalText, hnan, hinf, Bool.false_eq_true, if_false, if_true]
      rfl
    rw [hlit]
    exact signed_form hnan (u := .infinity) trivial (by decide)
      (.infinity (toBits_abs_of_isInf hnan hinf))
  rw [Bool.not_eq_true] at hinf
  by_cases hzero : (x == 0) = true
  · have hlit : Node.literalText x = if signBit x then "(-0.0)" else "0" := by
      simp only [Node.literalText, hnan, hinf, hzero, Bool.false_eq_true, if_false, if_true]
    rw [hlit]
    exact zero_form hnan hzero
  rw [Bool.not_eq_true] at hzero
  obtain ⟨m, hm, hb, hf⟩ := magnitudeText_form hnan hinf hzero
  rw [literalText_of_finite hnan hinf hzero]
  exact signed_form hnan (u := .number m) hm hb hf

end Literal

/-! ## Trees -/

/-- The phrase of an operator between two phrases: a binary phrase for the four arithmetic
operators and a power for exponentiation. -/
def operatorPhrase : Operator → Term → Term → Term
  | .add, a, b => .binary .plus a b
  | .subtract, a, b => .binary .minus a b
  | .multiply, a, b => .binary .times a b
  | .divide, a, b => .binary .divide a b
  | .exponentiate, a, b => .power a b

/-- `u` is the phrase of the tree `t`: a literal is a literal phrase that stands for its float, a
variable is its name, and a binary node with an operator is that operator's phrase of the phrases
of its children. -/
inductive Reads : Term → Node → Prop
  | lit {u : Term} {tag : Nat} {x : Float} : LiteralForm u x → Reads u (.lit tag x)
  | var {tag : Nat} {s : String} : Reads (.name s) (.var tag s)
  | bin {tag : Nat} {o : Operator} {a b : Term} {l r : Node} :
      Reads a l → Reads b r → Reads (operatorPhrase o a b) (.bin tag (.operator o) l r)

theorem wellFormed_operatorPhrase (o : Operator) {a b : Term} (ha : a.WellFormed)
    (hb : b.WellFormed) : (operatorPhrase o a b).WellFormed := by
  cases o <;> exact ⟨ha, hb⟩

/-- In a context, an operator's phrase stands for the operator's kernel applied to what the two
phrases stand for. -/
theorem denotes_operatorPhrase {c : Context} {o : Operator} {a b : Term} {z : Float} :
    (operatorPhrase o a b).Denotes c z ↔
      ∃ x y, a.Denotes c x ∧ b.Denotes c y ∧ z = o.apply x y := by
  cases o with
  | exponentiate =>
    constructor
    · intro h
      cases h with
      | power hx hy => exact ⟨_, _, hx, hy, rfl⟩
    · rintro ⟨x, y, hx, hy, rfl⟩
      exact .power hx hy
  | add | subtract | multiply | divide =>
    constructor
    · intro h
      cases h with
      | binary hx hy => exact ⟨_, _, hx, hy, rfl⟩
    · rintro ⟨x, y, hx, hy, rfl⟩
      exact .binary hx hy

/-- A binary node with an operator compiles to the spelling of its operator's phrase of the
phrases its children compile to. -/
theorem compile_operator (tag : Nat) (o : Operator) {l r : Node} {A B : String} {a b : Term}
    (hA : l.compile = .ok A) (hB : r.compile = .ok B) (ha : a.spell = A.toList)
    (hb : b.spell = B.toList) :
    ∃ text : String, (Node.bin tag (.operator o) l r).compile = .ok text ∧
      (operatorPhrase o a b).spell = text.toList := by
  cases o <;>
    exact ⟨_, by simp only [Node.compile, Operator.ofSlot, hA, hB]; rfl,
      by simp [operatorPhrase, Term.spell, Operation.char, ha, hb, String.toList_append]⟩

/-- A tree whose operators are real and whose names are identifiers compiles to the spelling of a
well-formed phrase that reads it. -/
theorem compile_reads {t : Node} (hops : t.operatorsReal = true)
    (hnames : ∀ s ∈ t.occurrences, isIdentifier s = true) :
    ∃ text u, t.compile = .ok text ∧ u.WellFormed ∧ u.spell = text.toList ∧ Reads u t := by
  induction t with
  | lit tag x =>
    obtain ⟨u, hu, hs, hf⟩ := literalText_form x
    exact ⟨_, u, rfl, hu, hs, .lit hf⟩
  | var tag s =>
    exact ⟨s, .name s, rfl, hnames s (by simp), rfl, .var⟩
  | bin tag op l r ihl ihr =>
    obtain ⟨⟨o, rfl⟩, hl, hr⟩ := Node.operatorsReal_bin.mp hops
    obtain ⟨A, a, hA, ha, hsa, hra⟩ := ihl hl fun s hs => hnames s (by simp [hs])
    obtain ⟨B, b, hB, hb, hsb, hrb⟩ := ihr hr fun s hs => hnames s (by simp [hs])
    obtain ⟨text, hc, hs⟩ := compile_operator tag o hA hB hsa hsb
    exact ⟨text, operatorPhrase o a b, hc, wellFormed_operatorPhrase o ha hb, hs, .bin hra hrb⟩

/-- A name bound to a float is looked up and evaluates to that float. -/
theorem evaluate_var {c : Context} {tag : Nat} {s : String} {y : Float}
    (h : c.lookup? (.str s) = some (.float y)) : (Node.var tag s).evaluate c = .ok (.scalar y) := by
  simp only [Node.evaluate, Context.get, Value.hash, h]
  rfl

/-- A binary node with an operator evaluates to the operator's kernel applied to the floats its
children evaluate to. -/
theorem evaluate_operator {c : Context} (tag : Nat) (o : Operator) {l r : Node} {x y : Float}
    (hx : l.evaluate c = .ok (.scalar x)) (hy : r.evaluate c = .ok (.scalar y)) :
    (Node.bin tag (.operator o) l r).evaluate c = .ok (.scalar (o.apply x y)) := by
  simp only [Node.evaluate, Operator.ofSlot, hx, hy]
  rfl

/-- In a context that binds the names of a tree to floats, the phrase that reads the tree stands
for exactly what the tree evaluates to. -/
theorem evaluate_denotes {c : Context} {u : Term} {t : Node} (hr : Reads u t)
    (hc : ∀ s ∈ t.occurrences, ∃ y, c.lookup? (.str s) = some (.float y)) :
    ∃ x, t.evaluate c = .ok (.scalar x) ∧ ∀ y, u.Denotes c y ↔ y = x := by
  induction hr with
  | lit hf => exact ⟨_, rfl, hf.standsFor c⟩
  | @var tag s =>
    obtain ⟨x, hx⟩ := hc s (by simp)
    refine ⟨x, evaluate_var hx, fun y => ⟨?_, ?_⟩⟩
    · intro h
      cases h with
      | name h =>
        rw [hx] at h
        injection h with h
        injection h with h
        exact h.symm
    · rintro rfl
      exact .name hx
  | @bin tag o a b l r _ _ iha ihb =>
    obtain ⟨x, hx, hdx⟩ := iha fun s hs => hc s (by simp [hs])
    obtain ⟨y, hy, hdy⟩ := ihb fun s hs => hc s (by simp [hs])
    refine ⟨o.apply x y, evaluate_operator tag o hx hy, fun z => ?_⟩
    rw [denotes_operatorPhrase]
    constructor
    · rintro ⟨x', y', hx', hy', rfl⟩
      rw [(hdx x').mp hx', (hdy y').mp hy']
    · rintro rfl
      exact ⟨x, y, (hdx x).mpr rfl, (hdy y).mpr rfl, rfl⟩

/-! ## Compiling and evaluating agree -/

/-- Take a tree whose operators are real and whose variables are identifiers, and a context that
binds each variable to a float. The tree compiles to a text and evaluates to a float. The text is
the spelling of exactly one well-formed phrase, which the reader recovers from it. In that
context the phrase stands for exactly the float the tree evaluates to. -/
theorem compile_reads_as_evaluate (t : Node) (c : Context) (hops : t.operatorsReal = true)
    (hnames : ∀ s ∈ t.variables, isIdentifier s = true)
    (hbound : ∀ s ∈ t.variables, ∃ y, c.lookup? (.str s) = some (.float y)) :
    ∃ text x, t.compile = .ok text ∧ t.evaluate c = .ok (.scalar x) ∧
      ∃ u : Term, u.WellFormed ∧ u.spell = text.toList ∧ Term.parse text.toList = some u ∧
        (∀ v : Term, v.WellFormed → v.spell = text.toList → v = u) ∧
        ∀ y, u.Denotes c y ↔ y = x := by
  obtain ⟨text, u, hc, hu, hs, hr⟩ :=
    compile_reads hops fun s hs => hnames s (Node.mem_variables.mpr hs)
  obtain ⟨x, he, hd⟩ := evaluate_denotes hr fun s hs => hbound s (Node.mem_variables.mpr hs)
  refine ⟨text, x, hc, he, u, hu, hs, ?_, ?_, hd⟩
  · rw [← hs]
    exact Term.parse_spell hu
  · intro v hv hvs
    exact Term.spell_injective hv hu (hvs.trans hs.symm)

/-- `x / -0.0` with `x` bound to `1.5`. -/
theorem compile_reads_as_evaluate_quotient :
    let t := Node.bin 0 (.operator .divide) (.var 1 "x") (.lit 2 (-0.0))
    let c : Context := ⟨[(.str "x", .float 1.5)]⟩
    t.operatorsReal = true ∧ (∀ s ∈ t.variables, isIdentifier s = true) ∧
      (∀ s ∈ t.variables, ∃ y, c.lookup? (.str s) = some (.float y)) ∧
      ∃ text x, t.compile = .ok text ∧ t.evaluate c = .ok (.scalar x) ∧
        ∃ u : Term, u.WellFormed ∧ u.spell = text.toList ∧ Term.parse text.toList = some u ∧
          (∀ v : Term, v.WellFormed → v.spell = text.toList → v = u) ∧
          ∀ y, u.Denotes c y ↔ y = x := by
  intro t c
  have hops : t.operatorsReal = true := rfl
  have hvars : t.variables = ["x"] := rfl
  have hnames : ∀ s ∈ t.variables, isIdentifier s = true := by
    rw [hvars]
    decide +kernel
  have hbound : ∀ s ∈ t.variables, ∃ y, c.lookup? (.str s) = some (.float y) := by
    intro s hs
    rw [hvars, List.mem_singleton] at hs
    subst hs
    exact ⟨1.5, by simp [c, Context.lookup?, Value.eqv]⟩
  exact ⟨hops, hnames, hbound, compile_reads_as_evaluate t c hops hnames hbound⟩

/-! ## Equal texts, equal trees -/

theorem StandsFor.unique {u : Term} {x y : Float} (hx : StandsFor u x) (hy : StandsFor u y) :
    x = y :=
  (hy Context.empty x).mp ((hx Context.empty x).mpr rfl)

theorem not_isLiteral_operatorPhrase (o : Operator) (a b : Term) :
    ¬(operatorPhrase o a b).IsLiteral := by
  cases o <;> exact id

theorem operatorPhrase_ne_name (o : Operator) (a b : Term) (s : String) :
    operatorPhrase o a b ≠ .name s := by
  cases o <;> exact fun h => Term.noConfusion h

theorem operatorPhrase_injective {o o' : Operator} {a b a' b' : Term}
    (h : operatorPhrase o a b = operatorPhrase o' a' b') : o = o' ∧ a = a' ∧ b = b' := by
  cases o <;> cases o' <;> simp_all [operatorPhrase]

/-- One phrase reads at most one tree, up to tags. -/
theorem sameShape_of_reads {u v : Term} {a b : Node} (ha : Reads u a) (hb : Reads v b)
    (h : u = v) : a.sameShape b = true := by
  induction ha generalizing v b with
  | lit hf =>
    cases hb with
    | lit hg =>
      subst h
      simp [Node.sameShape, StandsFor.unique hf.standsFor hg.standsFor]
    | var =>
      subst h
      exact hf.isLiteral.elim
    | bin =>
      subst h
      exact absurd hf.isLiteral (not_isLiteral_operatorPhrase _ _ _)
  | var =>
    cases hb with
    | lit hg =>
      subst h
      exact hg.isLiteral.elim
    | var =>
      injection h with h
      simp [Node.sameShape, h]
    | bin => exact absurd h.symm (operatorPhrase_ne_name _ _ _ _)
  | bin _ _ ihl ihr =>
    cases hb with
    | lit hg =>
      subst h
      exact absurd hg.isLiteral (not_isLiteral_operatorPhrase _ _ _)
    | var => exact absurd h (operatorPhrase_ne_name _ _ _ _)
    | bin hl hr =>
      obtain ⟨rfl, rfl, rfl⟩ := operatorPhrase_injective h
      simp [Node.sameShape, ihl hl rfl, ihr hr rfl]

/-- Trees of one shape compile to one text. -/
theorem compile_eq_of_sameShape {a b : Node} (h : a.sameShape b = true) :
    a.compile = b.compile := by
  induction a generalizing b with
  | lit _ x =>
    cases b with
    | lit _ y =>
      have hxy : x = y := eq_of_toBits_eq (beq_iff_eq.mp h)
      rw [hxy]
      rfl
    | var | bin => exact absurd h Bool.false_ne_true
  | var _ s =>
    cases b with
    | var _ s' =>
      have hss : s = s' := beq_iff_eq.mp h
      rw [hss]
      rfl
    | lit | bin => exact absurd h Bool.false_ne_true
  | bin _ op l r ihl ihr =>
    cases b with
    | bin _ op' l' r' =>
      simp only [Node.sameShape, Bool.and_eq_true] at h
      obtain ⟨⟨hop, hl⟩, hr⟩ := h
      split at hop
      · obtain rfl := beq_iff_eq.mp hop
        simp only [Node.compile, ihl hl, ihr hr]
      · exact absurd hop Bool.false_ne_true
    | lit | var => exact absurd h Bool.false_ne_true

/-- A name may spell out the text of another tree: the variable named `(1+2)` and the sum of the
literals `1` and `2` compile to one text. -/
theorem compile_name_spells_sum :
    (Node.var 0 "(1+2)").compile = (Node.bin 0 (.operator .add) (.lit 1 1) (.lit 2 2)).compile ∧
      (Node.var 0 "(1+2)").sameShape (.bin 0 (.operator .add) (.lit 1 1) (.lit 2 2)) = false :=
  ⟨rfl, rfl⟩

/-- Among trees with real operators whose variables are identifiers, two compile to one text
exactly when they have one shape, one operator at each binary position, one name at each
variable position and one float, bit for bit, at each literal position. -/
theorem compile_eq_compile_iff {a b : Node} (hopa : a.operatorsReal = true)
    (hopb : b.operatorsReal = true) (hna : ∀ s ∈ a.variables, isIdentifier s = true)
    (hnb : ∀ s ∈ b.variables, isIdentifier s = true) :
    a.compile = b.compile ↔ a.sameShape b = true := by
  constructor
  · intro h
    obtain ⟨A, u, hA, hu, hsu, hru⟩ :=
      compile_reads hopa fun s hs => hna s (Node.mem_variables.mpr hs)
    obtain ⟨B, v, hB, hv, hsv, hrv⟩ :=
      compile_reads hopb fun s hs => hnb s (Node.mem_variables.mpr hs)
    have hAB : A = B := by
      rw [hA, hB] at h
      injection h
    have huv : u = v := Term.spell_injective hu hv (by rw [hsu, hsv, hAB])
    exact sameShape_of_reads hru hrv huv
  · exact compile_eq_of_sameShape

/-- `x * -0.0` and `x * 0` differ only in the sign of a zero, and their texts differ. -/
theorem compile_eq_compile_iff_signed_zero :
    let a := Node.bin 0 (.operator .multiply) (.var 1 "x") (.lit 2 (-0.0))
    let b := Node.bin 3 (.operator .multiply) (.var 4 "x") (.lit 5 0)
    a.operatorsReal = true ∧ b.operatorsReal = true ∧
      (∀ s ∈ a.variables, isIdentifier s = true) ∧ (∀ s ∈ b.variables, isIdentifier s = true) ∧
      (a.compile = b.compile ↔ a.sameShape b = true) := by
  intro a b
  have hopa : a.operatorsReal = true := rfl
  have hopb : b.operatorsReal = true := rfl
  have hna : ∀ s ∈ a.variables, isIdentifier s = true := by
    rw [show a.variables = ["x"] from rfl]
    decide +kernel
  have hnb : ∀ s ∈ b.variables, isIdentifier s = true := by
    rw [show b.variables = ["x"] from rfl]
    decide +kernel
  exact ⟨hopa, hopb, hna, hnb, compile_eq_compile_iff hopa hopb hna hnb⟩

end ExprTree.Compiled
