import ExprTree.Proofs.QuotedText
import ExprTree.Proofs.Interchange

/-
  Renderings read back. The text of a float is `nan` for NaN, and otherwise a minus sign for a
  set sign bit followed by `inf` for the infinity or by a numeral that rounds to the magnitude
  (`text_reads`); such a text stands for one float only (`FloatText.unique`), so the text of a
  float determines the float (`text_injective`). The rendering of a tree writes its class name
  and fields around these: a float text, which holds no closing bracket, a quoted name, which
  delimits itself (`quote_append_cancel`), and an operator name, which holds no comma. By
  induction on the tree, the rendering of a tree followed by anything determines the tree, up to
  tags, and what follows it (`repr_append_cancel`).

  Main result: `repr_eq_repr_iff`.
-/

namespace ExprTree

/-- A character that is in neither of two texts marks where both end: what stands before it and
what follows it agree. -/
theorem append_cons_cancel {c : Char} :
    ∀ {u v r r' : List Char}, c ∉ u → c ∉ v → u ++ c :: r = v ++ c :: r' →
      u = v ∧ r = r'
  | [], [], _, _, _, _, h => ⟨rfl, (List.cons.inj h).2⟩
  | [], d :: v, _, _, _, hv, h => absurd (List.mem_cons.mpr (.inl (List.cons.inj h).1)) hv
  | d :: u, [], _, _, hu, _, h => absurd (List.mem_cons.mpr (.inl (List.cons.inj h).1.symm)) hu
  | d :: u, e :: v, _, _, hu, hv, h => by
    obtain ⟨rfl, h'⟩ := List.cons.inj h
    obtain ⟨rfl, hr⟩ := append_cons_cancel (List.not_mem_of_not_mem_cons hu)
      (List.not_mem_of_not_mem_cons hv) h'
    exact ⟨rfl, hr⟩

end ExprTree

namespace ExprTree.Decimal

open Compiled

/-! ## Numerals -/

namespace Numeral

/-- Two well-formed numerals with one spelling are one numeral. -/
theorem eq_of_spell_eq {m m' : Numeral} (hm : m.WellFormed) (hm' : m'.WellFormed)
    (h : m.spell = m'.spell) : m = m' := by
  have hstop : Stops [] := fun _ hc => nomatch hc
  have hr := read_spell_append hm hstop
  rw [h, read_spell_append hm' hstop] at hr
  exact (Prod.mk.inj (Option.some.inj hr)).1.symm

/-- A numeral starts with a digit. -/
theorem spell_cons {m : Numeral} (hm : m.WellFormed) :
    ∃ c cs, m.spell = c :: cs ∧ c.isDigit = true := by
  obtain ⟨c, cs, hw⟩ := List.exists_cons_of_ne_nil hm.whole_ne_nil
  exact ⟨c, cs ++ _, by rw [spell, hw, List.cons_append], hm.whole_digits c (by simp [hw])⟩

/-- A numeral is written with digits, a point, the exponent mark and signs: no bracket. -/
theorem bracket_not_mem_spell {m : Numeral} (hm : m.WellFormed) : ')' ∉ m.spell := by
  have hnot : ∀ cs : List Char, AllDigits cs → ')' ∉ cs := fun cs hcs h => by
    simpa using hcs ')' h
  unfold spell exponentSpell
  intro h
  simp only [List.mem_append] at h
  rcases h with h | h | h
  · exact hnot _ hm.whole_digits h
  · split at h
    · exact nomatch h
    · rcases List.mem_cons.mp h with h | h
      · exact absurd h (by decide)
      · exact hnot _ hm.fraction_digits h
  · split at h
    · exact nomatch h
    · rename_i neg ds he
      obtain ⟨-, hds⟩ := hm.exponent_digits (neg, ds) he
      simp only [List.mem_cons] at h
      rcases h with h | h | h
      · exact absurd h (by decide)
      · split at h <;> exact absurd h (by decide)
      · exact hnot _ hds h

end Numeral

/-! ## Float texts -/

/-- How the text of a float's magnitude reads: `inf` for the infinity, and a numeral that rounds
to the magnitude for every finite float. -/
inductive MagnitudeText (cs : List Char) (x : Float) : Prop
  | infinity : cs = ['i', 'n', 'f'] → x.toBits.toNat = infinityBits → MagnitudeText cs x
  | numeral {m : Numeral} : m.WellFormed → cs = m.spell → IsNearest m.value x.toBits.toNat →
      MagnitudeText cs x

/-- How the text of a float reads: `nan` for NaN; otherwise the text of the magnitude, after a
minus sign when the sign bit is set. -/
inductive FloatText (cs : List Char) (x : Float) : Prop
  | nan : cs = ['n', 'a', 'n'] → x.isNaN = true → FloatText cs x
  | positive : x.isNaN = false → signBit x = false → MagnitudeText cs x → FloatText cs x
  | negative {ds : List Char} : x.isNaN = false → signBit x = true → cs = '-' :: ds →
      MagnitudeText ds (Float.abs x) → FloatText cs x

namespace MagnitudeText

variable {cs : List Char} {x y : Float}

/-- The text of a magnitude starts with `i` or a digit: neither a minus sign nor `n`. -/
theorem head?_ne (h : MagnitudeText cs x) : cs.head? ≠ some '-' ∧ cs.head? ≠ some 'n' := by
  cases h with
  | infinity hcs => subst hcs; decide
  | numeral hm hcs =>
    obtain ⟨c, rest, hs, hc⟩ := Numeral.spell_cons hm
    rw [hcs, hs, List.head?_cons]
    constructor <;> rintro ⟨⟩ <;> exact absurd hc (by decide)

theorem bracket_not_mem (h : MagnitudeText cs x) : ')' ∉ cs := by
  cases h with
  | infinity hcs => subst hcs; decide
  | numeral hm hcs => exact hcs ▸ Numeral.bracket_not_mem_spell hm

/-- `inf` is no numeral: a numeral starts with a digit. -/
theorem infinity_ne_spell {m : Numeral} (hm : m.WellFormed) : ['i', 'n', 'f'] ≠ m.spell := by
  obtain ⟨c, rest, hs, hc⟩ := Numeral.spell_cons hm
  rw [hs]
  rintro ⟨⟩
  exact absurd hc (by decide)

/-- A magnitude text stands for one float only. -/
theorem unique (hx : MagnitudeText cs x) (hy : MagnitudeText cs y) : x = y := by
  cases hx with
  | infinity hcs hx =>
    cases hy with
    | infinity _ hy => exact eq_of_toBits_toNat_eq (hx.trans hy.symm)
    | numeral hm hcs' => exact absurd (hcs.symm.trans hcs') (infinity_ne_spell hm)
  | numeral hm hcs hx =>
    cases hy with
    | infinity hcs' => exact absurd (hcs'.symm.trans hcs) (infinity_ne_spell hm)
    | numeral hm' hcs' hy =>
      obtain rfl := Numeral.eq_of_spell_eq hm hm' (hcs.symm.trans hcs')
      exact eq_of_toBits_toNat_eq (isNearest_unique hx hy)

end MagnitudeText

namespace FloatText

variable {cs : List Char} {x y : Float}

theorem bracket_not_mem (h : FloatText cs x) : ')' ∉ cs := by
  cases h with
  | nan hcs => subst hcs; decide
  | positive _ _ hm => exact hm.bracket_not_mem
  | negative _ _ hcs hm =>
    subst hcs
    exact List.not_mem_cons_of_ne_of_not_mem (by decide) hm.bracket_not_mem

/-- A float text stands for one float only: the first character tells the three forms apart. -/
theorem unique (hx : FloatText cs x) (hy : FloatText cs y) : x = y := by
  cases hx with
  | nan hcs hx =>
    cases hy with
    | nan _ hy => exact Compiled.Term.eq_of_isNaN hx hy
    | positive _ _ hm => exact absurd (by rw [hcs]; rfl) hm.head?_ne.2
    | negative _ _ hds => exact absurd (List.cons.inj (hcs.symm.trans hds)).1 (by decide)
  | positive _ _ hmx =>
    cases hy with
    | nan hcs => exact absurd (by rw [hcs]; rfl) hmx.head?_ne.2
    | positive _ _ hmy => exact hmx.unique hmy
    | negative _ _ hds => exact absurd (by rw [hds]; rfl) hmx.head?_ne.1
  | negative hnx hsx hds hmx =>
    cases hy with
    | nan hcs => exact absurd (List.cons.inj (hcs.symm.trans hds)).1 (by decide)
    | positive _ _ hmy => exact absurd (by rw [hds]; rfl) hmy.head?_ne.1
    | negative hny hsy hds' hmy =>
      -- one magnitude, and a set sign bit on both sides
      obtain ⟨-, rfl⟩ := List.cons.inj (hds.symm.trans hds')
      rw [← neg_abs_of_signBit_true hnx hsx, ← neg_abs_of_signBit_true hny hsy, hmx.unique hmy]

end FloatText

section Text

variable {x : Float}

theorem text_of_isNaN (h : x.isNaN = true) : text x = "nan" := by
  unfold text Notation.render
  rw [if_pos h]
  rfl

/-- The text of a float that is not NaN is its sign followed by the text of its magnitude. -/
theorem text_eq_sign_append (hnan : x.isNaN = false) :
    text x = (if signBit x then "-" else "") ++ text (Float.abs x) := by
  unfold text Notation.render
  rw [isNaN_abs hnan, isInf_abs hnan, beq_zero_abs hnan, signBit_abs hnan, ofFloat_abs hnan]
  simp only [hnan, Bool.false_eq_true, if_false, String.empty_append]
  split_ifs <;> rfl

theorem magnitudeText_abs (hnan : x.isNaN = false) :
    MagnitudeText (text (Float.abs x)).toList (Float.abs x) := by
  have hnan' : (Float.abs x).isNaN = false := (isNaN_abs hnan).trans hnan
  by_cases hinf : x.isInf = true
  · have htext : text (Float.abs x) = "inf" := by
      simp only [text, Notation.render, hnan', isInf_abs hnan, hinf, signBit_abs hnan,
        Bool.false_eq_true, if_false, if_true, String.empty_append]
      rfl
    rw [htext]
    exact .infinity rfl (toBits_abs_of_isInf hnan hinf)
  rw [Bool.not_eq_true] at hinf
  by_cases hzero : (x == 0) = true
  · -- zero is written `0.0`
    have htext : (text (Float.abs x)).toList = pointZero.spell := by
      simp only [text, Notation.render, hnan', isInf_abs hnan, hinf, beq_zero_abs hnan, hzero,
        signBit_abs hnan, Bool.false_eq_true, if_false, if_true, String.empty_append]
      decide
    exact .numeral pointZero_wellFormed htext (isNearest_pointZero hnan hzero)
  rw [Bool.not_eq_true] at hzero
  obtain ⟨m, hm, hspell, hform⟩ := decimal_form hnan hinf hzero
  exact .numeral hm hspell.symm hform.isNearest

/-- The text of every float reads as that float. -/
theorem text_reads (x : Float) : FloatText (text x).toList x := by
  cases hnan : x.isNaN
  · rw [text_eq_sign_append hnan]
    cases hs : signBit x
    · rw [if_neg Bool.false_ne_true, String.empty_append, abs_of_signBit_false hnan hs]
      have h := magnitudeText_abs hnan
      rw [abs_of_signBit_false hnan hs] at h
      exact .positive hnan hs h
    · rw [if_pos rfl, String.toList_append]
      exact .negative hnan hs rfl (magnitudeText_abs hnan)
  · rw [text_of_isNaN hnan]
    exact .nan rfl hnan

/-- The text of a float determines the float; all NaNs are one float. -/
theorem text_injective : Function.Injective text := fun x y h =>
  (text_reads x).unique (h ▸ text_reads y)

end Text

end ExprTree.Decimal

namespace ExprTree.Operator

/-- The name of an operator reads back as the operator. -/
theorem ofText?_name (o : Operator) : ofText? o.name = some o := by
  cases o <;> decide

theorem name_injective : Function.Injective name := fun o o' h =>
  Option.some.inj ((ofText?_name o).symm.trans (h ▸ ofText?_name o'))

theorem comma_not_mem_name (o : Operator) : ',' ∉ o.name.toList := by
  cases o <;> decide

end ExprTree.Operator

namespace ExprTree.Node

open Decimal Text

/-! ## Renderings of trees -/

theorem repr_lit_append (t : Nat) (x : Float) (rest : List Char) :
    (lit t x).repr.toList ++ rest =
      "LiteralNode(value=".toList ++ ((text x).toList ++ ')' :: rest) := by
  rw [show (lit t x).repr = "LiteralNode(value=" ++ text x ++ ")" from rfl]
  simp only [String.toList_append, List.append_assoc]
  rfl

theorem repr_var_append (t : Nat) (s : String) (rest : List Char) :
    (var t s).repr.toList ++ rest =
      "VariableNode(name=".toList ++ ((quote s).toList ++ ')' :: rest) := by
  rw [show (var t s).repr = "VariableNode(name=" ++ quote s ++ ")" from rfl]
  simp only [String.toList_append, List.append_assoc]
  rfl

theorem repr_bin_append (t : Nat) (o : Operator) (l r : Node) (rest : List Char) :
    (bin t (.operator o) l r).repr.toList ++ rest =
      "BinaryExpressionNode(operator=".toList ++ (o.name.toList ++ ',' :: (" lhs=".toList ++
        (l.repr.toList ++ ',' :: (" rhs=".toList ++ (r.repr.toList ++ ')' :: rest))))) := by
  rw [show (bin t (.operator o) l r).repr = "BinaryExpressionNode(operator=" ++ o.name ++
    ", lhs=" ++ l.repr ++ ", rhs=" ++ r.repr ++ ")" from rfl]
  simp only [String.toList_append, List.append_assoc]
  rfl

/-- A rendering opens with its class name, and the class names of the three kinds differ in their
first letter. -/
theorem kind_eq_of_repr_append {a b : Node} {rest rest' : List Char}
    (h : a.repr.toList ++ rest = b.repr.toList ++ rest') : a.kind = b.kind := by
  have hhead : ∀ (n : Node) (rest : List Char),
      (n.repr.toList ++ rest).head? = n.kind.className.toList.head? := by
    intro n rest
    cases n with
    | lit t x => simp [repr_lit_append, kind, NodeKind.className]
    | var t s => simp [repr_var_append, kind, NodeKind.className]
    | bin t op l r =>
      rw [show (bin t op l r).repr = "BinaryExpressionNode(operator=" ++ operatorName op ++
        ", lhs=" ++ l.repr ++ ", rhs=" ++ r.repr ++ ")" from rfl]
      simp [String.toList_append, kind, NodeKind.className]
  have hfirst := congrArg List.head? h
  rw [hhead, hhead] at hfirst
  cases ha : a.kind <;> cases hb : b.kind <;> simp [ha, hb, NodeKind.className] at hfirst ⊢

/-- The rendering of a tree with real operators, followed by anything, determines the tree up to
tags and what follows it. The induction runs over the first tree: the class name tells the kind,
a float text ends at the closing bracket, a quoted name delimits itself, an operator name ends at
the comma, and the renderings of the children are read back in turn. -/
theorem repr_append_cancel {a b : Node} (ha : a.operatorsReal = true)
    (hb : b.operatorsReal = true) {rest rest' : List Char}
    (h : a.repr.toList ++ rest = b.repr.toList ++ rest') :
    a.sameShape b = true ∧ rest = rest' := by
  induction a generalizing b rest rest' with
  | lit t x =>
    cases b with
    | lit t' y =>
      rw [repr_lit_append, repr_lit_append] at h
      obtain ⟨hxy, hrest⟩ := append_cons_cancel (text_reads x).bracket_not_mem
        (text_reads y).bracket_not_mem (List.append_cancel_left h)
      obtain rfl := text_injective (String.toList_inj.mp hxy)
      exact ⟨by simp [sameShape], hrest⟩
    | var | bin => cases kind_eq_of_repr_append h
  | var t s =>
    cases b with
    | var t' s' =>
      rw [repr_var_append, repr_var_append] at h
      obtain ⟨rfl, hrest⟩ := quote_append_cancel (List.append_cancel_left h)
      exact ⟨by simp [sameShape], (List.cons.inj hrest).2⟩
    | lit | bin => cases kind_eq_of_repr_append h
  | bin t op l r ihl ihr =>
    obtain ⟨⟨o, rfl⟩, hl, hr⟩ := operatorsReal_bin.mp ha
    cases b with
    | bin t' op' l' r' =>
      obtain ⟨⟨o', rfl⟩, hl', hr'⟩ := operatorsReal_bin.mp hb
      rw [repr_bin_append, repr_bin_append] at h
      obtain ⟨hname, hlhs⟩ := append_cons_cancel (Operator.comma_not_mem_name o)
        (Operator.comma_not_mem_name o') (List.append_cancel_left h)
      obtain ⟨hsl, hrhs⟩ := ihl hl hl' (List.append_cancel_left hlhs)
      obtain ⟨hsr, hend⟩ := ihr hr hr' (List.append_cancel_left (List.cons.inj hrhs).2)
      obtain rfl := Operator.name_injective (String.toList_inj.mp hname)
      exact ⟨by simp [sameShape, hsl, hsr], (List.cons.inj hend).2⟩
    | lit | var => cases kind_eq_of_repr_append h

/-- Among trees whose operators are real, two render to one text exactly when they have one
shape, one operator at each binary position, one name at each variable position and one float,
bit for bit, at each literal position, whatever the names hold. -/
theorem repr_eq_repr_iff {a b : Node} (ha : a.operatorsReal = true)
    (hb : b.operatorsReal = true) : a.repr = b.repr ↔ a.sameShape b = true := by
  constructor
  · intro h
    have h' : a.repr.toList ++ [] = b.repr.toList ++ [] := by rw [h]
    exact (repr_append_cancel ha hb h').1
  · exact repr_eq_of_sameShape

/-- A variable whose name spells the rendering of a literal, beside that literal. -/
theorem repr_eq_repr_iff_name_spells_literal :
    let a := var 0 "LiteralNode(value=1.0)"
    let b := lit 1 1
    a.operatorsReal = true ∧ b.operatorsReal = true ∧
      (a.repr = b.repr ↔ a.sameShape b = true) :=
  ⟨rfl, rfl, repr_eq_repr_iff rfl rfl⟩

end ExprTree.Node
