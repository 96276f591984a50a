import ExprTree.Proofs.ValueEquality
import ExprTree.Proofs.FirstFault
import ExprTree.Expression

/-
  Equality and hashing of trees, shared subtrees included. A family of trees is coherent when a
  tag names one node throughout it (`Node.Coherent`), as it does for trees built from node
  objects. `Node.Equal` is structural equality: the same node, or two nodes of one kind whose
  fields agree, NaN literals matching and operator slots compared as values. On trees whose slots
  hold plain values the comparison never fails and decides `Node.Equal` (`beq_spec`), which is
  symmetric, and transitive on a coherent family (`Equal.symm`, `Equal.trans`);
  `beq_structural_equivalence` gathers the laws of `==` and `!=` on nodes and expressions. Slots
  compare as values, so a list in a slot equals a list holding the same NaN object.

  Every equality `Node.Equal` admits is one the hash cannot tell apart (`hash_eq_of_equal`). Nodes
  keep their hashes in a cache by tag, and a cache is right for a family when every hash it keeps
  is the hash of the nodes with that tag (`HashesSound`). The empty cache is right, and hashing a
  node of a coherent family through a right cache gives its hash and leaves a right cache
  (`hashWith_sound`), whichever parent of a shared node hashed it first. So on a coherent family
  whose slots can be hashed, trees that compare equal hash alike, whatever was hashed before
  (`hash_agrees_with_beq`).
-/

namespace ExprTree

namespace Node

/-! ## Families of trees -/

/-- The nodes of a family of trees: the roots and all their subtrees, depth first. -/
def subtreesOf (roots : List Node) : List Node :=
  roots.flatMap preorder

/-- A family of trees is coherent when a tag names one node throughout it: every position that
holds one node object carries its tag, and distinct objects carry distinct tags. -/
def Coherent (roots : List Node) : Prop :=
  ∀ x ∈ subtreesOf roots, ∀ y ∈ subtreesOf roots, x.tag = y.tag → x = y

/-- Every operator slot of a tree holds a value with the property. -/
def SlotsAll (p : Value → Prop) : Node → Prop
  | .bin _ op l r => p op ∧ l.SlotsAll p ∧ r.SlotsAll p
  | _ => True

theorem mem_preorder_self (n : Node) : n ∈ n.preorder := by
  cases n <;> simp

theorem mem_preorder_trans {k m n : Node} (hk : k ∈ m.preorder) (hm : m ∈ n.preorder) :
    k ∈ n.preorder := by
  induction n with
  | lit tag x =>
    rw [preorder_lit, List.mem_singleton] at hm
    exact hm ▸ hk
  | var tag s =>
    rw [preorder_var, List.mem_singleton] at hm
    exact hm ▸ hk
  | bin tag op l r ihl ihr =>
    rw [preorder_bin, List.mem_cons, List.mem_append] at hm
    rcases hm with rfl | hm | hm
    · exact hk
    · exact List.mem_cons_of_mem _ (List.mem_append_left _ (ihl hm))
    · exact List.mem_cons_of_mem _ (List.mem_append_right _ (ihr hm))

theorem SlotsAll.of_mem_preorder {p : Value → Prop} {m n : Node} (hn : n.SlotsAll p)
    (hm : m ∈ n.preorder) : m.SlotsAll p := by
  induction n with
  | lit tag x =>
    rw [preorder_lit, List.mem_singleton] at hm
    exact hm ▸ hn
  | var tag s =>
    rw [preorder_var, List.mem_singleton] at hm
    exact hm ▸ hn
  | bin tag op l r ihl ihr =>
    rw [preorder_bin, List.mem_cons, List.mem_append] at hm
    rcases hm with rfl | hm | hm
    · exact hn
    · exact ihl hn.2.1 hm
    · exact ihr hn.2.2 hm

theorem SlotsAll.mono {p q : Value → Prop} (hpq : ∀ v, p v → q v) {n : Node} (hn : n.SlotsAll p) :
    n.SlotsAll q := by
  induction n with
  | lit | var => trivial
  | bin tag op l r ihl ihr => exact ⟨hpq op hn.1, ihl hn.2.1, ihr hn.2.2⟩

section Family

variable {roots : List Node}

theorem mem_subtreesOf {x : Node} : x ∈ subtreesOf roots ↔ ∃ n ∈ roots, x ∈ n.preorder :=
  List.mem_flatMap

theorem mem_subtreesOf_of_mem {n : Node} (hn : n ∈ roots) : n ∈ subtreesOf roots :=
  mem_subtreesOf.mpr ⟨n, hn, mem_preorder_self n⟩

/-- The family is closed under taking subtrees. -/
theorem mem_subtreesOf_of_mem_preorder {x y : Node} (hx : x ∈ subtreesOf roots)
    (hy : y ∈ x.preorder) : y ∈ subtreesOf roots := by
  obtain ⟨n, hn, hxn⟩ := mem_subtreesOf.mp hx
  exact mem_subtreesOf.mpr ⟨n, hn, mem_preorder_trans hy hxn⟩

theorem lhs_mem_subtreesOf {t : Nat} {op : Value} {l r : Node}
    (h : bin t op l r ∈ subtreesOf roots) : l ∈ subtreesOf roots :=
  mem_subtreesOf_of_mem_preorder h (by simp [mem_preorder_self])

theorem rhs_mem_subtreesOf {t : Nat} {op : Value} {l r : Node}
    (h : bin t op l r ∈ subtreesOf roots) : r ∈ subtreesOf roots :=
  mem_subtreesOf_of_mem_preorder h (by simp [mem_preorder_self])

/-- A property of every slot of the roots holds of every slot of every node of the family. -/
theorem slotsAll_of_mem_subtreesOf {p : Value → Prop} (hroots : ∀ n ∈ roots, n.SlotsAll p)
    {x : Node} (hx : x ∈ subtreesOf roots) : x.SlotsAll p := by
  obtain ⟨n, hn, hxn⟩ := mem_subtreesOf.mp hx
  exact (hroots n hn).of_mem_preorder hxn

/-- Distinct tags make a family coherent. -/
theorem coherent_of_nodup (h : ((subtreesOf roots).map tag).Nodup) : Coherent roots :=
  List.inj_on_of_nodup_map h

/-- A cache by tag that gains an entry for a node of a coherent family: what it holds for the tag
of a node of the family is the new entry, and then the node is that one, or an older entry. This
is why a cache by tag stays right on a coherent family, whatever it keeps. -/
theorem lookup_cons_of_coherent (hcoh : Coherent roots) {β : Type} {cache : List (Nat × β)}
    {m m' : Node} (hm : m ∈ subtreesOf roots) (hm' : m' ∈ subtreesOf roots) {v w : β}
    (hk : ((m.tag, v) :: cache).lookup m'.tag = some w) :
    (m' = m ∧ w = v) ∨ cache.lookup m'.tag = some w := by
  rw [List.lookup_cons] at hk
  cases htag : m'.tag == m.tag with
  | true =>
    rw [htag] at hk
    exact .inl ⟨hcoh m' hm' m hm (beq_iff_eq.mp htag), (Option.some.inj hk).symm⟩
  | false =>
    rw [htag] at hk
    exact .inr hk

end Family

/-! ## Structural equality -/

/-- Structural equality of trees: the same node object, or two nodes of one kind whose fields
agree. Two literals agree when both are NaN or their floats are equal, two variables when they
have one name, and two binary nodes when their operator slots hold equal values and their
children are equal in turn. -/
inductive Equal : Node → Node → Prop
  | same {a b : Node} : a.tag = b.tag → Equal a b
  | lit {t t' : Nat} {x y : Float} :
      (x = Float.nan ∧ y = Float.nan) ∨ (x == y) = true → Equal (lit t x) (lit t' y)
  | var {t t' : Nat} {s : String} : Equal (var t s) (var t' s)
  | bin {t t' : Nat} {o o' : Value} {l l' r r' : Node} :
      o.eqv o' = true → Equal l l' → Equal r r' → Equal (bin t o l r) (bin t' o' l' r')

section Equal

variable {t t' : Nat}

theorem equal_lit_iff {x y : Float} (h : t ≠ t') :
    Equal (lit t x) (lit t' y) ↔ (x = Float.nan ∧ y = Float.nan) ∨ (x == y) = true := by
  constructor
  · intro he
    cases he with
    | same h' => exact absurd h' h
    | lit h' => exact h'
  · exact .lit

theorem equal_var_iff {s s' : String} (h : t ≠ t') : Equal (var t s) (var t' s') ↔ s = s' := by
  constructor
  · intro he
    cases he with
    | same h' => exact absurd h' h
    | var => rfl
  · rintro rfl
    exact .var

theorem equal_bin_iff {o o' : Value} {l l' r r' : Node} (h : t ≠ t') :
    Equal (bin t o l r) (bin t' o' l' r') ↔ o.eqv o' = true ∧ Equal l l' ∧ Equal r r' := by
  constructor
  · intro he
    cases he with
    | same h' => exact absurd h' h
    | bin ho hl hr => exact ⟨ho, hl, hr⟩
  · rintro ⟨ho, hl, hr⟩
    exact .bin ho hl hr

/-- Nodes of different kinds are equal only as one object. -/
theorem not_equal_of_kind_ne {a b : Node} (ht : a.tag ≠ b.tag) (hk : a.kind ≠ b.kind) :
    ¬Equal a b := by
  intro he
  cases he with
  | same h => exact ht h
  | lit | var | bin => exact hk rfl

theorem litMatch_symm {x y : Float} (h : (x = Float.nan ∧ y = Float.nan) ∨ (x == y) = true) :
    (y = Float.nan ∧ x = Float.nan) ∨ (y == x) = true :=
  h.imp And.symm fun h => Decimal.beq_comm x y ▸ h

/-- Two NaNs match, and a NaN is equal to nothing, so matching literals chain. -/
theorem litMatch_trans {x y z : Float}
    (hxy : (x = Float.nan ∧ y = Float.nan) ∨ (x == y) = true)
    (hyz : (y = Float.nan ∧ z = Float.nan) ∨ (y == z) = true) :
    (x = Float.nan ∧ z = Float.nan) ∨ (x == z) = true := by
  rcases hxy with ⟨hx, hy⟩ | hxy <;> rcases hyz with ⟨hy', hz⟩ | hyz
  · exact .inl ⟨hx, hz⟩
  · exact absurd hy (Decimal.ne_nan_of_beq hyz)
  · exact absurd hy' (Decimal.ne_nan_of_beq (Decimal.beq_comm x y ▸ hxy))
  · exact .inr (Decimal.beq_trans hxy hyz)

theorem Equal.refl (a : Node) : Equal a a :=
  .same rfl

theorem Equal.symm {a b : Node} (ha : a.SlotsAll Value.Plain) (hb : b.SlotsAll Value.Plain)
    (h : Equal a b) : Equal b a := by
  induction h with
  | same h => exact .same h.symm
  | lit h => exact .lit (litMatch_symm h)
  | var => exact .var
  | bin ho _ _ ihl ihr =>
    obtain ⟨hpo, hl, hr⟩ := ha
    obtain ⟨hpo', hl', hr'⟩ := hb
    exact .bin (Value.eqv_comm hpo hpo' ▸ ho) (ihl hl hl') (ihr hr hr')

variable {roots : List Node}

/-- In a coherent family, a node equal to one object is equal to every position holding it. -/
theorem Equal.of_tag_eq_right (hcoh : Coherent roots) {a b c : Node} (hb : b ∈ subtreesOf roots)
    (hc : c ∈ subtreesOf roots) (hab : Equal a b) (hbc : b.tag = c.tag) : Equal a c :=
  hcoh b hb c hc hbc ▸ hab

/-- Structural equality is transitive on a coherent family with plain operator slots. Sharing is
what makes coherence needed: the comparison trusts one tag to name one node. -/
theorem Equal.trans (hcoh : Coherent roots) (hplain : ∀ n ∈ roots, n.SlotsAll Value.Plain)
    {a b c : Node} (ha : a ∈ subtreesOf roots) (hb : b ∈ subtreesOf roots)
    (hc : c ∈ subtreesOf roots) (hab : Equal a b) (hbc : Equal b c) : Equal a c := by
  induction hab generalizing c with
  | same h => exact (hcoh _ ha _ hb h).symm ▸ hbc
  | lit h =>
    cases hbc with
    | same h' => exact Equal.of_tag_eq_right hcoh hb hc (.lit h) h'
    | lit h' => exact .lit (litMatch_trans h h')
  | var =>
    cases hbc with
    | same h' => exact Equal.of_tag_eq_right hcoh hb hc .var h'
    | var => exact .var
  | bin ho hl hr ihl ihr =>
    cases hbc with
    | same h' => exact Equal.of_tag_eq_right hcoh hb hc (.bin ho hl hr) h'
    | bin ho' hl' hr' =>
      -- the three slots are plain, and the children stay in the family
      have hpa := (slotsAll_of_mem_subtreesOf hplain ha).1
      have hpb := (slotsAll_of_mem_subtreesOf hplain hb).1
      have hpc := (slotsAll_of_mem_subtreesOf hplain hc).1
      exact .bin (Value.eqv_trans hpa hpb hpc ho ho')
        (ihl (lhs_mem_subtreesOf ha) (lhs_mem_subtreesOf hb) (lhs_mem_subtreesOf hc) hl')
        (ihr (rhs_mem_subtreesOf ha) (rhs_mem_subtreesOf hb) (rhs_mem_subtreesOf hc) hr')

end Equal

/-! ## The comparison decides structural equality -/

section Compare

variable {t t' : Nat}

theorem beq_of_tag_eq {a b : Node} (h : a.tag = b.tag) : a.beq b = .ok true := by
  unfold beq
  rw [if_pos (beq_iff_eq.mpr h)]
  rfl

theorem beq_lit (x y : Float) (h : t ≠ t') :
    (lit t x).beq (lit t' y) = .ok ((x.isNaN && y.isNaN) || x == y) := by
  unfold beq
  rw [if_neg (by simpa [tag] using h)]
  rfl

theorem beq_var (s s' : String) (h : t ≠ t') : (var t s).beq (var t' s') = .ok (s == s') := by
  unfold beq
  rw [if_neg (by simpa [tag] using h)]
  rfl

/-- Binary nodes whose slots and children compare without a fault compare as the conjunction. -/
theorem beq_bin {o o' : Value} {l l' r r' : Node} {e₀ e₁ e₂ : Bool} (h : t ≠ t')
    (ho : o.eqTruth o' = .ok e₀) (hl : l.beq l' = .ok e₁) (hr : r.beq r' = .ok e₂) :
    (bin t o l r).beq (bin t' o' l' r') = .ok (e₀ && e₁ && e₂) := by
  rw [beq, if_neg (by simpa [tag] using h)]
  simp only [ho, hl, hr]
  cases e₀ <;> cases e₁ <;> rfl

theorem beq_of_kind_ne {a b : Node} (ht : a.tag ≠ b.tag) (hk : a.kind ≠ b.kind) :
    a.beq b = .ok false := by
  unfold beq
  rw [if_neg (by simpa using ht)]
  cases a <;> cases b <;> first | rfl | exact absurd rfl hk

theorem beq_spec_of_tag_eq {a b : Node} (h : a.tag = b.tag) :
    ∃ e, a.beq b = .ok e ∧ (e = true ↔ Equal a b) :=
  ⟨true, beq_of_tag_eq h, iff_of_true rfl (.same h)⟩

theorem beq_spec_of_kind_ne {a b : Node} (hk : a.kind ≠ b.kind) :
    ∃ e, a.beq b = .ok e ∧ (e = true ↔ Equal a b) := by
  by_cases ht : a.tag = b.tag
  · exact beq_spec_of_tag_eq ht
  · exact ⟨false, beq_of_kind_ne ht hk, iff_of_false Bool.false_ne_true
      (not_equal_of_kind_ne ht hk)⟩

/-- On trees whose operator slots hold plain values the comparison always decides, and what it
decides is structural equality. -/
theorem beq_spec {a b : Node} (ha : a.SlotsAll Value.Plain) (hb : b.SlotsAll Value.Plain) :
    ∃ e, a.beq b = .ok e ∧ (e = true ↔ Equal a b) := by
  induction a generalizing b with
  | lit t x =>
    cases b with
    | lit t' y =>
      by_cases ht : t = t'
      · exact beq_spec_of_tag_eq ht
      refine ⟨_, beq_lit x y ht, ?_⟩
      rw [equal_lit_iff ht]
      simp [Float.isNaN_eq_decide_eq_nan]
    | var | bin => exact beq_spec_of_kind_ne (by simp [kind])
  | var t s =>
    cases b with
    | var t' s' =>
      by_cases ht : t = t'
      · exact beq_spec_of_tag_eq ht
      exact ⟨_, beq_var s s' ht, by rw [equal_var_iff ht, beq_iff_eq]⟩
    | lit | bin => exact beq_spec_of_kind_ne (by simp [kind])
  | bin t o l r ihl ihr =>
    cases b with
    | bin t' o' l' r' =>
      by_cases ht : t = t'
      · exact beq_spec_of_tag_eq ht
      obtain ⟨ho, hl, hr⟩ := ha
      obtain ⟨ho', hl', hr'⟩ := hb
      -- the slots compare as values, and each child by its own comparison
      obtain ⟨e₁, h₁, he₁⟩ := ihl hl hl'
      obtain ⟨e₂, h₂, he₂⟩ := ihr hr hr'
      refine ⟨_, beq_bin ht (Value.eqTruth_of_plain ho ho') h₁ h₂, ?_⟩
      rw [equal_bin_iff ht, ← he₁, ← he₂, Bool.and_eq_true, Bool.and_eq_true, and_assoc]
    | lit | var => exact beq_spec_of_kind_ne (by simp [kind])

theorem beq_eq_true_iff {a b : Node} (ha : a.SlotsAll Value.Plain) (hb : b.SlotsAll Value.Plain) :
    a.beq b = .ok true ↔ Equal a b := by
  obtain ⟨e, he, hiff⟩ := beq_spec ha hb
  rw [he, Except.ok.injEq, hiff]

/-- The comparison of plain-slotted trees gives one answer from either side. -/
theorem beq_comm {a b : Node} (ha : a.SlotsAll Value.Plain) (hb : b.SlotsAll Value.Plain) :
    a.beq b = b.beq a := by
  obtain ⟨e, he, hiff⟩ := beq_spec ha hb
  obtain ⟨e', he', hiff'⟩ := beq_spec hb ha
  have hsymm : Equal a b ↔ Equal b a := ⟨Equal.symm ha hb, Equal.symm hb ha⟩
  rw [he, he', Bool.eq_iff_iff.mpr (hiff.trans (hsymm.trans hiff'.symm))]

end Compare

/-- Tree equality is structural equality, and an equivalence. Take a coherent family of trees,
shared subtrees allowed, whose operator slots hold operators or plain values in their place. Two
of its nodes always compare without a fault; `!=` is the negation of `==`; `==` holds exactly
when the nodes are structurally equal (`Equal`); it gives one answer from either side, and it is
reflexive and transitive. Expressions compare as their roots. A node never equals an expression
or another value, from either side. An operator in a slot equals exactly the numbers whose value
is its code, and a list in a slot equals the lists whose items are, one by one, the same objects
as its own or equal values. -/
theorem beq_structural_equivalence {roots : List Node} (hcoh : Coherent roots)
    (hplain : ∀ n ∈ roots, n.SlotsAll Value.Plain) :
    (∀ a ∈ subtreesOf roots, ∀ b ∈ subtreesOf roots, ∃ e,
      (Subject.node a).beq (.node b) = .ok e ∧ (Subject.node a).bne (.node b) = .ok (!e) ∧
      (e = true ↔ Equal a b) ∧ (Subject.node b).beq (.node a) = .ok e ∧
      (Subject.expression ⟨a⟩).beq (.expression ⟨b⟩) = .ok e) ∧
    (∀ a ∈ subtreesOf roots, a.beq a = .ok true) ∧
    (∀ a ∈ subtreesOf roots, ∀ b ∈ subtreesOf roots, ∀ c ∈ subtreesOf roots,
      a.beq b = .ok true → b.beq c = .ok true → a.beq c = .ok true) ∧
    (∀ (a : Node) (x : Expression) (v : Value),
      (Subject.node a).beq (.expression x) = .ok false ∧
      (Subject.expression x).beq (.node a) = .ok false ∧
      (Subject.node a).beq (.value v) = .ok false ∧ (Subject.value v).beq (.node a) = .ok false) ∧
    (∀ (o : Operator) (v : Value),
      (Value.operator o).eqv v = true ↔ v.isNumber = true ∧ v.wholeNumber? = some (o.code : Int)) ∧
    (∀ xs ys : List Value, (Value.list xs).eqv (.list ys) = true ↔
      List.Forall₂ (fun x y => (x.sameObject y || x.eqv y) = true) xs ys) := by
  have hslots : ∀ x ∈ subtreesOf roots, x.SlotsAll Value.Plain :=
    fun x hx => slotsAll_of_mem_subtreesOf hplain hx
  refine ⟨?_, fun a _ => beq_of_tag_eq rfl, ?_, fun _ _ _ => ⟨rfl, rfl, rfl, rfl⟩,
    fun _ _ => Value.eqv_operator_iff, fun _ _ => Value.eqv_list_iff⟩
  · intro a ha b hb
    obtain ⟨e, he, hiff⟩ := beq_spec (hslots a ha) (hslots b hb)
    have hne : (Subject.node a).bne (.node b) = .ok (!e) := by
      simp only [Subject.bne, Subject.beq, he]
      rfl
    have hba : (Subject.node b).beq (.node a) = .ok e :=
      (beq_comm (hslots b hb) (hslots a ha)).trans he
    exact ⟨e, he, hne, hiff, hba, he⟩
  · intro a ha b hb c hc hab hbc
    rw [beq_eq_true_iff (hslots a ha) (hslots b hb)] at hab
    rw [beq_eq_true_iff (hslots b hb) (hslots c hc)] at hbc
    exact (beq_eq_true_iff (hslots a ha) (hslots c hc)).mpr (Equal.trans hcoh hplain ha hb hc hab hbc)

/-- Two nodes whose slots were overwritten with lists compare equal when the lists hold, item by
item, one NaN object, and the operator `MULTIPLY` beside the float `2`, its code. -/
theorem beq_structural_equivalence_nan_object :
    let a := bin 0 (.list [.nanObject 0, .operator .multiply]) (lit 1 2) (var 2 "x")
    let b := bin 3 (.list [.nanObject 0, .float 2]) (lit 4 2) (var 5 "x")
    Coherent [a, b] ∧ (∀ n ∈ [a, b], n.SlotsAll Value.Plain) ∧ Equal a b ∧
      (Subject.node a).bne (.node b) = .ok false := by
  intro a b
  have hcoh : Coherent [a, b] := coherent_of_nodup (by decide)
  have hplain : ∀ n ∈ [a, b], n.SlotsAll Value.Plain := by
    simp only [List.mem_cons, List.not_mem_nil, or_false, forall_eq_or_imp, forall_eq]
    refine ⟨⟨.list ?_, trivial, trivial⟩, ⟨.list ?_, trivial, trivial⟩⟩ <;>
      simp only [List.mem_cons, List.not_mem_nil, or_false, forall_eq_or_imp, forall_eq] <;>
      exact ⟨.nanObject 0, by constructor⟩
  have hslot : (Value.list [.nanObject 0, .operator .multiply]).eqv (.list [.nanObject 0, .float 2]) =
      true := by
    rw [Value.eqv_list_iff]
    refine .cons rfl (.cons ?_ .nil)
    rw [Bool.or_eq_true]
    exact .inr (Value.eqv_operator_iff.mpr ⟨rfl, by decide +kernel⟩)
  have hab : Equal a b := .bin hslot (.lit (.inr (by decide +kernel))) .var
  obtain ⟨hpair, -⟩ := beq_structural_equivalence hcoh hplain
  obtain ⟨e, -, hne, hiff, -⟩ :=
    hpair a (mem_subtreesOf_of_mem (by simp)) b (mem_subtreesOf_of_mem (by simp))
  rw [hiff.mpr hab] at hne
  exact ⟨hcoh, hplain, hab, hne⟩

/-! ## Hashes -/

section Hash

variable {roots : List Node}

theorem hash_ok {a : Node} (ha : a.SlotsAll Value.IsHashable) : ∃ k, a.hash = .ok k := by
  induction a with
  | lit tag x =>
    obtain ⟨k, hk⟩ := Value.isHashable_float x
    by_cases hx : x.isNaN = true
    · exact ⟨_, by simp only [hash, hx, ↓reduceIte]; rfl⟩
    · exact ⟨_, by simp only [hash, hx, Bool.false_eq_true, ↓reduceIte, hk]; rfl⟩
  | var tag s => exact ⟨_, rfl⟩
  | bin tag op l r ihl ihr =>
    obtain ⟨⟨ko, hko⟩, hl, hr⟩ := ha
    obtain ⟨kl, hkl⟩ := ihl hl
    obtain ⟨kr, hkr⟩ := ihr hr
    exact ⟨_, by simp only [hash, hkl, hkr, hko]; rfl⟩

/-- Literals that match hash alike: two NaNs by the NaN seed, equal floats through their
values. -/
theorem hash_lit_eq {t t' : Nat} {x y : Float}
    (h : (x = Float.nan ∧ y = Float.nan) ∨ (x == y) = true) : (lit t x).hash = (lit t' y).hash := by
  rcases h with ⟨rfl, rfl⟩ | h
  · rfl
  · have hx : x.isNaN = false := by
      simpa [Float.isNaN_eq_decide_eq_nan] using Decimal.ne_nan_of_beq h
    have hy : y.isNaN = false := by
      simpa [Float.isNaN_eq_decide_eq_nan] using Decimal.ne_nan_of_beq (Decimal.beq_comm x y ▸ h)
    have hv : (Value.float x).hash = (Value.float y).hash :=
      Value.hash_eq_of_eqv (Value.isHashable_float x) (Value.isHashable_float y)
        (by rw [Value.eqv_of_isNumber rfl]; exact h)
    simp only [hash, hx, hy, Bool.false_eq_true, ↓reduceIte, hv]

/-- Equal nodes of a coherent family whose slots can be hashed have one hash: each kind of
equality the comparison admits (one object, NaN literals, equal floats, equal slot values) is
one the hash cannot tell apart. -/
theorem hash_eq_of_equal (hcoh : Coherent roots) {a b : Node} (ha : a ∈ subtreesOf roots)
    (hb : b ∈ subtreesOf roots) (hha : a.SlotsAll Value.IsHashable)
    (hhb : b.SlotsAll Value.IsHashable) (h : Equal a b) : a.hash = b.hash := by
  induction h with
  | same h => rw [hcoh _ ha _ hb h]
  | lit h => exact hash_lit_eq h
  | var => rfl
  | bin ho _ _ ihl ihr =>
    obtain ⟨hpo, hl, hr⟩ := hha
    obtain ⟨hpo', hl', hr'⟩ := hhb
    have hl := ihl (lhs_mem_subtreesOf ha) (lhs_mem_subtreesOf hb) hl hl'
    have hr := ihr (rhs_mem_subtreesOf ha) (rhs_mem_subtreesOf hb) hr hr'
    simp only [hash, hl, hr, Value.hash_eq_of_eqv hpo hpo' ho]

/-! ### Kept hashes -/

/-- A cache of hashes is right for a family of trees when each hash it keeps for a tag is the
hash of every node of the family with that tag. -/
def HashesSound (roots : List Node) (cache : List (Nat × UInt64)) : Prop :=
  ∀ k h, cache.lookup k = some h → ∀ m ∈ subtreesOf roots, m.tag = k → m.hash = .ok h

theorem hashesSound_nil (roots : List Node) : HashesSound roots [] := by
  intro k h hk
  cases hk

/-- Keeping the hash of a node of a coherent family keeps a right cache right: every node of the
family with its tag is that node. -/
theorem HashesSound.cons (hcoh : Coherent roots) {cache : List (Nat × UInt64)}
    (hc : HashesSound roots cache) {m : Node} (hm : m ∈ subtreesOf roots) {h : UInt64}
    (hh : m.hash = .ok h) : HashesSound roots ((m.tag, h) :: cache) := by
  rintro _ h' hk m' hm' rfl
  rcases lookup_cons_of_coherent hcoh hm hm' hk with ⟨rfl, rfl⟩ | hk
  · exact hh
  · exact hc _ h' hk m' hm' rfl

theorem hashWith_of_lookup {n : Node} {cache : List (Nat × UInt64)} {h : UInt64}
    (hk : cache.lookup n.tag = some h) : n.hashWith cache = (.ok h, cache) := by
  rw [hashWith.eq_def, hk]

/-- A node found in a right cache gives its hash, and the cache stays as it is. -/
theorem HashesSound.hashWith_of_lookup {cache : List (Nat × UInt64)}
    (hc : HashesSound roots cache) {m : Node} (hm : m ∈ subtreesOf roots) {h : UInt64}
    (hk : cache.lookup m.tag = some h) : m.hashWith cache = (m.hash, cache) := by
  rw [Node.hashWith_of_lookup hk, hc m.tag h hk m hm rfl]

/-- A leaf hashed through a right cache gives its hash and leaves the cache right. -/
theorem HashesSound.hashWith_leaf (hcoh : Coherent roots) {cache : List (Nat × UInt64)}
    (hc : HashesSound roots cache) {n : Node} (hn : n ∈ subtreesOf roots)
    (hleaf : n.children = []) :
    ∃ c, n.hashWith cache = (n.hash, c) ∧ HashesSound roots c := by
  have hslots : n.SlotsAll Value.IsHashable := by
    cases n with
    | bin => cases hleaf
    | lit | var => trivial
  obtain ⟨h, hh⟩ := hash_ok hslots
  cases hk : cache.lookup n.tag with
  | some h' => exact ⟨cache, hc.hashWith_of_lookup hn hk, hc⟩
  | none =>
    refine ⟨(n.tag, h) :: cache, ?_, hc.cons hcoh hn hh⟩
    cases n with
    | bin => cases hleaf
    | lit | var =>
      rw [hashWith.eq_def]
      simp only [Node.tag] at hk ⊢
      simp only [hk, hh]

/-- Hashing a node of a coherent family through a right cache gives its hash, and leaves a right
cache. The induction follows the computation: a node found in the cache was hashed right; any
other hashes its children, the right one through the cache the left one leaves, and keeps a hash
only when it has one, while a fault passes up with the cache as it stands. -/
theorem hashWith_sound (hcoh : Coherent roots) {m : Node} (hm : m ∈ subtreesOf roots)
    {cache : List (Nat × UInt64)} (hc : HashesSound roots cache) :
    ∃ c, m.hashWith cache = (m.hash, c) ∧ HashesSound roots c := by
  induction m generalizing cache with
  | lit tag x => exact hc.hashWith_leaf hcoh hm rfl
  | var tag s => exact hc.hashWith_leaf hcoh hm rfl
  | bin tag op l r ihl ihr =>
    cases hk : cache.lookup tag with
    | some h => exact ⟨cache, hc.hashWith_of_lookup hm hk, hc⟩
    | none =>
      obtain ⟨c₁, el, hc₁⟩ := ihl (lhs_mem_subtreesOf hm) hc
      rw [hashWith.eq_def]
      simp only [Node.tag, hk, el]
      cases hlh : l.hash with
      | error f => exact ⟨c₁, by simp [hash, hlh, bind, Except.bind], hc₁⟩
      | ok hl =>
        obtain ⟨c₂, er, hc₂⟩ := ihr (rhs_mem_subtreesOf hm) hc₁
        simp only [er]
        cases hrh : r.hash with
        | error f => exact ⟨c₂, by simp [hash, hlh, hrh, bind, Except.bind], hc₂⟩
        | ok hr =>
          cases hoh : op.hash with
          | error f => exact ⟨c₂, by simp [hash, hlh, hrh, hoh, bind, Except.bind], hc₂⟩
          | ok ho =>
            have hh : (bin tag op l r).hash =
                .ok (Value.mix (Value.mix (Value.mix (kindSeed .binary) ho) hl) hr) := by
              simp only [hash, hlh, hrh, hoh]
              rfl
            exact ⟨_, by rw [hh]; rfl, hc₂.cons hcoh hm hh⟩

/-- Hashing agrees with equality, whatever was hashed before. Take a coherent family of trees,
shared subtrees allowed, whose operator slots hold operators or other values that can be hashed.
The empty cache is right for it, and hashing a node of the family through a right cache leaves a
right cache, so the hashes nodes keep are right whichever nodes were hashed before and in
whichever order. From a right cache, two nodes of the family that compare equal, hashed one after
the other, both hash, and to one hash; so do two expressions over them. -/
theorem hash_agrees_with_beq (hcoh : Coherent roots)
    (hhash : ∀ n ∈ roots, n.SlotsAll Value.IsHashable) :
    HashesSound roots [] ∧
    (∀ n ∈ subtreesOf roots, ∀ cache, HashesSound roots cache →
      HashesSound roots (n.hashWith cache).2) ∧
    ∀ a ∈ subtreesOf roots, ∀ b ∈ subtreesOf roots, ∀ cache, HashesSound roots cache →
      ((Subject.node a).beq (.node b) = .ok true →
        ∃ k, ((Subject.node a).hashWith cache).1 = .ok k ∧
          ((Subject.node b).hashWith ((Subject.node a).hashWith cache).2).1 = .ok k) ∧
      ((Subject.expression ⟨a⟩).beq (.expression ⟨b⟩) = .ok true →
        ∃ k, ((Subject.expression ⟨a⟩).hashWith cache).1 = .ok k ∧
          ((Subject.expression ⟨b⟩).hashWith ((Subject.expression ⟨a⟩).hashWith cache).2).1 =
            .ok k) := by
  refine ⟨hashesSound_nil roots, fun n hn cache hc => ?_, fun a ha b hb cache hc => ?_⟩
  · obtain ⟨c, hn', hc'⟩ := hashWith_sound hcoh hn hc
    rw [hn']
    exact hc'
  have hha := slotsAll_of_mem_subtreesOf hhash ha
  have hhb := slotsAll_of_mem_subtreesOf hhash hb
  -- an expression compares and hashes as its root, so one argument serves both
  have hroots : a.beq b = .ok true →
      ∃ k, (a.hashWith cache).1 = .ok k ∧ (b.hashWith (a.hashWith cache).2).1 = .ok k := by
    intro h
    have hab : Equal a b :=
      (beq_eq_true_iff (hha.mono fun _ => Value.plain_of_isHashable)
        (hhb.mono fun _ => Value.plain_of_isHashable)).mp h
    obtain ⟨k, hk⟩ := hash_ok hha
    obtain ⟨c, ea, hc'⟩ := hashWith_sound hcoh ha hc
    obtain ⟨c', eb, -⟩ := hashWith_sound hcoh hb hc'
    refine ⟨k, by rw [ea, hk], ?_⟩
    rw [ea, eb, ← hash_eq_of_equal hcoh ha hb hha hhb hab, hk]
  exact ⟨hroots, hroots⟩

end Hash

/-- A multiplication node over `0` and a NaN node `x`, and a node whose slot holds the float `2`
over `-0` and the same `x`, compare equal and hash alike: hashing the first keeps the hash of
`x`, which the second then reads. -/
theorem hash_agrees_with_beq_shared_nan :
    let x := lit 5 Float.nan
    let a := bin 0 (.operator .multiply) (lit 1 0) x
    let b := bin 3 (.float 2) (lit 4 (-0)) x
    Coherent [a, b] ∧ (∀ n ∈ [a, b], n.SlotsAll Value.IsHashable) ∧
      (Subject.node a).beq (.node b) = .ok true ∧
      ∃ k, ((Subject.node a).hashWith []).1 = .ok k ∧
        ((Subject.node b).hashWith ((Subject.node a).hashWith []).2).1 = .ok k := by
  intro x a b
  have hcoh : Coherent [a, b] := by
    intro m hm n hn hmn
    simp only [subtreesOf, a, b, x, List.flatMap_cons, List.flatMap_nil, List.append_nil,
      preorder_bin, preorder_lit, List.mem_cons, List.mem_append, List.not_mem_nil,
      or_false, or_assoc] at hm hn
    rcases hm with rfl | rfl | rfl | rfl | rfl | rfl <;>
      rcases hn with rfl | rfl | rfl | rfl | rfl | rfl <;> simp_all [Node.tag]
  have hhash : ∀ n ∈ [a, b], n.SlotsAll Value.IsHashable := by
    simp only [List.mem_cons, List.not_mem_nil, or_false, forall_eq_or_imp, forall_eq]
    exact ⟨⟨⟨_, rfl⟩, trivial, trivial⟩, ⟨Value.isHashable_float 2, trivial, trivial⟩⟩
  have hab : Equal a b :=
    .bin (Value.eqv_operator_iff.mpr ⟨rfl, by decide +kernel⟩) (.lit (.inr (by decide +kernel)))
      (.same rfl)
  have hplain : ∀ n ∈ [a, b], n.SlotsAll Value.Plain :=
    fun n h => (hhash n h).mono fun _ => Value.plain_of_isHashable
  have hbeq : a.beq b = .ok true :=
    (beq_eq_true_iff (hplain a (by simp)) (hplain b (by simp))).mpr hab
  have hmem : ∀ n ∈ [a, b], n ∈ subtreesOf [a, b] := fun _ h => mem_subtreesOf_of_mem h
  obtain ⟨-, -, hpair⟩ := hash_agrees_with_beq hcoh hhash
  obtain ⟨hnode, -⟩ :=
    hpair a (hmem a (by simp)) b (hmem b (by simp)) [] (hashesSound_nil _)
  exact ⟨hcoh, hhash, hbeq, hnode hbeq⟩

end Node

end ExprTree
