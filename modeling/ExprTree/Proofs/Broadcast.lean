import ExprTree.Tensor.Basic
import Mathlib

/-
  Broadcasting, read from the last axis. Shapes are compared axis by axis from their last axis, a
  missing axis counting as one of length 1 (`dimFromEnd`), and shape `a` broadcasts to shape `s`
  (`Fits a s`) when each of its axes has length 1 or that of `s`. `Fits` is a partial order, and
  `broadcastShape?` gives the least shape that two shapes both broadcast to, or nothing when they
  have none in common (`fits_of_broadcastShape?`, `broadcastShape?_fits`,
  `broadcastShape?_isSome`). So the joint shape of a list of shapes, broadcast one after another
  (`broadcastShapes?`), is their least bound (`broadcastShapes?_eq_some_iff`): it depends only on
  which shapes are listed (`broadcastShapes?_congr`) and splits over an append
  (`broadcastShapes?_append`), which is how the pairwise broadcasts at the nodes of a tree give the
  joint shape of its leaves.

  A tensor read at an index of a shape it broadcasts to reads its own index there, the projection
  (`project`). Projecting through a shape in between is projecting at once (`project_project`), so
  a tensor built over a broadcast shape and read at an index of a larger one reads each operand at
  that index (`get_ofFn`, `get_map`, `get_zipWith?`). Row-major offsets and the list of indices
  are inverse to each other (`offset_getElem_indices`, `ofFn_get`).
-/

namespace ExprTree

namespace Tensor

/-! ## Shapes seen from their last axis -/

/-- The length of the `k`-th axis of a shape counted from its last axis, and `1` past its first:
shapes broadcast aligned at their last axes, a missing axis counting as one of length 1. -/
def dimFromEnd (s : List Nat) (k : Nat) : Nat :=
  s.reverse.getD k 1

/-- The `k`-th coordinate of a multi-index counted from its last coordinate. -/
def coordFromEnd (ix : List Nat) (k : Nat) : Nat :=
  ix.reverse.getD k 0

theorem dimFromEnd_of_le {s : List Nat} {k : Nat} (h : s.length ≤ k) : dimFromEnd s k = 1 :=
  List.getD_eq_default _ _ (by simpa using h)

theorem dimFromEnd_eq_getD {s : List Nat} {k : Nat} (h : k < s.length) :
    dimFromEnd s k = s.getD (s.length - 1 - k) 1 :=
  List.getD_reverse k h ▸ rfl

theorem coordFromEnd_eq_getD {ix : List Nat} {k : Nat} (h : k < ix.length) :
    coordFromEnd ix k = ix.getD (ix.length - 1 - k) 0 :=
  List.getD_reverse k h ▸ rfl

/-- Lists of one length that agree from the end agree. -/
theorem eq_of_reverse_getD {l₁ l₂ : List Nat} (d : Nat) (hlen : l₁.length = l₂.length)
    (h : ∀ k < l₁.length, l₁.reverse.getD k d = l₂.reverse.getD k d) : l₁ = l₂ := by
  apply List.reverse_injective
  apply List.ext_getElem (by simpa using hlen)
  intro k hk₁ hk₂
  have hk := h k (by simpa using hk₁)
  rwa [List.getD_eq_getElem _ _ hk₁, List.getD_eq_getElem _ _ hk₂] at hk

/-- Padding a shape in front with axes of length 1 does not change it from the end. -/
theorem dimFromEnd_replicate_append (m : Nat) (s : List Nat) (k : Nat) :
    dimFromEnd (List.replicate m 1 ++ s) k = dimFromEnd s k := by
  unfold dimFromEnd
  rw [List.reverse_append, List.reverse_replicate]
  by_cases hk : k < s.reverse.length
  · exact List.getD_append _ _ _ _ hk
  · have hk' := Nat.le_of_not_lt hk
    rw [List.getD_append_right _ _ _ _ hk', List.getD_eq_default s.reverse 1 hk']
    by_cases hm : k - s.reverse.length < m
    · exact List.getD_replicate 1 hm
    · exact List.getD_eq_default _ _ (by simpa using Nat.le_of_not_lt hm)

/-! ## Broadcasting one shape to another -/

/-- Shape `a` broadcasts to shape `s`: it has no more axes, and each of its axes, counted from the
end, has length 1 or the length of that axis of `s`. -/
def Fits (a s : List Nat) : Prop :=
  a.length ≤ s.length ∧ ∀ k, dimFromEnd a k = 1 ∨ dimFromEnd a k = dimFromEnd s k

theorem Fits.refl (s : List Nat) : Fits s s :=
  ⟨Nat.le_refl _, fun _ => .inr rfl⟩

theorem nil_fits (s : List Nat) : Fits [] s :=
  ⟨Nat.zero_le _, fun _ => .inl rfl⟩

theorem Fits.trans {a s u : List Nat} (has : Fits a s) (hsu : Fits s u) : Fits a u := by
  refine ⟨Nat.le_trans has.1 hsu.1, fun k => ?_⟩
  rcases has.2 k with h | h
  · exact .inl h
  · rcases hsu.2 k with h' | h'
    · exact .inl (h.trans h')
    · exact .inr (h.trans h')

theorem Fits.antisymm {a s : List Nat} (has : Fits a s) (hsa : Fits s a) : a = s := by
  refine eq_of_reverse_getD 1 (Nat.le_antisymm has.1 hsa.1) fun k _ => ?_
  show dimFromEnd a k = dimFromEnd s k
  rcases has.2 k with h | h
  · rcases hsa.2 k with h' | h'
    · rw [h, h']
    · exact h'.symm
  · exact h

/-! ## Broadcasting two shapes -/

/-- The length two aligned axes broadcast to: a length 1 takes the other length, and two other
lengths must agree. -/
def axisJoin (x y : Nat) : Option Nat :=
  if x = 1 then some y else if y = 1 ∨ y = x then some x else none

/-- `mapM` in `Option` succeeds exactly when every entry succeeds, with the entries' results. -/
theorem mapM_eq_some_iff {α β : Type} {f : α → Option β} {l : List α} {r : List β} :
    l.mapM f = some r ↔ List.Forall₂ (fun a b => f a = some b) l r := by
  induction l generalizing r with
  | nil => cases r <;> simp [pure]
  | cons a l ih =>
    rw [List.mapM_cons]
    cases ha : f a <;> cases hl : l.mapM f <;> cases r <;> simp_all [bind, pure]

theorem reverse_zip {xs ys : List Nat} (h : xs.length = ys.length) :
    (xs.zip ys).reverse = xs.reverse.zip ys.reverse :=
  List.reverse_zipWith h

/-- A result relates entry by entry to two lists of one length exactly when it has their length
and relates at each position. -/
theorem forall₂_zip_iff_getD {g : Nat → Nat → Option Nat} {xs ys r : List Nat}
    (hlen : xs.length = ys.length) :
    List.Forall₂ (fun p z => g p.1 p.2 = some z) (xs.zip ys) r ↔
      r.length = xs.length ∧ ∀ k < xs.length, g (xs.getD k 1) (ys.getD k 1) = some (r.getD k 1) := by
  induction xs generalizing ys r with
  | nil =>
    obtain rfl : ys = [] := List.eq_nil_of_length_eq_zero hlen.symm
    cases r <;> simp
  | cons x xs ih =>
    obtain ⟨y, ys, rfl⟩ := List.exists_cons_of_length_eq_add_one hlen.symm
    cases r with
    | nil => simp
    | cons z r =>
      rw [List.zip_cons_cons, List.forall₂_cons, ih (Nat.succ.inj hlen)]
      constructor
      · rintro ⟨h0, hl, hk⟩
        refine ⟨by simp [hl], fun k hk' => ?_⟩
        cases k with
        | zero => exact h0
        | succ k => exact hk k (by simpa using hk')
      · rintro ⟨hl, hk⟩
        exact ⟨hk 0 (by simp), by simpa using hl, fun k hk' => hk (k + 1) (by simpa using hk')⟩

/-- Two shapes broadcast to `s` exactly when `s` has as many axes as the longer one and each
axis of `s`, counted from the end, is the join of theirs. -/
theorem broadcastShape?_eq_some_iff {a b s : List Nat} :
    broadcastShape? a b = some s ↔ s.length = max a.length b.length ∧
      ∀ k, axisJoin (dimFromEnd a k) (dimFromEnd b k) = some (dimFromEnd s k) := by
  -- both shapes are padded in front to the common length; read from the end, padding is inert
  have ha : (List.replicate (max a.length b.length - a.length) 1 ++ a).length =
      max a.length b.length := by
    simp only [List.length_append, List.length_replicate]
    omega
  have hb : (List.replicate (max a.length b.length - b.length) 1 ++ b).length =
      max a.length b.length := by
    simp only [List.length_append, List.length_replicate]
    omega
  change ((List.replicate _ 1 ++ a).zip (List.replicate _ 1 ++ b)).mapM
    (fun p : Nat × Nat => axisJoin p.1 p.2) = some s ↔ _
  rw [mapM_eq_some_iff, ← List.forall₂_reverse_iff, reverse_zip (ha.trans hb.symm),
    forall₂_zip_iff_getD (by simp only [List.length_reverse, ha, hb])]
  simp only [List.length_reverse, ha]
  constructor
  · rintro ⟨hl, hk⟩
    refine ⟨hl, fun k => ?_⟩
    by_cases hkn : k < max a.length b.length
    · have := hk k hkn
      rwa [← dimFromEnd, ← dimFromEnd, ← dimFromEnd, dimFromEnd_replicate_append,
        dimFromEnd_replicate_append] at this
    · rw [dimFromEnd_of_le (by omega), dimFromEnd_of_le (by omega), dimFromEnd_of_le (by omega)]
      rfl
  · rintro ⟨hl, hk⟩
    refine ⟨hl, fun k _ => ?_⟩
    have := hk k
    rwa [← dimFromEnd_replicate_append (max a.length b.length - a.length) a,
      ← dimFromEnd_replicate_append (max a.length b.length - b.length) b] at this

theorem axisJoin_eq_some {x y z : Nat} (h : axisJoin x y = some z) :
    (x = 1 ∨ x = z) ∧ (y = 1 ∨ y = z) := by
  unfold axisJoin at h
  split_ifs at h <;> simp only [Option.some.injEq] at h <;> omega

/-- Two axes that each have length 1 or `w` join to length 1 or `w`. -/
theorem axisJoin_fits {x y z w : Nat} (h : axisJoin x y = some z) (hx : x = 1 ∨ x = w)
    (hy : y = 1 ∨ y = w) : z = 1 ∨ z = w := by
  unfold axisJoin at h
  split_ifs at h <;> simp only [Option.some.injEq] at h <;> omega

section Pair

variable {a b s u : List Nat}

/-- Both shapes broadcast to the shape they broadcast to together. -/
theorem fits_of_broadcastShape? (h : broadcastShape? a b = some s) : Fits a s ∧ Fits b s := by
  obtain ⟨hl, hk⟩ := broadcastShape?_eq_some_iff.mp h
  exact ⟨⟨by omega, fun k => (axisJoin_eq_some (hk k)).1⟩,
    ⟨by omega, fun k => (axisJoin_eq_some (hk k)).2⟩⟩

/-- The shape two shapes broadcast to is the least one: it broadcasts to every shape both do. -/
theorem broadcastShape?_fits (h : broadcastShape? a b = some s) (ha : Fits a u) (hb : Fits b u) :
    Fits s u := by
  obtain ⟨hl, hk⟩ := broadcastShape?_eq_some_iff.mp h
  exact ⟨by have := ha.1; have := hb.1; omega, fun k => axisJoin_fits (hk k) (ha.2 k) (hb.2 k)⟩

/-- Two shapes that broadcast to one shape broadcast together. -/
theorem broadcastShape?_isSome (ha : Fits a u) (hb : Fits b u) : (broadcastShape? a b).isSome := by
  -- the shape whose axes, from the end, are the joins of theirs
  let g : Nat → Nat := fun k => if dimFromEnd a k = 1 then dimFromEnd b k else dimFromEnd a k
  let j := ((List.range (max a.length b.length)).map g).reverse
  have hj : ∀ k < max a.length b.length, dimFromEnd j k = g k := by
    intro k hk
    simp [j, dimFromEnd, List.getD_eq_getElem?_getD, hk]
  have hsome : broadcastShape? a b = some j := by
    refine broadcastShape?_eq_some_iff.mpr ⟨by simp [j], fun k => ?_⟩
    by_cases hk : k < max a.length b.length
    · rw [hj k hk]
      simp only [g, axisJoin]
      rcases ha.2 k with hak | hak <;> rcases hb.2 k with hbk | hbk <;> split_ifs <;>
        first | rfl | (exfalso; omega)
    · rw [dimFromEnd_of_le (by omega), dimFromEnd_of_le (by omega),
        dimFromEnd_of_le (by simp [j]; omega)]
      rfl
  rw [hsome]
  rfl

/-- The shape of a float broadcasts to any shape. -/
theorem broadcastShape?_nil_left (a : List Nat) : broadcastShape? [] a = some a :=
  broadcastShape?_eq_some_iff.mpr ⟨by simp, fun k => by simp [dimFromEnd, axisJoin]⟩

theorem broadcastShape?_nil_right (a : List Nat) : broadcastShape? a [] = some a := by
  refine broadcastShape?_eq_some_iff.mpr ⟨by simp, fun k => ?_⟩
  have h1 : dimFromEnd [] k = 1 := rfl
  rw [h1]
  unfold axisJoin
  split_ifs with h <;> simp_all

end Pair

/-! ## Broadcasting a list of shapes -/

/-- The shape a list of shapes broadcasts to jointly, if they are compatible: they are broadcast
one after another, starting from the shape of a single float. -/
def broadcastShapes? (S : List (List Nat)) : Option (List Nat) :=
  S.foldlM broadcastShape? []

/-- A shape that every shape of the list broadcasts to. -/
def IsBound (S : List (List Nat)) (u : List Nat) : Prop :=
  ∀ a ∈ S, Fits a u

section Joint

variable {S T : List (List Nat)} {s : List Nat}

/-- A run of pairwise broadcasts from `acc` ends at the least bound of `acc` and the list. -/
theorem foldlM_broadcastShape?_some {acc : List Nat} (h : S.foldlM broadcastShape? acc = some s) :
    (Fits acc s ∧ IsBound S s) ∧ ∀ u, Fits acc u → IsBound S u → Fits s u := by
  induction S generalizing acc with
  | nil =>
    obtain rfl : acc = s := Option.some.inj h
    exact ⟨⟨Fits.refl acc, fun _ h => nomatch h⟩, fun _ hu _ => hu⟩
  | cons a S ih =>
    rw [List.foldlM_cons] at h
    cases hstep : broadcastShape? acc a with
    | none => simp [hstep] at h
    | some acc' =>
      rw [hstep, Option.bind_eq_bind, Option.bind_some] at h
      obtain ⟨⟨hacc, hS⟩, hleast⟩ := ih h
      obtain ⟨hacc', ha'⟩ := fits_of_broadcastShape? hstep
      refine ⟨⟨hacc'.trans hacc, ?_⟩, fun u hu hbound => ?_⟩
      · rintro b (_ | ⟨_, hb⟩)
        · exact ha'.trans hacc
        · exact hS b hb
      · exact hleast u (broadcastShape?_fits hstep hu (hbound a (List.mem_cons_self ..)))
          fun b hb => hbound b (List.mem_cons_of_mem a hb)

/-- A run of pairwise broadcasts from `acc` fails only where `acc` and the list have no bound. -/
theorem foldlM_broadcastShape?_none {acc : List Nat} (h : S.foldlM broadcastShape? acc = none)
    (u : List Nat) (hacc : Fits acc u) (hS : IsBound S u) : False := by
  induction S generalizing acc with
  | nil => exact nomatch h
  | cons a S ih =>
    rw [List.foldlM_cons] at h
    have ha : Fits a u := hS a (List.mem_cons_self ..)
    cases hstep : broadcastShape? acc a with
    | none =>
      have := broadcastShape?_isSome hacc ha
      rw [hstep] at this
      exact absurd this Bool.false_ne_true
    | some acc' =>
      rw [hstep, Option.bind_eq_bind, Option.bind_some] at h
      exact ih h (broadcastShape?_fits hstep hacc ha) fun b hb => hS b (List.mem_cons_of_mem a hb)

/-- The joint shape is the least bound of the shapes. -/
theorem broadcastShapes?_eq_some_iff :
    broadcastShapes? S = some s ↔ IsBound S s ∧ ∀ u, IsBound S u → Fits s u := by
  constructor
  · intro h
    obtain ⟨⟨-, hS⟩, hleast⟩ := foldlM_broadcastShape?_some h
    exact ⟨hS, fun u hu => hleast u (nil_fits u) hu⟩
  · rintro ⟨hS, hleast⟩
    cases h : broadcastShapes? S with
    | none => exact (foldlM_broadcastShape?_none h s (nil_fits s) hS).elim
    | some s' =>
      obtain ⟨⟨-, hS'⟩, hleast'⟩ := foldlM_broadcastShape?_some h
      rw [Fits.antisymm (hleast' s (nil_fits s) hS) (hleast s' hS')]

/-- Shapes have no joint shape exactly when no shape is a bound of them all. -/
theorem broadcastShapes?_eq_none_iff : broadcastShapes? S = none ↔ ∀ u, ¬IsBound S u := by
  constructor
  · intro h u hu
    exact foldlM_broadcastShape?_none h u (nil_fits u) hu
  · intro h
    cases hS : broadcastShapes? S with
    | none => rfl
    | some s => exact (h s (broadcastShapes?_eq_some_iff.mp hS).1).elim

/-- The joint shape depends only on which shapes are listed: not on their order, nor on
repeats. -/
theorem broadcastShapes?_congr (h : ∀ a, a ∈ S ↔ a ∈ T) : broadcastShapes? S = broadcastShapes? T := by
  have hbound : ∀ u, IsBound S u ↔ IsBound T u := fun u =>
    ⟨fun hu a ha => hu a ((h a).mpr ha), fun hu a ha => hu a ((h a).mp ha)⟩
  cases hT : broadcastShapes? T with
  | none =>
    exact broadcastShapes?_eq_none_iff.mpr fun u hu =>
      broadcastShapes?_eq_none_iff.mp hT u ((hbound u).mp hu)
  | some t =>
    obtain ⟨htb, hleast⟩ := broadcastShapes?_eq_some_iff.mp hT
    exact broadcastShapes?_eq_some_iff.mpr
      ⟨(hbound t).mpr htb, fun u hu => hleast u ((hbound u).mp hu)⟩

theorem broadcastShapes?_nil : broadcastShapes? [] = some [] :=
  rfl

theorem broadcastShapes?_singleton (a : List Nat) : broadcastShapes? [a] = some a :=
  broadcastShapes?_eq_some_iff.mpr
    ⟨fun _ hb => List.mem_singleton.mp hb ▸ Fits.refl a, fun _ hu => hu a (List.mem_singleton_self a)⟩

/-- Broadcasting two lists of shapes jointly is broadcasting the joint shape of each: the
pairwise broadcasts at the nodes of a tree give the joint shape of its leaves. -/
theorem broadcastShapes?_append :
    broadcastShapes? (S ++ T) = (broadcastShapes? S).bind fun s =>
      (broadcastShapes? T).bind fun t => broadcastShape? s t := by
  cases hS : broadcastShapes? S with
  | none =>
    exact broadcastShapes?_eq_none_iff.mpr fun u hu =>
      broadcastShapes?_eq_none_iff.mp hS u fun a ha => hu a (List.mem_append_left T ha)
  | some s =>
    obtain ⟨hsb, hsl⟩ := broadcastShapes?_eq_some_iff.mp hS
    cases hT : broadcastShapes? T with
    | none =>
      exact broadcastShapes?_eq_none_iff.mpr fun u hu =>
        broadcastShapes?_eq_none_iff.mp hT u fun a ha => hu a (List.mem_append_right S ha)
    | some t =>
      obtain ⟨htb, htl⟩ := broadcastShapes?_eq_some_iff.mp hT
      -- a bound of both lists is a bound of their joint shapes, and conversely
      have hboth : ∀ u, IsBound (S ++ T) u → Fits s u ∧ Fits t u := fun u hu =>
        ⟨hsl u fun a ha => hu a (List.mem_append_left T ha),
          htl u fun a ha => hu a (List.mem_append_right S ha)⟩
      simp only [Option.bind_some]
      cases hst : broadcastShape? s t with
      | none =>
        refine broadcastShapes?_eq_none_iff.mpr fun u hu => ?_
        have := broadcastShape?_isSome (hboth u hu).1 (hboth u hu).2
        rw [hst] at this
        exact Bool.false_ne_true this
      | some r =>
        obtain ⟨hsr, htr⟩ := fits_of_broadcastShape? hst
        refine broadcastShapes?_eq_some_iff.mpr ⟨fun a ha => ?_, fun u hu =>
          broadcastShape?_fits hst (hboth u hu).1 (hboth u hu).2⟩
        rcases List.mem_append.mp ha with ha | ha
        · exact (hsb a ha).trans hsr
        · exact (htb a ha).trans htr

end Joint

/-! ## Multi-indices -/

/-- A multi-index of a shape has its length, each coordinate below the length of its axis. -/
theorem mem_indices {s ix : List Nat} :
    ix ∈ indices s ↔ ix.length = s.length ∧ ∀ k < s.length, ix.getD k 0 < s.getD k 1 := by
  induction s generalizing ix with
  | nil => simp [indices, List.length_eq_zero_iff]
  | cons d ds ih =>
    simp only [indices, List.mem_flatMap, List.mem_range, List.mem_map]
    constructor
    · rintro ⟨i, hi, ix', hix', rfl⟩
      obtain ⟨hl, hk⟩ := ih.mp hix'
      refine ⟨by simp [hl], fun k hk' => ?_⟩
      cases k with
      | zero => simpa using hi
      | succ k => simpa using hk k (by simpa using hk')
    · rintro ⟨hl, hk⟩
      cases ix with
      | nil => simp at hl
      | cons i ix' =>
        refine ⟨i, by simpa using hk 0 (by simp), ix', ih.mpr ⟨by simpa using hl, fun k hk' => ?_⟩, rfl⟩
        simpa using hk (k + 1) (by simpa using hk')

/-- The same, reading coordinates and axes from the end. -/
theorem mem_indices_iff_fromEnd {s ix : List Nat} :
    ix ∈ indices s ↔ ix.length = s.length ∧ ∀ k < s.length, coordFromEnd ix k < dimFromEnd s k := by
  rw [mem_indices]
  constructor
  · rintro ⟨hl, hk⟩
    refine ⟨hl, fun k hk' => ?_⟩
    rw [coordFromEnd_eq_getD (by omega), dimFromEnd_eq_getD hk', hl]
    exact hk _ (by omega)
  · rintro ⟨hl, hk⟩
    refine ⟨hl, fun k hk' => ?_⟩
    have h := hk (s.length - 1 - k) (by omega)
    rwa [coordFromEnd_eq_getD (by omega), dimFromEnd_eq_getD (by omega), hl,
      show s.length - 1 - (s.length - 1 - k) = k by omega] at h

/-! ## Reading a tensor at an index of a larger shape -/

/-- The multi-index at which a tensor of shape `s` is read for the multi-index `ix` of a shape it
broadcasts to: the last coordinates of `ix`, with position 0 on every axis of length 1. -/
def project (s ix : List Nat) : List Nat :=
  (s.zip (ix.drop (ix.length - s.length))).map fun (d, i) => if d = 1 then 0 else i

theorem get_eq_project (t : Tensor) (ix : List Nat) :
    t.get ix = t.data[offset t.shape (project t.shape ix)]?.getD 0 :=
  rfl

section Project

variable {a s u ix : List Nat}

theorem length_project (h : s.length ≤ ix.length) : (project s ix).length = s.length := by
  simp [project]
  omega

theorem coordFromEnd_project (h : s.length ≤ ix.length) {k : Nat} (hk : k < s.length) :
    coordFromEnd (project s ix) k = if dimFromEnd s k = 1 then 0 else coordFromEnd ix k := by
  have hp := length_project h
  rw [coordFromEnd_eq_getD (by omega), hp, dimFromEnd_eq_getD hk, coordFromEnd_eq_getD (by omega),
    List.getD_eq_getElem _ _ (by omega), List.getD_eq_getElem _ _ (by omega),
    List.getD_eq_getElem _ _ (by omega)]
  simp only [project, List.getElem_map, List.getElem_zip, List.getElem_drop,
    show ix.length - s.length + (s.length - 1 - k) = ix.length - 1 - k by omega]

/-- A projected index is an index of the smaller shape. -/
theorem project_mem_indices (hf : Fits s u) (hix : ix ∈ indices u) : project s ix ∈ indices s := by
  obtain ⟨hl, hk⟩ := mem_indices_iff_fromEnd.mp hix
  have hsix : s.length ≤ ix.length := hl ▸ hf.1
  refine mem_indices_iff_fromEnd.mpr ⟨length_project hsix, fun k hk' => ?_⟩
  rw [coordFromEnd_project hsix hk']
  split_ifs with h1
  · omega
  · rcases hf.2 k with h | h
    · exact absurd h h1
    · rw [h]
      exact hk k (by omega)

/-- An index of a shape projects onto itself. -/
theorem project_self (hix : ix ∈ indices s) : project s ix = ix := by
  obtain ⟨hl, hk⟩ := mem_indices_iff_fromEnd.mp hix
  refine eq_of_reverse_getD 0 (by rw [length_project (Nat.le_of_eq hl.symm), hl]) fun k hk' => ?_
  have hks : k < s.length := by rwa [length_project (Nat.le_of_eq hl.symm)] at hk'
  change coordFromEnd (project s ix) k = coordFromEnd ix k
  rw [coordFromEnd_project (Nat.le_of_eq hl.symm) hks]
  split_ifs with h1
  · have := hk k hks
    rw [h1] at this
    omega
  · rfl

/-- Projecting in two steps, through a shape in between, is projecting at once. -/
theorem project_project (ha : Fits a s) (hs : Fits s u) (hix : ix ∈ indices u) :
    project a (project s ix) = project a ix := by
  have hl := (mem_indices_iff_fromEnd.mp hix).1
  have hsix : s.length ≤ ix.length := hl ▸ hs.1
  have haix : a.length ≤ ix.length := Nat.le_trans ha.1 hsix
  have haps : a.length ≤ (project s ix).length := by rw [length_project hsix]; exact ha.1
  refine eq_of_reverse_getD 0 (by rw [length_project haps, length_project haix]) fun k hk' => ?_
  have hka : k < a.length := by rwa [length_project haps] at hk'
  change coordFromEnd _ k = coordFromEnd _ k
  rw [coordFromEnd_project haps hka, coordFromEnd_project haix hka,
    coordFromEnd_project hsix (Nat.lt_of_lt_of_le hka ha.1)]
  -- an axis of `a` that is not 1 has the length of that axis of `s`, which is then not 1
  rcases ha.2 k with h | h
  · simp [h]
  · split_ifs <;> omega

end Project

/-! ## Row-major positions -/

/-- Row-major offsets accumulate: an offset started at `acc` is `acc` times the size of the rest,
plus the offset within the rest. -/
theorem foldl_offset (acc : Nat) {ds ix : List Nat} (h : ix.length = ds.length) :
    (ds.zip ix).foldl (fun acc (d, i) => acc * d + i) acc = acc * ds.prod + offset ds ix := by
  induction ds generalizing ix acc with
  | nil => simp [offset]
  | cons d ds ih =>
    obtain ⟨i, ix, rfl⟩ := List.exists_cons_of_length_eq_add_one h
    have h' : ix.length = ds.length := Nat.succ.inj h
    have hcons : offset (d :: ds) (i :: ix) =
        (ds.zip ix).foldl (fun acc (d, i) => acc * d + i) (0 * d + i) := rfl
    rw [List.zip_cons_cons, List.foldl_cons, hcons, ih _ h', ih _ h', List.prod_cons]
    dsimp only
    ring

theorem offset_cons (d i : Nat) {ds ix : List Nat} (h : ix.length = ds.length) :
    offset (d :: ds) (i :: ix) = i * ds.prod + offset ds ix := by
  change (ds.zip ix).foldl (fun acc (d, i) => acc * d + i) (0 * d + i) = _
  rw [foldl_offset _ h, Nat.zero_mul, Nat.zero_add]

/-- The indices of a shape come in blocks, one for each position on the first axis. -/
theorem getElem?_indices_cons {d : Nat} (ds : List Nat) {i j : Nat} (hi : i < d)
    (hj : j < ds.prod) : (indices (d :: ds))[i * ds.prod + j]? = (indices ds)[j]?.map (i :: ·) := by
  induction d with
  | zero => omega
  | succ d ih =>
    simp only [indices] at ih ⊢
    have hlen : ((List.range d).flatMap fun i => (indices ds).map (i :: ·)).length =
        d * ds.prod := by
      simp [List.length_flatMap, length_indices, List.map_const']
    rw [List.range_succ, List.flatMap_append, List.flatMap_singleton]
    by_cases hid : i < d
    · have hle := Nat.mul_le_mul_right ds.prod (Nat.succ_le_of_lt hid)
      rw [Nat.succ_mul] at hle
      rw [List.getElem?_append_left (by omega)]
      exact ih hid
    · obtain rfl : i = d := by omega
      rw [List.getElem?_append_right (by omega), hlen, Nat.add_sub_cancel_left, List.getElem?_map]

/-- The offset of the `k`-th index of a shape is `k`. -/
theorem offset_getElem_indices {s : List Nat} {k : Nat} (hk : k < (indices s).length) :
    offset s (indices s)[k] = k := by
  induction s generalizing k with
  | nil =>
    obtain rfl : k = 0 := by simpa [indices] using hk
    rfl
  | cons d ds ih =>
    have hk' := hk
    rw [length_indices, List.prod_cons] at hk'
    have hP : 0 < ds.prod := Nat.pos_of_ne_zero fun h0 => by simp [h0] at hk'
    -- the `k`-th index lies in block `k / P`, at position `k % P` within it
    obtain ⟨i, j, hi, hj, rfl⟩ : ∃ i j, i < d ∧ j < ds.prod ∧ k = i * ds.prod + j :=
      ⟨k / ds.prod, k % ds.prod, Nat.div_lt_of_lt_mul (by rwa [Nat.mul_comm]), Nat.mod_lt _ hP,
        (Nat.div_add_mod' k ds.prod).symm⟩
    have hjl : j < (indices ds).length := by rwa [length_indices]
    have hget : (indices (d :: ds))[i * ds.prod + j] = i :: (indices ds)[j] := by
      have h := getElem?_indices_cons ds hi hj
      rw [List.getElem?_eq_getElem hk, List.getElem?_eq_getElem hjl, Option.map_some] at h
      exact Option.some.inj h
    have hlen : (indices ds)[j].length = ds.length := (mem_indices.mp (List.getElem_mem hjl)).1
    rw [hget, offset_cons d i hlen, ih hjl]

/-- An index of a shape sits at its offset in the row-major list of indices. -/
theorem getElem?_indices_offset {s ix : List Nat} (hix : ix ∈ indices s) :
    (indices s)[offset s ix]? = some ix := by
  obtain ⟨k, hk, rfl⟩ := List.getElem_of_mem hix
  rw [offset_getElem_indices hk, List.getElem?_eq_getElem hk]

/-! ## Elements of built tensors -/

section Elements

variable {s u ix : List Nat}

/-- Reading at the projection onto a shape in between is reading at the index. -/
theorem get_project (t : Tensor) (hs : Fits t.shape s) (hu : Fits s u) (hix : ix ∈ indices u) :
    t.get (project s ix) = t.get ix := by
  rw [get_eq_project, get_eq_project, project_project hs hu hix]

/-- A tensor built from a function of the indices, read at an index of a shape it broadcasts to,
is the function at the projected index. -/
theorem get_ofFn (g : List Nat → Float) (hf : Fits s u) (hix : ix ∈ indices u) :
    (ofFn s g).get ix = g (project s ix) := by
  rw [get_eq_project]
  change (((indices s).map g).toArray)[offset s (project s ix)]?.getD 0 = _
  rw [List.getElem?_toArray, List.getElem?_map,
    getElem?_indices_offset (project_mem_indices hf hix)]
  rfl

/-- A tensor is the tensor built by reading it at each index of its shape. -/
theorem ofFn_get (t : Tensor) : ofFn t.shape t.get = t := by
  obtain ⟨s, data, hsize⟩ := t
  simp only [ofFn, Tensor.mk.injEq, true_and]
  apply Array.ext'
  rw [List.toList_toArray]
  apply List.ext_getElem (by simp [length_indices, hsize])
  intro k hk₁ hk₂
  have hk : k < (indices s).length := by simpa using hk₁
  rw [List.getElem_map, get_eq_project]
  change data[offset s (project s (indices s)[k])]?.getD 0 = _
  rw [project_self (List.getElem_mem hk), offset_getElem_indices hk, Array.getElem?_eq_getElem,
    Option.getD_some, Array.getElem_toList]

/-- A function mapped over a tensor, read at an index of a shape the tensor broadcasts to. -/
theorem get_map (f : Float → Float) (t : Tensor) (hu : Fits t.shape u) (hix : ix ∈ indices u) :
    (t.map f).get ix = f (t.get ix) := by
  rw [map, get_ofFn _ hu hix, get_project t (Fits.refl _) hu hix]

/-- Two tensors combined element by element, read at an index of a shape their broadcast shape
broadcasts to, combine their elements there. -/
theorem get_zipWith? {f : Float → Float → Float} {a b r : Tensor} (h : zipWith? f a b = some r)
    (hu : Fits r.shape u) (hix : ix ∈ indices u) :
    broadcastShape? a.shape b.shape = some r.shape ∧ r.get ix = f (a.get ix) (b.get ix) := by
  obtain ⟨s, hs, rfl⟩ := Option.map_eq_some_iff.mp h
  obtain ⟨has, hbs⟩ := fits_of_broadcastShape? hs
  have hsu : Fits s u := hu
  refine ⟨hs, ?_⟩
  rw [get_ofFn _ hsu hix, get_project a has hsu hix, get_project b hbs hsu hix]

end Elements

end Tensor

end ExprTree
