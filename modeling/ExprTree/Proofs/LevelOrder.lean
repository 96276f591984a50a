import Mathlib
import ExprTree.Proofs.Positions

/-
  The breadth-first walk and the levels of a tree. The walk takes the node at the front of a queue
  and adds its children at the end (`Node.visitQueue`); the queue keeps no count of levels. Taking
  the nodes at the front in turn puts their children behind everything else in the queue
  (`visitQueue_append`), so a queue of trees is walked level by level across all of them
  (`visitQueue_eq_levels`): the nodes at depth `k` of every tree in the queue leave it before any
  node at depth `k + 1`. Level `k` of a tree holds the nodes at its positions of length `k`, in
  walk order (`level_eq_filter_paths`), and a stable sort by a numeric key lists the elements of
  key 0, then of key 1, and so on, each class in its order (`mergeSort_eq_flatMap_filter`). So the
  breadth-first walk is the positions of the depth-first walk stably sorted by length.

  Main result: `levelOrder_sorts_positions_by_length`.
-/

namespace ExprTree

/-! ## Stable sorting by a numeric key -/

section StableSort

variable {α : Type} (f : α → Nat)

theorem key_le_trans (a b c : α) (hab : decide (f a ≤ f b)) (hbc : decide (f b ≤ f c)) :
    decide (f a ≤ f c) := by
  simp only [decide_eq_true_eq] at hab hbc ⊢
  omega

theorem key_le_total (a b : α) : (decide (f a ≤ f b) || decide (f b ≤ f a)) := by
  simp only [Bool.or_eq_true, decide_eq_true_eq]
  omega

/-- Sorting by a numeric key orders the keys. -/
theorem pairwise_mergeSort_key (l : List α) :
    (l.mergeSort fun a b => f a ≤ f b).Pairwise fun a b => f a ≤ f b :=
  (List.pairwise_mergeSort (key_le_trans f) (key_le_total f) l).imp fun hab => by simpa using hab

/-- Sorting by a numeric key keeps the elements of each key in their order: they form a sorted
sublist, which the sort keeps (`List.sublist_mergeSort`), and there are as many of them after the
sort as before. -/
theorem filter_mergeSort_key (l : List α) (k : Nat) :
    (l.mergeSort fun a b => f a ≤ f b).filter (fun a => f a = k) = l.filter fun a => f a = k := by
  have hclass : (l.filter fun a => f a = k).Pairwise fun a b => decide (f a ≤ f b) := by
    refine List.Pairwise.imp_of_mem ?_ (List.pairwise_of_forall fun _ _ => trivial)
    intro a b ha hb _
    simp only [List.mem_filter, decide_eq_true_eq] at ha hb
    simp only [decide_eq_true_eq]
    omega
  have hsub := (List.sublist_mergeSort (key_le_trans f) (key_le_total f) hclass
    List.filter_sublist).filter (fun a => decide (f a = k))
  simp only [List.filter_filter, Bool.and_self] at hsub
  have hlen := ((List.mergeSort_perm l fun a b => f a ≤ f b).filter
    fun a => decide (f a = k)).length_eq
  exact (hsub.eq_of_length hlen.symm).symm

/-- The last element of a list sorted by a key has the largest key. -/
theorem key_le_of_getLast? {S : List α} (hs : S.Pairwise fun a b => f a ≤ f b) {z : α}
    (hz : S.getLast? = some z) {a : α} (ha : a ∈ S) : f a ≤ f z := by
  obtain ⟨ys, rfl⟩ := List.getLast?_eq_some_iff.mp hz
  rcases List.mem_append.mp ha with h | h
  · exact (List.pairwise_append.mp hs).2.2 a h z (List.mem_singleton_self z)
  · rw [List.mem_singleton.mp h]

/-- A list sorted by a key splits into the elements below a bound and then those at it. -/
theorem eq_filter_lt_append_of_sorted {S : List α} (hs : S.Pairwise fun a b => f a ≤ f b) {D : Nat}
    (h : ∀ a ∈ S, f a ≤ D) : S = S.filter (fun a => f a < D) ++ S.filter fun a => f a = D := by
  induction S with
  | nil => rfl
  | cons a S ih =>
    obtain ⟨ha, hs⟩ := List.pairwise_cons.mp hs
    have hS := ih hs fun b hb => h b (List.mem_cons_of_mem a hb)
    by_cases hlt : f a < D
    · have hne : ¬f a = D := by omega
      rw [List.filter_cons_of_pos (by simpa using hlt), List.filter_cons_of_neg (by simpa using hne),
        List.cons_append]
      exact congrArg (a :: ·) hS
    · -- every later key is at least `f a`, which is `D`
      have heq : f a = D := by have := h a List.mem_cons_self; omega
      have hnone : S.filter (fun b => f b < D) = [] :=
        List.filter_eq_nil_iff.mpr fun b hb => by
          have := ha b hb
          simp only [decide_eq_true_eq]
          omega
      rw [hnone, List.nil_append] at hS
      rw [List.filter_cons_of_neg (by simpa using hlt), List.filter_cons_of_pos (by simpa using heq),
        hnone, List.nil_append]
      exact congrArg (a :: ·) hS

/-- A list sorted by a key below `D` is the class of key 0, then of key 1, and so on. The
induction is on the bound: the classes below the last one make up the elements below it. -/
theorem eq_flatMap_filter_of_sorted (D : Nat) {S : List α} (hs : S.Pairwise fun a b => f a ≤ f b)
    (h : ∀ a ∈ S, f a < D) : S = (List.range D).flatMap fun k => S.filter fun a => f a = k := by
  induction D generalizing S with
  | zero =>
    rw [List.eq_nil_iff_forall_not_mem.mpr fun a ha => Nat.not_lt_zero _ (h a ha)]
    rfl
  | succ D ih =>
    have hlow := ih (S := S.filter fun a => f a < D) (hs.sublist List.filter_sublist) fun a ha => by
      simp only [List.mem_filter, decide_eq_true_eq] at ha
      exact ha.2
    -- below `D`, the class of `k` among the elements below `D` is the class of `k`
    have hclass : ∀ k ∈ List.range D, ((S.filter fun a => f a < D).filter fun a => f a = k) =
        S.filter fun a => f a = k := by
      intro k hk
      rw [List.filter_filter]
      refine List.filter_congr fun a _ => ?_
      have hkD := List.mem_range.mp hk
      by_cases hak : f a = k
      · simp [hak, hkD]
      · simp [hak]
    rw [List.range_succ, List.flatMap_append, List.flatMap_singleton,
      ← List.flatMap_congr hclass, ← hlow]
    exact eq_filter_lt_append_of_sorted f hs fun a ha => Nat.le_of_lt_succ (h a ha)

/-- A stable sort by a numeric key below `D` lists the elements of key 0 first, then those of
key 1, and so on, each class in its order. -/
theorem mergeSort_eq_flatMap_filter (l : List α) (D : Nat) (h : ∀ a ∈ l, f a < D) :
    (l.mergeSort fun a b => f a ≤ f b) = (List.range D).flatMap fun k => l.filter fun a => f a = k := by
  rw [eq_flatMap_filter_of_sorted f D (pairwise_mergeSort_key f l)
    fun a ha => h a (List.mem_mergeSort.mp ha)]
  exact List.flatMap_congr fun k _ => filter_mergeSort_key f l k

end StableSort

namespace Node

/-! ## The queue -/

@[simp] theorem visitQueue_nil : visitQueue [] = [] := by
  rw [visitQueue]

theorem visitQueue_cons (n : Node) (queue : List Node) :
    visitQueue (n :: queue) = n :: visitQueue (queue ++ n.children.map Prod.snd) := by
  rw [visitQueue]

/-- The step of the queue: the nodes at its front leave it in turn, and their children join it
behind everything else. -/
theorem visitQueue_append (ts us : List Node) :
    visitQueue (ts ++ us) =
      ts ++ visitQueue (us ++ ts.flatMap fun n => n.children.map Prod.snd) := by
  induction ts generalizing us with
  | nil => simp
  | cons n ts ih =>
    rw [List.cons_append, visitQueue_cons, List.append_assoc, ih, List.flatMap_cons,
      List.append_assoc, List.cons_append]

/-! ## Levels -/

theorem depth_pos (n : Node) : 0 < n.depth := by
  cases n <;> simp [depth]

theorem depth_lt_of_mem_children {n c : Node} (h : c ∈ n.children.map Prod.snd) :
    c.depth < n.depth := by
  cases n with
  | bin tag op l r =>
    simp only [children, List.map_cons, List.map_nil, List.mem_cons, List.not_mem_nil,
      or_false] at h
    rcases h with rfl | rfl <;> simp [depth] <;> omega
  | lit => simp [children] at h
  | var => simp [children] at h

/-- Each level of some trees is the next level of their children. -/
theorem flatMap_level_succ (ts : List Node) (k : Nat) :
    ts.flatMap (·.level (k + 1)) =
      (ts.flatMap fun n => n.children.map Prod.snd).flatMap (·.level k) := by
  induction ts with
  | nil => rfl
  | cons n ts ih =>
    rw [List.flatMap_cons, List.flatMap_cons, List.flatMap_append, ih]
    cases n <;> simp [level, children]

@[simp] theorem level_zero (n : Node) : n.level 0 = [n] := by
  cases n <;> rfl

theorem flatMap_level_zero (ts : List Node) : ts.flatMap (·.level 0) = ts := by
  induction ts with
  | nil => rfl
  | cons n ts ih => rw [List.flatMap_cons, ih, level_zero, List.singleton_append]

/-- The run of the queue: a queue of trees of depth at most `D` is walked level by level across
all its trees. The induction is on `D`: the queue's own nodes leave first, then the walk of their
children, which are one level less deep. -/
theorem visitQueue_eq_levels (D : Nat) (ts : List Node) (h : ∀ n ∈ ts, n.depth ≤ D) :
    visitQueue ts = (List.range D).flatMap fun k => ts.flatMap (·.level k) := by
  induction D generalizing ts with
  | zero =>
    have hnil : ts = [] :=
      List.eq_nil_iff_forall_not_mem.mpr fun n hn => by have := h n hn; have := depth_pos n; omega
    subst hnil
    simp
  | succ D ih =>
    have hkids : ∀ c ∈ ts.flatMap (fun n => n.children.map Prod.snd), c.depth ≤ D := by
      intro c hc
      obtain ⟨n, hn, hc⟩ := List.mem_flatMap.mp hc
      have := depth_lt_of_mem_children hc
      have := h n hn
      omega
    have hstep := visitQueue_append ts []
    rw [List.append_nil, List.nil_append] at hstep
    rw [hstep, ih _ hkids, List.range_succ_eq_map, List.flatMap_cons, List.flatMap_map,
      flatMap_level_zero]
    exact congrArg (ts ++ ·) (List.flatMap_congr fun k _ => (flatMap_level_succ ts k).symm)

/-- The breadth-first walk of a tree is its levels in turn. -/
theorem levelOrder_eq_levels (n : Node) : n.levelOrder = (List.range n.depth).flatMap n.level := by
  rw [levelOrder, visitQueue_eq_levels n.depth [n] (by simp)]
  simp

/-- Level `k` holds the nodes at the positions of length `k`, in walk order. -/
theorem level_eq_filter_paths (n : Node) (k : Nat) :
    n.level k = (n.paths.filter fun e => e.1.length = k).map Prod.snd := by
  induction n generalizing k with
  | lit tag x => cases k <;> simp [level]
  | var tag s => cases k <;> simp [level]
  | bin tag op l r ihl ihr =>
    cases k with
    | zero => simp [level, paths_bin, List.filter_map, Function.comp_def]
    | succ k => simp [level, paths_bin, List.filter_map, Function.comp_def, ihl, ihr]

theorem length_lt_depth_of_mem_paths {n : Node} {e : List Role × Node} (h : e ∈ n.paths) :
    e.1.length < n.depth := by
  induction n generalizing e with
  | lit tag x => simp at h; simp [h, depth]
  | var tag s => simp at h; simp [h, depth]
  | bin tag op l r ihl ihr =>
    rw [paths_bin, List.mem_cons, List.mem_append, List.mem_map, List.mem_map] at h
    rcases h with rfl | ⟨e', he, rfl⟩ | ⟨e', he, rfl⟩
    · simp [depth]
    · have := ihl he
      simp [depth]
      omega
    · have := ihr he
      simp [depth]
      omega

/-- Some position is as deep as the tree. -/
theorem exists_mem_paths_depth (n : Node) : ∃ e ∈ n.paths, e.1.length + 1 = n.depth := by
  induction n with
  | lit tag x => exact ⟨_, List.mem_singleton_self _, rfl⟩
  | var tag s => exact ⟨_, List.mem_singleton_self _, rfl⟩
  | bin tag op l r ihl ihr =>
    obtain ⟨el, hel, hl⟩ := ihl
    obtain ⟨er, her, hr⟩ := ihr
    rw [paths_bin]
    by_cases hlr : r.depth ≤ l.depth
    · refine ⟨(.lhs :: el.1, el.2), List.mem_cons_of_mem _ (List.mem_append_left _
        (List.mem_map_of_mem (f := fun e => (Role.lhs :: e.1, e.2)) hel)), ?_⟩
      simp [depth]
      omega
    · refine ⟨(.rhs :: er.1, er.2), List.mem_cons_of_mem _ (List.mem_append_right _
        (List.mem_map_of_mem (f := fun e => (Role.rhs :: e.1, e.2)) her)), ?_⟩
      simp [depth]
      omega

theorem traverse_breadthFirst (n : Node) :
    n.traverse (.str "breadth_first") = .ok n.levelOrder := by
  simp [traverse, breadthFirst?, Value.eqTruth, Value.tensorEq?, Value.eqv, pure, Except.pure,
    bind, Except.bind]

/-- The breadth-first walk of a constructor-built tree is its positions in depth-first order
stably sorted by length: level by level, each level from left to right. It is therefore a
permutation of the depth-first walk and has as many nodes as the size of the tree. The depth is
one more than the longest path, which is the path of the last node of the breadth-first walk. -/
theorem levelOrder_sorts_positions_by_length (t : Node) (hcoh : Coherent [t]) :
    let sorted := t.paths.mergeSort fun a b => a.1.length ≤ b.1.length
    ∃ B D, t.traverse (.str "breadth_first") = .ok B ∧ t.traverse (.str "depth_first") = .ok D ∧
      B = sorted.map Prod.snd ∧ B.Perm D ∧ B.length = t.size ∧
      (∀ e ∈ t.paths, e.1.length + 1 ≤ t.depth) ∧ (∃ e ∈ t.paths, e.1.length + 1 = t.depth) ∧
      sorted.getLast?.map (fun e => e.1.length + 1) = some t.depth := by
  intro sorted
  have hbound : ∀ e ∈ t.paths, e.1.length < t.depth := fun e he => length_lt_depth_of_mem_paths he
  have hB : t.levelOrder = sorted.map Prod.snd := by
    simp only [sorted]
    rw [levelOrder_eq_levels, mergeSort_eq_flatMap_filter (fun e => e.1.length) t.paths t.depth
      hbound, List.map_flatMap]
    exact List.flatMap_congr fun k _ => level_eq_filter_paths t k
  have hperm : (sorted.map Prod.snd).Perm t.preorder := by
    rw [← map_snd_paths]
    exact (List.mergeSort_perm _ _).map Prod.snd
  obtain ⟨e₀, he₀, hdeep⟩ := exists_mem_paths_depth t
  refine ⟨_, _, traverse_breadthFirst t, traverse_depthFirst t, hB, hB ▸ hperm, ?_,
    fun e he => hbound e he, ⟨e₀, he₀, hdeep⟩, ?_⟩
  · rw [hB, hperm.length_eq, size_eq_length_preorder hcoh]
  · -- the last position of the sorted list is at least as long as every other, so as `e₀`
    have hmem : e₀ ∈ sorted := List.mem_mergeSort.mpr he₀
    obtain ⟨z, hz⟩ : ∃ z, sorted.getLast? = some z :=
      ⟨_, List.getLast?_eq_some_getLast (List.ne_nil_of_mem hmem)⟩
    have hle := key_le_of_getLast? (fun e => e.1.length) (pairwise_mergeSort_key (fun e => e.1.length) t.paths) hz hmem
    have hlt := hbound z (List.mem_mergeSort.mp (List.mem_of_getLast? hz))
    rw [hz, Option.map_some]
    exact congrArg some (by omega)

/-- An unbalanced tree `((1 - 2) * x) + y`: its breadth-first walk is the root, then the product
and `y`, then the difference and `x`, then the two literals. -/
theorem levelOrder_sorts_positions_by_length_unbalanced :
    let t := bin 0 (.operator .add)
      (bin 1 (.operator .multiply) (bin 2 (.operator .subtract) (lit 3 1) (lit 4 2)) (var 5 "x"))
      (var 6 "y")
    Coherent [t] ∧
      let sorted := t.paths.mergeSort fun a b => a.1.length ≤ b.1.length
      ∃ B D, t.traverse (.str "breadth_first") = .ok B ∧ t.traverse (.str "depth_first") = .ok D ∧
        B = sorted.map Prod.snd ∧ B.Perm D ∧ B.length = t.size ∧
        (∀ e ∈ t.paths, e.1.length + 1 ≤ t.depth) ∧ (∃ e ∈ t.paths, e.1.length + 1 = t.depth) ∧
        sorted.getLast?.map (fun e => e.1.length + 1) = some t.depth := by
  intro t
  have hcoh : Coherent [t] := coherent_of_nodup (by decide)
  exact ⟨hcoh, levelOrder_sorts_positions_by_length t hcoh⟩

end Node

end ExprTree
