import Mathlib
import ExprTree.Proofs.TreeEquality

/-
  Positions of a tree and the depth-first walk. A position is the path of roles from the root to a
  node, and a shared node stands at every position that reaches it. Paths are ordered as the
  depth-first walk meets them (`List.Lex Role.Before`): a path before its extensions and, where two
  paths part, the left side first. `Node.paths` lists every position of a tree once, in that order
  and with the node found there (`pairwise_lex_paths`, `mem_paths_iff`, `follow?_of_mem_paths`),
  and its nodes are the depth-first walk (`map_snd_paths`).

  The size of a tree is counted with a cache by node tag. On a coherent family, where a tag names
  one node, storing a count keeps a cache of right counts right (`SizesSound.cons`), so counting
  from such a cache gives the number of positions (`sizeWith_sound`), whichever parent of a shared
  node counted it first.

  Main result: `paths_in_preorder`.
-/

namespace ExprTree

/-- The order in which a walk meets the children of a binary node: the left one first. -/
def Role.Before : Role → Role → Prop
  | .lhs, .rhs => True
  | _, _ => False

theorem Role.not_before_self (r : Role) : ¬r.Before r := by
  cases r <;> exact id

namespace Node

/-! ## Following a path -/

@[simp] theorem follow?_nil (n : Node) : n.follow? [] = some n := rfl

@[simp] theorem follow?_lhs (tag : Nat) (op : Value) (l r : Node) (p : List Role) :
    (bin tag op l r).follow? (.lhs :: p) = l.follow? p := rfl

@[simp] theorem follow?_rhs (tag : Nat) (op : Value) (l r : Node) (p : List Role) :
    (bin tag op l r).follow? (.rhs :: p) = r.follow? p := rfl

@[simp] theorem follow?_lit_cons (tag : Nat) (x : Float) (r : Role) (p : List Role) :
    (lit tag x).follow? (r :: p) = none := rfl

@[simp] theorem follow?_var_cons (tag : Nat) (s : String) (r : Role) (p : List Role) :
    (var tag s).follow? (r :: p) = none := rfl

/-! ## The positions in walk order -/

@[simp] theorem paths_lit (tag : Nat) (x : Float) : (lit tag x).paths = [([], lit tag x)] := rfl

@[simp] theorem paths_var (tag : Nat) (s : String) : (var tag s).paths = [([], var tag s)] := rfl

theorem paths_bin (tag : Nat) (op : Value) (l r : Node) :
    (bin tag op l r).paths = ([], bin tag op l r) ::
      ((l.paths.map fun e => (.lhs :: e.1, e.2)) ++ (r.paths.map fun e => (.rhs :: e.1, e.2))) :=
  rfl

theorem map_fst_paths_bin (tag : Nat) (op : Value) (l r : Node) :
    (bin tag op l r).paths.map Prod.fst =
      [] :: ((l.paths.map Prod.fst).map (.lhs :: ·) ++ (r.paths.map Prod.fst).map (.rhs :: ·)) := by
  simp [paths_bin, Function.comp_def]

/-- The nodes of the positions are the depth-first walk. -/
theorem map_snd_paths (t : Node) : t.paths.map Prod.snd = t.preorder := by
  induction t with
  | lit tag x => rfl
  | var tag s => rfl
  | bin tag op l r ihl ihr =>
    simp [paths_bin, Function.comp_def, ← ihl, ← ihr]

/-- The positions come in walk order: the empty path of the root first, then the left subtree's
positions, then the right subtree's. -/
theorem pairwise_lex_paths (t : Node) : (t.paths.map Prod.fst).Pairwise (List.Lex Role.Before) := by
  induction t with
  | lit tag x => simp
  | var tag s => simp
  | bin tag op l r ihl ihr =>
    rw [map_fst_paths_bin, List.pairwise_cons, List.pairwise_append]
    refine ⟨?_, List.pairwise_map.mpr (ihl.imp List.Lex.cons),
      List.pairwise_map.mpr (ihr.imp List.Lex.cons), ?_⟩
    · -- the root's path is a prefix of every other
      intro p hp
      simp only [List.mem_append, List.mem_map] at hp
      rcases hp with ⟨q, -, rfl⟩ | ⟨q, -, rfl⟩ <;> exact .nil
    · -- where a left path and a right path part, the left one comes first
      intro p hp q hq
      obtain ⟨p', -, rfl⟩ := List.mem_map.mp hp
      obtain ⟨q', -, rfl⟩ := List.mem_map.mp hq
      exact .rel trivial

/-- A path is a position exactly when it can be followed from the root. -/
theorem mem_paths_iff {t : Node} {p : List Role} :
    p ∈ t.paths.map Prod.fst ↔ (t.follow? p).isSome := by
  induction t generalizing p with
  | lit tag x => cases p <;> simp
  | var tag s => cases p <;> simp
  | bin tag op l r ihl ihr =>
    rw [map_fst_paths_bin]
    rcases p with _ | ⟨_ | _, p⟩
    · simp
    · simpa using ihl
    · simpa using ihr

/-- Each position is paired with the node found by following it. -/
theorem follow?_of_mem_paths {t : Node} {e : List Role × Node} (h : e ∈ t.paths) :
    t.follow? e.1 = some e.2 := by
  induction t generalizing e with
  | lit tag x =>
    rw [paths_lit, List.mem_singleton] at h
    subst h
    rfl
  | var tag s =>
    rw [paths_var, List.mem_singleton] at h
    subst h
    rfl
  | bin tag op l r ihl ihr =>
    rw [paths_bin, List.mem_cons, List.mem_append, List.mem_map, List.mem_map] at h
    rcases h with rfl | ⟨e', he, rfl⟩ | ⟨e', he, rfl⟩
    · rfl
    · exact ihl he
    · exact ihr he

/-! ## Sizes counted with a cache -/

theorem sizeWith_of_lookup {n : Node} {cache : List (Nat × Nat)} {s : Nat}
    (h : cache.lookup n.tag = some s) : n.sizeWith cache = (s, cache) := by
  rw [sizeWith.eq_def, h]

theorem sizeWith_bin_of_lookup {tag : Nat} {op : Value} {l r : Node} {cache : List (Nat × Nat)}
    (h : cache.lookup tag = none) :
    (bin tag op l r).sizeWith cache =
      (1 + ((l.sizeWith cache).1 + (r.sizeWith (l.sizeWith cache).2).1),
        (tag, 1 + ((l.sizeWith cache).1 + (r.sizeWith (l.sizeWith cache).2).1)) ::
          (r.sizeWith (l.sizeWith cache).2).2) := by
  rw [sizeWith.eq_def]
  simp only [Node.tag, h]

theorem sizeWith_leaf_of_lookup {n : Node} {cache : List (Nat × Nat)}
    (hleaf : n.children = []) (h : cache.lookup n.tag = none) :
    n.sizeWith cache = (1, (n.tag, 1) :: cache) := by
  cases n with
  | bin => cases hleaf
  | lit | var =>
    rw [sizeWith.eq_def]
    simp only [Node.tag] at h ⊢
    rw [h]

/-- A cache of sizes is right for a family of trees when each count it holds for a tag is the
number of positions of every node of the family with that tag. -/
def SizesSound (roots : List Node) (cache : List (Nat × Nat)) : Prop :=
  ∀ k s, cache.lookup k = some s → ∀ m ∈ subtreesOf roots, m.tag = k → m.preorder.length = s

theorem sizesSound_nil (roots : List Node) : SizesSound roots [] := by
  intro k s h
  cases h

section Cache

variable {roots : List Node}

/-- Storing the count of a node of a coherent family keeps a right cache right: every node of the
family with its tag is that node. -/
theorem SizesSound.cons (hcoh : Coherent roots) {cache : List (Nat × Nat)}
    (hc : SizesSound roots cache) {m : Node} (hm : m ∈ subtreesOf roots) :
    SizesSound roots ((m.tag, m.preorder.length) :: cache) := by
  rintro _ s hk m' hm' rfl
  rcases lookup_cons_of_coherent hcoh hm hm' hk with ⟨rfl, rfl⟩ | hk
  · rfl
  · exact hc _ s hk m' hm' rfl

/-- A node found in a right cache is counted right, and the cache stays as it is. -/
theorem SizesSound.sizeWith_of_lookup {cache : List (Nat × Nat)} (hc : SizesSound roots cache)
    {m : Node} (hm : m ∈ subtreesOf roots) {s : Nat} (hk : cache.lookup m.tag = some s) :
    (m.sizeWith cache).1 = m.preorder.length ∧ SizesSound roots (m.sizeWith cache).2 := by
  rw [Node.sizeWith_of_lookup hk]
  exact ⟨(hc m.tag s hk m hm rfl).symm, hc⟩

/-- A leaf counted from a right cache counts one position and leaves the cache right. -/
theorem SizesSound.sizeWith_leaf (hcoh : Coherent roots) {cache : List (Nat × Nat)}
    (hc : SizesSound roots cache) {n : Node} (hn : n ∈ subtreesOf roots)
    (hleaf : n.children = []) :
    (n.sizeWith cache).1 = n.preorder.length ∧ SizesSound roots (n.sizeWith cache).2 := by
  cases hk : cache.lookup n.tag with
  | some s => exact hc.sizeWith_of_lookup hn hk
  | none =>
    have hlen : n.preorder.length = 1 := by
      cases n with
      | bin => cases hleaf
      | lit | var => rfl
    have hcons := hc.cons hcoh hn
    rw [hlen] at hcons
    rw [sizeWith_leaf_of_lookup hleaf hk, hlen]
    exact ⟨rfl, hcons⟩

/-- Counting a node of a coherent family from a right cache gives its number of positions and
leaves the cache right. The induction follows the count: a node found in the cache was counted
right, and any other is one more than its children, counted left then right, the right one from
the cache the left one leaves. -/
theorem sizeWith_sound (hcoh : Coherent roots) {m : Node} (hm : m ∈ subtreesOf roots)
    {cache : List (Nat × Nat)} (hc : SizesSound roots cache) :
    (m.sizeWith cache).1 = m.preorder.length ∧ SizesSound roots (m.sizeWith cache).2 := by
  induction m generalizing cache with
  | lit tag x => exact hc.sizeWith_leaf hcoh hm rfl
  | var tag name => exact hc.sizeWith_leaf hcoh hm rfl
  | bin tag op l r ihl ihr =>
    cases hk : cache.lookup tag with
    | some s => exact hc.sizeWith_of_lookup hm hk
    | none =>
      obtain ⟨hl, hcl⟩ := ihl (lhs_mem_subtreesOf hm) hc
      obtain ⟨hr, hcr⟩ := ihr (rhs_mem_subtreesOf hm) hcl
      have hlen : (bin tag op l r).preorder.length =
          1 + (l.preorder.length + r.preorder.length) := by
        simp only [preorder_bin, List.length_cons, List.length_append]
        omega
      have hstore := hcr.cons hcoh hm
      rw [hlen, ← hl, ← hr] at hstore
      rw [sizeWith_bin_of_lookup hk]
      exact ⟨by rw [hl, hr, hlen], hstore⟩

end Cache

/-- A constructor-built tree has as many nodes as positions. -/
theorem size_eq_length_preorder {t : Node} (hcoh : Coherent [t]) : t.size = t.preorder.length :=
  (sizeWith_sound hcoh (mem_subtreesOf_of_mem (List.mem_singleton_self t)) (sizesSound_nil _)).1

/-- The depth-first walk with paths lists the positions of a constructor-built tree in walk order:
its paths come in the order of `List.Lex Role.Before`, a path before its extensions and the left
side before the right, so no path comes twice; they are exactly the paths that can be followed
from the root, each paired with the node found there. Its nodes are the depth-first walk, and the
size of the tree is the number of positions, also when the counts of some nodes were stored in
the cache before, for instance through another parent of a shared node. -/
theorem paths_in_preorder (t : Node) (hcoh : Coherent [t]) :
    let P := t.paths.map Prod.fst
    P.Pairwise (List.Lex Role.Before) ∧ P.Nodup ∧ (∀ p, p ∈ P ↔ (t.follow? p).isSome) ∧
      t.paths.map (fun e => (e.1, some e.2)) = P.map (fun p => (p, t.follow? p)) ∧
      t.traverse (.str "depth_first") = .ok (t.paths.map Prod.snd) ∧
      t.size = P.length ∧ ∀ cache, SizesSound [t] cache → (t.sizeWith cache).1 = P.length := by
  intro P
  have hlen : P.length = t.preorder.length := by
    rw [List.length_map, ← map_snd_paths, List.length_map]
  have hsorted := pairwise_lex_paths t
  -- no path comes before itself, so paths in strict walk order are distinct
  have hnodup : P.Nodup := hsorted.imp fun {a _} h => by
    rintro rfl
    exact List.lex_irrefl Role.not_before_self a h
  refine ⟨hsorted, hnodup, fun p => mem_paths_iff, ?_, ?_, ?_, fun cache hc => ?_⟩
  · rw [List.map_map]
    exact List.map_congr_left fun e he => by rw [Function.comp_apply, follow?_of_mem_paths he]
  · rw [map_snd_paths]
    exact traverse_depthFirst t
  · rw [hlen]
    exact size_eq_length_preorder hcoh
  · rw [hlen]
    exact (sizeWith_sound hcoh (mem_subtreesOf_of_mem (List.mem_singleton_self t)) hc).1

/-- In `x * (x + 1)` the variable `x` is one node with two parents: the sum counts it first, and
the product reads its count back from the cache. -/
theorem paths_in_preorder_shared :
    let x := var 2 "x"
    let t := bin 0 (.operator .multiply) x (bin 1 (.operator .add) x (lit 3 1))
    Coherent [t] ∧
      let P := t.paths.map Prod.fst
      P.Pairwise (List.Lex Role.Before) ∧ P.Nodup ∧ (∀ p, p ∈ P ↔ (t.follow? p).isSome) ∧
        t.paths.map (fun e => (e.1, some e.2)) = P.map (fun p => (p, t.follow? p)) ∧
        t.traverse (.str "depth_first") = .ok (t.paths.map Prod.snd) ∧
        t.size = P.length ∧ ∀ cache, SizesSound [t] cache → (t.sizeWith cache).1 = P.length := by
  intro x t
  have hcoh : Coherent [t] := by
    intro a ha b hb hab
    simp only [subtreesOf, t, x, List.flatMap_cons, List.flatMap_nil, List.append_nil, preorder_bin,
      preorder_var, preorder_lit, List.mem_cons, List.mem_append, List.not_mem_nil,
      or_false] at ha hb
    rcases ha with rfl | rfl | rfl | rfl | rfl <;> rcases hb with rfl | rfl | rfl | rfl | rfl <;>
      simp_all [Node.tag]
  exact ⟨hcoh, paths_in_preorder t hcoh⟩

end Node

end ExprTree
