import ExprTree.Node.Walk

/-
  The variables of a tree through its walk. `Node.occurrences` lists the names at the variable
  positions of the depth-first walk, a name once for each position; `Node.variables` keeps the
  first occurrence of each (`variables_eq_dedup`). So a name is a variable exactly when it occurs
  (`mem_variables`), the occurrences of a binary node are those of its left child followed by
  those of its right child (`occurrences_bin`), and the first variable with a property is the
  first occurrence with it (`find?_variables`).
-/

namespace ExprTree

namespace Node

/-- The name of a variable node. -/
def nameOf? : Node → Option String
  | .var _ s => some s
  | _ => none

/-- The names at the variable positions of a tree, depth first, with repeats. -/
def occurrences (n : Node) : List String :=
  n.preorder.filterMap nameOf?

/-- Adds a name to a list of distinct names unless it is there already. -/
def addNew (acc : List String) (s : String) : List String :=
  if acc.contains s then acc else acc ++ [s]

theorem variables_eq_dedup (n : Node) : n.variables = n.occurrences.foldl addNew [] := by
  rfl

@[simp] theorem occurrences_lit (tag : Nat) (x : Float) : (lit tag x).occurrences = [] := rfl

@[simp] theorem occurrences_var (tag : Nat) (s : String) : (var tag s).occurrences = [s] := rfl

@[simp] theorem occurrences_bin (tag : Nat) (op : Value) (l r : Node) :
    (bin tag op l r).occurrences = l.occurrences ++ r.occurrences := by
  show List.filterMap nameOf? (bin tag op l r :: (l.preorder ++ r.preorder)) = _
  rw [List.filterMap_cons_none rfl, List.filterMap_append]
  rfl

theorem mem_foldl_addNew (xs acc : List String) (s : String) :
    s ∈ xs.foldl addNew acc ↔ s ∈ acc ∨ s ∈ xs := by
  induction xs generalizing acc with
  | nil => simp
  | cons x xs ih =>
    rw [List.foldl_cons, ih]
    unfold addNew
    by_cases h : acc.contains x = true
    · rw [if_pos h]
      have hx : x ∈ acc := List.contains_iff_mem.mp h
      constructor
      · rintro (h' | h')
        · exact .inl h'
        · exact .inr (List.mem_cons_of_mem x h')
      · rintro (h' | h')
        · exact .inl h'
        · rcases List.mem_cons.mp h' with rfl | h''
          · exact .inl hx
          · exact .inr h''
    · rw [if_neg h]
      simp only [List.mem_append, List.mem_cons, List.not_mem_nil, false_or, or_assoc]

/-- A name is a variable of a tree exactly when it occurs at a variable position. -/
theorem mem_variables {n : Node} {s : String} : s ∈ n.variables ↔ s ∈ n.occurrences := by
  rw [variables_eq_dedup, mem_foldl_addNew]
  simp

/-- Dropping the names already met keeps the first name with a property: a dropped name was met
before, and had the property there if it has it. -/
theorem find?_foldl_addNew (p : String → Bool) (xs acc : List String) :
    (xs.foldl addNew acc).find? p = (acc ++ xs).find? p := by
  induction xs generalizing acc with
  | nil => simp
  | cons x xs ih =>
    rw [List.foldl_cons, ih]
    unfold addNew
    by_cases h : acc.contains x = true
    · rw [if_pos h, List.find?_append, List.find?_append, List.find?_cons]
      cases hacc : acc.find? p with
      | some y => rfl
      | none =>
        -- `x` was met before and no earlier name has the property, so neither has `x`
        have hx : p x = false := by
          have := List.find?_eq_none.mp hacc x (List.contains_iff_mem.mp h)
          simpa using this
        simp [hx]
    · rw [if_neg h, List.append_assoc, List.singleton_append]

/-- The first variable of a tree with a property is its first occurrence with it. -/
theorem find?_variables (p : String → Bool) (n : Node) :
    n.variables.find? p = n.occurrences.find? p := by
  rw [variables_eq_dedup, find?_foldl_addNew, List.nil_append]

end Node

end ExprTree
