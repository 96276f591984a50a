/-!
  Sorted tables of closed code-point ranges, the form in which the character classes of this
  library are stored, and membership by binary search.
-/

namespace ExprTree.Text

/-- A table of closed ranges `lo ≤ n ≤ hi`, sorted and pairwise disjoint. -/
structure RangeTable where
  ranges : Array (Nat × Nat)

namespace RangeTable

/-- Binary search for `n` between positions `lo` (inclusive) and `hi` (exclusive). -/
def search (t : RangeTable) (n : Nat) (lo hi : Nat) : Bool :=
  if lo < hi then
    let mid := (lo + hi) / 2
    match t.ranges[mid]? with
    | none => false
    | some (a, b) =>
      if n < a then search t n lo mid
      else if b < n then search t n (mid + 1) hi
      else true
  else false
termination_by hi - lo

/-- Whether `n` lies in a range of the table. -/
def contains (t : RangeTable) (n : Nat) : Bool :=
  t.search n 0 t.ranges.size

/-- Whether the code point of `c` lies in a range of the table. -/
def containsChar (t : RangeTable) (c : Char) : Bool :=
  t.contains c.toNat

end RangeTable

end ExprTree.Text
