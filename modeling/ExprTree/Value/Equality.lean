import ExprTree.Error
/-!
  Equality and hashing of values. Numbers compare by their exact value across kinds, so a truth
  value equals 0 or 1, an operator equals its code, and a whole number equals a float only when
  the float is that whole number; a NaN equals nothing. Texts compare by their characters, lists
  item by item, records by their keys and the values under them, where an item is equal to the
  very same object before its value is compared: a list holding one NaN object equals another
  list holding that object. Values of different kinds are unequal, and a tensor equals nothing.
  Where a comparison is used as a condition, a tensor is compared element by element and the
  condition is the one element's result, also where the tensor is an item of a list or a record
  (`Value.eqTruth`).

  Hashing refuses lists, records and tensors. For the other values `Value.hash` agrees with
  equality: equal values hash alike, because every number is hashed through its exact value.
-/

namespace ExprTree

namespace Value

/-- The exact value of a number as a whole number, or `none` for a float that is not whole. -/
def wholeNumber? : Value → Option Int
  | .bool b => some (if b then 1 else 0)
  | .int n => some n
  | .operator o => some o.code
  | .float x =>
    if x.isNaN ∨ x.isInf then none
    else if x == 0 then some 0
    else
      match (Decimal.Binary.ofFloat x).wholeValue? with
      | some n => some (if Decimal.signBit x then -(n : Int) else n)
      | none => none
  | _ => none

/-- Whether two numbers have the same exact value. -/
def numberEq (a b : Value) : Bool :=
  match a, b with
  | .float x, .float y => x == y
  | a, b =>
    match a.wholeNumber?, b.wholeNumber? with
    | some m, some n => m == n
    | _, _ => false

/-- Whether two values are one object. Only NaN objects carry their identity: any other value
equals itself, so its identity adds nothing to a comparison. -/
def sameObject : Value → Value → Bool
  | .nanObject i, .nanObject j => i == j
  | _, _ => false

/-- Equality of values. Items of lists and records are equal when they are one object or equal
values. -/
def eqv : Value → Value → Bool
  | .null, .null => true
  | .str s, .str t => s == t
  | .list xs, .list ys =>
    xs.length == ys.length && (xs.attach.zip ys).all fun (⟨x, _⟩, y) => sameObject x y || eqv x y
  | .dict kvs, .dict lws =>
    kvs.length == lws.length && kvs.attach.all fun ⟨kv, _⟩ =>
      match lws.lookup kv.1 with
      | some w => sameObject kv.2 w || eqv kv.2 w
      | none => false
  | a, b => a.isNumber && b.isNumber && numberEq a b
termination_by a _ => a
decreasing_by
  all_goals simp_wf
  · have := List.sizeOf_lt_of_mem ‹_ ∈ xs›; omega
  · have := List.sizeOf_lt_of_mem ‹kv ∈ kvs›
    obtain ⟨k, v⟩ := kv
    simp at this ⊢; omega

/-- The element-wise comparison `a == b` when a tensor takes part, as the list of its results
in row-major order; `none` when neither side is a tensor. Two tensors are compared over their
broadcast shape, a number with every element, and any other value equals no element. -/
def tensorEq? : Value → Value → Option (Except Fault (List Bool))
  | .tensor a, .tensor b =>
    some <| match Tensor.zipWith? (fun x y => if x == y then 1 else 0) a b with
      | some t => pure (t.toList.map (· == 1))
      | none => throw (.compareShapes a.shape b.shape)
  | .tensor a, v | v, .tensor a =>
    some <| pure <| match v.wholeNumber?, v with
      | _, .float y => a.toList.map (· == y)
      | some n, _ => a.toList.map fun x => (Value.float x).wholeNumber? == some n
      | none, _ => a.toList.map fun _ => false
  | _, _ => none

/-- The truth of an element-wise comparison: that of its one element; with none or with more
than one it is not decided. -/
def truthOf : List Bool → Except Fault Bool
  | [] => throw .emptyTruth
  | [b] => pure b
  | _ => throw .ambiguousTruth

/-- The truth of `a == b` used as a condition. Lists and records compare item by item, each item
as a condition of its own unless the two items are one object, and stop at the first items that
differ; a comparison in which a tensor takes part has the truth of its element-wise comparison;
any other values compare by `eqv`. -/
def eqTruth : Value → Value → Except Fault Bool
  | .list xs, .list ys =>
    if xs.length == ys.length then
      (xs.attach.zip ys).allM fun (⟨x, _⟩, y) => if sameObject x y then pure true else eqTruth x y
    else pure false
  | .dict kvs, .dict lws =>
    if kvs.length == lws.length then
      kvs.attach.allM fun ⟨kv, _⟩ =>
        match lws.lookup kv.1 with
        | some w => if sameObject kv.2 w then pure true else eqTruth kv.2 w
        | none => pure false
    else pure false
  | a, b =>
    match tensorEq? a b with
    | some r => r >>= truthOf
    | none => pure (a.eqv b)
termination_by a _ => a
decreasing_by
  all_goals simp_wf
  · have := List.sizeOf_lt_of_mem ‹_ ∈ xs›; omega
  · have := List.sizeOf_lt_of_mem ‹kv ∈ kvs›
    obtain ⟨k, v⟩ := kv
    simp at this ⊢; omega

/-- Mixes a hash into another. -/
def mix (h k : UInt64) : UInt64 :=
  mixHash h k

/-- The hash of a value; lists, records and tensors cannot be hashed. -/
def hash : Value → Except Fault UInt64
  | .null => pure 0x6e6f6e65
  | .str s => pure (mix 0x737472 (Hashable.hash s))
  | .float x =>
    if x.isNaN then pure 0x6e616e
    else match (Value.float x).wholeNumber? with
      | some n => pure (mix 0x6e756d (Hashable.hash n))
      | none => pure (mix 0x666c74 x.toBits)
  | .nanObject _ => pure 0x6e616e
  | v@(.list _) | v@(.dict _) | v@(.tensor _) => throw (.unhashable v)
  | v => pure (mix 0x6e756d (Hashable.hash (v.wholeNumber?.getD 0)))

end Value

end ExprTree
