import Mathlib
import ExprTree.Proofs.Validation
import ExprTree.Expression

/-
  Batch evaluation: a tree evaluated once over named columns of floats, as one evaluation per row.
  The columns are converted to tensors; unless they all have one axis of one common length, the
  batch is refused for its columns, whatever the tree. Otherwise the tree is compiled and then
  evaluated once with every name bound to its column, and the result is spread over the rows.

  Compiling comes first, so a slot without an operator is reported before anything is evaluated:
  the fault of a batch is that of the first such slot of the depth-first walk, and only when there
  is none, that of the first variable that names no column (`Node.batchFault?`). Evaluating one
  row alone reports the first of either kind in the walk, so the two disagree on a tree whose
  unbound variable comes before its broken slot (`evaluateBatch_reports_operator_first`). Where
  nothing fails, the batch holds at each row what the tree evaluates to over that row.

  Main result: `evaluateBatch_agrees_with_rows`.
-/

namespace ExprTree

/-! ## Contexts built from records -/

namespace Context

/-- A text names only itself, from either side of the comparison. -/
theorem eqv_str_right {b : Value} {s : String} : b.eqv (.str s) = true ↔ b = .str s := by
  cases b with
  | str t => simp [Value.eqv]
  | _ => simp [Value.eqv, Value.isNumber]

/-- Rebinding values keeps the names, so a search by name finds the rebound entry. -/
theorem find?_map_of_fst {g : Value × Value → Value × Value} (hg : ∀ p, (g p).1 = p.1)
    (bs : List (Value × Value)) (name : Value) :
    (bs.map g).find? (fun p => p.1.eqv name) = (bs.find? fun p => p.1.eqv name).map g := by
  induction bs with
  | nil => rfl
  | cons p bs ih => cases hp : p.1.eqv name <;> simp [hg, hp, ih]

/-- Binding a text name: the name now looks up the new value, and every other text name what it
looked up before. -/
theorem lookup?_insert_str (bs : List (Value × Value)) (k s : String) (v : Value) :
    Context.lookup? ⟨insert bs (.str k) v⟩ (.str s) =
      if k = s then some v else Context.lookup? ⟨bs⟩ (.str s) := by
  simp only [insert, Context.lookup?]
  split
  · -- the name is bound: its bindings take the new value, the others stay
    rename_i hany
    rw [find?_map_of_fst, Option.map_map]
    · split
      · subst k
        obtain ⟨p, hp, hpk⟩ := List.any_eq_true.mp hany
        cases hf : bs.find? fun p => p.1.eqv (.str s) with
        | none => exact absurd hpk (by simpa using List.find?_eq_none.mp hf p hp)
        | some q =>
          have hq := List.find?_some hf
          simp [hq]
      · rename_i hks
        cases hf : bs.find? fun p => p.1.eqv (.str s) with
        | none => rfl
        | some q =>
          have hfound := List.find?_some hf
          have hq : q.1 = .str s := eqv_str_right.mp hfound
          have hqk : q.1.eqv (.str k) = false := by
            rw [hq, Bool.eq_false_iff]
            exact fun h => hks (Value.str.inj (eqv_str_right.mp h)).symm
          simp [hqk]
    · intro p
      split <;> rfl
  · -- a new name is bound after the others
    rename_i hany
    rw [List.find?_append]
    split
    · subst k
      have hnone : (bs.find? fun p => p.1.eqv (.str s)) = none :=
        List.find?_eq_none.mpr fun p hp hpk => hany (List.any_eq_true.mpr ⟨p, hp, hpk⟩)
      simp [hnone, Value.eqv]
    · rename_i hks
      simp [Value.eqv, hks]

/-- Binding a record entry by entry: a text name looks up the value of its last entry, and a
name without an entry what it looked up before. -/
theorem lookup?_foldl_insert (kvs : List (String × Value)) (bs : List (Value × Value)) (s : String) :
    Context.lookup? ⟨kvs.foldl (fun bs (k, v) => insert bs (.str k) v) bs⟩ (.str s) =
      ((kvs.reverse.find? fun p => p.1 = s).map Prod.snd).or (Context.lookup? ⟨bs⟩ (.str s)) := by
  induction kvs generalizing bs with
  | nil => rfl
  | cons kv kvs ih =>
    obtain ⟨k, v⟩ := kv
    rw [List.foldl_cons, ih, lookup?_insert_str, List.reverse_cons, List.find?_append]
    -- the new entry counts only where no later entry has the same key
    by_cases hks : k = s <;> cases kvs.reverse.find? fun p => decide (p.1 = s) <;> simp [hks]

/-- A record binds each text key to the value of its last entry. -/
theorem lookup?_ofEntries (kvs : List (String × Value)) (s : String) :
    (ofEntries kvs).lookup? (.str s) = (kvs.reverse.find? fun p => p.1 = s).map Prod.snd := by
  rw [ofEntries, lookup?_foldl_insert]
  exact Option.or_none

theorem lookup?_ofEntries_eq_none {kvs : List (String × Value)} {s : String} :
    (ofEntries kvs).lookup? (.str s) = none ↔ s ∉ kvs.map Prod.fst := by
  simp only [lookup?_ofEntries, Option.map_eq_none_iff, List.find?_eq_none, List.mem_reverse,
    decide_eq_true_eq, List.mem_map, not_exists, not_and]

theorem lookup?_ofEntries_eq_some {kvs : List (String × Value)} {s : String} {v : Value}
    (h : (ofEntries kvs).lookup? (.str s) = some v) : (s, v) ∈ kvs := by
  rw [lookup?_ofEntries] at h
  obtain ⟨⟨k, w⟩, hf, rfl⟩ := Option.map_eq_some_iff.mp h
  have hk : k = s := by simpa using List.find?_some hf
  subst hk
  exact List.mem_reverse.mp (List.mem_of_find?_eq_some hf)

/-- Changing every value of a record changes what each name looks up in the same way. -/
theorem lookup?_ofEntries_map (kvs : List (String × Value)) (g : Value → Value) (s : String) :
    (ofEntries (kvs.map fun p => (p.1, g p.2))).lookup? (.str s) =
      ((ofEntries kvs).lookup? (.str s)).map g := by
  rw [lookup?_ofEntries, lookup?_ofEntries, ← List.map_reverse, List.find?_map, Option.map_map,
    Option.map_map]
  rfl

end Context

/-! ## Evaluation reads only its variables -/

namespace Node

/-- Evaluation reads the context only through the names of the tree's variables. -/
theorem evaluate_congr {c c' : Context} (t : Node)
    (h : ∀ s ∈ t.occurrences, c.lookup? (.str s) = c'.lookup? (.str s)) :
    t.evaluate c = t.evaluate c' := by
  induction t with
  | lit tag x => rfl
  | var tag s => simp only [evaluate, Context.get, h s (by simp)]
  | bin tag op l r ihl ihr =>
    simp only [occurrences_bin, List.mem_append] at h
    simp only [evaluate, ihl fun s hs => h s (.inl hs), ihr fun s hs => h s (.inr hs)]

/-- The fault a batch over columns with the given names reports: the first slot of the depth-first
walk that holds no operator, or else the first variable that names no column. -/
def batchFault? (t : Node) (names : List String) : Option Fault :=
  (t.preorder.findSome? slotFault?).or
    ((t.variables.find? fun s => !names.contains s).map fun s => .undefined (.str s))

/-- A batch reports a slot without an operator or a variable without a column, nothing else. -/
theorem batchFault?_eq_some {t : Node} {names : List String} {f : Fault}
    (h : t.batchFault? names = some f) :
    (∃ op, f = .unknownOperator op) ∨ ∃ s, f = .undefined (.str s) := by
  rw [batchFault?, Option.or_eq_some_iff] at h
  rcases h with h | ⟨-, h⟩
  · obtain ⟨m, -, hm⟩ := List.exists_of_findSome?_eq_some h
    exact .inl (slotFault?_eq_some hm)
  · obtain ⟨s, -, rfl⟩ := Option.map_eq_some_iff.mp h
    exact .inr ⟨s, rfl⟩

end Node

/-! ## Columns and rows -/

namespace Expression

open Tensor

/-- Shapes of one axis each flatten to the list of their lengths. -/
theorem flatten_map_shape {ts : List Tensor} {f : Tensor → Nat} (h : ∀ a ∈ ts, a.shape = [f a]) :
    (ts.map Tensor.shape).flatten = ts.map f := by
  rw [List.map_congr_left h, ← List.flatMap_def, ← List.map_eq_flatMap]

/-- Tensors have a common length exactly when each has one axis of that length; without tensors
the length is 1. -/
theorem commonLength_eq_some_iff {ts : List Tensor} {n : Nat} :
    commonLength ts = some n ↔ (∀ a ∈ ts, a.shape = [n]) ∧ (ts = [] → n = 1) := by
  constructor
  · intro h
    unfold commonLength at h
    split at h
    · rename_i hall
      -- every shape is a single length, so the lengths are the flattened shapes
      have hone : ∀ a ∈ ts, a.shape = [a.shape.headD 0] := by
        intro a ha
        have hlen : a.shape.length = 1 := by simpa [Tensor.ndim] using List.all_eq_true.mp hall a ha
        obtain ⟨d, hd⟩ := List.length_eq_one_iff.mp hlen
        simp [hd]
      rw [flatten_map_shape hone] at h
      split at h
      · rename_i hnil
        obtain rfl : ts = [] := List.map_eq_nil_iff.mp hnil
        exact ⟨nofun, fun _ => (Option.some.inj h).symm⟩
      · rename_i m rest hcons
        split at h
        · rename_i hrest
          obtain rfl := Option.some.inj h
          refine ⟨fun a ha => ?_, fun hts => by simp [hts] at hcons⟩
          have hmem : a.shape.headD 0 ∈ m :: rest := hcons ▸ List.mem_map_of_mem ha
          rw [hone a ha]
          rcases List.mem_cons.mp hmem with hm | hm
          · rw [hm]
          · rw [beq_iff_eq.mp (List.all_eq_true.mp hrest _ hm)]
        · cases h
    · cases h
  · rintro ⟨hs, h1⟩
    cases ts with
    | nil => rw [h1 rfl]; rfl
    | cons a rest =>
      have hall : (a :: rest).all (·.ndim == 1) = true :=
        List.all_eq_true.mpr fun b hb => by simp [Tensor.ndim, hs b hb]
      simp only [commonLength, hall, if_true]
      rw [flatten_map_shape (f := fun _ => n) hs, List.map_cons]
      -- every length is n
      exact if_pos (List.all_eq_true.mpr fun b hb => by
        obtain ⟨_, -, rfl⟩ := List.mem_map.mp hb
        exact beq_self_eq_true n)

/-- Tensors have no common length exactly when some has not one axis or two lengths differ. -/
theorem commonLength_eq_none_iff {ts : List Tensor} :
    commonLength ts = none ↔ ¬∃ n, ∀ a ∈ ts, a.shape = [n] := by
  rw [← not_iff_not, not_not, ← ne_eq, Option.ne_none_iff_exists']
  constructor
  · rintro ⟨n, hn⟩
    exact ⟨n, (commonLength_eq_some_iff.mp hn).1⟩
  · rintro ⟨n, hs⟩
    by_cases hts : ts = []
    · exact ⟨1, commonLength_eq_some_iff.mpr ⟨fun a ha => by simp [hts] at ha, fun _ => rfl⟩⟩
    · exact ⟨n, commonLength_eq_some_iff.mpr ⟨hs, fun h => absurd h hts⟩⟩

@[simp] theorem shape_spread (n : Nat) (z : Operand) : (spread n z).shape = [n] := by
  cases z <;> rfl

/-- The rows of one axis. -/
theorem indices_single (n : Nat) : indices [n] = (List.range n).map fun i => [i] := by
  simp [indices, ← List.map_eq_flatMap]

/-- Spreading an operand over `n` rows lists its element at each row. -/
theorem toList_spread (n : Nat) (z : Operand) :
    (spread n z).toList = (List.range n).map fun i => z.elementAt [i] := by
  cases z <;> simp [spread, Tensor.ofFn, Tensor.toList, indices_single, Operand.elementAt,
    Function.comp_def, List.map_const']

/-- The context a batch is evaluated in: each column name bound to its column. -/
def columnContext (arrays : List (String × Tensor)) : Context :=
  Context.ofEntries (arrays.map fun (k, a) => (k, .tensor a))

/-- The context of one row: each column name bound to the float at that row of its column. -/
def rowContext (arrays : List (String × Tensor)) (i : Nat) : Context :=
  Context.ofEntries (arrays.map fun (k, a) => (k, .float (a.get [i])))

theorem lookup?_columnContext_eq_none {arrays : List (String × Tensor)} {s : String} :
    (columnContext arrays).lookup? (.str s) = none ↔ s ∉ arrays.map Prod.fst := by
  rw [columnContext, Context.lookup?_ofEntries_eq_none, List.map_map]
  rfl

theorem lookup?_columnContext_eq_some {arrays : List (String × Tensor)} {s : String} {v : Value}
    (h : (columnContext arrays).lookup? (.str s) = some v) : ∃ a, (s, a) ∈ arrays ∧ v = .tensor a := by
  obtain ⟨⟨k, a⟩, ha, hka⟩ := List.mem_map.mp (Context.lookup?_ofEntries_eq_some h)
  obtain ⟨rfl, rfl⟩ := Prod.mk.inj hka
  exact ⟨a, ha, rfl⟩

theorem ofValue_tensor {a : Tensor} (h : 0 < a.ndim) : Operand.ofValue (.tensor a) = .ok (.tensor a) := by
  simp only [Operand.ofValue, h, if_true]
  rfl

/-- A row of columns with axes binds each name to the column's element there. -/
theorem lookup?_rowContext {arrays : List (String × Tensor)} (hnd : ∀ a ∈ arrays, 0 < a.2.ndim)
    (i : Nat) (s : String) :
    (rowContext arrays i).lookup? (.str s) = ((columnContext arrays).elementAt [i]).lookup? (.str s) := by
  rw [Context.lookup?_elementAt, columnContext, ← Context.lookup?_ofEntries_map, rowContext,
    List.map_map]
  congr 2
  refine List.map_congr_left fun ⟨k, a⟩ ha => ?_
  simp only [Function.comp_apply, Value.elementAt_of_ofValue (ofValue_tensor (hnd _ ha))]
  rfl

section Columns

variable {arrays : List (String × Tensor)} {n : Nat}

/-- Over columns of one length whose names cover the variables, a tree with operators in its
slots evaluates once, and at each row to the element of that result there. -/
theorem evaluate_columns {t : Node} (hreal : t.operatorsReal = true)
    (hshape : ∀ a ∈ arrays, a.2.shape = [n])
    (hbound : ∀ s ∈ t.occurrences, s ∈ arrays.map Prod.fst) :
    ∃ z, t.evaluate (columnContext arrays) = .ok z ∧
      ∀ i < n, t.evaluate (rowContext arrays i) = .ok (.scalar (z.elementAt [i])) := by
  have hnd : ∀ a ∈ arrays, 0 < a.2.ndim := fun a ha => by simp [Tensor.ndim, hshape a ha]
  -- every name of the tree is bound to a column, and every column has the shape [n]
  have hcols : ∀ s v, (columnContext arrays).lookup? (.str s) = some v →
      ∃ a, v = .tensor a ∧ a.shape = [n] := by
    intro s v hv
    obtain ⟨a, ha, rfl⟩ := lookup?_columnContext_eq_some hv
    exact ⟨a, rfl, hshape _ ha⟩
  have hb : t.Broadcasts (columnContext arrays) := by
    refine Node.evaluate_broadcasts hreal fun s hs => ?_
    obtain ⟨v, hv⟩ := Option.ne_none_iff_exists'.mp
      (mt lookup?_columnContext_eq_none.mp (not_not.mpr (hbound s hs)))
    obtain ⟨a, rfl, ha⟩ := hcols s v hv
    exact ⟨_, _, hv, ofValue_tensor (by simp [Tensor.ndim, ha])⟩
  have hshapes : ∀ sh ∈ t.arrayShapes (columnContext arrays), sh = [n] := by
    intro sh hsh
    obtain ⟨s, -, hs⟩ := List.mem_filterMap.mp hsh
    obtain ⟨v, hv, hsh⟩ := Option.bind_eq_some_iff.mp hs
    obtain ⟨a, rfl, ha⟩ := hcols s v hv
    simp only [Value.arrayShape?, Tensor.ndim, ha] at hsh
    simpa using hsh.symm
  -- the columns broadcast to [n], or no column takes part
  obtain ⟨sh, hsh, hfits⟩ : ∃ sh, broadcastShapes? (t.arrayShapes (columnContext arrays)) = some sh ∧
      Fits sh [n] := by
    by_cases hnil : t.arrayShapes (columnContext arrays) = []
    · exact ⟨[], by rw [hnil]; rfl, nil_fits [n]⟩
    · obtain ⟨sh₀, hsh₀⟩ := List.exists_mem_of_ne_nil _ hnil
      refine ⟨[n], ?_, Fits.refl [n]⟩
      rw [broadcastShapes?_congr (T := [[n]]) fun sh => ⟨fun h => by simp [hshapes sh h],
        fun h => by rw [List.mem_singleton.mp h, ← hshapes sh₀ hsh₀]; exact hsh₀⟩,
        broadcastShapes?_singleton]
  obtain ⟨z, hz, -, -, helem⟩ := hb.2 sh hsh
  refine ⟨z, hz, fun i hi => ?_⟩
  rw [Node.evaluate_congr t fun s _ => lookup?_rowContext hnd i s]
  exact helem [n] hfits [i] (by simp [Tensor.indices, hi])

/-- Over columns of one length, a tree with operators in its slots fails at its first variable
that names no column, wherever that variable stands. -/
theorem evaluate_columns_unbound {t : Node} (hreal : t.operatorsReal = true)
    (hshape : ∀ a ∈ arrays, a.2.shape = [n]) {s : String}
    (h : t.occurrences.find? (fun s => !(arrays.map Prod.fst).contains s) = some s) :
    t.evaluate (columnContext arrays) = .error (.undefined (.str s)) := by
  induction t with
  | lit tag x => simp at h
  | var tag name =>
    rw [Node.occurrences_var, List.find?_singleton] at h
    split at h
    · rename_i hname
      obtain rfl := Option.some.inj h
      have hnone : (columnContext arrays).lookup? (.str name) = none :=
        lookup?_columnContext_eq_none.mpr (by simpa using hname)
      simp only [Node.evaluate, Context.get, Value.hash, hnone]
      rfl
    · cases h
  | bin tag op l r ihl ihr =>
    obtain ⟨⟨o, rfl⟩, hl, hr⟩ := Node.operatorsReal_bin.mp hreal
    rw [Node.occurrences_bin, List.find?_append] at h
    rw [Node.evaluate_bin_operator]
    cases hlf : l.occurrences.find? fun s => !(arrays.map Prod.fst).contains s with
    | some s' =>
      -- the left child has the first unbound variable
      rw [hlf, Option.some_or] at h
      rw [ihl hl (h ▸ hlf)]
      rfl
    | none =>
      -- the left child evaluates, then the right one fails
      rw [hlf, Option.none_or] at h
      obtain ⟨zl, hzl, -⟩ := evaluate_columns hl hshape fun s hs => by
        simpa using List.find?_eq_none.mp hlf s hs
      rw [hzl, ihr hr h]
      rfl

end Columns

/-! ## Batches -/

section Batch

variable {t : Node} {columns : List (String × Value)} {arrays : List (String × Tensor)}

/-- Converting the columns one by one gives the tensors they convert to. -/
theorem mapM_toTensor
    (hconv : List.Forall₂ (fun c a => c.1 = a.1 ∧ c.2.toTensor = .ok a.2) columns arrays) :
    columns.mapM (fun (k, v) => do pure (k, ← v.toTensor)) = .ok arrays := by
  induction hconv with
  | nil => rfl
  | @cons c a cs rest hca _ ih =>
    obtain ⟨k, v⟩ := c
    obtain ⟨k', w⟩ := a
    obtain ⟨rfl, hv⟩ := hca
    simp only [List.mapM_cons, hv, ih]
    rfl

/-- A batch checks the lengths of its columns, then compiles the tree, then evaluates it once over
the columns and spreads the result over the rows. -/
theorem evaluateBatch_eq
    (hconv : List.Forall₂ (fun c a => c.1 = a.1 ∧ c.2.toTensor = .ok a.2) columns arrays) :
    evaluateBatch ⟨t⟩ columns = match commonLength (arrays.map Prod.snd) with
      | none => .error .columnShape
      | some n => t.compile >>= fun _ =>
          t.evaluate (columnContext arrays) >>= fun r => pure (spread n r) := by
  rw [evaluateBatch, mapM_toTensor hconv]
  rfl

/-- Over columns of one length, a batch fails with its fault, or gives at each row what the tree
evaluates to over that row. -/
theorem evaluateBatch_cases {n : Nat}
    (hconv : List.Forall₂ (fun c a => c.1 = a.1 ∧ c.2.toTensor = .ok a.2) columns arrays)
    (hlen : commonLength (arrays.map Prod.snd) = some n) :
    (∃ f, evaluateBatch ⟨t⟩ columns = .error f ∧ t.batchFault? (arrays.map Prod.fst) = some f) ∨
      ∃ z, evaluateBatch ⟨t⟩ columns = .ok (spread n z) ∧
        t.batchFault? (arrays.map Prod.fst) = none ∧
        ∀ i < n, t.evaluate (rowContext arrays i) = .ok (.scalar (z.elementAt [i])) := by
  have hshape : ∀ a ∈ arrays, a.2.shape = [n] := fun a ha =>
    (commonLength_eq_some_iff.mp hlen).1 a.2 (List.mem_map_of_mem ha)
  rw [evaluateBatch_eq hconv, hlen]
  -- compiling reports the first slot without an operator
  rcases compile_cases t with ⟨f, hc, hf⟩ | ⟨text, hc, hf⟩
  · refine .inl ⟨f, ?_, ?_⟩
    · rw [hc]
      rfl
    · rw [Node.batchFault?, hf]
      rfl
  · have hreal : t.operatorsReal = true :=
      (Node.operatorsReal_iff_slotFault? t).mpr (List.findSome?_eq_none_iff.mp hf)
    rw [hc]
    -- then evaluating reports the first variable without a column
    cases hfind : t.occurrences.find? fun s => !(arrays.map Prod.fst).contains s with
    | some s =>
      refine .inl ⟨.undefined (.str s), ?_, ?_⟩
      · show t.evaluate (columnContext arrays) >>= _ = _
        rw [evaluate_columns_unbound hreal hshape hfind]
        rfl
      · rw [Node.batchFault?, hf, Node.find?_variables, hfind]
        rfl
    | none =>
      obtain ⟨z, hz, hrows⟩ := evaluate_columns hreal hshape fun s hs => by
        simpa using List.find?_eq_none.mp hfind s hs
      refine .inr ⟨z, ?_, ?_, hrows⟩
      · show t.evaluate (columnContext arrays) >>= _ = _
        rw [hz]
        rfl
      · rw [Node.batchFault?, hf, Node.find?_variables, hfind]
        rfl

/-- The check of the columns comes first: a batch is refused for its columns exactly when they do
not all have one axis of one length, whatever the tree. -/
theorem evaluateBatch_eq_columnShape_iff
    (hconv : List.Forall₂ (fun c a => c.1 = a.1 ∧ c.2.toTensor = .ok a.2) columns arrays) :
    evaluateBatch ⟨t⟩ columns = .error .columnShape ↔ ¬∃ n, ∀ a ∈ arrays, a.2.shape = [n] := by
  cases hlen : commonLength (arrays.map Prod.snd) with
  | none =>
    refine iff_of_true ?_ ?_
    · rw [evaluateBatch_eq hconv, hlen]
    · simpa only [List.forall_mem_map] using commonLength_eq_none_iff.mp hlen
  | some n =>
    -- over columns of one length, the faults are those of the tree
    have hshape := (commonLength_eq_some_iff.mp hlen).1
    refine iff_of_false ?_ fun h => h ⟨n, fun a ha => hshape a.2 (List.mem_map_of_mem ha)⟩
    rcases evaluateBatch_cases (t := t) hconv hlen with ⟨f, he, hf⟩ | ⟨z, he, -, -⟩
    · rw [he]
      intro hcol
      cases hcol
      rcases Node.batchFault?_eq_some hf with ⟨op, h⟩ | ⟨s, h⟩ <;> cases h
    · rw [he]
      exact nofun

/-- A tree without variables evaluates the same in every context; with operators in its slots, to
a float. -/
theorem evaluate_of_variables_nil (hvars : t.variables = []) (hreal : t.operatorsReal = true) :
    ∃ x, t.evaluate Context.empty = .ok (.scalar x) ∧ ∀ c, t.evaluate c = .ok (.scalar x) := by
  have hocc : t.occurrences = [] :=
    List.eq_nil_iff_forall_not_mem.mpr fun s hs => by simpa [hvars] using Node.mem_variables.mpr hs
  have hfault := findSome?_fault_eq (c := Context.empty) hreal nofun
  rw [hocc, List.find?_nil, Option.map_none] at hfault
  rcases evaluate_cases (c := Context.empty) nofun t with ⟨f, -, hf⟩ | ⟨x, hx, -⟩
  · rw [hfault] at hf
    cases hf
  · refine ⟨x, hx, fun c => ?_⟩
    have hsame : t.evaluate c = t.evaluate Context.empty :=
      Node.evaluate_congr t fun s hs => by simp [hocc] at hs
    rw [hsame, hx]

/-- A batch is evaluated row by row. Take columns that convert to the tensors `arrays`, name by
name. The batch is refused for its columns exactly when they do not all have one axis of one
length, whatever the tree. Otherwise let `n` be that length, or 1 without columns. The batch
fails exactly with `Node.batchFault?`: the first slot of the depth-first walk that holds no
operator, and only without one, the first variable of the tree that names no column, whatever the
rows hold. When neither exists it gives a tensor of shape `[n]` whose element at each row is, bit
for bit, what the tree evaluates to with every name bound to that row's float of its column; a
tree without variables gives `n` copies of its one value. -/
theorem evaluateBatch_agrees_with_rows (t : Node) (columns : List (String × Value))
    (arrays : List (String × Tensor))
    (hconv : List.Forall₂ (fun c a => c.1 = a.1 ∧ c.2.toTensor = .ok a.2) columns arrays) :
    (evaluateBatch ⟨t⟩ columns = .error .columnShape ↔ ¬∃ n, ∀ a ∈ arrays, a.2.shape = [n]) ∧
      ∀ n, (∀ a ∈ arrays, a.2.shape = [n]) → (arrays = [] → n = 1) →
        (∀ f, evaluateBatch ⟨t⟩ columns = .error f ↔
          t.batchFault? (arrays.map Prod.fst) = some f) ∧
        (t.batchFault? (arrays.map Prod.fst) = none → ∃ r,
          evaluateBatch ⟨t⟩ columns = .ok r ∧ r.shape = [n] ∧
          List.Forall₂ (fun i x => t.evaluate (rowContext arrays i) = .ok (.scalar x))
            (List.range n) r.toList ∧
          (t.variables = [] → ∃ x, t.evaluate Context.empty = .ok (.scalar x) ∧
            r.toList = List.replicate n x)) := by
  refine ⟨evaluateBatch_eq_columnShape_iff hconv, fun n hshape hone => ?_⟩
  have hlen : commonLength (arrays.map Prod.snd) = some n := by
    rw [commonLength_eq_some_iff, List.forall_mem_map, List.map_eq_nil_iff]
    exact ⟨hshape, hone⟩
  rcases evaluateBatch_cases (t := t) hconv hlen with ⟨f, he, hf⟩ | ⟨z, he, hf, hrows⟩
  · -- the batch fails with its fault
    refine ⟨fun f' => ?_, fun h => by rw [hf] at h; cases h⟩
    rw [he, hf]
    exact ⟨fun h => by cases h; rfl, fun h => by cases h; rfl⟩
  · -- the batch holds the rows
    refine ⟨fun f' => iff_of_false (by rw [he]; exact nofun) (by rw [hf]; exact nofun),
      fun _ => ⟨spread n z, he, shape_spread n z, ?_, fun hvars => ?_⟩⟩
    · rw [toList_spread, List.forall₂_map_right_iff]
      exact List.forall₂_same.mpr fun i hi => hrows i (List.mem_range.mp hi)
    · have hreal : t.operatorsReal = true := by
        rw [Node.batchFault?, Option.or_eq_none_iff] at hf
        exact (Node.operatorsReal_iff_slotFault? t).mpr (List.findSome?_eq_none_iff.mp hf.1)
      obtain ⟨x, hx, hall⟩ := evaluate_of_variables_nil hvars hreal
      refine ⟨x, hx, ?_⟩
      rw [toList_spread, List.eq_replicate_iff, List.length_map, List.length_range]
      refine ⟨rfl, fun y hy => ?_⟩
      obtain ⟨i, hi, rfl⟩ := List.mem_map.mp hy
      have hrow := hrows i (List.mem_range.mp hi)
      rw [hall] at hrow
      cases hrow
      rfl

/-- Two columns of two rows, the second all zeros: the batch divides them row by row. -/
theorem evaluateBatch_agrees_with_rows_quotient :
    let t := Node.bin 0 (.operator .divide) (.var 1 "x") (.var 2 "y")
    let columns : List (String × Value) :=
      [("x", .tensor (Tensor.ofFn [2] fun ix => if ix = [0] then 1 else 0)),
        ("y", .tensor (Tensor.ofFn [2] fun _ => 0))]
    let arrays : List (String × Tensor) :=
      [("x", Tensor.ofFn [2] fun ix => if ix = [0] then 1 else 0),
        ("y", Tensor.ofFn [2] fun _ => 0)]
    List.Forall₂ (fun c a => c.1 = a.1 ∧ c.2.toTensor = .ok a.2) columns arrays ∧
      (evaluateBatch ⟨t⟩ columns = .error .columnShape ↔ ¬∃ n, ∀ a ∈ arrays, a.2.shape = [n]) ∧
      ∀ n, (∀ a ∈ arrays, a.2.shape = [n]) → (arrays = [] → n = 1) →
        (∀ f, evaluateBatch ⟨t⟩ columns = .error f ↔
          t.batchFault? (arrays.map Prod.fst) = some f) ∧
        (t.batchFault? (arrays.map Prod.fst) = none → ∃ r,
          evaluateBatch ⟨t⟩ columns = .ok r ∧ r.shape = [n] ∧
          List.Forall₂ (fun i x => t.evaluate (rowContext arrays i) = .ok (.scalar x))
            (List.range n) r.toList ∧
          (t.variables = [] → ∃ x, t.evaluate Context.empty = .ok (.scalar x) ∧
            r.toList = List.replicate n x)) := by
  intro t columns arrays
  have hconv : List.Forall₂ (fun c a => c.1 = a.1 ∧ c.2.toTensor = .ok a.2) columns arrays :=
    .cons ⟨rfl, rfl⟩ (.cons ⟨rfl, rfl⟩ .nil)
  exact ⟨hconv, evaluateBatch_agrees_with_rows t columns arrays hconv⟩

/-- Compiling comes first: a batch over no columns reports the slot of the right child that holds
no operator, although the left child is a variable without a column and evaluating the tree
reports that variable. -/
theorem evaluateBatch_reports_operator_first :
    let t := Node.bin 0 (.operator .add) (.var 1 "x") (.bin 2 (.int 99) (.lit 3 1) (.lit 4 2))
    evaluateBatch ⟨t⟩ [] = .error (.unknownOperator (.int 99)) ∧
      t.evaluate Context.empty = .error (.undefined (.str "x")) := by
  intro t
  exact ⟨rfl, rfl⟩

end Batch

end Expression

end ExprTree
