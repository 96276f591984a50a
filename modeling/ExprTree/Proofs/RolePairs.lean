import Mathlib
import ExprTree.RoleMap

/-
  Role maps read from alternating names and items. An odd count of arguments is refused before
  any pair is read. Otherwise the arguments are read as pairs, name then item, from the left. One
  step (`readPairs_step`) either adds the entry of a pair whose name is a text not read before, or
  stops at a pair whose name is not a text or repeats an earlier name, with that pair's fault;
  the entries read so far are the loop's state, and their names stay distinct. So reading passes
  exactly when the names are distinct texts, and the entries are then the pairs themselves, in
  order, with their items as given (`readPairs_eq_ok_iff`); otherwise it reports the fault of the
  first pair that fails (`readPairs_eq_error_iff`).

  Main result: `ofPairs_reads_pairs_in_order`.
-/

namespace ExprTree.RoleMap

/-- An entry as the two arguments it was read from: its name as a text, then its item. -/
def asPair (e : String × Item) : Item × Item := (.value (.str e.1), e.2)

/-- The arguments of pairs, name then item. -/
def arguments (ps : List (Item × Item)) : List Item := ps.flatMap fun p => [p.1, p.2]

/-- The arguments read two at a time, name then item; an odd last argument is left out. -/
def pairsOf : List Item → List (Item × Item)
  | name :: item :: rest => (name, item) :: pairsOf rest
  | _ => []

/-- The fault of a pair read after the names `seen`: a name that is not a text, or a text among
the names seen. -/
def pairFault? (seen : List String) (p : Item × Item) : Option Fault :=
  match p.1 with
  | .value (.str s) => if s ∈ seen then some (.duplicateRole s) else none
  | name => some (.roleNotText name.typeName)

/-! ## Pairs and arguments -/

theorem arguments_cons (p : Item × Item) (ps : List (Item × Item)) :
    arguments (p :: ps) = p.1 :: p.2 :: arguments ps := rfl

theorem arguments_append (ps qs : List (Item × Item)) :
    arguments (ps ++ qs) = arguments ps ++ arguments qs :=
  List.flatMap_append

/-- An even count of arguments is the arguments of its pairs. -/
theorem arguments_pairsOf : ∀ {items : List Item}, items.length % 2 = 0 →
    arguments (pairsOf items) = items
  | [], _ => rfl
  | [_], h => by simp at h
  | name :: item :: rest, h => by
    have hrest : rest.length % 2 = 0 := by
      simp only [List.length_cons] at h
      omega
    rw [pairsOf, arguments_cons, arguments_pairsOf hrest]

theorem pairFault?_eq_none_iff {seen : List String} {p : Item × Item} :
    pairFault? seen p = none ↔ ∃ s, p.1 = .value (.str s) ∧ s ∉ seen := by
  unfold pairFault?
  split
  · rename_i s hs
    by_cases hmem : s ∈ seen <;> simp [hs, hmem]
  · rename_i name hnot
    simp only [reduceCtorEq, false_iff, not_exists, not_and]
    intro s hs
    exact absurd hs (hnot s)

/-- Reading a pair never finds an odd count. -/
theorem pairFault?_ne_oddPairs (seen : List String) (p : Item × Item) :
    pairFault? seen p ≠ some .oddPairs := by
  unfold pairFault?
  split
  · split_ifs <;> simp
  · simp

/-! ## One step of reading -/

variable {acc : List (String × Item)}

/-- Adding an entry with a new name keeps the names distinct. -/
theorem nodup_names_append {s : String} (hacc : (acc.map Prod.fst).Nodup)
    (hs : s ∉ acc.map Prod.fst) (item : Item) : ((acc ++ [(s, item)]).map Prod.fst).Nodup := by
  rw [List.map_append, List.map_singleton]
  refine List.nodup_append.mpr ⟨hacc, List.nodup_singleton s, fun a ha b hb => ?_⟩
  rw [List.mem_singleton] at hb
  subst hb
  exact fun hab => hs (hab ▸ ha)

/-- A pair whose name is a text not read before adds its entry. -/
theorem readPairs_named {s : String} (h : s ∉ acc.map Prod.fst) (item : Item) (rest : List Item) :
    readPairs acc (.value (.str s) :: item :: rest) = readPairs (acc ++ [(s, item)]) rest := by
  have hany : acc.any (·.1 == s) = false := by
    rw [List.any_eq_false]
    intro e he hes
    exact h (List.mem_map.mpr ⟨e, he, beq_iff_eq.mp hes⟩)
  simp only [readPairs, hany]
  rfl

/-- A pair that fails stops the reading with its fault. -/
theorem readPairs_of_pairFault {p : Item × Item} {f : Fault}
    (h : pairFault? (acc.map Prod.fst) p = some f) (rest : List Item) :
    readPairs acc (p.1 :: p.2 :: rest) = .error f := by
  obtain ⟨name, item⟩ := p
  unfold pairFault? at h
  simp only [readPairs]
  split
  next s =>
    -- a text among the names read: a repeat
    dsimp only at h
    split_ifs at h with hmem
    cases h
    obtain ⟨e, he, hes⟩ := List.mem_map.mp hmem
    have hany : acc.any (·.1 == s) = true := List.any_eq_true.mpr ⟨e, he, beq_iff_eq.mpr hes⟩
    simp only [hany, if_true]
    rfl
  next hnot =>
    -- a name that is not a text
    split at h
    next s hs => exact (hnot s hs).elim
    next =>
      cases h
      rfl

/-- One step of reading: the first pair fails with its own fault, or it is named by a text not
read before and its entry is added. -/
theorem readPairs_step (p : Item × Item) (rest : List Item) :
    (∃ f, pairFault? (acc.map Prod.fst) p = some f ∧
        readPairs acc (p.1 :: p.2 :: rest) = .error f) ∨
      ∃ s, p.1 = .value (.str s) ∧ s ∉ acc.map Prod.fst ∧
        readPairs acc (p.1 :: p.2 :: rest) = readPairs (acc ++ [(s, p.2)]) rest := by
  cases hf : pairFault? (acc.map Prod.fst) p with
  | some f => exact .inl ⟨f, rfl, readPairs_of_pairFault hf rest⟩
  | none =>
    obtain ⟨s, hs, hfresh⟩ := pairFault?_eq_none_iff.mp hf
    obtain ⟨name, item⟩ := p
    obtain rfl : name = .value (.str s) := hs
    exact .inr ⟨s, rfl, hfresh, readPairs_named hfresh item rest⟩

/-- The entries of pairs whose names are distinct texts, not read before, are added in order. -/
theorem readPairs_append_entries {es : List (String × Item)}
    (h : ((acc ++ es).map Prod.fst).Nodup) (rest : List Item) :
    readPairs acc (arguments (es.map asPair) ++ rest) = readPairs (acc ++ es) rest := by
  induction es generalizing acc with
  | nil => simp [arguments]
  | cons e es ih =>
    have hfresh : e.1 ∉ acc.map Prod.fst := by
      rw [List.map_append, List.nodup_append] at h
      exact fun hmem => h.2.2 _ hmem _ (List.mem_map_of_mem (List.mem_cons_self ..)) rfl
    rw [List.map_cons, arguments_cons, List.cons_append, List.cons_append]
    rw [show (asPair e).1 = .value (.str e.1) from rfl, readPairs_named hfresh, ih]
    · simp [asPair]
    · simpa using h

/-! ## What reading reports -/

/-- Reading passes exactly when the names are distinct texts, not read before; the entries are
then the pairs, in order. -/
theorem readPairs_eq_ok_iff (hacc : (acc.map Prod.fst).Nodup) (ps : List (Item × Item))
    (es' : List (String × Item)) :
    readPairs acc (arguments ps) = .ok es' ↔
      ∃ es, es' = acc ++ es ∧ es.map asPair = ps ∧ (es'.map Prod.fst).Nodup := by
  constructor
  · induction ps generalizing acc with
    | nil =>
      intro h
      cases h
      exact ⟨[], by simp, rfl, hacc⟩
    | cons p ps ih =>
      rw [arguments_cons]
      rcases readPairs_step p (arguments ps) with ⟨f, -, hstep⟩ | ⟨s, hs, hfresh, hstep⟩
      · rw [hstep]
        exact nofun
      · -- the first pair is named by a fresh text: its entry is added
        rw [hstep]
        intro h
        obtain ⟨es, rfl, hes, hnd⟩ := ih (nodup_names_append hacc hfresh p.2) h
        exact ⟨(s, p.2) :: es, by simp, by simp [hes, asPair, ← hs], hnd⟩
  · rintro ⟨es, rfl, rfl, hnd⟩
    have h := readPairs_append_entries hnd []
    rw [List.append_nil] at h
    rw [h]
    rfl

/-- Reading fails exactly at the first pair that fails after the names read before it: those
pairs are named by distinct texts, and the fault is the pair's own. -/
theorem readPairs_eq_error_iff (hacc : (acc.map Prod.fst).Nodup) (ps : List (Item × Item))
    (f : Fault) :
    readPairs acc (arguments ps) = .error f ↔
      ∃ (es : List (String × Item)) (p : Item × Item) (post : List (Item × Item)),
        ps = es.map asPair ++ p :: post ∧ ((acc ++ es).map Prod.fst).Nodup ∧
          pairFault? ((acc ++ es).map Prod.fst) p = some f := by
  constructor
  · induction ps generalizing acc with
    | nil => exact nofun
    | cons p ps ih =>
      rw [arguments_cons]
      rcases readPairs_step p (arguments ps) with ⟨g, hg, hstep⟩ | ⟨s, hs, hfresh, hstep⟩
      · -- the first pair fails
        rw [hstep]
        rintro ⟨⟩
        exact ⟨[], p, ps, rfl, by simpa using hacc, by simpa using hg⟩
      · -- the first pair passes and the fault comes later
        rw [hstep]
        intro h
        obtain ⟨es, q, post, rfl, hnd, hq⟩ := ih (nodup_names_append hacc hfresh p.2) h
        rw [List.append_assoc, List.singleton_append] at hnd hq
        exact ⟨(s, p.2) :: es, q, post, by simp [asPair, ← hs], hnd, hq⟩
  · rintro ⟨es, p, post, rfl, hnd, hp⟩
    rw [arguments_append, readPairs_append_entries hnd, arguments_cons,
      readPairs_of_pairFault hp]

/-! ## Role maps -/

theorem map_mk_eq_ok_iff (r : Except Fault (List (String × Item))) (m : RoleMap) :
    RoleMap.mk <$> r = .ok m ↔ r = .ok m.entries := by
  obtain ⟨es⟩ := m
  cases r <;> simp [Functor.map, Except.map]

theorem map_mk_eq_error_iff (r : Except Fault (List (String × Item))) (f : Fault) :
    RoleMap.mk <$> r = .error f ↔ r = .error f := by
  cases r <;> simp [Functor.map, Except.map]

theorem ofPairs_of_even {items : List Item} (h : items.length % 2 = 0) :
    ofPairs items = RoleMap.mk <$> readPairs [] (arguments (pairsOf items)) := by
  rw [ofPairs, if_neg (by omega), arguments_pairsOf h]

/-- From an even count the map is built exactly when the names are distinct texts, and its
entries are then the pairs, in order, with their items as given. -/
theorem ofPairs_eq_ok_iff {items : List Item} (heven : items.length % 2 = 0) (m : RoleMap) :
    ofPairs items = .ok m ↔ m.keys.Nodup ∧ m.entries.map asPair = pairsOf items := by
  have hnil : (([] : List (String × Item)).map Prod.fst).Nodup := List.nodup_nil
  rw [ofPairs_of_even heven, map_mk_eq_ok_iff, readPairs_eq_ok_iff hnil]
  constructor
  · rintro ⟨es, hes, hmap, hnd⟩
    simp only [List.nil_append] at hes
    subst hes
    exact ⟨hnd, hmap⟩
  · rintro ⟨hnd, hmap⟩
    exact ⟨m.entries, rfl, hmap, hnd⟩

/-- From an even count the fault is that of the first pair whose name is not a text or repeats
an earlier one. -/
theorem ofPairs_eq_error_iff {items : List Item} (heven : items.length % 2 = 0) (f : Fault) :
    ofPairs items = .error f ↔
      ∃ (es : List (String × Item)) (p : Item × Item) (post : List (Item × Item)),
        pairsOf items = es.map asPair ++ p :: post ∧ (es.map Prod.fst).Nodup ∧
          pairFault? (es.map Prod.fst) p = some f := by
  have hnil : (([] : List (String × Item)).map Prod.fst).Nodup := List.nodup_nil
  rw [ofPairs_of_even heven, map_mk_eq_error_iff, readPairs_eq_error_iff hnil]
  simp only [List.nil_append]

/-- The odd-count fault comes from an odd count, whatever the arguments, and from nothing
else: reading pairs never reports it. -/
theorem ofPairs_eq_oddPairs_iff (items : List Item) :
    ofPairs items = .error .oddPairs ↔ items.length % 2 = 1 := by
  constructor
  · intro h
    rcases Nat.mod_two_eq_zero_or_one items.length with heven | hodd
    · obtain ⟨es, p, post, -, -, hp⟩ := (ofPairs_eq_error_iff heven _).mp h
      exact absurd hp (pairFault?_ne_oddPairs _ _)
    · exact hodd
  · intro hodd
    rw [ofPairs, if_pos (by omega)]
    rfl

/-- Building a role map from arguments: an odd count is refused, and that alone gives the
odd-count fault. From an even count the pairs are read from the left: the map is built exactly
when the names are distinct texts, and its entries are then the pairs, in order, with their items
as given; otherwise the fault is that of the first pair whose name is not a text or repeats an
earlier one. -/
theorem ofPairs_reads_pairs_in_order (items : List Item) :
    (ofPairs items = .error .oddPairs ↔ items.length % 2 = 1) ∧
      (items.length % 2 = 0 →
        (∀ m : RoleMap, ofPairs items = .ok m ↔
          m.keys.Nodup ∧ m.entries.map asPair = pairsOf items) ∧
        ∀ f : Fault, ofPairs items = .error f ↔
          ∃ (es : List (String × Item)) (p : Item × Item) (post : List (Item × Item)),
            pairsOf items = es.map asPair ++ p :: post ∧ (es.map Prod.fst).Nodup ∧
              pairFault? (es.map Prod.fst) p = some f) :=
  ⟨ofPairs_eq_oddPairs_iff items,
    fun heven => ⟨ofPairs_eq_ok_iff heven, ofPairs_eq_error_iff heven⟩⟩

/-- Two pairs named `lhs`: the second is refused as a repeat of the first. -/
theorem ofPairs_repeated_name :
    let items := [Item.value (.str "lhs"), .value (.int 1), .value (.str "lhs"), .value (.int 2)]
    items.length % 2 = 0 ∧ ofPairs items = .error (.duplicateRole "lhs") := by
  intro items
  have heven : items.length % 2 = 0 := by decide
  have hpairs : pairsOf items = [asPair ("lhs", .value (.int 1))] ++
      [(.value (.str "lhs"), .value (.int 2))] := rfl
  refine ⟨heven, (((ofPairs_reads_pairs_in_order items).2 heven).2 _).mpr ?_⟩
  exact ⟨[("lhs", .value (.int 1))], _, [], hpairs, List.nodup_singleton _,
    by simp [pairFault?]⟩

end ExprTree.RoleMap
