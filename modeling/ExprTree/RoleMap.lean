import ExprTree.Node.Build
/-!
  Role maps: the read-only maps from role names to children that nodes expose, built from
  alternating names and children. The count must be even; then the pairs are read in order and
  the first name that is not a text, or that repeats an earlier name, is refused. The map keeps
  the pairs in the order given.
-/

namespace ExprTree

/-- A map from role names to items, in the order given. -/
structure RoleMap where
  entries : List (String × Item)
  deriving Inhabited

namespace RoleMap

/-- Reads alternating names and items in order, given the entries read so far. -/
def readPairs (acc : List (String × Item)) : List Item → Except Fault (List (String × Item))
  | name :: item :: rest =>
    match name with
    | .value (.str s) =>
      if acc.any (·.1 == s) then throw (.duplicateRole s)
      else readPairs (acc ++ [(s, item)]) rest
    | other => throw (.roleNotText other.typeName)
  | _ => pure acc

/-- The role map of alternating names and items. -/
def ofPairs (items : List Item) : Except Fault RoleMap :=
  if items.length % 2 ≠ 0 then throw .oddPairs
  else RoleMap.mk <$> readPairs [] items

/-- The role names, in order. -/
def keys (m : RoleMap) : List String := m.entries.map Prod.fst

/-- The items, in order. -/
def values (m : RoleMap) : List Item := m.entries.map Prod.snd

end RoleMap

end ExprTree
