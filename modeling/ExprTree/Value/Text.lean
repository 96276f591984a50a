import ExprTree.Value.Basic
import ExprTree.Tensor.Display
import ExprTree.Decimal.Notation
import ExprTree.Text.Quoted
/-!
  The written forms of values. `Value.repr` is the unambiguous form used in messages and renderings:
  texts are quoted, lists and records are bracketed with `, ` between items, an operator is written
  `<Operator.NAME: code>`. `Value.plainText` is the plain form: a text stands as it is, an operator as its
  code, a tensor as its elements in brackets without `array(...)`, everything else as in
  `Value.repr`.
-/

namespace ExprTree

namespace Value

/-- The written form of the absent value and of truth values. -/
def nullText : String := "None"

/-- The written form of a truth value. -/
def boolText (b : Bool) : String := if b then "True" else "False"

/-- The written form of an operator value. -/
def operatorText (o : Operator) : String :=
  "<Operator." ++ o.name ++ ": " ++ toString o.code ++ ">"

/-- The unambiguous written form of a value. -/
def repr : Value → String
  | .null => nullText
  | .bool b => boolText b
  | .int n => toString n
  | .float x => Decimal.text x
  | .nanObject _ => Decimal.text (0.0 / 0.0)
  | .str s => Text.quote s
  | .list xs => "[" ++ ", ".intercalate (xs.map repr) ++ "]"
  | .dict kvs =>
    "\x7b" ++ ", ".intercalate (kvs.attach.map fun ⟨kv, _⟩ => Text.quote kv.1 ++ ": " ++ repr kv.2) ++ "\x7d"
  | .tensor t => t.text
  | .operator o => operatorText o
decreasing_by
  all_goals simp_wf
  · have := List.sizeOf_lt_of_mem ‹_ ∈ xs›; omega
  · have := List.sizeOf_lt_of_mem ‹kv ∈ kvs›
    obtain ⟨k, v⟩ := kv
    simp at this ⊢; omega

/-- The plain written form of a value. -/
def plainText : Value → String
  | .str s => s
  | .operator o => toString o.code
  | .tensor t => t.plainText
  | v => v.repr

end Value

end ExprTree
