/-!
  The syntax of formula code: the expressions of the language, as the grammar builds them.

  `Term` covers names, literals, displays (tuples, lists, sets, dictionaries), comprehensions,
  attribute access, calls, subscripts and slices, unary and binary operators, boolean
  operators, comparison chains, conditional expressions, lambdas and assignment expressions.
  `Term.kindName` is the name the grammar's messages use for a kind of expression, as in
  "cannot assign to function call".
-/

namespace ExprTree.Formula

/-- A unary operator. -/
inductive UnaryOp where
  | neg
  | pos
  | invert
  | not
  deriving DecidableEq, Repr, Inhabited

/-- A binary operator. -/
inductive BinaryOp where
  | add
  | sub
  | mul
  | div
  | floorDiv
  | mod
  | pow
  | matMul
  | shiftLeft
  | shiftRight
  | bitOr
  | bitXor
  | bitAnd
  deriving DecidableEq, Repr, Inhabited

/-- A comparison operator. -/
inductive CompareOp where
  | eq
  | ne
  | lt
  | le
  | gt
  | ge
  | isIn
  | notIn
  | is
  | isNot
  deriving DecidableEq, Repr, Inhabited

/-- The kind of a comprehension. -/
inductive ComprehensionKind where
  | list
  | set
  | dict
  | generator
  deriving DecidableEq, Repr, Inhabited

/-- A constant written as a keyword. -/
inductive KeywordConst where
  | true
  | false
  | none
  | ellipsis
  deriving DecidableEq, Repr, Inhabited

mutual

/-- An expression of formula code. -/
inductive Term where
  | name (id : String)
  | number (text : String)
  | text (value : String)
  | bytes (value : List Nat)
  /-- A formatted string: literal pieces and replacement fields. -/
  | formatted (parts : List Piece)
  | const (c : KeywordConst)
  | tuple (items : List Term)
  | list (items : List Term)
  | set (items : List Term)
  /-- A dictionary display; an entry without a key unpacks a mapping. -/
  | dict (entries : List (Option Term × Term))
  | starred (value : Term)
  | attribute (obj : Term) (attr : String)
  /-- A call: positional arguments (starred ones unpack), then keyword arguments (one without
  a name unpacks a mapping). -/
  | call (fn : Term) (args : List Term) (keywords : List (Option String × Term))
  | subscript (obj : Term) (index : Term)
  | slice (lo hi step : Option Term)
  | unary (op : UnaryOp) (operand : Term)
  | binary (op : BinaryOp) (left right : Term)
  /-- `and` (`isAnd`) or `or` over two or more operands. -/
  | boolean (isAnd : Bool) (operands : List Term)
  | compare (first : Term) (rest : List (CompareOp × Term))
  | cond (test body orElse : Term)
  | lambda (params : List String) (body : Term)
  | walrus (target : String) (value : Term)
  /-- A comprehension: the element (a key and value for a dictionary), and its clauses. -/
  | comprehension (kind : ComprehensionKind) (elt : Term) (value : Option Term)
      (clauses : List Clause)
  | yield (value : Option Term)
  | yieldFrom (value : Term)
  | await (value : Term)
  deriving Inhabited

/-- A piece of a formatted string: literal text, or a field with its conversion and format. -/
inductive Piece where
  | literal (s : String)
  | field (value : Term) (conversion : Option Char) (spec : List Piece)
  deriving Inhabited

/-- A `for` clause of a comprehension with its `if` conditions. -/
inductive Clause where
  | clause (target iter : Term) (conditions : List Term)
  deriving Inhabited

end

namespace Term

/-- The name of a kind of expression, as messages about assignment targets use it. -/
def kindName : Term → String
  | .attribute .. => "attribute"
  | .subscript .. => "subscript"
  | .starred _ => "starred"
  | .name _ => "name"
  | .list _ => "list"
  | .tuple _ => "tuple"
  | .lambda .. => "lambda"
  | .call .. => "function call"
  | .boolean .. | .binary .. | .unary (.not) _ | .unary .. => "expression"
  | .comprehension .generator .. => "generator expression"
  | .yield _ | .yieldFrom _ => "yield expression"
  | .await _ => "await expression"
  | .comprehension .list .. => "list comprehension"
  | .comprehension .set .. => "set comprehension"
  | .comprehension .dict .. => "dict comprehension"
  | .dict _ => "dict literal"
  | .set _ => "set display"
  | .formatted _ => "f-string expression"
  | .const .none => "None"
  | .const .true => "True"
  | .const .false => "False"
  | .const .ellipsis => "ellipsis"
  | .number _ | .text _ | .bytes _ => "literal"
  | .compare .. => "comparison"
  | .cond .. => "conditional expression"
  | .walrus .. => "named expression"
  | .slice .. => "slice"

end Term

end ExprTree.Formula
