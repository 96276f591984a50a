/-!
  The five binary operators of expression trees, their codes, names and written forms, and their
  float kernels. Addition, subtraction, multiplication and division are the IEEE 754 binary64
  operations, and exponentiation is the C library's `pow`; none of them fails: a division by zero
  gives an infinity or NaN.
-/

namespace ExprTree

/-- A binary operator of an expression tree. -/
inductive Operator where
  | add
  | subtract
  | multiply
  | divide
  | exponentiate
  deriving DecidableEq, Repr, Inhabited

namespace Operator

/-- All operators, in the order of their codes. -/
def all : List Operator := [.add, .subtract, .multiply, .divide, .exponentiate]

/-- The numeric code of an operator, from 0 for `add` to 4 for `exponentiate`. -/
def code : Operator → Nat
  | .add => 0
  | .subtract => 1
  | .multiply => 2
  | .divide => 3
  | .exponentiate => 4

/-- The operator with the given code. -/
def ofCode? (k : Int) : Option Operator :=
  all.find? fun o => (o.code : Int) = k

/-- The operator's name, in capitals. -/
def name : Operator → String
  | .add => "ADD"
  | .subtract => "SUBTRACT"
  | .multiply => "MULTIPLY"
  | .divide => "DIVIDE"
  | .exponentiate => "EXPONENTIATE"

/-- The infix symbol that compiled text writes between the operands; exponentiation has none and
is written as a call. -/
def symbol? : Operator → Option String
  | .add => some "+"
  | .subtract => some "-"
  | .multiply => some "*"
  | .divide => some "/"
  | .exponentiate => none

/-- The function that compiled text calls, for the operator written as a call. -/
def function? : Operator → Option String
  | .exponentiate => some "pow"
  | _ => none

/-- The symbols accepted in text for each operator: `+ - * /`, and `^` or `**` for
exponentiation. -/
def symbols : List (String × Operator) :=
  [("+", .add), ("-", .subtract), ("*", .multiply), ("/", .divide), ("^", .exponentiate),
    ("**", .exponentiate)]

/-- The operator that a text names: one of `symbols`, or exactly an operator's `name`. -/
def ofText? (s : String) : Option Operator :=
  match symbols.lookup s with
  | some o => some o
  | none => all.find? fun o => o.name = s

/-- The float kernel of an operator. -/
def apply : Operator → Float → Float → Float
  | .add, x, y => x + y
  | .subtract, x, y => x - y
  | .multiply, x, y => x * y
  | .divide, x, y => x / y
  | .exponentiate, x, y => x.pow y

end Operator

end ExprTree
