import ExprTree.Symbolic.Printer
import ExprTree.Formula.Syntax
import ExprTree.Formula.Fault
import ExprTree.Text.Quoted
import ExprTree.Decimal.Notation
/-!
  The objects that formula code evaluates to: the plain objects of the language (none, truth
  values, whole numbers, floats, complex numbers, texts, byte strings, tuples, lists,
  dictionaries, sets, slices and functions made by `lambda`), symbolic expressions, symbolic
  truth values, relations between expressions, symbolic lambdas, symbolic functions, and the
  other predefined objects, known by name.

  `Object.typeName` is the name of an object's type as messages show it; `Object.repr` is the
  unambiguous written form, and `Object.text` the plain one, which differs for texts (written
  as they are). Inside a container every item is written in its unambiguous form. A symbolic
  expression is written by `Expr.text`; a relation `x < y` (or `Eq(x, y)` and `Ne(x, y)`).
-/

namespace ExprTree.Formula

open Symbolic

/-- A relation between two expressions. -/
inductive Relation where
  | eq
  | ne
  | lt
  | le
  | gt
  | ge
  deriving DecidableEq, Repr, Inhabited

namespace Relation

/-- The name of a relation's class. -/
def className : Relation → String
  | .eq => "Equality"
  | .ne => "Unequality"
  | .lt => "StrictLessThan"
  | .le => "LessThan"
  | .gt => "StrictGreaterThan"
  | .ge => "GreaterThan"

/-- The operator that writes a relation. -/
def symbol : Relation → String
  | .eq => "=="
  | .ne => "!="
  | .lt => "<"
  | .le => "<="
  | .gt => ">"
  | .ge => ">="

/-- The relation with its sides exchanged: `a < b` is `b > a`. -/
def flip : Relation → Relation
  | .lt => .gt
  | .le => .ge
  | .gt => .lt
  | .ge => .le
  | r => r

/-- The written form of a relation between two written sides. -/
def write (r : Relation) (lhs rhs : String) : String :=
  match r with
  | .eq => "Eq(" ++ lhs ++ ", " ++ rhs ++ ")"
  | .ne => "Ne(" ++ lhs ++ ", " ++ rhs ++ ")"
  | _ => lhs ++ " " ++ r.symbol ++ " " ++ rhs

end Relation

/-- The kind of a predefined object that is neither a number nor a function of expressions; it
decides how the object is written and the name of its type. -/
inductive ObjectKind where
  /-- A class, with the dotted path of the module that defines it. -/
  | cls (path : String)
  /-- A function of the library. -/
  | function
  /-- A built-in function. -/
  | builtin
  /-- Another object, with the name of its type. -/
  | instance (typeName : String)
  deriving DecidableEq, Repr, Inhabited

/-- An object of formula code. -/
inductive Object where
  | none
  | ellipsis
  | bool (b : Bool)
  | int (n : Int)
  | float (x : Float)
  | complex (re im : Float)
  | str (s : String)
  | bytes (bs : List Nat)
  | tuple (items : List Object)
  | list (items : List Object)
  | dict (entries : List (Object × Object))
  | set (items : List Object)
  | slice (lo hi step : Object)
  /-- A function made by `lambda`: its parameters and its body. -/
  | closure (params : List String) (body : Term)
  | expr (e : Expr)
  /-- A symbolic truth value. -/
  | truth (b : Bool)
  | relation (r : Relation) (lhs rhs : Expr)
  /-- A symbolic function of its parameters. -/
  | lambda (params : List Expr) (body : Expr)
  /-- A symbolic function, which applied to expressions gives an application. -/
  | function (f : Fn)
  /-- Another predefined object: its name and kind. -/
  | named (name : String) (kind : ObjectKind)
  deriving Inhabited

namespace Object

/-- The name of an object's type. -/
def typeName : Object → String
  | .none => "NoneType"
  | .ellipsis => "ellipsis"
  | .bool _ => "bool"
  | .int _ => "int"
  | .float _ => "float"
  | .complex .. => "complex"
  | .str _ => "str"
  | .bytes _ => "bytes"
  | .tuple _ => "tuple"
  | .list _ => "list"
  | .dict _ => "dict"
  | .set _ => "set"
  | .slice .. => "slice"
  | .closure .. => "function"
  | .expr e => e.className
  | .truth true => "BooleanTrue"
  | .truth false => "BooleanFalse"
  | .relation r .. => r.className
  | .lambda .. => "Lambda"
  | .function f => if f.undefined then "UndefinedFunction" else "FunctionClass"
  | .named _ (.cls _) => "type"
  | .named _ .function => "function"
  | .named _ .builtin => "builtin_function_or_method"
  | .named _ (.instance t) => t

/-- The written form of a byte string: `b` and the bytes between quotes, printable ASCII as it
is and other bytes escaped. -/
def bytesText (bs : List Nat) : String :=
  let hasSingle := bs.contains 0x27
  let q : Nat := if hasSingle && !bs.contains 0x22 then 0x22 else 0x27
  let body := bs.map fun b =>
    if b == q || b == 0x5c then String.ofList ['\\', Char.ofNat b]
    else if b == 9 then "\\t"
    else if b == 10 then "\\n"
    else if b == 13 then "\\r"
    else if b < 0x20 || b ≥ 0x7f then "\\x" ++ Text.hexDigits 2 b
    else String.singleton (Char.ofNat b)
  "b" ++ String.singleton (Char.ofNat q) ++ String.join body ++ String.singleton (Char.ofNat q)

/-- The written form of a float part of a complex number: as a float, without a point and zero
when it is whole. -/
def complexPart (x : Float) : String :=
  let t := Decimal.text x
  if t.endsWith ".0" then (t.dropEnd 2).toString else t

/-- The written form of a complex number. -/
def complexText (re im : Float) : String :=
  let imText := complexPart im ++ "j"
  if re == 0 && !Decimal.signBit re then imText
  else
    let sign := if imText.startsWith "-" then "" else "+"
    "(" ++ complexPart re ++ sign ++ imText ++ ")"

/-- The written form of a symbolic lambda. -/
def lambdaText (params : List Expr) (body : Expr) : String :=
  let sig := match params with
    | [p] => p.innerText
    | ps => "(" ++ ", ".intercalate (ps.map Expr.innerText) ++ ")"
  "Lambda(" ++ sig ++ ", " ++ body.innerText ++ ")"

mutual

/-- The unambiguous written form of an object. -/
def repr : Object → String
  | .none => "None"
  | .ellipsis => "Ellipsis"
  | .bool b => if b then "True" else "False"
  | .int n => toString n
  | .float x => Decimal.text x
  | .complex re im => complexText re im
  | .str s => Text.quote s
  | .bytes bs => bytesText bs
  | .tuple [x] => "(" ++ repr x ++ ",)"
  | .tuple xs => "(" ++ ", ".intercalate (reprList xs) ++ ")"
  | .list xs => "[" ++ ", ".intercalate (reprList xs) ++ "]"
  | .dict es => "\x7b" ++ ", ".intercalate (reprEntries es) ++ "\x7d"
  | .set [] => "set()"
  | .set xs => "\x7b" ++ ", ".intercalate (reprList xs) ++ "\x7d"
  | .slice a b c => "slice(" ++ repr a ++ ", " ++ repr b ++ ", " ++ repr c ++ ")"
  | .closure .. => "<function <lambda>>"
  | .expr e => e.text
  | .truth b => if b then "True" else "False"
  | .relation r a b => r.write a.innerText b.innerText
  | .lambda ps b => lambdaText ps b
  | .function f => f.name
  | .named _ (.cls path) => "<class \x27" ++ path ++ "\x27>"
  | .named n .function => "<function " ++ n ++ ">"
  | .named n .builtin => "<built-in function " ++ n ++ ">"
  | .named n (.instance _) => n

/-- The unambiguous written forms of a list of objects. -/
def reprList : List Object → List String
  | [] => []
  | x :: xs => repr x :: reprList xs

/-- The written entries of a dictionary. -/
def reprEntries : List (Object × Object) → List String
  | [] => []
  | (k, v) :: rest => (repr k ++ ": " ++ repr v) :: reprEntries rest

end

/-- The plain written form of an object: a text as it is, anything else unambiguously. -/
def text : Object → String
  | .str s => s
  | o => o.repr

/-- The expressions an object holds, its whole numbers among them, for the check on the length
of written whole numbers. -/
def exprs : Object → List Expr
  | .int n => [Expr.int n]
  | .expr e => [e]
  | .relation _ a b => [a, b]
  | .lambda ps b => b :: ps
  | .tuple xs | .list xs | .set xs => exprsList xs
  | .dict es => exprsEntries es
  | _ => []
where
  exprsList : List Object → List Expr
    | [] => []
    | x :: xs => exprs x ++ exprsList xs
  exprsEntries : List (Object × Object) → List Expr
    | [] => []
    | (k, v) :: rest => exprs k ++ exprs v ++ exprsEntries rest

/-- The most decimal digits a whole number may have when written. -/
def digitLimit : Nat := 4300

/-- The plain written form of an object; one holding a whole number of more than `digitLimit`
digits cannot be written. -/
def written (o : Object) : Except Fault String :=
  if o.exprs.any (·.exceedsDigits digitLimit) then
    .error (.badValue ("Exceeds the limit (" ++ toString digitLimit ++
      " digits) for integer string conversion; use sys.set_int_max_str_digits() to increase " ++
      "the limit"))
  else .ok o.text

end Object

end ExprTree.Formula
