import ExprTree.Formula.Object
import ExprTree.Symbolic.Apply
import ExprTree.Decimal.Reading
/-!
  How objects of formula code convert, and the plain facts about them that evaluation asks:
  whether an object is an expression where the library takes only expressions, whether it is a
  truth value for the logical operators, whether it counts as true, and whether two objects are
  equal.

  The library converts strictly in arithmetic: whole numbers and floats of the language become
  exact numbers and floats of 53 bits, expressions stay, and anything else (truth values, texts,
  containers, classes, functions, logical expressions) is refused, which lets the other operand
  decide or makes the operation fail. Equality of two objects of the library is equality of
  their structure, where a float never equals an exact number unless both are zero.
-/

namespace ExprTree.Formula

open Symbolic

namespace Object

/-- A whole number of the library. -/
def integer (n : Int) : Object := .expr (Expr.int n)

/-- The library's float for a float of the language: 53 bits, with NaN and the infinities as
the special numbers and zero without a sign. -/
def floatExpr (x : Float) : Expr :=
  if x.isNaN then .num .nan
  else if x.isInf then .num (if x > 0 then .posInf else .negInf)
  else if x == 0 then .num (.float BigFloat.zero 53)
  else .num (.float (BigFloat.ofFloat x) 53)

/-- The expression an object stands for where the library takes only expressions: whole
numbers, floats and complex numbers of the language, and expressions that are not logical. -/
def toExpr? : Object → Option Expr
  | .int n => some (Expr.int n)
  | .float x => some (floatExpr x)
  | .complex re im => some (Expr.sumOf [floatExpr re, Expr.productOf [floatExpr im, .imag]])
  | .expr e => if e.isLogic then Option.none else some e
  | _ => Option.none

/-- Whether an object belongs to the library rather than to the language. -/
def isLibrary : Object → Bool
  | .expr _ | .truth _ | .relation .. | .lambda .. | .function _ | .named .. => true
  | _ => false

/-- An object as an operand of the logical operators: a truth value (of the language or the
library) or an expression that may stand for one, a symbol or a logical expression. -/
def toLogic? : Object → Option (Bool ⊕ Expr)
  | .bool b | .truth b => some (.inl b)
  | .expr (.sym s) => some (.inr (.sym s))
  | .expr e => if e.isLogic then some (.inr e) else Option.none
  | _ => Option.none

/-- Whether an object counts as true. Numbers are true when not zero, containers and texts when
not empty, and other objects always, except a relation, whose truth cannot be decided. -/
def isTrue : Object → Except Fault Bool
  | .none => .ok false
  | .bool b | .truth b => .ok b
  | .int n => .ok (n != 0)
  | .float x => .ok (x != 0)
  | .complex re im => .ok (re != 0 || im != 0)
  | .str s => .ok !s.isEmpty
  | .bytes bs => .ok !bs.isEmpty
  | .tuple xs | .list xs | .set xs => .ok !xs.isEmpty
  | .dict es => .ok !es.isEmpty
  | .expr (.num n) =>
    match n with
    | .int _ | .rat .. | .float .. => .ok !n.isZero
    | _ => .ok true
  | .relation .. => .error (.wrongType "cannot determine truth value of Relational")
  | _ => .ok true

/-- The library object for a whole number, float or truth value of the language, as equality
converts it; other objects stay. -/
def asLibrary : Object → Object
  | .bool b => .truth b
  | .int n => integer n
  | .float x => .expr (floatExpr x)
  | o => o

/-- Item-by-item equality of two lists of expressions. -/
def equalsExprs : List Expr → List Expr → Bool
  | [], [] => true
  | x :: xs, y :: ys => x.same y && equalsExprs xs ys
  | _, _ => false

mutual

/-- Equality of objects. Numbers of the language compare by value, texts and containers item by
item; an object of the library equals another one of the same structure, a number of the
language converted first; objects of different kinds are not equal. -/
def equals : Object → Object → Bool
  | .none, .none | .ellipsis, .ellipsis => true
  | .bool a, .bool b => a == b
  | .bool a, .int n | .int n, .bool a => n == (if a then 1 else 0)
  | .int a, .int b => a == b
  | .float x, .float y => x == y
  | .float x, .int n | .int n, .float x =>
    !x.isNaN && !x.isInf && (BigFloat.ofFloat x).compareRat n 1 == .eq
  | .bool a, .float x | .float x, .bool a => x == (if a then 1.0 else 0.0)
  | .str a, .str b => a == b
  | .bytes a, .bytes b => a == b
  | .tuple xs, .tuple ys | .list xs, .list ys => equalsList xs ys
  | .expr a, .expr b => a.same b
  | .truth a, .truth b => a == b
  | .relation r a b, .relation s c d => r == s && a.same c && b.same d
  | .lambda ps a, .lambda qs b => equalsExprs ps qs && a.same b
  | .function f, .function g => f == g
  | .named a _, .named b _ => a == b
  | a, b =>
    if a.isLibrary && !b.isLibrary then
      match b with
      | .bool _ | .int _ | .float _ => equalsLibrary a (asLibrary b)
      | _ => false
    else if b.isLibrary && !a.isLibrary then
      match a with
      | .bool _ | .int _ | .float _ => equalsLibrary (asLibrary a) b
      | _ => false
    else false

/-- Equality of two objects of the library. -/
def equalsLibrary : Object → Object → Bool
  | .expr a, .expr b => a.same b
  | .truth a, .truth b => a == b
  | _, _ => false

/-- Item-by-item equality of two lists of objects. -/
def equalsList : List Object → List Object → Bool
  | [], [] => true
  | x :: xs, y :: ys => equals x y && equalsList xs ys
  | _, _ => false

end

/-- The dotted path of the class of an object of the library, as a class is written. -/
def classPath : Object → String
  | .expr e =>
    match e with
    | .num _ | .imag | .const _ => "sympy.core.numbers." ++ e.className
    | .sym _ => "sympy.core.symbol.Symbol"
    | .add _ => "sympy.core.add.Add"
    | .mul _ => "sympy.core.mul.Mul"
    | .pow .. => "sympy.core.power.Pow"
    | .app f _ => f.name
  | .truth b => "sympy.logic.boolalg." ++ (if b then "BooleanTrue" else "BooleanFalse")
  | .relation r .. => "sympy.core.relational." ++ r.className
  | .lambda .. => "sympy.core.function.Lambda"
  | .function f =>
    if f.undefined then "sympy.core.function.UndefinedFunction"
    else "sympy.core.function.FunctionClass"
  | o => o.typeName

/-- The written form of the class of an object: the class of a function of expressions is
written by its name, any other as `<class 'path'>`. -/
def classText (o : Object) : String :=
  match o with
  | .expr (.app f _) => f.name
  | _ => "<class \x27" ++ o.classPath ++ "\x27>"

end Object

namespace Native

/-- The digits of a whole-number literal of the language with base `b`, underscores dropped. -/
def digitsIn (b : Nat) (cs : List Char) : Option Nat :=
  cs.foldl (fun acc c =>
    acc.bind fun v =>
      if c == '_' then some v
      else
        let d := if c.isDigit then c.toNat - '0'.toNat
          else if 'a' ≤ c.toLower && c.toLower ≤ 'f' then c.toLower.toNat - 'a'.toNat + 10
          else 99
        if d < b then some (v * b + d) else none) (some 0)

/-- The value of a number literal of the language: a whole number (decimal, or with a base
prefix `0x`, `0o` or `0b`), else a float, else an imaginary number. -/
def literal (text : String) : Option Object :=
  let cs := text.toList
  let prefixed := fun (b : Nat) => (digitsIn b (cs.drop 2)).map fun n => Object.int n
  match cs with
  | '0' :: m :: _ =>
    if m == 'x' || m == 'X' then prefixed 16
    else if m == 'o' || m == 'O' then prefixed 8
    else if m == 'b' || m == 'B' then prefixed 2
    else decimalOrFloat cs
  | _ => decimalOrFloat cs
where
  /-- A decimal whole number, a float, or an imaginary number. -/
  decimalOrFloat (cs : List Char) : Option Object :=
    if cs.all fun c => c.isDigit || c == '_' then (digitsIn 10 cs).map fun n => Object.int n
    else
      match cs.getLast? with
      | some 'j' | some 'J' =>
        (Decimal.read? (String.ofList (cs.dropLast.filter (· != '_')))).map fun y => .complex 0 y
      | _ => (Decimal.read? (String.ofList (cs.filter (· != '_')))).map Object.float

end Native

end ExprTree.Formula
