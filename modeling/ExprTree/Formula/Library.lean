import ExprTree.Formula.Call
/-!
  Calls of the library's classes, function classes and functions, once their arguments are
  evaluated.

  The library converts arguments in two ways. Its constructors of numbers, powers, sums and
  products convert strictly (`Construct.strict`): only numbers and expressions pass. Its function
  classes, lambdas and containers convert leniently, which also reads a text as a formula of the
  library's own reading. Reading a text needs the whole evaluator, so the lenient conversion is
  given to these calls as an argument, `conv`.

  Each call first matches its arguments to the callable's signature, with the language's
  messages for a wrong call, then builds its object.
-/

namespace ExprTree.Formula

open Symbolic

namespace Library

/-- Whether a flag argument such as `evaluate` holds: absent it takes its default, and so does
`None` where `noneIsDefault` holds; otherwise it holds when its value counts as true. -/
def flag (o : Option Object) (default noneIsDefault : Bool) : Except Fault Bool :=
  match o with
  | Option.none => .ok default
  | some .none => .ok (if noneIsDefault then default else false)
  | some v => v.isTrue

/-- The value bound to the parameter at position `i`, if given. -/
def slot (slots : List (Option Object)) (i : Nat) : Option Object := (slots[i]?).join

/-- The value bound to a required parameter; binding has already checked it is there. -/
def required (slots : List (Option Object)) (i : Nat) : Object := (slot slots i).getD .none

/-- The keyword argument of a name, if given. -/
def keyword (kwargs : List (String × Object)) (name : String) : Option Object :=
  kwargs.lookup name

/-- The fault for options a function of expressions does not take, written as a dictionary. -/
def unknownOptions (options : List (String × Object)) : Fault :=
  .badValue ("Unknown options: " ++ (Object.dict (options.map fun (k, v) => (.str k, v))).repr)

/-- The expressions of leniently converted arguments; an argument that converts to no
expression is refused. -/
def exprsOf (args : List Object) : Except Fault (List Expr) :=
  args.mapM fun a =>
    match a with
    | .expr e => .ok e
    | o =>
      match o.toExpr? with
      | some e => .ok e
      | Option.none => .error (.notImplemented ("a function of " ++ o.typeName))

/-- An operand of the logical functions: a truth value, a symbol or a logical expression. -/
def logicOperand (o : Object) : Except Fault (Bool ⊕ Expr) :=
  match o.toLogic? with
  | some x => .ok x
  | Option.none => .error (.wrongType ("expecting bool or Boolean, not \x60" ++ o.text ++ "\x60."))

/-- The relation an order operator symbol or name stands for, as the class of relations chooses
one; no symbol chooses an equation. -/
def relationOf (rop : Object) : Option Relation :=
  match rop with
  | .none => some .eq
  | .str s =>
    if s == "==" || s == "eq" then some .eq
    else if s == "!=" || s == "<>" || s == "ne" then some .ne
    else if s == ">=" || s == "ge" then some .ge
    else if s == "<=" || s == "le" then some .le
    else if s == ">" || s == "gt" then some .gt
    else if s == "<" || s == "lt" then some .lt
    else Option.none
  | _ => Option.none

/-- The class name of a relation. -/
def relationClass : Relation → String
  | .eq => "Equality"
  | .ne => "Unequality"
  | .lt => "StrictLessThan"
  | .le => "LessThan"
  | .gt => "StrictGreaterThan"
  | .ge => "GreaterThan"

/-- Builds a relation between two objects: an equation is decided as far as it can be, an
order between expressions related; with `evaluate` false both sides are kept. -/
def relation (r : Relation) (a b : Object) (evaluate : Bool) : Except Fault Object := do
  match r with
  | .eq | .ne =>
    if evaluate then Construct.equation (r == .ne) a b
    else return .relation r (← Construct.strict a) (← Construct.strict b)
  | _ =>
    let x ← Construct.strict a
    let y ← Construct.strict b
    if evaluate then Operate.relate r x y else return .relation r x y

/-- The names of the symbols a text lists, split at commas and blanks; a trailing comma asks for
a tuple even of one symbol. -/
def symbolNames (text : String) : Except Fault (List String × Bool) :=
  let t := Text.strip text
  let asSeq := t.endsWith ","
  let t := if asSeq then Text.strip (t.dropEnd 1).toString else t
  if t.isEmpty then .error (.badValue "no symbols given")
  else
    let parts := (t.splitOn ",").flatMap fun p =>
      (Text.strip p).splitOn " " |>.filter (!·.isEmpty)
    if parts.any (·.contains ':') then .error (.notImplemented "ranges of symbols")
    else .ok (parts, asSeq)

/-- Calls a class of the library with evaluated arguments. -/
def callClass (conv : Object → Except Fault Object) (cls : String) (args : List Object)
    (kwargs : List (String × Object)) : Except Fault Object := do
  let sig := fun (params : List String) (req : Nat) (anyKw : Bool) =>
    Signature.bind ⟨cls ++ ".__new__", params, req, 1, anyKw⟩ args kwargs
  match cls with
  | "Symbol" =>
    let (s, _) ← sig ["name"] 1 true
    Construct.symbol cls (required s 0)
  | "Wild" =>
    let (s, _) ← sig ["name", "exclude", "properties"] 1 true
    Construct.symbol cls (required s 0)
  | "Dummy" =>
    let (s, _) ← sig ["name", "dummy_index"] 0 true
    Construct.symbol cls ((slot s 0).getD (.str "Dummy"))
  | "Integer" =>
    let (s, _) ← sig ["i"] 1 false
    Construct.integer (required s 0)
  | "Rational" =>
    let (s, _) ← sig ["p", "q", "gcd"] 1 false
    Construct.rational (required s 0) (slot s 1)
  | "Float" =>
    let (s, _) ← sig ["num", "dps", "precision"] 1 false
    let prec ← Construct.precisionOf (slot s 1) (slot s 2)
    return .expr (← Construct.float (required s 0) prec)
  | "Pow" =>
    let (s, _) ← sig ["b", "e", "evaluate"] 2 false
    let b ← Construct.strict (required s 0)
    let e ← Construct.strict (required s 1)
    return Construct.power b e (← flag (slot s 2) true true)
  | "Lambda" =>
    let (s, _) ← sig ["signature", "expr"] 2 false
    let sigObj ← conv (required s 0)
    let body ← conv (required s 1)
    Construct.lambda sigObj body
  | "Add" | "Mul" =>
    let (_, extra) ← Signature.bind ⟨"AssocOp.__new__", [], 0, 1, true⟩ [] kwargs
    match extra.find? (fun (k, _) => k != "evaluate" && k != "_sympify") with
    | some (k, _) =>
      throw (.wrongType ("AssocOp.__new__() got an unexpected keyword argument \x27" ++ k ++
        "\x27"))
    | Option.none => pure ()
    let xs ← args.mapM Construct.strict
    let evaluate ← flag (keyword kwargs "evaluate") true true
    if cls == "Add" then
      return .expr (if evaluate then Expr.sumOf xs
        else match xs with
          | [] => Expr.zero
          | [x] => x
          | _ => .add xs)
    else
      return .expr (if evaluate then Expr.productOf xs
        else match xs with
          | [] => Expr.one
          | [x] => x
          | _ => .mul xs)
  | "Equality" | "Unequality" | "StrictLessThan" | "LessThan" | "StrictGreaterThan"
  | "GreaterThan" =>
    let (s, extra) ← sig ["lhs", "rhs"] 2 true
    let r : Relation := match cls with
      | "Equality" => .eq
      | "Unequality" => .ne
      | "StrictLessThan" => .lt
      | "LessThan" => .le
      | "StrictGreaterThan" => .gt
      | _ => .ge
    relation r (required s 0) (required s 1) (← flag (extra.lookup "evaluate") true true)
  | "Relational" =>
    let (s, extra) ← sig ["lhs", "rhs", "rop"] 2 true
    match relationOf ((slot s 2).getD .none) with
    | some r =>
      relation r (required s 0) (required s 1) (← flag (extra.lookup "evaluate") true true)
    | Option.none =>
      throw (.badValue ("Invalid relational operator symbol: " ++ ((slot s 2).getD .none).repr))
  | "Tuple" => return .tuple (← args.mapM conv)
  | _ => throw (.notImplemented (cls ++ " is not available"))

/-- Calls a function class of the library: a function known only by name is made by `Function`
and applied to any arguments; the logical functions take truth values; the others check the
number of their arguments, convert them, and evaluate unless `evaluate` is false. -/
def callFunctionClass (conv : Object → Except Fault Object) (f : Fn) (args : List Object)
    (kwargs : List (String × Object)) : Except Fault Object := do
  if f.name == "Function" && !f.undefined then
    let (s, _) ← Signature.bind ⟨"UndefinedFunction.__new__", ["name", "bases", "__dict__"], 1,
      1, true⟩ args kwargs
    match required s 0 with
    | .str n => return .function (Fn.undefinedNamed n)
    | .expr (.sym n) => return .function (Fn.undefinedNamed n)
    | _ => throw (.wrongType "expecting string or Symbol for name")
  if f.undefined then
    let xs ← args.mapM conv
    let fns := xs.filterMap fun x =>
      match x with
      | .function g => if g.undefined then some g.name else Option.none
      | _ => Option.none
    if !fns.isEmpty then
      throw (.wrongType ("Invalid argument: expecting an expression, not UndefinedFunction" ++
        (if fns.length > 1 then "s" else "") ++ ": " ++ ", ".intercalate fns))
    let options := kwargs.filter fun (k, _) => k != "evaluate" && k != "nargs"
    if !options.isEmpty then throw (unknownOptions options)
    return .expr (.app f (← exprsOf xs))
  match f.name with
  | "Max" | "Min" =>
    let xs ← args.mapM conv
    let evaluate ← flag (keyword kwargs "evaluate") true true
    let es ← exprsOf xs
    if !evaluate then return .expr (.app f es)
    match Fn.extremum (f.name == "Min") es with
    | .ok v => return .expr v
    | .error r => throw (Construct.refusalFault r)
  | "And" | "Or" =>
    let xs ← args.mapM conv
    let ls ← xs.mapM logicOperand
    return Logic.lattice (f.name == "Or") ls
  | "Xor" =>
    let xs ← args.mapM conv
    return Logic.exclusive (← xs.mapM logicOperand)
  | "Not" =>
    match args with
    | [a] =>
      let x ← conv a
      match x with
      | .relation r l rhs =>
        match r with
        | .eq => return .relation .ne l rhs
        | .ne => return .relation .eq l rhs
        | .lt => return .relation .ge l rhs
        | .le => return .relation .gt l rhs
        | .gt => return .relation .le l rhs
        | .ge => return .relation .lt l rhs
      | .expr (.num n) => return .truth n.isZero
      | o => return Logic.negation (← logicOperand o)
    | _ =>
      throw (.wrongType ("Not takes exactly 1 argument (" ++ toString args.length ++ " given)"))
  | "Implies" =>
    match args with
    | [a, b] =>
      let x ← logicOperand (← conv a)
      let y ← logicOperand (← conv b)
      return Logic.implication x y
    | _ =>
      throw (.badValue ("Implies expects two arguments, got " ++ toString args.length ++ "."))
  | "Nand" | "Nor" =>
    let xs ← args.mapM conv
    let inner := Logic.lattice (f.name == "Nor") (← xs.mapM logicOperand)
    return Logic.negation (← logicOperand inner)
  | name =>
    match Fn.arity name with
    | some bounds =>
      if args.length < bounds.1 || args.length > bounds.2 then
        throw (.wrongType (Fn.arityMessage name bounds args.length))
    | Option.none => pure ()
    let xs ← args.mapM conv
    let options := kwargs.filter fun (k, _) => k != "evaluate" && k != "nargs"
    if !options.isEmpty then throw (unknownOptions options)
    let evaluate ← flag (keyword kwargs "evaluate") true false
    let es ← exprsOf xs
    if !evaluate then return .expr (.app f es)
    match Fn.apply f es with
    | .ok v => return .expr v
    | .error r => throw (Construct.refusalFault r)

/-- Calls a function of the library: roots as powers, the lenient conversion, and symbols made
from a text of names. -/
def callFunction (conv : Object → Except Fault Object) (name : String) (args : List Object)
    (kwargs : List (String × Object)) : Except Fault Object := do
  let sig := fun (params : List String) (req : Nat) (anyKw : Bool) =>
    Signature.bind ⟨name, params, req, 0, anyKw⟩ args kwargs
  match name with
  | "sqrt" | "cbrt" =>
    let (s, _) ← sig ["arg", "evaluate"] 1 false
    let b ← Construct.strict (required s 0)
    let e := if name == "sqrt" then Expr.frac 1 2 else Expr.frac 1 3
    return Construct.power b e (← flag (slot s 1) true true)
  | "root" =>
    let (s, _) ← sig ["arg", "n", "k", "evaluate"] 2 false
    let n ← conv (required s 1)
    let nE ← Construct.strict n
    let b ← Construct.strict (required s 0)
    let evaluate ← flag (slot s 3) true true
    let inv := Operate.arith .div Expr.one nE
    let main := Construct.power b inv evaluate
    match slot s 2 with
    | some k =>
      if !(← k.isTrue) then return main
      let kE ← Construct.strict (← conv k)
      let turn := Expr.powerOf (Expr.int (-1)) (Operate.arith .div (Expr.productOf [Expr.int 2, kE]) nE)
      match main with
      | .expr m => return .expr (Expr.productOf [m, turn])
      | o => return o
    | Option.none => return main
  | "sympify" =>
    let (s, _) ← sig ["a", "locals", "convert_xor", "strict", "rational", "evaluate"] 1 false
    let a := required s 0
    if ← flag (slot s 3) false false then
      match a with
      | .expr _ | .truth _ | .relation .. | .lambda .. => return a
      | _ => return .expr (← Construct.strict a)
    conv a
  | "symbols" =>
    match args with
    | [.str t] =>
      let (names, asSeq) ← symbolNames t
      let syms := names.map fun n => Object.expr (.sym n)
      match syms, asSeq with
      | [x], false => return x
      | xs, _ => return .tuple xs
    | [o] => throw (.wrongType ("expected str, got " ++ o.typeName))
    | _ =>
      throw (.wrongType ("symbols() takes 1 positional argument but " ++
        toString args.length ++ " were given"))
  | "E1" =>
    let (s, _) ← sig ["z"] 1 false
    callFunctionClass conv (Fn.ofName "expint") [.expr Expr.one, required s 0] []
  | "Eijk" => callFunctionClass conv (Fn.ofName "LeviCivita") args kwargs
  | _ => throw (.notImplemented (name ++ " is not available"))

end Library

end ExprTree.Formula
