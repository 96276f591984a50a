import ExprTree.Formula.Operator
import ExprTree.Formula.Namespace
import ExprTree.Text.Blank
/-!
  Calls of the classes, functions and built-in functions that formula code may call, once their
  arguments are evaluated.

  Arguments are matched to a signature as the language does: keyword arguments by name (a name
  the signature lacks, or one already given by position, is a fault), then the count of
  positional ones, then the required ones that are missing, each fault with the language's
  message. Then the constructors of the library build their objects: floats (from texts, whole
  numbers, floats and exact numbers, at the precision the digits or the caller ask for), whole
  numbers, fractions, symbols, powers, relations and lambdas. The built-in functions take
  objects of the language.
-/

-- The core instances for powers, products and sums of numbers, also where Mathlib's are
-- in scope, so that the definitions below are the same terms in every build.
attribute [local instance (high)] instPowNat

namespace ExprTree.Formula

open Symbolic

/-- The parameters of a callable: the names of its positional parameters, how many of them are
required, whether its messages count the class among the positional arguments, and whether it
takes any other keyword argument. -/
structure Signature where
  owner : String
  params : List String
  required : Nat
  counted : Nat := 0
  anyKeyword : Bool := false

namespace Signature

/-- Names in a message about missing arguments: `'a'`, `'a' and 'b'`, `'a', 'b', and 'c'`. -/
def nameList (names : List String) : String :=
  let quoted := names.map fun n => "\x27" ++ n ++ "\x27"
  match quoted with
  | [a] => a
  | [a, b] => a ++ " and " ++ b
  | _ => ", ".intercalate quoted.dropLast ++ ", and " ++ (quoted.getLast?.getD "")

/-- Binds arguments to the parameters: each parameter's value if given, and the keyword arguments
the parameters do not name. -/
def bind (sig : Signature) (args : List Object) (kwargs : List (String × Object)) :
    Except Fault (List (Option Object) × List (String × Object)) := do
  let given := args.length
  let mut slots : List (Option Object) :=
    sig.params.mapIdx fun i _ => args[i]?
  let mut extra : List (String × Object) := []
  for (k, v) in kwargs do
    match sig.params.idxOf? k with
    | some i =>
      if i < given || (slots[i]?.join).isSome then
        throw (.wrongType (sig.owner ++ "() got multiple values for argument \x27" ++ k ++ "\x27"))
      slots := slots.set i (some v)
    | none =>
      if sig.anyKeyword then extra := extra ++ [(k, v)]
      else throw (.wrongType (sig.owner ++ "() got an unexpected keyword argument \x27" ++ k ++
        "\x27"))
  if given > sig.params.length then
    let total := sig.params.length + sig.counted
    let least := sig.required + sig.counted
    let takes := if least == total then
        toString total ++ " positional argument" ++ (if total == 1 then "" else "s")
      else "from " ++ toString least ++ " to " ++ toString total ++ " positional arguments"
    let shown := given + sig.counted
    throw (.wrongType (sig.owner ++ "() takes " ++ takes ++ " but " ++ toString shown ++
      (if shown == 1 then " was given" else " were given")))
  let missing := (sig.params.take sig.required).zip (slots.take sig.required) |>.filterMap
    fun (n, v) => if v.isNone then some n else none
  if !missing.isEmpty then
    throw (.wrongType (sig.owner ++ "() missing " ++ toString missing.length ++
      " required positional argument" ++ (if missing.length == 1 then "" else "s") ++ ": " ++
      nameList missing))
  return (slots, extra)

end Signature

namespace Num

/-- The largest decimal exponent a literal is read with; its power of ten has some three
million bits. -/
def exponentLimit : Nat := 1000000

/-- The value of a decimal literal: its exact value as a fraction, the count of its significant
digits (at least one), and the denominator. A literal whose exponent lies beyond
`exponentLimit` is not read. -/
def decimalParts (s : String) : Option (Int × Nat × Nat) :=
  let cs := s.toList.filter (· != '_')
  let (neg, cs) := match cs with
    | '-' :: r => (true, r)
    | '+' :: r => (false, r)
    | r => (false, r)
  let (mant, expo) := (cs.takeWhile (fun c => c != 'e' && c != 'E'),
    cs.dropWhile (fun c => c != 'e' && c != 'E'))
  let (whole, frac) := (mant.takeWhile (· != '.'), (mant.dropWhile (· != '.')).drop 1)
  let digits := whole ++ frac
  if digits.isEmpty || !digits.all Char.isDigit then none
  else
    let e : Option Int := match expo with
      | [] => some 0
      | _ :: r =>
        let (sgn, r) := match r with
          | '-' :: r => (-1, r)
          | '+' :: r => (1, r)
          | r => (1, r)
        if r.isEmpty || !r.all Char.isDigit then none
        else some (sgn * (String.ofList r).toNat!)
    (e.filter fun (e : Int) => (e - frac.length).natAbs ≤ exponentLimit).map fun e =>
      let coeff := (String.ofList digits).toNat!
      let exp10 : Int := e - frac.length
      let sig := (toString coeff).length
      let p : Int := if neg then -(coeff : Int) else coeff
      (if exp10 ≥ 0 then p * 10 ^ exp10.toNat else p, sig,
        if exp10 ≥ 0 then 1 else 10 ^ (-exp10).toNat)

/-- The float a decimal literal gives: at `prec` bits if given, else at the precision its
digits carry (the count of significant digits, for a whole number written without a point the
count of digits of its value, and at least fifteen). -/
def ofLiteral (t : String) (prec? : Option Nat) : Option Symbolic.Num :=
  (decimalParts t).map fun (p, sig, q) =>
    let prec := match prec? with
      | some prec => prec
      | none =>
        let dps := if q = 1 && !t.contains '.' then max sig (toString p.natAbs).length else sig
        BigFloat.digitsToPrec (max 15 dps)
    .float (BigFloat.ofRat p q prec) prec

end Num

namespace Construct

open Expr

/-- Whether a text is a float literal: a mantissa of ASCII digit groups with an optional point
(and digits on at least one side), then optionally `e`, a sign and digits, where underscores
stand only between two digits. -/
def isFloatLiteral (s : String) : Bool :=
  let groupsOk := fun (n : String) =>
    (n.splitOn "_").all fun g => !g.isEmpty && g.all fun c => '0' ≤ c && c ≤ '9'
  let parts := s.splitOn "e"
  let mantExp : Option (String × String) := match parts with
    | [m] => some (m, "1")
    | [m, e] =>
      let e := if e.startsWith "+" || e.startsWith "-" then (e.drop 1).toString else e
      if e.isEmpty then none else some (m, e)
    | _ => none
  match mantExp with
  | none => false
  | some (m, e) =>
    let (i, f, ok) : String × String × Bool := match m.splitOn "." with
      | [i] => (i, "1", true)
      | [i, f] => (i, f, true)
      | _ => ("", "", false)
    if !ok || (i.isEmpty && f.isEmpty) then false
    else
      let i := if i.startsWith "+" || i.startsWith "-" then (i.drop 1).toString else i
      let i := if i.isEmpty then "1" else i
      let f := if f.isEmpty then "1" else f
      groupsOk i && groupsOk f && groupsOk e

/-- The float a text gives, as the library's float class reads it: blanks at the ends dropped,
spaces taken as digit separators, upper case as lower, a leading point given a zero; `inf`,
`+inf`, `-inf` and `nan` name the special values. -/
def floatOfText (s : String) (prec? : Option Nat) : Except Fault Expr :=
  let shown := Text.strip s
  let t := String.ofList ((shown.toList.map fun c => if c == ' ' then '_' else c.toLower))
  let t := if t.startsWith "." && t.length > 1 then "0" ++ t
    else if t.startsWith "-." && t.length > 2 then "-0." ++ (t.drop 2).toString else t
  if t == "inf" || t == "+inf" then .ok (.num .posInf)
  else if t == "-inf" then .ok (.num .negInf)
  else if t == "nan" then .ok (.num .nan)
  else if !isFloatLiteral t then .error (.badValue ("string-float not recognized: " ++ shown))
  else match Num.ofLiteral t prec? with
    | some n => .ok (.num n)
    | none => .error (.badValue ("string-float not recognized: " ++ shown))

/-- The precision in bits that a precision argument asks for: decimal digits `dps`, or bits. -/
def precisionOf (dps precision : Option Object) : Except Fault (Option Nat) :=
  let whole : Object → Option Int := fun o =>
    match o with
    | .expr (.num (.int n)) => some n
    | o => Operate.wholeOf? o
  match dps, precision with
  | some d, some p =>
    if d matches .none then
      if p matches .none then .ok none
      else match whole p with
        | some n => .ok (some n.toNat)
        | none => .error (.wrongType "precision must be an integer")
    else if p matches .none then
      match whole d with
      | some n => .ok (some (BigFloat.digitsToPrec n.toNat))
      | none => .error (.wrongType "dps must be an integer")
    else .error (.badValue "Both decimal and binary precision supplied. Supply only one. ")
  | some d, none =>
    if d matches .none then .ok none
    else match whole d with
      | some n => .ok (some (BigFloat.digitsToPrec n.toNat))
      | none => .error (.wrongType "dps must be an integer")
  | none, some p =>
    if p matches .none then .ok none
    else match whole p with
      | some n => .ok (some n.toNat)
      | none => .error (.wrongType "precision must be an integer")
  | none, none => .ok none

/-- A float of the library from an object, at the precision asked for or the one the object
carries: a text as a literal, a whole number by its digits, a float of the language at 53
bits, an exact number rounded, a float kept or rounded, the infinities and NaN as they are, and
`π`, `E` and the golden ratio computed. Anything else cannot be made a float. -/
def float (num : Object) (prec? : Option Nat) : Except Fault Expr :=
  let cannot := Fault.wrongType ("cannot create mpf from " ++ num.repr)
  let prec := prec?.getD 53
  match num with
  | .str s => floatOfText s prec?
  | .bool b => floatOfText (if b then "1" else "0") prec?
  | .int n => floatOfText (toString n) prec?
  | .float x =>
    if x.isNaN then .ok (.num .nan)
    else if x.isInf then .ok (.num (if x > 0 then .posInf else .negInf))
    else if x == 0 then floatOfText "0" prec?
    else .ok (.num (.float ((BigFloat.ofFloat x).round prec) prec))
  | .expr e =>
    match e with
    | .num (.int n) => floatOfText (toString n) prec?
    | .num (.rat p q) => .ok (.num (.float (BigFloat.ofRat p q prec) prec))
    | .num (.float x p) =>
      match prec? with
      | none => .ok (.num (.float x p))
      | some r => .ok (.num (.float (x.round r) r))
    | .num .posInf | .num .negInf | .num .nan => .ok e
    | .const .pi => .ok (.num (.float (BigFloat.pi .down prec) prec))
    | .const .e => .ok (.num (.float (BigFloat.exponential .down BigFloat.one prec) prec))
    | .const .goldenRatio =>
      let w := prec + 10
      let root := BigFloat.sqrt (BigFloat.ofRat 5 1 w) w
      let phi := (BigFloat.add root BigFloat.one w).mul (BigFloat.ofRat 1 2 w) w
      .ok (.num (.float (phi.round prec) prec))
    | _ => .error cannot
  | _ => .error cannot

/-- A whole number of the language read from a text as the language reads one: blanks at the
ends dropped, an optional sign, digits of any script with single underscores between them. -/
def wholeOfText (s : String) : Option Int :=
  let t := Text.strip s
  let (neg, body) := match t.toList with
    | '-' :: r => (true, r)
    | '+' :: r => (false, r)
    | r => (false, r)
  let step := fun (acc : Option (Nat × Bool)) (c : Char) =>
    acc.bind fun (v, lastUnderscore) =>
      if c == '_' then (if lastUnderscore then none else some (v, true))
      else (Text.decimalDigit? c).map fun d => (v * 10 + d, false)
  match body with
  | [] => none
  | '_' :: _ => none
  | _ =>
    match body.foldl step (some (0, false)) with
    | some (v, false) => some (if neg then -(v : Int) else v)
    | _ => none

/-- A whole number of the library from an object, as the language's `int` makes one: a text
read as a whole number, a float or exact number cut toward zero, a truth value as `0` or `1`.
Anything else is not of numeric type. -/
def integer (i : Object) : Except Fault Object :=
  let notNumeric := Fault.wrongType ("Argument of Integer should be of numeric type, got " ++
    i.text ++ ".")
  match i with
  | .str s =>
    let t := String.ofList (s.toList.filter (· != ' '))
    match wholeOfText t with
    | some n => .ok (Object.integer n)
    | none => .error (.badValue ("invalid literal for int() with base 10: " ++ Text.quote t))
  | .bool b => .ok (Object.integer (if b then 1 else 0))
  | .int n => .ok (Object.integer n)
  | .float x =>
    if x.isNaN then .error (.badValue "cannot convert float NaN to integer")
    else if x.isInf then .error (.overflow "cannot convert float infinity to integer")
    else
      let b := BigFloat.ofFloat x
      .ok (Object.integer (if b.neg then -b.neg'.floorInt else b.floorInt))
  | .expr e =>
    match e with
    | .num (.int n) => .ok (Object.integer n)
    | .num (.rat p q) => .ok (Object.integer (Int.tdiv p q))
    | .num (.float x _) => .ok (Object.integer (if x.neg then -x.neg'.floorInt else x.floorInt))
    | _ =>
      if e.isNumber && e.facts.extReal == some true && e.facts.finite == some true then
        match e.approx with
        | some ((v, _), _) =>
          if v.abs < 1.0e15 && (v - v.round).abs > 1.0e-9 then
            .ok (Object.integer (if v < 0 then v.ceil else v.floor).toInt64.toInt)
          else .error notNumeric
        | none => .error notNumeric
      else .error notNumeric
  | _ => .error notNumeric

/-- An exact number of the library from a numerator and an optional denominator, as the class of
fractions makes one: whole numbers and fractions divide exactly, a float gives its exact binary
value, and a text is read as a fraction `p/q` or a decimal. -/
def rational (p : Object) (q : Option Object) : Except Fault Object :=
  let invalid := fun (o : Object) => Fault.wrongType ("invalid input: " ++ o.text)
  let exact : Object → Except Fault (Int × Nat) := fun o =>
    match o with
    | .bool b => .ok (if b then 1 else 0, 1)
    | .int n => .ok (n, 1)
    | .expr (.num (.int n)) => .ok (n, 1)
    | .expr (.num (.rat a b)) => .ok (a, b)
    | .expr (.num (.float b _)) =>
      if b.exp ≥ 0 then .ok (b.signedMan * 2 ^ b.exp.toNat, 1)
      else .ok (b.signedMan, 2 ^ (-b.exp).toNat)
    | .float x =>
      let b := BigFloat.ofFloat x
      if b.exp ≥ 0 then .ok (b.signedMan * 2 ^ b.exp.toNat, 1)
      else .ok (b.signedMan, 2 ^ (-b.exp).toNat)
    | .str s =>
      let t := Text.strip s
      match t.splitOn "/" with
      | [a, b] =>
        match wholeOfText a, wholeOfText b with
        | some x, some y => if y == 0 then .ok (x, 0) else .ok (x * y.sign, y.natAbs)
        | _, _ => .error (invalid o)
      | _ =>
        match Num.decimalParts t with
        | some (x, _, y) => .ok (x, y)
        | none => .error (invalid o)
    | o => .error (invalid o)
  do
    let (a, b) ← exact p
    let (c, d) ← match q with
      | some o => if o matches .none then pure (1, 1) else exact o
      | none => pure (1, 1)
    let num : Int := a * d
    let den : Int := (b : Int) * c
    if den == 0 then
      if num == 0 then return .expr (.num .nan) else return .expr (.num .complexInf)
    return .expr (.num (Num.ofFraction num den))

/-- A symbol of the library named by a text; a `Dummy` is written with a leading underscore and
a `Wild` with a trailing one. -/
def symbol (cls : String) (name : Object) : Except Fault Object :=
  match name with
  | .str s =>
    .ok (.expr (.sym (if cls == "Dummy" then "_" ++ s else if cls == "Wild" then s ++ "_" else s)))
  | o => .error (.wrongType ("name should be a string, not " ++ o.classText))

/-- The fault for an object that does not convert strictly to an expression. -/
def sympifyFault (o : Object) : Fault := .sympify o.repr

/-- The expression an object converts to strictly, or the fault that it does not. -/
def strict (o : Object) : Except Fault Expr :=
  match o.toExpr? with
  | some e => .ok e
  | none => .error (sympifyFault o)

/-- A power, evaluated or left as it is. -/
def power (b e : Expr) (evaluate : Bool) : Object :=
  .expr (if evaluate then powerOf b e else .pow b e)

/-- Decides an equation (or, when `negated`, an inequation) between two objects, or keeps it as
a relation: equal expressions are equal, expressions whose difference is known to be zero or
not zero are equal or not, and two numbers are equal only as the same number. -/
def equation (negated : Bool) (a b : Object) : Except Fault Object :=
  let decide : Option Bool :=
    match a.toExpr?, b.toExpr? with
    | some x, some y =>
      if x.same y then some true
      else
        let d := sumOf [x, negationOf y]
        if d.isZeroNum then some true
        else if x.isNum && y.isNum then some false
        else match d.facts.zero with
          | some z => some z
          | none => none
    | _, _ =>
      match a, b with
      | .truth x, .truth y => some (x == y)
      | _, _ => some (Object.equals a b)
  match decide with
  | some v => .ok (.truth (v != negated))
  | none =>
    match a.toExpr?, b.toExpr? with
    | some x, some y => .ok (.relation (if negated then .ne else .eq) x y)
    | _, _ => .ok (.truth negated)

/-- A lambda of the library from its signature (a symbol, or a tuple or list of symbols) and its
body; one parameter that is the whole body makes the identity function. -/
def lambda (sig : Object) (body : Object) : Except Fault Object := do
  let params ← match sig with
    | .tuple xs | .list xs => pure xs
    | o => pure [o]
  let syms ← params.mapM fun p =>
    match p with
    | .expr (.sym s) => pure (Expr.sym s)
    | o => throw (.badSignature ("Lambda signature should be only tuples and Symbols, not " ++
        o.text))
  let names := syms.filterMap fun e =>
    match e with
    | .sym s => some s
    | _ => none
  match names.zipIdx.find? fun (n, i) => (names.take i).contains n with
  | some (n, _) => throw (.badSignature ("Duplicate symbol " ++ n))
  | none => pure ()
  let b ← match body.toExpr? with
    | some e => pure e
    | none => throw (sympifyFault body)
  match syms with
  | [p] => if p.same b then return .lambda [.sym "_x"] (.sym "_x") else return .lambda syms b
  | _ => return .lambda syms b

/-- The object a function refusal stands for. -/
def refusalFault : Fn.Refusal → Fault
  | .arity msg => .wrongType msg
  | .divisionByZero msg => .zeroDivision msg
  | .incomparable shown => .badValue ("The argument \x27" ++ shown ++ "\x27 is not comparable.")
  | .domain msg => .badValue msg
  | .kind msg => .wrongType msg

/-- Rebuilds an expression with symbols replaced, evaluating as it goes; `fuel` bounds the
depth. -/
def substitute (bind : List (String × Expr)) : Nat → Expr → Except Fault Expr
  | 0, e => .ok e
  | fuel + 1, e =>
    match e with
    | .sym s => .ok ((bind.lookup s).getD e)
    | .add xs => do return sumOf (← xs.mapM (substitute bind fuel))
    | .mul xs => do return productOf (← xs.mapM (substitute bind fuel))
    | .pow b x => do return powerOf (← substitute bind fuel b) (← substitute bind fuel x)
    | .app f xs => do
      let ys ← xs.mapM (substitute bind fuel)
      if f.undefined || f.group == 5 then return .app f ys
      match Fn.apply f ys with
      | .ok v => return v
      | .error r => throw (refusalFault r)
    | _ => .ok e

/-- Calls a lambda of the library on expressions. -/
def callLambda (params : List Expr) (body : Expr) (args : List Object) : Except Fault Object := do
  if args.length != params.length then
    throw (.badArguments (Object.lambdaText params body ++ " takes exactly " ++
      toString params.length ++ " argument" ++ (if params.length == 1 then "" else "s") ++ " (" ++
      toString args.length ++ " given)"))
  let values ← args.mapM strict
  let names := params.filterMap fun p =>
    match p with
    | .sym s => some s
    | _ => none
  return .expr (← substitute (names.zip values) 400 body)

end Construct

namespace Builtin

/-- The fault for a built-in function of one argument called with another number of them. -/
def oneArgument (name : String) (given : Nat) : Fault :=
  .wrongType (name ++ "() takes exactly one argument (" ++ toString given ++ " given)")

/-- The whole number an object stands for where the language asks for an index. -/
def asIndex? : Object → Option Int
  | .expr (.num (.int n)) => some n
  | o => Operate.wholeOf? o

/-- The digits of a whole number in base `b` with a prefix, as `bin`, `oct` and `hex` write it. -/
def inBase (pre : String) (b : Nat) (n : Int) : String :=
  let digits := (Nat.toDigits b n.natAbs)
  (if n < 0 then "-" else "") ++ pre ++ String.ofList digits

/-- The written form of an object with every character outside ASCII escaped. -/
def asciiText (s : String) : String :=
  String.join (s.toList.map fun c =>
    if c.toNat < 128 then String.singleton c
    else if c.toNat < 256 then "\\x" ++ Text.hexDigits 2 c.toNat
    else if c.toNat < 65536 then "\\u" ++ Text.hexDigits 4 c.toNat
    else "\\U" ++ Text.hexDigits 8 c.toNat)

/-- The items of an object that can be iterated over. -/
def items (o : Object) : Except Fault (List Object) :=
  match o with
  | .tuple xs | .list xs | .set xs => .ok xs
  | .dict es => .ok (es.map Prod.fst)
  | .str s => .ok (s.toList.map fun c => .str (String.singleton c))
  | .bytes bs => .ok (bs.map fun (b : Nat) => Object.int (b : Int))
  | _ => .error (.wrongType ("\x27" ++ o.typeName ++ "\x27 object is not iterable"))

/-- Applies a built-in function of one argument to the arguments it is called with. -/
def one (name : String) (args : List Object) (f : Object → Except Fault Object) :
    Except Fault Object :=
  match args with
  | [x] => f x
  | _ => .error (oneArgument name args.length)

/-- Calls a built-in function that takes objects of the language, without keyword arguments. -/
def callPositional (name : String) (args : List Object) : Except Fault Object :=
  let one := one name args
  match name with
  | "abs" => one fun x =>
    match x with
    | .bool b => .ok (.int (if b then 1 else 0))
    | .int n => .ok (.int n.natAbs)
    | .float y => .ok (.float y.abs)
    | _ =>
      match x.toExpr? with
      | some e =>
        match Fn.apply (Fn.named "Abs") [e] with
        | .ok v => .ok (.expr v)
        | .error r => .error (Construct.refusalFault r)
      | none => .error (.wrongType ("bad operand type for abs(): \x27" ++ x.typeName ++ "\x27"))
  | "len" => one fun x =>
    match x with
    | .str s => .ok (.int s.length)
    | .bytes bs => .ok (.int bs.length)
    | .tuple xs | .list xs | .set xs => .ok (.int xs.length)
    | .dict es => .ok (.int es.length)
    | _ => .error (.wrongType ("object of type \x27" ++ x.typeName ++ "\x27 has no len()"))
  | "repr" => one fun x => .ok (.str x.repr)
  | "ascii" => one fun x => .ok (.str (asciiText x.repr))
  | "bin" | "oct" | "hex" => one fun x =>
    match (asIndex? x) with
    | some n =>
      .ok (.str (match name with
        | "bin" => inBase "0b" 2 n
        | "oct" => inBase "0o" 8 n
        | _ => inBase "0x" 16 n))
    | none => .error (.wrongType ("\x27" ++ x.typeName ++
        "\x27 object cannot be interpreted as an integer"))
  | "chr" => one fun x =>
    match (asIndex? x) with
    | some n =>
      if n < 0 || n > 0x10ffff then .error (.badValue "chr() arg not in range(0x110000)")
      else .ok (.str (String.singleton (Char.ofNat n.toNat)))
    | none => .error (.wrongType ("\x27" ++ x.typeName ++
        "\x27 object cannot be interpreted as an integer"))
  | "ord" => one fun x =>
    match x with
    | .str s =>
      match s.toList with
      | [c] => .ok (.int c.toNat)
      | cs => .error (.wrongType ("ord() expected a character, but string of length " ++
          toString cs.length ++ " found"))
    | .bytes [b] => .ok (.int (b : Int))
    | _ => .error (.wrongType ("ord() expected string of length 1, but " ++ x.typeName ++
        " found"))
  | "callable" => one fun x =>
    .ok (.bool (match x with
      | .closure .. | .lambda .. | .function _ | .named .. => true
      | _ => false))
  | "all" | "any" => one fun x => do
    let xs ← items x
    let mut result : Bool := name == "all"
    for y in xs do
      let t ← y.isTrue
      if name == "all" && !t then result := false
      if name == "any" && t then result := true
    return .bool result
  | "sum" =>
    match args with
    | [] => .error (.wrongType "sum() takes at least 1 positional argument (0 given)")
    | x :: rest =>
      if rest.length > 1 then
        .error (.wrongType ("sum() takes at most 2 arguments (" ++ toString args.length ++
          " given)"))
      else do
        let start := (rest.head?).getD (.int 0)
        match start with
        | .str _ => throw (.wrongType "sum() can\x27t sum strings [use \x27\x27.join(seq) instead]")
        | _ => pure ()
        (← items x).foldlM (fun acc y => Operate.binary .add acc y) start
  | "divmod" =>
    match args with
    | [a, b] => do
      let q ← Operate.binary .floorDiv a b
      let r ← Operate.binary .mod a b
      return .tuple [q, r]
    | _ => .error (.wrongType ("divmod expected 2 arguments, got " ++ toString args.length))
  | "pow" =>
    match args with
    | [a, b] => Operate.binary .pow a b
    | _ => .error (.notImplemented ("pow() with " ++ toString args.length ++ " arguments"))
  | _ => .error (.notImplemented (name ++ "() is not available"))

/-- Calls a built-in function that takes objects of the language. -/
def call (name : String) (args : List Object) (kwargs : List (String × Object)) :
    Except Fault Object :=
  if !kwargs.isEmpty && ["abs", "len", "repr", "ascii", "bin", "oct", "hex", "chr", "ord",
      "callable"].contains name then
    .error (.wrongType (name ++ "() takes no keyword arguments"))
  else callPositional name args

end Builtin

end ExprTree.Formula
