import ExprTree.Formula.Convert
/-!
  The operators of formula code on objects.

  An operator first tries the language's own rules: whole numbers and floats combine as numbers
  (a truth value counting as `0` or `1`), texts, byte strings, lists and tuples concatenate with
  their own kind and repeat by a whole number. Then the library's: where one operand is an
  expression and the other converts to one, arithmetic builds the canonical expression (`//`
  takes the floor of the quotient and `%` the remainder, exactly for whole numbers), and the
  logical operators `|`, `&`, `^`, `>>`, `<<` and `~` combine symbols and truth values into
  logical expressions. A whole number of the library also combines with a truth value of the
  language as with the number it counts as. Anything else is a type fault that names the
  operator and both types.

  An order comparison of expressions decides by what is known of their difference, and
  otherwise stays as a relation; a comparison with a value that is not real fails.
-/

-- The core instances for powers, products and sums of numbers, also where Mathlib's are
-- in scope, so that the definitions below are the same terms in every build.
attribute [local instance (high)] instPowNat

namespace ExprTree.Formula

open Symbolic

namespace BinaryOp

/-- The operator as a message about its operands names it. -/
def symbol : BinaryOp → String
  | .add => "+"
  | .sub => "-"
  | .mul => "*"
  | .div => "/"
  | .floorDiv => "//"
  | .mod => "%"
  | .pow => "** or pow()"
  | .matMul => "@"
  | .shiftLeft => "<<"
  | .shiftRight => ">>"
  | .bitOr => "|"
  | .bitXor => "^"
  | .bitAnd => "&"

end BinaryOp

namespace CompareOp

/-- The operator as a message about its operands names it. -/
def symbol : CompareOp → String
  | .eq => "=="
  | .ne => "!="
  | .lt => "<"
  | .le => "<="
  | .gt => ">"
  | .ge => ">="
  | .isIn => "in"
  | .notIn => "not in"
  | .is => "is"
  | .isNot => "is not"

end CompareOp

namespace Logic

/-- A truth value or an expression as an object. -/
def toObject : Bool ⊕ Expr → Object
  | .inl b => .truth b
  | .inr e => .expr e

/-- The arguments of a logical operation `name`, or the expression alone. -/
def argsOf (name : String) (e : Expr) : List Expr :=
  match e with
  | .app f xs => if f.group == 5 && f.name == name then xs else [e]
  | _ => [e]

/-- The distinct expressions of a list in canonical order. -/
def canonicalSet (xs : List Expr) : List Expr :=
  Expr.sortByKey (Expr.sortKey 400)
    (xs.foldl (fun (acc : List Expr) x => if acc.any (·.same x) then acc else acc ++ [x]) [])

/-- The expressions among logical operands. -/
def exprs (xs : List (Bool ⊕ Expr)) : List Expr :=
  xs.filterMap fun x =>
    match x with
    | .inr e => some e
    | .inl _ => none

/-- Or (when `isOr`) or And of operands: true (false) when one operand is, otherwise the
operation over the distinct other operands, nested ones of the same operation flattened; none
left gives false (true), one gives itself. -/
def lattice (isOr : Bool) (xs : List (Bool ⊕ Expr)) : Object :=
  let name := if isOr then "Or" else "And"
  if xs.any (fun x => match x with
      | .inl b => b == isOr
      | .inr _ => false) then .truth isOr
  else
    match canonicalSet ((exprs xs).flatMap (argsOf name)) with
    | [] => .truth !isOr
    | [e] => .expr e
    | ys => .expr (.app (Fn.operation name) ys)

/-- The negation: of a truth value its opposite, of a negation its argument. -/
def negation : Bool ⊕ Expr → Object
  | .inl b => .truth !b
  | .inr e =>
    match argsOf "Not" e with
    | [x] => if x.same e then .expr (.app (Fn.operation "Not") [e]) else .expr x
    | _ => .expr (.app (Fn.operation "Not") [e])

/-- Exclusive or: operands that occur twice cancel, false drops and true flips the result; one
operand left is itself, and a result flipped by true is the negation of the rest. -/
def exclusive (xs : List (Bool ⊕ Expr)) : Object :=
  let toggle := fun (s : List Expr) (a : Expr) =>
    if s.any (·.same a) then s.filter (!·.same a) else s ++ [a]
  let (flipped, set) := xs.foldl (fun (acc : Bool × List Expr) x =>
    match x with
    | .inl b => (acc.1 != b, acc.2)
    | .inr e => (acc.1, (argsOf "Xor" e).foldl toggle acc.2)) (false, [])
  let rest : Bool ⊕ Expr := match Expr.sortByKey (Expr.sortKey 400) set with
    | [] => .inl false
    | [e] => .inr e
    | es => .inr (.app (Fn.operation "Xor") es)
  if flipped then
    match rest with
    | .inl _ => .truth true
    | r => negation r
  else toObject rest

/-- Implication: with a truth value on either side it is `¬a ∨ b`, between equal operands true,
and otherwise it stays. -/
def implication (a b : Bool ⊕ Expr) : Object :=
  match a, b with
  | .inl x, _ =>
    match negation (.inl x) with
    | .truth t => lattice true [.inl t, b]
    | _ => .truth true
  | .inr x, .inl y =>
    match negation (.inr x) with
    | .expr nx => lattice true [.inr nx, .inl y]
    | .truth t => lattice true [.inl t, .inl y]
    | _ => .truth true
  | .inr x, .inr y =>
    if x.same y then .truth true else .expr (.app (Fn.operation "Implies") [x, y])

end Logic

namespace Operate

open Expr

/-- The fault for operands of types that an operator does not combine. -/
def operandsFault (op : BinaryOp) (a b : Object) : Fault :=
  .operands op.symbol a.typeName b.typeName

/-- The whole number a truth value or whole number of the language counts as. -/
def wholeOf? : Object → Option Int
  | .bool b => some (if b then 1 else 0)
  | .int n => some n
  | _ => none

/-- The float a whole number of the language converts to. -/
def toFloat (n : Int) : Except Fault Float :=
  match Decimal.ofInt? n with
  | some x => .ok x
  | none => .error (.overflow "int too large to convert to float")

/-- The most bits a whole number built by a power or a shift may have. -/
def bitLimit : Nat := 1 <<< 22

/-- The number of bits of a whole number. -/
def bits (n : Int) : Nat := n.natAbs.log2 + 1

/-- Bitwise and, or (`bitOr`) and exclusive or (any other operator) of whole numbers, taken as
two's complements without end: a negative number `-x - 1` has the bits of `x` flipped. -/
def bitwise (op : BinaryOp) (a b : Int) : Int :=
  match a, b with
  | .ofNat x, .ofNat y =>
    match op with
    | .bitAnd => (x &&& y : Nat)
    | .bitOr => (x ||| y : Nat)
    | _ => (x ^^^ y : Nat)
  | .negSucc x, .ofNat y | .ofNat y, .negSucc x =>
    match op with
    | .bitAnd => (y - (y &&& x) : Nat)
    | .bitOr => Int.negSucc (x - (x &&& y))
    | _ => Int.negSucc (x ^^^ y)
  | .negSucc x, .negSucc y =>
    match op with
    | .bitAnd => Int.negSucc (x ||| y)
    | .bitOr => Int.negSucc (x &&& y)
    | _ => (x ^^^ y : Nat)

/-- Arithmetic of two whole numbers of the language. -/
def wholeBinary (op : BinaryOp) (a b : Int) (bothTruth : Bool) : Except Fault Object :=
  match op with
  | .add => .ok (.int (a + b))
  | .sub => .ok (.int (a - b))
  | .mul => .ok (.int (a * b))
  | .div =>
    if b == 0 then .error (.zeroDivision "division by zero")
    else
      let x := (BigFloat.ofRat (a * b.sign) b.natAbs 53).toFloat
      if x.isInf then .error (.overflow "integer division result too large for a float")
      else .ok (.float x)
  | .floorDiv =>
    if b == 0 then .error (.zeroDivision "integer division or modulo by zero")
    else .ok (.int (Int.fdiv a b))
  | .mod =>
    if b == 0 then .error (.zeroDivision "integer modulo by zero")
    else .ok (.int (Int.fmod a b))
  | .pow =>
    if b ≥ 0 then
      if a.natAbs ≤ 1 || bits a * b.toNat ≤ bitLimit then .ok (.int (a ^ b.toNat))
      else .error .outOfMemory
    else if a == 0 then .error (.zeroDivision "0.0 cannot be raised to a negative power")
    else
      let d := a ^ b.natAbs
      .ok (.float (BigFloat.ofRat (d.sign) d.natAbs 53).toFloat)
  | .shiftLeft =>
    if b < 0 then .error (.badValue "negative shift count")
    else if a == 0 then .ok (.int 0)
    else if bits a + b.toNat ≤ bitLimit then .ok (.int (a * 2 ^ b.toNat))
    else .error .outOfMemory
  | .shiftRight =>
    if b < 0 then .error (.badValue "negative shift count")
    else .ok (.int (Int.fdiv a (2 ^ (min b.toNat (bits a + 1)))))
  | .bitAnd | .bitOr | .bitXor =>
    if bothTruth then
      let (x, y) := (a != 0, b != 0)
      .ok (.bool (match op with
        | .bitAnd => x && y
        | .bitOr => x || y
        | _ => x != y))
    else .ok (.int (bitwise op a b))
  | .matMul => .error (.operands "@" "int" "int")

/-- Arithmetic of numbers of the language of which at least one is a float. -/
def floatBinary (op : BinaryOp) (x y : Float) : Except Fault Object :=
  match op with
  | .add => .ok (.float (x + y))
  | .sub => .ok (.float (x - y))
  | .mul => .ok (.float (x * y))
  | .div => if y == 0 then .error (.zeroDivision "float division by zero") else .ok (.float (x / y))
  | .pow =>
    if x == 0 && y < 0 then .error (.zeroDivision "0.0 cannot be raised to a negative power")
    else .ok (.float (x.pow y))
  | .floorDiv => if y == 0 then .error (.zeroDivision "float floor division by zero")
    else .ok (.float (x / y).floor)
  | .mod => if y == 0 then .error (.zeroDivision "float modulo")
    else .ok (.float (x - y * (x / y).floor))
  | _ => .error (.operands op.symbol "float" "float")

/-- Arithmetic of two numbers of the language, or none when one is not such a number. -/
def nativeBinary (op : BinaryOp) (a b : Object) : Option (Except Fault Object) :=
  match wholeOf? a, wholeOf? b with
  | some m, some n =>
    let bothTruth := (match a, b with
      | .bool _, .bool _ => true
      | _, _ => false)
    some (wholeBinary op m n bothTruth)
  | _, _ =>
    let asFloat : Object → Option (Except Fault Float) := fun o =>
      match o with
      | .float x => some (.ok x)
      | o => (wholeOf? o).map toFloat
    match a, b with
    | .float _, _ | _, .float _ =>
      match asFloat a, asFloat b with
      | some x, some y => some (do floatBinary op (← x) (← y))
      | _, _ => none
    | _, _ => none

/-- The sum, difference, product, quotient or power of two expressions. Two numbers combine as
numbers; a quotient is the product by the power minus one, or that power alone when the
dividend is one. -/
def arith (op : BinaryOp) (x y : Expr) : Expr :=
  match op, x, y with
  | .add, .num m, .num n => .num (m.add n)
  | .add, _, _ => sumOf [x, y]
  | .sub, .num m, .num n => .num (m.add n.negKeep)
  | .sub, _, _ => sumOf [x, negationOf y]
  | .mul, .num m, .num n => .num (m.mul n)
  | .mul, _, _ => productOf [x, y]
  | .div, .num m, .num n => .num (m.div n)
  | .div, _, _ => if x.isInt 1 then powerOf y (int (-1)) else productOf [x, powerOf y (int (-1))]
  | _, _, _ => powerOf x y

/-- Arithmetic of two expressions, or none for an operator that expressions do not take. -/
def exprBinary (op : BinaryOp) (a b : Expr) : Option (Except Fault Object) :=
  match op with
  | .add | .sub | .mul | .div | .pow => some (.ok (.expr (arith op a b)))
  | .floorDiv =>
    match a, b with
    | .num (.int m), .num (.int n) =>
      if n == 0 then some (.error (.zeroDivision "integer division or modulo by zero"))
      else some (.ok (Object.integer (Int.fdiv m n)))
    | _, _ => some (.ok (.expr (Fn.rounding false (arith .div a b))))
  | .mod =>
    match a, b with
    | .num (.int m), .num (.int n) =>
      if n == 0 then some (.error (.zeroDivision "integer modulo by zero"))
      else some (.ok (Object.integer (Int.fmod m n)))
    | .num (.rat ..), .num (.int 0) | .num (.int _), .num (.rat ..) | .num (.rat ..), .num (.rat ..) =>
      if b.isZeroNum then some (.error (.zeroDivision "integer division or modulo by zero"))
      else some (.ok (.expr (Fn.modulo a b)))
    | _, _ =>
      some (match Fn.apply (Fn.named "Mod") [a, b] with
        | .ok e => .ok (.expr e)
        | .error _ => .error (.zeroDivision "Modulo by zero"))
  | _ => none

/-- Whether an object is a sequence of the language that concatenates and repeats. -/
def isSequence : Object → Bool
  | .str _ | .bytes _ | .list _ | .tuple _ => true
  | _ => false

/-- The whole number an object counts as where a sequence is repeated: a whole number or truth
value of the language, or a whole number of the library. -/
def repeatCount? : Object → Option Int
  | .expr (.num (.int n)) => some n
  | o => wholeOf? o

/-- The most items a sequence built by repetition may have. -/
def itemLimit : Nat := 10000000

/-- A sequence repeated `n` times. -/
def repeatSeq (s : Object) (n : Int) : Except Fault Object :=
  let k := n.toNat
  let rep := fun {α : Type} (xs : List α) => (List.replicate k xs).flatten
  let size : Nat := match s with
    | .str t => t.length
    | .bytes bs => bs.length
    | .list xs | .tuple xs => xs.length
    | _ => 0
  if size * k > itemLimit then .error .outOfMemory
  else match s with
    | .str t => .ok (.str (String.join (List.replicate k t)))
    | .bytes bs => .ok (.bytes (rep bs))
    | .list xs => .ok (.list (rep xs))
    | .tuple xs => .ok (.tuple (rep xs))
    | o => .ok o

/-- The whole number that `%d` writes for an object: a number cut toward zero. -/
def wholeForFormat (o : Object) : Except Fault Int :=
  let cut : BigFloat → Int := fun x => if x.neg then -x.neg'.floorInt else x.floorInt
  match o with
  | .bool b => .ok (if b then 1 else 0)
  | .int n => .ok n
  | .float x =>
    if x.isNaN then .error (.badValue "cannot convert float NaN to integer")
    else if x.isInf then .error (.overflow "cannot convert float infinity to integer")
    else .ok (cut (BigFloat.ofFloat x))
  | .expr (.num (.int n)) => .ok n
  | .expr (.num (.rat p q)) => .ok (Int.tdiv p q)
  | .expr (.num (.float x _)) => .ok (cut x)
  | _ => .error (.wrongType ("%d format: a real number is required, not " ++ o.typeName))

/-- Writes the arguments into a format text by its `%` fields: `%s`, `%r` and `%a` write an
argument plainly, unambiguously or in ASCII, `%d` and `%i` as a whole number, and `%%` a percent
sign. Every argument must be used. -/
def percentFormat (fmt : List Char) (args : List Object) (mapping : Bool) : Except Fault String :=
  match fmt with
  | [] =>
    if args.isEmpty || mapping then .ok ""
    else .error (.wrongType "not all arguments converted during string formatting")
  | ['%'] => .error (.badValue "incomplete format")
  | '%' :: '%' :: rest => do return "%" ++ (← percentFormat rest args mapping)
  | '%' :: c :: rest =>
    match args with
    | [] => .error (.wrongType "not enough arguments for format string")
    | a :: more => do
      let here ← match c with
        | 's' => pure a.text
        | 'r' => pure a.repr
        | 'd' | 'i' => do return toString (← wholeForFormat a)
        | _ => throw (.notImplemented ("the format field %" ++ String.singleton c))
      return here ++ (← percentFormat rest more mapping)
  | c :: rest => do return String.singleton c ++ (← percentFormat rest args mapping)

/-- Concatenation and repetition of sequences, or none when neither operand is a sequence or
the operator is not one of them. -/
def sequenceBinary (op : BinaryOp) (a b : Object) : Option (Except Fault Object) :=
  match op with
  | .add =>
    match a, b with
    | .str x, .str y => some (.ok (.str (x ++ y)))
    | .bytes x, .bytes y => some (.ok (.bytes (x ++ y)))
    | .list x, .list y => some (.ok (.list (x ++ y)))
    | .tuple x, .tuple y => some (.ok (.tuple (x ++ y)))
    | .str _, _ | .list _, _ | .tuple _, _ =>
      some (.error (.wrongType ("can only concatenate " ++ a.typeName ++ " (not \"" ++
        b.typeName ++ "\") to " ++ a.typeName)))
    | .bytes _, _ => some (.error (.wrongType ("can\x27t concat " ++ b.typeName ++ " to bytes")))
    | _, _ => none
  | .mul =>
    if isSequence a then
      some (match repeatCount? b with
        | some n => repeatSeq a n
        | none => .error (.wrongType ("can\x27t multiply sequence by non-int of type \x27" ++
            b.typeName ++ "\x27")))
    else if isSequence b then
      match a.toExpr?, a with
      | _, .expr (.num (.int n)) => some (repeatSeq b n)
      | _, _ =>
        some (match repeatCount? a with
          | some n => repeatSeq b n
          | none => .error (.wrongType ("can\x27t multiply sequence by non-int of type \x27" ++
              a.typeName ++ "\x27")))
    else none
  | .mod =>
    match a with
    | .str fmt =>
      let (args, mapping) := match b with
        | .tuple xs => (xs, false)
        | .dict _ => ([b], true)
        | o => ([o], false)
      some (do return .str (← percentFormat fmt.toList args mapping))
    | _ => none
  | _ => none

/-- Whether an object is a whole number of the library. -/
def isLibraryWhole : Object → Bool
  | .expr (.num (.int _)) => true
  | _ => false

/-- Applies a binary operator to two objects. -/
def binary (op : BinaryOp) (a b : Object) : Except Fault Object :=
  match nativeBinary op a b with
  | some r => r
  | none =>
    match sequenceBinary op a b with
    | some r => r
    | none =>
      -- a whole number of the library takes a truth value as the number it counts as
      let truthWithWhole : Bool := match a, b with
        | .bool _, .expr (.num (.int _)) | .expr (.num (.int _)), .bool _ =>
          op == .add || op == .sub || op == .mul || op == .mod ||
            (op == .floorDiv && isLibraryWhole b)
        | _, _ => false
      let a' := if truthWithWhole then (match a with
        | .bool x => Object.integer (if x then 1 else 0)
        | o => o) else a
      let b' := if truthWithWhole then (match b with
        | .bool x => Object.integer (if x then 1 else 0)
        | o => o) else b
      let logical := op == .bitOr || op == .bitAnd || op == .bitXor || op == .shiftLeft ||
        op == .shiftRight
      -- a whole number of the library shifts and combines bits with whole numbers
      let bitOperand : Object → Option Int := fun o =>
        match o with
        | .expr (.num (.int n)) => some n
        | o => wholeOf? o
      match logical && (isLibraryWhole a || isLibraryWhole b), bitOperand a, bitOperand b with
      | true, some m, some n =>
        (wholeBinary op m n false).map fun r =>
          match r with
          | .int k => Object.integer k
          | o => o
      | _, _, _ =>
        match a'.toExpr?, b'.toExpr?, logical with
        | some x, some y, false =>
          match exprBinary op x y with
          | some r => r
          | none => .error (operandsFault op a b)
        | _, _, _ =>
          if logical && (a.isLibrary || b.isLibrary) then
            match a.toLogic?, b.toLogic? with
            | some x, some y =>
              match op with
              | .bitOr => .ok (Logic.lattice true [x, y])
              | .bitAnd => .ok (Logic.lattice false [x, y])
              | .bitXor => .ok (Logic.exclusive [x, y])
              | .shiftRight => .ok (Logic.implication x y)
              | _ => .ok (Logic.implication y x)
            | _, _ => .error (operandsFault op a b)
          else .error (operandsFault op a b)

/-- Applies a unary operator to an object. -/
def unary (op : UnaryOp) (a : Object) : Except Fault Object :=
  let bad := Fault.operand (match op with
    | .neg => "-"
    | .pos => "+"
    | .invert => "~"
    | .not => "not") a.typeName
  match op with
  | .not => do return .bool !(← a.isTrue)
  | .neg =>
    match a with
    | .bool b => .ok (.int (if b then -1 else 0))
    | .int n => .ok (.int (-n))
    | .float x => .ok (.float (-x))
    | .complex re im => .ok (.complex (-re) (-im))
    | _ =>
      match a.toExpr? with
      | some e => .ok (.expr (negationOf e))
      | none => .error bad
  | .pos =>
    match a with
    | .bool b => .ok (.int (if b then 1 else 0))
    | .int _ | .float _ | .complex .. => .ok a
    | _ => if a.toExpr?.isSome then .ok a else .error bad
  | .invert =>
    match a with
    | .bool b => .ok (.int (if b then -2 else -1))
    | .int n => .ok (.int (-n - 1))
    | .expr (.num (.int n)) => .ok (Object.integer (-n - 1))
    | _ =>
      match a.toLogic?, a with
      | some x, .expr _ | some x, .truth _ => .ok (Logic.negation x)
      | _, _ => .error bad

/-- Decides an order relation between two expressions, or keeps it as a relation; an operand
that is not real, or NaN, cannot be compared. -/
def relate (r : Relation) (a b : Expr) : Except Fault Object := do
  for e in [a, b] do
    if e.facts.extReal == some false then
      throw (.wrongType ("Invalid comparison of non-real " ++ e.text))
    if e.isNaN then throw (.wrongType "Invalid NaN comparison")
  let decided : Option Bool := match r with
    | .lt => (Expr.decideGe a b).map (!·)
    | .le => Expr.decideGe b a
    | .gt => (Expr.decideGe b a).map (!·)
    | .ge => Expr.decideGe a b
    | _ => none
  match decided with
  | some v => return .truth v
  | none => return .relation r a b

/-- The fault for operands that an order comparison does not take. -/
def orderFault (op : CompareOp) (a b : Object) : Fault :=
  .wrongType ("\x27" ++ op.symbol ++ "\x27 not supported between instances of \x27" ++
    a.typeName ++ "\x27 and \x27" ++ b.typeName ++ "\x27")

/-- Compares two numbers of the language: `some` of the order unless one is NaN. -/
def nativeOrder (a b : Object) : Option (Option Ordering) :=
  let big : Object → Option (Option BigFloat ⊕ Int) := fun o =>
    match o with
    | .float x => some (.inl (if x.isNaN || x.isInf then Option.none else some (BigFloat.ofFloat x)))
    | o => (wholeOf? o).map Sum.inr
  match big a, big b with
  | some x, some y =>
    some (match x, y with
      | .inr m, .inr n => some (compare m n)
      | .inl (some u), .inl (some v) => some (u.compare' v)
      | .inl (some u), .inr n => some (u.compareRat n 1)
      | .inr m, .inl (some v) => some (v.compareRat m 1).swap
      | _, _ =>
        -- an infinity or NaN among floats of the language
        let fl : Object → Float := fun o =>
          match o with
          | .float x => x
          | .bool b => if b then 1.0 else 0.0
          | .int n => if n > 0 then 1.0 else if n < 0 then -1.0 else 0.0
          | _ => 0.0
        let (x, y) := (fl a, fl b)
        if x.isNaN || y.isNaN then Option.none
        else some (if x < y then .lt else if y < x then .gt else .eq))
  | _, _ => Option.none

/-- Lexicographic order of lists of numbers. -/
def compareLex : List Nat → List Nat → Ordering
  | [], [] => .eq
  | [], _ => .lt
  | _, [] => .gt
  | x :: xs, y :: ys => if x == y then compareLex xs ys else compare x y

/-- The first pair of items at one place of two lists that are not equal, or the order of the
lengths when every place they share holds equal items. -/
def firstUnequal : List Object → List Object → (Object × Object) ⊕ Ordering
  | [], [] => .inr .eq
  | [], _ => .inr .lt
  | _, [] => .inr .gt
  | x :: xs, y :: ys => if Object.equals x y then firstUnequal xs ys else .inl (x, y)

/-- The relation an order operator stands for. -/
def CompareOp.relation : CompareOp → Relation
  | .lt => .lt
  | .le => .le
  | .gt => .gt
  | _ => .ge

/-- Applies an order comparison to two objects: expressions of the library relate; numbers, texts
and byte strings of the language order; lists and tuples order by their first unequal items,
whose comparison is the result, or else by their lengths. -/
def orderWith : Nat → CompareOp → Object → Object → Except Fault Object
  | 0, _, _, _ => .error .tooDeep
  | fuel + 1, op, a, b =>
    if a.isLibrary || b.isLibrary then
      match a.toExpr?, b.toExpr? with
      | some x, some y => relate (CompareOp.relation op) x y
      | _, _ => .error (orderFault op a b)
    else
      let holds := fun (o : Ordering) => match op with
        | .lt => o == .lt
        | .le => o != .gt
        | .gt => o == .gt
        | _ => o != .lt
      match nativeOrder a b with
      | some (some o) => .ok (.bool (holds o))
      | some none => .ok (.bool false)
      | none =>
        match a, b with
        | .str x, .str y => .ok (.bool (holds (compare x y)))
        | .bytes x, .bytes y => .ok (.bool (holds (compareLex x y)))
        | .list xs, .list ys | .tuple xs, .tuple ys =>
          match firstUnequal xs ys with
          | .inl (x, y) => orderWith fuel op x y
          | .inr o => .ok (.bool (holds o))
        | _, _ => .error (orderFault op a b)

/-- How deep order comparisons follow nested lists and tuples. -/
def orderDepth : Nat := 64

/-- Applies an order comparison to two objects. -/
def order (op : CompareOp) (a b : Object) : Except Fault Object := orderWith orderDepth op a b

/-- Whether `a` is an item of `b`. -/
def contains (a b : Object) : Except Fault Bool :=
  match b with
  | .tuple xs | .list xs | .set xs => .ok (xs.any (Object.equals a))
  | .dict es => .ok (es.any fun e => Object.equals a e.1)
  | .str t =>
    match a with
    | .str s => .ok (s.isEmpty || (t.splitOn s).length > 1)
    | _ => .error (.wrongType ("\x27in <string>\x27 requires string as left operand, not " ++
        a.typeName))
  | _ => .error (.wrongType ("argument of type \x27" ++ b.typeName ++ "\x27 is not iterable"))

/-- Whether two objects are the same object, as far as values tell: equal values of one kind. -/
def identical (a b : Object) : Bool :=
  match a, b with
  | .none, .none | .ellipsis, .ellipsis => true
  | .bool x, .bool y => x == y
  | .int x, .int y => x == y
  | .str x, .str y => x == y
  | .expr x, .expr y => x.sameKey y
  | .truth x, .truth y => x == y
  | .function f, .function g => f == g
  | .named x _, .named y _ => x == y
  | _, _ => false

/-- Applies a comparison operator to two objects. -/
def compareWith (op : CompareOp) (a b : Object) : Except Fault Object :=
  match op with
  | .eq => .ok (.bool (Object.equals a b))
  | .ne => .ok (.bool !(Object.equals a b))
  | .isIn => do return .bool (← contains a b)
  | .notIn => do return .bool !(← contains a b)
  | .is => .ok (.bool (identical a b))
  | .isNot => .ok (.bool !(identical a b))
  | _ => order op a b

end Operate

end ExprTree.Formula
