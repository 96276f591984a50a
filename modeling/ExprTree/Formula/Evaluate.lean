import ExprTree.Formula.Library
import ExprTree.Formula.Code
import ExprTree.Formula.Check
/-!
  Running formula code: a term evaluates to an object.

  Names are found first among those the code binds itself (by assignment expressions,
  comprehensions and lambda parameters), then `pow` and `float` as the reading binds them, then
  among the predefined names. Operators follow the language: `and` and `or` give one of their
  operands, a chain of comparisons stops at the first that does not hold, and the operators on
  objects are those of `Operate`. Calls bind their arguments to the callee's signature; the
  library's callables convert them, leniently or strictly, and a text given where the library
  converts leniently is read as a formula of the library's own reading, with `^` as a power.

  Evaluation carries a depth bound, `evalDepth`; code nested deeper, or a lambda calling itself
  without end, fails as too deep.
-/

namespace ExprTree.Formula

open Symbolic

/-- The names that running code has bound, the latest first. -/
abbrev Bindings := List (String × Object)

/-- A computation of running code: it reads and extends the bindings and may fail. -/
abbrev EvalM := StateT Bindings (Except Fault)

namespace Evaluate

/-- How deep evaluation follows nested terms and calls. -/
def evalDepth : Nat := 20000

/-- The object a name stands for: a binding of the code, the class or function a reading binds
`pow` and `float` to, or a predefined object. -/
def lookup (d : Dialect) (bound : Bindings) (name : String) : Except Fault Object :=
  match bound.lookup name with
  | some o => .ok o
  | none =>
    match d, name with
    | .formula, "pow" => .ok (.named "Pow" (.cls "sympy.core.power.Pow"))
    | .formula, "float" => .ok (.named "Float" (.cls "sympy.core.numbers.Float"))
    | .library, "pow" => .ok (.named "pow" .builtin)
    | _, _ =>
      match Names.object? name with
      | some o => .ok o
      | none => .error (.unbound name)

/-- Binds a name, in place of any earlier binding of it. -/
def bindName (name : String) (v : Object) : EvalM Unit :=
  modify fun bs => (name, v) :: bs.filter (·.1 != name)

/-- Assigns a value to a target: a name is bound, a tuple or list of targets takes the items of
the value one by one, a starred target among them the items left over. -/
def assign : Nat → Term → Object → EvalM Unit
  | 0, _, _ => throw .tooDeep
  | fuel + 1, target, v =>
    match target with
    | .name n => bindName n v
    | .tuple ts | .list ts => do
      let xs ← match v with
        | .tuple xs | .list xs | .set xs => pure xs
        | .dict es => pure (es.map Prod.fst)
        | .str s => pure (s.toList.map fun c => Object.str (String.singleton c))
        | .bytes bs => pure (bs.map fun (b : Nat) => Object.int (b : Int))
        | o => throw (.wrongType ("cannot unpack non-iterable " ++ o.typeName ++ " object"))
      let starAt := ts.findIdx? fun t => t matches .starred _
      match starAt with
      | none =>
        if xs.length < ts.length then
          throw (.badValue ("not enough values to unpack (expected " ++ toString ts.length ++
            ", got " ++ toString xs.length ++ ")"))
        if xs.length > ts.length then
          throw (.badValue ("too many values to unpack (expected " ++ toString ts.length ++ ")"))
        for (t, x) in ts.zip xs do assign fuel t x
      | some i =>
        let after := ts.length - i - 1
        if xs.length < ts.length - 1 then
          throw (.badValue ("not enough values to unpack (expected at least " ++
            toString (ts.length - 1) ++ ", got " ++ toString xs.length ++ ")"))
        for (t, x) in (ts.take i).zip xs do assign fuel t x
        match ts[i]? with
        | some (.starred t) => assign fuel t (.list ((xs.drop i).take (xs.length - i - after)))
        | _ => pure ()
        for (t, x) in (ts.drop (i + 1)).zip (xs.drop (xs.length - after)) do assign fuel t x
    | .starred t => assign fuel t v
    | _ => throw (.notImplemented ("assignment to a " ++ target.kindName))

/-- Whether an object may be a key of a dictionary or an item of a set. -/
def hashable : Object → Bool
  | .list _ | .dict _ | .set _ | .slice .. => false
  | .tuple xs => xs.attach.all fun ⟨x, _⟩ => hashable x
  | _ => true

/-- The fault for an object that cannot be a key or an item of a set. -/
def unhashable (o : Object) : Fault := .wrongType ("unhashable type: \x27" ++ o.typeName ++ "\x27")

/-- The items of a set display: duplicates dropped, the first kept. -/
def setOf (xs : List Object) : Except Fault Object := do
  let mut acc : List Object := []
  for x in xs do
    if !hashable x then throw (unhashable x)
    if !acc.any (Object.equals x) then acc := acc ++ [x]
  return .set acc

/-- The entries of a dictionary display: a later value for an equal key replaces the earlier. -/
def dictOf (es : List (Object × Object)) : Except Fault Object := do
  let mut acc : List (Object × Object) := []
  for (k, v) in es do
    if !hashable k then throw (unhashable k)
    match acc.findIdx? fun e => Object.equals e.1 k with
    | some i => acc := acc.set i (acc[i]?.map (fun e => (e.1, v)) |>.getD (k, v))
    | none => acc := acc ++ [(k, v)]
  return .dict acc

/-- The whole number an index object stands for. -/
def indexOf? (o : Object) : Option Int := Builtin.asIndex? o

/-- The places a slice picks from a sequence of `length` items, as the language computes them:
missing bounds run to the ends, negative ones count from the end, and all are clipped. -/
def slicePlaces (length : Nat) (lo hi step : Option Int) : Except Fault (List Nat) := do
  let st := step.getD 1
  if st == 0 then throw (.badValue "slice step cannot be zero")
  let n : Int := length
  let clip := fun (v : Int) =>
    if v < 0 then
      let w := v + n
      if w < 0 then (if st < 0 then -1 else 0) else w
    else if v ≥ n then (if st < 0 then n - 1 else n) else v
  let start := match lo with
    | some v => clip v
    | none => if st < 0 then n - 1 else 0
  let stop := match hi with
    | some v => clip v
    | none => if st < 0 then -1 else n
  let count : Nat :=
    if st > 0 then (if stop > start then ((stop - start + st - 1) / st).toNat else 0)
    else (if start > stop then ((start - stop + (-st) - 1) / (-st)).toNat else 0)
  return (List.range count).map fun (k : Nat) => (start + Int.ofNat k * st).toNat

/-- A bound of a slice as a whole number, or none when it is `None`. -/
def sliceBound (o : Object) : Except Fault (Option Int) :=
  match o with
  | .none => .ok none
  | o =>
    match indexOf? o with
    | some n => .ok (some n)
    | none => .error (.wrongType
        "slice indices must be integers or None or have an __index__ method")

/-- The item of a sequence at an index, or the sequence a slice picks. -/
def subscript (o idx : Object) : Except Fault Object :=
  let pick := fun {α : Type} (xs : List α) (what : String) (mk : List α → Object)
      (one : α → Object) =>
    match idx with
    | .slice lo hi step => do
      let places ← slicePlaces xs.length (← sliceBound lo) (← sliceBound hi) (← sliceBound step)
      return mk (places.filterMap fun i => xs[i]?)
    | _ =>
      match indexOf? idx with
      | some i =>
        let j := if i < 0 then i + xs.length else i
        match (if j < 0 then none else xs[j.toNat]?) with
        | some x => .ok (one x)
        | none => .error (.index (what ++ " index out of range"))
      | none =>
        .error (.wrongType (what ++ " indices must be integers or slices, not " ++ idx.typeName))
  match o with
  | .tuple xs => pick xs "tuple" Object.tuple id
  | .list xs => pick xs "list" Object.list id
  | .str s =>
    match idx with
    | .slice .. | .bool _ | .int _ | .expr (.num (.int _)) =>
      pick s.toList "string" (fun cs => .str (String.ofList cs)) (fun c => .str (String.singleton c))
    | _ => .error (.wrongType ("string indices must be integers, not \x27" ++ idx.typeName ++ "\x27"))
  | .bytes bs =>
    match idx with
    | .slice .. | .bool _ | .int _ | .expr (.num (.int _)) =>
      pick bs "index" Object.bytes (fun b => .int (b : Int))
    | _ => .error (.wrongType ("byte indices must be integers or slices, not " ++ idx.typeName))
  | .dict es =>
    if !hashable idx then .error (unhashable idx)
    else match es.find? fun e => Object.equals e.1 idx with
      | some (_, v) => .ok v
      | none => .error (.missingKey idx.repr)
  | .named n (.cls _) => .error (.wrongType ("type \x27" ++ n ++ "\x27 is not subscriptable"))
  | _ => .error (.wrongType ("\x27" ++ o.typeName ++ "\x27 object is not subscriptable"))

/-- A fact of an expression as the language gives it: true, false or `None` when unknown. -/
def fact (v : Option Bool) : Object :=
  match v with
  | some b => .bool b
  | none => .none

/-- The arguments an expression is built from. -/
def exprArgs : Expr → List Expr
  | .add xs | .mul xs | .app _ xs => xs
  | .pow b e => [b, e]
  | _ => []

/-- The attribute of an expression that code may read: its arguments, its name or parts as a
number, and what is known of it. -/
def exprAttribute (e : Expr) (attr : String) : Option Object :=
  let f := e.facts
  let real := Expr.and3 f.extReal f.finite
  match attr with
  | "args" => some (.tuple ((exprArgs e).map Object.expr))
  | "name" =>
    match e with
    | .sym s => some (.str s)
    | _ => none
  | "p" =>
    match e with
    | .num (.int n) => some (.int n)
    | .num (.rat p _) => some (.int p)
    | _ => none
  | "q" =>
    match e with
    | .num (.int _) => some (.int 1)
    | .num (.rat _ q) => some (.int q)
    | _ => none
  | "is_positive" => some (fact (Expr.and3 f.positive f.finite))
  | "is_negative" => some (fact (Expr.and3 f.negative f.finite))
  | "is_extended_positive" => some (fact f.positive)
  | "is_extended_negative" => some (fact f.negative)
  | "is_zero" => some (fact f.zero)
  | "is_real" => some (fact real)
  | "is_extended_real" => some (fact f.extReal)
  | "is_finite" => some (fact f.finite)
  | "is_infinite" => some (fact (f.finite.map (!·)))
  | "is_integer" => some (fact f.integer)
  | "is_imaginary" => some (fact f.imaginary)
  | "is_number" => some (.bool e.isNumber)
  | "is_commutative" => some (.bool true)
  | "is_Symbol" => some (.bool (e matches .sym _))
  | "is_Add" => some (.bool (e matches .add _))
  | "is_Mul" => some (.bool (e matches .mul _))
  | "is_Pow" => some (.bool (e matches .pow ..))
  | "is_Function" => some (.bool (e matches .app ..))
  | "is_Number" => some (.bool (e matches .num _))
  | "is_Integer" => some (.bool (e matches .num (.int _)))
  | "is_Rational" => some (.bool (e matches .num (.int _) || e matches .num (.rat ..)))
  | "is_Float" => some (.bool (e matches .num (.float ..)))
  | "is_Atom" => some (.bool (exprArgs e).isEmpty)
  | _ => none

/-- The attribute of an object: the single objects of the registry `S`, and the attributes of
expressions; any other is missing. -/
def attributeOf (o : Object) (attr : String) : Except Fault Object :=
  match o with
  | .named "S" (.instance _) =>
    match Names.registry attr with
    | some v => .ok v
    | none => .error (.attributeMessage ("Attribute \x27" ++ attr ++
        "\x27 was not installed on SymPy registry S"))
  | .expr e =>
    match exprAttribute e attr with
    | some v => .ok v
    | none => .error (.noAttribute o.typeName attr)
  | .named n (.cls _) | .function ⟨n, _, _, false⟩ =>
    .error (.attributeMessage ("type object \x27" ++ n ++ "\x27 has no attribute \x27" ++ attr ++ "\x27"))
  | _ => .error (.noAttribute o.typeName attr)

/-- The text a replacement field of a formatted string gives: the value converted as asked,
then formatted by an empty specification. -/
def formatValue (v : Object) (conversion : Option Char) (spec : String) : Except Fault String :=
  if !spec.isEmpty then .error (.notImplemented "format specifications")
  else
    match conversion with
    | some 'r' => .ok v.repr
    | some 'a' => .ok (Builtin.asciiText v.repr)
    | _ => .ok v.text

/-- Whether a fault is one of reading: splitting into tokens, rewriting, or parsing. -/
def isReadingFault (f : Fault) : Bool :=
  match f.kind with
  | .tokenizer | .indentation | .unparsable | .tabs => true
  | _ => false

/-- The keyword arguments a mapping unpacks into: its keys must be texts. -/
def unpackKeywords (o : Object) : Except Fault (List (String × Object)) :=
  match o with
  | .dict es =>
    es.mapM fun (k, v) =>
      match k with
      | .str s => .ok (s, v)
      | _ => .error (.wrongType "keywords must be strings")
  | _ => .error (.wrongType ("argument after ** must be a mapping, not " ++ o.typeName))

/-- Lifts a computation that may fail into running code. -/
def liftFault {α : Type} (x : Except Fault α) : EvalM α := StateT.lift x

/-- Whether an object is a single object of the library that converts to itself: a set of the
library. -/
def isLibrarySet : Object → Bool
  | .named _ (.instance t) =>
    ["EmptySet", "UniversalSet", "Reals", "Integers", "Naturals", "Naturals0", "Rationals",
      "Complexes"].contains t
  | _ => false

mutual

/-- Evaluates a term. -/
def term (d : Dialect) : Nat → Term → EvalM Object
  | 0, _ => throw .tooDeep
  | fuel + 1, t =>
    match t with
    | .name n => do liftFault (lookup d (← get) n)
    | .number text =>
      match Native.literal text with
      | some o => pure o
      | none => throw (.malformed "invalid syntax" 1)
    | .text s => pure (.str s)
    | .bytes bs => pure (.bytes bs)
    | .formatted ps => do return .str (← pieces d fuel ps)
    | .const c =>
      pure (match c with
        | .true => .bool true
        | .false => .bool false
        | .none => .none
        | .ellipsis => .ellipsis)
    | .tuple xs => do return .tuple (← terms d fuel xs)
    | .list xs => do return .list (← terms d fuel xs)
    | .set xs => do liftFault (setOf (← terms d fuel xs))
    | .dict es => do liftFault (dictOf (← entries d fuel es))
    | .starred _ => throw (.malformed "can\x27t use starred expression here" 1)
    | .attribute obj attr => do liftFault (attributeOf (← term d fuel obj) attr)
    | .call fn args kws => do
      let f ← term d fuel fn
      let xs ← terms d fuel args
      let ks ← keywordArgs d fuel kws
      call d fuel f xs ks
    | .subscript obj idx => do
      let o ← term d fuel obj
      let i ← term d fuel idx
      liftFault (subscript o i)
    | .slice lo hi step => do
      let opt := fun (x : Option Term) =>
        match x with
        | some t => term d fuel t
        | none => pure Object.none
      let a ← opt lo
      let b ← opt hi
      let c ← opt step
      return .slice a b c
    | .unary op a => do liftFault (Operate.unary op (← term d fuel a))
    | .binary op a b => do
      let x ← term d fuel a
      let y ← term d fuel b
      liftFault (Operate.binary op x y)
    | .boolean isAnd xs => boolean d fuel isAnd xs
    | .compare a rest => do compare d fuel (← term d fuel a) rest
    | .cond test body orElse => do
      if ← liftFault (← term d fuel test).isTrue then term d fuel body else term d fuel orElse
    | .lambda ps body => pure (.closure ps body)
    | .walrus target value => do
      let v ← term d fuel value
      bindName target v
      return v
    | .comprehension kind elt value clauses => do
      let saved ← get
      let items ← comprehension d fuel elt value clauses
      set saved
      match kind with
      | .list | .generator => return .list (items.map Prod.fst)
      | .set => liftFault (setOf (items.map Prod.fst))
      | .dict => liftFault (dictOf (items.map fun (k, v) => (k, v.getD .none)))
    | .yield _ | .yieldFrom _ => throw (.malformed "\x27yield\x27 outside function" 1)
    | .await _ => throw (.malformed "\x27await\x27 outside function" 1)

/-- Evaluates the items of a display or the positional arguments of a call; a starred item
gives all the items of its value. -/
def terms (d : Dialect) : Nat → List Term → EvalM (List Object)
  | 0, _ => throw .tooDeep
  | _ + 1, [] => pure []
  | fuel + 1, t :: rest => do
    let here ← match t with
      | .starred x => do liftFault (Builtin.items (← term d fuel x))
      | _ => do pure [← term d fuel t]
    let more ← terms d fuel rest
    return here ++ more

/-- Evaluates the entries of a dictionary display; an entry without a key unpacks a mapping. -/
def entries (d : Dialect) : Nat → List (Option Term × Term) → EvalM (List (Object × Object))
  | 0, _ => throw .tooDeep
  | _ + 1, [] => pure []
  | fuel + 1, (k, v) :: rest => do
    let here ← match k with
      | some kt => do
        let key ← term d fuel kt
        let value ← term d fuel v
        pure [(key, value)]
      | none => do
        match ← term d fuel v with
        | .dict es => pure es
        | o => throw (.wrongType ("\x27" ++ o.typeName ++ "\x27 object is not a mapping"))
    let more ← entries d fuel rest
    return here ++ more

/-- Evaluates the keyword arguments of a call; one without a name unpacks a mapping. -/
def keywordArgs (d : Dialect) : Nat → List (Option String × Term) → EvalM (List (String × Object))
  | 0, _ => throw .tooDeep
  | _ + 1, [] => pure []
  | fuel + 1, (k, v) :: rest => do
    let o ← term d fuel v
    let here ← match k with
      | some name => pure [(name, o)]
      | none => liftFault (unpackKeywords o)
    let more ← keywordArgs d fuel rest
    return here ++ more

/-- Evaluates the pieces of a formatted string into its text. -/
def pieces (d : Dialect) : Nat → List Piece → EvalM String
  | 0, _ => throw .tooDeep
  | _ + 1, [] => pure ""
  | fuel + 1, p :: rest => do
    let here ← match p with
      | .literal s => pure s
      | .field v conversion spec => do
        let o ← term d fuel v
        let s ← pieces d fuel spec
        liftFault (formatValue o conversion s)
    let more ← pieces d fuel rest
    return here ++ more

/-- Evaluates `and` or `or` over operands: the first operand that decides, or the last. -/
def boolean (d : Dialect) : Nat → Bool → List Term → EvalM Object
  | 0, _, _ => throw .tooDeep
  | _ + 1, _, [] => pure .none
  | fuel + 1, _, [t] => term d fuel t
  | fuel + 1, isAnd, t :: rest => do
    let o ← term d fuel t
    let truth ← liftM o.isTrue
    if truth != isAnd then return o
    boolean d fuel isAnd rest

/-- Evaluates a chain of comparisons from its left operand: each comparison's result, until one
does not hold. -/
def compare (d : Dialect) : Nat → Object → List (CompareOp × Term) → EvalM Object
  | 0, _, _ => throw .tooDeep
  | _ + 1, _, [] => pure (.bool true)
  | fuel + 1, left, [(op, t)] => do liftFault (Operate.compareWith op left (← term d fuel t))
  | fuel + 1, left, (op, t) :: rest => do
    let right ← term d fuel t
    let r ← liftFault (Operate.compareWith op left right)
    if !(← liftFault r.isTrue) then return r
    compare d fuel right rest

/-- Evaluates a comprehension's clauses in turn, binding their targets, and gives the element
(with the value of a dictionary comprehension) for every binding that passes the conditions. -/
def comprehension (d : Dialect) : Nat → Term → Option Term → List Clause →
    EvalM (List (Object × Option Object))
  | 0, _, _, _ => throw .tooDeep
  | fuel + 1, elt, value, [] => do
    let e ← term d fuel elt
    match value with
    | some v => return [(e, some (← term d fuel v))]
    | none => return [(e, none)]
  | fuel + 1, elt, value, .clause target iter conds :: rest => do
    let xs ← liftFault (Builtin.items (← term d fuel iter))
    let mut out : List (Object × Option Object) := []
    for x in xs do
      assign fuel target x
      if ← conditions d fuel conds then
        out := out ++ (← comprehension d fuel elt value rest)
    return out

/-- Whether all conditions of a comprehension clause hold. -/
def conditions (d : Dialect) : Nat → List Term → EvalM Bool
  | 0, _ => throw .tooDeep
  | _ + 1, [] => pure true
  | fuel + 1, c :: rest => do
    if ← liftFault (← term d fuel c).isTrue then conditions d fuel rest else return false

/-- Calls an object with evaluated arguments. -/
def call (d : Dialect) : Nat → Object → List Object → List (String × Object) → EvalM Object
  | 0, _, _, _ => throw .tooDeep
  | fuel + 1, f, args, kwargs =>
    let conv := convert fuel
    match f with
    | .closure ps body => do
      let (slots, _) ← liftFault (Signature.bind ⟨"<lambda>", ps, ps.length, 0, false⟩ args kwargs)
      let saved ← get
      for (p, v) in ps.zip slots do
        bindName p (v.getD .none)
      let r ← term d fuel body
      set saved
      return r
    | .named _ (.cls path) => liftFault (Library.callClass conv (Names.lastPart path) args kwargs)
    | .function g => liftFault (Library.callFunctionClass conv g args kwargs)
    | .named n .function => liftFault (Library.callFunction conv n args kwargs)
    | .named n .builtin => liftFault (Builtin.call n args kwargs)
    | .named "S" (.instance _) => liftFault (Library.callFunction conv "sympify" args kwargs)
    | .lambda ps body => liftFault (Construct.callLambda ps body args)
    | o => throw (.notCallable o.typeName)

/-- Converts an object leniently, as the library's functions take their arguments: numbers and
truth values of the language become the library's, containers are converted item by item, a
text is read as a formula of the library's reading, and objects of the library stay. -/
def convert : Nat → Object → Except Fault Object
  | 0, _ => .error .tooDeep
  | fuel + 1, o =>
    match o with
    | .str s => readLibrary fuel s
    | .bool b => .ok (.truth b)
    | .int n => .ok (Object.integer n)
    | .float x => .ok (.expr (Object.floatExpr x))
    | .complex .. =>
      match o.toExpr? with
      | some e => .ok (.expr e)
      | none => .error (Construct.sympifyFault o)
    | .tuple xs => do return .tuple (← xs.mapM (convert fuel))
    | .list xs => do return .list (← xs.mapM (convert fuel))
    | .set xs => do return .set (← xs.mapM (convert fuel))
    | .dict es => do
      return .dict (← es.mapM fun (k, v) => do return (← convert fuel k, ← convert fuel v))
    | .none | .expr _ | .truth _ | .relation .. | .lambda .. | .function _ | .named _ (.cls _)
    | .bytes _ => .ok o
    | _ => if isLibrarySet o then .ok o else .error (Construct.sympifyFault o)

/-- Reads and runs a text as the library's conversion of a text does: line breaks removed, and a
text that does not read is refused with its quoted form. -/
def readLibrary : Nat → String → Except Fault Object
  | 0, _ => .error .tooDeep
  | fuel + 1, text =>
    let flat := text.replace "\n" ""
    let refused := Fault.unparsedText (Text.quote flat)
    match Term.ofText .library flat with
    | .error f => if isReadingFault f then .error refused else .error f
    | .ok t =>
      match t.checkFault with
      | some _ => .error refused
      | none => (term .library fuel t).run' []

end

/-- Runs code read in a dialect. -/
def run (d : Dialect) (t : Term) : Except Fault Object :=
  match t.checkFault with
  | some f => .error f
  | none => (term d evalDepth t).run' []

end Evaluate

/-- Reads a formula: its text made into code, checked, and run, with `pow` and `float` standing
for the classes of powers and floats. -/
def read (text : String) : Except Fault Object := do
  Evaluate.run .formula (← Term.ofText .formula text)

end ExprTree.Formula
