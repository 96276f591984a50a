import ExprTree.Symbolic.Expr
/-!
  The canonical order of expressions. Every expression has a sort key: the class of the
  expression (numbers, then atoms, then products, sums and powers), then its arguments' keys,
  then its exponent and coefficient. Factors of a product are listed in key order. The terms of
  a sum are listed by their monomials: the powers of the sum's generators (the bases of all
  factors that are not numbers, themselves in key order), larger exponents first in the order of
  the generators, then by coefficient; a finite positive number followed by a single term with a
  negative coefficient is kept in that order (`1 - x`). The unsigned infinity counts as a number
  whose value is unknown.
-/

namespace ExprTree.Symbolic

/-- A sort key: numbers, texts, floats and tuples, compared lexicographically. -/
inductive Key where
  | int (n : Int)
  | str (s : String)
  | num (n : Num)
  | real (x : Float)
  | tup (ks : List Key)
  deriving Inhabited

namespace Key

/-- The rank of a key's kind, used only between keys of different kinds. -/
def rank : Key → Nat
  | .int _ => 0
  | .str _ => 1
  | .num _ => 2
  | .real _ => 3
  | .tup _ => 4

/-- Compares two keys. -/
def cmp : Key → Key → Ordering
  | .int a, .int b => compare a b
  | .str a, .str b => compare a b
  | .num a, .num b => a.compareValue b
  | .real a, .real b => if a < b then .lt else if b < a then .gt else .eq
  | .tup as, .tup bs => cmpList as bs
  | a, b => compare a.rank b.rank
where
  cmpList : List Key → List Key → Ordering
    | [], [] => .eq
    | [], _ => .lt
    | _, [] => .gt
    | a :: as, b :: bs =>
      match cmp a b with
      | .eq => cmpList as bs
      | o => o

/-- Whether `a` comes strictly before `b`. -/
def lt (a b : Key) : Bool := a.cmp b == .lt

/-- Equality of keys as the sort of the printing order tests it: floats by value, so that NaN
equals nothing, and tuples item by item. -/
def looseEq : Key → Key → Bool
  | .int a, .int b => a == b
  | .real a, .real b => a == b
  | .int a, .real b => Float.ofInt a == b
  | .real a, .int b => a == Float.ofInt b
  | .str a, .str b => a == b
  | .num a, .num b => a.compareValue b == .eq
  | .tup as, .tup bs => as.length == bs.length && eqList as bs
  | _, _ => false
where
  eqList : List Key → List Key → Bool
    | a :: as, b :: bs => looseEq a b && eqList as bs
    | _, _ => true

/-- The order of keys as the sort of the printing order tests it: floats by `<`, so that NaN is
below nothing and above nothing, and tuples at the first item where they are not `looseEq`, or
by length. Unlike `lt` this need not be a strict order. -/
def looseLt : Key → Key → Bool
  | .int a, .int b => a < b
  | .real a, .real b => a < b
  | .int a, .real b => Float.ofInt a < b
  | .real a, .int b => a < Float.ofInt b
  | .str a, .str b => a < b
  | .num a, .num b => a.compareValue b == .lt
  | .tup as, .tup bs => ltList as bs
  | a, b => a.rank < b.rank
where
  ltList : List Key → List Key → Bool
    | [], [] => false
    | [], _ => true
    | _, [] => false
    | a :: as, b :: bs => if looseEq a b then ltList as bs else looseLt a b

end Key

namespace Expr

/-- The class of an expression, the first part of its key. -/
def classKey : Expr → Key
  | .num .complexInf => .tup [.int 2, .int 0, .str "ComplexInfinity"]
  | .num _ => .tup [.int 1, .int 0, .str "Number"]
  | .imag => .tup [.int 2, .int 0, .str "ImaginaryUnit"]
  | .const c => .tup [.int 2, .int 0, .str c.className]
  | .sym _ => .tup [.int 2, .int 0, .str "Symbol"]
  | .mul _ => .tup [.int 3, .int 0, .str "Mul"]
  | .add _ => .tup [.int 3, .int 1, .str "Add"]
  | .pow .. => .tup [.int 3, .int 2, .str "Pow"]
  | .app f _ => .tup [.int f.group, .int f.rank, .str f.name]

/-- The name of the class of an expression. -/
def className : Expr → String
  | .num (.int 0) => "Zero"
  | .num (.int 1) => "One"
  | .num (.int (-1)) => "NegativeOne"
  | .num (.int _) => "Integer"
  | .num (.rat 1 2) => "Half"
  | .num (.rat ..) => "Rational"
  | .num (.float ..) => "Float"
  | .num .posInf => "Infinity"
  | .num .negInf => "NegativeInfinity"
  | .num .complexInf => "ComplexInfinity"
  | .num .nan => "NaN"
  | .imag => "ImaginaryUnit"
  | .const c => c.className
  | .sym _ => "Symbol"
  | .add _ => "Add"
  | .mul _ => "Mul"
  | .pow .. => "Pow"
  | .app f _ => f.name

/-- The written form of an atom: a symbol's name, a number's text, `I`. -/
def atomText : Expr → String
  | .num n => n.text false
  | .imag => "I"
  | .const c => c.name
  | .sym s => s
  | _ => ""

/-- Whether an expression is an atom. -/
def isAtom : Expr → Bool
  | .num _ | .imag | .const _ | .sym _ => true
  | _ => false

/-- The key of the number one. -/
def oneKey : Key := .tup [.tup [.int 1, .int 0, .str "Number"], .tup [.int 0, .tup []], .tup [],
  .num (.int 1)]

/-- The leading run of a list, ascending: the longest prefix that falls strictly, reversed, or
else the longest prefix in which no item is below the one before; and the items after it. -/
def leadingRun {α : Type} (lt : α → α → Bool) (x0 : α) : List α → List α × List α
  | [] => ([x0], [])
  | x1 :: more =>
    if lt x1 x0 then falling [x1, x0] x1 more else rising [x1, x0] x1 more
where
  /-- Extends a falling run, kept reversed. -/
  falling (acc : List α) (prev : α) : List α → List α × List α
    | [] => (acc, [])
    | y :: ys => if lt y prev then falling (y :: acc) y ys else (acc, y :: ys)
  /-- Extends a rising run, kept reversed. -/
  rising (acc : List α) (prev : α) : List α → List α × List α
    | [] => (acc.reverse, [])
    | y :: ys => if lt y prev then (acc.reverse, y :: ys) else rising (y :: acc) y ys

/-- Places an item into a list by binary search: after every item it is not below, as far as
the halving steps see them. -/
def binaryInsert {α : Type} (lt : α → α → Bool) (sorted : List α) (p : α) : List α :=
  let arr := sorted.toArray
  let rec search : Nat → Nat → Nat → Nat
    | 0, l, _ => l
    | fuel + 1, l, r =>
      if l < r then
        let m := l + (r - l) / 2
        match arr[m]? with
        | some y => if lt p y then search fuel l m else search fuel (m + 1) r
        | none => l
      else l
  let i := search (sorted.length + 1) 0 sorted.length
  sorted.take i ++ p :: sorted.drop i

/-- Sorts a list by binary insertion after its leading run, which is how the printing order of
a sum is sorted. With a strict order as `lt` this is a stable sort; with one that is not, such
as keys holding NaN, it still places every item as that sort does. -/
def runSort {α : Type} (lt : α → α → Bool) : List α → List α
  | [] => []
  | x0 :: rest =>
    let (run, later) := leadingRun lt x0 rest
    later.foldl (binaryInsert lt) run

/-- Sorts by a key, keeping the order of equal keys. -/
def sortByKey {α : Type} (key : α → Key) (xs : List α) : List α :=
  xs.mergeSort fun a b => (key b).cmp (key a) != .lt

/-- Whether an application is one of the exponential function. -/
def isExpApp : Expr → Bool
  | .app f [_] => f == Fn.exp
  | _ => false

/-- The base and exponent of a factor: a power's base and exponent (a base `1/q` becomes `q`
with the exponent negated), `E` and the argument of an exponential, or the factor to the first
power. -/
def baseExp : Expr → Expr × Expr
  | .pow (.num (.rat 1 q)) e => (.num (.int q), negRaw e)
  | .pow b e => (b, e)
  | e@(.app f [a]) => if f == Fn.exp then (.const .e, a) else (e, one)
  | e => (e, one)

/-- The power `b ^ t` built directly, written as an exponential when the base is `E`. -/
def powRaw (b t : Expr) : Expr :=
  match b with
  | .const .e => .app Fn.exp [t]
  | _ => .pow b t

/-- The complex value of an expression without symbols, as a pair of floats, if it has one. -/
def complexValue : Expr → Option (Float × Float)
  | .num .complexInf => some (0.0 / 0.0, 0.0 / 0.0)
  | .num n => some (n.toFloat, 0)
  | .imag => some (0, 1)
  | .const c => some (c.value, 0)
  | .sym _ => none
  | e@(.app ..) => e.approx.map Prod.fst
  | .add xs => (listValues xs).map fun vs => vs.foldl (fun (a, b) (c, d) => (a + c, b + d)) (0, 0)
  | .mul xs => (listValues xs).map fun vs =>
      vs.foldl (fun (a, b) (c, d) => (a * c - b * d, a * d + b * c)) (1, 0)
  | .pow b e =>
    match complexValue b, complexValue e with
    | some (x, 0), some (y, 0) =>
      if x ≥ 0 then some (x.pow y, 0)
      else
        let m := (-x).pow y
        let a := y * 3.141592653589793
        some (m * a.cos, m * a.sin)
    | some (x, u), some (y, v) =>
      -- `exp((y + vI) (log r + θI))` with the principal logarithm `log r + θI` of the base
      if x == 0 && u == 0 then none
      else
        let lr := (x * x + u * u).sqrt.log
        let t := Float.atan2 u x
        let m := (y * lr - v * t).exp
        let a := v * lr + y * t
        some (m * a.cos, m * a.sin)
    | _, _ => none
where
  listValues : List Expr → Option (List (Float × Float))
    | [] => some []
    | x :: xs => do
      let v ← complexValue x
      let vs ← listValues xs
      pure (v :: vs)

/-- The generator and exponent of a factor within a monomial. -/
def decompose : Expr → Expr × Int
  | factor =>
    let (b, x) := factor.baseExp
    match x with
    | .num (.int n) => (b, n)
    | .num (.rat p q) => (powRaw b (frac 1 q), p)
    | .num _ => (factor, 1)
    | _ =>
      match x.coeffMul with
      | (.int (-1), t) => (powRaw b t, -1)
      | (.int n, t) => if n = 1 then (factor, 1) else (powRaw b t, n)
      | (.rat p q, t) => (powRaw b (mulRaw (frac 1 q :: t.mulArgs)), p)
      | (.float y _, _) => if y.neg then (powRaw b (negRaw x), -1) else (factor, 1)
      | _ => (factor, 1)

/-! ### The structural order

Sums and products keep their arguments in a structural order: classes first, by their place in
`classOrder` (classes not listed come after, by name), then contents: numbers by value as
stored, symbols by name, and compound expressions by their number of arguments and then argument
by argument. The printing order of a sum sorts its terms starting from this order, so it decides
between terms whose printing keys do not. -/

/-- The classes in the order that ranks them before their contents are compared. -/
def classOrder : List String :=
  ["Zero", "One", "Half", "Infinity", "NaN", "NegativeOne", "NegativeInfinity", "Integer",
    "Rational", "Float", "Exp1", "Pi", "ImaginaryUnit", "Symbol", "Wild", "Pow", "Mul", "Add",
    "Derivative", "Integral", "Abs", "Sign", "Sqrt", "Floor", "Ceiling", "Re", "Im", "Arg",
    "Conjugate", "Exp", "Log", "Sin", "Cos", "Tan", "Cot", "ASin", "ACos", "ATan", "ACot", "Sinh",
    "Cosh", "Tanh", "Coth", "ASinh", "ACosh", "ATanh", "ACoth", "RisingFactorial",
    "FallingFactorial", "factorial", "binomial", "Gamma", "LowerGamma", "UpperGamma", "PolyGamma",
    "Erf", "Chebyshev", "Chebyshev2", "Function", "WildFunction", "Lambda", "Order", "Equality",
    "Unequality", "StrictGreaterThan", "StrictLessThan", "GreaterThan", "LessThan"]

/-- Compares two class names: by their places in `classOrder`, an unlisted class after every
listed one, and two unlisted ones by name. -/
def compareClassNames (a b : String) : Ordering :=
  if a == b then .eq
  else
    let unlisted := classOrder.length + 1
    let i := (classOrder.idxOf? a).getD unlisted
    let j := (classOrder.idxOf? b).getD unlisted
    if i == unlisted && j == unlisted then compare a b else compare i j

/-- The stored parts of a float: sign, odd mantissa, exponent, bit length and precision. -/
def floatParts (x : BigFloat) (prec : Nat) : List Int :=
  let t := BigFloat.trailingZeros x.man
  let m := x.man >>> t
  [if x.neg && m != 0 then 1 else 0, m, if m = 0 then 0 else x.exp + t, BigFloat.bitLength m, prec]

/-- The arguments of a compound expression, in the order stored. -/
def argsOf : Expr → List Expr
  | .add xs | .mul xs | .app _ xs => xs
  | .pow b e => [b, e]
  | _ => []

/-- Compares two lists of whole numbers lexicographically. -/
def compareInts : List Int → List Int → Ordering
  | [], [] => .eq
  | [], _ => .lt
  | _, [] => .gt
  | a :: as, b :: bs => if a == b then compareInts as bs else compare a b

/-- Compares the contents of two numbers of one class. -/
def compareNumContents : Num → Num → Ordering
  | .int a, .int b => compare a b
  | .rat p q, .rat r s => compareInts [p, q] [r, s]
  | .float x p, .float y q => compareInts (floatParts x p) (floatParts y q)
  | _, _ => .eq

mutual

/-- The structural order of two expressions, with `fuel` bounding the depth of the walk. -/
def structuralCompare : Nat → Expr → Expr → Ordering
  | 0, _, _ => .eq
  | f + 1, a, b =>
    match compareClassNames a.className b.className with
    | .eq =>
      match a, b with
      | .num m, .num n => compareNumContents m n
      | .sym s, .sym t => compare s t
      | .pow b1 e1, .pow b2 e2 => compareArgs f [b1, e1] [b2, e2]
      | .add _, .add _ | .mul _, .mul _ | .app .., .app .. =>
        compareArgs f (structuralArgs f a) (structuralArgs f b)
      | _, _ => .eq
    | o => o

/-- Compares two argument lists: the shorter first, then argument by argument. -/
def compareArgs : Nat → List Expr → List Expr → Ordering
  | 0, _, _ => .eq
  | f + 1, xs, ys =>
    if xs.length != ys.length then compare xs.length ys.length
    else match xs, ys with
      | x :: xs, y :: ys =>
        match structuralCompare f x y with
        | .eq => compareArgs f xs ys
        | o => o
      | _, _ => .eq

/-- The arguments of an expression in their structural order: for a sum or product its numeric
coefficient first, then the others sorted by `structuralCompare`. -/
def structuralArgs : Nat → Expr → List Expr
  | 0, e => argsOf e
  | f + 1, e =>
    match e with
    | .add xs | .mul xs =>
      xs.filter Expr.isNum ++
        (xs.filter (!·.isNum)).mergeSort fun x y => structuralCompare f x y != .gt
    | _ => argsOf e

end

mutual

/-- The sort key of an expression, with `fuel` bounding the depth of the walk. -/
def sortKey : Nat → Expr → Key
  | 0, _ => .tup []
  | _ + 1, .num .complexInf =>
    .tup [classKey (.num .complexInf), .tup [.int 1, .tup [.str "zoo"]], oneKey, .num (.int 1)]
  | _ + 1, .num n => .tup [classKey (.num n), .tup [.int 0, .tup []], .tup [], .num n]
  | _ + 1, .imag => .tup [classKey .imag, .tup [.int 1, .tup [.str "I"]], oneKey, .num (.int 1)]
  | _ + 1, .sym s => .tup [classKey (.sym s), .tup [.int 1, .tup [.str s]], oneKey, .num (.int 1)]
  | _ + 1, .const c =>
    .tup [classKey (.const c), .tup [.int 1, .tup [.str c.name]], oneKey, .num (.int 1)]
  | f + 1, e =>
    let cr : Num × Expr := e.coeffMul
    let c := cr.1
    let (b, x) := match cr.2 with
      | .pow b x => (b, x)
      | r => (r, one)
    let args : List Key :=
      if b.isAtom then [.str b.atomText]
      else match b with
        | .add _ => (orderedTerms f b).map (sortKey f)
        | .mul _ => (orderedFactors f b).map (sortKey f)
        | .pow p q => [sortKey f p, sortKey f q]
        | .app _ xs => xs.map (sortKey f)
        | _ => []
    .tup [classKey b, .tup [.int args.length, .tup args], sortKey f x, .num c]

/-- The factors of a product in key order. -/
def orderedFactors : Nat → Expr → List Expr
  | 0, e => e.mulArgs
  | f + 1, e => sortByKey (sortKey f) e.mulArgs

/-- The terms of a sum in printing order. -/
def orderedTerms : Nat → Expr → List Expr
  | 0, e => e.addArgs
  | f + 1, e =>
    let terms := match e with
      | .add _ => structuralArgs f e
      | _ => e.addArgs
    let numeral := fun (t : Expr) => match t with
      | .const _ => true
      | _ => t.isPlainNum
    let numsFirst := terms.filter numeral ++ terms.filter (fun t => !numeral t)
    let positive := fun (t : Expr) => match t with
      | .num a => a.isPositive && a.isFinite
      | .const _ => true
      | _ => false
    let special : Bool := match numsFirst with
      | [a, m@(.mul _)] =>
        let ms := m.mulArgs
        let msFirst := ms.filter Expr.isPlainNum ++ ms.filter (fun t => !t.isPlainNum)
        match msFirst with
        | [.num c, _] => numeral a && positive a && c.isNegative
        | _ => false
      | _ => false
    if special then numsFirst
    else
      -- each term: its complex coefficient and its generators with exponents
      let parts : List ((Float × Float) × List (Expr × Int)) := terms.map fun (t : Expr) =>
        let cr : Num × Expr := t.coeffMul
        let c := cr.1
        let rest := cr.2
        let c0 : Float × Float := (c.toFloat, 0)
        let factors := if rest.isInt 1 then [] else rest.mulArgs
        factors.foldl (fun (acc : (Float × Float) × List (Expr × Int)) fac =>
          let ((re, im), gs) := acc
          match (if isNumber fac then complexValue fac else none) with
          | some (a, b) => ((re * a - im * b, re * b + im * a), gs)
          | none => ((re, im), gs ++ [decompose fac])) (c0, [])
      let gens0 : List Expr := parts.flatMap fun (p : (Float × Float) × List (Expr × Int)) => p.2.map Prod.fst
      let gens := sortByKey (sortKey f) (gens0.foldl (fun (acc : List Expr) g =>
        if acc.any (fun (a : Expr) => a.sameKey g) then acc else acc ++ [g]) [])
      let keyOf (p : (Float × Float) × List (Expr × Int)) : Key :=
        let ((re, im), gs) := p
        let monom := gens.map fun g =>
          match gs.find? (fun (q : Expr × Int) => q.1.sameKey g) with
          | some (_, n) => Key.int (-n)
          | none => Key.int 0
        .tup [.tup monom, .tup [],
          .tup [.tup [.int (if im != 0 then 1 else 0), .real im], .tup [.real re, .real im]]]
      let keyed := terms.zip (parts.map keyOf)
      (runSort (fun a b => Key.looseLt a.2 b.2) keyed).map Prod.fst

end

end Expr

end ExprTree.Symbolic
