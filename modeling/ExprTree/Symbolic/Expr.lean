import ExprTree.Symbolic.Number
import ExprTree.Symbolic.Constant
/-!
  Symbolic expressions: numbers, the imaginary unit, named constants, named symbols, sums,
  products, powers and applications of functions.
  Sums and products keep their numeric coefficient, if any, as their first argument. `Expr.same`
  is structural equality, with numbers compared as values. `Expr.facts` gives what is known of
  an expression's value: whether it is real, finite, zero, positive or negative, each possibly
  unknown, as for a symbol with no assumptions.
-/

namespace ExprTree.Symbolic

/-- A function that applications name. `group` and `rank` place its class among the classes of
expressions when they are ordered: group 4 holds functions, ranked 10 to 43 for the elementary
ones, 0 for those that take any number of arguments and 10000 for the others; group 5 holds
other operations. A function that is `undefined` has no rules of its own, and its applications
are never numbers. -/
structure Fn where
  name : String
  group : Nat
  rank : Nat
  undefined : Bool
  deriving DecidableEq, Repr, Inhabited

namespace Fn

/-- The ranks of the elementary functions, which sort before the other functions. -/
def elementaryRanks : List (String × Nat) :=
  [("exp", 10), ("log", 11), ("sin", 20), ("cos", 21), ("tan", 22), ("cot", 23), ("sinh", 30),
    ("cosh", 31), ("tanh", 32), ("coth", 33), ("conjugate", 40), ("re", 41), ("im", 42),
    ("arg", 43)]

/-- A function of the library with a fixed number of arguments. -/
def named (name : String) : Fn :=
  ⟨name, 4, ((elementaryRanks.find? (·.1 == name)).map (·.2)).getD 10000, false⟩

/-- A function of the library that takes any number of arguments. -/
def variadic (name : String) : Fn := ⟨name, 4, 0, false⟩

/-- A function known only by its name. -/
def undefinedNamed (name : String) : Fn := ⟨name, 4, 0, true⟩

/-- An operation that is not a function, such as the maximum of its arguments. -/
def operation (name : String) : Fn := ⟨name, 5, 0, false⟩

/-- The exponential function. -/
def exp : Fn := named "exp"

end Fn

/-- A symbolic expression. -/
inductive Expr where
  | num (n : Num)
  | imag
  | const (c : Constant)
  | sym (name : String)
  | add (args : List Expr)
  | mul (args : List Expr)
  | pow (base exp : Expr)
  | app (f : Fn) (args : List Expr)
  deriving Inhabited

namespace Expr

/-- The exact whole number `n`. -/
def int (n : Int) : Expr := .num (.int n)

/-- The exact fraction `p / q`. -/
def frac (p q : Int) : Expr := .num (Num.ofFraction p q)

/-- The number zero. -/
def zero : Expr := int 0

/-- The number one. -/
def one : Expr := int 1

/-- Structural equality, numbers compared as values. -/
def same : Expr → Expr → Bool
  | .num a, .num b => a.same b
  | .imag, .imag => true
  | .const a, .const b => a == b
  | .sym a, .sym b => a == b
  | .add xs, .add ys => sameList xs ys
  | .mul xs, .mul ys => sameList xs ys
  | .pow a b, .pow c d => same a c && same b d
  | .app f xs, .app g ys => f == g && sameList xs ys
  | _, _ => false
where
  sameList : List Expr → List Expr → Bool
    | [], [] => true
    | x :: xs, y :: ys => same x y && sameList xs ys
    | _, _ => false

/-- Structural equality as table keys see it: like `same`, but floats are equal only when
their precisions are equal too. -/
def sameKey : Expr → Expr → Bool
  | .num a, .num b => a == b
  | .imag, .imag => true
  | .const a, .const b => a == b
  | .sym a, .sym b => a == b
  | .add xs, .add ys => sameKeys xs ys
  | .mul xs, .mul ys => sameKeys xs ys
  | .pow a b, .pow c d => sameKey a c && sameKey b d
  | .app f xs, .app g ys => f == g && sameKeys xs ys
  | _, _ => false
where
  sameKeys : List Expr → List Expr → Bool
    | [], [] => true
    | x :: xs, y :: ys => sameKey x y && sameKeys xs ys
    | _, _ => false

/-- The number of nodes of an expression. -/
def size : Expr → Nat
  | .add xs => 1 + sizeList xs
  | .mul xs => 1 + sizeList xs
  | .pow b e => 1 + size b + size e
  | .app _ xs => 1 + sizeList xs
  | _ => 1
where
  sizeList : List Expr → Nat
    | [] => 0
    | x :: xs => size x + sizeList xs

/-- The number, if the expression is one. -/
def num? : Expr → Option Num
  | .num n => some n
  | _ => none

/-- Whether the expression is a number (the unsigned infinity included). -/
def isNum (e : Expr) : Bool := e.num?.isSome

/-- Whether the expression is an exact number. -/
def isRational (e : Expr) : Bool := (e.num?.map Num.isRational).getD false

/-- Whether the expression is exactly the whole number `n`. -/
def isInt (e : Expr) (n : Int) : Bool :=
  match e with
  | .num (.int m) => m == n
  | _ => false

/-- Whether the expression is an exact whole number. -/
def isInteger : Expr → Bool
  | .num (.int _) => true
  | _ => false

/-- The arguments of a sum, or the expression alone. -/
def addArgs : Expr → List Expr
  | .add xs => xs
  | e => [e]

/-- The arguments of a product, or the expression alone. -/
def mulArgs : Expr → List Expr
  | .mul xs => xs
  | e => [e]

/-- The product of already ordered factors, without evaluation. -/
def mulRaw : List Expr → Expr
  | [] => one
  | [x] => x
  | xs => .mul xs

/-- The sum of already ordered terms, without evaluation. -/
def addRaw : List Expr → Expr
  | [] => zero
  | [x] => x
  | xs => .add xs

/-- Whether the expression is a number other than the unsigned infinity, which stands apart
from the numbers in sums and products. -/
def isPlainNum : Expr → Bool
  | .num .complexInf => false
  | .num _ => true
  | _ => false

/-- The numeric coefficient of an expression and the rest: a product's leading number, a
number itself (the number zero keeps coefficient one), or one. -/
def coeffMul : Expr → Num × Expr
  | .mul (.num c :: rest) => if c == .complexInf then (.int 1, .mul (.num c :: rest)) else (c, mulRaw rest)
  | .num n => if n.isZero ∨ n == .complexInf then (.int 1, .num n) else (n, one)
  | e => (.int 1, e)

/-- The negation of a number, product or other factor, built directly: a number is negated, a
product's coefficient changes sign (and a coefficient of one is dropped), anything else gets the
coefficient minus one. The unsigned infinity as a leading factor absorbs the sign. -/
def negRaw : Expr → Expr
  | .num n => .num n.neg
  | .mul (.num c :: rest) =>
    if c == .complexInf then .mul (.num c :: rest)
    else if c.neg == .int 1 then mulRaw rest
    else mulRaw (.num c.neg :: rest)
  | .mul xs => .mul (int (-1) :: xs)
  | e => .mul [int (-1), e]

/-- Whether the expression is the number zero, exact or float. -/
def isZeroNum : Expr → Bool
  | .num n => n.isZero
  | _ => false

/-- Whether the expression contains no symbol and no application of an undefined function. -/
def isNumber : Expr → Bool
  | .sym _ => false
  | .add xs => listNumber xs
  | .mul xs => listNumber xs
  | .pow b e => isNumber b && isNumber e
  | .app f xs => !f.undefined && listNumber xs
  | _ => true
where
  listNumber : List Expr → Bool
    | [] => true
    | x :: xs => isNumber x && listNumber xs

/-- What is known of the value of an expression; `none` is unknown. -/
structure Facts where
  /-- Real or an infinity of either sign. -/
  extReal : Option Bool
  finite : Option Bool
  /-- Positive, positive infinity included. -/
  positive : Option Bool
  /-- Negative, negative infinity included. -/
  negative : Option Bool
  zero : Option Bool
  /-- A real multiple of the imaginary unit other than zero. -/
  imaginary : Option Bool
  integer : Option Bool

/-- Nothing is known. -/
def Facts.unknown : Facts := ⟨none, none, none, none, none, none, none⟩

/-- Three-valued conjunction. -/
def and3 : Option Bool → Option Bool → Option Bool
  | some false, _ | _, some false => some false
  | some true, some true => some true
  | _, _ => none

/-- Three-valued disjunction. -/
def or3 : Option Bool → Option Bool → Option Bool
  | some true, _ | _, some true => some true
  | some false, some false => some false
  | _, _ => none

/-- Three-valued negation. -/
def not3 : Option Bool → Option Bool := Option.map (!·)

/-- Real and finite. -/
def Facts.real (f : Facts) : Option Bool := and3 f.extReal f.finite

/-- Real, finite and positive. -/
def Facts.finitePositive (f : Facts) : Option Bool := and3 f.positive f.finite

/-- Real, finite and negative. -/
def Facts.finiteNegative (f : Facts) : Option Bool := and3 f.negative f.finite

/-- Whether the value is known to be zero or positive, infinity included. -/
def Facts.nonnegative (f : Facts) : Option Bool := and3 f.extReal (not3 f.negative)

/-- Whether the value is known to be zero or negative, infinity included. -/
def Facts.nonpositive (f : Facts) : Option Bool := and3 f.extReal (not3 f.positive)

/-- Whether the value is known to be real and other than zero. -/
def Facts.nonzero (f : Facts) : Option Bool := and3 f.extReal (not3 f.zero)

/-- Whether the value is known to be infinite. -/
def Facts.infinite (f : Facts) : Option Bool := not3 f.finite

/-- The facts completed by what they imply: zero, a sign or a whole number make the value
real; a value that is not real has no sign and is not zero; an imaginary value is finite and not
real; a real value that is neither positive nor negative is zero, and a real value other than
zero that is not positive is negative. -/
def Facts.close (f : Facts) : Facts :=
  let f := if f.zero == some true then
      { f with extReal := some true, finite := some true, positive := some false,
               negative := some false, imaginary := some false, integer := some true }
    else f
  let f := if f.positive == some true then
      { f with extReal := some true, zero := some false, negative := some false,
               imaginary := some false }
    else f
  let f := if f.negative == some true then
      { f with extReal := some true, zero := some false, positive := some false,
               imaginary := some false }
    else f
  let f := if f.integer == some true then
      { f with extReal := some true, finite := some true, imaginary := some false }
    else f
  let f := if f.imaginary == some true then
      { f with extReal := some false, zero := some false, finite := some true,
               integer := some false }
    else f
  let f := if f.extReal == some false then
      { f with positive := some false, negative := some false, zero := some false,
               integer := some false }
    else f
  let f := if f.finite == some false then
      { f with zero := some false, integer := some false, imaginary := some false }
    else f
  let f := if f.extReal == some true ∧ f.positive == some false ∧ f.negative == some false then
      { f with zero := some true }
    else f
  let f := if f.extReal == some true ∧ f.zero == some false ∧ f.positive == some false then
      { f with negative := some true }
    else f
  if f.extReal == some true ∧ f.zero == some false ∧ f.negative == some false then
    { f with positive := some true }
  else f

/-- The facts of a number. -/
def Facts.ofNum : Num → Facts
  | .nan => Facts.unknown
  | .complexInf =>
    ⟨some false, some false, some false, some false, some false, some false, some false⟩
  | .posInf => ⟨some true, some false, some true, some false, some false, some false, some false⟩
  | .negInf => ⟨some true, some false, some false, some true, some false, some false, some false⟩
  | .int n => ⟨some true, some true, some (n > 0), some (n < 0), some (n == 0), some false, some true⟩
  | .float x _ =>
    ⟨some true, some true, some (!x.neg && !x.isZero), some (x.neg && !x.isZero), some x.isZero,
      some false, if x.isZero then some true else if x.exp < 0 then some false else none⟩
  | n => ⟨some true, some true, some n.isPositive, some n.isNegative, some n.isZero, some false,
      some false⟩

/-- The approximate complex value of a function of the library at approximate complex
arguments, where it is known: the elementary functions at real arguments, the absolute value at
any. -/
def Fn.approxValue (name : String) (args : List (Float × Float)) : Option (Float × Float) :=
  match name, args with
  | "Abs", [(x, y)] => some (Float.sqrt (x * x + y * y), 0)
  | "exp", [(x, y)] => some (Float.exp x * Float.cos y, Float.exp x * Float.sin y)
  | "log", [(x, 0)] => if x > 0 then some (Float.log x, 0) else if x < 0 then some (Float.log (-x), 3.141592653589793) else none
  | "sin", [(x, 0)] => some (Float.sin x, 0)
  | "cos", [(x, 0)] => some (Float.cos x, 0)
  | "tan", [(x, 0)] => some (Float.tan x, 0)
  | "floor", [(x, 0)] => some (Float.floor x, 0)
  | "ceiling", [(x, 0)] => some (Float.ceil x, 0)
  | "factorial", [(x, 0)] =>
    if x ≥ 0 ∧ x ≤ 170 ∧ Float.floor x == x then
      some ((List.range x.toUInt64.toNat).foldl (fun a k => a * (k + 1).toFloat) 1, 0)
    else none
  | _, _ => none

/-- An approximate complex value of an expression without symbols and without infinities, as a
pair of floats, with a bound on the size of the parts it was computed from. -/
def approx : Expr → Option ((Float × Float) × Float)
  | .num n => if n.isFinite then some ((n.toFloat, 0), n.toFloat.abs) else none
  | .imag => some ((0, 1), 1)
  | .const c => some ((c.value, 0), c.value)
  | .sym _ => none
  | .app f xs => do
    let vs ← approxList xs
    let v ← Fn.approxValue f.name (vs.map Prod.fst)
    if v.1.isNaN ∨ v.2.isNaN ∨ v.1.isInf ∨ v.2.isInf then none
    else some (v, (vs.map Prod.snd).foldl (· + ·) (v.1.abs + v.2.abs))
  | .add xs => (approxList xs).map fun vs =>
      vs.foldl (fun ((a, b), s) ((c, d), t) => ((a + c, b + d), s + t)) ((0, 0), 0)
  | .mul xs => (approxList xs).map fun vs =>
      vs.foldl (fun ((a, b), s) ((c, d), t) => ((a * c - b * d, a * d + b * c), s * t)) ((1, 0), 1)
  | .pow b e => do
    let ((x, y), _) ← approx b
    let ((c, d), _) ← approx e
    if x == 0 ∧ y == 0 then none
    else
      -- `b ^ e = exp (e · log b)`
      let l := Float.log (Float.sqrt (x * x + y * y))
      let t := Float.atan2 y x
      let re := c * l - d * t
      let im := c * t + d * l
      let m := Float.exp re
      let v := (m * Float.cos im, m * Float.sin im)
      if v.1.isNaN ∨ v.2.isNaN ∨ v.1.isInf ∨ v.2.isInf then none else some (v, m)
where
  approxList : List Expr → Option (List ((Float × Float) × Float))
    | [] => some []
    | x :: xs => do
      let v ← approx x
      let vs ← approxList xs
      pure (v :: vs)

/-- The sign of an expression without symbols from its approximate value, as positive and
negative: a value with an imaginary part is neither; a real part too small against the size of
what it was computed from leaves both unknown. -/
def numericSign (e : Expr) (real : Option Bool) : Option Bool × Option Bool :=
  match e.approx with
  | none => (none, none)
  | some ((re, im), scale) =>
    let tol := 1.0e-9 * (scale + 1.0e-300)
    if real != some true ∧ im.abs > tol then (some false, some false)
    else if re.abs ≤ tol then (none, none)
    else (some (re > 0), some (re < 0))

/-- Whether the expression is the imaginary unit. -/
def isImag : Expr → Bool
  | .imag => true
  | _ => false

/-- Whether a whole-number exponent is known even (`some true`) or odd. -/
def parity : Expr → Option Bool
  | .num (.int k) => some (k % 2 == 0)
  | _ => none

/-- Whether an exponent is an exact number (whole or fraction). -/
def isExactNum : Expr → Bool
  | .num (.int _) | .num (.rat ..) => true
  | _ => false

/-- The group test of sums: true when all are true, unknown when one is unknown or more than
one is false, false when exactly one is false. -/
def fuzzyGroup (xs : List (Option Bool)) : Option Bool :=
  if xs.any (· == none) then none
  else
    let falses := (xs.filter (· == some false)).length
    if falses = 0 then some true else if falses = 1 then some false else none

/-- The facts of a sum from those of its terms; `number` tells that it has no symbols. -/
def Facts.sum (e : Expr) (number : Bool) (fs : List Facts) : Facts :=
  let extReal := fuzzyGroup (fs.map (·.extReal))
  let finite : Option Bool :=
    -- two infinities might cancel
    let inf := fs.map (·.infinite)
    if inf.any (· == none) then none
    else
      let n := (inf.filter (· == some true)).length
      if n = 0 then some true else if n = 1 then some false else none
  let nz := fs.filter (·.zero != some true)
  let zero : Option Bool :=
    if fs.all (·.zero == some true) then some true
    else if fs.all (·.extReal == some true) ∧ nz.length = 1 ∧ nz.all (·.zero == some false) then
      some false
    else none
  let signLoop := fun (pos : Facts → Option Bool) (nonneg : Facts → Option Bool)
      (nonpos : Facts → Option Bool) =>
    if nz.isEmpty then some false
    else
      -- per term: (positive, nonneg, nonpos, unknown, infinite sign seen)
      let step := fun (acc : Option (Bool × Bool × Bool × Bool × List (Option Bool))) (f : Facts) =>
        match acc with
        | none => none
        | some (p, nn, np, unk, infs) =>
          let infs := if f.infinite == some true then infs ++ [or3 (pos f) (nonneg f)] else infs
          if infs.contains (some true) ∧ infs.contains (some false) then none
          else if pos f == some true then some (true, nn, np, unk, infs)
          else if nonneg f == some true then some (p, true, np, unk, infs)
          else if nonpos f == some true then some (p, nn, true, unk, infs)
          else if f.infinite == none then none
          else some (p, nn, np, true, infs)
      match nz.foldl step (some (false, false, false, false, [])) with
      | none => none
      | some (p, nn, np, unk, infs) =>
        let distinct := infs.foldl (fun (acc : List (Option Bool)) x =>
          if acc.contains x then acc else acc ++ [x]) []
        if !infs.isEmpty then (if distinct.length > 1 then none else distinct.head!)
        else if unk then none
        else if !np ∧ p then some true
        else if !p ∧ !nn then some false
        else none
  let (positive, negative) :=
    if number then numericSign e extReal
    else
      (signLoop (·.positive) (·.nonnegative) (·.nonpositive),
        signLoop (·.negative) (·.nonpositive) (·.nonnegative))
  let imaginary : Option Bool :=
    -- real terms other than zero and imaginary terms
    let realNz := fs.filter fun f => f.extReal == some true ∧ f.zero == some false
    if fs.all (fun f => (f.extReal == some true ∧ f.zero.isSome) ∨ f.imaginary == some true) then
      if realNz.isEmpty then
        -- the imaginary parts might cancel
        if (fs.filter (·.imaginary == some true)).length = 1 then some true else none
      else if realNz.length < fs.length then some false else none
    else none
  let integer := if fs.all (·.integer == some true) then some true else none
  Facts.close ⟨extReal, finite, positive, negative, zero, imaginary, integer⟩

/-- Whether a product is real (`wantReal`) or imaginary (`!wantReal`), from the facts of its
factors: each imaginary factor turns the one into the other; a factor that is neither leaves it
open unless the rest decides it. -/
def Facts.realImag (fs : List Facts) (wantReal : Bool) : Option Bool :=
  -- state: whether the product so far is real, zero seen, the one factor that is neither
  let step := fun (acc : Option (Bool × Option Bool × Option Facts) ⊕ Option Bool) (f : Facts) =>
    match acc with
    | .inr r => .inr r
    | .inl none => .inl none
    | .inl (some (real, zero, odd)) =>
      if f.imaginary == some true then .inl (some (!real, zero, odd))
      else if f.extReal == some true then
        if zero == some false ∧ f.zero == some false then .inl (some (real, zero, odd))
        else if zero == some false ∧ f.zero == none then .inl (some (real, none, odd))
        else if f.zero == some true then
          if fs.all (·.finite == some true) then .inr (some true) else .inr none
        else .inl (some (real, zero, odd))
      else if f.extReal == some false ∨ f.imaginary == some false then
        match odd with
        | some _ => .inr none
        | none => .inl (some (real, zero, some f))
      else .inr none
  match fs.foldl step (.inl (some (wantReal, some false, none))) with
  | .inr r => r
  | .inl none => none
  | .inl (some (real, zero, odd)) =>
    match odd with
    | some t =>
      if t.extReal == some false ∧ real then zero
      else if t.imaginary == some false ∧ !real then zero
      else none
    | none => if zero == some false then some real else if real then some real else none

/-- The facts of a product from those of its factors; `number` tells that it has no symbols. -/
def Facts.product (e : Expr) (number : Bool) (fs : List Facts) : Facts :=
  let extReal := Facts.realImag fs true
  let imaginary :=
    if fs.all (fun f => f.zero == some false ∧ f.finite == some true) then Facts.realImag fs false
    else none
  let zero : Option Bool :=
    let step := fun (acc : Option (Option Bool × Bool)) (f : Facts) =>
      match acc with
      | none => none
      | some (z, inf) =>
        if f.zero == some true then (if inf then none else some (some true, inf))
        else
          let inf' := f.finite != some true
          if inf' ∧ z == some true then none
          else some (if z == some false ∧ f.zero == none then none else z, inf || inf')
    match fs.foldl step (some (some false, false)) with
    | none => none
    | some (z, _) => z
  let finite : Option Bool :=
    if fs.all (·.finite == some true) then some true
    else if fs.any (·.infinite == some true) then
      if fs.all (·.zero == some false) then some false else none
    else none
  let posNeg := fun (sign : Int) =>
    let step := fun (acc : Option (Int × Bool × Bool) ⊕ Option Bool) (f : Facts) =>
      match acc with
      | .inr r => .inr r
      | .inl none => .inl none
      | .inl (some (s, non, nt)) =>
        if f.positive == some true then .inl (some (s, non, nt))
        else if f.negative == some true then .inl (some (-s, non, nt))
        else if f.zero == some true then
          .inr (if fs.all (·.finite == some true) then some false else none)
        else if f.nonpositive == some true then .inl (some (-s, true, nt))
        else if f.nonnegative == some true then .inl (some (s, true, nt))
        else if f.finitePositive == some false ∧ f.finite == some true then
          if nt then .inl none else .inl (some (-s, non, true))
        else if f.finiteNegative == some false ∧ f.finite == some true then
          if nt then .inl none else .inl (some (s, non, true))
        else .inl none
    match fs.foldl step (.inl (some (sign, false, false))) with
    | .inr r => r
    | .inl none => none
    | .inl (some (s, non, nt)) =>
      if s == 1 ∧ !non ∧ !nt then some true else if s < 0 then some false else none
  let (positive, negative) := if number then numericSign e extReal else (posNeg 1, posNeg (-1))
  let integer := if fs.all (·.integer == some true) then some true else none
  Facts.close ⟨extReal, finite, positive, negative, zero, imaginary, integer⟩

/-- The facts of a power `b ^ e` from the facts of its base and exponent. -/
def Facts.power (b e : Expr) (fb fe : Facts) : Facts :=
  let even := parity e
  let isInteger := fe.integer == some true
  let extReal : Option Bool :=
    let base := fun (fe : Facts) (isInteger : Bool) (exact : Bool) =>
      if fb.extReal == some true ∧ fe.extReal == some true then
        if fb.positive == some true then some true
        else if fb.nonnegative == some true ∧ fe.nonnegative == some true then some true
        else if isInteger ∧ fb.nonzero == some true then some true
        else if isInteger ∧ fe.nonnegative == some true then some true
        else if fb.negative == some true ∧ exact then some false
        else none
      else none
    if fb.extReal == none ∨ fe.extReal == none then none
    else
      match base fe isInteger e.isExactNum with
      | some r => some r
      | none =>
        if fe.extReal == some true ∧ fe.negative == some true ∧ fb.zero == some false then
          -- the power with the opposite exponent
          match e with
          | .num n => base (Facts.ofNum n.neg) isInteger true
          | _ => none
        else if fb.imaginary == some true ∧ isInteger then even
        else if fb.imaginary == some true && b.isImag then
          match e with
          | .num (.rat ..) => some false
          | _ => none
        else if fb.extReal == some true ∧ fe.imaginary == some true ∧ b.isInt (-1) then some true
        else if fb.extReal == some false ∧ fe.extReal == some true then
          match e with
          | .num (.rat 1 _) => some false
          | .num (.int 1) => some false
          | _ => none
        else none
  let positive : Option Bool :=
    if fb.finitePositive == some true then (if fe.real == some true then some true else none)
    else if fb.negative == some true then
      if even == some true then some true else if even == some false then some false else none
    else if fb.zero == some true then (if fe.extReal == some true then fe.zero else none)
    else if fb.nonpositive == some true then (if even == some false then some false else none)
    else if fb.imaginary == some true then
      match e with
      | .num (.int k) => some (k % 4 == 0)
      | _ => none
    else none
  let negative : Option Bool :=
    if fb.negative == some true then
      if even == some false ∧ fb.finite == some true then some true
      else if even == some true then some false else none
    else if fb.positive == some true then (if fe.extReal == some true then some false else none)
    else if fb.zero == some true then (if fe.extReal == some true then some false else none)
    else if fb.nonnegative == some true then
      (if fe.nonnegative == some true then some false else none)
    else if fb.nonpositive == some true then (if even == some true then some false else none)
    else if fb.extReal == some true then (if even == some true then some false else none)
    else none
  let zero : Option Bool :=
    if fb.zero == some true then
      if fe.positive == some true then some true
      else if fe.nonpositive == some true then some false else none
    else if b.isImag then (if isInteger then some false else none)
    else if fb.zero == some false then
      if fb.finite == some true ∧ fe.finite == some true then some false
      else if fe.finiteNegative == some true then fb.infinite
      else if and3 fe.nonnegative fe.finite == some true then some false
      else none
    else none
  let finite : Option Bool :=
    let early :=
      if fe.finiteNegative == some true then
        if fb.zero == some true then some false
        else if fb.infinite == some true ∨ fb.nonzero == some true then some true
        else none
      else none
    match early with
    | some r => some r
    | none =>
      if fb.finite == some true ∧ fe.finite == some true then
        if and3 fe.nonnegative fe.finite == some true ∨ fb.zero == some false then some true
        else none
      else none
  let imaginary : Option Bool :=
    if fb.imaginary == some true ∧ isInteger then
      (match even with
        | some ev => some !ev
        | none => none)
    else if fb.extReal == some true ∧ fe.extReal == some true then
      if fb.finitePositive == some true then some false
      else if !e.isExactNum then none
      else if isInteger then some false
      else
        match e with
        | .num (.rat _ 2) => fb.negative
        | _ => some false
    else none
  let integer :=
    if fb.integer == some true ∧ isInteger ∧ fe.nonnegative == some true then some true else none
  Facts.close ⟨extReal, finite, positive, negative, zero, imaginary, integer⟩

/-- The facts of an application of `f` from the facts of its arguments: the exponential of a
real number is positive, an absolute value is real and not negative, the floor or ceiling of a
real number is a whole number, the logarithm of a finite number other than zero is finite, and
so are the exponential and hyperbolic sine and cosine of a finite number and the sine and cosine
of a real one; an application without symbols has the sign of its approximate value. -/
def Facts.application (e : Expr) (f : Fn) (fs : List Facts) : Facts :=
  let known : Option Facts := match f.name, fs with
    | "exp", [a] =>
      if a.real == some true then
        some ⟨some true, some true, some true, some false, some false, some false, none⟩
      else if a.finite == some true then some ⟨none, some true, none, none, none, none, none⟩
      else none
    | "Abs", [a] =>
      some ⟨some true, a.finite, not3 a.zero, some false, a.zero, some false,
        if a.integer == some true then some true else none⟩
    | "floor", [a] | "ceiling", [a] =>
      if a.real == some true then
        some ⟨some true, some true, none, none, none, some false, some true⟩
      else none
    | "log", [a] =>
      let finite := if a.zero == some true then some false else a.finite
      some ⟨none, finite, none, none, none, none, none⟩
    | "sinh", [a] | "cosh", [a] =>
      if a.finite == some true then some ⟨none, some true, none, none, none, none, none⟩ else none
    | "sin", [a] | "cos", [a] =>
      if a.extReal == some true then some ⟨some true, some true, none, none, none, some false, none⟩
      else none
    | _, _ => none
  let f0 := known.getD Facts.unknown
  if f.undefined ∨ !e.isNumber then Facts.close f0
  else
    let real : Option Bool := match e.approx with
      | some ((_, im), _) => if im == 0 then some true else f0.extReal
      | none => f0.extReal
    let signs := numericSign e real
    let pos := if f0.positive.isSome then f0.positive else signs.1
    let neg := if f0.negative.isSome then f0.negative else signs.2
    Facts.close { f0 with extReal := real, positive := pos, negative := neg }

/-- What is known of the value of an expression. -/
def facts : Expr → Facts
  | .num n => Facts.ofNum n
  | .imag => ⟨some false, some true, some false, some false, some false, some true, some false⟩
  | .const c =>
    ⟨some true, some true, some true, some false, some false, some false,
      if c.knownIrrational then some false else none⟩
  | .sym _ => Facts.unknown
  | e@(.mul xs) => Facts.product e e.isNumber (factsList xs)
  | e@(.add xs) => Facts.sum e e.isNumber (factsList xs)
  | .pow b e => Facts.power b e (facts b) (facts e)
  | e@(.app f xs) => Facts.application e f (factsList xs)
where
  factsList : List Expr → List Facts
    | [] => []
    | x :: xs => facts x :: factsList xs

end Expr

end ExprTree.Symbolic
