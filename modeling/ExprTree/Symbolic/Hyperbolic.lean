import ExprTree.Symbolic.Trigonometric
/-!
  The hyperbolic functions and their inverses: `sinh`, `cosh`, `tanh`, `coth`, `sech` and
  `csch`, and `asinh`, `acosh`, `atanh`, `acoth`, `asech` and `acsch`.

  Each evaluates where a rule gives its value: at zero, at the infinities and NaN, by its parity
  in the argument, at a multiple `k·I` through the circular function of `k`
  (`sinh (I·x) = I·sin x`), by taking whole and half turns `k·I·π` off a sum, and at an inverse
  hyperbolic function through the algebraic value (`cosh (asinh x) = √(1 + x²)`). The inverse
  functions are exact at `±1`, at `I` and at the values in their tables. A float argument makes
  the functions evaluate to a float of its precision where the value is real.

  The rules call the circular functions and each other through `ev`, an evaluator of
  applications by name.
-/

namespace ExprTree.Symbolic

namespace BigFloat

/-- The working precision for the hyperbolic functions of `x` at `prec` bits: thirty guard bits,
and twice as many more as `x` lies below one, which `e^x - e^-x` loses to cancellation. -/
def hyperbolicPrecision (x : BigFloat) (prec : Nat) : Nat :=
  prec + 30 + 2 * (if x.top < 0 then (-x.top).toNat else 0)

/-- `cosh x` and `sinh x` at `w` bits, from `e^x` and its reciprocal. -/
def coshSinh (x : BigFloat) (w : Nat) : BigFloat × BigFloat :=
  let e := exponential .nearest x w
  let r := div one e w
  let half := fun (y : BigFloat) => ({ y with exp := y.exp - 1 } : BigFloat)
  (half (add e r w), half (add e r.neg' w))

/-- `log (x + √(x² + 1))`, the inverse hyperbolic sine of a positive `x`, rounded to `prec`
bits. -/
def asinhPositive (x : BigFloat) (prec : Nat) : BigFloat :=
  let w := hyperbolicPrecision x prec
  let s := sqrt (add (mul x x w) one w) w
  (logarithm .nearest (add x s w) w).round prec

end BigFloat

namespace Fn

open ExprTree.Symbolic.Expr

/-- A float at its precision from a computation at a finer precision. -/
def floatAt (f : BigFloat → Nat → BigFloat) (x : BigFloat) (prec : Nat) : Expr :=
  .num (.float ((f x (BigFloat.hyperbolicPrecision x prec)).round prec) prec)

/-- A sum less its multiple of `I·π` by a whole number of half turns: the rest and the number
of half turns as a fraction, when it is not zero. The multiple is the first term `k·I·π` with a
fraction `k`. -/
def peelImagPi (a : Expr) : Option (Expr × Num) :=
  match a with
  | .add xs =>
    let k? : Option Num := xs.findSome? fun t =>
      let fs := t.mulArgs
      if fs.any Expr.isImag && fs.any (·.same (.const .pi)) then
        match fs.filter fun f => !f.isImag && !f.same (.const .pi) with
        | [] => some (.int 1)
        | [.num k] => if k.isRational then some k else none
        | _ => none
      else none
    match k? with
    | some k =>
      let m2 := k.add (Num.modulo k (Num.ofFraction 1 2)).neg
      if m2.isZero then none
      else some (sumOf [a, negationOf (productOf [.num m2, .const .pi, .imag])], m2)
    | none => none
  | _ => none

/-- The multiple `k·I·π`. -/
def imagPiTimes (k : Num) : Expr := productOf [.num k, .const .pi, .imag]

/-- The argument of an application of the library function `name` with one argument. -/
def argOf? (name : String) (a : Expr) : Option Expr :=
  match a.appOf? name with
  | some [x] => some x
  | _ => none

/-- `√(x - 1) · √(x + 1)`. -/
def rootsAround (x : Expr) : Expr :=
  productOf [root (sumOf [x, int (-1)]), root (sumOf [x, one])]

/-- The value of a hyperbolic function at an inverse hyperbolic function, as a list of the
four values at `asinh x`, `acosh x`, `atanh x` and `acoth x`. -/
def atInverseHyperbolic (values : Expr → List Expr) (a : Expr) : Option Expr :=
  (["asinh", "acosh", "atanh", "acoth"].zip [0, 1, 2, 3]).findSome? fun (name, i) =>
    (argOf? name a).bind fun x => (values x)[i]?

/-- The hyperbolic sine. -/
def hyperbolicSine (ev : String → List Expr → Expr) (a : Expr) : Expr :=
  let stay := call "sinh" [a]
  match a with
  | .num n =>
    match n with
    | .nan => .num .nan
    | .posInf => .num .posInf
    | .negInf => .num .negInf
    | .complexInf => .num .nan
    | .float x prec =>
      if x.isZero then zero
      else if x.neg then negationOf (ev "sinh" [.num (.float x.neg' prec)])
      else floatAt (fun y w => (BigFloat.coshSinh y w).2) x prec
    | _ =>
      if n.isZero then zero
      else if n.isNegative then negationOf (ev "sinh" [.num n.neg])
      else stay
  | _ =>
    match imagCoeff? a with
    | some k => productOf [.imag, ev "sin" [k]]
    | none =>
      if a.couldExtractMinus then negationOf (ev "sinh" [negationOf a])
      else match peelImagPi a with
        | some (x, m) =>
          let mi := imagPiTimes m
          sumOf [productOf [ev "sinh" [mi], ev "cosh" [x]],
            productOf [ev "cosh" [mi], ev "sinh" [x]]]
        | none =>
          if a.facts.zero == some true then zero
          else (atInverseHyperbolic (fun x =>
            [x, rootsAround x, productOf [x, reciprocal (root (oneLess (square x)))],
              reciprocal (rootsAround x)]) a).getD stay

/-- The hyperbolic cosine. -/
def hyperbolicCosine (ev : String → List Expr → Expr) (a : Expr) : Expr :=
  let stay := call "cosh" [a]
  match a with
  | .num n =>
    match n with
    | .nan => .num .nan
    | .posInf | .negInf => .num .posInf
    | .complexInf => .num .nan
    | .float x prec =>
      if x.isZero then one
      else if x.neg then ev "cosh" [.num (.float x.neg' prec)]
      else floatAt (fun y w => (BigFloat.coshSinh y w).1) x prec
    | _ =>
      if n.isZero then one
      else if n.isNegative then ev "cosh" [.num n.neg]
      else stay
  | _ =>
    match imagCoeff? a with
    | some k => ev "cos" [k]
    | none =>
      if a.couldExtractMinus then ev "cosh" [negationOf a]
      else match peelImagPi a with
        | some (x, m) =>
          let mi := imagPiTimes m
          sumOf [productOf [ev "cosh" [mi], ev "cosh" [x]],
            productOf [ev "sinh" [mi], ev "sinh" [x]]]
        | none =>
          if a.facts.zero == some true then one
          else (atInverseHyperbolic (fun x =>
            [root (sumOf [one, square x]), x, reciprocal (root (oneLess (square x))),
              productOf [x, reciprocal (rootsAround x)]]) a).getD stay

/-- The hyperbolic tangent. -/
def hyperbolicTangent (ev : String → List Expr → Expr) (a : Expr) : Expr :=
  let stay := call "tanh" [a]
  match a with
  | .num n =>
    match n with
    | .nan => .num .nan
    | .posInf => one
    | .negInf => int (-1)
    | .complexInf => .num .nan
    | .float x prec =>
      if x.isZero then zero
      else if x.neg then negationOf (ev "tanh" [.num (.float x.neg' prec)])
      else floatAt (fun y w => let (c, s) := BigFloat.coshSinh y w; s.div c w) x prec
    | _ =>
      if n.isZero then zero
      else if n.isNegative then negationOf (ev "tanh" [.num n.neg])
      else stay
  | _ =>
    match imagCoeff? a with
    | some k =>
      if k.couldExtractMinus then productOf [int (-1), .imag, ev "tan" [negationOf k]]
      else productOf [.imag, ev "tan" [k]]
    | none =>
      if a.couldExtractMinus then negationOf (ev "tanh" [negationOf a])
      else match peelImagPi a with
        | some (x, m) =>
          if (ev "tanh" [imagPiTimes m]).same (.num .complexInf) then ev "coth" [x]
          else ev "tanh" [x]
        | none =>
          if a.facts.zero == some true then zero
          else (atInverseHyperbolic (fun x =>
            [productOf [x, reciprocal (root (sumOf [one, square x]))],
              productOf [rootsAround x, reciprocal x], x, reciprocal x]) a).getD stay

/-- The hyperbolic cotangent. -/
def hyperbolicCotangent (ev : String → List Expr → Expr) (a : Expr) : Expr :=
  let stay := call "coth" [a]
  match a with
  | .num n =>
    match n with
    | .nan => .num .nan
    | .posInf => one
    | .negInf => int (-1)
    | .complexInf => .num .nan
    | .float x prec =>
      if x.isZero then .num .complexInf
      else if x.neg then negationOf (ev "coth" [.num (.float x.neg' prec)])
      else floatAt (fun y w => let (c, s) := BigFloat.coshSinh y w; c.div s w) x prec
    | _ =>
      if n.isZero then .num .complexInf
      else if n.isNegative then negationOf (ev "coth" [.num n.neg])
      else stay
  | _ =>
    match imagCoeff? a with
    | some k =>
      if k.couldExtractMinus then productOf [.imag, ev "cot" [negationOf k]]
      else productOf [int (-1), .imag, ev "cot" [k]]
    | none =>
      if a.couldExtractMinus then negationOf (ev "coth" [negationOf a])
      else match peelImagPi a with
        | some (x, m) =>
          if (ev "coth" [imagPiTimes m]).same (.num .complexInf) then ev "coth" [x]
          else ev "tanh" [x]
        | none =>
          if a.facts.zero == some true then .num .complexInf
          else (atInverseHyperbolic (fun x =>
            [productOf [root (sumOf [one, square x]), reciprocal x],
              productOf [x, reciprocal (rootsAround x)], reciprocal x, x]) a).getD stay

/-- A reciprocal hyperbolic function (`sech` of `cosh`, `csch` of `sinh`): even or odd in its
argument, the argument of its own inverse, and otherwise the reciprocal of the function it
inverts when that evaluates. -/
def reciprocalHyperbolic (ev : String → List Expr → Expr) (name base inverse : String) (odd : Bool)
    (a : Expr) : Expr :=
  let stay := call name [a]
  match a with
  | .num (.float x prec) =>
    if x.neg then
      let v := ev name [.num (.float x.neg' prec)]
      if odd then negationOf v else v
    else
      floatAt (fun y w =>
        let (c, s) := BigFloat.coshSinh y w
        BigFloat.div BigFloat.one (if odd then s else c) w) x prec
  | _ =>
    if a.couldExtractMinus then
      let v := ev name [negationOf a]
      if odd then negationOf v else v
    else
      let t := ev base [a]
      match argOf? inverse a with
      | some x => x
      | none => if t.same (call base [a]) then stay else reciprocal t

/-- The value of an inverse function at an argument from a table, with the factor `I` when the
argument is real. -/
def imagTable? (table : List (Expr × Expr)) (a : Expr) : Option Expr :=
  (tableAngle? table a).map fun v =>
    if a.facts.extReal == some true then productOf [v, .imag] else v

/-- The angles whose cosine is a simple value, as the inverse hyperbolic cosine reads them. -/
def coshTable : List (Expr × Expr) :=
  [(.imag, logarithm (productOf [.imag, sumOf [one, rootOf 2]])),
    (negationOf .imag, logarithm (productOf [int (-1), .imag, sumOf [one, rootOf 2]])),
    (frac 1 2, piFraction 1 3),
    (frac (-1) 2, piFraction 2 3),
    («over» (rootOf 2) 2, piFraction 1 4),
    (negationOf («over» (rootOf 2) 2), piFraction 3 4),
    («over» (rootOf 3) 2, piFraction 1 6),
    (negationOf («over» (rootOf 3) 2), piFraction 5 6),
    (productOf [sumOf [rootOf 3, int (-1)], reciprocal (rootOf 8)], piFraction 5 12),
    (negationOf (productOf [sumOf [rootOf 3, int (-1)], reciprocal (rootOf 8)]), piFraction 7 12),
    («over» (root (sumOf [int 2, rootOf 2])) 2, piFraction 1 8),
    (negationOf («over» (root (sumOf [int 2, rootOf 2])) 2), piFraction 7 8),
    («over» (root (sumOf [int 2, negationOf (rootOf 2)])) 2, piFraction 3 8),
    (negationOf («over» (root (sumOf [int 2, negationOf (rootOf 2)])) 2), piFraction 5 8),
    (productOf [sumOf [one, rootOf 3], reciprocal (productOf [int 2, rootOf 2])], piFraction 1 12),
    (negationOf (productOf [sumOf [one, rootOf 3], reciprocal (productOf [int 2, rootOf 2])]),
      piFraction 11 12),
    («over» (sumOf [rootOf 5, one]) 4, piFraction 1 5),
    (negationOf («over» (sumOf [rootOf 5, one]) 4), piFraction 4 5)]

/-- The inverse hyperbolic sine. -/
def inverseHyperbolicSine (ev : String → List Expr → Expr) (a : Expr) : Expr :=
  let stay := call "asinh" [a]
  match a with
  | .num n =>
    match n with
    | .nan => .num .nan
    | .posInf => .num .posInf
    | .negInf => .num .negInf
    | .complexInf => .num .complexInf
    | .int 1 => logarithm (sumOf [rootOf 2, one])
    | .int (-1) => logarithm (sumOf [rootOf 2, int (-1)])
    | .float x prec =>
      if x.isZero then zero
      else if x.neg then negationOf (ev "asinh" [.num (.float x.neg' prec)])
      else .num (.float (BigFloat.asinhPositive x prec) prec)
    | _ =>
      if n.isZero then zero
      else if n.isNegative then negationOf (ev "asinh" [.num n.neg])
      else stay
  | _ =>
    if a.facts.zero == some true then zero
    else match imagCoeff? a with
      | some k => productOf [.imag, ev "asin" [k]]
      | none =>
        if a.couldExtractMinus then negationOf (ev "asinh" [negationOf a])
        else match argOf? "sinh" a with
          | some z => if z.isNumber && z.facts.extReal == some true then z else stay
          | none => stay

/-- The inverse hyperbolic cosine. -/
def inverseHyperbolicCosine (a : Expr) : Expr :=
  let stay := call "acosh" [a]
  match a with
  | .num .nan => .num .nan
  | .num .posInf | .num .negInf => .num .posInf
  | .num .complexInf => .num .complexInf
  | _ =>
    if a.isZeroNum then productOf [frac 1 2, .const .pi, .imag]
    else if a.isInt 1 then zero
    else if a.isInt (-1) then productOf [.const .pi, .imag]
    else match imagTable? coshTable a with
      | some v => v
      | none =>
        if a.same (productOf [.imag, .num .posInf]) then
          sumOf [.num .posInf, productOf [frac 1 2, .imag, .const .pi]]
        else if a.same (productOf [.imag, .num .negInf]) then
          sumOf [.num .posInf, productOf [frac (-1) 2, .imag, .const .pi]]
        else if a.facts.zero == some true then productOf [frac 1 2, .const .pi, .imag]
        else match a with
          | .num (.float x prec) =>
            if !x.neg && BigFloat.compare' x BigFloat.one == .gt then
              floatAt (fun y w =>
                BigFloat.logarithm .nearest
                  (BigFloat.add y (BigFloat.sqrt (BigFloat.add (BigFloat.mul y y w)
                    BigFloat.one.neg' w) w) w) w) x prec
            else stay
          | _ => stay

/-- The inverse hyperbolic tangent. -/
def inverseHyperbolicTangent (ev : String → List Expr → Expr) (a : Expr) : Expr :=
  let stay := call "atanh" [a]
  match a with
  | .num n =>
    match n with
    | .nan => .num .nan
    | .int 1 => .num .posInf
    | .int (-1) => .num .negInf
    | .posInf => productOf [int (-1), .imag, ev "atan" [a]]
    | .negInf => productOf [.imag, ev "atan" [negationOf a]]
    | .complexInf => productOf [.imag, call "AccumBounds" [piFraction (-1) 2, piFraction 1 2]]
    | .float x prec =>
      if x.isZero then zero
      else if x.neg then negationOf (ev "atanh" [.num (.float x.neg' prec)])
      else if BigFloat.compare' x BigFloat.one == .lt then
        floatAt (fun y w =>
          let l := BigFloat.logarithm .nearest
            (BigFloat.div (BigFloat.add BigFloat.one y w)
              (BigFloat.add BigFloat.one y.neg' w) w) w
          ({ l with exp := l.exp - 1 } : BigFloat)) x prec
      else stay
    | _ =>
      if n.isZero then zero
      else if n.isNegative then negationOf (ev "atanh" [.num n.neg])
      else stay
  | _ =>
    match imagCoeff? a with
    | some k => productOf [.imag, ev "atan" [k]]
    | none =>
      if a.couldExtractMinus then negationOf (ev "atanh" [negationOf a])
      else if a.facts.zero == some true then zero
      else stay

/-- The inverse hyperbolic cotangent. -/
def inverseHyperbolicCotangent (ev : String → List Expr → Expr) (a : Expr) : Expr :=
  let stay := call "acoth" [a]
  match a with
  | .num n =>
    match n with
    | .nan => .num .nan
    | .posInf | .negInf | .complexInf => zero
    | .int 1 => .num .posInf
    | .int (-1) => .num .negInf
    | .float x prec =>
      if x.isZero then productOf [frac 1 2, .const .pi, .imag]
      else if x.neg then negationOf (ev "acoth" [.num (.float x.neg' prec)])
      else if BigFloat.compare' x BigFloat.one == .gt then
        floatAt (fun y w =>
          let l := BigFloat.logarithm .nearest
            (BigFloat.div (BigFloat.add y BigFloat.one w)
              (BigFloat.add y BigFloat.one.neg' w) w) w
          ({ l with exp := l.exp - 1 } : BigFloat)) x prec
      else stay
    | _ =>
      if n.isZero then productOf [frac 1 2, .const .pi, .imag]
      else if n.isNegative then negationOf (ev "acoth" [.num n.neg])
      else stay
  | _ =>
    match imagCoeff? a with
    | some k => productOf [int (-1), .imag, ev "acot" [k]]
    | none =>
      if a.couldExtractMinus then negationOf (ev "acoth" [negationOf a])
      else if a.facts.zero == some true then productOf [frac 1 2, .const .pi, .imag]
      else stay

/-- The angles whose secant is a simple value, as the inverse hyperbolic secant reads them. -/
def sechTable : List (Expr × Expr) :=
  [(.imag, sumOf [productOf [frac (-1) 2, .const .pi, .imag], logarithm (sumOf [one, rootOf 2])]),
    (negationOf .imag, sumOf [productOf [frac 1 2, .const .pi, .imag],
      logarithm (sumOf [one, rootOf 2])]),
    (sumOf [rootOf 6, negationOf (rootOf 2)], piFraction 1 12),
    (sumOf [rootOf 2, negationOf (rootOf 6)], piFraction 11 12),
    (root (sumOf [int 2, negationOf (productOf [int 2, reciprocal (rootOf 5)])]), piFraction 1 10),
    (negationOf (root (sumOf [int 2, negationOf (productOf [int 2, reciprocal (rootOf 5)])])),
      piFraction 9 10),
    (productOf [int 2, reciprocal (root (sumOf [int 2, rootOf 2]))], piFraction 1 8),
    (productOf [int (-2), reciprocal (root (sumOf [int 2, rootOf 2]))], piFraction 7 8),
    (productOf [int 2, reciprocal (rootOf 3)], piFraction 1 6),
    (productOf [int (-2), reciprocal (rootOf 3)], piFraction 5 6),
    (sumOf [rootOf 5, int (-1)], piFraction 1 5),
    (sumOf [one, negationOf (rootOf 5)], piFraction 4 5),
    (rootOf 2, piFraction 1 4),
    (negationOf (rootOf 2), piFraction 3 4),
    (root (sumOf [int 2, productOf [int 2, reciprocal (rootOf 5)]]), piFraction 3 10),
    (negationOf (root (sumOf [int 2, productOf [int 2, reciprocal (rootOf 5)]])), piFraction 7 10),
    (int 2, piFraction 1 3),
    (int (-2), piFraction 2 3),
    (root (productOf [int 2, sumOf [int 2, rootOf 2]]), piFraction 3 8),
    (negationOf (root (productOf [int 2, sumOf [int 2, rootOf 2]])), piFraction 5 8),
    (sumOf [one, rootOf 5], piFraction 2 5),
    (sumOf [int (-1), negationOf (rootOf 5)], piFraction 3 5),
    (sumOf [rootOf 6, rootOf 2], piFraction 5 12),
    (sumOf [negationOf (rootOf 6), negationOf (rootOf 2)], piFraction 7 12)]

/-- The inverse hyperbolic secant; a float in `(0, 1]` evaluates to `acosh (1/x)`. -/
def inverseHyperbolicSecant (a : Expr) : Expr :=
  let stay := call "asech" [a]
  match a with
  | .num .nan => .num .nan
  | .num .posInf | .num .negInf => productOf [frac 1 2, .const .pi, .imag]
  | .num .complexInf => productOf [.imag, call "AccumBounds" [piFraction (-1) 2, piFraction 1 2]]
  | _ =>
    if a.isZeroNum then .num .posInf
    else if a.isInt 1 then zero
    else if a.isInt (-1) then productOf [.const .pi, .imag]
    else match imagTable? sechTable a with
      | some v => v
      | none =>
        if a.facts.zero == some true then .num .posInf
        else match a with
          | .num (.float x prec) =>
            if !x.neg && BigFloat.compare' x BigFloat.one != .gt then
              -- `acosh (1/x) = log ((1 + √(1 - x²)) / x)`
              floatAt (fun y w =>
                BigFloat.logarithm .nearest
                  (BigFloat.div (BigFloat.add BigFloat.one (BigFloat.sqrt (BigFloat.add BigFloat.one
                    (BigFloat.mul y y w).neg' w) w) w) y w) w) x prec
            else stay
          | _ => stay

/-- The angles whose cosecant times `I` is a simple value, as the inverse hyperbolic cosecant
reads them. -/
def cschTable : List (Expr × Expr) :=
  [(.imag, piFraction (-1) 2),
    (productOf [.imag, sumOf [rootOf 2, rootOf 6]], piFraction (-1) 12),
    (productOf [.imag, sumOf [one, rootOf 5]], piFraction (-1) 10),
    (productOf [.imag, int 2, reciprocal (root (sumOf [int 2, negationOf (rootOf 2)]))],
      piFraction (-1) 8),
    (productOf [.imag, int 2], piFraction (-1) 6),
    (productOf [.imag, root (sumOf [int 2, productOf [int 2, reciprocal (rootOf 5)]])],
      piFraction (-1) 5),
    (productOf [.imag, rootOf 2], piFraction (-1) 4),
    (productOf [.imag, sumOf [rootOf 5, int (-1)]], piFraction (-3) 10),
    (productOf [.imag, int 2, reciprocal (rootOf 3)], piFraction (-1) 3),
    (productOf [.imag, int 2, reciprocal (root (sumOf [int 2, rootOf 2]))], piFraction (-3) 8),
    (productOf [.imag, root (sumOf [int 2, negationOf (productOf [int 2, reciprocal (rootOf 5)])])],
      piFraction (-2) 5),
    (productOf [.imag, sumOf [rootOf 6, negationOf (rootOf 2)]], piFraction (-5) 12)]

/-- The inverse hyperbolic cosecant. -/
def inverseHyperbolicCosecant (ev : String → List Expr → Expr) (a : Expr) : Expr :=
  let stay := call "acsch" [a]
  match a with
  | .num .nan => .num .nan
  | .num .posInf | .num .negInf | .num .complexInf => zero
  | _ =>
    if a.isZeroNum then .num .complexInf
    else if a.isInt 1 then logarithm (sumOf [one, rootOf 2])
    else if a.isInt (-1) then negationOf (logarithm (sumOf [one, rootOf 2]))
    else match tableAngle? cschTable a with
      | some v => productOf [v, .imag]
      | none =>
        if a.facts.finite == some false then zero
        else if a.facts.zero == some true then .num .complexInf
        else if a.couldExtractMinus then negationOf (ev "acsch" [negationOf a])
        else match a with
          | .num (.float x prec) =>
            if x.isZero then .num .complexInf
            else floatAt (fun y w => BigFloat.asinhPositive (BigFloat.div BigFloat.one y w) w) x prec
          | _ => stay

end Fn

end ExprTree.Symbolic
