import ExprTree.Symbolic.Function
/-!
  The circular functions and their inverses: sine, cosine, tangent, cotangent, secant and
  cosecant; the inverse sine, cosine, tangent, cotangent, secant and cosecant; and the inverse
  tangent of a point, `atan2`.

  Each evaluates where a rule gives its value. At a multiple of `π` by a fraction the cosine is
  exact for the denominators up to twelve that halving and the fifths reach, and for those that
  `angleSplit` writes as a difference of two such angles (15, 20, 24, 30, 40, 60 and 120); the
  sine is the cosine a quarter turn back and the tangent a quotient of the two. At an inverse
  function each gives the algebraic value, such as `cos (acos x) = x` and
  `cos (asin x) = √(1 - x²)`. The inverse functions are exact at the values listed in
  `sineTable`, `tangentTable` and `cosecantTable`, and at the inverse of their own function at a
  real number, folded back into the range of the inverse. A float argument makes every one of
  them evaluate to a float of its precision, where its value is real: the inverse functions as
  the angle of a point built from the argument (`floatAngle`).

  The inverse functions call other functions through `ev`, an evaluator of applications by
  name, so that the hyperbolic functions they reach (`asin (I·x) = I·asinh x`) are evaluated by
  their own rules.
-/

-- The core instances for powers, products and sums of numbers, also where Mathlib's are
-- in scope, so that the definitions below are the same terms in every build.
attribute [local instance (high)] instPowNat

namespace ExprTree.Symbolic

namespace Fn

open ExprTree.Symbolic.Expr

/-- The coefficient of `π` in a multiple `k·π` with a number `k`, taken modulo two. A float
coefficient whose fraction part is a power of one half is read as the exact fraction. -/
def piCoeff? (a : Expr) : Option Num :=
  let reduce := fun (c : Num) =>
    match c with
    | .float x prec =>
      if x.isWhole then some (Num.modulo (.int x.floorInt) (.int 2))
      else
        let k := (-x.exp).toNat
        if x.man % 2 ^ k == 1 then some (Num.modulo (Num.ofFraction x.signedMan (2 ^ k)) (.int 2))
        else some (Num.modulo (.float x prec) (.int 2))
    | c => if c.isFinite then some (Num.modulo c (.int 2)) else none
  match a with
  | .const .pi => some (.int 1)
  | .num n => if n.isZero then some (.int 0) else none
  | .mul [.num c, .const .pi] => reduce c
  | _ => none

/-- The multiple `k·π`. -/
def piTimes (k : Num) : Expr := productOf [.num k, .const .pi]

/-- The coefficient `k` of a product `k·I` in which `k` holds no imaginary unit. -/
def imagCoeff? (a : Expr) : Option Expr :=
  match a with
  | .imag => some one
  | .mul xs =>
    if xs.any Expr.isImag then
      let k := mulRaw (xs.filter (!·.isImag))
      if hasImag k then none else some k
    else none
  | _ => none

/-- The cosine and sine of a float at its precision, each with four guard bits, then rounded. -/
def floatCosSin (x : BigFloat) (prec : Nat) : BigFloat × BigFloat :=
  let (c, s) := BigFloat.cosSin .nearest x (prec + 4)
  (c.round prec, s.round prec)

/-- The tangent of a float at its precision: the quotient of sine and cosine taken with twenty
guard bits, then rounded. -/
def floatTan (x : BigFloat) (prec : Nat) : BigFloat :=
  let (c, s) := BigFloat.cosSin .nearest x (prec + 20)
  (s.div c (prec + 20)).round prec

/-- The value of `√5`, which the fifths of `π` need. -/
def sqrtFive : Expr := powerOf (int 5) (frac 1 2)

/-- The denominators `a` and `b` with `1/q = 1/a - 1/b` by which a multiple of `π/q` is
written as the difference of two angles whose circular functions are known; `none` for the
denominators `q` without such a split. -/
def angleSplit (q : Nat) : Option (Nat × Nat) :=
  match q with
  | 12 => some (3, 4)
  | 15 => some (6, 10)
  | 20 => some (4, 5)
  | 24 => some (6, 8)
  | 30 => some (5, 6)
  | 40 => some (8, 10)
  | 60 => some (20, 30)
  | 120 => some (40, 60)
  | _ => none

/-- The square root. -/
def root (x : Expr) : Expr := powerOf x (frac 1 2)

/-- The reciprocal. -/
def reciprocal (x : Expr) : Expr := powerOf x (int (-1))

/-- The square. -/
def square (x : Expr) : Expr := powerOf x (int 2)

/-- `1 - x`. -/
def oneLess (x : Expr) : Expr := sumOf [one, negationOf x]

/-- The value of the circular function `name` (sine, cosine, tangent or cotangent) at an
inverse circular function of `x`, or at the angle `atan2 y x` of the point `(x, y)`. -/
def atInverse (name : String) (a : Expr) : Option Expr :=
  match a with
  | .app f [x] =>
    if f.undefined then none
    else match name, f.name with
      | "cos", "acos" => some x
      | "cos", "atan" => some (reciprocal (root (sumOf [one, square x])))
      | "cos", "asin" => some (root (oneLess (square x)))
      | "cos", "acot" => some (reciprocal (root (sumOf [one, reciprocal (square x)])))
      | "cos", "acsc" => some (root (oneLess (reciprocal (square x))))
      | "cos", "asec" => some (reciprocal x)
      | "sin", "asin" => some x
      | "sin", "atan" => some (productOf [x, reciprocal (root (sumOf [one, square x]))])
      | "sin", "acos" => some (root (oneLess (square x)))
      | "sin", "acot" =>
        some (reciprocal (productOf [root (sumOf [one, reciprocal (square x)]), x]))
      | "sin", "acsc" => some (reciprocal x)
      | "sin", "asec" => some (root (oneLess (reciprocal (square x))))
      | "tan", "atan" => some x
      | "tan", "asin" => some (productOf [x, reciprocal (root (oneLess (square x)))])
      | "tan", "acos" => some (productOf [root (oneLess (square x)), reciprocal x])
      | "tan", "acot" => some (reciprocal x)
      | "tan", "acsc" =>
        some (reciprocal (productOf [root (oneLess (reciprocal (square x))), x]))
      | "tan", "asec" => some (productOf [root (oneLess (reciprocal (square x))), x])
      | "cot", "acot" => some x
      | "cot", "atan" => some (reciprocal x)
      | "cot", "asin" => some (productOf [root (oneLess (square x)), reciprocal x])
      | "cot", "acos" => some (productOf [x, reciprocal (root (oneLess (square x)))])
      | "cot", "acsc" => some (productOf [root (oneLess (reciprocal (square x))), x])
      | "cot", "asec" =>
        some (reciprocal (productOf [root (oneLess (reciprocal (square x))), x]))
      | _, _ => none
  | .app f [y, x] =>
    if f.undefined || f.name != "atan2" then none
    else
      let r := root (sumOf [square x, square y])
      match name with
      | "cos" => some (productOf [x, reciprocal r])
      | "sin" => some (productOf [y, reciprocal r])
      | "tan" => some (productOf [y, reciprocal x])
      | "cot" => some (productOf [x, reciprocal y])
      | _ => none
  | _ => none

mutual

/-- The cosine. It is NaN at NaN and the unsigned infinity, one at zero, the interval
`[-1, 1]` at the infinities, even in its argument, `cosh` of the coefficient at a multiple of
`I`, exact at the multiples of `π` by fractions with denominators 1, 2, 3, 4, 5, 6, 8 and 10 (by
halving) and those `angleSplit` splits (by differences of angles), and algebraic at an inverse
function; a float evaluates. -/
def cosine : Nat → Expr → Expr
  | 0, a => call "cos" [a]
  | fuel + 1, a =>
    let stay := call "cos" [a]
    match a with
    | .num .nan | .num .complexInf => .num .nan
    | .num .posInf | .num .negInf => call "AccumBounds" [int (-1), one]
    | .num (.float x prec) =>
      if x.isZero then one else .num (.float (floatCosSin x.neg' prec).1 prec)
    | _ =>
      if a.isZeroNum then one
      else if a.couldExtractMinus then cosine fuel (negationOf a)
      else match imagCoeff? a with
        | some k => call "cosh" [k]
        | none =>
          match piCoeff? a with
          | some c =>
            match c with
            | .int k => if k % 2 == 0 then one else int (-1)
            | .rat p q =>
              if q == 2 then zero
              else
                let pm := p % (2 * q)
                if pm > q then negationOf (cosine fuel (piTimes (c.add (.int (-1)))))
                else if 2 * pm > q then negationOf (cosine fuel (piTimes ((Num.int 1).add c.neg)))
                else match angleSplit q with
                | some (da, db) =>
                  let x := Num.ofFraction pm da
                  let y := Num.ofFraction pm db
                  let half := Num.ofFraction 1 2
                  sumOf [productOf [cosine fuel (piTimes x), cosine fuel (piTimes y)],
                    productOf [cosine fuel (piTimes (half.add x.neg)),
                      cosine fuel (piTimes (half.add y.neg))]]
                | none =>
                if q == 3 then frac 1 2
                else if q == 5 then
                  sumOf [frac (if pm == 1 then 1 else -1) 4, productOf [frac 1 4, sqrtFive]]
                else if q % 2 == 0 && q ≤ 12 then
                  let v := cosine fuel (piTimes (c.mul (.int 2)))
                  if v.isAppOf "cos" then stay
                  else powerOf (productOf [frac 1 2, sumOf [one, v]]) (frac 1 2)
                else stay
            | .float .. =>
              let narg := piTimes c
              if narg.same a then stay else cosine fuel narg
            | _ => stay
          | none =>
            match peelPi a with
            | some (x, m) =>
              sumOf [productOf [cosine fuel m, cosine fuel x],
                negationOf (productOf [sine fuel m, sine fuel x])]
            | none =>
              if a.facts.zero == some true then one
              else (atInverse "cos" a).getD stay

/-- The sine. It is NaN at NaN and the unsigned infinity, zero at zero, the interval `[-1, 1]`
at the infinities, odd in its argument, `I·sinh` of the coefficient at a multiple of `I`, and at
a multiple of `π` by a fraction the cosine of the angle a quarter turn back, and algebraic at an
inverse function; a float evaluates. -/
def sine : Nat → Expr → Expr
  | 0, a => call "sin" [a]
  | fuel + 1, a =>
    let stay := call "sin" [a]
    match a with
    | .num .nan | .num .complexInf => .num .nan
    | .num .posInf | .num .negInf => call "AccumBounds" [int (-1), one]
    | .num (.float x prec) =>
      if x.isZero then zero
      else if x.neg then negationOf (.num (.float (floatCosSin x.neg' prec).2 prec))
      else .num (.float (floatCosSin x prec).2 prec)
    | _ =>
      if a.isZeroNum then zero
      else if a.couldExtractMinus then negationOf (sine fuel (negationOf a))
      else match imagCoeff? a with
        | some k => productOf [.imag, call "sinh" [k]]
        | none =>
          match piCoeff? a with
          | some c =>
            match c with
            | .int k => let _ := k; zero
            | .rat p q =>
              if q == 2 then (if (p - 1) / 2 % 2 == 0 then one else int (-1))
              else if (Num.int 1).lt c then negationOf (sine fuel (piTimes (c.add (.int (-1)))))
              else if (Num.int 1).lt (c.mul (.int 2)) then
                sine fuel (piTimes ((Num.int 1).add c.neg))
              else
                let narg := Num.modulo (c.add (Num.ofFraction 3 2)) (.int 2)
                let v := cosine fuel (piTimes narg)
                if !v.isAppOf "cos" then v
                else if (piTimes c).same a then stay
                else sine fuel (piTimes c)
            | .float .. =>
              let narg := piTimes c
              if narg.same a then stay else sine fuel narg
            | _ => stay
          | none =>
            match peelPi a with
            | some (x, m) =>
              sumOf [productOf [sine fuel m, cosine fuel x], productOf [cosine fuel m, sine fuel x]]
            | none =>
              if a.facts.zero == some true then zero
              else (atInverse "sin" a).getD stay

/-- A sum less its multiple of `π` by a whole number of half turns: the rest and that multiple,
when the multiple is not zero. -/
def peelPi (a : Expr) : Option (Expr × Expr) :=
  match a with
  | .add xs =>
    let k? : Option Num := xs.findSome? fun t =>
      match t with
      | .const .pi => some (.int 1)
      | .mul [.num k, .const .pi] => if k.isRational then some k else none
      | _ => none
    match k? with
    | some k =>
      let m1 := Num.modulo k (Num.ofFraction 1 2)
      let m2 := k.add m1.neg
      if m2.isZero then none
      else some (sumOf [a, negationOf (piTimes m2)], piTimes m2)
    | none => none
  | _ => none

end

/-- The tangent at the tenths of `π`, from one tenth to four. -/
def tenthTangent (n : Int) : Expr :=
  match n with
  | 1 => root (sumOf [one, productOf [frac (-2) 5, sqrtFive]])
  | 2 => root (sumOf [int 5, productOf [int (-2), sqrtFive]])
  | 3 => root (sumOf [one, productOf [frac 2 5, sqrtFive]])
  | _ => root (sumOf [int 5, productOf [int 2, sqrtFive]])

/-- The quotient `f (cos x) (sin x)` at the angle `x = k·π` when the cosine and the sine there
are both exact (not left as cosines), where `sin x` is written `cos (x - π/2)`; the unsigned
infinity when that sine is zero. -/
def exactQuotient (fuel : Nat) (k : Num) (f : Expr → Expr → Expr) : Option Expr :=
  let cr := cosine fuel (piTimes k)
  let sr := cosine fuel (piTimes (k.add (Num.ofFraction (-1) 2)))
  if cr.isAppOf "cos" || sr.isAppOf "cos" then none
  else if sr.isZeroNum then some (.num .complexInf)
  else some (f cr sr)

/-- The cotangent of a float at its precision: the quotient of cosine and sine taken with
twenty guard bits, then rounded. -/
def floatCot (x : BigFloat) (prec : Nat) : BigFloat :=
  let (c, s) := BigFloat.cosSin .nearest x (prec + 20)
  (c.div s (prec + 20)).round prec

mutual

/-- The tangent. It is NaN at NaN and the unsigned infinity, zero at zero, the interval
`(-∞, ∞)` at the infinities, odd in its argument, `I·tanh` of the coefficient at a multiple of
`I`, zero at whole multiples of `π`, tabulated at the fifths and tenths of `π`, by halving at
other even denominators, by `angleSplit` at the others it splits, and otherwise the quotient of
the sine and cosine when both are exact. Half turns come off a sum (a quarter turn makes it
`-cot`), and at an inverse function it is algebraic; a float evaluates. -/
def tangent : Nat → Expr → Expr
  | 0, a => call "tan" [a]
  | fuel + 1, a =>
    let stay := call "tan" [a]
    match a with
    | .num .nan | .num .complexInf => .num .nan
    | .num .posInf | .num .negInf => call "AccumBounds" [.num .negInf, .num .posInf]
    | .num (.float x prec) =>
      if x.isZero then zero
      else if x.neg then negationOf (.num (.float (floatTan x.neg' prec) prec))
      else .num (.float (floatTan x prec) prec)
    | _ =>
      if a.isZeroNum then zero
      else if a.couldExtractMinus then negationOf (tangent fuel (negationOf a))
      else match imagCoeff? a with
        | some k => productOf [.imag, call "tanh" [k]]
        | none =>
          match piCoeff? a with
          | some c =>
            match c with
            | .int _ => zero
            | .rat p q =>
              let pm := p % q
              if q == 5 || q == 10 then
                let n := 10 * pm / q
                if n > 5 then negationOf (tenthTangent (10 - n)) else tenthTangent n
              else
                let halved := if q % 2 == 0 then
                    exactQuotient fuel (c.mul (.int 2)) fun cr sr =>
                      sumOf [reciprocal sr, negationOf (productOf [cr, reciprocal sr])]
                  else none
                match halved with
                | some v => v
                | none =>
                  match angleSplit q with
                  | some (da, db) =>
                    let va := tangent fuel (piTimes (Num.ofFraction pm da))
                    let vb := tangent fuel (piTimes (Num.ofFraction pm db))
                    productOf [sumOf [va, negationOf vb],
                      reciprocal (sumOf [one, productOf [va, vb]])]
                  | none =>
                    let narg := (Num.modulo (c.add (Num.ofFraction 1 2)) (.int 1)).add
                      (Num.ofFraction (-1) 2)
                    match exactQuotient fuel narg fun cr sr => productOf [sr, reciprocal cr] with
                    | some v => v
                    | none => if (piTimes narg).same a then stay else tangent fuel (piTimes narg)
            | .float .. =>
              let narg := piTimes c
              if narg.same a then stay else tangent fuel narg
            | _ => stay
          | none =>
            match peelPi a with
            | some (x, m) =>
              match piCoeff? m with
              | some (.int _) => tangent fuel x
              | _ => negationOf (cotangent fuel x)
            | none =>
              if a.facts.zero == some true then zero
              else (atInverse "tan" a).getD stay

/-- The cotangent. It is NaN at NaN and the unsigned infinity, the unsigned infinity at zero
and at whole multiples of `π`, the interval `(-∞, ∞)` at the infinities, odd in its argument,
`-I·coth` of the coefficient at a multiple of `I`, the tangent of the complement at the fifths
and tenths of `π`, by halving at other even denominators, by `angleSplit` at the others it
splits, and otherwise the quotient of the cosine and sine when both are exact. Half turns come
off a sum (a quarter turn makes it `-tan`), and at an inverse function it is algebraic; a float
evaluates. -/
def cotangent : Nat → Expr → Expr
  | 0, a => call "cot" [a]
  | fuel + 1, a =>
    let stay := call "cot" [a]
    match a with
    | .num .nan | .num .complexInf => .num .nan
    | .num .posInf | .num .negInf => call "AccumBounds" [.num .negInf, .num .posInf]
    | .num (.float x prec) =>
      if x.isZero then .num .complexInf
      else if x.neg then negationOf (.num (.float (floatCot x.neg' prec) prec))
      else .num (.float (floatCot x prec) prec)
    | _ =>
      if a.isZeroNum then .num .complexInf
      else if a.couldExtractMinus then negationOf (cotangent fuel (negationOf a))
      else match imagCoeff? a with
        | some k => productOf [int (-1), .imag, call "coth" [k]]
        | none =>
          match piCoeff? a with
          | some c =>
            match c with
            | .int _ => .num .complexInf
            | .rat p q =>
              if q == 5 || q == 10 then
                tangent fuel (piTimes ((Num.ofFraction 1 2).add c.neg))
              else
                let halved := if q > 2 && q % 2 == 0 then
                    exactQuotient fuel (c.mul (.int 2)) fun cr sr =>
                      sumOf [reciprocal sr, productOf [cr, reciprocal sr]]
                  else none
                match halved with
                | some v => v
                | none =>
                  let pm := p % q
                  match angleSplit q with
                  | some (da, db) =>
                    let va := cotangent fuel (piTimes (Num.ofFraction pm da))
                    let vb := cotangent fuel (piTimes (Num.ofFraction pm db))
                    productOf [sumOf [one, productOf [va, vb]],
                      reciprocal (sumOf [vb, negationOf va])]
                  | none =>
                    let narg := (Num.modulo (c.add (Num.ofFraction 1 2)) (.int 1)).add
                      (Num.ofFraction (-1) 2)
                    match exactQuotient fuel narg fun cr sr => productOf [cr, reciprocal sr] with
                    | some v => v
                    | none =>
                      if (piTimes narg).same a then stay else cotangent fuel (piTimes narg)
            | .float .. =>
              let narg := piTimes c
              if narg.same a then stay else cotangent fuel narg
            | _ => stay
          | none =>
            match peelPi a with
            | some (x, m) =>
              match piCoeff? m with
              | some (.int _) => cotangent fuel x
              | _ => negationOf (tangent fuel x)
            | none =>
              if a.facts.zero == some true then .num .complexInf
              else (atInverse "cot" a).getD stay

end

/-- Whether `v` is the circular function `name` applied to something, or the negation of one. -/
def isSignedApp (name : String) (v : Expr) : Bool :=
  v.isAppOf name || (negationOf v).isAppOf name

/-- The argument of a circular function `name` applied to something, or of its negation, with
the sign of the negation. -/
def signedArg? (name : String) (v : Expr) : Option (Bool × Expr) :=
  match v.appOf? name, (negationOf v).appOf? name with
  | some [x], _ => some (false, x)
  | _, some [x] => some (true, x)
  | _, _ => none

/-- The reduction of a reciprocal circular function at a multiple `k·π` by a fraction that is
not a multiple of one half: past a half turn, `f (k·π) = -f ((k - 1)·π)`; past a quarter turn,
`f (k·π) = ±f ((1 - k)·π)`, with the sign of an odd function's reflection. -/
def reflect (odd : Bool) (self : Expr → Expr) (a : Expr) : Option Expr :=
  match piCoeff? a with
  | some (.rat p q) =>
    let c := Num.rat p q
    if q == 2 then none
    else
      let pm := p % (2 * q)
      if pm > q then some (negationOf (self (piTimes (c.add (.int (-1))))))
      else if 2 * pm > q then
        let v := self (piTimes ((Num.int 1).add c.neg))
        some (if odd then v else negationOf v)
      else none
  | _ => none

/-- The secant: even in its argument, reduced past half and quarter turns, the argument of an
inverse secant, and otherwise the reciprocal of the cosine when the cosine evaluates (a cosine
left over becomes a secant again); a float evaluates. -/
def secant : Nat → Expr → Expr
  | 0, a => call "sec" [a]
  | fuel + 1, a =>
    let stay := call "sec" [a]
    match a with
    | .num (.float x prec) =>
      let (c, _) := BigFloat.cosSin .nearest x (prec + 20)
      .num (.float ((BigFloat.one.div c (prec + 20)).round prec) prec)
    | _ =>
      if a.couldExtractMinus then secant fuel (negationOf a)
      else match reflect false (secant fuel) a with
        | some v => v
        | none =>
          match a.appOf? "asec" with
          | some [x] => x
          | _ =>
            let t := cosine fuel a
            if t.same (call "cos" [a]) then stay
            else match signedArg? "cos" t with
              | some (neg, x) => let v := call "sec" [x]; if neg then negationOf v else v
              | none => reciprocal t

/-- The cosecant: odd in its argument, reduced past half and quarter turns, the argument of an
inverse cosecant, and otherwise the reciprocal of the sine when the sine evaluates; a float
evaluates. -/
def cosecant : Nat → Expr → Expr
  | 0, a => call "csc" [a]
  | fuel + 1, a =>
    let stay := call "csc" [a]
    match a with
    | .num (.float x prec) =>
      let (_, s) := BigFloat.cosSin .nearest x (prec + 20)
      if s.isZero then .num .complexInf
      else .num (.float ((BigFloat.one.div s (prec + 20)).round prec) prec)
    | _ =>
      if a.couldExtractMinus then negationOf (cosecant fuel (negationOf a))
      else match reflect true (cosecant fuel) a with
        | some v => v
        | none =>
          match a.appOf? "acsc" with
          | some [x] => x
          | _ =>
            let t := sine fuel a
            if t.same (call "sin" [a]) then stay else reciprocal t

/-! ### Inverse circular functions -/

/-- The multiple `(p/q)·π`. -/
def piFraction (p q : Int) : Expr := piTimes (Num.ofFraction p q)

/-- `x / d`. -/
def «over» (x : Expr) (d : Int) : Expr := productOf [x, frac 1 d]

/-- The square root of a whole number. -/
def rootOf (n : Int) : Expr := root (int n)

/-- The values of the sine at the simple fractions of `π`, with the angles: the inverse sine
and cosine read them off. -/
def sineTable : List (Expr × Expr) :=
  [(«over» (rootOf 3) 2, piFraction 1 3),
    («over» (rootOf 2) 2, piFraction 1 4),
    (root («over» (sumOf [int 5, negationOf (rootOf 5)]) 8), piFraction 1 5),
    («over» (productOf [rootOf 2, root (sumOf [int 5, negationOf (rootOf 5)])]) 4, piFraction 1 5),
    (root («over» (sumOf [int 5, rootOf 5]) 8), piFraction 2 5),
    («over» (productOf [rootOf 2, root (sumOf [int 5, rootOf 5])]) 4, piFraction 2 5),
    (frac 1 2, piFraction 1 6),
    («over» (sumOf [rootOf 6, negationOf (rootOf 2)]) 4, piFraction 1 12),
    («over» (sumOf [rootOf 2, negationOf (rootOf 6)]) 4, piFraction (-1) 12),
    (productOf [sumOf [rootOf 3, int (-1)], reciprocal (rootOf 8)], piFraction 1 12),
    (productOf [sumOf [one, negationOf (rootOf 3)], reciprocal (rootOf 8)], piFraction (-1) 12),
    (root («over» (sumOf [int 3, negationOf (rootOf 5)]) 8), piFraction 1 10),
    («over» (sumOf [rootOf 5, int (-1)]) 4, piFraction 1 10),
    («over» (sumOf [one, negationOf (rootOf 5)]) 4, piFraction (-1) 10),
    (root («over» (sumOf [int 3, rootOf 5]) 8), piFraction 3 10),
    («over» (sumOf [one, rootOf 5]) 4, piFraction 3 10),
    («over» (root (sumOf [int 2, negationOf (rootOf 2)])) 2, piFraction 1 8),
    («over» (root (sumOf [int 2, rootOf 2])) 2, piFraction 3 8)]

/-- The values of the tangent at the simple fractions of `π`, with the angles: the inverse
tangent and cotangent read them off. -/
def tangentTable : List (Expr × Expr) :=
  [(«over» (rootOf 3) 3, piFraction 1 6),
    (rootOf 3, piFraction 1 3),
    (sumOf [rootOf 2, int (-1)], piFraction 1 8),
    (sumOf [one, negationOf (rootOf 2)], piFraction (-1) 8),
    (sumOf [one, rootOf 2], piFraction 3 8),
    (root (sumOf [int 5, productOf [int (-2), rootOf 5]]), piFraction 1 5),
    (root (sumOf [int 5, productOf [int 2, rootOf 5]]), piFraction 2 5),
    (root (sumOf [one, productOf [frac (-2) 5, rootOf 5]]), piFraction 1 10),
    (root (sumOf [one, productOf [frac 2 5, rootOf 5]]), piFraction 3 10),
    (sumOf [int 2, negationOf (rootOf 3)], piFraction 1 12),
    (sumOf [int (-2), rootOf 3], piFraction (-1) 12),
    (sumOf [int 2, rootOf 3], piFraction 5 12),
    (sumOf [int (-2), negationOf (rootOf 3)], piFraction (-5) 12)]

/-- The values of the cosecant at the simple fractions of `π`, with the angles: the inverse
cosecant and secant read them off. -/
def cosecantTable : List (Expr × Expr) :=
  [(«over» (productOf [int 2, rootOf 3]) 3, piFraction 1 3),
    (rootOf 2, piFraction 1 4),
    (root (sumOf [int 2, productOf [frac 2 5, rootOf 5]]), piFraction 1 5),
    (reciprocal (root (sumOf [frac 5 8, productOf [frac (-1) 8, rootOf 5]])), piFraction 1 5),
    (root (sumOf [int 2, productOf [frac (-2) 5, rootOf 5]]), piFraction 2 5),
    (reciprocal (root (sumOf [frac 5 8, productOf [frac 1 8, rootOf 5]])), piFraction 2 5),
    (int 2, piFraction 1 6),
    (root (sumOf [int 4, productOf [int 2, rootOf 2]]), piFraction 1 8),
    (productOf [int 2, reciprocal (root (sumOf [int 2, negationOf (rootOf 2)]))], piFraction 1 8),
    (root (sumOf [int 4, productOf [int (-2), rootOf 2]]), piFraction 3 8),
    (productOf [int 2, reciprocal (root (sumOf [int 2, rootOf 2]))], piFraction 3 8),
    (sumOf [one, rootOf 5], piFraction 1 10),
    (sumOf [rootOf 5, int (-1)], piFraction 3 10),
    (negationOf (sumOf [rootOf 5, int (-1)]), piFraction (-3) 10),
    (sumOf [rootOf 6, rootOf 2], piFraction 1 12),
    (sumOf [rootOf 6, negationOf (rootOf 2)], piFraction 5 12),
    (negationOf (sumOf [rootOf 6, negationOf (rootOf 2)]), piFraction (-5) 12)]

/-- The angle a table gives for a value without symbols. -/
def tableAngle? (table : List (Expr × Expr)) (a : Expr) : Option Expr :=
  if a.isNumber then (table.find? (·.1.same a)).map (·.2) else none

/-- Whether `a > b` is decided, from what is known of the difference. -/
def decideGt (a b : Expr) : Option Bool := (Expr.decideGe b a).map (!·)

/-- Whether an expression is a real number without symbols, which can be compared. -/
def comparable (a : Expr) : Bool := a.isNumber && a.facts.extReal == some true

/-- An angle `x` replaced by `g x` when `x > bound` is decided true; `none` when it cannot be
decided. -/
def foldAbove (x bound : Expr) (g : Expr → Expr) : Option Expr :=
  match decideGt x bound with
  | some true => some (g x)
  | some false => some x
  | none => none

/-- The angle in `[-π/2, π/2]` with the same sine as a real angle: taken modulo a full turn,
reflected past a half turn and past a quarter turn. -/
def sineRange (ang : Expr) : Option Expr := do
  let halfPi := piFraction 1 2
  let x := modulo ang (productOf [int 2, .const .pi])
  let x ← foldAbove x (.const .pi) fun y => sumOf [.const .pi, negationOf y]
  let x ← foldAbove x halfPi fun y => sumOf [.const .pi, negationOf y]
  match decideGt (negationOf halfPi) x with
  | some true => pure (sumOf [negationOf (.const .pi), negationOf x])
  | some false => pure x
  | none => none

/-- The angle in `[0, π]` with the same cosine as a real angle: taken modulo a full turn and
reflected past a half turn. -/
def cosineRange (ang : Expr) : Option Expr :=
  let x := modulo ang (productOf [int 2, .const .pi])
  foldAbove x (.const .pi) fun y => sumOf [productOf [int 2, .const .pi], negationOf y]

/-- The angle in `(-π/2, π/2]` with the same tangent as a real angle: taken modulo a half turn
and moved down by a half turn past a quarter turn. -/
def tangentRange (ang : Expr) : Option Expr :=
  let x := modulo ang (.const .pi)
  foldAbove x (piFraction 1 2) fun y => sumOf [y, negationOf (.const .pi)]

/-- An inverse circular function of a float, as the angle of a point built from the argument:
`point X U` gives the coordinates `(a, b)` of the point `(b, a)`, as whole numbers over
`U = 2^w`, from the magnitude `X` of the argument in the same units. `turn` takes the angle from
`π` for a negative argument (as for `acos` and `asec`), and `odd` gives it the sign of the
argument. The angle is found with sixty-four guard bits and rounded to the float's
precision. -/
def floatAngle (x : BigFloat) (prec : Nat) (point : Nat → Nat → Nat × Nat) (turn odd : Bool) :
    Expr :=
  let w := prec + 64 + (-x.exp).toNat
  let unit := 1 <<< w
  let (a, b) := point (BigFloat.toFixed x w).natAbs unit
  let ang := BigFloat.atanRatioFixed a b w
  let ang := if turn && x.neg then BigFloat.piFixed w - ang else ang
  let ang := if odd && x.neg then -ang else ang
  .num (.float (BigFloat.ofFixed .nearest ang w prec) prec)

/-- Whether a float lies in `[-1, 1]`. -/
def withinOne (x : BigFloat) : Bool := BigFloat.compareMagnitude x BigFloat.one != .gt

/-- The distance `√(U² - X²)` or `√(X² - U²)` between the square of a fixed-point magnitude and
of the unit, as a whole number over the unit. -/
def legOf (m u : Nat) : Nat := Nat.sqrt (if m ≤ u then u * u - m * m else m * m - u * u)

/-- The inverse sine. It is NaN at NaN, `∓∞·I` at `±∞`, the unsigned infinity there, zero at
zero, `±π/2` at `±1`, odd in its argument, read off `sineTable`, `I·asinh` of the coefficient at
a multiple of `I`, the angle folded into `[-π/2, π/2]` at the sine of a real angle, and
`π/2 - acos` at the cosine of one; a float in `[-1, 1]` evaluates. -/
def arcsine (ev : String → List Expr → Expr) (a : Expr) : Expr :=
  let stay := call "asin" [a]
  match a with
  | .num .nan => .num .nan
  | .num .posInf => productOf [.num .negInf, .imag]
  | .num .negInf => productOf [.num .posInf, .imag]
  | .num .complexInf => .num .complexInf
  | _ =>
    if a.isZeroNum then zero
    else if a.isInt 1 then piFraction 1 2
    else if a.isInt (-1) then piFraction (-1) 2
    else if a.couldExtractMinus then negationOf (ev "asin" [negationOf a])
    else match tableAngle? sineTable a with
      | some v => v
      | none =>
        match a with
        | .num (.float x prec) =>
          if withinOne x then floatAngle x prec (fun m u => (m, legOf m u)) false true else stay
        | _ =>
          match imagCoeff? a with
          | some k => productOf [.imag, ev "asinh" [k]]
          | none =>
            if a.facts.zero == some true then zero
            else match a with
              | .app f [ang] =>
                if f.undefined || !comparable ang then stay
                else if f.name == "sin" then (sineRange ang).getD stay
                else if f.name == "cos" then sumOf [piFraction 1 2, negationOf (ev "acos" [a])]
                else stay
              | _ => stay

/-- The inverse cosine. It is NaN at NaN, `±∞·I` at `±∞`, the unsigned infinity there, `π/2`
at zero, zero at one, `π` at minus one, `π/2` less the angle of `sineTable` at a value there (and
`π/2` plus it at the negative of one), `π/2 - asin` at a multiple of `I` and at the sine of a
real angle, and the angle folded into `[0, π]` at the cosine of a real angle; a float in
`[-1, 1]` evaluates. -/
def arccosine (ev : String → List Expr → Expr) (a : Expr) : Expr :=
  let stay := call "acos" [a]
  let halfPi := piFraction 1 2
  match a with
  | .num .nan => .num .nan
  | .num .posInf => productOf [.num .posInf, .imag]
  | .num .negInf => productOf [.num .negInf, .imag]
  | .num .complexInf => .num .complexInf
  | _ =>
    if a.isZeroNum then halfPi
    else if a.isInt 1 then zero
    else if a.isInt (-1) then .const .pi
    else match tableAngle? sineTable a, tableAngle? sineTable (negationOf a) with
      | some v, _ => sumOf [halfPi, negationOf v]
      | none, some v => sumOf [halfPi, v]
      | none, none =>
        match a with
        | .num (.float x prec) =>
          if withinOne x then floatAngle x prec (fun m u => (legOf m u, m)) true false else stay
        | _ =>
          match imagCoeff? a with
          | some _ => sumOf [halfPi, negationOf (ev "asin" [a])]
          | none =>
            match a with
            | .app f [ang] =>
              if f.undefined || !comparable ang then stay
              else if f.name == "cos" then (cosineRange ang).getD stay
              else if f.name == "sin" then sumOf [halfPi, negationOf (ev "asin" [a])]
              else stay
            | _ => stay

/-- The inverse tangent. It is NaN at NaN, `±π/2` at `±∞`, the interval `[-π/2, π/2]` at the
unsigned infinity, zero at zero, `±π/4` at `±1`, odd in its argument, read off
`tangentTable`, `I·atanh` of the coefficient at a multiple of `I`, the angle folded into
`(-π/2, π/2]` at the tangent of a real angle, and `π/2 - acot` so folded at the cotangent of
one; a float evaluates. -/
def arctangent (ev : String → List Expr → Expr) (a : Expr) : Expr :=
  let stay := call "atan" [a]
  let halfPi := piFraction 1 2
  match a with
  | .num .nan => .num .nan
  | .num .posInf => halfPi
  | .num .negInf => negationOf halfPi
  | .num .complexInf => call "AccumBounds" [negationOf halfPi, halfPi]
  | _ =>
    if a.isZeroNum then zero
    else if a.isInt 1 then piFraction 1 4
    else if a.isInt (-1) then piFraction (-1) 4
    else if a.couldExtractMinus then negationOf (ev "atan" [negationOf a])
    else match tableAngle? tangentTable a with
      | some v => v
      | none =>
        match a with
        | .num (.float x prec) => floatAngle x prec (fun m u => (m, u)) false true
        | _ =>
          match imagCoeff? a with
          | some k => productOf [.imag, ev "atanh" [k]]
          | none =>
            if a.facts.zero == some true then zero
            else match a with
              | .app f [ang] =>
                if f.undefined || !comparable ang then stay
                else if f.name == "tan" then (tangentRange ang).getD stay
                else if f.name == "cot" then
                  let x := sumOf [halfPi, negationOf (ev "acot" [a])]
                  (foldAbove x halfPi fun y => sumOf [y, negationOf (.const .pi)]).getD stay
                else stay
              | _ => stay

/-- The inverse cotangent. It is NaN at NaN, zero at the infinities, `π/2` at zero, `±π/4` at
`±1`, odd in its argument, `π/2` less the angle of `tangentTable` (moved into `(-π/2, π/2]`),
`-I·acoth` of the coefficient at a multiple of `I`, the angle folded into `(-π/2, π/2]` at the
cotangent of a real angle, and `π/2 - atan` so folded at the tangent of one; a float
evaluates. -/
def arccotangent (ev : String → List Expr → Expr) (a : Expr) : Expr :=
  let stay := call "acot" [a]
  let halfPi := piFraction 1 2
  let fold := fun (x : Expr) => foldAbove x halfPi fun y => sumOf [y, negationOf (.const .pi)]
  match a with
  | .num .nan => .num .nan
  | .num .posInf | .num .negInf | .num .complexInf => zero
  | _ =>
    if a.isZeroNum then halfPi
    else if a.isInt 1 then piFraction 1 4
    else if a.isInt (-1) then piFraction (-1) 4
    else if a.couldExtractMinus then negationOf (ev "acot" [negationOf a])
    else match tableAngle? tangentTable a with
      | some v => (fold (sumOf [halfPi, negationOf v])).getD stay
      | none =>
        match a with
        | .num (.float x prec) => floatAngle x prec (fun m u => (u, m)) false true
        | _ =>
          match imagCoeff? a with
          | some k => productOf [int (-1), .imag, ev "acoth" [k]]
          | none =>
            if a.facts.zero == some true then halfPi
            else match a with
              | .app f [ang] =>
                if f.undefined || !comparable ang then stay
                else if f.name == "cot" then (tangentRange ang).getD stay
                else if f.name == "tan" then
                  (fold (sumOf [halfPi, negationOf (ev "atan" [a])])).getD stay
                else stay
              | _ => stay

/-- The inverse secant. It is the unsigned infinity at zero, NaN at NaN, zero at one, `π` at
minus one, `π/2` at the infinities, `π/2` less the angle of `cosecantTable` at a value there
(plus it at the negative of one), the angle folded into `[0, π]` at the secant of a real angle,
and `π/2 - acsc` at the cosecant of one; a float outside `(-1, 1)` evaluates. -/
def arcsecant (ev : String → List Expr → Expr) (a : Expr) : Expr :=
  let stay := call "asec" [a]
  let halfPi := piFraction 1 2
  if a.isZeroNum || a.facts.zero == some true then .num .complexInf
  else match a with
    | .num .nan => .num .nan
    | .num .posInf | .num .negInf | .num .complexInf => halfPi
    | _ =>
      if a.isInt 1 then zero
      else if a.isInt (-1) then .const .pi
      else match tableAngle? cosecantTable a, tableAngle? cosecantTable (negationOf a) with
        | some v, _ => sumOf [halfPi, negationOf v]
        | none, some v => sumOf [halfPi, v]
        | none, none =>
          if a.facts.finite == some false then halfPi
          else match a with
            | .num (.float x prec) =>
              if withinOne x then stay
              else floatAngle x prec (fun m u => (legOf m u, u)) true false
            | .app f [ang] =>
              if f.undefined || !comparable ang then stay
              else if f.name == "sec" then (cosineRange ang).getD stay
              else if f.name == "csc" then sumOf [halfPi, negationOf (ev "acsc" [a])]
              else stay
            | _ => stay

/-- The inverse cosecant. It is the unsigned infinity at zero, NaN at NaN, `±π/2` at `±1`, zero
at the infinities, odd in its argument, read off `cosecantTable`, the angle folded into
`[-π/2, π/2]` at the cosecant of a real angle, and `π/2 - asec` at the secant of one; a float
outside `(-1, 1)` evaluates. -/
def arccosecant (ev : String → List Expr → Expr) (a : Expr) : Expr :=
  let stay := call "acsc" [a]
  let halfPi := piFraction 1 2
  if a.isZeroNum || a.facts.zero == some true then .num .complexInf
  else match a with
    | .num .nan => .num .nan
    | .num .posInf | .num .negInf | .num .complexInf => zero
    | _ =>
      if a.isInt 1 then halfPi
      else if a.isInt (-1) then negationOf halfPi
      else if a.couldExtractMinus then negationOf (ev "acsc" [negationOf a])
      else if a.facts.finite == some false then zero
      else match tableAngle? cosecantTable a with
        | some v => v
        | none =>
          match a with
          | .num (.float x prec) =>
            if withinOne x then stay else floatAngle x prec (fun m u => (u, legOf m u)) false true
          | .app f [ang] =>
            if f.undefined || !comparable ang then stay
            else if f.name == "csc" then (sineRange ang).getD stay
            else if f.name == "sec" then sumOf [halfPi, negationOf (ev "asec" [a])]
            else stay
          | _ => stay

/-- The inverse tangent of the point `(x, y)`: `π` or `2π·θ(re y) - π` at `x = -∞`, zero at
`x = ∞`, for real coordinates `atan (y/x)` moved by a half turn when `x < 0`, `±π/2` on the
vertical axis and NaN at the origin, `π·(1 - θ(x))` on the horizontal axis, and for other numbers
`-I·log ((x + I·y)/√(x² + y²))`. -/
def arctangent2 (ev : String → List Expr → Expr) (y x : Expr) : Expr :=
  let stay := call "atan2" [y, x]
  let f := fun (e : Expr) => e.facts
  let atanQ := fun (y x : Expr) => ev "atan" [productOf [y, reciprocal x]]
  match x with
  | .num .negInf =>
    if (f y).zero == some true then .const .pi
    else sumOf [productOf [int 2, .const .pi, ev "Heaviside" [realPart y]], negationOf (.const .pi)]
  | .num .posInf => zero
  | _ =>
    let (y, x) :=
      if (f x).imaginary == some true && (f y).imaginary == some true && x.isNumber && y.isNumber
      then (imagPart y, imagPart x) else (y, x)
    let real : Option Expr :=
      if (f x).extReal == some true && (f y).extReal == some true then
        if (f x).positive == some true then some (atanQ y x)
        else if (f x).negative == some true then
          if (f y).negative == some true then some (sumOf [atanQ y x, negationOf (.const .pi)])
          else if (f y).nonnegative == some true then some (sumOf [atanQ y x, .const .pi])
          else none
        else if (f x).zero == some true then
          if (f y).positive == some true then some (piFraction 1 2)
          else if (f y).negative == some true then some (piFraction (-1) 2)
          else if (f y).zero == some true then some (.num .nan)
          else none
        else none
      else none
    match real with
    | some v => v
    | none =>
      if (f y).zero == some true && (f x).nonzero == some true then
        productOf [.const .pi, oneLess (ev "Heaviside" [x])]
      else if (f y).zero == some true then stay
      else if x.isNumber && y.isNumber then
        productOf [int (-1), .imag, ev "log" [productOf [sumOf [x, productOf [.imag, y]],
          reciprocal (root (sumOf [square x, square y]))]]]
      else stay

end Fn

end ExprTree.Symbolic
