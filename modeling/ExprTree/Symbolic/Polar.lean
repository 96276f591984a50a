import ExprTree.Symbolic.Special
/-!
  Values on the Riemann surface of the logarithm: the lift `polar_lift` of a complex number to
  it, the argument `periodic_argument(z, P)` reduced to a period `P` (unreduced for an infinite
  period, which `unbranched_argument` is), and the branch `principal_branch(z, P)` of a polar
  number for a period `P`.

  A polar number is written `r · exp_polar(I θ)`, where `exp_polar` keeps its argument as it
  is. The lift of a number whose argument is a multiple of a quarter turn, and of a product
  with a positive factor, is taken; the argument of a product is the sum of the arguments of
  its factors; and the principal branch of a number is its polar form with the argument reduced
  to the period. Elsewhere each stays as it is.
-/

namespace ExprTree.Symbolic

namespace Fn

open ExprTree.Symbolic.Expr

/-- Whether an expression applies one of the library functions `names`. -/
def mentionsAny (names : List String) : Expr → Bool
  | .app f xs => (names.contains f.name && !f.undefined) || xs.attach.any fun ⟨x, _⟩ => mentionsAny names x
  | .add xs => xs.attach.any fun ⟨x, _⟩ => mentionsAny names x
  | .mul xs => xs.attach.any fun ⟨x, _⟩ => mentionsAny names x
  | .pow b e => mentionsAny names b || mentionsAny names e
  | _ => false

/-- Whether an expression is a polar number: an application of `exp_polar`, `polar_lift` or
`principal_branch`, a power of one, or a product of polar numbers and positive factors with at
least one polar number. -/
def isPolar : Expr → Bool
  | .app f _ => !f.undefined && ["exp_polar", "polar_lift", "principal_branch"].contains f.name
  | .pow b _ => isPolar b
  | .mul xs =>
    (xs.attach.any fun ⟨x, _⟩ => isPolar x) &&
      xs.attach.all fun ⟨x, _⟩ => isPolar x || x.facts.finitePositive == some true
  | _ => false

/-- The polar number `exp_polar(I θ)`. -/
def polarTurn (theta : Expr) : Expr := call "exp_polar" [productOf [.imag, theta]]

/-- The lift of a complex number to the Riemann surface of the logarithm: `|x| exp_polar(I θ)`
for a number whose argument `θ` is `0`, `±π/2` or `π`; for a product, the polar and positive
factors come out, with `exp_polar(0)` when only positive ones do; otherwise it stays. -/
def polarLift (ev : String → List Expr → Expr) (x : Expr) : Expr :=
  let stay := call "polar_lift" [x]
  let pi := Expr.const .pi
  let quarter := [zero, productOf [frac 1 2, pi], productOf [frac (-1) 2, pi], pi]
  let angle := if x.isNumber && !x.hasSymbol then some (ev "arg" [x]) else none
  match angle.filter (fun a => quarter.any (·.same a)) with
  | some a => productOf [polarTurn a, ev "Abs" [x]]
  | none =>
    let args := match x with
      | .mul xs => xs
      | _ => [x]
    let included := args.filter isPolar
    let positive := args.filter fun a => !isPolar a && a.facts.finitePositive == some true
    let excluded := args.filter fun a => !isPolar a && a.facts.finitePositive != some true
    if excluded.length < args.length then
      if !excluded.isEmpty then
        productOf (included ++ positive ++ [ev "polar_lift" [productOf excluded]])
      else if !included.isEmpty then productOf (included ++ positive)
      else productOf (positive ++ [call "exp_polar" [zero]])
    else stay

/-- The argument of a product on the Riemann surface, factor by factor: the argument of a
factor that is not polar, the imaginary part of the exponent of `exp_polar`, and for a power
`b^e` with polar base `re e · arg b + im e · log |b|`. Another polar factor leaves it
unknown. -/
def unbranchedSum (ev : String → List Expr → Expr) (ar : Expr) : Option Expr :=
  let args := match ar with
    | .mul xs => xs
    | _ => [ar]
  let parts := args.map fun a =>
    if !isPolar a then some (ev "arg" [a])
    else match a with
      | .app f [w] =>
        if f.name == "exp_polar" then some (imagPart w)
        else if f.name == "polar_lift" then some (ev "arg" [w])
        else none
      | .pow b e =>
        some (sumOf [productOf [realPart e, ev "periodic_argument" [b, .num .posInf]],
          productOf [imagPart e, ev "log" [ev "Abs" [b]]]])
      | _ => none
  (parts.mapM id).map sumOf

/-- The argument of `ar` reduced to the period `P` by `θ - P ⌈θ/P - 1/2⌉`, or unreduced for
an infinite period: it stays for a period not known positive, passes through `polar_lift` for
`P ≥ 2π` and through `principal_branch` for an infinite period, drops positive factors of a
product, and stays when the argument is not known in closed form. -/
def periodicArgument (ev : String → List Expr → Expr) (ar period : Expr) : Expr :=
  let stay := call "periodic_argument" [ar, period]
  let infinite := period.same (.num .posInf)
  if period.facts.positive != some true then stay
  else if infinite && ar.isAppOf "principal_branch" then
    ev "periodic_argument" ((ar.appOf? "principal_branch").getD [])
  else
    match ar.appOf? "polar_lift", Expr.decideGe period (productOf [int 2, .const .pi]) with
    | some [w], some true => ev "periodic_argument" [w, period]
    | _, _ =>
      let dropped := match ar with
        | .mul xs =>
          let kept := xs.filter fun x => x.facts.finitePositive != some true
          if kept.length != xs.length then some (productOf kept) else none
        | _ => none
      match dropped with
      | some rest => ev "periodic_argument" [rest, period]
      | none =>
        match unbranchedSum ev ar with
        | none => stay
        | some u =>
          if mentionsAny ["periodic_argument", "atan2", "atan"] u then stay
          else if infinite then u
          else
            let turns := ev "ceiling" [sumOf [productOf [u, powerOf period (int (-1))], frac (-1) 2]]
            if mentionsAny ["ceiling"] turns then stay
            else sumOf [u, negationOf (productOf [turns, period])]

/-- The principal branch of a polar number for the period `P`: through `polar_lift`, the number
itself for an infinite period, `|c| exp_polar(I θ)` for a number `c` whose reduced argument `θ`
lies in `(-P/2, P/2]`, and with a positive number `c` taken out of a product `c · m`. -/
def principalBranch (ev : String → List Expr → Expr) (x period : Expr) : Expr :=
  let stay := call "principal_branch" [x, period]
  match x.appOf? "polar_lift" with
  | some [w] => ev "principal_branch" [w, period]
  | _ =>
    if period.same (.num .posInf) then x
    else
      let ub := ev "periodic_argument" [x, .num .posInf]
      let barg := ev "periodic_argument" [x, period]
      if !ub.same barg && !mentionsAny ["periodic_argument"] ub &&
          !mentionsAny ["periodic_argument"] barg then stay
      else
        let factors := match x with
          | .mul xs => xs
          | _ => [x]
        let (cs, ms) := if x.hasSymbol then factors.partition (fun f => !f.hasSymbol)
          else (factors, [])
        let (pos, others) := ms.partition fun y => y.facts.finitePositive == some true
        let c := productOf (cs ++ pos)
        let angle := ev "periodic_argument" [c, period]
        if mentionsAny ["periodic_argument"] angle then stay
        else
          let isNum := angle.isNumber && !angle.hasSymbol
          let unbranched := ev "periodic_argument" [c, .num .posInf]
          let half := productOf [frac 1 2, period]
          if isNum && (!unbranched.same angle ||
              (angle.isZeroNum && !others.isEmpty && !c.isInt 1)) then
            if angle.isZeroNum then
              productOf [ev "Abs" [c], ev "principal_branch" [productOf others, period]]
            else
              productOf [ev "principal_branch" [productOf (polarTurn angle :: others), period],
                ev "Abs" [c]]
          else if isNum && others.isEmpty &&
              (Expr.decideGe (ev "Abs" [angle]) half == some false || angle.same half) then
            productOf [polarTurn angle, ev "Abs" [c]]
          else stay

end Fn

end ExprTree.Symbolic
