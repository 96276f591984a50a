import ExprTree.Symbolic.Canonical
/-!
  The written form of symbolic expressions.

  Terms of a sum are joined by ` + ` and ` - ` in printing order. A product is written as its
  numerator factors joined by `*`, over its denominator: the powers with a negative exponent
  (inverted) and the denominator of a fraction coefficient; a negative coefficient becomes a
  leading `-`. A power is `b**e`, or `sqrt(b)`, `1/sqrt(b)` and `1/b` for the exponents `1/2`,
  `-1/2` and `-1`. An application is the function's name with its arguments in parentheses,
  separated by commas; the logical operations are written with `|`, `&`, `^` and a leading
`~`. A part is put in parentheses when its precedence is at most that of the place
  it stands in: sums 40, products 50 (40 with a negative coefficient), powers 60, applications
  of functions 70, atoms 1000, and of the logical operations 10 (exclusive or and implication),
  20 (or), 30 (and) and 100 (not), which join their arguments at levels 36, 38, 37 and 100;
  a negative number counts as a sum, and a positive fraction as a product.

  A float at the top shows all the digits its precision carries; inside a larger expression its
  trailing zeros are dropped.
-/

namespace ExprTree.Symbolic

namespace Expr

/-- The precedence of an expression for parenthesizing. -/
def precedence : Expr → Nat
  | .num (.int k) => if k < 0 then 40 else 1000
  | .num (.rat p _) => if p < 0 then 40 else 50
  | .num (.float x _) => if x.neg then 40 else 1000
  | .num .negInf => 40
  | .num _ => 1000
  | .imag | .const _ | .sym _ => 1000
  | .app f _ =>
    if f.group == 5 then
      match f.name with
      | "Or" => 20
      | "And" => 30
      | "Not" => 100
      | "Xor" | "Implies" | "Equivalent" => 10
      | _ => 70
    else 70
  | .add _ => 40
  | e@(.mul _) => if e.couldExtractMinus then 40 else 50
  | .pow .. => 60

/-- Writes `item` with `sub`, in parentheses when its precedence is at most `level`. -/
def parenthesize (sub : Expr → String) (item : Expr) (level : Nat) : String :=
  if item.precedence ≤ level then "(" ++ sub item ++ ")" else sub item

/-- The coefficient of an exponent, as far as printing looks at it. -/
def expCoeff (e : Expr) : Num := e.coeffMul.1

/-- Whether a power has a negative exponent coefficient and so belongs in a denominator. -/
def inDenominator : Expr → Bool
  | .pow _ x => (expCoeff x).isNegative
  | _ => false

/-- A power with the sign of its exponent's coefficient flipped, without evaluation. -/
def flipExponent : Expr → Expr
  | .pow b x =>
    let (b, x) := (Expr.pow b x).baseExp
    let x' := match x with
      | .num n => Expr.num n.neg
      | .mul (.num (.int (-1)) :: rest) => mulRaw rest
      | .mul (a0 :: rest) => mulRaw (negRaw a0 :: rest)
      | e => negRaw e
    .pow b x'
  | e => e

/-- Writes a sum with `sub` for its terms. -/
def renderAdd (sub : Expr → String) (e : Expr) : String :=
  let terms := orderedTerms 100 e
  let parts := terms.foldl (fun (acc : List String) (term : Expr) =>
    let t := sub term
    let isAdd := match term with | .add _ => true | _ => false
    let (sign, t) := if t.startsWith "-" ∧ !isAdd then ("-", (t.drop 1).toString) else ("+", t)
    if term.precedence < 40 ∨ isAdd then acc ++ [sign, "(" ++ t ++ ")"] else acc ++ [sign, t]) []
  match parts with
  | [] => ""
  | sign :: rest => (if sign = "+" then "" else sign) ++ " ".intercalate rest

/-- Writes a product that keeps its factors as given, as an unevaluated product shows. -/
def renderPlainMul (sub : Expr → String) (args : List Expr) (prec : Nat) : String :=
  let d := args.filter inDenominator
  let n := args.filter (fun a => !inDenominator a)
  let d := d.map fun di =>
    match flipExponent di with
    | .pow b x => if x.isInt 1 then b else .pow b x
    | x => x
  let (pre, n) := match n with
    | n0 :: rest =>
      let isAdd := match n0 with | .add _ => true | _ => false
      if !isAdd ∧ n0.couldExtractMinus then ([sub n0], rest) else ([], n)
    | [] => ([], [])
  let nfactors := pre ++ n.map (fun a => parenthesize sub a prec)
  let nfactors := if nfactors.isEmpty then ["1"] else nfactors
  let (pre, d) := match d with
    | d0 :: rest => if rest.length > 0 ∧ d0.couldExtractMinus then ([sub d0], rest) else ([], d)
    | [] => ([], [])
  let dfactors := pre ++ d.map (fun a => parenthesize sub a prec)
  let nt := "*".intercalate nfactors
  let dt := "*".intercalate dfactors
  if dfactors.length > 1 then nt ++ "/(" ++ dt ++ ")"
  else if dfactors.length = 1 then nt ++ "/" ++ dt
  else nt

/-- Writes a product with `sub` for its factors. -/
def renderMul (sub : Expr → String) (e : Expr) : String :=
  let prec := e.precedence
  let args := e.mulArgs
  let plain := match args with
    | a0 :: rest => a0.isInt 1 || rest.any fun a =>
        a.isPlainNum || (match a with
          | .pow (.num (.int _)) (.num (.int _)) => true
          | _ => false)
    | [] => false
  if plain then renderPlainMul sub args prec
  else
    let (c, rest) := e.coeffMul
    let (expr, sign) :=
      if c.isNegative then ((canon canonDepth).keepCoeff c.neg rest, "-") else (e, "")
    let factors := match expr with
      | .mul _ => orderedFactors 100 expr
      | _ => [expr]
    let (a, b, parenBases) := factors.foldl
      (fun (acc : List Expr × List Expr × List Expr) (item : Expr) =>
        let (a, b, pp) := acc
        match item with
        | .pow base x =>
          if (expCoeff x).isNegative then
            if x.isInt (-1) then
              let paren := match base with | .mul _ | .pow .. => true | _ => false
              (a, b ++ [base], if paren then pp ++ [base] else pp)
            else (a, b ++ [flipExponent item], pp)
          else (a ++ [item], b, pp)
        | .num (.rat p q) => (a ++ (if p ≠ 1 then [int p] else []), b ++ [int q], pp)
        | .num (.int p) => (a ++ (if p ≠ 1 then [int p] else []), b, pp)
        | _ => (a ++ [item], b, pp)) ([], [], [])
    let a := if a.isEmpty then [one] else a
    let aStr := match a with
      | [a0] => if sign = "-" then [parenthesize sub a0 55] else [parenthesize sub a0 prec]
      | _ => a.map fun x => parenthesize sub x prec
    let bStr := b.map fun x =>
      let s := parenthesize sub x prec
      if parenBases.any (·.same x) then "(" ++ s ++ ")" else s
    match bStr with
    | [] => sign ++ "*".intercalate aStr
    | [b0] => sign ++ "*".intercalate aStr ++ "/" ++ b0
    | _ => sign ++ "*".intercalate aStr ++ "/(" ++ "*".intercalate bStr ++ ")"

/-- Writes a power with `sub` for its base and exponent. -/
def renderPow (sub : Expr → String) (b x : Expr) : String :=
  match x with
  | .num (.rat 1 2) => "sqrt(" ++ sub b ++ ")"
  | .num (.rat (-1) 2) => "1/sqrt(" ++ sub b ++ ")"
  | .num (.int (-1)) => "1/" ++ parenthesize sub b 60
  | _ => parenthesize sub b 60 ++ "**" ++ parenthesize sub x 60

/-- Writes an expression; `top` tells whether it stands alone rather than inside another, and
`fuel` bounds the depth. -/
def render : Nat → Bool → Expr → String
  | 0, _, _ => "..."
  | f + 1, top, e =>
    match e with
    | .num n => n.text !top
    | .imag => "I"
    | .const c => c.name
    | .sym s => s
    | .app fn xs =>
      let sub := render f false
      let joined := fun (sep : String) (level : Nat) => sep.intercalate (xs.map (parenthesize sub · level))
      if fn.group == 5 && fn.name == "Or" then joined " | " 36
      else if fn.group == 5 && fn.name == "And" then joined " & " 38
      else if fn.group == 5 && fn.name == "Xor" then joined " ^ " 37
      else if fn.group == 5 && fn.name == "Not" then "~" ++ joined "" 100
      else fn.name ++ "(" ++ ", ".intercalate (xs.map sub) ++ ")"
    | .add _ => renderAdd (render f false) e
    | .mul _ => renderMul (render f false) e
    | .pow b x => renderPow (render f false) b x

/-- The written form of an expression. -/
def text (e : Expr) : String := render 400 true e

/-- The written form of an expression inside another object, where floats drop their trailing
zeros. -/
def innerText (e : Expr) : String := render 400 false e

/-- Whether some exact number in the expression has a numerator or denominator of more than
`digits` decimal digits, that is of at least `10 ^ digits`. -/
def exceedsDigits (digits : Nat) : Expr → Bool
  | .num (.int n) => n.natAbs ≥ 10 ^ digits
  | .num (.rat p q) => p.natAbs ≥ 10 ^ digits || q ≥ 10 ^ digits
  | .add xs => listExceeds xs
  | .mul xs => listExceeds xs
  | .pow b e => exceedsDigits digits b || exceedsDigits digits e
  | .app _ xs => listExceeds xs
  | _ => false
where
  listExceeds : List Expr → Bool
    | [] => false
    | x :: xs => exceedsDigits digits x || listExceeds xs

end Expr

end ExprTree.Symbolic
