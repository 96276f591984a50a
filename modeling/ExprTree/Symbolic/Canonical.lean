import ExprTree.Symbolic.Order
import ExprTree.Symbolic.Arith
/-!
  Canonical sums, products, powers and negations.

  The four constructors are gathered in a `Canon`. `Canon.step c` builds each of them one level
  deep: it applies the rules of its own construction and calls `c` for every piece it builds
  along the way. `canon n` iterates the step `n` times from the constructors that build without
  evaluating, so every rule is an ordinary total function and the fuel `n` bounds the nesting.

  A sum collects its numbers into one coefficient and equal terms into one term with the sum of
  their coefficients, then lists the terms in key order after the coefficient. A product
  collects numbers, gathers powers of equal bases, combines roots of exact numbers and the powers
  of minus one, and distributes a finite coefficient over a single sum. A power evaluates what
  can be evaluated for its base: exact powers and roots of whole numbers and fractions, float
  powers, the powers of zero, one, minus one, the imaginary unit and the infinities, powers of
  powers, and powers of products. What does not evaluate stays a power.
-/

-- The core instances for powers, products and sums of numbers, also where Mathlib's are
-- in scope, so that the definitions below are the same terms in every build.
attribute [local instance (high)] instPowNat Zero.ofOfNat0

namespace ExprTree.Symbolic

namespace Num

/-- Whether `a < b` as values. -/
def lt (a b : Num) : Bool := a.compareValue b == .lt

/-- Whether `a ≤ b` as values. -/
def le (a b : Num) : Bool := a.compareValue b != .gt

/-- The number of bits above which an exact power is left unevaluated. -/
def powerBitLimit : Nat := 2 ^ (24 : Nat)

/-- Whether the exact power `b ^ e` would have more than about `powerBitLimit` bits: the base
is a number other than zero, one and minus one, and the exponent is large. -/
def powerTooLarge (b e : Num) : Bool :=
  match b.fraction?, e.fraction? with
  | some (p, q), some (r, s) =>
    (p.natAbs > 1 || q > 1) &&
      (BigFloat.bitLength p.natAbs - 1 + (BigFloat.bitLength q - 1)) * r.natAbs / s >
        powerBitLimit
  | _, _ => false

/-- The whole power of an exact number, exactly; a negative power of zero is the unsigned
infinity. A power beyond `powerBitLimit` bits is NaN. -/
def ratPow (p : Int) (q : Nat) (k : Int) : Num :=
  if q = 1 ∧ p.natAbs ≤ 1 then
    if p = 0 then (if k < 0 then .complexInf else if k = 0 then .int 1 else .int 0)
    else .int (if p = -1 ∧ k % 2 ≠ 0 then -1 else 1)
  else if powerTooLarge (ofFraction p q) (.int k) then .nan
  else if k ≥ 0 then ofFraction (p ^ k.toNat) ((q : Int) ^ k.toNat)
  else ofFraction ((q : Int) ^ k.natAbs) (p ^ k.natAbs)

/-- The whole power of an exact number; NaN for other numbers. -/
def powWhole (b : Num) (k : Int) : Num :=
  match b.fraction? with
  | some (p, q) => ratPow p q k
  | none => .nan

/-- The greatest common divisor of two exact numbers: of the numerators over the least common
multiple of the denominators. -/
def ratGcd (a b : Num) : Num :=
  match a.fraction?, b.fraction? with
  | some (p, q), some (r, s) =>
    if r = 0 then b else ofFraction (Nat.gcd p.natAbs r.natAbs) (Nat.lcm q s)
  | _, _ => .int 1

end Num

namespace Expr

/-- Whether the expression could have a minus sign taken out: a negative number, or a product
whose leading number is negative. -/
def couldExtractMinus : Expr → Bool
  | .num n => n.isNegative
  | .mul (.num c :: _) => c != .complexInf && c.isNegative
  | _ => false

/-- Whether the expression is NaN. -/
def isNaN : Expr → Bool
  | .num .nan => true
  | _ => false

/-- Whether the expression is positive or negative infinity or the unsigned infinity. -/
def isInfiniteNum : Expr → Bool
  | .num .posInf | .num .negInf | .num .complexInf => true
  | _ => false

/-- Whether the expression is known to be zero. -/
def isZeroKnown (e : Expr) : Bool := e.isZeroNum || e.facts.zero == some true

/-- The product of an exponent by a number or expression, as numbers multiply when both are
numbers. -/
def numProduct (mul : List Expr → Expr) (a b : Expr) : Expr :=
  match a, b with
  | .num x, .num y => .num (x.mul y)
  | _, _ => mul [a, b]

/-- A number times an expression: a number when the expression is a number, otherwise the
product built by `mul`. -/
def scale (mul : List Expr → Expr) (k : Num) (t : Expr) : Expr :=
  match t with
  | .num n => .num (k.mul n)
  | _ => mul [.num k, t]

end Expr

/-- The constructors of canonical expressions. -/
structure Canon where
  add : List Expr → Expr
  mul : List Expr → Expr
  pow : Expr → Expr → Expr
  neg : Expr → Expr

namespace Canon

open ExprTree.Symbolic.Expr

/-- The constructors that build without evaluating. -/
def raw : Canon := ⟨addRaw, mulRaw, .pow, negRaw⟩

/-! ### Negation and coefficients -/

/-- The negation: numbers negate (a float zero stays as it is), a sum negates each term, and a
product negates its coefficient. -/
def negate (c : Canon) : Expr → Expr
  | .num (.float x p) => if x.isZero then .num (.float x p) else .num (Num.neg (.float x p))
  | .num n => .num n.neg
  | .add xs => c.add (xs.map c.neg)
  | e => negRaw e

/-- A coefficient times an expression, keeping the coefficient in front: a sum is not
distributed over, and a product takes the coefficient into its own. -/
def keepCoeff (c : Canon) (k : Num) (t : Expr) : Expr :=
  if t.isInt 1 then .num k
  else if k == .int 1 then t
  else if k == .int (-1) then c.neg t
  else match t with
    | .add _ => .mul [.num k, t]
    | .mul (.num m :: rest) =>
      if m == .complexInf then .mul (.num k :: .num m :: rest)
      else
        let m' := m.mul k
        if m' == .int 1 then mulRaw rest else mulRaw (.num m' :: rest)
    | .mul xs => mulRaw (.num k :: xs)
    | .num n => .num (k.mul n)
    | _ =>
      match c.mul [.num k, t] with
      | .num _ => .mul [.num k, t]
      | m => m

/-! ### Sums -/

/-- The terms of a sum collected so far: the numeric coefficient, each other term with its
coefficient in order of first appearance, and whether the sum is already NaN. -/
structure SumState where
  coeff : Num := .int 0
  terms : List (Expr × Num) := []
  nan : Bool := false

/-- Adds one term that is not a sum. -/
def SumState.push (st : SumState) (o : Expr) : SumState :=
  if st.nan then st
  else match o with
    | .num .complexInf =>
      if !st.coeff.isFinite then { st with nan := true } else { st with coeff := .complexInf }
    | .num n =>
      if n == .nan ∨ (st.coeff == .complexInf ∧ !n.isFinite) then { st with nan := true }
      else if st.coeff == .complexInf then st
      else
        let k := st.coeff.add n
        if k == .nan then { st with nan := true } else { st with coeff := k }
    | _ =>
      let (k, s) := match o with
        | .mul _ => o.coeffMul
        | _ => (.int 1, o)
      match st.terms.find? (fun t => t.1.sameKey s) with
      | some (_, k0) =>
        let k' := k0.add k
        if k' == .nan then { st with nan := true }
        else { st with terms := st.terms.map fun t => if t.1.sameKey s then (t.1, k') else t }
      | none => { st with terms := st.terms ++ [(s, k)] }

/-- Collects a work list of terms; a sum's terms join the end of the list. -/
def SumState.run : Nat → List Expr → SumState → SumState
  | 0, _, st => st
  | _, [], st => st
  | g + 1, o :: rest, st =>
    match o with
    | .add xs => SumState.run g (rest ++ xs) st
    | _ => SumState.run g rest (st.push o)

/-- The work bound for collecting a list: every step consumes a node. -/
def workBound (xs : List Expr) : Nat := (xs.map Expr.size).sum + xs.length + 1

/-- The canonical sum of terms with more than one term after dropping zeros. -/
def collectSum (c : Canon) (xs : List Expr) : Expr :=
  let st := SumState.run (workBound xs) xs {}
  if st.nan then .num .nan
  else
    let newseq := st.terms.filterMap fun (s, k) =>
      if k.isZero then none
      else if k == .int 1 then some s
      else match s with
        | .mul args => some (.mul (.num k :: args))
        | .add _ => some (.mul [.num k, s])
        | _ => some (c.mul [.num k, s])
    let newseq := match st.coeff with
      | .posInf => newseq.filter fun t =>
          !(t.facts.nonnegative == some true || t.facts.real == some true)
      | .negInf => newseq.filter fun t =>
          !(t.facts.nonpositive == some true || t.facts.real == some true)
      | .complexInf => newseq.filter fun t =>
          !(t.facts.finite == some true && t.facts.extReal.isSome)
      | _ => newseq
    let sorted := sortByKey (sortKey 100) newseq
    addRaw (if st.coeff == .int 0 then sorted else .num st.coeff :: sorted)

/-- The canonical sum. Zeros are dropped; an exact number and a product stay as they are. -/
def sum (c : Canon) (xs : List Expr) : Expr :=
  match xs.filter (fun x => !x.isInt 0) with
  | [] => zero
  | [x] => x
  | [a, b] =>
    let (a, b) := if b.isRational then (b, a) else (a, b)
    match b with
    | .mul _ => if a.isRational then .add [a, b] else c.collectSum [a, b]
    | _ => c.collectSum [a, b]
  | ys => c.collectSum ys

/-! ### Products -/

/-- The factors of a product collected so far: the coefficient, powers with other bases, powers
of positive numbers with other exponents, the exponent of minus one, exact positive bases with
their fractional exponents, and whether the product is already NaN. -/
structure ProdState where
  coeff : Num := .int 1
  powers : List (Expr × Expr) := []
  numExp : List (Expr × Expr) := []
  neg1e : Num := .int 0
  ratPowers : List (Num × List Num) := []
  nan : Bool := false

/-- Records an exact fractional exponent of a positive exact base. -/
def ProdState.addRat (st : ProdState) (b e : Num) : ProdState :=
  if st.ratPowers.any (·.1 == b) then
    { st with ratPowers := st.ratPowers.map fun (b', es) => if b' == b then (b', es ++ [e]) else (b', es) }
  else { st with ratPowers := st.ratPowers ++ [(b, [e])] }

/-- Adds one factor that is not a product. -/
def ProdState.push (st : ProdState) (o : Expr) : ProdState :=
  if st.nan then st
  else match o with
    | .num .nan => { st with nan := true }
    | .num .complexInf =>
      if st.coeff.isZero then { st with nan := true } else { st with coeff := .complexInf }
    | .num n =>
      if st.coeff == .complexInf then (if n.isZero then { st with nan := true } else st)
      else
        let k := st.coeff.mul n
        if k == .nan then { st with nan := true } else { st with coeff := k }
    | .imag => { st with neg1e := st.neg1e.add (.rat 1 2) }
    | .pow .. =>
      let (b, e) := o.baseExp
      match b, e with
      | .num nb, .num ne =>
        if nb == .complexInf then { st with powers := st.powers ++ [(b, e)] }
        else if ne.isRational ∧ !ne.isInteger ∧ !ne.isNegative then
          let (nb, st) := if nb.isNegative then (nb.neg, { st with neg1e := st.neg1e.add ne })
            else (nb, st)
          if nb == .int 1 then st else st.addRat nb ne
        else if !ne.isRational ∧ nb.isPositive ∧ nb.isFinite then
          { st with numExp := st.numExp ++ [(b, e)] }
        else { st with powers := st.powers ++ [(b, e)] }
      | .num nb, _ =>
        if nb.isPositive ∧ nb.isFinite then { st with numExp := st.numExp ++ [(b, e)] }
        else { st with powers := st.powers ++ [(b, e)] }
      | _, _ => { st with powers := st.powers ++ [(b, e)] }
    | _ => { st with powers := st.powers ++ [o.baseExp] }

/-- Collects a work list of factors; a product's factors join the end of the list. -/
def ProdState.run : Nat → List Expr → ProdState → ProdState
  | 0, _, st => st
  | _, [], st => st
  | g + 1, o :: rest, st =>
    match o with
    | .mul xs => ProdState.run g (rest ++ xs) st
    | _ => ProdState.run g rest (st.push o)

/-- Groups powers by base and, within a base, by the exponent without its coefficient; the
coefficients of each group are added. -/
def gather (c : Canon) (ps : List (Expr × Expr)) : List (Expr × Expr) :=
  let groups : List (Expr × List (Expr × List Num)) := ps.foldl (fun acc (b, e) =>
    let (k, t) := e.coeffMul
    if acc.any (fun g => g.1.sameKey b) then
      acc.map fun (b', ds) =>
        if b'.sameKey b then
          if ds.any (fun d => d.1.sameKey t) then
            (b', ds.map fun (t', ks) => if t'.sameKey t then (t', ks ++ [k]) else (t', ks))
          else (b', ds ++ [(t, [k])])
        else (b', ds)
    else acc ++ [(b, [(t, [k])])]) []
  groups.flatMap fun (b, ds) => ds.map fun (t, ks) =>
    let k := match ks with
      | [] => .int 0
      | k0 :: rest => rest.foldl Num.add k0
    (b, scale c.mul k t)

/-- The evaluated powers of a product: each power is built, a zero exponent drops it (NaN
when its base is a sum or product holding an infinity), and a number to the first power joins
the coefficient. Returns the factors, their bases and exponents, whether some base changed,
the coefficient and whether the product is NaN. -/
def powersPass (c : Canon) (ps : List (Expr × Expr)) (coeff : Num) :
    List Expr × List (Expr × Expr) × Bool × Num × Bool :=
  ps.foldl (fun (acc : List Expr × List (Expr × Expr) × Bool × Num × Bool) (b, e) =>
    let (part, bases, changed, k, nan) := acc
    if nan then acc
    else if e.isZeroKnown then
      let inf := match b with
        | .add xs | .mul xs => xs.any Expr.isInfiniteNum
        | _ => false
      if inf then (part, bases, changed, k, true) else acc
    else if e.isInt 1 then
      match b with
      | .num n => if n == .complexInf then (part ++ [b], bases ++ [(b, e)], changed, k, nan)
          else (part, bases, changed, k.mul n, nan)
      | _ => (part ++ [b], bases ++ [(b, e)], changed, k, nan)
    else
      let p := c.pow b e
      match p, b with
      | .pow .., .pow .. => (part ++ [p], bases ++ [(b, e)], changed, k, nan)
      | .pow .., _ =>
        let (b', e') := p.baseExp
        (part ++ [p], bases ++ [(b', e')], changed || !b'.same b, k, nan)
      | _, _ => (part ++ [p], bases ++ [(b, e)], changed, k, nan)) ([], [], false, coeff, false)

/-- Whether two of the pairs share a base. -/
def hasSharedBase (ps : List (Expr × Expr)) : Bool :=
  let rec go : List (Expr × Expr) → Bool
    | [] => false
    | (b, _) :: rest => rest.any (fun q => q.1.sameKey b) || go rest
  go ps

/-- Splits common factors out of roots of exact numbers with different exponents:
`4^r · 6^s` becomes `2^(r+s) · 2^r · 3^s`. Returns the factor that joins the coefficient
and the bases with exponents left to evaluate. -/
def splitRadicals : Nat → Nat → Array (Num × Num) → Num → List (Num × Num) →
    Num × List (Num × Num)
  | 0, _, _, k, out => (k, out)
  | fuel + 1, i, rs, k, out =>
    if h : i < rs.size then
      let (bi, ei) := rs[i]
      if bi == .int 1 then splitRadicals fuel (i + 1) rs k out
      else
        let step := fun (acc : Num × Array (Num × Num) × Num × List (Num × Num) × Bool) (j : Nat) =>
          let (bi, rs, k, grow, done) := acc
          if done then acc
          else match rs[j]? with
            | none => acc
            | some (bj, ej) =>
              let g := Num.ratGcd bi bj
              if g == .int 1 then acc
              else
                let e := ei.add ej
                let (k, grow) := match e with
                  | .rat p q =>
                    if p > q then
                      let ei' := floorDiv p q
                      (k.mul (Num.powWhole g ei'), grow ++ [(g, Num.ofFraction (Int.fmod p q) q)])
                    else (k, grow ++ [(g, e)])
                  | .int n => (k.mul (Num.powWhole g n), grow)
                  | _ => (k, grow)
                let rs := rs.set! j (Num.div bj g, ej)
                let bi := Num.div bi g
                (bi, rs, k, grow, bi == .int 1)
        let (bi, rs, k, grow, _) :=
          (List.range' (i + 1) (rs.size - (i + 1))).foldl step (bi, rs, k, [], false)
        let out := if bi == .int 1 then out else out ++ [(bi, ei)]
        splitRadicals fuel (i + 1) (rs ++ grow.toArray) k out
    else (k, out)

/-- The product of a list of numbers. -/
def numProductList (ns : List Num) : Num := ns.foldl Num.mul (.int 1)

/-- Finishes a product from its collected factors. -/
def finishProduct (c : Canon) (st : ProdState) : Expr :=
  let (part, bases, changed, coeff, nan) := c.powersPass (c.gather st.powers) st.coeff
  let (part, coeff, nan) :=
    if !nan ∧ changed ∧ hasSharedBase bases then
      let (part', _, _, coeff', nan') := c.powersPass (c.gather bases) coeff
      (part', coeff', nan')
    else (part, coeff, nan)
  if nan then .num .nan
  else
    -- powers of positive numbers with equal exponents multiply their bases
    let numExp := c.gather st.numExp
    let byExp : List (Expr × List Expr) := numExp.foldl (fun acc (b, e) =>
      if acc.any (fun g => g.1.sameKey e) then
        acc.map fun (e', bs) => if e'.sameKey e then (e', bs ++ [b]) else (e', bs)
      else acc ++ [(e, [b])]) []
    let part := part ++ (byExp.filter (fun g => !g.1.isZeroNum)).map fun (e, bs) => c.pow (c.mul bs) e
    -- exact bases with fractional exponents
    let combined : List (Num × List Num) := st.ratPowers.foldl (fun acc (b, es) =>
      let e := match es with
        | [] => .int 0
        | e0 :: rest => rest.foldl Num.add e0
      if acc.any (·.1 == e) then acc.map fun (e', bs) => if e' == e then (e', bs ++ [b]) else (e', bs)
      else acc ++ [(e, [b])]) []
    let (coeff, numRat) := combined.foldl (fun (acc : Num × List (Num × Num)) (e, bs) =>
      let (k, rs) := acc
      let b := numProductList bs
      match e with
      | .int n => (k.mul (Num.powWhole b n), rs)
      | .rat p q =>
        if p > q then
          (k.mul (Num.powWhole b (floorDiv p q)), rs ++ [(b, Num.ofFraction (Int.fmod p q) q)])
        else (k, rs ++ [(b, e)])
      | _ => (k, rs)) (coeff, [])
    let (coeff, toEval) := splitRadicals (4 * numRat.length * numRat.length + 8) 0 numRat.toArray coeff []
    let (coeff, pnew) := toEval.foldl (fun (acc : Num × List (Expr × List Expr)) (bi, ei) =>
      let (k, pn) := acc
      let obj := c.pow (.num bi) (.num ei)
      obj.mulArgs.foldl (fun (acc : Num × List (Expr × List Expr)) f =>
        let (k, pn) := acc
        match f with
        | .num n => (k.mul n, pn)
        | .pow b e =>
          if pn.any (fun g => g.1.sameKey e) then
            (k, pn.map fun (e', bs) => if e'.sameKey e then (e', bs ++ [b]) else (e', bs))
          else (k, pn ++ [(e, [b])])
        | _ => (k, pn)) (k, pn)) (coeff, [])
    let pnew := pnew.map fun (e, bs) => (e, c.mul bs)
    -- the powers of minus one and the imaginary unit
    let (coeff, part, pnew) :=
      if st.neg1e == .int 0 then (coeff, part, pnew)
      else
        let (p, q) := (st.neg1e.fraction?).getD (0, 1)
        let n := floorDiv p q
        let r := floorMod p q
        let coeff := if n % 2 = 1 then coeff.neg else coeff
        if q = 2 then (coeff, part ++ [.imag], pnew)
        else if r = 0 then (coeff, part, pnew)
        else
          let ne := Num.ofFraction r q
          match pnew.findIdx? (fun g => g.1.same (.num ne) && g.2.facts.positive == some true &&
              g.2.facts.finite == some true) with
          | some i => (coeff, part, pnew.modify i fun (e, b) => (e, c.neg b))
          | none => (coeff, part ++ [.pow (int (-1)) (.num ne)], pnew)
    let part := part ++ pnew.map fun (e, b) => c.pow b e
    -- infinite and zero coefficients
    let (part, coeff) : List Expr × Num := match coeff with
      | .posInf | .negInf =>
        let (kept, flip) := part.foldl (fun (acc : List Expr × Bool) (t : Expr) =>
          let (kept, flip) := acc
          if t.facts.positive == some true then (kept, flip)
          else if t.facts.negative == some true then (kept, !flip)
          else (kept ++ [t], flip)) ([], false)
        (kept, if flip then coeff.neg else coeff)
      | .complexInf =>
        (part.filter fun (t : Expr) => !(t.facts.zero == some false && t.facts.extReal.isSome), coeff)
      | _ => (part, coeff)
    if coeff != .complexInf ∧ coeff.isZero then
      if part.any (fun t => t.facts.finite == some false) then .num .nan else .num coeff
    else
      -- numbers produced by the powers join the coefficient
      let (coeff, part) := part.foldl (fun (acc : Num × List Expr) t =>
        let (k, kept) := acc
        match t with
        | .num n => if n == .complexInf then (k, kept ++ [t]) else (k.mul n, kept)
        | _ => (k, kept ++ [t])) (coeff, [])
      let part := sortByKey (sortKey 100) part
      let part := if coeff == .int 1 then part else .num coeff :: part
      match part with
      | [.num k, .add ts] =>
        if k.isFinite then c.add (ts.map fun t => scale c.mul k t) else .mul part
      | _ => mulRaw part

/-- Evaluates the powers of exact numbers that a product evaluates before collecting: whole
exponents and negative fractional ones. -/
def preparePowers (c : Canon) (xs : List Expr) : List Expr :=
  xs.flatMap fun o =>
    match o with
    | .pow .. =>
      match o.baseExp with
      | (.num nb, .num ne) =>
        if nb != .complexInf ∧ nb != .nan ∧ ne.isRational ∧ (ne.isInteger ∨ ne.isNegative) then
          (c.pow (.num nb) (.num ne)).mulArgs
        else [o]
      | _ => [o]
    | _ => [o]

/-- The canonical product of more than one factor after dropping ones. -/
def collectProduct (c : Canon) (xs : List Expr) : Expr :=
  let xs := c.preparePowers ((xs.flatMap Expr.mulArgs).flatMap Expr.mulArgs)
  let st := ProdState.run (workBound xs) xs {}
  if st.nan then .num .nan else c.finishProduct st

/-- The canonical product. Ones are dropped; an exact number times a sum distributes, or
multiplies the sum's coefficient when it has one. -/
def product (c : Canon) (xs : List Expr) : Expr :=
  match xs.filter (fun x => !x.isInt 1) with
  | [] => one
  | [x] => x
  | [a, b] =>
    let (a, b) := if b.isRational then (b, a) else (a, b)
    if a.isRational ∧ !a.isInt 0 then
      let (r, b') := b.coeffMul
      match a, b' with
      | .num an, .add ts =>
        if r != .int 1 then
          let ar := an.mul r
          if ar == .int 1 then b' else .mul [.num ar, b']
        else c.add (ts.map fun t => c.keepCoeff an t)
      | _, _ => c.collectProduct [a, b]
    else c.collectProduct [a, b]
  | ys => c.collectProduct ys

/-! ### Powers -/

/-- The power of zero. -/
def zeroPower (c : Canon) (e : Expr) : Option Expr :=
  let f := e.facts
  if f.positive == some true then some zero
  else if f.negative == some true then some (.num .complexInf)
  else if f.extReal == some false then some (.num .nan)
  else
    let (k, t) := e.coeffMul
    if k.positive? == some false ∧ k.isFinite then some (c.pow (.num .complexInf) t)
    else if k != .int 1 then some (c.pow zero t)
    else none

/-- The power of minus one. -/
def negOnePower (c : Canon) (e : Expr) : Option Expr :=
  match e with
  | .num (.int k) => some (int (if k % 2 = 0 then 1 else -1))
  | .num (.float _ _) =>
    some (c.pow (.num (.float (BigFloat.normalize true 1 0) 53)) e)
  | .num .nan | .num .posInf | .num .negInf => some (.num .nan)
  | .num (.rat p q) =>
    if p = 1 ∧ q = 2 then some .imag
    else if q = 2 then some (c.pow .imag (int p))
    else
      let i := floorDiv p q
      if i ≠ 0 then some (c.mul [c.pow (int (-1)) (int i), c.pow (int (-1)) (frac (Int.fmod p q) q)])
      else none
  | _ => none

/-- The power `n ^ (p/q)` of a whole number `n` with `|n| ≥ 2`: perfect roots are taken,
otherwise the largest perfect powers are taken out of the root. -/
def wholePower (c : Canon) (n : Int) (p : Int) (q : Nat) : Option Expr :=
  let e := frac p q
  if p = 1 ∧ q = 2 ∧ n < 0 then some (c.mul [.imag, c.pow (int (-n)) e])
  else if p < 0 then
    let ne := frac (-p) q
    if n < 0 then some (c.mul [c.pow (int (-1)) e, c.pow (frac 1 (-n)) ne])
    else some (c.pow (frac 1 n) ne)
  else
    let (x, exact) := rootFloor n.natAbs q
    if exact then
      let r := int ((x : Int) ^ p.toNat)
      if n < 0 then some (c.mul [r, c.pow (int (-1)) e]) else some r
    else
      let bpos := n.natAbs
      let fs := match perfectPower bpos with
        | some (r, k) => [(r, k)]
        | none => smallFactors bpos
      let (outInt, outRad, sqr) := fs.foldl (fun (acc : Nat × List Expr × List (Nat × Nat)) (prime, ex) =>
        let (oi, orad, sq) := acc
        let ex := ex * p.toNat
        let divE := ex / q
        let divM := ex % q
        let oi := if divE > 0 then oi * prime ^ divE else oi
        if divM > 0 then
          let g := Nat.gcd divM q
          if g ≠ 1 then (oi, orad ++ [c.pow (int prime) (frac (divM / g) (q / g))], sq)
          else (oi, orad, sq ++ [(prime, divM)])
        else (oi, orad, sq)) (1, [], [])
      let sqrGcd : Nat := sqr.foldl (fun (g : Nat) (q : Nat × Nat) => Nat.gcd g q.2) 0
      let sqrInt : Nat := sqr.foldl (fun (m : Nat) (q : Nat × Nat) =>
        m * q.1 ^ (if sqrGcd = 0 then 0 else q.2 / sqrGcd)) 1
      if sqrInt = bpos ∧ outInt = 1 ∧ outRad.isEmpty then none
      else
        let r := c.mul ([int outInt] ++ outRad ++ [c.pow (int sqrInt) (frac sqrGcd q)])
        if n < 0 then some (c.mul [r, c.pow (int (-1)) e]) else some r

/-- The float with the value of an exact number at a given precision. -/
def floatOf (p : Int) (q : Nat) (prec : Nat) : Expr := .num (.float (BigFloat.ofRat p q prec) prec)

/-- The power of a whole number `n` with `|n| ≥ 2`. -/
def integerPower (c : Canon) (n : Int) (e : Expr) : Option Expr :=
  match e with
  | .num .posInf =>
    some (if n > 1 then .num .posInf else c.add [.num .posInf, c.mul [.imag, .num .posInf]])
  | .num .negInf => some (c.pow (frac 1 n) (.num .posInf))
  | .num (.float _ ep) => some (c.pow (floatOf n 1 ep) e)
  | .num (.int k) => c.wholePower n k 1
  | .num (.rat p q) => c.wholePower n p q
  | _ => none

/-- The power of a fraction `p/q` with `q ≥ 2`. -/
def fractionPower (c : Canon) (p : Int) (q : Nat) (e : Expr) : Option Expr :=
  match e with
  | .num (.float _ ep) => some (c.pow (floatOf p q ep) e)
  | .num ne =>
    if ne.isNegative then
      let nne := ne.neg
      if nne == .int 1 then some (frac q p)
      else if p < 0 then some (c.mul [c.pow (int (-1)) e, c.pow (frac q (-p)) (.num nne)])
      else some (c.pow (frac q p) (.num nne))
    else match ne with
      | .posInf =>
        some (if p > q then .num .posInf
          else if p < -(q : Int) then c.add [.num .posInf, c.mul [.num .posInf, .imag]]
          else zero)
      | .int k => some (.num (Num.ratPow p q k))
      | .rat r s =>
        let intpart := floorDiv r s
        let (intpart, rem) := if intpart ≠ 0 then (intpart + 1, (intpart + 1) * s - r) else (0, s - r)
        let ratfrac := frac rem s
        let denom := frac 1 ((q : Int) ^ (if intpart ≠ 0 then intpart.toNat else 1))
        if p ≠ 1 then some (c.mul [c.pow (int p) e, c.pow (int q) ratfrac, denom])
        else some (c.mul [c.pow (int q) ratfrac, denom])
      | _ => none
  | _ => none

/-- The power of a float `x` by a float exponent `t`, both at precision `prec`: complex for a
negative base and a fractional exponent. -/
def floatByFloat (c : Canon) (x t : BigFloat) (prec : Nat) : Option Expr :=
  if x.neg ∧ t.exp < 0 then
    let (re, im) := BigFloat.complexPow x t prec
    some (c.add [.num (Num.ofBig re prec), c.mul [.num (Num.ofBig im prec), .imag]])
  else (BigFloat.realPow x t prec).map fun v => .num (Num.ofBig v prec)

/-- The power of a float `x` carrying `prec` bits. -/
def floatPower (c : Canon) (x : BigFloat) (prec : Nat) (e : Expr) : Option Expr :=
  let f := e.facts
  if x.isZero ∧ f.positive == some true then some (.num (.float x prec))
  else if x.isZero ∧ f.negative == some true then some (.num .complexInf)
  else match e with
    | .num (.int k) =>
      if BigFloat.bitLength k.natAbs > BigFloat.exponentBitLimit then none
      else some (.num (Num.ofBig (BigFloat.powInt x k prec) prec))
    | .num (.rat 1 q) =>
      if q % 2 = 1 ∧ x.neg then
        let t := BigFloat.ofRat 1 q prec
        (BigFloat.realPow x.neg' t prec).map fun v =>
          c.mul [.pow (int (-1)) e, .num (Num.ofBig v prec)]
      else c.floatByFloat x (BigFloat.ofRat 1 q prec) prec
    | .num (.rat p q) => c.floatByFloat x (BigFloat.ofRat p q prec) prec
    | .num (.float t tp) => c.floatByFloat x t (max prec tp)
    | .num .posInf | .num .negInf =>
      -- `exp (e · log x)`: NaN for a negative base or a base of one
      let up := match e with
        | .num .posInf => true
        | _ => false
      match x.compare' BigFloat.one with
      | .eq => some (.num .nan)
      | o =>
        if x.neg then some (.num .nan)
        else if (o == .gt) == up then some (.num .posInf) else some zero
    | _ => none

/-- The power of negative infinity by a number. -/
def negInfPower (c : Canon) (e : Expr) : Option Expr :=
  if !e.isNumber then none
  else match e with
    | .num .nan | .num .posInf | .num .negInf | .num .complexInf => some (.num .nan)
    | _ =>
      let infPart := c.pow (.num .posInf) e
      let sPart := c.pow (int (-1)) e
      if infPart.isZeroNum ∧ sPart.facts.finite == some true then some infPart
      else if (match infPart with | .num .complexInf => true | _ => false) &&
          sPart.facts.finite == some true && sPart.facts.extReal == some false then
        some (.num .complexInf)
      else some (c.mul [sPart, infPart])

/-- The power of the imaginary unit. -/
def imagPower (c : Canon) (e : Expr) : Option Expr :=
  match e with
  | .num (.int k) =>
    match k % 4 with
    | 0 => some one
    | 1 => some .imag
    | 2 => some (int (-1))
    | _ => some (c.neg .imag)
  | .num (.rat p q) =>
    let i := floorDiv p (2 * q)
    let r := frac (p - 2 * i * q) q
    let rv := Expr.pow .imag r
    some (if i % 2 = 1 then .mul [int (-1), rv] else rv)
  | _ => none

/-- Whether an exponent is a fraction with denominator two. -/
def isHalf : Expr → Bool
  | .num (.rat _ 2) => true
  | _ => false

/-- The absolute value of an expression whose sign is known. -/
def absKnown (c : Canon) (b : Expr) : Option Expr :=
  let f := b.facts
  if f.negative == some true then some (c.neg b)
  else if f.nonnegative == some true then some b
  else none

/-- For an imaginary product `k · I`, the product `|k| · I`. -/
def absImag (c : Canon) (b : Expr) : Option Expr :=
  match b with
  | .mul xs =>
    if xs.any Expr.isImag then
      (c.absKnown (c.mul (xs.filter (!·.isImag)))).map fun a => c.mul [a, .imag]
    else none
  | _ => none

/-- Whether a real exponent without symbols is known to have absolute value below `bound`. -/
def absBelow (e : Expr) (bound : Nat) : Bool :=
  match e with
  | .num n => n.isFinite && n.abs.lt (.int bound)
  | _ =>
    e.facts.extReal == some true &&
      match e.approx with
      | some ((re, _), scale) => (bound.toFloat - re.abs) > 1.0e-9 * (scale + 1)
      | none => false

/-- The floor of a float, unless it lies too close to a whole number to tell. -/
def floorSure (x : Float) : Option Int :=
  let f := x.floor
  if x - f < 1.0e-9 ∨ f + 1 - x < 1.0e-9 ∨ x.isNaN ∨ x.isInf then none
  else some (if f < 0 then -((-f).toUInt64.toNat : Int) else (f.toUInt64.toNat : Int))

/-- The whole number `⌊1/2 - e · arg b / (2π)⌋` for a base and exponent without symbols: exact
when the base is real or imaginary and the exponent exact, otherwise from approximations. -/
def halfTurns (b e : Expr) : Option Int :=
  let fb := b.facts
  -- the argument of the base as a multiple of `π`, when it is a multiple of a half
  let quarter : Option Num :=
    if fb.positive == some true then some (.int 0)
    else if fb.negative == some true then some (.int 1)
    else if fb.imaginary == some true then
      match b.approx with
      | some ((_, im), _) => some (if im > 0 then .rat 1 2 else .rat (-1) 2)
      | none => none
    else none
  match quarter, e with
  | some a, .num en =>
    if en.isRational then
      -- `1/2 - e · a / 2` exactly
      match ((Num.rat 1 2).add ((en.mul a).mul (.rat (-1) 2))).fraction? with
      | some (p, q) => some (floorDiv p q)
      | none => none
    else floorSure (0.5 - en.toFloat * a.toFloat / 2)
  | _, _ =>
    match b.approx, e.approx with
    | some ((x, y), _), some ((t, _), _) =>
      floorSure (0.5 - t * Float.atan2 y x / (2 * 3.141592653589793))
    | _, _ => none

/-- The power of a power `(b0 ^ e0) ^ other`. The exponents multiply, with a factor `s` that
restores the principal branch: `s = 1` when the outer exponent is whole, when `|e0| < 1` or
`e0 = 1`, when the base is nonnegative (a whole even `e0` first takes the base's absolute
value), or when the base has a nonnegative real part and `|e0| < 2`; for a half-integer outer
exponent `s = (-1)^(p·n)` with `n = ⌊1/2 - e0 · arg b0 / (2π)⌋`; for a complex `e0` with
`n = ⌊1/2 - im (e0 · log b0) / (2π)⌋`, `s = exp (2πi · other · n)` when that is real. With
`e0 = -1` and a half-integer outer exponent the power is `(-1)^other · (-b0)^(-other)` for a
negative base and `b0^(-other)` for a base that is not negative. -/
def powerOfPower (c : Canon) (b0 e0 other : Expr) : Option Expr :=
  let withSign := fun (s : Int) (b : Expr) =>
    let p := c.pow b (numProduct c.mul e0 other)
    if s = 1 then p else c.mul [int s, p]
  let fe := e0.facts
  if other.facts.integer == some true then some (withSign 1 b0)
  else if fe.extReal == some true then
    let negOne :=
      if e0.isInt (-1) && isHalf other then
        if b0.facts.negative == some true then
          some (c.mul [c.pow (int (-1)) other, c.pow (c.neg b0) (numProduct c.mul e0 other)])
        else if b0.facts.negative == some false then some (c.pow b0 (c.neg other))
        else none
      else none
    match negOne with
    | some r => some r
    | none =>
      let b :=
        if !e0.isInt (-1) && parity e0 == some true then
          if b0.facts.extReal == some true then (c.absKnown b0).getD b0
          else if b0.facts.imaginary == some true then (c.absImag b0).getD b0
          else b0
        else b0
      let fb := b.facts
      let reNonneg : Bool :=
        fb.nonnegative == some true || fb.imaginary == some true ||
          (b.isNumber && match b.approx with
            | some ((re, _), scale) => re > 1.0e-9 * (scale + 1)
            | none => false)
      if absBelow e0 1 || e0.isInt 1 then some (withSign 1 b)
      else if fb.nonnegative == some true then some (withSign 1 b)
      else if reNonneg && absBelow e0 2 then some (withSign 1 b)
      else if isHalf other && b.isNumber && e0.isNumber then
        match other, halfTurns b e0 with
        | .num (.rat p _), some n => some (withSign (if (p * n) % 2 = 0 then 1 else -1) b)
        | _, _ => none
      else none
  else if fe.extReal == some false && b0.isNumber && e0.isNumber then
    -- `im (e0 · log b0)` from approximations
    match b0.approx, e0.approx with
    | some ((x, y), _), some ((t, u), _) =>
      let l := Float.log (Float.sqrt (x * x + y * y))
      let th := Float.atan2 y x
      match floorSure (0.5 - (t * th + u * l) / (2 * 3.141592653589793)) with
      | some 0 => some (withSign 1 b0)
      | some n =>
        match other with
        | .num (.rat p q) =>
          if (2 * p * n) % q = 0 then
            some (withSign (if ((2 * p * n) / q) % 2 = 0 then 1 else -1) b0)
          else none
        | _ => none
      | none => none
    | _, _ => none
  else none

/-- The power of a product by a fraction or float: factors known to be nonnegative take the
power one by one, the others stay together under the power. -/
def expandPowerBase (c : Canon) (args : List Expr) (e : Expr) : Expr :=
  let (nonneg, neg, other, imagCount) := args.foldl
    (fun (acc : List Expr × List Expr × List Expr × Nat) a =>
      let (nn, ng, ot, ic) := acc
      match a with
      | .imag => (nn, ng, ot, ic + 1)
      | _ =>
        match a.facts.nonnegative with
        | some true => (nn ++ [a], ng, ot, ic)
        | some false => (nn, ng ++ [a], ot, ic)
        | none => (nn, ng, ot ++ [a], ic)) ([], [], [], 0)
  let takeNeg := fun (nonneg neg : List Expr) =>
    match neg.getLast? with
    | some last =>
      let nonn := c.neg last
      (if nonn.isInt 1 then nonneg else nonneg ++ [nonn], neg.dropLast)
    | none => (nonneg, neg ++ [int (-1)])
  let (nonneg, neg, other) := match imagCount % 4 with
    | 1 => (nonneg, neg, other ++ [Expr.imag])
    | 2 => let (nn, ng) := takeNeg nonneg neg; (nn, ng, other)
    | 3 => let (nn, ng) := takeNeg nonneg neg; (nn, ng, other ++ [Expr.imag])
    | _ => (nonneg, neg, other)
  let (nonneg, other) :=
    if neg.length > 1 then
      let (o, neg) := match other, neg with
        | [], (.num n) :: rest => (Expr.num n, rest)
        | _, _ => (one, neg)
      let o := if neg.length % 2 = 1 then c.neg o else o
      let nonneg := nonneg ++ neg.map c.neg
      (nonneg, if o.isInt 1 then other else other ++ [o])
    else match neg, other with
      | n0 :: _, _ :: _ =>
        if n0.isPlainNum ∧ !n0.isInt (-1) then (nonneg ++ [c.neg n0], other ++ [int (-1)])
        else (nonneg, other ++ neg)
      | _, _ => (nonneg, other ++ neg)
  let (npow, cargs) :=
    if e.isRational then
      nonneg.partition fun (x : Expr) =>
        match x with
        | .pow b (.num n) => n.isRational && b.isNumber
        | _ => false
    else ([], nonneg)
  let parts := npow.map (fun x => c.pow x e) ++ cargs.map (fun x => Expr.pow x e) ++
    (if other.isEmpty then [] else [Expr.pow (c.mul other) e])
  c.mul parts

/-- The coefficient of the imaginary unit in a term: one for the unit itself, the other factors
of a product that holds it, and none for a term without it. -/
def imagCoeff? : Expr → Option Expr
  | .imag => some one
  | .mul xs => if xs.any Expr.isImag then some (mulRaw (xs.filter (!·.isImag))) else none
  | _ => none

/-- The parts `r + i·I` of a sum of a number and a number times the imaginary unit. -/
def pureComplex? : List Expr → Option (Num × Num)
  | [.num r, .imag] => some (r, .int 1)
  | [.num r, .mul [.num i, .imag]] => some (r, i)
  | _ => none

/-- The power `(a + s·I)^p` of a Gaussian fraction with `s = ±1`, by repeated multiplication,
as its real and imaginary parts. -/
def gaussianPower (a : Num) (s : Int) : Nat → Num × Num
  | 0 => (.int 1, .int 0)
  | k + 1 =>
    let (x, y) := gaussianPower a s k
    (x.mul a |>.add ((y.mul (.int s)).neg), (x.mul (.int s)).add (y.mul a))

/-- The square root of a nonnegative fraction when it is a fraction. -/
def ratSqrt? (n : Num) : Option Num :=
  match n.fraction? with
  | some (p, q) =>
    if p < 0 then none
    else
      let (a, ea) := rootFloor p.toNat 2
      let (b, eb) := rootFloor q 2
      if ea ∧ eb then some (Num.ofFraction a b) else none
  | none => none

/-- The reciprocal of `r + i·I`, left as the product `(r - i·I) · 1/(r² + i²)`. -/
def complexReciprocal (c : Canon) (r i : Num) : Expr :=
  let inv := (Num.int 1).div ((r.mul r).add (i.mul i))
  let diff := c.add [.num r, c.mul [.num i.neg, .imag]]
  if inv == .int 1 then diff else .mul [.num inv, diff]

/-- The power of a sum by a number. A sum of two terms one of which is infinite evaluates only
as `a + b·I` with real `a` and `b`: to zero for a negative exponent and to the unsigned infinity
for a positive one. A Gaussian sum `r + i·I` of exact numbers to a half-integer power `p/2`
evaluates when `D = √(r² + i²)` is exact, to `√((D - r)/2)^p · ((D + r)/|i| + sign i · I)^p`,
and any `r + i·I` to the power minus one evaluates to `(r - i·I) / (r² + i²)`. -/
def sumPower (c : Canon) (args : List Expr) (e : Expr) : Option Expr :=
  match args with
  | [a0, b0] =>
    if a0.facts.infinite == some true ∨ b0.facts.infinite == some true then
      let notOne := match e with
        | .num n => n.compareValue (.int 1) != .eq
        | _ => false
      if e.facts.zero == some false && notOne then
        let (a, b) := if (imagCoeff? a0).isSome then (b0, a0) else (a0, b0)
        match imagCoeff? b with
        | some k =>
          if k.facts.extReal == some true ∧ a.facts.extReal == some true then
            if e.facts.negative == some true then some zero
            else if e.facts.positive == some true then some (.num .complexInf)
            else none
          else none
        | none => none
      else none
    else
      match pureComplex? args, e with
      | some (r, i), .num (.rat p 2) =>
        if !(r.isRational ∧ i.isRational) ∨ p.natAbs > 4096 then none
        else match ratSqrt? ((r.mul r).add (i.mul i)) with
          | some d =>
            let root := c.pow (c.pow (.num ((d.add r.neg).mul (.rat 1 2))) (frac 1 2)) (int p)
            let a := (d.add r).div i.abs
            let s : Int := if i.isNegative then -1 else 1
            let gauss := fun (k : Nat) =>
              let (x, y) := gaussianPower a s k
              c.add [.num x, c.mul [.num y, .imag]]
            if p > 0 then some (c.mul [root, gauss p.toNat])
            else
              match pureComplex? (gauss p.natAbs).addArgs with
              | some (x, y) => some (c.mul [root, c.complexReciprocal x y])
              | none => none
          | none => none
      | some (r, i), .num (.int (-1)) => some (c.complexReciprocal r i)
      | _, _ => none
  | _ => none

/-- A product left as it is: numbers multiplied into a leading coefficient, products taken
apart, and the other factors in key order. -/
def unevaluatedProduct (xs : List Expr) : Expr :=
  let parts := xs.flatMap Expr.mulArgs
  let coeff := parts.foldl (fun k x => match x with
    | .num n => k.mul n
    | _ => k) (Num.int 1)
  let rest := sortByKey (sortKey 100) (parts.filter fun x => !x.isPlainNum)
  mulRaw (if coeff == .int 1 then rest else .num coeff :: rest)

/-- The half-integer power `(k·I)^(p/2)` of an imaginary product with an exact `k` such that
`|k|/2` is the square of a fraction `r`: `r^p · (1 + sign k · I)^p`, left as a product. -/
def imagHalfPower (c : Canon) (args : List Expr) (p : Int) : Option Expr :=
  match args with
  | [.num k, .imag] =>
    if !k.isRational then none
    else
      (ratSqrt? (k.abs.mul (.rat 1 2))).map fun r =>
        let unit := c.add [one, c.mul [int (if k.isNegative then -1 else 1), .imag]]
        unevaluatedProduct [c.pow (.num r) (int p), c.pow unit (int p)]
  | _ => none

/-- The coefficient `k` of a product `k·π·I`, if the expression is one. -/
def piImagCoeff? : Expr → Option Expr
  | .mul xs =>
    if xs.any (·.same (.const .pi)) && xs.any Expr.isImag then
      some (mulRaw ((xs.eraseIdx (xs.findIdx (·.same (.const .pi)))).filter (!·.isImag)))
    else none
  | _ => none

/-- The exponential of a float at its own precision: rounded down with four guard bits, then
to nearest. -/
def floatExponential (x : BigFloat) (prec : Nat) : Expr :=
  .num (.float (BigFloat.round (BigFloat.exponential .down x (prec + 4)) prec) prec)

/-- The exponential of a term that is not a sum, if it evaluates: at the numbers zero, one,
the infinities and NaN, at a float, at a logarithm, and at `k·π·I` for a fraction `k`, which
gives `±1` or `±I` when `2k` is whole and is otherwise taken to `(-1, 1]`. -/
def exponentialTerm (a : Expr) : Option Expr :=
  match a with
  | .num .nan => some (.num .nan)
  | .num .complexInf => some (.num .nan)
  | .num .posInf => some (.num .posInf)
  | .num .negInf => some zero
  | .num (.float x prec) => some (if x.isZero then one else floatExponential x prec)
  | .num n => if n.isZero then some one else if n == .int 1 then some (.const .e) else none
  | .app f [x] => if f == Fn.named "log" then some x else none
  | _ =>
    match piImagCoeff? a with
    | some (.num k) =>
      if !k.isRational then none
      else
        match (k.mul (.int 2)) with
        | .int n =>
          let r := n % 4
          some (if r = 0 then one else if r = 2 then int (-1) else if r = 3 then negRaw .imag
            else .imag)
        | _ =>
          match k.fraction? with
          | some (p, q) =>
            -- the coefficient modulo two, in `(-1, 1]`
            let m := Int.fmod p (2 * q)
            let m := if m > q then m - 2 * q else m
            if m == p then none
            else some (.app Fn.exp [mulRaw [.num (Num.ofFraction m q), .imag, .const .pi]])
          | none => none
    | _ => if a.facts.zero == some true then some one else none

/-- The exponential of `a`: a term evaluates by `exponentialTerm`; a sum takes out the terms
whose exponentials evaluate, as factors of the exponential of the rest; otherwise the
application stays. -/
def exponential (c : Canon) (a : Expr) : Expr :=
  match a with
  | .add xs =>
    let (out, kept, changed) := xs.foldl (fun (acc : List Expr × List Expr × Bool) t =>
      let (out, kept, changed) := acc
      if t.isInt 1 then (out, kept ++ [t], changed)
      else
        match exponentialTerm t with
        | some (.app f [y]) =>
          if f == Fn.exp then (out, kept ++ [y], changed || !y.same t) else (out ++ [.app f [y]], kept, changed)
        | some v => (out ++ [v], kept, changed)
        | none => (out, kept ++ [t], changed)) ([], [], false)
    if out.isEmpty ∧ !changed then .app Fn.exp [a]
    else c.mul (out ++ [.app Fn.exp [c.add kept]])
  | _ => (exponentialTerm a).getD (.app Fn.exp [a])

/-- The evaluation of a power for its base, if it evaluates. -/
def evalPower (c : Canon) (b e : Expr) : Option Expr :=
  match b with
  | .num (.int 0) => c.zeroPower e
  | .num (.int (-1)) => c.negOnePower e
  | .num (.int n) => c.integerPower n e
  | .num (.rat p q) => c.fractionPower p q e
  | .num (.float x prec) => c.floatPower x prec e
  | .num .posInf =>
    let f := e.facts
    if f.positive == some true then some (.num .posInf)
    else if f.negative == some true then some zero
    else if f.extReal == some false ∧ e.isNumber then
      -- the sign of the real part decides
      match e.approx with
      | some ((re, _), scale) =>
        if re == 0 then some (.num .nan)
        else if re.abs ≤ 1.0e-9 * (scale + 1) then none
        else if re > 0 then some (.num .complexInf) else some zero
      | none => none
    else none
  | .num .negInf => c.negInfPower e
  | .num .complexInf =>
    match e with
    | .num n =>
      if n.isZero then some (.num .nan)
      else if n.isPositive ∧ n.isFinite then some (.num .complexInf)
      else some zero
    | _ => none
  | .num .nan => some (.num .nan)
  | .imag => c.imagPower e
  | .const .e => some (c.exponential e)
  | .const _ | .sym _ => none
  | .pow b0 e0 => c.powerOfPower b0 e0 e
  | .app f [a] => if f == Fn.exp then c.powerOfPower (.const .e) a e else none
  | .app .. => none
  | .mul args =>
    match e with
    | .num (.int _) => some (c.mul (args.map fun a => c.pow a e))
    | .num (.rat p 2) =>
      match c.imagHalfPower args p with
      | some r => some r
      | none => some (c.expandPowerBase args e)
    | .num (.rat ..) | .num (.float ..) => some (c.expandPowerBase args e)
    | _ => none
  | .add args => c.sumPower args e

/-- The exponent `k·n` when the exponent of a power is a product `k·n / log b` with the
logarithm of the base `b` as its only divisor: then `b ^ (k·n / log b) = e ^ (k·n)`. A base `E`
and an exponent that is not a product or power are left alone. -/
def logQuotient? (c : Canon) (b e : Expr) : Option Expr :=
  let divisor := fun (t : Expr) =>
    match t with
    | .pow _ x => x.couldExtractMinus
    | .app f [x] => f == Fn.exp && x.couldExtractMinus
    | _ => false
  let logOfBase := fun (t : Expr) =>
    match t with
    | .app f [x] => f.name == "log" && !f.undefined && x.same b
    | _ => false
  match b, e with
  | .const .e, _ => none
  | _, .mul _ | _, .pow .. =>
    let (k, rest) := e.coeffMul
    let factors := rest.mulArgs
    match factors.filter divisor with
    | [.pow t (.num (.int (-1)))] =>
      if logOfBase t then some (c.mul (.num k :: factors.filter (!divisor ·))) else none
    | _ => none
  | _, _ => none

/-- The power after the sign of a numeric base has been settled; an exact power too large to
hold (`Num.powerTooLarge`) is left as it stands. -/
def powerRest (c : Canon) (b e : Expr) : Expr :=
  if b.isNaN ∨ e.isNaN then .num .nan
  else if b.isInt 1 then (if e.isInfiniteNum then .num .nan else one)
  else if let some x := c.logQuotient? b e then c.pow (.const .e) x
  else if (match b, e with
      | .num m, .num n => Num.powerTooLarge m n
      | _, _ => false) then .pow b e
  else (c.evalPower b e).getD (.pow b e)

/-- The power to an infinite exponent of a real number, compared with one and minus one; an
expression without symbols is compared by its approximate value. -/
def infiniteExponent (b : Expr) : Option Expr :=
  match b with
  | .num .nan | .num .complexInf => none
  | .num nb =>
    if (Num.int 1).lt nb then some (.num .posInf)
    else if (Num.int (-1)).lt nb ∧ nb.lt (.int 1) then some zero
    else if nb.lt (.int (-1)) then some (if nb.isFinite then .num .complexInf else .num .nan)
    else none
  | _ =>
    if !b.isNumber ∨ b.facts.extReal != some true then none
    else match b.approx with
      | some ((re, _), scale) =>
        let tol := 1.0e-9 * (scale + 1)
        if re - 1 > tol then some (.num .posInf)
        else if re + 1 > tol ∧ 1 - re > tol then some zero
        else if -1 - re > tol then some (.num .complexInf)
        else none
      | none => none

/-- The canonical power `b ^ e`. -/
def power (c : Canon) (b e : Expr) : Expr :=
  match e with
  | .num .complexInf => .num .nan
  | _ =>
    match (match e with | .num .posInf => infiniteExponent b | _ => none) with
    | some r => r
    | none =>
      if e.isInt 0 then one
      else if e.isInt 1 then b
      else if e.isInt (-1) ∧ b.isZeroNum then .num .complexInf
      else match e with
        | .num (.int k) =>
          let numeric := b.isPlainNum || (match b with | .mul _ => b.isNumber | _ => false)
          if numeric ∧ b.couldExtractMinus then
            if k % 2 = 0 then c.powerRest (c.neg b) e
            else c.neg (c.pow (c.neg b) e)
          else c.powerRest b e
        | _ => c.powerRest b e

/-- One level of the canonical constructors over the constructors `c`. -/
def step (c : Canon) : Canon := ⟨c.sum, c.product, c.power, c.negate⟩

end Canon

/-- The canonical constructors with `n` levels of nesting. -/
def canon : Nat → Canon
  | 0 => Canon.raw
  | n + 1 => (canon n).step

/-- The nesting depth used for canonical construction. -/
def canonDepth : Nat := 200

namespace Expr

/-- The canonical sum. -/
def sumOf (xs : List Expr) : Expr := (canon canonDepth).add xs

/-- The canonical product. -/
def productOf (xs : List Expr) : Expr := (canon canonDepth).mul xs

/-- The canonical power. -/
def powerOf (b e : Expr) : Expr := (canon canonDepth).pow b e

/-- The canonical negation. -/
def negationOf (e : Expr) : Expr := (canon canonDepth).neg e

end Expr

end ExprTree.Symbolic
