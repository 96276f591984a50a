import ExprTree.Symbolic.Hyperbolic
import ExprTree.Symbolic.Special
import ExprTree.Symbolic.Orthogonal
import ExprTree.Symbolic.Bessel
import ExprTree.Symbolic.Incomplete
import ExprTree.Symbolic.Polylog
import ExprTree.Symbolic.Elliptic
import ExprTree.Symbolic.Polar
/-!
  Applying functions of the library to expressions.

  `Fn.arity` gives the numbers of arguments a function takes, `Fn.ofName` the function a name
  stands for, and `Fn.apply` applies a function to expressions: it checks the number of
  arguments, then evaluates by the function's rules, or says why it refuses them.

  The rules of one function may call those of another (the inverse sine of `I·x` is
  `I·asinh x`); `Fn.evaluateBy` passes each rule an evaluator by name one level shallower, so
  that the calls end.
-/

namespace ExprTree.Symbolic

namespace Fn

open ExprTree.Symbolic.Expr

/-- The smallest and largest numbers of arguments a function takes; `none` for a function that
takes any number. -/
def arity (name : String) : Option (Nat × Nat) :=
  let one := ["exp", "sin", "cos", "tan", "cot", "sec", "csc", "asin", "acos", "atan", "acot",
    "asec", "acsc", "sinh", "cosh", "tanh", "coth", "sech", "csch", "asinh", "acosh", "atanh",
    "acoth", "asech", "acsch", "floor", "ceiling", "frac", "factorial", "factorial2",
    "subfactorial", "Abs", "sign", "re", "im", "conjugate", "arg", "erf", "erfc", "erfi",
    "erfinv", "erfcinv", "gamma", "loggamma", "digamma", "trigamma", "sinc", "transpose",
    "adjoint", "polar_lift", "exp_polar", "Ei", "li", "Li", "Si", "Ci", "Shi", "Chi",
    "fresnels", "fresnelc", "airyai", "airybi", "airyaiprime", "airybiprime", "lucas",
    "motzkin", "totient", "reduced_totient", "mobius", "primenu", "primeomega", "primepi",
    "carmichael", "andre", "partition", "riemann_xi", "elliptic_k", "unbranched_argument",
    "catalan"]
  let two := ["atan2", "binomial", "RisingFactorial", "FallingFactorial", "rf", "ff", "Mod",
    "Rem", "polygamma", "lowergamma", "uppergamma", "expint", "polylog", "legendre", "hermite",
    "hermite_prob", "chebyshevt", "chebyshevu", "chebyshevt_root", "chebyshevu_root",
    "laguerre", "besselj", "bessely", "besseli", "besselk", "hankel1", "hankel2", "jn", "yn",
    "hn1", "hn2", "jacobi_symbol", "legendre_symbol", "kronecker_symbol", "erf2", "erf2inv",
    "elliptic_f", "multigamma", "periodic_argument", "principal_branch"]
  let oneOrTwo := ["log", "ln", "fibonacci", "Heaviside", "DiracDelta", "LambertW", "zeta",
    "beta", "harmonic", "bernoulli", "euler", "genocchi", "divisor_sigma", "udivisor_sigma",
    "dirichlet_eta", "stieltjes", "elliptic_e", "tribonacci"]
  let three := ["gegenbauer", "assoc_legendre", "assoc_laguerre", "lerchphi", "mathieus",
    "mathieuc", "mathieusprime", "mathieucprime", "SingularityFunction"]
  let four := ["jacobi", "Ynm", "Znm", "betainc", "betainc_regularized"]
  if one.contains name then some (1, 1)
  else if two.contains name then some (2, 2)
  else if oneOrTwo.contains name then some (1, 2)
  else if three.contains name then some (3, 3)
  else if four.contains name then some (4, 4)
  else if name == "KroneckerDelta" || name == "elliptic_pi" || name == "marcumq" then some (2, 3)
  else if name == "bell" then some (1, 3)
  else if name == "appellf1" then some (6, 6)
  else none

/-- The message for a call with a number of arguments a function does not take. -/
def arityMessage (name : String) (bounds : Nat × Nat) (given : Nat) : String :=
  let (lo, hi) := bounds
  name ++ " takes " ++ (if lo == hi then "exactly " else "at least ") ++ toString lo ++
    " argument" ++ (if lo == 1 then "" else "s") ++ " (" ++ toString given ++ " given)"

/-- The function a name of the library stands for: the maximum and minimum as operations, the
others as functions of their arguments. -/
def ofName (name : String) : Fn :=
  let name := if name == "ln" then "log" else if name == "rf" then "RisingFactorial"
    else if name == "ff" then "FallingFactorial" else name
  if ["Min", "Max", "And", "Or", "Not", "Xor", "Nand", "Nor", "Implies", "Equivalent", "ITE",
      "Contains"].contains name then operation name
  else if (arity name).isNone then variadic name
  else named name

/-- The depth to which the rules of functions call each other. -/
def ruleDepth : Nat := 16

/-- The value of an application of `f` to `args` by the rules of `f`, with `fuel` bounding the
depth of the calls that the rules make to other functions. -/
def evaluateBy : Nat → Fn → List Expr → Except Refusal Expr
  | 0, f, args => .ok (.app f args)
  | fuel + 1, f, args =>
    let ev : String → List Expr → Expr := fun name xs =>
      match evaluateBy fuel (ofName name) xs with
      | .ok v => v
      | .error _ => .app (ofName name) xs
    match f.name, args with
    | "exp", [a] => .ok ((canon canonDepth).exponential a)
    | "log", [a] => .ok (logarithm a)
    | "log", [a, b] => .ok (logarithmTo a b)
    | "sin", [a] => .ok (sine ruleDepth a)
    | "cos", [a] => .ok (cosine ruleDepth a)
    | "tan", [a] => .ok (tangent ruleDepth a)
    | "cot", [a] => .ok (cotangent ruleDepth a)
    | "sec", [a] => .ok (secant ruleDepth a)
    | "csc", [a] => .ok (cosecant ruleDepth a)
    | "asin", [a] => .ok (arcsine ev a)
    | "acos", [a] => .ok (arccosine ev a)
    | "atan", [a] => .ok (arctangent ev a)
    | "acot", [a] => .ok (arccotangent ev a)
    | "asec", [a] => .ok (arcsecant ev a)
    | "acsc", [a] => .ok (arccosecant ev a)
    | "atan2", [y, x] => .ok (arctangent2 ev y x)
    | "sinh", [a] => .ok (hyperbolicSine ev a)
    | "cosh", [a] => .ok (hyperbolicCosine ev a)
    | "tanh", [a] => .ok (hyperbolicTangent ev a)
    | "coth", [a] => .ok (hyperbolicCotangent ev a)
    | "sech", [a] => .ok (reciprocalHyperbolic ev "sech" "cosh" "asech" false a)
    | "csch", [a] => .ok (reciprocalHyperbolic ev "csch" "sinh" "acsch" true a)
    | "asinh", [a] => .ok (inverseHyperbolicSine ev a)
    | "acosh", [a] => .ok (inverseHyperbolicCosine a)
    | "atanh", [a] => .ok (inverseHyperbolicTangent ev a)
    | "acoth", [a] => .ok (inverseHyperbolicCotangent ev a)
    | "asech", [a] => .ok (inverseHyperbolicSecant a)
    | "acsch", [a] => .ok (inverseHyperbolicCosecant ev a)
    | "floor", [a] => .ok (rounding false a)
    | "ceiling", [a] => .ok (rounding true a)
    | "factorial", [a] => .ok (factorial a)
    | "factorial2", [a] =>
      match factorial2? a with
      | some v => .ok v
      | none => .error (.domain "argument must be nonnegative integer or negative odd integer")
    | "binomial", [n, k] => .ok (binomial n k)
    | "gamma", [a] => .ok (gammaFunction a)
    | "loggamma", [a] => .ok (logGamma ev a)
    | "polygamma", [n, z] => .ok (polygamma ev n z)
    | "digamma", [z] => .ok (polygamma ev zero z)
    | "trigamma", [z] => .ok (polygamma ev one z)
    | "beta", xs => .ok (beta ev xs)
    | "zeta", xs => .ok (zeta ev xs)
    | "dirichlet_eta", xs => .ok (dirichletEta ev xs)
    | "erf", [a] => .ok (errorFunction a)
    | "erfc", [a] => .ok (complementaryError a)
    | "erfi", [a] => .ok (imaginaryError a)
    | "erfinv", [a] => .ok (inverseError a)
    | "erfcinv", [a] => .ok (inverseComplementaryError a)
    | "LambertW", xs => .ok (lambertW ev xs)
    | "sinc", [a] => .ok (sinc a)
    | "Heaviside", xs => heaviside xs
    | "DiracDelta", xs => diracDelta xs
    | "KroneckerDelta", xs => .ok (kroneckerDelta xs)
    | "Ei", [a] => .ok (exponentialIntegral a)
    | "li", [a] => .ok (logIntegral a)
    | "Li", [a] => .ok (offsetLogIntegral a)
    | "Si", [a] => .ok (trigIntegral "Si" a)
    | "Ci", [a] => .ok (trigIntegral "Ci" a)
    | "Shi", [a] => .ok (trigIntegral "Shi" a)
    | "Chi", [a] => .ok (trigIntegral "Chi" a)
    | "fresnels", [a] => .ok (fresnel "fresnels" a)
    | "fresnelc", [a] => .ok (fresnel "fresnelc" a)
    | "fibonacci", xs => fibonacci xs
    | "lucas", [n] => .ok (lucas n)
    | "tribonacci", xs => tribonacci xs
    | "catalan", [n] => .ok (catalan ev n)
    | "bernoulli", xs => .ok (bernoulli xs)
    | "euler", xs => .ok (euler ev xs)
    | "genocchi", xs => .ok (genocchi xs)
    | "andre", [n] => .ok (andre n)
    | "bell", xs => bell xs
    | "subfactorial", [n] => .ok (subfactorial n)
    | "motzkin", [n] => motzkin n
    | "partition", [n] => partition n
    | "harmonic", xs => .ok (harmonic ev xs)
    | "RisingFactorial", [x, k] => .ok (risingFactorial x k)
    | "FallingFactorial", [x, k] => .ok (fallingFactorial x k)
    | "totient", [n] => ofPositiveWhole "totient" totientOf n
    | "reduced_totient", [n] => ofPositiveWhole "reduced_totient" reducedTotientOf n
    | "primepi", [n] => .ok (primepi n)
    | "mobius", [n] => mobius n
    | "primenu", [n] => primeFactorCount "primenu" false n
    | "primeomega", [n] => primeFactorCount "primeomega" true n
    | "divisor_sigma", xs => divisorSigma xs
    | "legendre_symbol", [a, p] => legendreSymbol a p
    | "jacobi_symbol", [m, n] => jacobiSymbol m n
    | "kronecker_symbol", [a, n] => kroneckerSymbol a n
    | "chebyshevt", [n, x] => .ok (chebyshevT ev n x)
    | "chebyshevu", [n, x] => .ok (chebyshevU ev n x)
    | "chebyshevt_root", [n, k] => chebyshevRoot ev false n k
    | "chebyshevu_root", [n, k] => chebyshevRoot ev true n k
    | "legendre", [n, x] => .ok (legendre ev n x)
    | "assoc_legendre", [n, m, x] => assocLegendre ev n m x
    | "hermite", [n, x] => hermite ev n x
    | "hermite_prob", [n, x] => .ok (hermiteProb ev n x)
    | "laguerre", [n, x] => laguerre ev n x
    | "assoc_laguerre", [n, a, x] => assocLaguerre ev n a x
    | "gegenbauer", [n, a, x] => gegenbauer ev n a x
    | "jacobi", [n, a, b, x] => jacobi ev n a b x
    | "besselj", [nu, z] => .ok (besselJ ev nu z)
    | "bessely", [nu, z] => .ok (besselY ev nu z)
    | "besseli", [nu, z] => .ok (besselI ev nu z)
    | "besselk", [nu, z] => .ok (besselK ev nu z)
    | "jn", [nu, z] => .ok (sphericalJ nu z)
    | "airyai", [z] | "airybi", [z] | "airyaiprime", [z] | "airybiprime", [z] =>
      .ok (airy f.name z)
    | "mathieus", [a, q, z] | "mathieuc", [a, q, z] | "mathieusprime", [a, q, z]
    | "mathieucprime", [a, q, z] => .ok (mathieu ev f.name a q z)
    | "marcumq", xs => .ok (marcumQ ev xs)
    | "lowergamma", [a, x] => .ok (lowerGamma ev a x)
    | "uppergamma", [a, z] => .ok (upperGamma ev a z)
    | "expint", [nu, z] => .ok (expint ev nu z)
    | "multigamma", [x, p] => multigamma ev x p
    | "erf2", [x, y] => .ok (erfBetween ev x y)
    | "erf2inv", [x, y] => .ok (erfBetweenInverse ev x y)
    | "polylog", [s, z] => .ok (polylog ev s z)
    | "stieltjes", xs => .ok (stieltjes xs)
    | "riemann_xi", [s] => .ok (riemannXi ev s)
    | "elliptic_k", [m] => .ok (ellipticK ev m)
    | "elliptic_f", [z, m] => .ok (ellipticF ev z m)
    | "elliptic_e", xs => .ok (ellipticE ev xs)
    | "elliptic_pi", xs => .ok (ellipticPi ev xs)
    | "polar_lift", [x] => .ok (polarLift ev x)
    | "periodic_argument", [a, p] => .ok (periodicArgument ev a p)
    | "unbranched_argument", [a] => .ok (periodicArgument ev a (.num .posInf))
    | "principal_branch", [x, p] => .ok (principalBranch ev x p)
    | "Ynm", [n, m, t, p] => .ok (sphericalHarmonic ev n m t p)
    | "Znm", [n, m, t, p] => .ok (realSphericalHarmonic ev n m t p)
    | "appellf1", xs => .ok (appellF1 xs)
    | "LeviCivita", xs => .ok (leviCivita xs)
    | "SingularityFunction", [x, a, n] => singularityFunction x a n
    | "Abs", [a] => .ok (absolute ruleDepth a)
    | "sign", [a] => .ok (sign ruleDepth a)
    | "re", [a] => .ok (realPart a)
    | "im", [a] => .ok (imagPart a)
    | "conjugate", [a] => .ok (conjugate a)
    | "arg", [a] => .ok (argument ev a)
    | "frac", [a] => .ok (fractionalPart a)
    | "Max", xs => extremum false xs
    | "Min", xs => extremum true xs
    | "Mod", [p, q] => if q.isZeroKnown then .error (.divisionByZero "Modulo by zero") else .ok (modulo p q)
    | "Rem", [p, q] =>
      if q.isZeroKnown then .error (.divisionByZero "Division by zero")
      else .ok (truncatedRemainder p q)
    | _, xs => .ok (.app f xs)

/-- Applies a function to expressions: checks the number of arguments, then evaluates by the
function's rules. It refuses the wrong number of arguments, a remainder by zero, and a maximum
of values that cannot be compared. -/
def apply (f : Fn) (args : List Expr) : Except Refusal Expr :=
  if f.undefined then .ok (.app f args)
  else
    match arity f.name with
    | some bounds =>
      if args.length < bounds.1 || args.length > bounds.2 then
        .error (.arity (arityMessage f.name bounds args.length))
      else evaluateBy ruleDepth f args
    | none => evaluateBy ruleDepth f args

end Fn

end ExprTree.Symbolic
