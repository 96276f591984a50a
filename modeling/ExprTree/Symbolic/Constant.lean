/-!
  The named constants of symbolic expressions: `pi`, `E`, the golden ratio, the Euler-Mascheroni
  constant, Catalan's constant and the tribonacci constant.

  Each is a positive real number. It is written by its name and sorts among the atoms by the
  name of its class; its value to double precision serves where an expression without symbols
  is compared or ordered by value.
-/

namespace ExprTree.Symbolic

/-- A named real constant. -/
inductive Constant where
  | pi
  | e
  | goldenRatio
  | eulerGamma
  | catalan
  | tribonacci
  deriving DecidableEq, Repr, Inhabited

namespace Constant

/-- The written name of a constant. -/
def name : Constant → String
  | .pi => "pi"
  | .e => "E"
  | .goldenRatio => "GoldenRatio"
  | .eulerGamma => "EulerGamma"
  | .catalan => "Catalan"
  | .tribonacci => "TribonacciConstant"

/-- The name of a constant's class, by which it sorts among atoms and which messages show. -/
def className : Constant → String
  | .pi => "Pi"
  | .e => "Exp1"
  | .goldenRatio => "GoldenRatio"
  | .eulerGamma => "EulerGamma"
  | .catalan => "Catalan"
  | .tribonacci => "TribonacciConstant"

/-- The value of a constant to double precision. -/
def value : Constant → Float
  | .pi => 3.141592653589793
  | .e => 2.718281828459045
  | .goldenRatio => 1.618033988749895
  | .eulerGamma => 0.5772156649015329
  | .catalan => 0.915965594177219
  | .tribonacci => 1.839286755214161

/-- Whether a constant is known not to be a whole number: those known to be irrational. -/
def knownIrrational : Constant → Bool
  | .eulerGamma | .catalan => false
  | _ => true

/-- The constant a written name stands for, if it names one. -/
def ofName? (s : String) : Option Constant :=
  [Constant.pi, .e, .goldenRatio, .eulerGamma, .catalan, .tribonacci].find? (·.name == s)

end Constant

end ExprTree.Symbolic
