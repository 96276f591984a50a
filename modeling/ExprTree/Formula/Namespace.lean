import ExprTree.Formula.Names
import ExprTree.Formula.Convert
/-!
  The objects that predefined names stand for.

  A formula finds first the names it binds itself, then `pow` and `float` (the classes of powers
  and floats when a formula is read, the built-in power function and nothing when the library
  converts a text), then the predefined names: the constants and truth values of the library as
  expressions and truth values, its function classes as functions of expressions (`max` and
  `min` for the maximum and minimum), its classes and functions, its other objects, and the
  built-in functions.

  The registry `S` holds the library's single objects by name: its numbers, constants and truth
  values, and a few sets and functions known only by name.
-/

namespace ExprTree.Formula

open Symbolic

namespace Names

/-- The last dotted part of a path. -/
def lastPart (path : String) : String := ((path.splitOn ".").getLast?).getD path

/-- The single object of the library that an instance name stands for, when it is a number,
constant, truth value or the identity function; other instances are objects known by name. -/
def instanceObject (name typeName : String) : Object :=
  match name with
  | "E" => .expr (.const .e)
  | "pi" => .expr (.const .pi)
  | "GoldenRatio" => .expr (.const .goldenRatio)
  | "EulerGamma" => .expr (.const .eulerGamma)
  | "Catalan" => .expr (.const .catalan)
  | "TribonacciConstant" => .expr (.const .tribonacci)
  | "I" => .expr .imag
  | "nan" => .expr (.num .nan)
  | "oo" => .expr (.num .posInf)
  | "zoo" => .expr (.num .complexInf)
  | "true" => .truth true
  | "false" => .truth false
  | "Id" => .lambda [.sym "_x"] (.sym "_x")
  | _ => .named name (.instance typeName)

/-- The object a predefined name stands for, if it is predefined. -/
def object? (name : String) : Option Object :=
  if name == "max" then some (.function (Fn.ofName "Max"))
  else if name == "min" then some (.function (Fn.ofName "Min"))
  else if functionClasses.contains name then some (.function (Fn.ofName name))
  else match classes.find? (·.1 == name) with
    | some (_, path) => some (.named (lastPart path) (.cls path))
    | none =>
      if functions.contains name then some (.named name .function)
      else match instances.find? (·.1 == name) with
        | some (_, t) => some (instanceObject name t)
        | none => if builtins.contains name then some (.named name .builtin) else none

/-- The single objects of the library by their names in the registry `S`. -/
def registry (attr : String) : Option Object :=
  match attr with
  | "Zero" => some (Object.integer 0)
  | "One" => some (Object.integer 1)
  | "NegativeOne" => some (Object.integer (-1))
  | "Half" => some (.expr (Expr.frac 1 2))
  | "Infinity" => some (.expr (.num .posInf))
  | "NegativeInfinity" => some (.expr (.num .negInf))
  | "ComplexInfinity" => some (.expr (.num .complexInf))
  | "NaN" => some (.expr (.num .nan))
  | "ImaginaryUnit" => some (.expr .imag)
  | "Pi" => some (.expr (.const .pi))
  | "Exp1" => some (.expr (.const .e))
  | "GoldenRatio" => some (.expr (.const .goldenRatio))
  | "EulerGamma" => some (.expr (.const .eulerGamma))
  | "Catalan" => some (.expr (.const .catalan))
  | "TribonacciConstant" => some (.expr (.const .tribonacci))
  | "true" => some (.truth true)
  | "false" => some (.truth false)
  | "IdentityFunction" => some (.lambda [.sym "_x"] (.sym "_x"))
  | "EmptySet" | "UniversalSet" | "Reals" | "Integers" | "Naturals" | "Naturals0" | "Rationals"
  | "Complexes" | "EmptySequence" => some (.named attr (.instance attr))
  | _ => none

end Names

end ExprTree.Formula
