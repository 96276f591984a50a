/-!
  The kinds of faults: each fault of this library belongs to one, and the kind decides the class
  name under which the fault is reported.
-/

namespace ExprTree

/-- The kind of a fault. -/
inductive FaultKind where
  /-- A tree breaks an invariant of expression trees. -/
  | invariant
  /-- A variable has no binding. -/
  | undefinedVariable
  /-- A value has the wrong type. -/
  | wrongType
  /-- A value of the right type is outside the domain of the operation. -/
  | badValue
  /-- A whole number is too large for a float. -/
  | overflow
  /-- An attribute of an immutable object was to be set, deleted or read but does not exist. -/
  | attribute
  /-- A text does not parse as an expression. -/
  | unparsable
  /-- Statement text does not split into tokens. -/
  | tokenizer
  /-- Text is indented where the grammar does not allow it. -/
  | indentation
  /-- Indentation mixes tabs and spaces inconsistently. -/
  | tabs
  /-- A value does not convert to a symbolic expression. -/
  | sympify
  /-- A number is divided by zero. -/
  | zeroDivision
  /-- A sequence is indexed outside its length. -/
  | index
  /-- A mapping has no entry for a key. -/
  | missingKey
  /-- An operation is not defined for its arguments. -/
  | notImplemented
  /-- Evaluation nests deeper than allowed. -/
  | recursion
  /-- A name has no binding. -/
  | unboundName
  /-- Code nests deeper than the grammar's stack holds. -/
  | memory
  /-- The signature of a symbolic lambda is not a tuple of distinct symbols. -/
  | badSignature
  /-- A symbolic lambda is called with another number of arguments than it takes. -/
  | badArguments
  deriving DecidableEq, Repr, Inhabited

end ExprTree
