import ExprTree.Formula.Rewrite
import ExprTree.Formula.Grammar
import ExprTree.Formula.Names
/-!
  A formula's text made into code: the text without its surrounding blanks is split into tokens,
  the tokens are rewritten (`lambda` forms, names that stand for nothing predefined, repeating
  decimals, numbers, factorial marks, and in the library's own reading `^` as a power), joined
  back into text and parsed as one expression.

  Two readings differ in the names they find predefined. A formula reads with `pow` and `float`
  bound to the classes of powers and floats. The library's conversion of a text to an
  expression binds neither: `pow` is the built-in function, `float` is not predefined and becomes
  a symbol, and `^` is a power.
-/

namespace ExprTree.Formula

/-- The names a text is read with, and whether `^` is a power. -/
inductive Dialect where
  /-- A formula, with `pow` and `float` bound to the classes of powers and floats. -/
  | formula
  /-- The library's conversion of a text, where `^` is a power. -/
  | library
  deriving DecidableEq, Repr, Inhabited

namespace Dialect

/-- Whether a name is predefined in a reading. -/
def predefined (r : Dialect) (name : String) : Bool :=
  match r with
  | .formula => Names.isPredefined name
  | .library => name == "pow" || (name != "float" && Names.isPredefined name)

end Dialect

namespace Token

/-- Rewrites the operator `^` into `**`. -/
def caretPowers (ts : List Token) : List Token :=
  ts.map fun t => if t.isOp "^" then Token.op "**" else t

end Token

/-- The code a text reads as in a reading: its tokens, rewritten and joined into text. -/
def codeText (r : Dialect) (text : String) : Except Fault String := do
  let ts ← Token.scan (Text.strip text)
  let ts ← Token.lambdaForm ts
  let ts := Token.implicitNames r.predefined ts
  let ts := Token.repeatingDecimals ts
  let ts := Token.exactNumbers ts
  let ts ← Token.factorials ts
  let ts := if r == .library then Token.caretPowers ts else ts
  Token.join ts

/-- The expression a text reads as in a reading. -/
def Term.ofText (r : Dialect) (text : String) : Except Fault Term := do
  Term.read (← codeText r text)

end ExprTree.Formula
