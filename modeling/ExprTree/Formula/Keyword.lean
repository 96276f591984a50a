/-!
  The reserved words of formula code.

  A keyword is never a name: the grammar reads it only where a rule asks for it. A soft keyword
  is an ordinary name that some statements give a meaning; the grammar only needs to know it is
  one where it guesses at a missing comma.
-/

namespace ExprTree.Formula

/-- The keywords of the language. -/
def keywords : List String :=
  ["False", "None", "True", "and", "as", "assert", "async", "await", "break", "class", "continue",
    "def", "del", "elif", "else", "except", "finally", "for", "from", "global", "if", "import",
    "in", "is", "lambda", "nonlocal", "not", "or", "pass", "raise", "return", "try", "while",
    "with", "yield"]

/-- The soft keywords: names that open a statement of their own. -/
def softKeywords : List String := ["_", "case", "match"]

/-- Whether a word is a keyword. -/
def isKeyword (s : String) : Bool := keywords.contains s

end ExprTree.Formula
