import ExprTree.Fault.Kind
/-!
  The faults of reading a formula: splitting its text into tokens, rewriting them into code,
  parsing the code and evaluating it. Each fault keeps its cause; `Fault.kind` gives the class it
  is reported under and `Fault.message` its text.

  Grammar faults carry the line of the code text where they arise, and their message ends with
  that place, ` (<string>, line N)`, as the compiler writes it.
-/

namespace ExprTree.Formula

/-- A fault met while reading a formula. -/
inductive Fault where
  /-- The text ends inside a bracket or after a line continuation; `line` is the line after the
  last one. -/
  | openStatement (line : Nat)
  /-- The text ends inside a string that began at `line` and column `col`. -/
  | openString (line col : Nat)
  /-- A rewrite of the tokens meets a form it does not take; `detail` says which, and is empty
  when the rewrite gives no detail. -/
  | rewrite (detail : String)
  /-- A line of the text is indented less than the line before, to a depth no open block has. -/
  | dedent (line : Nat)
  /-- The code breaks the grammar at `line`. -/
  | malformed (msg : String) (line : Nat)
  /-- The code holds a null character. -/
  | nullBytes
  /-- The code nests deeper than the grammar's stack holds. -/
  | tooComplex
  /-- The code is indented where the grammar does not allow it. -/
  | indent (msg : String) (line : Nat)
  /-- The code mixes tabs and spaces in its indentation. -/
  | tabs (line : Nat)
  /-- A binary operator is given operands of types it does not combine. -/
  | operands (op left right : String)
  /-- A unary operator is given an operand of a type it does not take. -/
  | operand (op type : String)
  /-- A value that is not callable is called. -/
  | notCallable (type : String)
  /-- An attribute is read that the value does not have. -/
  | noAttribute (type attr : String)
  /-- An attribute is read that an object does not hold, with the message that says so. -/
  | attributeMessage (msg : String)
  /-- A value of the wrong type, with the message that says so. -/
  | wrongType (msg : String)
  /-- A value of the right type but outside the domain, with the message that says so. -/
  | badValue (msg : String)
  /-- A value does not convert to a symbolic expression; `shown` is its written form. -/
  | sympify (shown : String)
  /-- A division or remainder by zero. -/
  | zeroDivision (msg : String)
  /-- An index outside a sequence. -/
  | index (msg : String)
  /-- A key missing from a mapping; `shown` is its written form. -/
  | missingKey (shown : String)
  /-- A name with no binding. -/
  | unbound (name : String)
  /-- An operation that is not defined for its arguments. -/
  | notImplemented (msg : String)
  /-- Evaluation nested deeper than the reader follows. -/
  | tooDeep
  /-- A whole number too large for a float, with the message that says so. -/
  | overflow (msg : String)
  /-- A text given to the library's conversion does not parse; `shown` is its quoted form. -/
  | unparsedText (shown : String)
  /-- A value too large to build. -/
  | outOfMemory
  /-- The signature of a symbolic lambda is not a tuple of distinct symbols; the message says
  why. -/
  | badSignature (msg : String)
  /-- A symbolic lambda is called with another number of arguments than it takes; the message
  says so. -/
  | badArguments (msg : String)
  deriving Inhabited

namespace Fault

/-- The kind a fault is reported under. -/
def kind : Fault → FaultKind
  | .openStatement _ | .openString .. | .rewrite _ => .tokenizer
  | .dedent _ | .indent .. => .indentation
  | .malformed .. | .nullBytes => .unparsable
  | .tooComplex => .memory
  | .tabs _ => .tabs
  | .operands .. | .operand .. | .notCallable _ | .wrongType _ => .wrongType
  | .noAttribute .. | .attributeMessage _ => .attribute
  | .badValue _ => .badValue
  | .sympify _ => .sympify
  | .zeroDivision _ => .zeroDivision
  | .index _ => .index
  | .missingKey _ => .missingKey
  | .unbound _ => .unboundName
  | .notImplemented _ => .notImplemented
  | .tooDeep => .recursion
  | .overflow _ => .overflow
  | .unparsedText _ => .sympify
  | .outOfMemory => .memory
  | .badSignature _ => .badSignature
  | .badArguments _ => .badArguments

/-- The place of a grammar fault: the code is named `<string>`. -/
def place (line : Nat) : String := " (<string>, line " ++ toString line ++ ")"

/-- The message of a fault. -/
def message : Fault → String
  | .openStatement line => "(\x27EOF in multi-line statement\x27, (" ++ toString line ++ ", 0))"
  | .openString line col =>
    "(\x27EOF in multi-line string\x27, (" ++ toString line ++ ", " ++ toString col ++ "))"
  | .rewrite detail => detail
  | .dedent line =>
    "unindent does not match any outer indentation level (<tokenize>, line " ++ toString line ++
      ")"
  | .malformed msg line => msg ++ place line
  | .nullBytes => "source code string cannot contain null bytes"
  | .tooComplex => ""
  | .indent msg line => msg ++ place line
  | .tabs line => "inconsistent use of tabs and spaces in indentation" ++ place line
  | .operands op l r =>
    "unsupported operand type(s) for " ++ op ++ ": \x27" ++ l ++ "\x27 and \x27" ++ r ++ "\x27"
  | .operand op t => "bad operand type for unary " ++ op ++ ": \x27" ++ t ++ "\x27"
  | .notCallable t => "\x27" ++ t ++ "\x27 object is not callable"
  | .noAttribute t a => "\x27" ++ t ++ "\x27 object has no attribute \x27" ++ a ++ "\x27"
  | .wrongType msg | .badValue msg | .zeroDivision msg | .index msg | .notImplemented msg
  | .attributeMessage msg => msg
  | .sympify shown => "SympifyError: " ++ shown
  | .missingKey shown => shown
  | .unbound name => "name \x27" ++ name ++ "\x27 is not defined"
  | .tooDeep => "maximum recursion depth exceeded"
  | .overflow msg => msg
  | .unparsedText shown =>
    "Sympify of expression \x27could not parse " ++ shown ++
      "\x27 failed, because of exception being raised:"
  | .outOfMemory => ""
  | .badSignature msg | .badArguments msg => msg

end Fault

end ExprTree.Formula
