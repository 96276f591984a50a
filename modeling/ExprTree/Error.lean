import ExprTree.Node.Text
import ExprTree.Fault.Kind
import ExprTree.Formula.Fault
/-!
  The faults that operations of this library report, each with its cause, its kind and its message.
  The kinds separate broken invariants, unbound variables, values of the wrong type, values out of
  their domain, numbers too large for a float, and attempts to change an immutable object.
-/

namespace ExprTree

/-- A fault, with what caused it. -/
inductive Fault where
  /-- An operator slot holds a value that is not an operator. -/
  | unknownOperator (op : Value)
  /-- A value stands where an expression node is required. -/
  | notANode (v : Value)
  /-- A node is reachable along two paths from the root. -/
  | sharedNode (n : Node)
  /-- A variable is looked up and has no binding. -/
  | undefined (name : Value)
  /-- An operator is given that is neither an operator, its symbol nor its name. -/
  | unknownOperatorText (op : Value)
  /-- A whole number is not the code of an operator. -/
  | unknownOperatorCode (code : Value)
  /-- A child of a binary node is not a node. -/
  | childNotANode (role : Role) (v : Value)
  /-- A variable name is not a text. -/
  | nameNotText (v : Value)
  /-- A variable name is empty. -/
  | emptyName
  /-- A literal is a text. -/
  | textLiteral (s : String)
  /-- A value of this kind has no float. -/
  | notReal (v : Value)
  /-- A tensor with one axis or more is used as one float. -/
  | notScalar
  /-- An element-wise comparison with no elements is used as a truth value. -/
  | emptyTruth
  /-- An element-wise comparison with more than one element is used as a truth value. -/
  | ambiguousTruth
  /-- Two tensors compared element by element have shapes that do not broadcast. -/
  | compareShapes (a b : List Nat)
  /-- A text is not numeric. -/
  | unreadable (s : String)
  /-- A whole number rounds beyond the largest float. -/
  | tooLarge
  /-- Two tensor shapes do not broadcast. -/
  | broadcast
  /-- Nested lists for a tensor are not of one rectangular shape. -/
  | ragged (depth : Nat) (shape : List Nat)
  /-- The root of an expression is not a node. -/
  | rootNotANode (v : Value)
  /-- Batch columns are not all one-dimensional of one length. -/
  | columnShape
  /-- A traversal order is neither breadth first nor depth first. -/
  | traversalOrder (order : Value)
  /-- Role names and children do not alternate. -/
  | oddPairs
  /-- A role name is not a text; the name of its kind is kept. -/
  | roleNotText (typeName : String)
  /-- A role name repeats an earlier one. -/
  | duplicateRole (name : String)
  /-- A value that cannot be hashed is used as a key. -/
  | unhashable (v : Value)
  /-- An attribute of an immutable object is to be set (`deleting = false`) or deleted. -/
  | immutable (className attr : String) (deleting : Bool)
  /-- An attribute that an object does not have is to be set. -/
  | noAttribute (className attr : String)
  /-- A text does not parse as an expression. -/
  | unparsable (msg : String)
  /-- A symbolic operation is given a value it does not take. -/
  | symbolicType (msg : String)
  /-- A whole number to be written has more decimal digits than the limit allows. -/
  | longInteger (limit : Nat)
  /-- Reading a formula fails. -/
  | reading (f : Formula.Fault)
  deriving Inhabited

namespace Fault

/-- The kind of a fault. -/
def kind : Fault → FaultKind
  | .unknownOperator _ | .notANode _ | .sharedNode _ => .invariant
  | .undefined _ => .undefinedVariable
  | .childNotANode .. | .nameNotText _ | .textLiteral _ | .notReal _ | .notScalar
  | .rootNotANode _ | .roleNotText _ | .unhashable _ => .wrongType
  | .unknownOperatorText _ | .unknownOperatorCode _ | .emptyName | .unreadable _ | .broadcast
  | .ragged .. | .columnShape | .traversalOrder _ | .oddPairs | .duplicateRole _
  | .emptyTruth | .ambiguousTruth | .compareShapes .. => .badValue
  | .tooLarge => .overflow
  | .immutable .. | .noAttribute .. => .attribute
  | .unparsable _ => .unparsable
  | .symbolicType _ => .wrongType
  | .longInteger _ => .badValue
  | .reading f => f.kind

/-- A shape written as a tuple: `(2,)`, `(2, 3)`. -/
def shapeText : List Nat → String
  | [d] => "(" ++ toString d ++ ",)"
  | ds => "(" ++ ", ".intercalate (ds.map toString) ++ ")"

/-- The message of a fault. -/
def message : Fault → String
  | .unknownOperator op => "Unknown operator: " ++ op.repr
  | .notANode v => "Not an expression node: " ++ v.typeName
  | .sharedNode n => "Node reachable through more than one parent: " ++ n.repr
  | .undefined name => "Undefined variable: " ++ name.repr
  | .unknownOperatorText op => "Unknown binary operator: " ++ op.repr
  | .unknownOperatorCode k => k.repr ++ " is not a valid Operator"
  | .childNotANode r v => r.name ++ " must be an expression node, got " ++ v.typeName
  | .nameNotText v => "Variable name must be a string, got " ++ v.typeName
  | .emptyName => "Variable name must not be empty"
  | .textLiteral s => "LiteralNode value must be numeric, got " ++ Text.quote s
  | .notReal v =>
    "float() argument must be a string or a real number, not \x27" ++ v.typeName ++ "\x27"
  | .notScalar => "only 0-dimensional arrays can be converted to Python scalars"
  | .emptyTruth =>
    "The truth value of an empty array is ambiguous. Use \x60array.size > 0\x60 to check that an " ++
      "array is not empty."
  | .ambiguousTruth =>
    "The truth value of an array with more than one element is ambiguous. Use a.any() or a.all()"
  | .compareShapes a b =>
    "operands could not be broadcast together with shapes " ++ shapeText a ++ " " ++ shapeText b ++
      " "
  | .unreadable s => "could not convert string to float: " ++ Text.quote s
  | .tooLarge => "int too large to convert to float"
  | .broadcast => "unable to broadcast argument 1 to output array"
  | .ragged depth shape =>
    "setting an array element with a sequence. The requested array has an inhomogeneous shape " ++
      "after " ++ toString depth ++ " dimensions. The detected shape was " ++ shapeText shape ++
      " + inhomogeneous part."
  | .rootNotANode v => "Expression root must be an expression node, got " ++ v.typeName
  | .columnShape => "evaluate_batch expects 1-D columns of equal length"
  | .traversalOrder order => "Invalid traversal_order: " ++ order.plainText
  | .oddPairs => "ordered_map expects alternating name/node arguments"
  | .roleNotText t => "Child role name must be a string, got " ++ t
  | .duplicateRole name => "Duplicate child role name: " ++ Text.quote name
  | .unhashable v => "unhashable type: \x27" ++ v.qualifiedTypeName ++ "\x27"
  | .immutable cls attr deleting =>
    cls ++ " is immutable; cannot " ++ (if deleting then "delete " else "set ") ++ Text.quote attr
  | .noAttribute cls attr => "\x27" ++ cls ++ "\x27 object has no attribute \x27" ++ attr ++ "\x27"
  | .unparsable msg => msg
  | .symbolicType msg => msg
  | .longInteger limit =>
    "Exceeds the limit (" ++ toString limit ++ " digits) for integer string conversion; " ++
      "use sys.set_int_max_str_digits() to increase the limit"
  | .reading f => f.message

/-- The name that an unbound-variable fault carries. -/
def name? : Fault → Option Value
  | .undefined name => some name
  | _ => none

end Fault

end ExprTree
