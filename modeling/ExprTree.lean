import ExprTree.Text.Quoted
import ExprTree.Decimal.Notation
import ExprTree.Decimal.Reading
import ExprTree.Error
import ExprTree.Expression
import ExprTree.RoleMap
import ExprTree.Node.Validate
import ExprTree.Node.Equality
import ExprTree.Node.Walk
import ExprTree.Node.Compile
import ExprTree.Node.Eval
import ExprTree.Node.Symbolic
import ExprTree.Symbolic.Function
import ExprTree.Symbolic.Trigonometric
import ExprTree.Symbolic.Hyperbolic
import ExprTree.Symbolic.Prime
import ExprTree.Symbolic.Sequence
import ExprTree.Symbolic.Special
import ExprTree.Symbolic.Orthogonal
import ExprTree.Symbolic.Bessel
import ExprTree.Symbolic.Incomplete
import ExprTree.Symbolic.Polylog
import ExprTree.Symbolic.Elliptic
import ExprTree.Symbolic.Polar
import ExprTree.Symbolic.Apply
import ExprTree.Formula.Code
import ExprTree.Formula.Convert
import ExprTree.Formula.Operator
import ExprTree.Formula.Call
import ExprTree.Formula.Namespace
import ExprTree.Formula.Library
import ExprTree.Formula.Check
import ExprTree.Formula.Evaluate
import ExprTree.Proofs.FloatBits
import ExprTree.Proofs.Rounding
import ExprTree.Proofs.ShortestDecimal
import ExprTree.Proofs.Numeral
import ExprTree.Proofs.CompiledText
import ExprTree.Proofs.Walks
import ExprTree.Proofs.CompileEvaluate
import ExprTree.Proofs.HostArithmetic
import ExprTree.Proofs.FirstFault
import ExprTree.Proofs.ValueEquality
import ExprTree.Proofs.TreeEquality
import ExprTree.Proofs.Interchange
import ExprTree.Proofs.Broadcast
import ExprTree.Proofs.Pointwise
import ExprTree.Proofs.LevelOrder
import ExprTree.Proofs.Validation
import ExprTree.Proofs.BatchEvaluation
import ExprTree.Proofs.QuotedText
import ExprTree.Proofs.Rendering
import ExprTree.Proofs.RolePairs
