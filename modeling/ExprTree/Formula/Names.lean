/-!
  The predefined names of formula code and what each stands for: symbolic function classes,
  classes of the library with the modules that define them, functions of the library, other
  predefined objects with the names of their types, and built-in functions. `max` and `min`
  stand for the symbolic maximum and minimum, and `pow` and `float` for the classes of powers and
  of floats.

  A name that is predefined stays a name when a formula is rewritten into code; any other name
  becomes a symbol or an undefined function.
-/

namespace ExprTree.Formula

namespace Names

/-- The symbolic function classes. -/
def functionClasses : List String :=
  ["factorial", "factorial2", "rf", "ff", "binomial", "RisingFactorial", "FallingFactorial",
    "subfactorial", "carmichael", "fibonacci", "lucas", "motzkin", "tribonacci", "harmonic",
    "bernoulli", "bell", "euler", "catalan", "genocchi", "andre", "partition", "divisor_sigma",
    "legendre_symbol", "jacobi_symbol", "kronecker_symbol", "mobius",
    "primenu", "primeomega", "totient", "reduced_totient", "primepi", "Min", "Max", "re", "im",
    "sign", "Abs", "conjugate", "arg", "polar_lift", "periodic_argument",
    "unbranched_argument", "principal_branch", "transpose", "adjoint", "sin", "cos", "tan",
    "sec", "csc", "cot", "sinc", "asin", "acos", "atan", "asec", "acsc", "acot", "atan2",
    "exp_polar", "exp", "ln", "log", "LambertW", "sinh", "cosh", "tanh", "coth", "sech",
    "csch", "asinh", "acosh", "atanh", "acoth", "asech", "acsch", "floor", "ceiling", "frac",
    "Piecewise", "erf", "erfc", "erfi", "erf2", "erfinv", "erfcinv", "erf2inv", "Ei", "expint",
    "li", "Li", "Si", "Ci", "Shi", "Chi", "fresnels", "fresnelc", "gamma", "lowergamma",
    "uppergamma", "polygamma", "loggamma", "digamma", "trigamma", "multigamma",
    "dirichlet_eta", "zeta", "lerchphi", "polylog", "stieltjes", "LeviCivita",
    "KroneckerDelta", "SingularityFunction", "DiracDelta", "Heaviside", "besselj", "bessely",
    "besseli", "besselk", "hankel1", "hankel2", "jn", "yn", "hn1", "hn2", "airyai", "airybi",
    "airyaiprime", "airybiprime", "marcumq", "hyper", "meijerg", "appellf1", "legendre",
    "assoc_legendre", "hermite", "hermite_prob", "chebyshevt", "chebyshevu", "chebyshevu_root",
    "chebyshevt_root", "laguerre", "assoc_laguerre", "gegenbauer", "jacobi", "Ynm", "Znm",
    "elliptic_k", "elliptic_f", "elliptic_e", "elliptic_pi", "beta", "mathieus", "mathieuc",
    "mathieusprime", "mathieucprime", "riemann_xi", "betainc", "betainc_regularized", "Mod",
    "Function", "And", "Or", "Not", "Xor", "Nand", "Nor", "Implies", "Equivalent", "ITE",
    "Contains", "Rem"]

/-- The function classes that are operations rather than functions: they sort after the
functions. -/
def operations : List String :=
  ["Min", "Max", "And", "Or", "Not", "Xor", "Nand", "Nor", "Implies", "Equivalent", "ITE",
    "Contains"]

/-- The classes of the library, with the dotted path of each. -/
def classes : List (String × String) :=
  [("Basic", "sympy.core.basic.Basic"), ("Atom", "sympy.core.basic.Atom"),
    ("Expr", "sympy.core.expr.Expr"), ("AtomicExpr", "sympy.core.expr.AtomicExpr"),
    ("UnevaluatedExpr", "sympy.core.expr.UnevaluatedExpr"),
    ("Symbol", "sympy.core.symbol.Symbol"), ("Wild", "sympy.core.symbol.Wild"),
    ("Dummy", "sympy.core.symbol.Dummy"), ("Number", "sympy.core.numbers.Number"),
    ("Float", "sympy.core.numbers.Float"), ("Rational", "sympy.core.numbers.Rational"),
    ("Integer", "sympy.core.numbers.Integer"),
    ("NumberSymbol", "sympy.core.numbers.NumberSymbol"),
    ("AlgebraicNumber", "sympy.core.numbers.AlgebraicNumber"), ("Pow", "sympy.core.power.Pow"),
    ("Mul", "sympy.core.mul.Mul"), ("Add", "sympy.core.add.Add"),
    ("Equality", "sympy.core.relational.Equality"),
    ("GreaterThan", "sympy.core.relational.GreaterThan"),
    ("LessThan", "sympy.core.relational.LessThan"),
    ("Unequality", "sympy.core.relational.Unequality"),
    ("StrictGreaterThan", "sympy.core.relational.StrictGreaterThan"),
    ("StrictLessThan", "sympy.core.relational.StrictLessThan"),
    ("Lambda", "sympy.core.function.Lambda"),
    ("WildFunction", "sympy.core.function.WildFunction"),
    ("Derivative", "sympy.core.function.Derivative"),
    ("FunctionClass", "sympy.core.function.FunctionClass"),
    ("Subs", "sympy.core.function.Subs"), ("PoleError", "sympy.core.function.PoleError"),
    ("PrecisionExhausted", "sympy.core.evalf.PrecisionExhausted"),
    ("Tuple", "sympy.core.containers.Tuple"), ("Dict", "sympy.core.containers.Dict"),
    ("SympifyError", "sympy.core.sympify.SympifyError"),
    ("preorder_traversal", "sympy.core.traversal.preorder_traversal"),
    ("vectorize", "sympy.core.multidimensional.vectorize"),
    ("AppliedPredicate", "sympy.assumptions.assume.AppliedPredicate"),
    ("Predicate", "sympy.assumptions.assume.Predicate"),
    ("AssumptionsContext", "sympy.assumptions.assume.AssumptionsContext"),
    ("Poly", "sympy.polys.polytools.Poly"), ("PurePoly", "sympy.polys.polytools.PurePoly"),
    ("GroebnerBasis", "sympy.polys.polytools.GroebnerBasis"),
    ("Monomial", "sympy.polys.monomials.Monomial"),
    ("CRootOf", "sympy.polys.rootoftools.CRootOf"),
    ("ComplexRootOf", "sympy.polys.rootoftools.ComplexRootOf"),
    ("RootSum", "sympy.polys.rootoftools.RootSum"),
    ("Options", "sympy.polys.polyoptions.Options"),
    ("BasePolynomialError", "sympy.polys.polyerrors.BasePolynomialError"),
    ("ExactQuotientFailed", "sympy.polys.polyerrors.ExactQuotientFailed"),
    ("PolynomialDivisionFailed", "sympy.polys.polyerrors.PolynomialDivisionFailed"),
    ("OperationNotSupported", "sympy.polys.polyerrors.OperationNotSupported"),
    ("HeuristicGCDFailed", "sympy.polys.polyerrors.HeuristicGCDFailed"),
    ("HomomorphismFailed", "sympy.polys.polyerrors.HomomorphismFailed"),
    ("IsomorphismFailed", "sympy.polys.polyerrors.IsomorphismFailed"),
    ("ExtraneousFactors", "sympy.polys.polyerrors.ExtraneousFactors"),
    ("EvaluationFailed", "sympy.polys.polyerrors.EvaluationFailed"),
    ("RefinementFailed", "sympy.polys.polyerrors.RefinementFailed"),
    ("CoercionFailed", "sympy.polys.polyerrors.CoercionFailed"),
    ("NotInvertible", "sympy.polys.polyerrors.NotInvertible"),
    ("NotReversible", "sympy.polys.polyerrors.NotReversible"),
    ("NotAlgebraic", "sympy.polys.polyerrors.NotAlgebraic"),
    ("DomainError", "sympy.polys.polyerrors.DomainError"),
    ("PolynomialError", "sympy.polys.polyerrors.PolynomialError"),
    ("UnificationFailed", "sympy.polys.polyerrors.UnificationFailed"),
    ("GeneratorsError", "sympy.polys.polyerrors.GeneratorsError"),
    ("GeneratorsNeeded", "sympy.polys.polyerrors.GeneratorsNeeded"),
    ("ComputationFailed", "sympy.polys.polyerrors.ComputationFailed"),
    ("UnivariatePolynomialError", "sympy.polys.polyerrors.UnivariatePolynomialError"),
    ("MultivariatePolynomialError", "sympy.polys.polyerrors.MultivariatePolynomialError"),
    ("PolificationFailed", "sympy.polys.polyerrors.PolificationFailed"),
    ("OptionError", "sympy.polys.polyerrors.OptionError"),
    ("FlagError", "sympy.polys.polyerrors.FlagError"),
    ("Domain", "sympy.polys.domains.Domain"),
    ("FiniteField", "sympy.polys.domains.FiniteField"),
    ("IntegerRing", "sympy.polys.domains.IntegerRing"),
    ("RationalField", "sympy.polys.domains.RationalField"),
    ("RealField", "sympy.polys.domains.RealField"),
    ("ComplexField", "sympy.polys.domains.ComplexField"),
    ("PythonFiniteField", "sympy.polys.domains.PythonFiniteField"),
    ("GMPYFiniteField", "sympy.polys.domains.GMPYFiniteField"),
    ("PythonIntegerRing", "sympy.polys.domains.PythonIntegerRing"),
    ("GMPYIntegerRing", "sympy.polys.domains.GMPYIntegerRing"),
    ("PythonRational", "sympy.polys.domains.PythonRational"),
    ("GMPYRationalField", "sympy.polys.domains.GMPYRationalField"),
    ("AlgebraicField", "sympy.polys.domains.AlgebraicField"),
    ("PolynomialRing", "sympy.polys.domains.PolynomialRing"),
    ("FractionField", "sympy.polys.domains.FractionField"),
    ("ExpressionDomain", "sympy.polys.domains.ExpressionDomain"),
    ("FF_python", "sympy.polys.domains.FF_python"), ("FF_gmpy", "sympy.polys.domains.FF_gmpy"),
    ("ZZ_python", "sympy.polys.domains.ZZ_python"), ("ZZ_gmpy", "sympy.polys.domains.ZZ_gmpy"),
    ("QQ_python", "sympy.polys.domains.QQ_python"), ("QQ_gmpy", "sympy.polys.domains.QQ_gmpy"),
    ("Order", "sympy.series.order.Order"), ("Limit", "sympy.series.limits.Limit"),
    ("SeqPer", "sympy.series.sequences.SeqPer"),
    ("SeqFormula", "sympy.series.sequences.SeqFormula"),
    ("SeqAdd", "sympy.series.sequences.SeqAdd"), ("SeqMul", "sympy.series.sequences.SeqMul"),
    ("Product", "sympy.concrete.products.Product"), ("Sum", "sympy.concrete.summations.Sum"),
    ("EPath", "sympy.simplify.epathtools.EPath"), ("Set", "sympy.sets.sets.Set"),
    ("Interval", "sympy.sets.sets.Interval"), ("Union", "sympy.sets.sets.Union"),
    ("FiniteSet", "sympy.sets.sets.FiniteSet"), ("ProductSet", "sympy.sets.sets.ProductSet"),
    ("Intersection", "sympy.sets.sets.Intersection"),
    ("DisjointUnion", "sympy.sets.sets.DisjointUnion"),
    ("Complement", "sympy.sets.sets.Complement"),
    ("SymmetricDifference", "sympy.sets.sets.SymmetricDifference"),
    ("PowerSet", "sympy.sets.sets.PowerSet"), ("ImageSet", "sympy.sets.fancysets.ImageSet"),
    ("Range", "sympy.sets.fancysets.Range"),
    ("ComplexRegion", "sympy.sets.fancysets.ComplexRegion"),
    ("ConditionSet", "sympy.sets.conditionset.ConditionSet"),
    ("ShapeError", "sympy.matrices.common.ShapeError"),
    ("NonSquareMatrixError", "sympy.matrices.common.NonSquareMatrixError"),
    ("MutableDenseMatrix", "sympy.matrices.dense.MutableDenseMatrix"),
    ("DeferredVector", "sympy.matrices.matrices.DeferredVector"),
    ("MatrixBase", "sympy.matrices.matrices.MatrixBase"),
    ("MutableSparseMatrix", "sympy.matrices.sparse.MutableSparseMatrix"),
    ("ImmutableDenseMatrix", "sympy.matrices.immutable.ImmutableDenseMatrix"),
    ("ImmutableSparseMatrix", "sympy.matrices.immutable.ImmutableSparseMatrix"),
    ("MatrixSlice", "sympy.matrices.expressions.MatrixSlice"),
    ("BlockDiagMatrix", "sympy.matrices.expressions.BlockDiagMatrix"),
    ("BlockMatrix", "sympy.matrices.expressions.BlockMatrix"),
    ("FunctionMatrix", "sympy.matrices.expressions.FunctionMatrix"),
    ("Identity", "sympy.matrices.expressions.Identity"),
    ("Inverse", "sympy.matrices.expressions.Inverse"),
    ("MatAdd", "sympy.matrices.expressions.MatAdd"),
    ("MatMul", "sympy.matrices.expressions.MatMul"),
    ("MatPow", "sympy.matrices.expressions.MatPow"),
    ("MatrixExpr", "sympy.matrices.expressions.MatrixExpr"),
    ("MatrixSymbol", "sympy.matrices.expressions.MatrixSymbol"),
    ("Trace", "sympy.matrices.expressions.Trace"),
    ("Transpose", "sympy.matrices.expressions.Transpose"),
    ("ZeroMatrix", "sympy.matrices.expressions.ZeroMatrix"),
    ("OneMatrix", "sympy.matrices.expressions.OneMatrix"),
    ("Adjoint", "sympy.matrices.expressions.Adjoint"),
    ("HadamardProduct", "sympy.matrices.expressions.HadamardProduct"),
    ("HadamardPower", "sympy.matrices.expressions.HadamardPower"),
    ("Determinant", "sympy.matrices.expressions.Determinant"),
    ("DiagMatrix", "sympy.matrices.expressions.DiagMatrix"),
    ("DiagonalMatrix", "sympy.matrices.expressions.DiagonalMatrix"),
    ("DiagonalOf", "sympy.matrices.expressions.DiagonalOf"),
    ("DotProduct", "sympy.matrices.expressions.DotProduct"),
    ("KroneckerProduct", "sympy.matrices.expressions.KroneckerProduct"),
    ("PermutationMatrix", "sympy.matrices.expressions.PermutationMatrix"),
    ("MatrixPermute", "sympy.matrices.expressions.MatrixPermute"),
    ("Permanent", "sympy.matrices.expressions.Permanent"),
    ("Point", "sympy.geometry.point.Point"), ("Point2D", "sympy.geometry.point.Point2D"),
    ("Point3D", "sympy.geometry.point.Point3D"), ("Line", "sympy.geometry.line.Line"),
    ("Ray", "sympy.geometry.line.Ray"), ("Segment", "sympy.geometry.line.Segment"),
    ("Line2D", "sympy.geometry.line.Line2D"), ("Segment2D", "sympy.geometry.line.Segment2D"),
    ("Ray2D", "sympy.geometry.line.Ray2D"), ("Line3D", "sympy.geometry.line.Line3D"),
    ("Segment3D", "sympy.geometry.line.Segment3D"), ("Ray3D", "sympy.geometry.line.Ray3D"),
    ("Plane", "sympy.geometry.plane.Plane"), ("Ellipse", "sympy.geometry.ellipse.Ellipse"),
    ("Circle", "sympy.geometry.ellipse.Circle"), ("Polygon", "sympy.geometry.polygon.Polygon"),
    ("RegularPolygon", "sympy.geometry.polygon.RegularPolygon"),
    ("Triangle", "sympy.geometry.polygon.Triangle"),
    ("GeometryError", "sympy.geometry.exceptions.GeometryError"),
    ("Curve", "sympy.geometry.curve.Curve"), ("Parabola", "sympy.geometry.parabola.Parabola"),
    ("Integral", "sympy.integrals.integrals.Integral"),
    ("MellinTransform", "sympy.integrals.transforms.MellinTransform"),
    ("InverseMellinTransform", "sympy.integrals.transforms.InverseMellinTransform"),
    ("LaplaceTransform", "sympy.integrals.transforms.LaplaceTransform"),
    ("InverseLaplaceTransform", "sympy.integrals.transforms.InverseLaplaceTransform"),
    ("FourierTransform", "sympy.integrals.transforms.FourierTransform"),
    ("InverseFourierTransform", "sympy.integrals.transforms.InverseFourierTransform"),
    ("SineTransform", "sympy.integrals.transforms.SineTransform"),
    ("InverseSineTransform", "sympy.integrals.transforms.InverseSineTransform"),
    ("CosineTransform", "sympy.integrals.transforms.CosineTransform"),
    ("InverseCosineTransform", "sympy.integrals.transforms.InverseCosineTransform"),
    ("HankelTransform", "sympy.integrals.transforms.HankelTransform"),
    ("InverseHankelTransform", "sympy.integrals.transforms.InverseHankelTransform"),
    ("IndexedBase", "sympy.tensor.indexed.IndexedBase"), ("Idx", "sympy.tensor.indexed.Idx"),
    ("Indexed", "sympy.tensor.indexed.Indexed"),
    ("MutableDenseNDimArray", "sympy.tensor.array.MutableDenseNDimArray"),
    ("ImmutableDenseNDimArray", "sympy.tensor.array.ImmutableDenseNDimArray"),
    ("MutableSparseNDimArray", "sympy.tensor.array.MutableSparseNDimArray"),
    ("ImmutableSparseNDimArray", "sympy.tensor.array.ImmutableSparseNDimArray"),
    ("NDimArray", "sympy.tensor.array.NDimArray"),
    ("DenseNDimArray", "sympy.tensor.array.DenseNDimArray"),
    ("SparseNDimArray", "sympy.tensor.array.SparseNDimArray"),
    ("AccumBounds", "sympy.calculus.accumulationbounds.AccumBounds"),
    ("Quaternion", "sympy.algebras.quaternion.Quaternion"),
    ("StrPrinter", "sympy.printing.str.StrPrinter"),
    ("TableForm", "sympy.printing.tableform.TableForm"),
    ("Sieve", "sympy.ntheory.generate.Sieve"), ("RealNumber", "sympy.core.numbers.Float"),
    ("Rel", "sympy.core.relational.Relational"), ("Eq", "sympy.core.relational.Equality"),
    ("Ne", "sympy.core.relational.Unequality"), ("Lt", "sympy.core.relational.StrictLessThan"),
    ("Le", "sympy.core.relational.LessThan"),
    ("Gt", "sympy.core.relational.StrictGreaterThan"),
    ("Ge", "sympy.core.relational.GreaterThan"), ("O", "sympy.series.order.Order"),
    ("RootOf", "sympy.polys.rootoftools.RootOf"),
    ("Matrix", "sympy.matrices.dense.MutableDenseMatrix"),
    ("MutableMatrix", "sympy.matrices.dense.MutableDenseMatrix"),
    ("SparseMatrix", "sympy.matrices.sparse.MutableSparseMatrix"),
    ("ImmutableMatrix", "sympy.matrices.immutable.ImmutableDenseMatrix"),
    ("Array", "sympy.tensor.array.dense_ndim_array.ImmutableDenseNDimArray")]

/-- The functions of the library. -/
def functions : List String :=
  ["sympify", "cacheit", "symbols", "var", "igcd", "ilcm", "seterr", "comp", "mod_inverse",
    "integer_nthroot", "integer_log", "trailing", "prod", "diff", "expand", "count_ops",
    "expand_mul", "expand_log", "expand_func", "expand_trig", "expand_complex",
    "expand_multinomial", "nfloat", "expand_power_base", "expand_power_exp", "arity", "N",
    "gcd_terms", "factor_terms", "factor_nc", "evaluate", "bottom_up", "use",
    "postorder_traversal", "default_sort_key", "ordered", "num_digits", "to_cnf", "to_dnf",
    "to_nnf", "POSform", "SOPform", "simplify_logic", "bool_map", "satisfiable", "assuming",
    "ask", "register_handler", "remove_handler", "refine", "poly_from_expr",
    "parallel_poly_from_expr", "degree", "total_degree", "degree_list", "LC", "LM", "LT",
    "pdiv", "prem", "pquo", "pexquo", "div", "rem", "quo", "exquo", "half_gcdex", "gcdex",
    "invert", "subresultants", "resultant", "discriminant", "cofactors", "gcd_list", "gcd",
    "lcm_list", "lcm", "terms_gcd", "trunc", "monic", "content", "primitive", "compose",
    "decompose", "sturm", "gff_list", "gff", "sqf_norm", "sqf_part", "sqf_list", "sqf",
    "factor_list", "factor", "intervals", "refine_root", "count_roots", "all_roots",
    "real_roots", "nroots", "ground_roots", "nth_power_roots_poly", "cancel", "reduced",
    "groebner", "is_zero_dimensional", "poly", "symmetrize", "horner", "interpolate",
    "rational_interpolate", "viete", "together", "minpoly", "minimal_polynomial",
    "primitive_element", "field_isomorphism", "to_number_field", "isolate", "round_two",
    "prime_decomp", "prime_valuation", "galois_group", "itermonomials", "rootof", "roots",
    "construct_domain", "swinnerton_dyer_poly", "cyclotomic_poly", "symmetric_poly",
    "random_poly", "interpolating_poly", "jacobi_poly", "chebyshevt_poly", "chebyshevu_poly",
    "hermite_poly", "hermite_prob_poly", "legendre_poly", "laguerre_poly", "apart",
    "apart_list", "assemble_partfrac_list", "ring", "xring", "vring", "sring", "field",
    "xfield", "vfield", "sfield", "limit", "gruntz", "series", "approximants", "residue",
    "sequence", "fourier_series", "fps", "difference_delta", "limit_seq", "sqrt", "root",
    "real_root", "cbrt", "polarify", "unpolarify", "piecewise_fold", "piecewise_exclusive",
    "E1", "Eijk", "bspline_basis", "bspline_basis_set", "interpolating_spline", "jn_zeros",
    "jacobi_normalized", "Ynm_c", "nextprime", "prevprime", "prime", "primerange", "randprime",
    "primorial", "cycle_length", "composite", "compositepi", "isprime", "divisors",
    "proper_divisors", "factorint", "multiplicity", "perfect_power", "pollard_pm1",
    "pollard_rho", "primefactors", "divisor_count", "proper_divisor_count", "factorrat",
    "mersenne_prime_exponent", "is_perfect", "is_mersenne_prime", "is_abundant",
    "is_deficient", "is_amicable", "is_carmichael", "abundance", "npartitions",
    "is_primitive_root", "is_quad_residue", "n_order", "sqrt_mod", "quadratic_residues",
    "primitive_root", "nthroot_mod", "is_nthpow_residue", "sqrt_mod_iter", "discrete_log",
    "quadratic_congruence", "binomial_coefficients", "binomial_coefficients_list",
    "multinomial_coefficients", "continued_fraction_periodic", "continued_fraction_iterator",
    "continued_fraction_reduce", "continued_fraction_convergents", "continued_fraction",
    "egyptian_fraction", "product", "summation", "fft", "ifft", "ntt", "intt", "fwht", "ifwht",
    "mobius_transform", "inverse_mobius_transform", "convolution", "covering_product",
    "intersecting_product", "simplify", "hypersimp", "hypersimilar", "logcombine",
    "separatevars", "posify", "besselsimp", "kroneckersimp", "signsimp", "nsimplify",
    "fu", "sqrtdenest", "cse", "epath", "hyperexpand", "collect", "rcollect", "radsimp",
    "collect_const", "fraction", "numer", "denom", "trigsimp", "exptrigsimp", "powsimp",
    "powdenest", "combsimp", "gammasimp", "ratsimp", "ratsimpmodprime", "imageset", "solve",
    "solve_linear_system", "solve_linear_system_LU", "solve_undetermined_coeffs", "nsolve",
    "solve_linear", "checksol", "det_quick", "inv_quick", "check_assumptions",
    "failing_assumptions", "diophantine", "rsolve", "rsolve_poly", "rsolve_ratio",
    "rsolve_hyper", "checkodesol", "classify_ode", "dsolve", "homogeneous_order",
    "solve_poly_system", "factor_system", "solve_triangulated", "pde_separate",
    "pde_separate_add", "pde_separate_mul", "pdsolve", "classify_pde", "checkpdesol",
    "ode_order", "reduce_inequalities", "reduce_abs_inequality", "reduce_abs_inequalities",
    "solve_poly_inequality", "solve_rational_inequalities", "solve_univariate_inequality",
    "decompogen", "solveset", "linsolve", "linear_eq_to_matrix", "nonlinsolve", "substitution",
    "GramSchmidt", "casoratian", "diag", "eye", "hessian", "jordan_cell", "list2numpy",
    "matrix2numpy", "matrix_multiply_elementwise", "ones", "randMatrix", "rot_axis1",
    "rot_axis2", "rot_axis3", "symarray", "wronskian", "zeros", "banded", "blockcut",
    "block_collapse", "matrix_symbols", "hadamard_product", "det", "diagonalize_vector",
    "trace", "kronecker_product", "per", "rot_ccw_axis1", "rot_ccw_axis2", "rot_ccw_axis3",
    "rot_givens", "rad", "deg", "are_similar", "centroid", "convex_hull", "idiff",
    "intersection", "closest_points", "farthest_points", "flatten", "group", "take", "subsets",
    "variations", "numbered_symbols", "cartes", "capture", "dict_merge", "prefixes",
    "postfixes", "sift", "topological_sort", "unflatten", "has_dups", "has_variety", "reshape",
    "rotations", "filldedent", "lambdify", "threaded", "xthreaded", "public",
    "memoize_property", "timed", "integrate", "line_integrate", "mellin_transform",
    "inverse_mellin_transform", "laplace_transform", "laplace_correspondence",
    "laplace_initial_conds", "inverse_laplace_transform", "fourier_transform",
    "inverse_fourier_transform", "sine_transform", "inverse_sine_transform",
    "cosine_transform", "inverse_cosine_transform", "hankel_transform",
    "inverse_hankel_transform", "singularityintegrate", "get_contraction_structure",
    "get_indices", "shape", "tensorproduct", "tensorcontraction", "tensordiagonal",
    "derive_by_array", "permutedims", "parse_expr", "euler_equations", "singularities",
    "is_increasing", "is_strictly_increasing", "is_decreasing", "is_strictly_decreasing",
    "is_monotonic", "finite_diff_weights", "apply_finite_diff", "differentiate_finite",
    "periodicity", "not_empty_in", "is_convex", "stationary_points", "minimum", "maximum",
    "pager_print", "pretty", "pretty_print", "pprint", "pprint_use_unicode",
    "pprint_try_use_unicode", "latex", "print_latex", "multiline_latex", "mathml",
    "print_mathml", "python", "print_python", "pycode", "ccode", "print_ccode", "smtlib_code",
    "glsl_code", "print_glsl", "cxxcode", "fcode", "print_fcode", "rcode", "print_rcode",
    "jscode", "print_jscode", "julia_code", "mathematica_code", "octave_code", "rust_code",
    "print_gtk", "preview", "srepr", "print_tree", "sstr", "sstrrepr", "dotprint",
    "maple_code", "print_maple_code", "plot", "textplot", "plot_implicit", "plot_parametric",
    "init_session", "init_printing", "interactive_traversal", "test", "doctest"]

/-- The other predefined objects, with the names of their types. -/
def instances : List (String × String) :=
  [("E", "Exp1"), ("I", "ImaginaryUnit"), ("nan", "NaN"), ("oo", "Infinity"), ("pi", "Pi"),
    ("zoo", "ComplexInfinity"), ("Catalan", "Catalan"), ("EulerGamma", "EulerGamma"),
    ("GoldenRatio", "GoldenRatio"), ("TribonacciConstant", "TribonacciConstant"),
    ("true", "BooleanTrue"), ("false", "BooleanFalse"), ("Q", "AssumptionKeys"),
    ("S", "SingletonRegistry"), ("EmptySet", "EmptySet"), ("Reals", "Reals"),
    ("Naturals", "Naturals"), ("Naturals0", "Naturals0"), ("UniversalSet", "UniversalSet"),
    ("Integers", "Integers"), ("Rationals", "Rationals"), ("Complexes", "Complexes"),
    ("Id", "IdentityFunction"), ("EmptySequence", "EmptySequence"),
    ("ZZ", "IntegerRing"), ("QQ", "RationalField"), ("RR", "RealField"),
    ("CC", "ComplexField"), ("EX", "ExpressionDomain"), ("EXRAW", "ExpressionRawDomain"),
    ("ZZ_I", "GaussianIntegerRing"), ("QQ_I", "GaussianRationalField"), ("lex", "LexOrder"),
    ("grlex", "GradedLexOrder"), ("grevlex", "ReversedGradedLexOrder"),
    ("ilex", "InverseOrder"), ("igrlex", "InverseOrder"), ("igrevlex", "InverseOrder"),
    ("GF", "type"), ("FF", "type")]

/-- The built-in functions. -/
def builtins : List String :=
  ["abs", "all", "any", "ascii", "bin", "breakpoint", "callable", "chr", "compile", "delattr",
    "dir", "divmod", "eval", "exec", "format", "getattr", "globals", "hasattr", "hash", "hex",
    "id", "input", "isinstance", "issubclass", "iter", "aiter", "len", "locals", "next",
    "anext", "oct", "ord", "print", "repr", "round", "setattr", "sorted", "sum", "vars",
    "open", "__import__", "__build_class__"]

/-- The names bound before the predefined ones: `pow` and `float` name the classes of powers
and floats. -/
def overrides : List (String × String) :=
  [("pow", "sympy.core.power.Pow"), ("float", "sympy.core.numbers.Float")]

/-- Whether a name is predefined. -/
def isPredefined (name : String) : Bool :=
  name == "max" || name == "min" || overrides.any (·.1 == name) ||
    functionClasses.contains name || classes.any (·.1 == name) || functions.contains name ||
    instances.any (·.1 == name) || builtins.contains name

end Names

end ExprTree.Formula
