import ExprTree.Formula.Syntax
import ExprTree.Formula.Fault
/-!
  The checks that code passes after it parses and before it runs, in two passes as the
  compiler makes them.

  The first pass looks at the scopes: a lambda may not name a parameter twice, a comprehension
  may not hold `yield`, and an assignment expression may neither rebind an iteration variable
  of a comprehension it stands in nor stand in the iterable of one.

  The second pass looks at the code in the order it is written: `yield` and `await` stand only
  in functions (and `await` only in asynchronous ones, which a lambda never is), and a call may
  not give one keyword argument twice.

  Every fault is placed on the first line: formula code is one line.
-/

namespace ExprTree.Formula

namespace Term

/-- The name a comprehension is called by in messages. -/
def comprehensionName : ComprehensionKind → String
  | .list => "list comprehension"
  | .set => "set comprehension"
  | .dict => "dict comprehension"
  | .generator => "generator expression"

/-- The names an assignment target binds. -/
def targetNames : Nat → Term → List String
  | 0, _ => []
  | fuel + 1, t =>
    match t with
    | .name n => [n]
    | .tuple xs | .list xs => xs.flatMap (targetNames fuel)
    | .starred x => targetNames fuel x
    | _ => []

/-- The terms that a list of pieces of a formatted string holds, in order. -/
def pieceTerms : Nat → List Piece → List Term
  | 0, _ => []
  | fuel + 1, ps =>
    ps.flatMap fun p =>
      match p with
      | .literal _ => []
      | .field v _ spec => v :: pieceTerms fuel spec

/-- The terms directly inside a term, in the order they are written; a lambda's body and a
comprehension's parts are left to the callers, which check them in their own scopes. -/
def parts : Nat → Term → List Term
  | 0, _ => []
  | fuel + 1, t =>
    match t with
    | .formatted ps => pieceTerms fuel ps
    | .tuple xs | .list xs | .set xs => xs
    | .dict es => es.flatMap fun (k, v) => k.toList ++ [v]
    | .starred x | .attribute x _ | .unary _ x | .walrus _ x | .yieldFrom x | .await x => [x]
    | .call f args kws => f :: args ++ kws.map Prod.snd
    | .subscript a b | .binary _ a b => [a, b]
    | .slice lo hi step => lo.toList ++ hi.toList ++ step.toList
    | .boolean _ xs => xs
    | .compare a rest => a :: rest.map Prod.snd
    | .cond test body orElse => [body, test, orElse]
    | .yield v => v.toList
    | _ => []

/-- The context of the scope pass: the iteration variables of the comprehensions around a
term, the kind of the innermost comprehension if the term stands in one, and whether the term
stands in a comprehension's iterable. -/
structure ScopeContext where
  iterVars : List String
  comprehension : Option ComprehensionKind
  inIterable : Bool

/-- A fault at the first line. -/
def atFirstLine (msg : String) : Fault := .malformed msg 1

/-- The first name that a list holds twice. -/
def firstRepeated : List String → Option String
  | [] => none
  | x :: xs => if xs.contains x then some x else firstRepeated xs

/-- The fault of the scope pass in a term, if any. -/
def scopeFault : Nat → ScopeContext → Term → Option Fault
  | 0, _, _ => none
  | fuel + 1, ctx, t =>
    let inner := fun (c : ScopeContext) (ts : List Term) => ts.findSome? (scopeFault fuel c)
    match t with
    | .lambda ps body =>
      match firstRepeated ps with
      | some p => some (atFirstLine ("duplicate argument \x27" ++ p ++ "\x27 in function definition"))
      | none => scopeFault fuel ⟨[], none, false⟩ body
    | .yield _ | .yieldFrom _ =>
      match ctx.comprehension with
      | some k => some (atFirstLine ("\x27yield\x27 inside " ++ comprehensionName k))
      | none => inner ctx (parts fuel t)
    | .walrus target value =>
      if ctx.inIterable then
        some (atFirstLine "assignment expression cannot be used in a comprehension iterable expression")
      else if ctx.iterVars.contains target then
        some (atFirstLine ("assignment expression cannot rebind comprehension iteration variable \x27" ++
          target ++ "\x27"))
      else scopeFault fuel ctx value
    | .comprehension kind elt value clauses =>
      let names := clauses.flatMap fun c =>
        match c with
        | .clause target _ _ => targetNames fuel target
      let within : ScopeContext := ⟨names ++ ctx.iterVars, some kind, false⟩
      let iterCtx : ScopeContext := { within with inIterable := true }
      let outerIter : ScopeContext := { ctx with inIterable := true }
      let clauseFault := clauses.zipIdx.findSome? fun (c, i) =>
        match c with
        | .clause target iter conds =>
          (scopeFault fuel (if i == 0 then outerIter else iterCtx) iter).orElse fun _ =>
            (scopeFault fuel within target).orElse fun _ => inner within conds
      clauseFault.orElse fun _ => inner within (elt :: value.toList)
    | _ => inner ctx (parts fuel t)

/-- The fault of the pass in written order in a term, if any; `inFunction` tells whether the
term stands in a lambda's body. -/
def orderFault : Nat → Bool → Term → Option Fault
  | 0, _, _ => none
  | fuel + 1, inFunction, t =>
    let inner := fun (ts : List Term) => ts.findSome? (orderFault fuel inFunction)
    match t with
    | .yield _ | .yieldFrom _ =>
      if inFunction then inner (parts fuel t) else some (atFirstLine "\x27yield\x27 outside function")
    | .await _ =>
      some (atFirstLine (if inFunction then "\x27await\x27 outside async function"
        else "\x27await\x27 outside function"))
    | .lambda _ body => orderFault fuel true body
    | .call f args kws =>
      let names := kws.filterMap Prod.fst
      (orderFault fuel inFunction f).orElse fun _ =>
        match firstRepeated names with
        | some k => some (atFirstLine ("keyword argument repeated: " ++ k))
        | none => inner (args ++ kws.map Prod.snd)
    | .comprehension _ elt value clauses =>
      let clauseTerms := clauses.flatMap fun c =>
        match c with
        | .clause target iter conds => iter :: target :: conds
      inner (clauseTerms ++ elt :: value.toList)
    | _ => inner (parts fuel t)

/-- How deep the checks follow a term. -/
def checkDepth : Nat := 100000

/-- The first fault of the checks made before code runs, if any. -/
def checkFault (t : Term) : Option Fault :=
  (scopeFault checkDepth ⟨[], none, false⟩ t).orElse fun _ => orderFault checkDepth false t

end Term

end ExprTree.Formula
