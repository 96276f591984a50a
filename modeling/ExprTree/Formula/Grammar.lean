import Std.Data.HashMap
import ExprTree.Formula.Syntax
import ExprTree.Formula.Lexeme
import ExprTree.Formula.Keyword
import ExprTree.Formula.Literal
/-!
  The grammar of formula code: from lexemes to a `Term`, with the fault the code's first error
  gives.

  The rules form a packrat grammar of ordered choices: each rule, at a place among the lexemes,
  either matches and gives a term and the place after it, or does not. Some rules keep their
  results by place, so that trying alternatives stays linear. The grammar reads the code twice
  when it fails. The first reading uses the rules of the language only. The second turns on the
  rules that only recognise a common mistake and name it ("invalid syntax. Perhaps you forgot a
  comma?"); when none of them fires, the fault is "invalid syntax" at the furthest lexeme the
  first reading looked at, or "unexpected indent" there if that lexeme is an indent.

  Lexing faults stand after the last lexeme. A reading that reaches one reports it. A fault the
  grammar names yields to a later lexing fault, unless that is a quiet one (indentation, a line
  continuation, the end of the text); a quiet end inside brackets wins only when the bracket
  opened on a line before the one the grammar reached.

  Every rule takes a fuel argument that bounds how deeply rules nest; running out of it is the
  fault of code too complex for the grammar's stack.
-/

namespace ExprTree.Formula

/-- A fault raised while reading code: the fault, whether the lexer raised it, and the furthest
lexeme looked at when it was raised. -/
structure Raised where
  fault : Fault
  lexer : Bool
  far : Nat
  deriving Inhabited

/-- What the rules of the grammar read: the lexemes, how lexing ended, and whether the rules that
name a mistake are on. -/
structure Reading where
  lex : LexResult
  naming : Bool := false

/-- What the rules keep as they go: the furthest lexeme looked at, and the results of the rules
that keep theirs, by rule and place. -/
structure Progress where
  far : Nat := 0
  memo : Std.HashMap (Nat × Nat) (Option (Term × Nat)) := {}

/-- The monad of the grammar's rules. -/
abbrev GrammarM := ReaderT Reading (StateT Progress (Except Raised))

/-- What a rule gives: a term and the place after it, if the rule matches. -/
abbrev Parsed := Option (Term × Nat)

/-- An argument after a call's leading positional ones: a starred iterable or a keyword argument
(a `**` mapping has no name). -/
inductive Argument where
  | star (value : Term)
  | keyword (name : Option String) (value : Term)
  deriving Inhabited

/-- The arguments of a call: the positional ones (starred ones unpack) and the keyword ones. -/
abbrev Arguments := List Term × List (Option String × Term)

namespace Grammar

/-- The depth of rules the grammar's stack holds. -/
def stackDepth : Nat := 6000

/-- The lexeme at place `i`; looking at it extends the furthest place looked at. A place past the
lexemes is where lexing stopped, and reading it raises the lexing fault. -/
def lexeme (i : Nat) : GrammarM Lexeme := do
  let r ← read
  modify fun s => { s with far := max s.far i }
  match r.lex.lexemes[i]? with
  | some t => pure t
  | none =>
    match r.lex.fault with
    | some f => throw ⟨f, true, (← get).far⟩
    | none => pure ⟨.endMarker, "", 0, 0, true⟩

/-- The line of the lexeme at `i`, without looking at it. -/
def lineOf (i : Nat) : GrammarM Nat := do
  let r ← read
  match r.lex.lexemes[i]? with
  | some t => pure t.line
  | none => pure ((r.lex.lexemes.back?.map (·.line)).getD 1)

/-- Raises a grammar fault at the line of lexeme `i`. -/
def fail {α : Type} (msg : String) (i : Nat) : GrammarM α := do
  throw ⟨.malformed msg (← lineOf i), false, (← get).far⟩

/-- Raises a grammar fault at the line of the furthest lexeme looked at. -/
def failHere {α : Type} (msg : String) : GrammarM α := do
  let far := (← get).far
  throw ⟨.malformed msg (← lineOf far), false, far⟩

/-- Raises the fault of rules nested deeper than the stack holds. -/
def deep {α : Type} : GrammarM α := do
  throw ⟨.tooComplex, false, (← get).far⟩

/-- Whether the lexeme at `i` is the operator `s`. -/
def op (s : String) (i : Nat) : GrammarM Bool := do
  let t ← lexeme i
  pure (t.kind == .op && t.text == s)

/-- Whether the lexeme at `i` is the keyword `s`. -/
def kw (s : String) (i : Nat) : GrammarM Bool := do
  let t ← lexeme i
  pure (t.kind == .name && t.text == s)

/-- The name at `i`, if the lexeme there is a name that is not a keyword. -/
def name (i : Nat) : GrammarM (Option String) := do
  let t ← lexeme i
  pure (if t.kind == .name && !isKeyword t.text then some t.text else none)

/-- Whether the lexeme at `i` has kind `k`. -/
def isKind (k : LexKind) (i : Nat) : GrammarM Bool := do
  pure ((← lexeme i).kind == k)

/-- Whether the rules that name a mistake are on. -/
def naming : GrammarM Bool := do
  pure (← read).naming

/-- Runs `body` with the rules that name a mistake off. -/
def plainly {α : Type} (body : GrammarM α) : GrammarM α :=
  withReader (fun r => { r with naming := false }) body

/-- Runs rule `rule` at place `i` through the table of kept results. -/
def memo (rule i : Nat) (body : GrammarM Parsed) : GrammarM Parsed := do
  let _ ← lexeme i
  match (← get).memo[(rule, i)]? with
  | some r => pure r
  | none =>
    let r ← body
    modify fun s => { s with memo := s.memo.insert (rule, i) r }
    pure r

/-- The number of lexemes, which bounds every loop over them. -/
def bound : GrammarM Nat := do
  pure ((← read).lex.lexemes.size + 1)

/-- `elem (sep elem)*`: at least one item, separated by the operator `sep`. -/
def gather {α : Type} (sep : String) (elem : Nat → GrammarM (Option (α × Nat))) (i : Nat) :
    GrammarM (Option (List α × Nat)) := do
  match ← elem i with
  | none => pure none
  | some (a, j) =>
    let (items, k) ← more [a] j (← bound)
    pure (some (items.reverse, k))
where
  /-- Reads further items after the place `j`. -/
  more (acc : List α) (j : Nat) : Nat → GrammarM (List α × Nat)
    | 0 => pure (acc, j)
    | n + 1 => do
      if ← op sep j then
        match ← elem (j + 1) with
        | some (a, k) => more (a :: acc) k n
        | none => pure (acc, j)
      else pure (acc, j)

/-- `(sep elem)*` from place `j`, with `sep` a test of one lexeme. -/
def after {α : Type} (sep : Nat → GrammarM Bool) (elem : Nat → GrammarM (Option (α × Nat)))
    (j : Nat) : GrammarM (List α × Nat) := do
  let (items, k) ← go [] j (← bound)
  pure (items.reverse, k)
where
  /-- Reads items after the place `j`. -/
  go (acc : List α) (j : Nat) : Nat → GrammarM (List α × Nat)
    | 0 => pure (acc, j)
    | n + 1 => do
      if ← sep j then
        match ← elem (j + 1) with
        | some (a, k) => go (a :: acc) k n
        | none => pure (acc, j)
      else pure (acc, j)

/-- `elem*` from place `j`. -/
def many {α : Type} (elem : Nat → GrammarM (Option (α × Nat))) (j : Nat) :
    GrammarM (List α × Nat) := do
  let (items, k) ← go [] j (← bound)
  pure (items.reverse, k)
where
  /-- Reads items from the place `j`. -/
  go (acc : List α) (j : Nat) : Nat → GrammarM (List α × Nat)
    | 0 => pure (acc, j)
    | n + 1 => do
      match ← elem j with
      | some (a, k) => go (a :: acc) k n
      | none => pure (acc, j)

/-- Skips a trailing comma at `j`, if there is one. -/
def trailingComma (j : Nat) : GrammarM Nat := do
  if ← op "," j then pure (j + 1) else pure j

/-- A left-associative chain: an operand, then operators of `ops` each followed by an operand;
the first operator whose operand matches extends the chain. -/
def chain (ops : List (String × BinaryOp)) (operand : Nat → GrammarM Parsed) (i : Nat) :
    GrammarM Parsed := do
  match ← operand i with
  | none => pure none
  | some (a, j) => some <$> grow a j (← bound)
where
  /-- Tries each operator at `j` in turn. -/
  step : List (String × BinaryOp) → Nat → GrammarM (Option (BinaryOp × Term × Nat))
    | [], _ => pure none
    | (s, o) :: rest, j => do
      if ← op s j then
        match ← operand (j + 1) with
        | some (b, k) => pure (some (o, b, k))
        | none => step rest j
      else step rest j
  /-- Extends the chain from `a`, which ends at `j`. -/
  grow (a : Term) (j : Nat) : Nat → GrammarM (Term × Nat)
    | 0 => pure (a, j)
    | n + 1 => do
      match ← step ops j with
      | some (o, b, k) => grow (.binary o a b) k n
      | none => pure (a, j)

/-- Extends `a`, which ends at `j`, by `trailer` as long as it matches. -/
def trailers (trailer : Term → Nat → GrammarM Parsed) (a : Term) (j : Nat) :
    GrammarM (Term × Nat) := do
  go a j (← bound)
where
  /-- Extends the term from the place `j`. -/
  go (a : Term) (j : Nat) : Nat → GrammarM (Term × Nat)
    | 0 => pure (a, j)
    | n + 1 => do
      match ← trailer a j with
      | some (b, k) => go b k n
      | none => pure (a, j)

/-- One comparison operator at `i` and its right operand. -/
def comparePair (operand : Nat → GrammarM Parsed) (i : Nat) :
    GrammarM (Option ((CompareOp × Term) × Nat)) := do
  let table : List (String × CompareOp) :=
    [("==", .eq), ("!=", .ne), ("<=", .le), ("<", .lt), (">=", .ge), (">", .gt)]
  match ← symbolic table with
  | some r => return some r
  | none => pure ()
  if ← kw "not" i then
    if ← kw "in" (i + 1) then
      match ← operand (i + 2) with
      | some (b, j) => return some ((.notIn, b), j)
      | none => pure ()
  if ← kw "in" i then
    match ← operand (i + 1) with
    | some (b, j) => return some ((.isIn, b), j)
    | none => pure ()
  if ← kw "is" i then
    if ← kw "not" (i + 1) then
      match ← operand (i + 2) with
      | some (b, j) => return some ((.isNot, b), j)
      | none => pure ()
  if ← kw "is" i then
    match ← operand (i + 1) with
    | some (b, j) => return some ((.is, b), j)
    | none => pure ()
  return none
where
  /-- The comparisons spelled by an operator. -/
  symbolic : List (String × CompareOp) → GrammarM (Option ((CompareOp × Term) × Nat))
    | [] => pure none
    | (s, o) :: rest => do
      if ← op s i then
        match ← operand (i + 1) with
        | some (b, j) => pure (some ((o, b), j))
        | none => symbolic rest
      else symbolic rest

/-- Whether a name is one of the statements of an older version of the language that became
functions, which a missing parenthesis most likely means. -/
def isLegacy : Term → Bool
  | .name "print" | .name "exec" => true
  | _ => false

/-- The part of a `for` target that cannot be assigned to, if any: lists and tuples are searched,
a starred target is looked into, the left side of an `in` comparison (how `for a in b` parses as
an expression) is searched, and names, subscripts and attributes are fine. -/
def badTarget : Term → Option Term
  | .list items | .tuple items => firstBad items
  | .starred value => badTarget value
  | .compare left ((.isIn, _) :: _) => badTarget left
  | .compare .. => none
  | .name _ | .subscript .. | .attribute .. => none
  | t => some t
where
  /-- The first bad target among `ts`. -/
  firstBad : List Term → Option Term
    | [] => none
    | t :: rest => (badTarget t).orElse fun _ => firstBad rest

/-- The message of a mistaken `=` where `==` or `:=` was meant. -/
def equalsMessage : String :=
  "invalid syntax. Maybe you meant \x27==\x27 or \x27:=\x27 instead of \x27=\x27?"

/-- The message of a formatted string field that does not close. -/
def expectingBrace : String := "f-string: expecting \x27\x7d\x27"

/-- The end of a literal run at a brace `ch`, with `rest` after it: at the top level a doubled
brace stands for one and ends the literal after its first brace, and a single closing brace is a
fault; otherwise the brace starts a field or ends a nested format. -/
def braceEnd (level : Nat) (ch : Char) (rest acc : List Char) :
    Except String (List Char × List Char × Bool) :=
  if level == 0 && rest.head? == some ch then .ok ((ch :: acc).reverse, rest.drop 1, true)
  else if level == 0 && ch == '}' then .error "f-string: single \x27\x7d\x27 is not allowed"
  else .ok (acc.reverse, ch :: rest, false)

/-- Reads the literal text at the start of a formatted string's body, up to a brace (see
`braceEnd`) or the end. Outside raw strings a backslash takes the next character with it, and
`\N` the character after it, or a whole braced name. -/
def literalRun (raw : Bool) (level : Nat) (cs acc : List Char) :
    Except String (List Char × List Char × Bool) :=
  match cs with
  | [] => .ok (acc.reverse, [], false)
  | c :: rest =>
    if !raw && c == '\\' then
      match rest with
      | 'N' :: more =>
        match more with
        | '{' :: name =>
          let k := min ((name.takeWhile (· != '}')).length + 1) name.length
          literalRun raw level (name.drop k) ((name.take k).reverse ++ ['{', 'N', '\\'] ++ acc)
        | e :: after => literalRun raw level after (e :: 'N' :: '\\' :: acc)
        | [] => literalRun raw level [] ('N' :: '\\' :: acc)
      | d :: more =>
        if d == '{' || d == '}' then braceEnd level d more ('\\' :: acc)
        else literalRun raw level more (d :: '\\' :: acc)
      | [] => .ok ((c :: acc).reverse, [], false)
    else if c == '{' || c == '}' then braceEnd level c rest acc
    else literalRun raw level rest (c :: acc)
termination_by cs.length
decreasing_by
  all_goals simp only [List.length_cons, List.length_drop, List.length_nil]
  all_goals omega

/-- Finds the end of a field's expression in a formatted string: the first `!`, `:`, `}` or `=`
outside brackets and strings that is not part of `!=`, `==`, `<=` or `>=`. Gives the expression
text and the rest, or the fault of a backslash, a `#`, an unbalanced bracket or an open string. -/
def fieldEnd (cs : List Char) : Except String (List Char × List Char) :=
  go cs [] none 0 []
where
  /-- Walks the characters with the expression so far, the open quote and its size, and the
  open brackets. -/
  go (cs acc : List Char) (quote : Option Char) (size : Nat) (stack : List Char) :
      Except String (List Char × List Char) :=
    match cs with
    | [] =>
      if quote.isSome then .error "f-string: unterminated string"
      else match stack with
        | o :: _ => .error ("f-string: unmatched \x27" ++ String.singleton o ++ "\x27")
        | [] => .ok (acc.reverse, [])
    | c :: rest =>
      if c == '\\' then .error "f-string expression part cannot include a backslash"
      else match quote with
        | some q =>
          if c == q then
            if size == 3 then
              match rest with
              | a :: b :: more =>
                if a == q && b == q then go more (b :: a :: c :: acc) none 0 stack
                else go (a :: b :: more) (c :: acc) quote size stack
              | other => go other (c :: acc) quote size stack
            else go rest (c :: acc) none 0 stack
          else go rest (c :: acc) quote size stack
        | none =>
          if c == '\x27' || c == '"' then
            match rest with
            | a :: b :: more =>
              if a == c && b == c then go more (b :: a :: c :: acc) (some c) 3 stack
              else go (a :: b :: more) (c :: acc) (some c) 1 stack
            | other => go other (c :: acc) (some c) 1 stack
          else if c == '[' || c == '{' || c == '(' then
            if stack.length ≥ 200 then .error "f-string: too many nested parenthesis"
            else go rest (c :: acc) none 0 (c :: stack)
          else if c == '#' then .error "f-string expression part cannot include \x27#\x27"
          else if stack.isEmpty && (c == '!' || c == ':' || c == '}' || c == '=' || c == '>' ||
              c == '<') then
            match rest with
            | '=' :: more =>
              if c == '!' || c == '=' || c == '<' || c == '>' then
                go more ('=' :: c :: acc) none 0 stack
              else .ok (acc.reverse, c :: rest)
            | other =>
              if c == '>' || c == '<' then go other (c :: acc) none 0 stack
              else .ok (acc.reverse, c :: rest)
          else if c == ']' || c == '}' || c == ')' then
            match stack with
            | [] => .error ("f-string: unmatched \x27" ++ String.singleton c ++ "\x27")
            | o :: outer =>
              if (o == '(' && c == ')') || (o == '[' && c == ']') || (o == '{' && c == '}') then
                go rest (c :: acc) none 0 outer
              else
                .error ("f-string: closing parenthesis \x27" ++ String.singleton c ++
                  "\x27 does not match opening parenthesis \x27" ++ String.singleton o ++ "\x27")
          else go rest (c :: acc) none 0 stack
  termination_by cs.length
  decreasing_by
    all_goals (simp only [List.length_cons]; omega)

/-- Whether `c` is a blank the grammar skips before a field's expression. -/
def isFieldBlank (c : Char) : Bool := c == ' ' || c == '\t' || c == '\n' || c.toNat == 12

/-- Whether `c` is ASCII white space. -/
def isSpace (c : Char) : Bool :=
  c == ' ' || c == '\t' || c == '\n' || c == '\r' || c.toNat == 11 || c.toNat == 12

/-- The fault of a literal part of a formatted string whose escapes do not decode. -/
def literalText (raw : Bool) (body : List Char) : GrammarM String := do
  match StringLiteral.decodeText raw body with
  | .ok s => pure s
  | .error e => failHere e.message

/-- The pieces of a formatted string's body at nesting `level`: literal runs and fields, the
fields read by `field` (which starts at an opening brace and gives its pieces and the rest after
the closing one). Gives the pieces and the rest: empty, or a closing brace that ends a nested
format. -/
def pieces (raw : Bool) (level : Nat) (field : List Char → GrammarM (List Piece × List Char)) :
    Nat → List Char → List Piece → GrammarM (List Piece × List Char)
  | 0, cs, acc => pure (acc.reverse, cs)
  | n + 1, cs, acc => do
    let (lit, rest, doubled) ← match literalRun raw level cs [] with
      | .ok r => pure r
      | .error msg => failHere msg
    let acc ← if lit.isEmpty then pure acc else do
      let s ← literalText raw lit
      pure (.literal s :: acc)
    if doubled then pieces raw level field n rest acc
    else
      match rest with
      | '{' :: _ =>
        let (ps, rest) ← field rest
        pieces raw level field n rest (ps.reverse ++ acc)
      | _ => pure (acc.reverse, rest)

/-- The line offset and prefix of faults raised inside a field of a formatted string. -/
def shiftFault (line : Nat) (grammar : Bool) : Fault → Fault
  | .malformed msg l => .malformed ((if grammar then "f-string: " else "") ++ msg) (l + line - 1)
  | .indent msg l => .indent ((if grammar then "f-string: " else "") ++ msg) (l + line - 1)
  | f => f

/-- The fault that settles a failed reading once lexing is checked to the end: a loud lexing
fault replaces it, and a quiet end inside a bracket opened before the line the grammar reached
(`errLine`) replaces it with the unclosed bracket. Also tells whether the grammar raised the
fault that stands. -/
def settle (lex : LexResult) (f : Fault) (errLine : Nat) : Fault × Bool :=
  match lex.fault with
  | some g =>
    if !lex.quiet then (g, false)
    else
      match lex.openBracket with
      | some (c, l) =>
        if errLine > l then (.malformed ("\x27" ++ String.singleton c ++ "\x27 was never closed") l, true)
        else (f, true)
      | none => (f, true)
  | none => (f, true)

/-- The line of lexeme `i` of a lexing result. -/
def lexLine (lex : LexResult) (i : Nat) : Nat :=
  match lex.lexemes[i]? with
  | some t => t.line
  | none => (lex.lexemes.back?.map (·.line)).getD 1

/-- Reads lexed code with a start rule: first with the rules of the language, then, if that fails,
again with the rules that name mistakes. Gives the term, or the fault and whether the grammar (not
the lexer) raised it. A fault that a rule names is settled against the rest of the text only if
the lexemes read so far have not looked past its end. -/
def twoPasses (lex : LexResult) (start : GrammarM Parsed) : Except (Fault × Bool) Term :=
  let settleRaised := fun (r : Raised) =>
    if r.lexer then (r.fault, lex.quiet)
    else
      let readToEnd := ((lex.lexemes[r.far]?).map (·.atEnd)).getD false
      match r.fault with
      | .malformed .. | .indent .. =>
        if readToEnd then (r.fault, true) else settle lex r.fault (lexLine lex r.far)
      | f => (f, true)
  match (start.run { lex := lex, naming := false }).run {} with
  | .ok (some (t, _), _) => .ok t
  | .error r => .error (settleRaised r)
  | .ok (none, first) =>
    match (start.run { lex := lex, naming := true }).run { far := first.far } with
    | .error r => .error (settleRaised r)
    | .ok (_, second) =>
      let lastAll := lexLine lex second.far
      match (lex.lexemes[first.far]?).map (·.kind) with
      | some LexKind.indent => .error (.indent "unexpected indent" lastAll, true)
      | some LexKind.dedent => .error (.indent "unexpected unindent" lastAll, true)
      | _ => .error (settle lex (.malformed "invalid syntax" (lexLine lex first.far)) lastAll)

/-- The fault of a decimal whole number with more digits than the limit of conversion, if it is
one. -/
def digitFault (text : String) : Option String :=
  let cs := text.toList
  let isDecimal := !(cs.any fun c => c == '.' || c == 'e' || c == 'E' || c == 'j' || c == 'J' ||
    c == 'x' || c == 'X' || c == 'o' || c == 'O' || c == 'b' || c == 'B')
  let digits := (cs.filter (· != '_')).length
  if isDecimal && digits > 4300 then
    some ("Exceeds the limit (4300 digits) for integer string conversion: value has " ++
      toString digits ++ " digits; use sys.set_int_max_str_digits() to increase the limit" ++
      " - Consider hexadecimal for huge integer literals to avoid decimal conversion limits.")
  else none

/-- The arguments of a call from its positional arguments and the arguments after them: starred
ones join the positional ones, in order. -/
def collect (pos : List Term) (rest : List Argument) : Arguments :=
  (pos ++ rest.filterMap (fun a => match a with
      | .star v => some v
      | .keyword .. => none),
    rest.filterMap (fun a => match a with
      | .keyword n v => some (n, v)
      | .star _ => none))

/-- Whether the lexeme at `j` opens a call or subscript or an attribute access. -/
def tLookahead (j : Nat) : GrammarM Bool := do
  pure ((← op "(" j) || (← op "[" j) || (← op "." j))

/-- `lambda_param_no_default`: a name followed by a comma, or before the `:`. -/
def lambdaParamNoDefault (i : Nat) : GrammarM (Option (String × Nat)) := do
  match ← name i with
  | some n =>
    if ← op "," (i + 1) then return some (n, i + 2)
    if ← op ":" (i + 1) then return some (n, i + 1)
    return none
  | none => return none

/-- `lambda_slash_no_default`: plain parameters before `/`. -/
def lambdaSlashNoDefault (i : Nat) : GrammarM (Option (List String × Nat)) := do
  let (ps, j) ← many lambdaParamNoDefault i
  if ps.isEmpty then return none
  if ← op "/" j then
    if ← op "," (j + 1) then return some (ps, j + 2)
    if ← op ":" (j + 1) then return some (ps, j + 1)
  return none

/-- Names a default on the `**` parameter and parameters after it. -/
def invalidLambdaKwds (i : Nat) : GrammarM Unit := do
  let follows := "arguments cannot follow var-keyword argument"
  if ← op "**" i then
    if (← name (i + 1)).isSome then
      if ← op "=" (i + 2) then fail "var-keyword argument cannot have default value" (i + 2)
  if ← op "**" i then
    if (← name (i + 1)).isSome then
      if ← op "," (i + 2) then
        if (← name (i + 3)).isSome then fail follows (i + 3)
  if ← op "**" i then
    if (← name (i + 1)).isSome then
      if ← op "," (i + 2) then
        let t ← lexeme (i + 3)
        if t.kind == .op && (t.text == "*" || t.text == "**" || t.text == "/") then
          fail follows (i + 3)

/-- `lambda_kwds`: `**` and a parameter. -/
def lambdaKwds (i : Nat) : GrammarM (Option (String × Nat)) := do
  if ← naming then invalidLambdaKwds i
  if ← op "**" i then
    match ← lambdaParamNoDefault (i + 1) with
    | some r => return some r
    | none => pure ()
  return none

mutual

/-- `expressions`: an expression, or a tuple of them separated by commas. -/
def expressions : Nat → Nat → GrammarM Parsed
  | 0, _ => deep
  | f + 1, i => do
    match ← expression f i with
    | none => pure none
    | some (a, j) =>
      let (rest, k) ← after (op ",") (expression f) j
      if !rest.isEmpty then
        return some (.tuple (a :: rest), ← trailingComma k)
      if ← op "," j then return some (.tuple [a], j + 1)
      return some (a, j)

/-- `expression`: a conditional expression, a disjunction or a lambda; in the second reading a
missing comma or a missing `else` is named first. -/
def expression : Nat → Nat → GrammarM Parsed
  | 0, _ => deep
  | f + 1, i => memo 1 i do
    if ← naming then
      invalidExpression f i
      invalidLegacyExpression f i
    conditional f i
termination_by structural fuel _ => fuel

/-- An expression without the rules that name mistakes at its own level. -/
def conditional : Nat → Nat → GrammarM Parsed
  | 0, _ => deep
  | f + 1, i => do
    match ← disjunction f i with
    | some (a, j) =>
      if ← kw "if" j then
        match ← disjunction f (j + 1) with
        | some (b, k) =>
          if ← kw "else" k then
            match ← expression f (k + 1) with
            | some (c, l) => return some (.cond b a c, l)
            | none => pure ()
        | none => pure ()
      return some (a, j)
    | none => lambdef f i
termination_by structural fuel _ => fuel

/-- Names two expressions in a row inside brackets as a missing comma, and a conditional
expression without `else`. -/
def invalidExpression : Nat → Nat → GrammarM Unit
  | 0, _ => deep
  | f + 1, i => do
    let t ← lexeme i
    let nameString ← if t.kind == .name && !isKeyword t.text then isKind .string (i + 1)
      else pure false
    let soft := t.kind == .name && softKeywords.contains t.text
    if !(nameString || soft) then
      match ← disjunction f i with
      | some (a, j) =>
        match ← plainly (conditional f j) with
        | some (_, k) =>
          let last := ((← read).lex.lexemes[k - 1]?).map (·.depth)
          if !isLegacy a && last != some 0 then
            fail "invalid syntax. Perhaps you forgot a comma?" i
          return ()
        | none => pure ()
      | none => pure ()
    match ← disjunction f i with
    | some (_, j) =>
      if ← kw "if" j then
        match ← disjunction f (j + 1) with
        | some (_, k) =>
          if !(← kw "else" k) && !(← op ":" k) then
            fail "expected \x27else\x27 after \x27if\x27 expression" i
        | none => pure ()
    | none => pure ()
termination_by structural fuel _ => fuel

/-- Names a statement of an older version of the language used without parentheses. -/
def invalidLegacyExpression : Nat → Nat → GrammarM Unit
  | 0, _ => deep
  | f + 1, i => do
    match ← name i with
    | some n =>
      if !(← op "(" (i + 1)) then
        match ← starExpressions f (i + 1) with
        | some _ =>
          if isLegacy (.name n) then
            fail ("Missing parentheses in call to \x27" ++ n ++ "\x27. Did you mean " ++ n ++
              "(...)?") i
        | none => pure ()
    | none => pure ()
termination_by structural fuel _ => fuel

/-- `disjunction`: conjunctions joined by `or`. -/
def disjunction : Nat → Nat → GrammarM Parsed
  | 0, _ => deep
  | f + 1, i => memo 2 i do
    match ← conjunction f i with
    | none => pure none
    | some (a, j) =>
      let (rest, k) ← after (kw "or") (conjunction f) j
      if rest.isEmpty then pure (some (a, j)) else pure (some (.boolean false (a :: rest), k))
termination_by structural fuel _ => fuel

/-- `conjunction`: inversions joined by `and`. -/
def conjunction : Nat → Nat → GrammarM Parsed
  | 0, _ => deep
  | f + 1, i => memo 3 i do
    match ← inversion f i with
    | none => pure none
    | some (a, j) =>
      let (rest, k) ← after (kw "and") (inversion f) j
      if rest.isEmpty then pure (some (a, j)) else pure (some (.boolean true (a :: rest), k))
termination_by structural fuel _ => fuel

/-- `inversion`: `not` before an inversion, or a comparison. -/
def inversion : Nat → Nat → GrammarM Parsed
  | 0, _ => deep
  | f + 1, i => memo 4 i do
    if ← kw "not" i then
      match ← inversion f (i + 1) with
      | some (a, j) => return some (.unary .not a, j)
      | none => pure ()
    comparison f i
termination_by structural fuel _ => fuel

/-- `comparison`: a chain of comparisons. -/
def comparison : Nat → Nat → GrammarM Parsed
  | 0, _ => deep
  | f + 1, i => do
    match ← bitwiseOr f i with
    | none => pure none
    | some (a, j) =>
      let (pairs, k) ← many (comparePair (bitwiseOr f)) j
      if pairs.isEmpty then pure (some (a, j)) else pure (some (.compare a pairs, k))
termination_by structural fuel _ => fuel

/-- `bitwise_or`. -/
def bitwiseOr : Nat → Nat → GrammarM Parsed
  | 0, _ => deep
  | f + 1, i => memo 5 i (chain [("|", .bitOr)] (bitwiseXor f) i)
termination_by structural fuel _ => fuel

/-- `bitwise_xor`. -/
def bitwiseXor : Nat → Nat → GrammarM Parsed
  | 0, _ => deep
  | f + 1, i => memo 6 i (chain [("^", .bitXor)] (bitwiseAnd f) i)
termination_by structural fuel _ => fuel

/-- `bitwise_and`. -/
def bitwiseAnd : Nat → Nat → GrammarM Parsed
  | 0, _ => deep
  | f + 1, i => memo 7 i (chain [("&", .bitAnd)] (shiftExpr f) i)
termination_by structural fuel _ => fuel

/-- `shift_expr`. -/
def shiftExpr : Nat → Nat → GrammarM Parsed
  | 0, _ => deep
  | f + 1, i => memo 8 i (chain [("<<", .shiftLeft), (">>", .shiftRight)] (sum f) i)
termination_by structural fuel _ => fuel

/-- `sum`. -/
def sum : Nat → Nat → GrammarM Parsed
  | 0, _ => deep
  | f + 1, i => memo 9 i (chain [("+", .add), ("-", .sub)] (term f) i)
termination_by structural fuel _ => fuel

/-- `term`. -/
def term : Nat → Nat → GrammarM Parsed
  | 0, _ => deep
  | f + 1, i =>
    memo 10 i (chain [("*", .mul), ("/", .div), ("//", .floorDiv), ("%", .mod), ("@", .matMul)]
      (factor f) i)
termination_by structural fuel _ => fuel

/-- `factor`: a sign or `~` before a factor, or a power. -/
def factor : Nat → Nat → GrammarM Parsed
  | 0, _ => deep
  | f + 1, i => memo 11 i do
    for (s, o) in [("+", UnaryOp.pos), ("-", UnaryOp.neg), ("~", UnaryOp.invert)] do
      if ← op s i then
        match ← factor f (i + 1) with
        | some (a, j) => return some (.unary o a, j)
        | none => pure ()
    power f i
termination_by structural fuel _ => fuel

/-- `power`: a primary, raised to a factor. -/
def power : Nat → Nat → GrammarM Parsed
  | 0, _ => deep
  | f + 1, i => do
    match ← awaitPrimary f i with
    | none => pure none
    | some (a, j) =>
      if ← op "**" j then
        match ← factor f (j + 1) with
        | some (b, k) => return some (.binary .pow a b, k)
        | none => pure ()
      return some (a, j)
termination_by structural fuel _ => fuel

/-- `await_primary`. -/
def awaitPrimary : Nat → Nat → GrammarM Parsed
  | 0, _ => deep
  | f + 1, i => memo 12 i do
    if ← kw "await" i then
      match ← primary f (i + 1) with
      | some (a, j) => return some (.await a, j)
      | none => pure ()
    primary f i
termination_by structural fuel _ => fuel

/-- `primary`: an atom followed by attribute accesses, calls and subscripts. -/
def primary : Nat → Nat → GrammarM Parsed
  | 0, _ => deep
  | f + 1, i => memo 13 i do
    match ← atom f i with
    | none => pure none
    | some (a, j) => some <$> trailers (trailer f) a j
termination_by structural fuel _ => fuel

/-- One attribute access, generator argument, call or subscript after the term `a`. -/
def trailer : Nat → Term → Nat → GrammarM Parsed
  | 0, _, _ => deep
  | f + 1, a, j => do
    if ← op "." j then
      match ← name (j + 1) with
      | some n => return some (.attribute a n, j + 2)
      | none => pure ()
    match ← genexp f j with
    | some (g, k) => return some (.call a [g] [], k)
    | none => pure ()
    if ← op "(" j then
      let (args, k) ← match ← arguments f (j + 1) with
        | some (.call _ pos kws, k) => pure ((pos, kws), k)
        | _ => pure (([], []), j + 1)
      if ← op ")" k then return some (.call a args.1 args.2, k + 1)
    if ← op "[" j then
      match ← slices f (j + 1) with
      | some (s, k) => if ← op "]" k then return some (.subscript a s, k + 1)
      | none => pure ()
    return none
termination_by structural fuel _ _ => fuel

/-- `atom`: a name, a keyword constant, strings, a number, a bracketed form or `...`. -/
def atom : Nat → Nat → GrammarM Parsed
  | 0, _ => deep
  | f + 1, i => do
    let t ← lexeme i
    match t.kind with
    | .name =>
      if !isKeyword t.text then return some (.name t.text, i + 1)
      if t.text == "True" then return some (.const .true, i + 1)
      if t.text == "False" then return some (.const .false, i + 1)
      if t.text == "None" then return some (.const .none, i + 1)
      return none
    | .string => strings f i
    | .number =>
      match digitFault t.text with
      | some msg => fail msg i
      | none => return some (.number t.text, i + 1)
    | .op =>
      if t.text == "(" then
        match ← tupleDisplay f i with
        | some r => return some r
        | none => pure ()
        match ← group f i with
        | some r => return some r
        | none => pure ()
        return ← genexp f i
      if t.text == "[" then
        match ← listDisplay f i with
        | some r => return some r
        | none => pure ()
        return ← listcomp f i
      if t.text == "\x7b" then
        match ← dictDisplay f i with
        | some r => return some r
        | none => pure ()
        match ← setDisplay f i with
        | some r => return some r
        | none => pure ()
        match ← dictcomp f i with
        | some r => return some r
        | none => pure ()
        return ← setcomp f i
      if t.text == "..." then return some (.const .ellipsis, i + 1)
      return none
    | _ => return none
termination_by structural fuel _ => fuel

/-- `strings`: string literals in a row, joined into one value. -/
def strings : Nat → Nat → GrammarM Parsed
  | 0, _ => deep
  | f + 1, i => memo 14 i do
    let (ts, j) ← many (fun k => do
      let t ← lexeme k
      pure (if t.kind == .string then some ((t, k), k + 1) else none)) i
    if ts.isEmpty then return none
    let mut isBytes := false
    let mut anyFormatted := false
    let mut parts : List Piece := []
    let mut data : List Nat := []
    let mut first := true
    for (t, place) in ts do
      let lit := StringLiteral.ofLexeme t.text
      let piece : List Piece ⊕ List Nat ← if lit.formatted then pure (.inl [])
        else if lit.bytes then
          match StringLiteral.decodeBytes lit.raw lit.body with
          | .ok bs => pure (.inr bs)
          | .error .nonAscii => fail EscapeFault.nonAscii.message place
          | .error e => failHere e.message
        else
          match StringLiteral.decodeText lit.raw lit.body with
          | .ok s => pure (.inl [.literal s])
          | .error e => failHere e.message
      if !first && isBytes != lit.bytes then failHere "cannot mix bytes and nonbytes literals"
      isBytes := lit.bytes
      first := false
      match piece with
      | .inr bs => data := data ++ bs
      | .inl ps =>
        if lit.formatted then
          anyFormatted := true
          let (ps, _) ← pieces lit.raw 0 (formattedField f lit.raw 0 t.line) (lit.body.length + 1)
            lit.body []
          parts := parts ++ ps
        else parts := parts ++ ps
    if isBytes then return some (.bytes data, j)
    if anyFormatted then return some (.formatted parts, j)
    let text := String.join (parts.map fun p => match p with
      | .literal s => s
      | _ => "")
    return some (.text text, j)
termination_by structural fuel _ => fuel

/-- A field of a formatted string, from its opening brace: the expression, an optional `=`, a
conversion and a format, and the closing brace. Gives its pieces (the text of the expression
before a field with `=`) and the rest of the body. -/
def formattedField : Nat → Bool → Nat → Nat → List Char → GrammarM (List Piece × List Char)
  | 0, _, _, _, _ => deep
  | f + 1, raw, level, line, cs => do
    if level ≥ 2 then failHere "f-string: expressions nested too deeply"
    let body := cs.drop 1
    let (exprText, rest) ← match fieldEnd body with
      | .ok r => pure r
      | .error msg => failHere msg
    let stop ← match rest.head? with
      | some c => pure c
      | none => failHere expectingBrace
    let value ← fieldValue f exprText stop line
    -- a field that shows its own text
    let (shown, rest) :=
      if stop == '=' then
        let spaces := (rest.drop 1).takeWhile isSpace
        (some (String.ofList (exprText ++ ['='] ++ spaces)), (rest.drop 1).drop spaces.length)
      else (none, rest)
    if rest.isEmpty then failHere expectingBrace
    let (conversion, rest) ← match rest with
      | '!' :: more =>
        match more with
        | [] => failHere expectingBrace
        | c :: after =>
          if c == 's' || c == 'r' || c == 'a' then pure (some c, after)
          else failHere ("f-string: invalid conversion character: expected \x27s\x27, " ++
            "\x27r\x27, or \x27a\x27")
      | _ => pure (none, rest)
    let (spec, rest) ← match rest with
      | ':' :: more =>
        if more.isEmpty then failHere expectingBrace
        let (ps, after) ← pieces raw (level + 1) (formattedField f raw (level + 1) line)
          (more.length + 1) more []
        if after.head? != some '}' then failHere expectingBrace
        pure (some ps, after)
      | _ => pure (none, rest)
    match rest with
    | '}' :: more =>
      let conversion :=
        if shown.isSome && spec.isNone && conversion.isNone then some 'r' else conversion
      let lead := match shown with
        | some s => [Piece.literal s]
        | none => []
      pure (lead ++ [.field value conversion (spec.getD [])], more)
    | _ => failHere expectingBrace
termination_by structural fuel _ _ _ _ => fuel

/-- The expression of a field of a formatted string, read as code of its own in parentheses;
`stop` is the character that ended it. -/
def fieldValue : Nat → List Char → Char → Nat → GrammarM Term
  | 0, _, _, _ => deep
  | f + 1, text, stop, line => do
    if text.all isFieldBlank then
      if stop == '!' || stop == ':' || stop == '=' then
        failHere ("f-string: expression required before \x27" ++ String.singleton stop ++ "\x27")
      failHere "f-string: empty expression not allowed"
    let code := "(" ++ String.ofList text ++ ")"
    let lex := Lexeme.scan code
    match twoPasses lex (starExpressions f 0) with
    | .ok t => pure t
    | .error (g, grammar) => throw ⟨shiftFault line grammar g, false, (← get).far⟩
termination_by structural fuel _ _ _ => fuel

/-- `tuple`: a parenthesized tuple. -/
def tupleDisplay : Nat → Nat → GrammarM Parsed
  | 0, _ => deep
  | f + 1, i => do
    if !(← op "(" i) then return none
    let (items, j) ← do
      match ← starNamedExpression f (i + 1) with
      | some (y, j) =>
        if ← op "," j then
          match ← starNamedExpressions f (j + 1) with
          | some (zs, k) => pure (y :: zs, k)
          | none => pure ([y], j + 1)
        else pure ([], i + 1)
      | none => pure ([], i + 1)
    if ← op ")" j then return some (.tuple items, j + 1)
    return none
termination_by structural fuel _ => fuel

/-- `group`: a parenthesized expression. -/
def group : Nat → Nat → GrammarM Parsed
  | 0, _ => deep
  | f + 1, i => do
    if ← op "(" i then
      let inner ← match ← yieldExpr f (i + 1) with
        | some r => pure (some r)
        | none => namedExpression f (i + 1)
      match inner with
      | some (a, j) => if ← op ")" j then return some (a, j + 1)
      | none => pure ()
    if ← naming then invalidGroup f i
    return none
termination_by structural fuel _ => fuel

/-- Names a starred or double-starred expression in parentheses. -/
def invalidGroup : Nat → Nat → GrammarM Unit
  | 0, _ => deep
  | f + 1, i => do
    if ← op "(" i then
      match ← starredExpression f (i + 1) with
      | some (_, j) => if ← op ")" j then fail "cannot use starred expression here" (i + 1)
      | none => pure ()
    if ← op "(" i then
      if ← op "**" (i + 1) then
        match ← expression f (i + 2) with
        | some (_, j) =>
          if ← op ")" j then fail "cannot use double starred expression here" (i + 1)
        | none => pure ()
termination_by structural fuel _ => fuel

/-- `genexp`: a generator expression in parentheses. -/
def genexp : Nat → Nat → GrammarM Parsed
  | 0, _ => deep
  | f + 1, i => do
    if ← op "(" i then
      let elt ← match ← assignmentExpression f (i + 1) with
        | some r => pure (some r)
        | none =>
          match ← expression f (i + 1) with
          | some (e, j) => if ← op ":=" j then pure none else pure (some (e, j))
          | none => pure none
      match elt with
      | some (e, j) =>
        match ← forIfClauses f j with
        | some (cs, k) =>
          if ← op ")" k then return some (.comprehension .generator e none cs, k + 1)
        | none => pure ()
      | none => pure ()
    if ← naming then invalidComprehension f i
    return none
termination_by structural fuel _ => fuel

/-- `list`: a list display. -/
def listDisplay : Nat → Nat → GrammarM Parsed
  | 0, _ => deep
  | f + 1, i => do
    if !(← op "[" i) then return none
    let (items, j) ← match ← starNamedExpressions f (i + 1) with
      | some r => pure r
      | none => pure ([], i + 1)
    if ← op "]" j then return some (.list items, j + 1)
    return none
termination_by structural fuel _ => fuel

/-- `listcomp`: a list comprehension. -/
def listcomp : Nat → Nat → GrammarM Parsed
  | 0, _ => deep
  | f + 1, i => do
    if ← op "[" i then
      match ← namedExpression f (i + 1) with
      | some (a, j) =>
        match ← forIfClauses f j with
        | some (cs, k) =>
          if ← op "]" k then return some (.comprehension .list a none cs, k + 1)
        | none => pure ()
      | none => pure ()
    if ← naming then invalidComprehension f i
    return none
termination_by structural fuel _ => fuel

/-- `dict`: a dictionary display. -/
def dictDisplay : Nat → Nat → GrammarM Parsed
  | 0, _ => deep
  | f + 1, i => do
    if !(← op "\x7b" i) then return none
    let (entries, j) ← match ← doubleStarredKvpairs f (i + 1) with
      | some r => pure r
      | none => pure ([], i + 1)
    if ← op "\x7d" j then return some (.dict entries, j + 1)
    invalidDoubleStarredKvpairs f (i + 1)
    return none
termination_by structural fuel _ => fuel

/-- `set`: a set display. -/
def setDisplay : Nat → Nat → GrammarM Parsed
  | 0, _ => deep
  | f + 1, i => do
    if !(← op "\x7b" i) then return none
    match ← starNamedExpressions f (i + 1) with
    | some (items, j) => if ← op "\x7d" j then return some (.set items, j + 1)
    | none => pure ()
    return none
termination_by structural fuel _ => fuel

/-- `dictcomp`: a dictionary comprehension. -/
def dictcomp : Nat → Nat → GrammarM Parsed
  | 0, _ => deep
  | f + 1, i => do
    if ← op "\x7b" i then
      match ← kvpair f (i + 1) with
      | some ((k, v), j) =>
        match ← forIfClauses f j with
        | some (cs, l) =>
          if ← op "\x7d" l then return some (.comprehension .dict k (some v) cs, l + 1)
        | none => pure ()
      | none => pure ()
    if ← naming then invalidDictComprehension f i
    return none
termination_by structural fuel _ => fuel

/-- `setcomp`: a set comprehension. -/
def setcomp : Nat → Nat → GrammarM Parsed
  | 0, _ => deep
  | f + 1, i => do
    if ← op "\x7b" i then
      match ← namedExpression f (i + 1) with
      | some (a, j) =>
        match ← forIfClauses f j with
        | some (cs, k) =>
          if ← op "\x7d" k then return some (.comprehension .set a none cs, k + 1)
        | none => pure ()
      | none => pure ()
    if ← naming then invalidComprehension f i
    return none
termination_by structural fuel _ => fuel

/-- Names unpacking in a comprehension and a comprehension target that lacks parentheses. -/
def invalidComprehension : Nat → Nat → GrammarM Unit
  | 0, _ => deep
  | f + 1, i => do
    if (← op "[" i) || (← op "(" i) || (← op "\x7b" i) then
      match ← starredExpression f (i + 1) with
      | some (_, j) =>
        match ← forIfClauses f j with
        | some _ => fail "iterable unpacking cannot be used in comprehension" (i + 1)
        | none => pure ()
      | none => pure ()
    let msg := "did you forget parentheses around the comprehension target?"
    if (← op "[" i) || (← op "\x7b" i) then
      match ← starNamedExpression f (i + 1) with
      | some (_, j) =>
        if ← op "," j then
          match ← starNamedExpressions f (j + 1) with
          | some (_, k) =>
            match ← forIfClauses f k with
            | some _ => fail msg (i + 1)
            | none => pure ()
          | none => pure ()
      | none => pure ()
    if (← op "[" i) || (← op "\x7b" i) then
      match ← starNamedExpression f (i + 1) with
      | some (_, j) =>
        if ← op "," j then
          match ← forIfClauses f (j + 1) with
          | some _ => fail msg (i + 1)
          | none => pure ()
      | none => pure ()
termination_by structural fuel _ => fuel

/-- Names mapping unpacking in a dictionary comprehension. -/
def invalidDictComprehension : Nat → Nat → GrammarM Unit
  | 0, _ => deep
  | f + 1, i => do
    if ← op "\x7b" i then
      if ← op "**" (i + 1) then
        match ← bitwiseOr f (i + 2) with
        | some (_, j) =>
          match ← forIfClauses f j with
          | some (_, k) =>
            if ← op "\x7d" k then fail "dict unpacking cannot be used in dict comprehension" (i + 1)
          | none => pure ()
        | none => pure ()
termination_by structural fuel _ => fuel

/-- `kvpair`: a key and a value. -/
def kvpair : Nat → Nat → GrammarM (Option ((Term × Term) × Nat))
  | 0, _ => deep
  | f + 1, i => do
    match ← expression f i with
    | some (k, j) =>
      if ← op ":" j then
        match ← expression f (j + 1) with
        | some (v, l) => return some ((k, v), l)
        | none => pure ()
      return none
    | none => return none
termination_by structural fuel _ => fuel

/-- `double_starred_kvpair`: a mapping to unpack, or a key and a value. -/
def doubleStarredKvpair : Nat → Nat → GrammarM (Option ((Option Term × Term) × Nat))
  | 0, _ => deep
  | f + 1, i => do
    if ← op "**" i then
      match ← bitwiseOr f (i + 1) with
      | some (m, j) => return some ((none, m), j)
      | none => pure ()
    match ← kvpair f i with
    | some ((k, v), j) => return some ((some k, v), j)
    | none => return none
termination_by structural fuel _ => fuel

/-- `double_starred_kvpairs`: entries of a dictionary display. -/
def doubleStarredKvpairs : Nat → Nat → GrammarM (Option (List (Option Term × Term) × Nat))
  | 0, _ => deep
  | f + 1, i => do
    match ← gather "," (doubleStarredKvpair f) i with
    | some (items, j) => return some (items, ← trailingComma j)
    | none => return none
termination_by structural fuel _ => fuel

/-- Names a dictionary entry that lacks its `:` or its value. -/
def invalidDoubleStarredKvpairs : Nat → Nat → GrammarM Unit
  | 0, _ => deep
  | f + 1, i => do
    match ← gather "," (doubleStarredKvpair f) i with
    | some (_, j) => if ← op "," j then invalidKvpair f (j + 1)
    | none => pure ()
    invalidValue f i
termination_by structural fuel _ => fuel

/-- Names a dictionary value that is starred or missing. -/
def invalidValue : Nat → Nat → GrammarM Unit
  | 0, _ => deep
  | f + 1, i => do
    match ← expression f i with
    | some (_, j) =>
      if ← op ":" j then
        if ← op "*" (j + 1) then
          match ← bitwiseOr f (j + 2) with
          | some _ => fail "cannot use a starred expression in a dictionary value" (j + 1)
          | none => pure ()
    | none => pure ()
    match ← expression f i with
    | some (_, j) =>
      if ← op ":" j then
        if (← op "\x7d" (j + 1)) || (← op "," (j + 1)) then
          fail "expression expected after dictionary key and \x27:\x27" j
    | none => pure ()
termination_by structural fuel _ => fuel

/-- Names a dictionary key without its `:`. -/
def invalidKvpair : Nat → Nat → GrammarM Unit
  | 0, _ => deep
  | f + 1, i => do
    match ← expression f i with
    | some (_, j) => if !(← op ":" j) then fail "\x27:\x27 expected after dictionary key" i
    | none => pure ()
    invalidValue f i
termination_by structural fuel _ => fuel

/-- `star_named_expression`: a starred operand or a named expression. -/
def starNamedExpression : Nat → Nat → GrammarM Parsed
  | 0, _ => deep
  | f + 1, i => do
    if ← op "*" i then
      match ← bitwiseOr f (i + 1) with
      | some (e, j) => return some (.starred e, j)
      | none => pure ()
    namedExpression f i
termination_by structural fuel _ => fuel

/-- `star_named_expressions`: items of a display, with an optional trailing comma. -/
def starNamedExpressions : Nat → Nat → GrammarM (Option (List Term × Nat))
  | 0, _ => deep
  | f + 1, i => do
    match ← gather "," (starNamedExpression f) i with
    | some (items, j) => return some (items, ← trailingComma j)
    | none => return none
termination_by structural fuel _ => fuel

/-- `assignment_expression`: `name := expression`. -/
def assignmentExpression : Nat → Nat → GrammarM Parsed
  | 0, _ => deep
  | f + 1, i => do
    match ← name i with
    | some n =>
      if ← op ":=" (i + 1) then
        match ← expression f (i + 2) with
        | some (e, j) => return some (.walrus n e, j)
        | none => return none
      return none
    | none => return none
termination_by structural fuel _ => fuel

/-- `named_expression`: an assignment expression or an expression not followed by `:=`. -/
def namedExpression : Nat → Nat → GrammarM Parsed
  | 0, _ => deep
  | f + 1, i => do
    match ← assignmentExpression f i with
    | some r => return some r
    | none => pure ()
    if ← naming then
      let _ ← invalidNamedExpression f i
    match ← expression f i with
    | some (e, j) => if ← op ":=" j then return none else return some (e, j)
    | none => return none
termination_by structural fuel _ => fuel

/-- Names `:=` after something other than a name, and `=` where a comparison was meant. -/
def invalidNamedExpression : Nat → Nat → GrammarM Parsed
  | 0, _ => deep
  | f + 1, i => memo 15 i do
    match ← expression f i with
    | some (a, j) =>
      if ← op ":=" j then
        match ← expression f (j + 1) with
        | some _ => fail ("cannot use assignment expressions with " ++ a.kindName) i
        | none => pure ()
    | none => pure ()
    match ← name i with
    | some _ =>
      if ← op "=" (i + 1) then
        match ← bitwiseOr f (i + 2) with
        | some (_, k) =>
          if !(← op "=" k) && !(← op ":=" k) then fail equalsMessage i
        | none => pure ()
    | none => pure ()
    let blocked ← do
      if (← listDisplay f i).isSome then pure true
      else if (← tupleDisplay f i).isSome then pure true
      else if (← genexp f i).isSome then pure true
      else pure ((← kw "True" i) || (← kw "None" i) || (← kw "False" i))
    if !blocked then
      match ← bitwiseOr f i with
      | some (a, j) =>
        if ← op "=" j then
          match ← bitwiseOr f (j + 1) with
          | some (_, k) =>
            if !(← op "=" k) && !(← op ":=" k) then
              fail ("cannot assign to " ++ a.kindName ++
                " here. Maybe you meant \x27==\x27 instead of \x27=\x27?") i
          | none => pure ()
      | none => pure ()
    return none
termination_by structural fuel _ => fuel

/-- `star_expressions`: starred operands or expressions, a tuple if there is a comma. -/
def starExpressions : Nat → Nat → GrammarM Parsed
  | 0, _ => deep
  | f + 1, i => do
    match ← starExpression f i with
    | none => return none
    | some (a, j) =>
      let (rest, k) ← after (op ",") (starExpression f) j
      if !rest.isEmpty then return some (.tuple (a :: rest), ← trailingComma k)
      if ← op "," j then return some (.tuple [a], j + 1)
      return some (a, j)
termination_by structural fuel _ => fuel

/-- `star_expression`: a starred operand or an expression. -/
def starExpression : Nat → Nat → GrammarM Parsed
  | 0, _ => deep
  | f + 1, i => memo 20 i do
    if ← op "*" i then
      match ← bitwiseOr f (i + 1) with
      | some (e, j) => return some (.starred e, j)
      | none => pure ()
    expression f i
termination_by structural fuel _ => fuel

/-- `starred_expression`: `*` and an expression; a `*` without one is a fault. -/
def starredExpression : Nat → Nat → GrammarM Parsed
  | 0, _ => deep
  | f + 1, i => do
    if ← op "*" i then
      match ← expression f (i + 1) with
      | some (e, j) => return some (.starred e, j)
      | none => failHere "Invalid star expression"
    return none
termination_by structural fuel _ => fuel

/-- `yield_expr`. -/
def yieldExpr : Nat → Nat → GrammarM Parsed
  | 0, _ => deep
  | f + 1, i => do
    if ← kw "yield" i then
      if ← kw "from" (i + 1) then
        match ← expression f (i + 2) with
        | some (e, j) => return some (.yieldFrom e, j)
        | none => pure ()
      match ← starExpressions f (i + 1) with
      | some (e, j) => return some (.yield (some e), j)
      | none => return some (.yield none, i + 1)
    return none
termination_by structural fuel _ => fuel

/-- `lambdef`: `lambda`, parameters, `:` and the body. -/
def lambdef : Nat → Nat → GrammarM Parsed
  | 0, _ => deep
  | f + 1, i => do
    if !(← kw "lambda" i) then return none
    let (params, j) ← match ← lambdaParams f (i + 1) with
      | some r => pure r
      | none => pure ([], i + 1)
    if ← op ":" j then
      match ← expression f (j + 1) with
      | some (b, k) => return some (.lambda params b, k)
      | none => pure ()
    return none
termination_by structural fuel _ => fuel

/-- `lambda_params`: the parameters of a lambda, their names in order. -/
def lambdaParams : Nat → Nat → GrammarM (Option (List String × Nat))
  | 0, _ => deep
  | f + 1, i => do
    if ← naming then invalidLambdaParameters f i
    lambdaParameters f i
termination_by structural fuel _ => fuel

/-- `lambda_parameters`: parameters before a `/`, plain ones, ones with defaults, then a `*`
part, in that order. -/
def lambdaParameters : Nat → Nat → GrammarM (Option (List String × Nat))
  | 0, _ => deep
  | f + 1, i => do
    let starEtc := fun (j : Nat) => do
      match ← lambdaStarEtc f j with
      | some r => pure r
      | none => pure ([], j)
    match ← lambdaSlashNoDefault i with
    | some (a, j) =>
      let (b, k) ← many lambdaParamNoDefault j
      let (c, l) ← many (lambdaParamWithDefault f) k
      let (d, m) ← starEtc l
      return some (a ++ b ++ c ++ d, m)
    | none => pure ()
    match ← lambdaSlashWithDefault f i with
    | some (a, j) =>
      let (b, k) ← many (lambdaParamWithDefault f) j
      let (c, l) ← starEtc k
      return some (a ++ b ++ c, l)
    | none => pure ()
    let (a, j) ← many lambdaParamNoDefault i
    if !a.isEmpty then
      let (b, k) ← many (lambdaParamWithDefault f) j
      let (c, l) ← starEtc k
      return some (a ++ b ++ c, l)
    let (a, j) ← many (lambdaParamWithDefault f) i
    if !a.isEmpty then
      let (c, l) ← starEtc j
      return some (a ++ c, l)
    lambdaStarEtc f i
termination_by structural fuel _ => fuel

/-- `lambda_slash_with_default`: parameters before `/`, some with defaults. -/
def lambdaSlashWithDefault : Nat → Nat → GrammarM (Option (List String × Nat))
  | 0, _ => deep
  | f + 1, i => do
    let (a, j) ← many lambdaParamNoDefault i
    let (b, k) ← many (lambdaParamWithDefault f) j
    if b.isEmpty then return none
    if ← op "/" k then
      if ← op "," (k + 1) then return some (a ++ b, k + 2)
      if ← op ":" (k + 1) then return some (a ++ b, k + 1)
    return none
termination_by structural fuel _ => fuel

/-- `lambda_star_etc`: `*` with a name or a comma, then parameters, then a `**` parameter. -/
def lambdaStarEtc : Nat → Nat → GrammarM (Option (List String × Nat))
  | 0, _ => deep
  | f + 1, i => do
    if ← naming then invalidLambdaStarEtc f i
    let kwds := fun (j : Nat) => do
      match ← lambdaKwds j with
      | some (n, k) => pure ([n], k)
      | none => pure ([], j)
    if ← op "*" i then
      match ← lambdaParamNoDefault (i + 1) with
      | some (a, j) =>
        let (b, k) ← many (lambdaParamMaybeDefault f) j
        let (c, l) ← kwds k
        return some (a :: b ++ c, l)
      | none => pure ()
    if ← op "*" i then
      if ← op "," (i + 1) then
        let (b, k) ← many (lambdaParamMaybeDefault f) (i + 2)
        if !b.isEmpty then
          let (c, l) ← kwds k
          return some (b ++ c, l)
    match ← lambdaKwds i with
    | some (a, j) => return some ([a], j)
    | none => return none
termination_by structural fuel _ => fuel

/-- `lambda_param_with_default`: a name and a default, followed by a comma or before the `:`. -/
def lambdaParamWithDefault : Nat → Nat → GrammarM (Option (String × Nat))
  | 0, _ => deep
  | f + 1, i => do
    match ← name i with
    | some n =>
      match ← defaultValue f (i + 1) with
      | some (_, j) =>
        if ← op "," j then return some (n, j + 1)
        if ← op ":" j then return some (n, j)
        return none
      | none => return none
    | none => return none
termination_by structural fuel _ => fuel

/-- `lambda_param_maybe_default`: a name with an optional default, followed by a comma or before
the `:`. -/
def lambdaParamMaybeDefault : Nat → Nat → GrammarM (Option (String × Nat))
  | 0, _ => deep
  | f + 1, i => do
    match ← name i with
    | some n =>
      let j ← match ← defaultValue f (i + 1) with
        | some (_, j) => pure j
        | none => pure (i + 1)
      if ← op "," j then return some (n, j + 1)
      if ← op ":" j then return some (n, j)
      return none
    | none => return none
termination_by structural fuel _ => fuel

/-- `default`: `=` and an expression; in the second reading an `=` with nothing after it is
named. -/
def defaultValue : Nat → Nat → GrammarM Parsed
  | 0, _ => deep
  | f + 1, i => do
    if ← op "=" i then
      match ← expression f (i + 1) with
      | some r => return some r
      | none => pure ()
    if ← naming then
      if ← op "=" i then
        if (← op ")" (i + 1)) || (← op "," (i + 1)) then
          fail "expected default value expression" i
    return none
termination_by structural fuel _ => fuel

/-- Names lambda parameters out of order, in parentheses, or with a misplaced `/`. -/
def invalidLambdaParameters : Nat → Nat → GrammarM Unit
  | 0, _ => deep
  | f + 1, i => do
    let (_, j) ← many lambdaParamNoDefault i
    match ← invalidLambdaParametersHelper f j with
    | some k =>
      match ← lambdaParamNoDefault k with
      | some _ => fail "non-default argument follows default argument" k
      | none => pure ()
    | none => pure ()
    let (_, j) ← many lambdaParamNoDefault i
    if ← op "(" j then
      let param := fun (k : Nat) => do
        match ← name k with
        | some n => pure (some (n, k + 1))
        | none => pure none
      match ← gather "," param (j + 1) with
      | some (_, k) =>
        let k ← trailingComma k
        if ← op ")" k then fail "Lambda expression parameters cannot be parenthesized" j
      | none => pure ()
    if ← op "/" i then
      if ← op "," (i + 1) then fail "at least one argument must precede /" i
    let slash ← do
      match ← lambdaSlashNoDefault i with
      | some (_, j) => pure (some j)
      | none =>
        match ← lambdaSlashWithDefault f i with
        | some (_, j) => pure (some j)
        | none => pure none
    match slash with
    | some j =>
      let (_, k) ← many (lambdaParamMaybeDefault f) j
      if ← op "/" k then fail "/ may appear only once" k
    | none => pure ()
    let slash ← do
      match ← lambdaSlashNoDefault i with
      | some (_, j) => pure (some j)
      | none =>
        match ← lambdaSlashWithDefault f i with
        | some (_, j) => pure (some j)
        | none => pure none
    let (_, k) ← many (lambdaParamMaybeDefault f) (slash.getD i)
    if ← op "*" k then
      let l ← do
        if ← op "," (k + 1) then pure (some (k + 2))
        else
          match ← lambdaParamNoDefault (k + 1) with
          | some (_, l) => pure (some l)
          | none => pure none
      match l with
      | some l =>
        let (_, m) ← many (lambdaParamMaybeDefault f) l
        if ← op "/" m then fail "/ must be ahead of *" m
      | none => pure ()
    let (ps, j) ← many (lambdaParamMaybeDefault f) i
    if !ps.isEmpty then
      if ← op "/" j then
        if ← op "*" (j + 1) then fail "expected comma between / and *" (j + 1)
termination_by structural fuel _ => fuel

/-- The parameters with defaults that a plain parameter may not follow: a `/` part with defaults,
or parameters with defaults; gives the place after them. -/
def invalidLambdaParametersHelper : Nat → Nat → GrammarM (Option Nat)
  | 0, _ => deep
  | f + 1, i => do
    match ← lambdaSlashWithDefault f i with
    | some (_, j) => return some j
    | none => pure ()
    let (ps, j) ← many (lambdaParamWithDefault f) i
    if ps.isEmpty then return none
    return some j
termination_by structural fuel _ => fuel

/-- Names a bare `*` without a named parameter after it, a default on the `*` parameter, and a
second `*`. -/
def invalidLambdaStarEtc : Nat → Nat → GrammarM Unit
  | 0, _ => deep
  | f + 1, i => do
    if ← op "*" i then
      if ← op ":" (i + 1) then failHere "named arguments must follow bare *"
      if ← op "," (i + 1) then
        if (← op ":" (i + 2)) || (← op "**" (i + 2)) then
          failHere "named arguments must follow bare *"
    if ← op "*" i then
      if (← name (i + 1)).isSome then
        if ← op "=" (i + 2) then fail "var-positional argument cannot have default value" (i + 2)
    if ← op "*" i then
      let j ← do
        match ← lambdaParamNoDefault (i + 1) with
        | some (_, j) => pure (some j)
        | none => if ← op "," (i + 1) then pure (some (i + 2)) else pure none
      match j with
      | some j =>
        let (_, k) ← many (lambdaParamMaybeDefault f) j
        if ← op "*" k then
          let again ← do
            match ← lambdaParamNoDefault (k + 1) with
            | some _ => pure true
            | none => op "," (k + 1)
          if again then fail "* argument may appear only once" k
      | none => pure ()
termination_by structural fuel _ => fuel

/-- `slices`: one slice, or a tuple of slices and starred expressions. -/
def slices : Nat → Nat → GrammarM Parsed
  | 0, _ => deep
  | f + 1, i => do
    match ← slice f i with
    | some (s, j) => if !(← op "," j) then return some (s, j)
    | none => pure ()
    match ← gather "," (sliceItem f) i with
    | some (items, j) => return some (.tuple items, ← trailingComma j)
    | none => return none
termination_by structural fuel _ => fuel

/-- A slice or a starred expression. -/
def sliceItem : Nat → Nat → GrammarM Parsed
  | 0, _ => deep
  | f + 1, i => do
    match ← slice f i with
    | some r => return some r
    | none => starredExpression f i
termination_by structural fuel _ => fuel

/-- `slice`: bounds and a step separated by colons, or a named expression. -/
def slice : Nat → Nat → GrammarM Parsed
  | 0, _ => deep
  | f + 1, i => do
    let (lo, j) ← match ← expression f i with
      | some (e, j) => pure (some e, j)
      | none => pure (none, i)
    if ← op ":" j then
      let (hi, k) ← match ← expression f (j + 1) with
        | some (e, k) => pure (some e, k)
        | none => pure (none, j + 1)
      if ← op ":" k then
        match ← expression f (k + 1) with
        | some (e, l) => return some (.slice lo hi (some e), l)
        | none => return some (.slice lo hi none, k + 1)
      return some (.slice lo hi none, k)
    namedExpression f i
termination_by structural fuel _ => fuel

/-- `arguments`: the arguments of a call, as a call of nothing. -/
def arguments : Nat → Nat → GrammarM Parsed
  | 0, _ => deep
  | f + 1, i => memo 16 i do
    match ← args f i with
    | some ((pos, kws), j) =>
      let k ← trailingComma j
      if ← op ")" k then return some (.call (.const .none) pos kws, k)
    | none => pure ()
    if ← naming then invalidArguments f i
    return none
termination_by structural fuel _ => fuel

/-- `args`: positional arguments, then keyword arguments. -/
def args : Nat → Nat → GrammarM (Option (Arguments × Nat))
  | 0, _ => deep
  | f + 1, i => do
    match ← gather "," (positional f) i with
    | some (pos, j) =>
      if ← op "," j then
        match ← kwargs f (j + 1) with
        | some (kws, k) => return some (collect pos kws, k)
        | none => pure ()
      return some ((pos, []), j)
    | none =>
      match ← kwargs f i with
      | some (kws, k) => return some (collect [] kws, k)
      | none => return none
termination_by structural fuel _ => fuel

/-- A positional argument: a starred expression, or an expression not followed by `=`. -/
def positional : Nat → Nat → GrammarM Parsed
  | 0, _ => deep
  | f + 1, i => do
    match ← starredExpression f i with
    | some r => return some r
    | none => pure ()
    let e ← match ← assignmentExpression f i with
      | some r => pure (some r)
      | none =>
        match ← expression f i with
        | some (e, j) => if ← op ":=" j then pure none else pure (some (e, j))
        | none => pure none
    match e with
    | some (e, j) => if ← op "=" j then return none else return some (e, j)
    | none => return none
termination_by structural fuel _ => fuel

/-- `kwargs`: keyword arguments and starred ones, then keyword arguments and mappings. -/
def kwargs : Nat → Nat → GrammarM (Option (List Argument × Nat))
  | 0, _ => deep
  | f + 1, i => do
    match ← gather "," (kwargOrStarred f) i with
    | some (a, j) =>
      if ← op "," j then
        match ← gather "," (kwargOrDoubleStarred f) (j + 1) with
        | some (b, k) => return some (a ++ b, k)
        | none => pure ()
      return some (a, j)
    | none => gather "," (kwargOrDoubleStarred f) i
termination_by structural fuel _ => fuel

/-- A keyword argument or a starred one. -/
def kwargOrStarred : Nat → Nat → GrammarM (Option (Argument × Nat))
  | 0, _ => deep
  | f + 1, i => do
    if ← naming then invalidKwarg f i
    match ← name i with
    | some n =>
      if ← op "=" (i + 1) then
        match ← expression f (i + 2) with
        | some (e, j) => return some (.keyword (some n) e, j)
        | none => pure ()
    | none => pure ()
    match ← starredExpression f i with
    | some (e, j) => return some (.star e, j)
    | none => return none
termination_by structural fuel _ => fuel

/-- A keyword argument or a mapping to unpack. -/
def kwargOrDoubleStarred : Nat → Nat → GrammarM (Option (Argument × Nat))
  | 0, _ => deep
  | f + 1, i => do
    if ← naming then invalidKwarg f i
    match ← name i with
    | some n =>
      if ← op "=" (i + 1) then
        match ← expression f (i + 2) with
        | some (e, j) => return some (.keyword (some n) e, j)
        | none => pure ()
    | none => pure ()
    if ← op "**" i then
      match ← expression f (i + 1) with
      | some (e, j) => return some (.keyword none e, j)
      | none => pure ()
    return none
termination_by structural fuel _ => fuel

/-- Names a keyword argument whose name is a constant or an expression, or that is followed by a
comprehension. -/
def invalidKwarg : Nat → Nat → GrammarM Unit
  | 0, _ => deep
  | f + 1, i => do
    let t ← lexeme i
    if t.kind == .name && (t.text == "True" || t.text == "False" || t.text == "None") then
      if ← op "=" (i + 1) then fail ("cannot assign to " ++ t.text) i
    match ← name i with
    | some _ =>
      if ← op "=" (i + 1) then
        match ← expression f (i + 2) with
        | some (_, j) =>
          match ← forIfClauses f j with
          | some _ => fail equalsMessage i
          | none => pure ()
        | none => pure ()
    | none => pure ()
    let nameEquals ← do
      match ← name i with
      | some _ => op "=" (i + 1)
      | none => pure false
    if !nameEquals then
      match ← expression f i with
      | some (_, j) =>
        if ← op "=" j then
          fail "expression cannot contain assignment, perhaps you meant \"==\"?" i
      | none => pure ()
termination_by structural fuel _ => fuel

/-- Names misplaced unpacking, unparenthesized generators and positional arguments after keyword
ones. -/
def invalidArguments : Nat → Nat → GrammarM Unit
  | 0, _ => deep
  | f + 1, i => do
    let genMsg := "Generator expression must be parenthesized"
    -- keyword arguments, a comma, then starred arguments
    let head ← match ← gather "," (positional f) i with
      | some (_, j) =>
        if ← op "," j then
          match ← kwargs f (j + 1) with
          | some (_, k) => pure (some k)
          | none => pure none
        else pure none
      | none => pure none
    let head ← match head with
      | some k => pure (some k)
      | none =>
        match ← kwargs f i with
        | some (_, k) => pure (some k)
        | none => pure none
    match head with
    | some k =>
      if ← op "," k then
        let starredAlone := fun (m : Nat) => do
          match ← starredExpression f m with
          | some (e, n) => if ← op "=" n then pure none else pure (some (e, n))
          | none => pure none
        match ← gather "," starredAlone (k + 1) with
        | some _ => fail "iterable argument unpacking follows keyword argument unpacking" k
        | none => pure ()
    | none => pure ()
    match ← expression f i with
    | some (_, j) =>
      match ← forIfClauses f j with
      | some (_, k) =>
        if ← op "," k then
          match ← args f (k + 1) with
          | some _ => pure ()
          | none =>
            match ← expression f (k + 1) with
            | some (_, l) => let _ ← forIfClauses f l
            | none => pure ()
          fail genMsg i
      | none => pure ()
    | none => pure ()
    match ← name i with
    | some _ =>
      if ← op "=" (i + 1) then
        match ← expression f (i + 2) with
        | some (_, j) =>
          match ← forIfClauses f j with
          | some _ => fail equalsMessage i
          | none => pure ()
        | none => pure ()
    | none => pure ()
    match ← args f i with
    | some ((pos, _), j) =>
      match ← forIfClauses f j with
      | some _ =>
        if pos.length ≤ 1 then return ()
        fail genMsg (j - 1)
      | none => pure ()
    | none => pure ()
    match ← args f i with
    | some (_, j) =>
      if ← op "," j then
        match ← expression f (j + 1) with
        | some (_, k) =>
          match ← forIfClauses f k with
          | some _ => fail genMsg (j + 1)
          | none => pure ()
        | none => pure ()
    | none => pure ()
    match ← args f i with
    | some ((_, kws), j) =>
      if ← op "," j then
        match ← args f (j + 1) with
        | some _ =>
          if kws.any (·.1.isNone) then
            failHere "positional argument follows keyword argument unpacking"
          else failHere "positional argument follows keyword argument"
        | none => pure ()
    | none => pure ()
termination_by structural fuel _ => fuel

/-- `for_if_clauses`: one or more `for` clauses. -/
def forIfClauses : Nat → Nat → GrammarM (Option (List Clause × Nat))
  | 0, _ => deep
  | f + 1, i => do
    let (cs, j) ← many (forIfClause f) i
    if cs.isEmpty then return none
    return some (cs, j)
termination_by structural fuel _ => fuel

/-- `for_if_clause`: `for` targets `in` an iterable, then `if` conditions. Once `in` is read the
clause must go on. -/
def forIfClause : Nat → Nat → GrammarM (Option (Clause × Nat))
  | 0, _ => deep
  | f + 1, i => do
    let tryFrom : Nat → GrammarM (Option (Option (Clause × Nat))) := fun j => do
      match ← starTargets f j with
      | some (t, k) =>
        if ← kw "in" k then
          match ← disjunction f (k + 1) with
          | some (it, l) =>
            let (conds, m) ← after (kw "if") (disjunction f) l
            return some (some (Clause.clause t it conds, m))
          | none => return some none
        return none
      | none => return none
    if ← kw "async" i then
      if ← kw "for" (i + 1) then
        match ← tryFrom (i + 2) with
        | some r => return r
        | none => pure ()
    if ← kw "for" i then
      match ← tryFrom (i + 1) with
      | some r => return r
      | none => pure ()
    if ← naming then invalidForTarget f i
    return none
termination_by structural fuel _ => fuel

/-- Names a `for` target that cannot be assigned to. -/
def invalidForTarget : Nat → Nat → GrammarM Unit
  | 0, _ => deep
  | f + 1, i => do
    let j ← if ← kw "async" i then pure (i + 1) else pure i
    if ← kw "for" j then
      match ← starExpressions f (j + 1) with
      | some (a, _) =>
        match badTarget a with
        | some bad => fail ("cannot assign to " ++ bad.kindName) (j + 1)
        | none => pure ()
      | none => pure ()
termination_by structural fuel _ => fuel

/-- `star_targets`: assignment targets, a tuple if there is a comma. -/
def starTargets : Nat → Nat → GrammarM Parsed
  | 0, _ => deep
  | f + 1, i => do
    match ← starTarget f i with
    | none => return none
    | some (a, j) =>
      if !(← op "," j) then return some (a, j)
      let (rest, k) ← after (op ",") (starTarget f) j
      return some (.tuple (a :: rest), ← trailingComma k)
termination_by structural fuel _ => fuel

/-- `star_target`: a starred target or a target. -/
def starTarget : Nat → Nat → GrammarM Parsed
  | 0, _ => deep
  | f + 1, i => memo 17 i do
    if ← op "*" i then
      if !(← op "*" (i + 1)) then
        match ← starTarget f (i + 1) with
        | some (t, j) => return some (.starred t, j)
        | none => pure ()
    targetWithStarAtom f i
termination_by structural fuel _ => fuel

/-- `target_with_star_atom`: an attribute or subscript target, or a name or bracketed targets. -/
def targetWithStarAtom : Nat → Nat → GrammarM Parsed
  | 0, _ => deep
  | f + 1, i => memo 18 i do
    match ← tPrimary f i with
    | some (p, j) =>
      if ← op "." j then
        match ← name (j + 1) with
        | some n => if !(← tLookahead (j + 2)) then return some (.attribute p n, j + 2)
        | none => pure ()
    | none => pure ()
    match ← tPrimary f i with
    | some (p, j) =>
      if ← op "[" j then
        match ← slices f (j + 1) with
        | some (s, k) =>
          if ← op "]" k then
            if !(← tLookahead (k + 1)) then return some (.subscript p s, k + 1)
        | none => pure ()
    | none => pure ()
    starAtom f i
termination_by structural fuel _ => fuel

/-- `star_atom`: a name, or targets in brackets. -/
def starAtom : Nat → Nat → GrammarM Parsed
  | 0, _ => deep
  | f + 1, i => do
    match ← name i with
    | some n => return some (.name n, i + 1)
    | none => pure ()
    if ← op "(" i then
      match ← targetWithStarAtom f (i + 1) with
      | some (a, j) => if ← op ")" j then return some (a, j + 1)
      | none => pure ()
    if ← op "(" i then
      let (items, j) ← match ← starTarget f (i + 1) with
        | some (a, j) =>
          let (rest, k) ← after (op ",") (starTarget f) j
          if !rest.isEmpty then pure (a :: rest, ← trailingComma k)
          else if ← op "," j then pure ([a], j + 1)
          else pure ([], i + 1)
        | none => pure ([], i + 1)
      if ← op ")" j then return some (.tuple items, j + 1)
    if ← op "[" i then
      let (items, j) ← match ← gather "," (starTarget f) (i + 1) with
        | some (xs, j) => pure (xs, ← trailingComma j)
        | none => pure ([], i + 1)
      if ← op "]" j then return some (.list items, j + 1)
    return none
termination_by structural fuel _ => fuel

/-- `t_primary`: the part of a target before its last attribute access or subscript. -/
def tPrimary : Nat → Nat → GrammarM Parsed
  | 0, _ => deep
  | f + 1, i => memo 19 i do
    match ← atom f i with
    | some (a, j) =>
      if ← tLookahead j then return some (← trailers (tTrailer f) a j)
      return none
    | none => return none
termination_by structural fuel _ => fuel

/-- One step of `t_primary`, which must be followed by another. -/
def tTrailer : Nat → Term → Nat → GrammarM Parsed
  | 0, _, _ => deep
  | f + 1, a, j => do
    if ← op "." j then
      match ← name (j + 1) with
      | some n => if ← tLookahead (j + 2) then return some (.attribute a n, j + 2)
      | none => pure ()
    if ← op "[" j then
      match ← slices f (j + 1) with
      | some (s, k) =>
        if ← op "]" k then
          if ← tLookahead (k + 1) then return some (.subscript a s, k + 1)
      | none => pure ()
    match ← genexp f j with
    | some (g, k) => if ← tLookahead k then return some (.call a [g] [], k)
    | none => pure ()
    if ← op "(" j then
      let (args, k) ← match ← arguments f (j + 1) with
        | some (.call _ pos kws, k) => pure ((pos, kws), k)
        | _ => pure (([], []), j + 1)
      if ← op ")" k then
        if ← tLookahead (k + 1) then return some (.call a args.1 args.2, k + 1)
    return none
termination_by structural fuel _ _ => fuel

end

/-- The whole code: expressions, then line breaks up to the end marker. -/
def whole (f : Nat) : GrammarM Parsed := do
  match ← expressions f 0 with
  | some (a, j) =>
    let (_, k) ← many (fun k => do
      pure (if (← lexeme k).kind == LexKind.newline then some ((), k + 1) else none)) j
    if ← isKind .endMarker k then return some (a, k)
    return none
  | none => return none

end Grammar

/-- Reads code as one expression (or a tuple of them), with the fault of the first error. -/
def Term.read (code : String) : Except Fault Term :=
  if code.contains (Char.ofNat 0) then .error .nullBytes
  else
    match Grammar.twoPasses (Lexeme.scan code) (Grammar.whole Grammar.stackDepth) with
    | .ok t => .ok t
    | .error (f, _) => .error f

end ExprTree.Formula
