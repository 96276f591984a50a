import ExprTree.Formula.Token
import ExprTree.Formula.Keyword
/-!
  Rewrites of a token list into code, and the joining of tokens back into text.

  Five rewrites run in turn on the tokens of a formula:

  * `lambdaForm`: a formula that opens with `lambda` becomes a call of `Lambda` on the
    parameters (in parentheses) and the body; every `:` becomes a comma.
  * `implicitNames`: a name that is not a keyword, an attribute, a keyword argument or a
    predefined name becomes `Symbol('name')`, or `Function('name')` before an opening
    parenthesis.
  * `repeatingDecimals`: `0.2[1]` becomes the exact sum `0 + 2/10 + 1/90` of its parts.
  * `exactNumbers`: a number with a point or an exponent becomes `Float('text')`, any other
    `Integer(text)`; an imaginary number is multiplied by `I`.
  * `factorials`: one `!` after an operand applies `factorial` to it, two `factorial2`.

  `Token.join` writes tokens back as text: names and numbers are followed by a space, two
  strings in a row are separated by one, and indentation is written again after each newline.
-/

namespace ExprTree.Formula

namespace Token

/-- Whether the token is the operator `s`. -/
def isOp (t : Token) (s : String) : Bool := t.kind == .op && t.text == s

/-- Rewrites a formula that opens with `lambda` into a call of `Lambda`: the tokens up to the
first `:` are its parameters, inside a second pair of parentheses, and the rest its body. Every
`:` becomes a comma; a `*` or `**` among the parameters is refused. A `lambda` followed only by
the newline is left as it is. -/
def lambdaForm (ts : List Token) : Except Fault (List Token) :=
  match ts with
  | first :: rest =>
    if first.kind == .name && first.text == "lambda" then
      if ts.length == 2 || (ts.length == 3 && (rest.head?.map (·.kind)) == some .newline) then
        .ok ts
      else if ts.length > 2 then do
        let (params, body) ← splitAtColon rest [] false []
        .ok ([Token.name "Lambda", Token.op "(", Token.op "("] ++ params ++ [Token.op ")"] ++ body ++
          [Token.op ")"])
      else .ok []
    else .ok ts
  | [] => .ok []
where
  /-- Splits the tokens after `lambda` at the first `:`, turning every `:` into a comma. -/
  splitAtColon : List Token → List Token → Bool → List Token →
      Except Fault (List Token × List Token)
    | [], params, _, body => .ok (params.reverse, body.reverse)
    | t :: more, params, inBody, body =>
      let colon := t.isOp ":"
      let t := if colon then Token.op "," else t
      let inBody := inBody || colon
      if !inBody && (t.isOp "*" || t.isOp "**") then
        .error (.rewrite "Starred arguments in lambda not supported")
      else if inBody then splitAtColon more params true (t :: body)
      else splitAtColon more (t :: params) false body

/-- Replaces names that stand for nothing predefined by symbols and functions made on the spot.
A name stays as it is if it is a keyword, follows a `.`, is a keyword argument (after `(` or
`,` and before `=`), or `known` holds of it. Otherwise it becomes `Function('name')` when an
opening parenthesis follows, else `Symbol('name')`. The token before a name is the last one
that was not a name left as it is. -/
def implicitNames (known : String → Bool) (ts : List Token) : List Token :=
  go ts none []
where
  /-- Walks the tokens with the last token that was not a kept name, building the result last
  first. -/
  go : List Token → Option Token → List Token → List Token
    | [], _, acc => acc.reverse
    | t :: more, prev, acc =>
      let next := more.head?
      let nextText := (next.map (·.text)).getD ""
      if t.kind == .name then
        let afterDot := (prev.map (·.isOp ".")).getD false
        let isKeywordArg := (prev.map fun p => p.isOp "(" || p.isOp ",").getD false &&
          (next.map (·.isOp "=")).getD false
        if isKeyword t.text || afterDot || isKeywordArg || known t.text then
          go more prev (t :: acc)
        else
          let maker := if nextText == "(" then "Function" else "Symbol"
          let made := [Token.op ")", Token.name ("\x27" ++ t.text ++ "\x27"), Token.op "(",
            Token.name maker]
          go more (some t) (made ++ acc)
      else go more (some t) (t :: acc)

/-- Whether a text holds only digits and underscores. -/
def isDigitText (s : String) : Bool := s.all fun c => c.isDigit || c == '_'

/-- The exact sum for a repeating decimal `pre.post[rep]`: `Integer(pre) + post / 10^k +
rep / ((10^r - 1) · 10^k)`, with `k` digits after the point and `r` repeating digits, each part
written as number tokens. -/
def repeatingSum (decimal rep : String) : List Token :=
  let parts := decimal.splitOn "."
  let pre := ((parts.headD "").replace "_" "")
  let post := ((parts.getD 1 "").replace "_" "")
  let rep := rep.replace "_" ""
  let zeros := String.ofList (List.replicate post.length '0')
  let strip := fun (w : String) => String.ofList (w.toList.dropWhile (· == '0'))
  let a := if pre.isEmpty then "0" else pre
  let b := if (strip post).isEmpty then "0" else strip post
  let c := "1" ++ zeros
  let d := strip rep
  let e := String.ofList (List.replicate rep.length '9') ++ zeros
  [Token.op "(", Token.name "Integer", Token.op "(", Token.number a, Token.op ")", Token.op "+",
    Token.name "Rational", Token.op "(", Token.number b, Token.op ",", Token.number c, Token.op ")",
    Token.op "+", Token.name "Rational", Token.op "(", Token.number d, Token.op ",",
    Token.number e, Token.op ")", Token.op ")"]

/-- Rewrites repeating decimals `pre.post[rep]` (also `.[rep]`, and a repetend written as two
number tokens) into their exact sums. The tokens of a candidate are gathered in `run`: a
decimal with a point and no exponent or `j`, `[`, one or two digit tokens, `]`. -/
def repeatingDecimals (ts : List Token) : List Token :=
  go ts [] []
where
  /-- Walks the tokens with the candidate so far and the result, both last first. -/
  go : List Token → List Token → List Token → List Token
    | [], _, acc => acc.reverse
    | t :: more, run, acc =>
      let n := run.length
      let run : List Token :=
        if t.kind == .number then
          let low := t.text.toLower
          if run.isEmpty && t.text.contains '.' && !low.contains 'e' && !low.contains 'j' then [t]
          else if isDigitText t.text && n == 2 then t :: run
          else if isDigitText t.text && n == 3 && isDigitText ((run.head?.map (·.text)).getD "")
          then t :: run
          else []
        else if t.kind == .op then
          if t.text == "[" && n == 1 then t :: run
          else if t.text == "]" && n ≥ 3 then t :: run
          else if t.text == "." && run.isEmpty then [Token.number "0."]
          else []
        else []
      let acc := t :: acc
      if (run.head?.map (·.text)) == some "]" then
        let parts := run.reverse
        let decimal := (parts.head?.map (·.text)).getD ""
        let rep := ((parts[2]?).map (·.text)).getD "" ++
          (if parts.length == 5 then ((parts[3]?).map (·.text)).getD "" else "")
        go more [] ((repeatingSum decimal rep).reverse ++ acc.drop parts.length)
      else go more run acc

/-- Rewrites numbers into exact numbers: `Float('text')` for a number with a point, or an
exponent and no hexadecimal prefix; `Integer(text)` otherwise. An imaginary number loses its
`j` and is multiplied by `I`. -/
def exactNumbers (ts : List Token) : List Token :=
  ts.flatMap fun t =>
    if t.kind == .number then
      let (num, imag) := if t.text.endsWith "j" || t.text.endsWith "J" then
          ((t.text.dropEnd 1).toString, [Token.op "*", Token.name "I"])
        else (t.text, [])
      let isFloat := num.contains '.' ||
        ((num.contains 'e' || num.contains 'E') && !(num.startsWith "0x" || num.startsWith "0X"))
      (if isFloat then
        [Token.name "Float", Token.op "(", Token.number ("\x27" ++ num ++ "\x27"), Token.op ")"]
      else [Token.name "Integer", Token.op "(", Token.number num, Token.op ")"]) ++ imag
    else [t]

/-- Wraps the operand that ends `acc` (given last first) in a call of `fn`: the operand is the
last token, or the bracketed group that ends with it, with the name before the group if there
is one. A result that ends with `(`, or is empty, is refused; one whose brackets never balance
is left as it is. -/
def wrapLast (fn : String) (acc : List Token) : Except Fault (List Token) :=
  match acc with
  | [] => .error (.rewrite "")
  | last :: _ =>
    if last.text == "(" then .error (.rewrite "")
    else
      match groupLength acc 0 0 with
      | some j =>
        let k := if ((acc[j + 1]?).map (·.kind)) == some .name then j + 2 else j + 1
        .ok (Token.op ")" :: (acc.take k ++ [Token.op "(", Token.name fn] ++ acc.drop k))
      | none => .ok acc
where
  /-- The index, counted from the end, where the bracket depth counted from the end first
  returns to zero. -/
  groupLength : List Token → Int → Nat → Option Nat
    | [], _, _ => none
    | t :: more, diff, j =>
      let diff := if t.text == ")" then diff + 1 else if t.text == "(" then diff - 1 else diff
      if diff == 0 then some j else groupLength more diff (j + 1)

/-- Rewrites `!` and `!!` after an operand into calls of `factorial` and `factorial2`; three or
more are refused. Other error tokens become operators. -/
def factorials (ts : List Token) : Except Fault (List Token) :=
  go ts 0 []
where
  /-- Walks the tokens with the count of `!` just seen and the result, last first. -/
  go : List Token → Nat → List Token → Except Fault (List Token)
    | [], _, acc => .ok acc.reverse
    | t :: more, bangs, acc =>
      if t.kind == .error then
        if t.text == "!" then go more (bangs + 1) acc
        else go more 0 (Token.op t.text :: acc)
      else do
        let acc ← match bangs with
          | 0 => pure acc
          | 1 => wrapLast "factorial" acc
          | 2 => wrapLast "factorial2" acc
          | _ => throw (.rewrite "")
        go more 0 (t :: acc)

/-- Writes tokens back as text: names and numbers are followed by a space, a string right
after a string is preceded by one, and after a newline the innermost open indentation is
written before the next token. -/
def join (ts : List Token) : Except Fault String :=
  let startLine := match ts with
    | t :: _ => t.kind == .newline || t.kind == .softNewline
    | [] => false
  go ts startLine false [] ""
where
  /-- Walks the tokens with whether a line starts, whether the last token was a string, the
  open indentation (innermost first) and the text so far. -/
  go : List Token → Bool → Bool → List String → String → Except Fault String
    | [], _, _, _, out => .ok out
    | t :: more, startLine, prevString, indents, out =>
      let text := if t.kind == .name || t.kind == .number then t.text ++ " " else t.text
      let text := if t.kind == .string && prevString then " " ++ text else text
      let isString := t.kind == .string
      match t.kind with
      | .indent => go more startLine isString (t.text :: indents) out
      | .dedent =>
        match indents with
        | _ :: outer => go more startLine isString outer out
        | [] => .error (.index "pop from empty list")
      | .newline | .softNewline => go more true isString indents (out ++ text)
      | _ =>
        match startLine, indents with
        | true, top :: _ => go more false isString indents (out ++ top ++ text)
        | _, _ => go more startLine isString indents (out ++ text)

end Token

end ExprTree.Formula
