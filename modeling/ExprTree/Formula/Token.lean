import ExprTree.Formula.Fault
import ExprTree.Text.Word
import ExprTree.Text.Identifier
import ExprTree.Text.Blank
/-!
  Statement text split into tokens, line by line.

  At each place of a line, blanks (space, tab, form feed) are skipped and the first of these
  forms that matches gives the token, tried in this order: a line continuation (a backslash
  before the line break), the end of the line, a comment, the opening of a triple-quoted string,
  a number, a line break or operator (the longest operator that matches), a string on one line
  (or one continued by a backslash), and a run of word characters. Where none matches, the
  character at the place, a blank included, is an error token.

  A token's kind follows its first character: a digit, or a point not alone, makes a number; a
  line break makes a newline (or, inside brackets, a soft one); `#` a comment; a quote or string
  prefix a string; a character that may start a name a name; anything else an operator. Numbers
  are as the language writes them: decimal, hexadecimal, octal and binary whole numbers, point
  and exponent floats, and imaginary numbers ending in `j`, with single underscores between
  digits; a decimal whole number other than zero has no leading zero.

  Lines at bracket depth zero open with their indentation, which gives indent and dedent
  tokens; blank and comment lines give soft newlines. The text ends with a newline if its last
  line is not a comment line, a dedent for every open indentation, and an end marker. A text that
  ends inside brackets, after a continuation or inside a string fails.
-/

namespace ExprTree.Formula

/-- The kind of a token of statement text. -/
inductive TokenKind where
  | name
  | number
  | string
  | op
  | comment
  | newline
  | softNewline
  | indent
  | dedent
  | endMarker
  | error
  deriving DecidableEq, Repr, Inhabited

/-- A token of statement text: its kind and its text. -/
structure Token where
  kind : TokenKind
  text : String
  deriving DecidableEq, Repr, Inhabited

namespace Token

/-- An operator token. -/
def op (s : String) : Token := ⟨.op, s⟩

/-- A name token. -/
def name (s : String) : Token := ⟨.name, s⟩

/-- A number token. -/
def number (s : String) : Token := ⟨.number, s⟩

end Token

namespace Scan

/-- Whether `c` is an ASCII decimal digit. -/
def isDigit (c : Char) : Bool := '0' ≤ c && c ≤ '9'

/-- Whether `c` is a hexadecimal digit. -/
def isHexDigit (c : Char) : Bool :=
  isDigit c || ('a' ≤ c && c ≤ 'f') || ('A' ≤ c && c ≤ 'F')

/-- Whether `c` is a blank that may stand between tokens: space, tab or form feed. -/
def isBlank (c : Char) : Bool := c == ' ' || c == '\t' || c.toNat == 12

/-- The longest run of digits (by `p`) with single underscores between them, after a first
digit: the run and the rest. -/
def digitTail (p : Char → Bool) : List Char → List Char × List Char
  | '_' :: d :: rest =>
    if p d then
      let (a, b) := digitTail p rest
      ('_' :: d :: a, b)
    else ([], '_' :: d :: rest)
  | c :: rest =>
    if p c then
      let (a, b) := digitTail p rest
      (c :: a, b)
    else ([], c :: rest)
  | [] => ([], [])

/-- A digit followed by `digitTail`: the run and the rest, if a digit comes first. -/
def digits (p : Char → Bool) : List Char → Option (List Char × List Char)
  | c :: rest => if p c then let (a, b) := digitTail p rest; some (c :: a, b) else none
  | [] => none

/-- An exponent: `e` or `E`, an optional sign and digits. -/
def exponent : List Char → Option (List Char × List Char)
  | e :: rest =>
    if e == 'e' || e == 'E' then
      match rest with
      | s :: r =>
        if s == '+' || s == '-' then (digits isDigit r).map fun (d, r') => (e :: s :: d, r')
        else (digits isDigit rest).map fun (d, r') => (e :: d, r')
      | [] => none
    else none
  | [] => none

/-- An optional exponent after a number part. -/
def withExponent (part : List Char × List Char) : List Char × List Char :=
  match exponent part.2 with
  | some (e, r) => (part.1 ++ e, r)
  | none => part

/-- A point float: digits, a point and optional digits, or a point and digits; then an
optional exponent. -/
def pointFloat (cs : List Char) : Option (List Char × List Char) :=
  match digits isDigit cs with
  | some (ds, '.' :: r) =>
    match digits isDigit r with
    | some (fs, r') => some (withExponent (ds ++ '.' :: fs, r'))
    | none => some (withExponent (ds ++ ['.'], r))
  | some _ => none
  | none =>
    match cs with
    | '.' :: r => (digits isDigit r).map fun (fs, r') => withExponent ('.' :: fs, r')
    | _ => none

/-- An exponent float: digits and an exponent. -/
def expFloat (cs : List Char) : Option (List Char × List Char) :=
  match digits isDigit cs with
  | some (ds, r) => (exponent r).map fun (e, r') => (ds ++ e, r')
  | none => none

/-- A float: a point float, else an exponent float. -/
def float (cs : List Char) : Option (List Char × List Char) :=
  (pointFloat cs).orElse fun _ => expFloat cs

/-- A part followed by `j` or `J`. -/
def imagUnit (part : Option (List Char × List Char)) : Option (List Char × List Char) :=
  match part with
  | some (p, j :: r) => if j == 'j' || j == 'J' then some (p ++ [j], r) else none
  | _ => none

/-- An imaginary number: digits then `j`, else a point float or an exponent float then `j`. -/
def imaginary (cs : List Char) : Option (List Char × List Char) :=
  (imagUnit (digits isDigit cs)).orElse fun _ =>
    (imagUnit (pointFloat cs)).orElse fun _ => imagUnit (expFloat cs)

/-- A whole number with a base prefix `0x`, `0o` or `0b` (either case) and at least one digit
of the base, each digit possibly after one underscore. -/
def prefixed (marks : List Char) (p : Char → Bool) : List Char → Option (List Char × List Char)
  | '0' :: m :: rest =>
    if marks.contains m then
      let (ds, r) := digitTail p rest
      if ds.isEmpty then none else some ('0' :: m :: ds, r)
    else none
  | _ => none

/-- A decimal whole number: zeros with single underscores between them, or a digit other than
zero and digits. -/
def decimal : List Char → Option (List Char × List Char)
  | '0' :: rest =>
    let (zs, r) := digitTail (· == '0') rest
    some ('0' :: zs, r)
  | cs => match cs with
    | c :: _ => if isDigit c then digits isDigit cs else none
    | [] => none

/-- A whole number: hexadecimal, binary, octal, else decimal. -/
def integer (cs : List Char) : Option (List Char × List Char) :=
  (prefixed ['x', 'X'] isHexDigit cs).orElse fun _ =>
    (prefixed ['b', 'B'] (fun c => c == '0' || c == '1') cs).orElse fun _ =>
      (prefixed ['o', 'O'] (fun c => '0' ≤ c && c ≤ '7') cs).orElse fun _ => decimal cs

/-- A number: imaginary, else float, else whole. -/
def number (cs : List Char) : Option (List Char × List Char) :=
  (imaginary cs).orElse fun _ => (float cs).orElse fun _ => integer cs

/-- The operators, each with all its characters. -/
def operators : List String :=
  ["!=", "%", "%=", "&", "&=", "(", ")", "*", "**", "**=", "*=", "+", "+=", ",", "-", "-=", "->",
    ".", "...", "/", "//", "//=", "/=", ":", ":=", ";", "<", "<<", "<<=", "<=", "=", "==", ">",
    ">=", ">>", ">>=", "@", "@=", "[", "]", "^", "^=", "\x7b", "|", "|=", "\x7d", "~"]

/-- The longest operator at the front of `cs`. -/
def operator (cs : List Char) : Option (List Char × List Char) :=
  let found := operators.filterMap fun o =>
    let os := o.toList
    if os.isPrefixOf cs then some os else none
  match found.foldl (fun best o => if o.length > best.length then o else best) [] with
  | [] => none
  | o => some (o, cs.drop o.length)

/-- A line break, `\n` or `\r\n`, else the longest operator. -/
def lineBreakOrOperator : List Char → Option (List Char × List Char)
  | '\n' :: r => some (['\n'], r)
  | '\r' :: '\n' :: r => some (['\r', '\n'], r)
  | cs => operator cs

/-- The string prefixes, in lower case: none, `b`, `r`, `u`, `f`, and `br`, `fr` in either
order. -/
def prefixes : List String := ["", "b", "r", "u", "f", "br", "rb", "fr", "rf"]

/-- Whether `p` is a string prefix, in any case. -/
def isPrefix (p : List Char) : Bool :=
  prefixes.contains (String.ofList (p.map Char.toLower))

/-- Whether `c` is a quote. -/
def isQuote (c : Char) : Bool := c == '\x27' || c == '"'

/-- A string prefix followed by a quote: the prefix and the rest from the quote on. The prefix is
the run of letters before the first quote, which must be a prefix as a whole. -/
def stringStart (cs : List Char) : Option (List Char × List Char) :=
  let letters := cs.takeWhile Char.isAlpha
  let rest := cs.drop letters.length
  match rest with
  | q :: _ => if isQuote q && letters.length ≤ 2 && isPrefix letters then some (letters, rest)
    else none
  | [] => none

/-- The opening of a triple-quoted string: a prefix and three equal quotes. -/
def tripleOpen (cs : List Char) : Option (List Char × List Char) :=
  match stringStart cs with
  | some (p, q :: q2 :: q3 :: r) =>
    if q2 == q && q3 == q then some (p ++ [q, q, q], r) else none
  | _ => none

/-- The body of a string on one line after its opening quote `q`: up to the closing quote, or up
to a backslash before the line break, which continues the string on the next line. A backslash
takes the next character with it, unless that is the line break. -/
def lineStringBody (q : Char) : List Char → Option (List Char × List Char)
  | c :: rest =>
    if c == q then some ([c], rest)
    else if c == '\n' then none
    else if c == '\\' then
      match rest with
      | '\n' :: r => some (['\\', '\n'], r)
      | '\r' :: '\n' :: r => some (['\\', '\r', '\n'], r)
      | d :: r => (lineStringBody q r).map fun (b, r') => (c :: d :: b, r')
      | [] => none
    else (lineStringBody q rest).map fun (b, r') => (c :: b, r')
  | [] => none

/-- A string on one line, or the first line of one continued by a backslash. -/
def lineString (cs : List Char) : Option (List Char × List Char) :=
  match stringStart cs with
  | some (p, q :: r) => (lineStringBody q r).map fun (b, r') => (p ++ q :: b, r')
  | _ => none

/-- The rest of a triple-quoted string up to and with its three closing quotes `q`, on the text
`cs`. A backslash takes the next character with it unless that is a line break, where the
search fails. -/
def tripleTail (q : Char) : List Char → Option (List Char × List Char)
  | c :: rest =>
    if c == q && rest.take 2 == [q, q] then some ([c, q, q], rest.drop 2)
    else if c == '\\' then
      match rest with
      | d :: r => if d == '\n' then none else (tripleTail q r).map fun (b, r') => (c :: d :: b, r')
      | [] => none
    else (tripleTail q rest).map fun (b, r') => (c :: b, r')
  | [] => none

/-- The rest of a string continued from an earlier line, up to and with its closing quote `q`:
any characters but the quote and backslash, a backslash taking the next character other than a
line break. -/
def continuedTail (q : Char) : List Char → Option (List Char × List Char)
  | c :: rest =>
    if c == q then some ([c], rest)
    else if c == '\\' then
      match rest with
      | d :: r => if d == '\n' then none else (continuedTail q r).map fun (b, r') => (c :: d :: b, r')
      | [] => none
    else (continuedTail q rest).map fun (b, r') => (c :: b, r')
  | [] => none

/-- A comment: `#` and the rest of the line before its break. -/
def comment : List Char → Option (List Char × List Char)
  | '#' :: rest =>
    let body := rest.takeWhile fun c => c != '\r' && c != '\n'
    some ('#' :: body, rest.drop body.length)
  | _ => none

/-- A line continuation: a backslash and the line break. -/
def continuation : List Char → Option (List Char × List Char)
  | '\\' :: '\n' :: r => some (['\\', '\n'], r)
  | '\\' :: '\r' :: '\n' :: r => some (['\\', '\r', '\n'], r)
  | _ => none

/-- A run of word characters. -/
def word (cs : List Char) : Option (List Char × List Char) :=
  match cs.takeWhile Text.isWord with
  | [] => none
  | w => some (w, cs.drop w.length)

/-- The token at the front of `cs`, which follows the blanks: the first form that matches, in
the order of the module comment. The end of the line gives the empty token. -/
def pseudo (cs : List Char) : Option (List Char × List Char) :=
  if cs.isEmpty then some ([], []) else
  (continuation cs).orElse fun _ => (comment cs).orElse fun _ => (tripleOpen cs).orElse fun _ =>
    (number cs).orElse fun _ => (lineBreakOrOperator cs).orElse fun _ =>
      (lineString cs).orElse fun _ => word cs

end Scan

/-- A string that goes on past the end of its line. -/
structure OpenString where
  /-- The text of the string so far, from its prefix on. -/
  text : String
  /-- The line and column where the string began. -/
  line : Nat
  col : Nat
  /-- The quote character. -/
  quote : Char
  /-- Whether the string is triple-quoted. -/
  triple : Bool
  deriving Inhabited

/-- The state of the tokenizer between lines. -/
structure ScanState where
  /-- The number of the line read last. -/
  line : Nat := 0
  /-- The bracket depth. -/
  depth : Int := 0
  /-- Whether the last line ended with a line continuation. -/
  continued : Bool := false
  /-- The open indentation columns, innermost first. -/
  indents : List Nat := [0]
  /-- A string left open at the end of the last line. -/
  pending : Option OpenString := none
  /-- Whether a string continued by a backslash was opened and has not been closed since; a
  string left open then ends at the first line that neither closes it nor ends with a
  backslash, as an error token. The flag outlives the string that set it when that string ends
  as an error token. -/
  needsBackslash : Bool := false
  /-- The tokens so far, last first. -/
  out : List Token := []
  deriving Inhabited

namespace ScanState

/-- Adds a token. -/
def emit (st : ScanState) (t : Token) : ScanState := { st with out := t :: st.out }

/-- The kind of a token matched at a place, from its first character. -/
def classify (st : ScanState) (tok : List Char) : ScanState × Option OpenString :=
  match tok with
  | [] => (st, none)
  | c :: _ =>
    let text := String.ofList tok
    if Scan.isDigit c || (c == '.' && text != "." && text != "...") then (st.emit (.number text), none)
    else if c == '\r' || c == '\n' then
      (st.emit ⟨if st.depth > 0 then .softNewline else .newline, text⟩, none)
    else if c == '#' then (st.emit ⟨.comment, text⟩, none)
    else if (Scan.stringStart tok).isSome then (st.emit ⟨.string, text⟩, none)
    else if Text.isIdentifierStart c then (st.emit (.name text), none)
    else if c == '\\' then ({ st with continued := true }, none)
    else
      let depth := if c == '(' || c == '[' || c == '{' then st.depth + 1
        else if c == ')' || c == ']' || c == '}' then st.depth - 1 else st.depth
      ({ st with depth := depth }.emit (.op text), none)

/-- Tokens from the place `col` of the current line on, `rest` being the line from there;
`fuel` bounds the steps. -/
def tokens (st : ScanState) : Nat → List Char → Nat → ScanState
  | 0, _, _ => st
  | _ + 1, [], _ => st
  | fuel + 1, rest, col =>
    let blanks := rest.takeWhile Scan.isBlank
    let r := rest.drop blanks.length
    let start := col + blanks.length
    match Scan.pseudo r with
    | none => tokens (st.emit ⟨.error, String.singleton (rest.headD ' ')⟩) fuel rest.tail (col + 1)
    | some ([], r') => tokens st fuel r' start
    | some (tok, r') =>
      let next := start + tok.length
      match Scan.tripleOpen tok with
      | some (_, _) =>
        -- a triple-quoted string: closed on this line, or left open
        let q := tok.getLast?.getD '"'
        match Scan.tripleTail q r' with
        | some (body, r'') =>
          tokens (st.emit ⟨.string, String.ofList (tok ++ body)⟩) fuel r'' (next + body.length)
        | none =>
          { st with pending := some ⟨String.ofList (tok ++ r'), st.line, start, q, true⟩ }
      | none =>
        if (Scan.lineString tok).isSome && tok.getLast? == some '\n' then
          let q := (tok.dropWhile Char.isAlpha).headD '"'
          { st with pending := some ⟨String.ofList tok, st.line, start, q, false⟩,
                    needsBackslash := true }
        else
          let (st, _) := st.classify tok
          tokens st fuel r' next

/-- The indentation of a line from column `col`: its column (a tab moves to the next multiple of
eight, a form feed back to zero) and the number of blank characters. -/
def indentation (col : Nat) : List Char → Nat × Nat
  | c :: rest =>
    if c == ' ' then let (k, n) := indentation (col + 1) rest; (k, n + 1)
    else if c == '\t' then let (k, n) := indentation ((col / 8 + 1) * 8) rest; (k, n + 1)
    else if c.toNat == 12 then let (k, n) := indentation 0 rest; (k, n + 1)
    else (col, 0)
  | [] => (col, 0)

/-- Dedent tokens down to `col`, which must be an open indentation; `fuel` bounds the steps. -/
def dedentTo (st : ScanState) (col : Nat) : Nat → Except Fault ScanState
  | 0 => .ok st
  | fuel + 1 =>
    match st.indents with
    | top :: outer =>
      if col < top then
        if st.indents.contains col then
          dedentTo ({ st with indents := outer }.emit ⟨.dedent, ""⟩) col fuel
        else .error (.dedent st.line)
      else .ok st
    | [] => .ok st

/-- Whether a line ends with a backslash before its break. -/
def endsWithContinuation (line : List Char) : Bool :=
  let r := line.reverse
  match r with
  | '\n' :: '\\' :: _ => true
  | '\n' :: '\r' :: '\\' :: _ => true
  | _ => false

/-- Reads one line (empty at the end of the text); the flag tells that the text ends here. -/
def readLine (st0 : ScanState) (line : List Char) : Except Fault (ScanState × Bool) :=
  let st := { st0 with line := st0.line + 1 }
  let fuel := line.length + 1
  match st.pending with
  | some p =>
    if line.isEmpty then .error (.openString p.line p.col)
    else
      let closing := if p.triple then Scan.tripleTail p.quote line else Scan.continuedTail p.quote line
      match closing with
      | some (body, rest) =>
        let st := { st with pending := none, needsBackslash := false }.emit
          ⟨.string, p.text ++ String.ofList body⟩
        .ok (st.tokens fuel rest body.length, false)
      | none =>
        if st.needsBackslash && !endsWithContinuation line then
          .ok ({ st with pending := none }.emit ⟨.error, p.text ++ String.ofList line⟩, false)
        else .ok ({ st with pending := some { p with text := p.text ++ String.ofList line } }, false)
  | none =>
    if st.depth == 0 && !st.continued then
      if line.isEmpty then .ok (st, true)
      else
        let (col, n) := indentation 0 line
        let rest := line.drop n
        match rest with
        | [] => .ok (st, true)
        | c :: _ =>
          if c == '#' || c == '\r' || c == '\n' then
            -- a comment runs to the end of the line, less the line break
            let com := (rest.reverse.dropWhile fun c => c == '\r' || c == '\n').reverse
            let (st, rest) := if c == '#' then
                (st.emit ⟨.comment, String.ofList com⟩, rest.drop com.length)
              else (st, rest)
            .ok (st.emit ⟨.softNewline, String.ofList rest⟩, false)
          else
            let top := st.indents.headD 0
            let st := if col > top then
              { st with indents := col :: st.indents }.emit ⟨.indent, String.ofList (line.take n)⟩
              else st
            match st.dedentTo col (st.indents.length + 1) with
            | .ok st => .ok (st.tokens fuel rest n, false)
            | .error e => .error e
    else
      if line.isEmpty then .error (.openStatement st.line)
      else .ok ({ st with continued := false }.tokens fuel line 0, false)

/-- Reads the lines in turn, `prev` being the line read before them, until a line ends the text;
gives the state and the last line read before that one. -/
def readLines (st : ScanState) (prev : List Char) :
    List (List Char) → Except Fault (ScanState × List Char)
  | [] => .ok (st, prev)
  | line :: more => do
    let (st', stop) ← st.readLine line
    if stop then .ok (st', prev) else readLines st' line more

end ScanState

/-- The lines of a text, each with its line break `\n` (the last may have none), followed by the
empty line that marks the end. -/
def lines (s : String) : List (List Char) :=
  let parts := s.splitOn "\n"
  let n := parts.length
  (parts.zipIdx.filterMap fun (p, i) =>
    if i + 1 < n then some (p.toList ++ ['\n'])
    else if p.isEmpty then none else some p.toList) ++ [[]]

/-- The tokens of statement text, ending with a newline unless the last line is a comment line,
dedents for open indentation and an end marker. -/
def Token.scan (s : String) : Except Fault (List Token) := do
  let (st, last) ← ScanState.readLines {} [] (lines s)
  let trimmed := (last.dropWhile Text.isBlank).reverse.dropWhile Text.isBlank
  let closing : List Token :=
    if !last.isEmpty && last.getLast? != some '\n' && last.getLast? != some '\r' &&
      trimmed.getLast? != some '#' then [⟨.newline, ""⟩] else []
  let dedents := (st.indents.dropLast).map fun _ => (⟨.dedent, ""⟩ : Token)
  pure (st.out.reverse ++ closing ++ dedents ++ [⟨.endMarker, ""⟩])

end ExprTree.Formula
