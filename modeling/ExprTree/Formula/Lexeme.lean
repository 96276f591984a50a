import ExprTree.Formula.Fault
import ExprTree.Text.Identifier
import ExprTree.Text.Printable
/-!
  Code text split into lexemes, the units the grammar reads, with the faults of malformed code.

  Carriage returns are line breaks, and blanks and tabs before the first token are dropped. A
  line at bracket depth zero opens with its indentation: deeper than the innermost open block
  opens a new one (an indent), shallower closes blocks (dedents) down to one of exactly its
  depth; blank and comment lines do not count, and inside brackets line breaks are ignored. A
  backslash before a line break joins two lines.

  Names are runs of letters, digits, underscores and non-ASCII characters; a name with
  non-ASCII characters must start with a character that may start a name and go on with
  characters that may go on one, else the first character that may not is reported. Numbers
  follow the language's literals, with an underscore only between digits, no leading zero on a
  decimal whole number, and no letter right after a number. Strings have a prefix of at most
  `b`, `r`, `u` and `f` in the allowed combinations, one or three quotes, and a backslash
  takes the next character with it; a string on one quote ends at its line.

  Every lexeme carries the line it ends on (a string the line it starts on) and the bracket
  depth after it.
-/

namespace ExprTree.Formula

/-- The kind of a lexeme. -/
inductive LexKind where
  | name
  | number
  | string
  | op
  | newline
  | indent
  | dedent
  | endMarker
  deriving DecidableEq, Repr, Inhabited

/-- A lexeme: its kind, text, line, the bracket depth after it, and whether reading it looked past
the last character of the text (a name, number or short operator that ends the text does, as
does the end marker). -/
structure Lexeme where
  kind : LexKind
  text : String
  line : Nat
  depth : Nat
  atEnd : Bool
  deriving Repr, Inhabited

/-- The lexemes of a code text, and how the text ends: at its end marker, or at a fault after the
lexemes (the end of the text inside brackets is one). -/
structure LexResult where
  lexemes : Array Lexeme
  fault : Option Fault
  /-- Whether the fault is one that only a reader reaching it reports: a fault of indentation or
  of a line continuation, or the end of the text inside brackets or after a continuation. Other
  faults win over any fault of the grammar. -/
  quiet : Bool
  /-- The innermost bracket open where the text ends or the fault arises, with its line. -/
  openBracket : Option (Char × Nat)
  deriving Inhabited

namespace Lex

/-- Whether `c` may start a name as far as the lexer first sees: a letter, an underscore or any
non-ASCII character. -/
def isNameStart (c : Char) : Bool :=
  ('a' ≤ c && c ≤ 'z') || ('A' ≤ c && c ≤ 'Z') || c == '_' || c.toNat ≥ 128

/-- Whether `c` may go on a name as far as the lexer first sees. -/
def isNameChar (c : Char) : Bool := isNameStart c || ('0' ≤ c && c ≤ '9')

/-- Whether `c` is an ASCII digit. -/
def isDigit (c : Char) : Bool := '0' ≤ c && c ≤ '9'

/-- Whether `c` is a hexadecimal digit. -/
def isHexDigit (c : Char) : Bool :=
  isDigit c || ('a' ≤ c && c ≤ 'f') || ('A' ≤ c && c ≤ 'F')

/-- Four or more upper-case hexadecimal digits of `n`. -/
def hex4 (n : Nat) : String :=
  let ds := (Nat.toDigits 16 n).map Char.toUpper
  String.ofList (List.replicate (4 - ds.length) '0' ++ ds)

/-- The fault for a character that may not stand in code, printable or not. -/
def badCharacter (c : Char) (line : Nat) : Fault :=
  if Text.isPrintable c then
    .malformed ("invalid character \x27" ++ String.singleton c ++ "\x27 (U+" ++ hex4 c.toNat ++ ")") line
  else .malformed ("invalid non-printable character U+" ++ hex4 c.toNat) line

/-- The first character of a name that breaks the identifier rule, if any. -/
def badNameChar (cs : List Char) : Option Char :=
  match cs with
  | [] => none
  | c :: rest =>
    if !Text.isIdentifierStart c then some c else rest.find? (fun d => !Text.isIdentifierPart d)

/-- The two-character operators. -/
def twoChar : List String :=
  ["!=", "%=", "&=", "**", "*=", "+=", "-=", "->", "//", "/=", ":=", "<<", "<=", "<>", "==", ">=",
    ">>", "@=", "^=", "|="]

/-- The three-character operators. -/
def threeChar : List String := ["**=", "...", "//=", "<<=", ">>="]

/-- Whether the text at `i` spells `word` and is not followed by a name character. -/
def spells (cs : Array Char) (i : Nat) (word : String) : Bool :=
  let ws := word.toList
  (List.range ws.length).all (fun k => cs[i + k]? == ws[k]?) &&
    !(((cs[i + ws.length]?).map isNameChar).getD false)

end Lex

/-- The state of the lexer. -/
structure LexState where
  /-- The text, as characters. -/
  chars : Array Char
  /-- The line of each place: one more than the line breaks before it. -/
  lines : Array Nat
  /-- Whether the next character starts a line. -/
  atLineStart : Bool := true
  /-- Whether the current line holds nothing but blanks and a comment. -/
  blankLine : Bool := false
  /-- The open brackets with their lines, innermost first. -/
  brackets : List (Char × Nat) := []
  /-- The open indentation columns, counted with tabs to eight and to one, innermost first. -/
  indents : List (Nat × Nat) := [(0, 0)]
  /-- Indents (positive) or dedents (negative) still to be given. -/
  pending : Int := 0
  /-- The lexemes so far. -/
  out : Array Lexeme := #[]

namespace LexState

/-- The character at `i`, if any. -/
def at? (st : LexState) (i : Nat) : Option Char := st.chars[i]?

/-- The line of place `i`: that of the last character when `i` is past the end. -/
def lineAt (st : LexState) (i : Nat) : Nat :=
  match st.lines[i]? with
  | some l => l
  | none => st.lines.back?.getD 0

/-- The bracket depth. -/
def depth (st : LexState) : Nat := st.brackets.length

/-- Adds a lexeme of the text from `i` to `j`, on the line of place `j - 1`, whose reading looked
as far as place `reach`. -/
def pushUpTo (st : LexState) (kind : LexKind) (i j reach : Nat) : LexState :=
  let text := String.ofList ((st.chars.extract i j).toList)
  { st with out := st.out.push ⟨kind, text, st.lineAt (j - 1), st.depth, reach ≥ st.chars.size⟩ }

/-- A lexeme from `i` to `j` whose reading looked at the character at `j`. -/
def push (st : LexState) (kind : LexKind) (i j : Nat) : LexState := st.pushUpTo kind i j j

/-- The end of a run of digits with single underscores between them, from `i` (just after a
digit); fails at an underscore not followed by a digit. -/
def decimalTail (st : LexState) : Nat → Nat → Except Fault Nat
  | 0, i => .ok i
  | fuel + 1, i =>
    match st.at? i with
    | some c =>
      if Lex.isDigit c then st.decimalTail fuel (i + 1)
      else if c == '_' then
        match st.at? (i + 1) with
        | some d => if Lex.isDigit d then st.decimalTail fuel (i + 2)
          else .error (.malformed "invalid decimal literal" (st.lineAt (i + 1)))
        | none => .error (.malformed "invalid decimal literal" (st.lineAt i))
      else .ok i
    | none => .ok i

/-- Checks what follows a number of the given kind at `i`: a keyword that may follow a number
(`and`, `else`, `for`, `if`, `in`, `is`, `not`, `or`) is allowed; any other ASCII name character
is a fault. -/
def endOfNumber (st : LexState) (i : Nat) (kind : String) : Except Fault Unit :=
  match st.at? i with
  | none => .ok ()
  | some c =>
    let keyword :=
      (c == 'a' && Lex.spells st.chars (i + 1) "nd") ||
      (c == 'e' && Lex.spells st.chars (i + 1) "lse") ||
      (c == 'f' && Lex.spells st.chars (i + 1) "or") ||
      (c == 'i' && (st.at? (i + 1) == some 'f' || st.at? (i + 1) == some 'n' ||
        st.at? (i + 1) == some 's')) ||
      (c == 'o' && Lex.spells st.chars (i + 1) "r") ||
      (c == 'n' && Lex.spells st.chars (i + 1) "ot")
    if keyword then .ok ()
    else if Lex.isNameChar c && c.toNat < 128 then
      .error (.malformed ("invalid " ++ kind ++ " literal") (st.lineAt i))
    else .ok ()

/-- The end of the digits of a base (hexadecimal, octal or binary) after its prefix at `i`: groups
of digits, each possibly after one underscore. -/
def baseDigits (st : LexState) (ok : Char → Bool) (kind : String) (checkDecimal : Bool) :
    Nat → Nat → Except Fault Nat
  | 0, i => .ok i
  | fuel + 1, i =>
    let i := if st.at? i == some '_' then i + 1 else i
    match st.at? i with
    | some c =>
      if ok c then
        let j := (List.range (st.chars.size - i)).find? (fun k => !((st.at? (i + k)).map ok).getD false)
        let j := i + j.getD (st.chars.size - i)
        if st.at? j == some '_' then st.baseDigits ok kind checkDecimal fuel j
        else if checkDecimal && ((st.at? j).map Lex.isDigit).getD false then
          .error (.malformed ("invalid digit \x27" ++ String.singleton ((st.at? j).getD '0') ++
            "\x27 in " ++ kind ++ " literal") (st.lineAt j))
        else .ok j
      else if checkDecimal && Lex.isDigit c then
        .error (.malformed ("invalid digit \x27" ++ String.singleton c ++ "\x27 in " ++ kind ++
          " literal") (st.lineAt i))
      else .error (.malformed ("invalid " ++ kind ++ " literal") (st.lineAt i))
    | none => .error (.malformed ("invalid " ++ kind ++ " literal") (st.lineAt (i - 1)))

/-- Reads the rest of a number whose whole part ended at `i`: a fraction, an exponent and an
imaginary unit; gives the end of the number. -/
def numberRest (st : LexState) (fuel : Nat) (i : Nat) (afterPoint : Bool) : Except Fault Nat := do
  -- the fraction, if a point came
  let i ← if afterPoint then
      if ((st.at? i).map Lex.isDigit).getD false then st.decimalTail fuel (i + 1) else pure i
    else pure i
  -- the exponent
  let expo : Except Fault (Option Nat) :=
    match st.at? i with
    | some e =>
      if e == 'e' || e == 'E' then
        match st.at? (i + 1) with
        | some s =>
          if s == '+' || s == '-' then
            if ((st.at? (i + 2)).map Lex.isDigit).getD false then
              (st.decimalTail fuel (i + 3)).map some
            else .error (.malformed "invalid decimal literal" (st.lineAt (i + 2)))
          else if Lex.isDigit s then (st.decimalTail fuel (i + 2)).map some
          else .ok none
        | none => .ok none
      else .ok (some i)
    | none => .ok (some i)
  match ← expo with
  | none =>
    -- an `e` not starting an exponent ends the number before it, if it may
    st.endOfNumber i "decimal"
    pure i
  | some i =>
    match st.at? i with
    | some j =>
      if j == 'j' || j == 'J' then do
        st.endOfNumber (i + 1) "imaginary"
        pure (i + 1)
      else do
        st.endOfNumber i "decimal"
        pure i
    | none => pure i

/-- Reads a number starting at `i` with a digit; gives its end. -/
def number (st : LexState) (fuel : Nat) (i : Nat) : Except Fault Nat :=
  if st.at? i == some '0' then
    match st.at? (i + 1) with
    | some m =>
      if m == 'x' || m == 'X' then do
        let j ← st.baseDigits Lex.isHexDigit "hexadecimal" false fuel (i + 2)
        st.endOfNumber j "hexadecimal"
        pure j
      else if m == 'o' || m == 'O' then do
        let j ← st.baseDigits (fun c => '0' ≤ c && c ≤ '7') "octal" true fuel (i + 2)
        st.endOfNumber j "octal"
        pure j
      else if m == 'b' || m == 'B' then do
        let j ← st.baseDigits (fun c => c == '0' || c == '1') "binary" true fuel (i + 2)
        st.endOfNumber j "binary"
        pure j
      else zeros fuel (i + 1)
    | none => pure (i + 1)
  else do
    let j ← st.decimalTail fuel (i + 1)
    if st.at? j == some '.' then st.numberRest fuel (j + 1) true else st.numberRest fuel j false
where
  /-- After a leading zero: more zeros (an underscore only before a digit), then a decimal
  whole part, which needs a point, an exponent or `j` after it. -/
  zeros : Nat → Nat → Except Fault Nat
    | 0, j => .ok j
    | fuel + 1, j =>
      match st.at? j with
      | some '_' =>
        if ((st.at? (j + 1)).map Lex.isDigit).getD false then zeros fuel (j + 1)
        else .error (.malformed "invalid decimal literal" (st.lineAt (j + 1)))
      | some '0' => zeros fuel (j + 1)
      | _ => do
        let (k, nonzero) ← if ((st.at? j).map Lex.isDigit).getD false then
            (do let k ← st.decimalTail fuel (j + 1); pure (k, true))
          else pure (j, false)
        match st.at? k with
        | some '.' => st.numberRest fuel (k + 1) true
        | some c =>
          if c == 'e' || c == 'E' || c == 'j' || c == 'J' then st.numberRest fuel k false
          else if nonzero then
            .error (.malformed ("leading zeros in decimal integer literals are not permitted; " ++
              "use an 0o prefix for octal integers") (st.lineAt k))
          else do
            st.endOfNumber k "decimal"
            pure k
        | none =>
          if nonzero then
            .error (.malformed ("leading zeros in decimal integer literals are not permitted; " ++
              "use an 0o prefix for octal integers") (st.lineAt (k - 1)))
          else pure k

/-- Reads a string whose opening quote is at `q`; gives its end. -/
def string (st : LexState) (start q : Nat) : Except Fault Nat :=
  let quote := (st.at? q).getD '"'
  let triple := st.at? (q + 1) == some quote && st.at? (q + 2) == some quote
  if !triple && st.at? (q + 1) == some quote then .ok (q + 2)
  else
    let size := if triple then 3 else 1
    go quote size 0 (st.chars.size + 1) (q + size)
where
  /-- Walks the body with the count of closing quotes seen in a row. -/
  go (quote : Char) (size seen : Nat) : Nat → Nat → Except Fault Nat
    | 0, i => .ok i
    | fuel + 1, i =>
      if seen == size then .ok i
      else
        match st.at? i with
        | none => unterminated size i
        | some c =>
          if size == 1 && c == '\n' then unterminated size i
          else if c == quote then go quote size (seen + 1) fuel (i + 1)
          else if c == '\\' then go quote size 0 fuel (i + 2)
          else go quote size 0 fuel (i + 1)
  /-- The fault of a string left open, reported at its start. -/
  unterminated (size i : Nat) : Except Fault Nat :=
    let detected := st.lineAt (if st.at? i == some '\n' then i else i - 1)
    let startLine := st.lineAt start
    if size == 3 then
      .error (.malformed ("unterminated triple-quoted string literal (detected at line " ++
        toString detected ++ ")") startLine)
    else
      .error (.malformed ("unterminated string literal (detected at line " ++ toString detected ++
        ")") startLine)

/-- The end of a string prefix and its quote at `i`, if a string opens there: letters of the
allowed combinations of `b`, `r`, `u`, `f` directly followed by a quote. -/
def stringOpening (st : LexState) (i : Nat) : Option Nat :=
  go false false false false i 3
where
  /-- Walks the prefix letters with which have been seen. -/
  go (b r u f : Bool) (j : Nat) : Nat → Option Nat
    | 0 => none
    | fuel + 1 =>
      match st.at? j with
      | some c =>
        if c == '\x27' || c == '"' then some j
        else
          let lc := c.toLower
          if !(b || u || f) && lc == 'b' then go true r u f (j + 1) fuel
          else if !(b || u || r || f) && lc == 'u' then go b r true f (j + 1) fuel
          else if !(r || u) && lc == 'r' then go b true u f (j + 1) fuel
          else if !(f || b || u) && lc == 'f' then go b r u true (j + 1) fuel
          else none
      | none => none

/-- The fault of text ending inside brackets or after a continuation. -/
def endFault (st : LexState) (line : Nat) : Fault :=
  match st.brackets with
  | (b, l) :: _ => .malformed ("\x27" ++ String.singleton b ++ "\x27 was never closed") l
  | [] => .malformed "unexpected EOF while parsing" line

/-- Measures the indentation of a line from `i`: column with tabs to eight, column with tabs to
one, the place after the blanks, and the column of the first line continuation (one at column
zero counts as none). A continuation must be followed by a line break, and by more text. -/
def measure (st : LexState) : Nat → Nat → Nat → Nat → Option Nat → Except Fault (Nat × Nat × Nat × Option Nat)
  | 0, col, alt, i, cont => .ok (col, alt, i, cont)
  | fuel + 1, col, alt, i, cont =>
    match st.at? i with
    | some ' ' => st.measure fuel (col + 1) (alt + 1) (i + 1) cont
    | some '\t' => st.measure fuel ((col / 8 + 1) * 8) (alt + 1) (i + 1) cont
    | some c =>
      if c.toNat == 12 then st.measure fuel 0 0 (i + 1) cont
      else if c == '\\' then
        let cont := (cont.filter (· != 0)).orElse fun _ => some col
        if st.at? (i + 1) != some '\n' then
          .error (.malformed "unexpected character after line continuation character" (st.lineAt i))
        else if st.at? (i + 2) == none then .error (st.endFault (st.lineAt (i + 1)))
        else st.measure fuel col alt (i + 2) cont
      else .ok (col, alt, i, cont)
    | none => .ok (col, alt, i, cont)

/-- Opens or closes indentation blocks for a line of column `col` (and `alt`, tabs counted as one
column). -/
def indentLine (st : LexState) (col alt line : Nat) : Except Fault LexState :=
  let (top, altTop) := st.indents.headD (0, 0)
  if col == top then
    if alt != altTop then .error (.tabs line) else .ok st
  else if col > top then
    if st.indents.length ≥ 100 then .error (.indent "too many levels of indentation" line)
    else if alt ≤ altTop then .error (.tabs line)
    else .ok { st with indents := (col, alt) :: st.indents, pending := st.pending + 1 }
  else
    let kept := st.indents.dropWhile fun (c, _) => col < c
    let kept := if kept.isEmpty then [(0, 0)] else kept
    let closed := st.indents.length - kept.length
    let (top, altTop) := kept.headD (0, 0)
    if col != top then .error (.indent "unindent does not match any outer indentation level" line)
    else if alt != altTop then .error (.tabs line)
    else .ok { st with indents := kept, pending := st.pending - closed }

/-- What one step of the lexer gives: the state and place to go on from, or the result. -/
inductive LexStep where
  | next (st : LexState) (i : Nat)
  | stop (r : LexResult)

/-- A string lexeme from `i` to `j`, on the line it starts on. -/
def pushString (st : LexState) (i j : Nat) : LexState :=
  let text := String.ofList ((st.chars.extract i j).toList)
  { st with out := st.out.push ⟨.string, text, st.lineAt i, st.depth, false⟩ }

/-- The place of the first character at or after `i` that `p` refuses, or the end. -/
def skipWhile (st : LexState) (p : Char → Bool) (i : Nat) : Nat :=
  i + ((List.range (st.chars.size - i)).find? fun k =>
    !(((st.at? (i + k)).map p).getD false)).getD (st.chars.size - i)

/-- Reads one lexeme after the blanks from `i`, or skips a line break that gives none. -/
def step (st : LexState) (fuel i0 : Nat) : LexStep :=
  let i := st.skipWhile (fun c => c == ' ' || c == '\t' || c.toNat == 12) i0
  -- a comment runs to the line break
  let i := if st.at? i == some '#' then st.skipWhile (· != '\n') i else i
  let fail := fun (f : Fault) => LexStep.stop ⟨st.out, some f, false, st.brackets.head?⟩
  let failQuietly := fun (f : Fault) => LexStep.stop ⟨st.out, some f, true, st.brackets.head?⟩
  match st.at? i with
  | none =>
    if st.depth > 0 then failQuietly (st.endFault (st.lineAt i))
    else .stop ⟨st.out.push ⟨.endMarker, "", st.lineAt i, 0, true⟩, none, false, none⟩
  | some c =>
    if c == '\n' then
      if st.blankLine || st.depth > 0 then .next { st with atLineStart := true } (i + 1)
      else
        .next { st with atLineStart := true, out := st.out.push ⟨.newline, "", st.lineAt i, 0, false⟩ }
          (i + 1)
    else if Lex.isNameStart c then
      match st.stringOpening i with
      | some q =>
        match st.string i q with
        | .ok j => .next (st.pushString i j) j
        | .error f => fail f
      | none =>
        let j := st.skipWhile Lex.isNameChar i
        let cs := (st.chars.extract i j).toList
        if cs.any (·.toNat ≥ 128) then
          match Lex.badNameChar cs with
          | some bad => fail (Lex.badCharacter bad (st.lineAt (j - 1)))
          | none => .next (st.push .name i j) j
        else .next (st.push .name i j) j
    else if c == '.' then
      if ((st.at? (i + 1)).map Lex.isDigit).getD false then
        match st.numberRest fuel (i + 1) true with
        | .ok j => .next (st.push .number i j) j
        | .error f => fail f
      else if st.at? (i + 1) == some '.' then
        if st.at? (i + 2) == some '.' then .next (st.pushUpTo .op i (i + 3) (i + 2)) (i + 3)
        else .next (st.pushUpTo .op i (i + 1) (i + 2)) (i + 1)
      else .next (st.push .op i (i + 1)) (i + 1)
    else if Lex.isDigit c then
      match st.number fuel i with
      | .ok j => .next (st.push .number i j) j
      | .error f => fail f
    else if c == '\x27' || c == '"' then
      match st.string i i with
      | .ok j => .next (st.pushString i j) j
      | .error f => fail f
    else if c == '\\' then
      if st.at? (i + 1) != some '\n' then
        failQuietly (.malformed "unexpected character after line continuation character" (st.lineAt i))
      else if st.at? (i + 2) == none then failQuietly (st.endFault (st.lineAt (i + 1)))
      else .next st (i + 2)
    else
      let s2 := String.ofList ((st.chars.extract i (i + 2)).toList)
      let s3 := String.ofList ((st.chars.extract i (i + 3)).toList)
      if Lex.threeChar.contains s3 then .next (st.pushUpTo .op i (i + 3) (i + 2)) (i + 3)
      else if Lex.twoChar.contains s2 then .next (st.push .op i (i + 2)) (i + 2)
      else if c == '(' || c == '[' || c == '{' then
        if st.depth ≥ 200 then fail (.malformed "too many nested parentheses" (st.lineAt i))
        else
          let st := { st with brackets := (c, st.lineAt i) :: st.brackets }
          .next (st.push .op i (i + 1)) (i + 1)
      else if c == ')' || c == ']' || c == '}' then
        match st.brackets with
        | [] => fail (.malformed ("unmatched \x27" ++ String.singleton c ++ "\x27") (st.lineAt i))
        | (o, l) :: outer =>
          if (o == '(' && c == ')') || (o == '[' && c == ']') || (o == '{' && c == '}') then
            .next ({ st with brackets := outer }.push .op i (i + 1)) (i + 1)
          else
            let msg := "closing parenthesis \x27" ++ String.singleton c ++
              "\x27 does not match opening parenthesis \x27" ++ String.singleton o ++ "\x27"
            let msg := if l != st.lineAt i then msg ++ " on line " ++ toString l else msg
            fail (.malformed msg (st.lineAt i))
      else if !Text.isPrintable c then fail (Lex.badCharacter c (st.lineAt i))
      else .next (st.push .op i (i + 1)) (i + 1)

/-- The indentation at the start of a line from `i`: opens or closes blocks and gives the place of
the first character that is not blank. -/
def startLine (st : LexState) (i : Nat) : Except Fault (LexState × Nat) := do
  let (col, alt, j, cont) ← st.measure (st.chars.size + 1) 0 0 i none
  let c := st.at? j
  let blank := c == some '#' || c == some '\n'
  let st := { st with atLineStart := false, blankLine := blank }
  if !blank && st.depth == 0 then
    let cont := cont.filter (· != 0)
    let st ← st.indentLine (cont.getD col) (cont.getD alt) (st.lineAt j)
    pure (st, j)
  else pure (st, j)

/-- Reads lexemes from place `i` on; `fuel` bounds the steps. -/
def run : Nat → LexState → Nat → LexResult
  | 0, st, _ => ⟨st.out, none, false, none⟩
  | fuel + 1, st, i =>
    let started := if st.atLineStart then st.startLine i
      else .ok ({ st with blankLine := false }, i)
    match started with
    | .error f => ⟨st.out, some f, true, st.brackets.head?⟩
    | .ok (st, i) =>
      if st.pending > 0 then
        let out := st.out.push ⟨.indent, "", st.lineAt i, st.depth, false⟩
        run fuel { st with pending := st.pending - 1, out := out } i
      else if st.pending < 0 then
        let out := st.out.push ⟨.dedent, "", st.lineAt i, st.depth, false⟩
        run fuel { st with pending := st.pending + 1, out := out } i
      else
        match st.step fuel i with
        | .next st j => run fuel st j
        | .stop r => r

end LexState

/-- The code as the lexer reads it: carriage returns, alone or before a line feed, become line
feeds, and blanks and tabs at the start are dropped. -/
def codeChars (code : String) : List Char :=
  let rec norm : List Char → List Char
    | '\r' :: '\n' :: rest => '\n' :: norm rest
    | '\r' :: rest => '\n' :: norm rest
    | c :: rest => c :: norm rest
    | [] => []
  (norm code.toList).dropWhile fun c => c == ' ' || c == '\t'

/-- The lexemes of a code text. -/
def Lexeme.scan (code : String) : LexResult :=
  let cs := (codeChars code).toArray
  let lines := (cs.foldl (fun (acc : Array Nat × Nat) c =>
    let (ls, n) := acc
    (ls.push n, if c == '\n' then n + 1 else n)) (#[], 1)).1
  let st : LexState := { chars := cs, lines := lines }
  LexState.run (4 * cs.size + 8) st 0

end ExprTree.Formula
