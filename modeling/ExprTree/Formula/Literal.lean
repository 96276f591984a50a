/-!
  String literals of formula code: the prefix, the body between the quotes, and the value the body
  stands for once its escapes are read.

  A prefix holds at most one each of `b` (bytes), `r` (raw), `u` and `f` (formatted), in either
  case. A raw body is its value as written. Otherwise a backslash starts an escape: a line break
  (dropped), one of `\\ \x27 " a b f n r t v`, one to three octal digits, `x` with two
  hexadecimal digits, and in text also `u` with four and `U` with eight; any other character
  keeps its backslash.

  Text is decoded the way the escape decoder sees it: every non-ASCII character is first spelled
  as the ten characters `\UXXXXXXXX`, and a backslash before one as `\`, so the places in a
  fault's message count characters of that spelling. Bytes may hold ASCII characters only, and an
  octal escape keeps the low eight bits of its value.
-/

namespace ExprTree.Formula

/-- A string literal split into its parts. -/
structure StringLiteral where
  /-- Whether the literal is a bytes literal. -/
  bytes : Bool
  /-- Whether backslashes are kept as written. -/
  raw : Bool
  /-- Whether the literal is a formatted string. -/
  formatted : Bool
  /-- The characters between the quotes. -/
  body : List Char
  deriving Inhabited

/-- Why the body of a literal does not decode. -/
inductive EscapeFault where
  /-- An escape in text is cut short or names no character: the reason, and the places of the
  escape's first character and of the character after the last one read. -/
  | text (reason : String) (start stop : Nat)
  /-- A `\x` escape in bytes lacks its two hexadecimal digits; the place of its backslash. -/
  | hexByte (pos : Nat)
  /-- A bytes literal holds a character outside ASCII. -/
  | nonAscii
  deriving Inhabited

namespace EscapeFault

/-- The message of an escape fault. -/
def message : EscapeFault → String
  | .text reason start stop =>
    let head := "(unicode error) \x27unicodeescape\x27 codec can\x27t decode "
    if stop == start + 1 then
      head ++ "byte 0x5c in position " ++ toString start ++ ": " ++ reason
    else
      head ++ "bytes in position " ++ toString start ++ "-" ++ toString (stop - 1) ++ ": " ++ reason
  | .hexByte pos => "(value error) invalid \\x escape at position " ++ toString pos
  | .nonAscii => "bytes can only contain ASCII literal characters"

end EscapeFault

namespace StringLiteral

/-- Splits the text of a string lexeme into its prefix flags and its body. -/
def ofLexeme (text : String) : StringLiteral :=
  let cs := text.toList
  let pre := cs.takeWhile fun c => c != '\x27' && c != '"'
  let rest := cs.drop pre.length
  let quote := rest.headD '"'
  let triple := rest.length ≥ 6 && rest.take 3 == [quote, quote, quote]
  let size := if triple then 3 else 1
  let body := (rest.drop size).take (rest.length - 2 * size)
  let has := fun (c : Char) => pre.any (·.toLower == c)
  { bytes := has 'b', raw := has 'r', formatted := has 'f', body := body }

end StringLiteral

namespace Escape

/-- Whether `c` is a hexadecimal digit. -/
def isHex (c : Char) : Bool :=
  ('0' ≤ c && c ≤ '9') || ('a' ≤ c && c ≤ 'f') || ('A' ≤ c && c ≤ 'F')

/-- The value of a hexadecimal digit. -/
def hexValue (c : Char) : Nat :=
  if '0' ≤ c && c ≤ '9' then c.toNat - '0'.toNat
  else if 'a' ≤ c && c ≤ 'f' then c.toNat - 'a'.toNat + 10
  else c.toNat - 'A'.toNat + 10

/-- Whether `c` is an octal digit. -/
def isOctal (c : Char) : Bool := '0' ≤ c && c ≤ '7'

/-- The character of a simple escape letter, if it is one. -/
def simple (c : Char) : Option Char :=
  match c with
  | '\\' => some '\\'
  | '\x27' => some '\x27'
  | '"' => some '"'
  | 'a' => some (Char.ofNat 7)
  | 'b' => some (Char.ofNat 8)
  | 'f' => some (Char.ofNat 12)
  | 'n' => some '\n'
  | 'r' => some '\r'
  | 't' => some '\t'
  | 'v' => some (Char.ofNat 11)
  | _ => none

/-- Eight lower-case hexadecimal digits of `n`. -/
def hex8 (n : Nat) : List Char :=
  let ds := Nat.toDigits 16 n
  List.replicate (8 - ds.length) '0' ++ ds

/-- The body of a text literal as the escape decoder reads it: non-ASCII characters are spelled
`\UXXXXXXXX`, and a backslash before one, or at the end, becomes `\`. -/
def spelled : List Char → List Char
  | [] => []
  | '\\' :: rest =>
    match rest with
    | [] => "\\u005c".toList
    | c :: more =>
      if c.toNat ≥ 128 then "\\u005c".toList ++ ('\\' :: 'U' :: hex8 c.toNat) ++ spelled more
      else '\\' :: c :: spelled more
  | c :: rest =>
    if c.toNat ≥ 128 then ('\\' :: 'U' :: hex8 c.toNat) ++ spelled rest else c :: spelled rest

/-- The value of up to three octal digits, and how many there were, after a first digit `d`. -/
def octal (d : Char) (rest : List Char) : Nat × Nat :=
  match rest with
  | a :: b :: _ =>
    if isOctal a then
      if isOctal b then
        (((d.toNat - 48) * 8 + (a.toNat - 48)) * 8 + (b.toNat - 48), 2)
      else ((d.toNat - 48) * 8 + (a.toNat - 48), 1)
    else (d.toNat - 48, 0)
  | [a] => if isOctal a then ((d.toNat - 48) * 8 + (a.toNat - 48), 1) else (d.toNat - 48, 0)
  | [] => (d.toNat - 48, 0)

/-- The character of a code point, with a surrogate read as the replacement character. -/
def charOf (n : Nat) : Char :=
  if n < 0xD800 || (0xDFFF < n && n < 0x110000) then Char.ofNat n else Char.ofNat 0xFFFD

/-- Decodes the escapes of spelled text from place `pos`, building the value last first. -/
def text (cs : List Char) (pos : Nat) (acc : List Char) : Except EscapeFault (List Char) :=
  match cs with
  | [] => .ok acc.reverse
  | '\\' :: rest =>
    match rest with
    | [] => .error (.text "\\ at end of string" pos (pos + 1))
    | c :: more =>
      match simple c with
      | some v => text more (pos + 2) (v :: acc)
      | none =>
        if c == '\n' then text more (pos + 2) acc
        else if isOctal c then
          let (v, n) := octal c more
          text (more.drop n) (pos + 2 + n) (charOf v :: acc)
        else if c == 'x' || c == 'u' || c == 'U' then
          let count := if c == 'x' then 2 else if c == 'u' then 4 else 8
          let reason := if c == 'x' then "truncated \\xXX escape"
            else if c == 'u' then "truncated \\uXXXX escape" else "truncated \\UXXXXXXXX escape"
          let digits := (more.take count).takeWhile isHex
          if digits.length < count then
            .error (.text reason pos (pos + 2 + digits.length))
          else
            let v := digits.foldl (fun a d => a * 16 + hexValue d) 0
            if v > 0x10FFFF then .error (.text "illegal Unicode character" pos (pos + 2 + count))
            else text (more.drop count) (pos + 2 + count) (charOf v :: acc)
        else if c == 'N' then
          let malformed := "malformed \\N character escape"
          match more with
          | '{' :: name =>
            match name.findIdx? (· == '}') with
            | none => .error (.text malformed pos (pos + 2 + more.length))
            | some 0 => .error (.text malformed pos (pos + 3))
            | some k => .error (.text "unknown Unicode character name" pos (pos + 4 + k))
          | _ => .error (.text malformed pos (pos + 2))
        else text more (pos + 2) (c :: '\\' :: acc)
  | c :: rest => text rest (pos + 1) (c :: acc)
termination_by cs.length
decreasing_by all_goals simp_all <;> omega

/-- Decodes the escapes of a bytes body from place `pos`, building the value last first. -/
def bytes (cs : List Char) (pos : Nat) (acc : List Nat) : Except EscapeFault (List Nat) :=
  match cs with
  | [] => .ok acc.reverse
  | '\\' :: rest =>
    match rest with
    | [] => .ok (acc.reverse ++ [92])
    | c :: more =>
      match simple c with
      | some v => bytes more (pos + 2) (v.toNat :: acc)
      | none =>
        if c == '\n' then bytes more (pos + 2) acc
        else if isOctal c then
          let (v, n) := octal c more
          bytes (more.drop n) (pos + 2 + n) ((v % 256) :: acc)
        else if c == 'x' then
          match more with
          | a :: b :: tail =>
            if isHex a && isHex b then bytes tail (pos + 4) ((hexValue a * 16 + hexValue b) :: acc)
            else .error (.hexByte pos)
          | _ => .error (.hexByte pos)
        else bytes (c :: more) (pos + 1) (92 :: acc)
  | c :: rest => bytes rest (pos + 1) (c.toNat :: acc)
termination_by cs.length
decreasing_by all_goals simp_all <;> omega

end Escape

namespace StringLiteral

/-- The value of a text literal's body (or of a literal part of a formatted one). -/
def decodeText (raw : Bool) (body : List Char) : Except EscapeFault String :=
  if raw then .ok (String.ofList body)
  else (Escape.text (Escape.spelled body) 0 []).map String.ofList

/-- The value of a bytes literal's body. -/
def decodeBytes (raw : Bool) (body : List Char) : Except EscapeFault (List Nat) :=
  if body.any (·.toNat ≥ 128) then .error .nonAscii
  else if raw then .ok (body.map Char.toNat)
  else Escape.bytes body 0 []

end StringLiteral

end ExprTree.Formula
