import ExprTree.Text.Printable
/-!
  Quoted text: the written form of a string value. The text is delimited by single quotes, or by
  double quotes when it holds a single quote and no double quote; the delimiter, the backslash,
  tab, line feed and carriage return are escaped with a backslash, other characters below U+0020
  and U+007F as two hex digits, and characters that are not printable as two, four or eight hex
  digits; everything else stands as it is.
-/

namespace ExprTree.Text

/-- The single quote character. -/
def singleQuote : Char := Char.ofNat 0x27

/-- The lower-case hexadecimal digits of `n`, padded with zeros to at least `width` digits. -/
def hexDigits (width n : Nat) : String :=
  let ds := Nat.toDigits 16 n
  String.ofList (List.replicate (width - ds.length) '0' ++ ds)

/-- The delimiter of the quoted form of `s`. -/
def quoteFor (s : String) : Char :=
  if s.contains singleQuote && !s.contains '"' then '"' else singleQuote

/-- The written form of one character inside text delimited by `q`. -/
def escapeChar (q : Char) (c : Char) : String :=
  let n := c.toNat
  if c = q ∨ c = '\\' then String.ofList ['\\', c]
  else if c = '\t' then "\\t"
  else if c = '\n' then "\\n"
  else if c = '\r' then "\\r"
  else if n < 0x20 ∨ n = 0x7f then "\\x" ++ hexDigits 2 n
  else if n < 0x80 ∨ isPrintable c then String.singleton c
  else if n < 0x100 then "\\x" ++ hexDigits 2 n
  else if n < 0x10000 then "\\u" ++ hexDigits 4 n
  else "\\U" ++ hexDigits 8 n

/-- The quoted form of `s`. -/
def quote (s : String) : String :=
  let q := quoteFor s
  String.singleton q ++ String.join (s.toList.map (escapeChar q)) ++ String.singleton q

end ExprTree.Text
