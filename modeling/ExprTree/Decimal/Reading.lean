import ExprTree.Text.Blank
/-!
  Reading numbers as floats. `Decimal.read?` accepts numeric text: blanks around it, digits of any
  script, an optional sign, then `inf`, `infinity` or `nan` in any case, or a decimal with optional
  point and exponent, where single underscores may stand between two digits. The decimal is
  rounded to the nearest float by `Float.ofScientific`. `Decimal.ofInt?` rounds a whole number to
  the nearest float, ties to even, and refuses one whose rounding overflows.
-/

namespace ExprTree.Decimal

open ExprTree.Text

/-- The ASCII form of a character of numeric text: a blank becomes a space, a digit of any script
its ASCII digit, and any other non-ASCII character a `?`, which no number contains. -/
def asciiForm (c : Char) : Char :=
  if c.toNat < 0x80 then c
  else if isBlank c then ' '
  else match decimalDigit? c with
    | some d => Char.ofNat (0x30 + d)
    | none => '?'

/-- The blanks that may surround numeric text once it is in ASCII form. -/
def isAsciiBlank (c : Char) : Bool :=
  c = ' ' ∨ c = '\t' ∨ c = '\n' ∨ c = '\r' ∨ c.toNat = 0x0b ∨ c.toNat = 0x0c

/-- Drops the underscores of numeric text, each of which must stand between two digits. -/
def dropSeparators : List Char → Option (List Char)
  | [] => some []
  | [c] => if c = '_' then none else some [c]
  | a :: b :: rest =>
    if b = '_' then
      match rest with
      | c :: rest' =>
        if a.isDigit ∧ c.isDigit then (dropSeparators (c :: rest')).map (a :: ·) else none
      | [] => none
    else if a = '_' then none
    else (dropSeparators (b :: rest)).map (a :: ·)

/-- Splits off the leading ASCII digits. -/
def spanDigits (cs : List Char) : List Char × List Char :=
  (cs.takeWhile Char.isDigit, cs.dropWhile Char.isDigit)

/-- The natural number written by ASCII digits. -/
def digitsValue (ds : List Char) : Nat :=
  ds.foldl (fun n c => 10 * n + (c.toNat - 0x30)) 0

/-- The float nearest to `m · 10 ^ e`, with magnitudes far outside the float range sent to
infinity or zero directly. -/
def scaled (m : Nat) (e : Int) : Float :=
  let len : Int := (Nat.toDigits 10 m).length
  if m = 0 then 0
  else if len + e > 311 then Float.ofScientific 1 false 400
  else if len + e < -330 then 0
  else if e < 0 then Float.ofScientific m true e.natAbs
  else Float.ofScientific m false e.natAbs

/-- Reads an unsigned decimal: digits, an optional point with digits, an optional exponent. At
least one digit stands before or after the point. -/
def readUnsigned? (cs : List Char) : Option Float :=
  let (whole, rest) := spanDigits cs
  let (frac, rest) := match rest with
    | '.' :: r => spanDigits r
    | r => ([], r)
  if whole.isEmpty ∧ frac.isEmpty then none
  else
    let expo : Option Int := match rest with
      | [] => some 0
      | c :: r =>
        if c = 'e' ∨ c = 'E' then
          let (neg, ds) := match r with
            | '-' :: ds => (true, ds)
            | '+' :: ds => (false, ds)
            | ds => (false, ds)
          if !ds.isEmpty ∧ ds.all Char.isDigit then
            some (if neg then -(digitsValue ds : Int) else digitsValue ds)
          else none
        else none
    expo.map fun x => scaled (digitsValue (whole ++ frac)) (x - frac.length)

/-- Reads a signed number in ASCII form without surrounding blanks. -/
def readSigned? (cs : List Char) : Option Float :=
  let (neg, body) := match cs with
    | '-' :: r => (true, r)
    | '+' :: r => (false, r)
    | r => (false, r)
  let word := String.ofList (body.map Char.toLower)
  let magnitude :=
    if word = "inf" ∨ word = "infinity" then some (Float.ofScientific 1 false 400)
    else if word = "nan" then some (0.0 / 0.0)
    else readUnsigned? body
  magnitude.map fun x => if neg then -x else x

/-- Reads numeric text as a float, or `none` if the text is not a number. -/
def read? (s : String) : Option Float :=
  let cs := (s.toList.map asciiForm).dropWhile isAsciiBlank
  let cs := (cs.reverse.dropWhile isAsciiBlank).reverse
  (dropSeparators cs).bind readSigned?

/-- The float nearest to the whole number `n`, ties to even, or `none` when that rounding
overflows the float range. -/
def ofInt? (n : Int) : Option Float :=
  let x := Float.ofScientific n.natAbs false 0
  if x.isInf then none else some (if n < 0 then -x else x)

end ExprTree.Decimal
