import ExprTree.Decimal.Shortest
/-!
  The layout of a float's shortest decimal: which decimal exponents are written positionally,
  the exponent mark, sign and width, whether a whole number keeps a fractional `.0`, and the
  texts of NaN and infinity. `Notation.standard` is the layout of every float this library writes.
-/

namespace ExprTree.Decimal

/-- The layout decisions for writing a float's shortest decimal. -/
structure Notation where
  /-- The smallest decimal exponent written positionally. -/
  minFixed : Int
  /-- The smallest decimal exponent, above `minFixed`, written with an exponent mark. -/
  maxFixed : Int
  /-- The mark before the exponent. -/
  mark : String
  /-- Whether a nonnegative exponent carries a plus sign. -/
  plus : Bool
  /-- The least number of exponent digits. -/
  width : Nat
  /-- Whether a positional whole number ends in `.0`. -/
  pointZero : Bool
  /-- The text of a NaN. -/
  nan : String
  /-- The text of positive infinity; negative infinity has a minus sign in front. -/
  infinity : String

/-- Floats are written positionally from `1e-4` up to but excluding `1e16`, and otherwise as
`d.ddde+XX` with at least two exponent digits and a sign; positional whole numbers end in `.0`. -/
def Notation.standard : Notation where
  minFixed := -4
  maxFixed := 16
  mark := "e"
  plus := true
  width := 2
  pointZero := true
  nan := "nan"
  infinity := "inf"

/-- The decimal digits of `n`, most significant first. -/
def digitChars (n : Nat) : List Char :=
  Nat.toDigits 10 n

/-- Writes the nonnegative decimal `d` with decimal exponent `e` (the position of its leading digit)
positionally. -/
def Notation.positional (f : Notation) (ds : List Char) (e : Int) : String :=
  let n := ds.length
  if e < 0 then
    "0." ++ String.ofList (List.replicate ((-e).toNat - 1) '0' ++ ds)
  else if e.toNat + 1 < n then
    String.ofList (ds.take (e.toNat + 1)) ++ "." ++ String.ofList (ds.drop (e.toNat + 1))
  else
    String.ofList (ds ++ List.replicate (e.toNat + 1 - n) '0') ++ (if f.pointZero then ".0" else "")

/-- Writes the digits `ds` with decimal exponent `e` in exponent form. -/
def Notation.scientific (f : Notation) (ds : List Char) (e : Int) : String :=
  let head := String.ofList (ds.take 1)
  let tail := if ds.length > 1 then "." ++ String.ofList (ds.drop 1) else ""
  let sign := if e < 0 then "-" else if f.plus then "+" else ""
  let exp := digitChars e.natAbs
  head ++ tail ++ f.mark ++ sign ++ String.ofList (List.replicate (f.width - exp.length) '0' ++ exp)

/-- Writes a float in the layout `f`. -/
def Notation.render (f : Notation) (x : Float) : String :=
  if x.isNaN then f.nan
  else
    let sign := if signBit x then "-" else ""
    if x.isInf then sign ++ f.infinity
    else if x == 0 then sign ++ f.positional ['0'] 0
    else
      let d := (Binary.ofFloat x).shortest
      let ds := digitChars d.mantissa
      let e := d.exponent + ds.length - 1
      if f.minFixed ≤ e ∧ e < f.maxFixed then sign ++ f.positional ds e
      else sign ++ f.scientific ds e

/-- The text of a float as this library writes it. -/
def text (x : Float) : String :=
  Notation.standard.render x

end ExprTree.Decimal
