import ExprTree.Tensor.Basic
import ExprTree.Decimal.Notation
/-!
  The display of a tensor of floats as an array: `array([1.5, 2. ])`, `array([1.e-05, 1.e+00])`.

  All elements share one layout, chosen from the finite ones. When the largest nonzero magnitude
  is at least `10^8`, the smallest is below `10^-4`, or the two are more than a factor of a
  thousand apart, every element is written in exponent form, with as many digits after the point
  as the longest needs (zeros fill the others) and exponents of one width, at least two digits.
  Otherwise every element is written positionally: its whole part is right-aligned and its
  fraction left-aligned, blanks filling both to the widest. An element's digits are its shortest
  decimal when that needs at most eight places after the point (after the first digit, in
  exponent form); otherwise the value is rounded there, a tie to the even digit. A whole number
  ends in a bare point (`3.`). NaN and the infinities are right-aligned in the element width.

  Elements are joined by `, `, and every axis adds brackets. A row breaks before an element that
  would pass the line width, which is one less for every bracket still open; inner rows follow
  each other after a line break, with one blank line more per axis between larger blocks. Lines
  after the first are indented under the first element. A tensor with no elements shows its
  shape unless it is a single empty row, and always its element type.
-/

-- The core instances for powers, products and sums of numbers, also where Mathlib's are
-- in scope, so that the definitions below are the same terms in every build.
attribute [local instance (high)] instPowNat One.ofOfNat1

namespace ExprTree

namespace Decimal

/-- The value of `x` divided by `10 ^ s`, rounded to a whole number, a tie to the even one. -/
def Binary.roundedAt (x : Binary) (s : Int) : Nat :=
  let num := x.mantissa * 2 ^ x.exponent.toNat * 10 ^ (-s).toNat
  let den := 2 ^ (-x.exponent).toNat * 10 ^ s.toNat
  let q := num / den
  let r := num % den
  if 2 * r > den ∨ (2 * r = den ∧ q % 2 = 1) then q + 1 else q

/-- The digits of a nonzero finite magnitude with at most `places` digits after the point, or
with `fixed` off after the first digit: the shortest decimal when it fits, otherwise the value
rounded at that place, a tie to the even digit. -/
def Binary.digitsWithin (x : Binary) (fixed : Bool) (places : Nat) : Digits :=
  let d := x.shortest
  let cut : Int := if fixed then -(places : Int) else x.decimalExponent - places
  if d.exponent ≥ cut then d else (Digits.mk (x.roundedAt cut) cut).trim

end Decimal

namespace Tensor

/-- The fixed choices of the array display: places after the point, the magnitudes and spread
that call for exponent form, and the line width. -/
structure Display where
  /-- The most digits after the point (after the first digit in exponent form). -/
  places : Nat
  /-- The magnitude from which on the elements are written in exponent form. -/
  large : Float
  /-- The magnitude below which the elements are written in exponent form. -/
  small : Float
  /-- The spread of magnitudes above which the elements are written in exponent form. -/
  spread : Float
  /-- The width of a line, closing parenthesis included. -/
  lineWidth : Nat
  /-- The most elements shown in full; a larger tensor is summarized. -/
  threshold : Nat
  /-- The positions shown at each end of a summarized axis. -/
  edgeItems : Nat

/-- Eight places, exponent form from `10^8`, below `10^-4` or for a spread above a thousand,
lines of 75 characters, and a summary of three positions at each end of every long axis for more
than a thousand elements. -/
def Display.standard : Display where
  places := 8
  large := 1.0e8
  small := 1.0e-4
  spread := 1000.0
  lineWidth := 75
  threshold := 1000
  edgeItems := 3

/-- A finite element taken apart for alignment: its sign, the digits before the point, the
digits after it, and in exponent form its decimal exponent. -/
structure Cell where
  neg : Bool
  whole : String
  frac : String
  exp : Int

/-- The parts of a finite element written positionally with the digits `d`. -/
def Cell.positional (neg : Bool) (d : Decimal.Digits) : Cell :=
  let ds := Decimal.digitChars d.mantissa
  if d.exponent ≥ 0 then ⟨neg, String.ofList (ds ++ List.replicate d.exponent.toNat '0'), "", 0⟩
  else
    let k := d.exponent.natAbs
    if ds.length > k then
      ⟨neg, String.ofList (ds.take (ds.length - k)), String.ofList (ds.drop (ds.length - k)), 0⟩
    else ⟨neg, "0", String.ofList (List.replicate (k - ds.length) '0' ++ ds), 0⟩

/-- The parts of a finite element written in exponent form with the digits `d`. -/
def Cell.scientific (neg : Bool) (d : Decimal.Digits) : Cell :=
  let ds := Decimal.digitChars d.mantissa
  ⟨neg, String.ofList (ds.take 1), String.ofList (ds.drop 1), d.exponent + ds.length - 1⟩

/-- The parts of a finite element, positionally or in exponent form. -/
def Cell.ofFloat (f : Display) (scientific : Bool) (x : Float) : Cell :=
  let neg := Decimal.signBit x
  let d : Decimal.Digits :=
    if x == 0 then ⟨0, 0⟩ else (Decimal.Binary.ofFloat x).digitsWithin (!scientific) f.places
  if scientific then Cell.scientific neg d else Cell.positional neg d

/-- The width of the whole part with its sign. -/
def Cell.wholeWidth (c : Cell) : Nat := c.whole.length + (if c.neg then 1 else 0)

/-- The number of exponent digits, at least two. -/
def Cell.expWidth (c : Cell) : Nat := max 2 (Decimal.digitChars c.exp.natAbs).length

/-- The shared layout of a tensor's elements: exponent form or not, the widths of the whole
part and of the fraction, the exponent width, and the width of NaN and the infinities. -/
structure Layout where
  scientific : Bool
  wholeWidth : Nat
  fracWidth : Nat
  expWidth : Nat
  width : Nat

/-- Whether the finite elements call for exponent form. -/
def Display.wantsScientific (f : Display) (finite : List Float) : Bool :=
  let mags := (finite.filter (· != 0)).map Float.abs
  match mags with
  | [] => false
  | m :: ms =>
    let hi := ms.foldl max m
    let lo := ms.foldl min m
    hi ≥ f.large || lo < f.small || hi / lo > f.spread

/-- The shared layout of the elements `xs`. -/
def Display.layout (f : Display) (xs : List Float) : Layout :=
  let finite := xs.filter fun x => !x.isNaN && !x.isInf
  let sci := f.wantsScientific finite
  let cells := finite.map (Cell.ofFloat f sci)
  let wholeWidth := cells.foldl (fun w c => max w c.wholeWidth) 0
  let fracWidth := cells.foldl (fun w c => max w c.frac.length) 0
  let expWidth := cells.foldl (fun w c => max w c.expWidth) 0
  -- the part after the whole part: point, fraction and, in exponent form, `e`, sign and digits
  let right := if sci ∧ !cells.isEmpty then fracWidth + expWidth + 3 else fracWidth + 1
  let wholeWidth :=
    if finite.length = xs.length then wholeWidth
    else
      let negInf := xs.any fun x => x.isInf && x < 0
      max wholeWidth (max (3 - right) ((if negInf then 4 else 3) - right))
  ⟨sci, wholeWidth, fracWidth, expWidth, wholeWidth + right⟩

/-- Pads a text on the left with blanks to a width. -/
def padLeft (w : Nat) (s : String) : String :=
  String.ofList (List.replicate (w - s.length) ' ') ++ s

/-- Pads a text on the right with a character to a width. -/
def padRight (w : Nat) (c : Char) (s : String) : String :=
  s ++ String.ofList (List.replicate (w - s.length) c)

/-- One element written in a layout. -/
def Display.element (f : Display) (l : Layout) (x : Float) : String :=
  if x.isNaN then padLeft l.width "nan"
  else if x.isInf then padLeft l.width (if x < 0 then "-inf" else "inf")
  else
    let c := Cell.ofFloat f l.scientific x
    let whole := padLeft l.wholeWidth ((if c.neg then "-" else "") ++ c.whole)
    if l.scientific then
      let ds := Decimal.digitChars c.exp.natAbs
      let exp := String.ofList (List.replicate (l.expWidth - ds.length) '0' ++ ds)
      whole ++ "." ++ padRight l.fracWidth '0' c.frac ++ "e" ++ (if c.exp < 0 then "-" else "+") ++
        exp
    else whole ++ "." ++ padRight l.fracWidth ' ' c.frac

/-- Appends `word` to the current line of a row, first breaking the line when the word would
pass `width` and the line holds more than its indent. Returns the finished lines and the line. -/
def extendLine (done line word : String) (width indent : Nat) : String × String :=
  if line.length + word.length > width ∧ line.length > indent then
    (done ++ line.trimAsciiEnd.toString ++ "\n", padLeft indent "" ++ word)
  else (done, line ++ word)

/-- The lines of one row: its words joined by `sep`, broken before a word that would pass
`width`, each line after the first indented by `indent` blanks. -/
def rowLines (sep : String) (words : List String) (width indent : Nat) : String :=
  let rec go : List String → String → String → String
    | [], done, line => done ++ line
    | [w], done, line =>
      let (done, line) := extendLine done line w width indent
      done ++ line
    | w :: ws, done, line =>
      let (done, line) := extendLine done line w width indent
      go ws done (line ++ sep)
  go words "" (padLeft indent "")

/-- The positions shown along an axis of length `d`: the first `edge` and the last `edge` ones,
with a mark between them, when `summarize` holds and the axis is longer than both together;
otherwise all of them. -/
def shownAlong (summarize : Bool) (edge d : Nat) : List Nat × List Nat × Bool :=
  if summarize ∧ 2 * edge < d then (List.range edge, (List.range edge).map (d - edge + ·), true)
  else (List.range d, [], false)

/-- The multi-indices shown of a shape, in row-major order. -/
def shownIndices (summarize : Bool) (edge : Nat) : List Nat → List (List Nat)
  | [] => [[]]
  | d :: ds =>
    let (lead, trail, _) := shownAlong summarize edge d
    (lead ++ trail).flatMap fun i => (shownIndices summarize edge ds).map (i :: ·)

/-- The bracketed body of a tensor of the given shape, whose element at a multi-index is written
`word ix`; elements of a row are joined by `sep`, and rows follow each other after `sep` without
its trailing blanks and a line break per axis below. `ix` holds the positions already chosen,
last first, `indent` is the column of the first element and `width` the room on a line. With
`summarize`, an axis longer than `2 · edge` shows only its first and last `edge` positions, with
`...` between them. -/
def body (sep : String) (summarize : Bool) (edge : Nat) (word : List Nat → String) :
    List Nat → List Nat → Nat → Nat → String
  | [], ix, _, _ => word ix.reverse
  | [d], ix, indent, width =>
    let (lead, trail, cut) := shownAlong summarize edge d
    let wordAt := fun i => word (i :: ix).reverse
    let words := lead.map wordAt ++ (if cut then ["..."] else []) ++ trail.map wordAt
    "[" ++ ((rowLines sep words (width - 1) indent).drop indent).toString ++ "]"
  | d :: ds, ix, indent, width =>
    let (lead, trail, cut) := shownAlong summarize edge d
    let block := fun i => body sep summarize edge word ds (i :: ix) (indent + 1) (width - 1)
    let blocks := lead.map block ++ (if cut then ["..."] else []) ++ trail.map block
    let lineSep := sep.trimAsciiEnd.toString ++ String.ofList (List.replicate ds.length '\n') ++
      padLeft indent ""
    "[" ++ lineSep.intercalate blocks ++ "]"

/-- A shape written as a tuple: `(2,)`, `(2, 3)`. -/
def shapeText : List Nat → String
  | [d] => "(" ++ toString d ++ ",)"
  | ds => "(" ++ ", ".intercalate (ds.map toString) ++ ")"

/-- Whether a tensor has more elements than are shown in full. -/
def Display.summarizes (f : Display) (t : Tensor) : Bool := t.shape.prod > f.threshold

/-- The layout of the elements of a tensor that are shown. -/
def Display.layoutOf (f : Display) (t : Tensor) : Layout :=
  f.layout ((shownIndices (f.summarizes t) f.edgeItems t.shape).map t.get)

/-- The display of a tensor. A summarized tensor adds its shape, on the same line when it fits
there. -/
def Display.render (f : Display) (t : Tensor) : String :=
  if t.shape.prod = 0 then
    if t.shape = [0] then "array([], dtype=float64)"
    else "array([], shape=" ++ shapeText t.shape ++ ", dtype=float64)"
  else
    let l := f.layoutOf t
    let sum := f.summarizes t
    let text := body ", " sum f.edgeItems (fun ix => f.element l (t.get ix)) t.shape [] 7
      (f.lineWidth - 1)
    if sum then
      let head := "array(" ++ text ++ ","
      let extra := "shape=" ++ shapeText t.shape ++ ")"
      let lastLine := ((head.splitOn "\n").getLast?.getD "").length
      let spacer := if lastLine + extra.length + 1 > f.lineWidth then "\n      " else " "
      head ++ spacer ++ extra
    else "array(" ++ text ++ ")"

/-- The plain display of a tensor: elements joined by blanks inside brackets, without the
`array(...)` around them; a tensor without axes is its element alone. -/
def Display.plain (f : Display) (t : Tensor) : String :=
  match t.shape, t.toList with
  | [], [x] => Decimal.text x
  | _, _ =>
    if t.shape.prod = 0 then "[]"
    else
      let l := f.layoutOf t
      body " " (f.summarizes t) f.edgeItems (fun ix => f.element l (t.get ix)) t.shape [] 1
        f.lineWidth

/-- The display of a tensor in the standard layout. -/
def text (t : Tensor) : String := Display.standard.render t

/-- The plain display of a tensor in the standard layout. -/
def plainText (t : Tensor) : String := Display.standard.plain t

end Tensor

end ExprTree
