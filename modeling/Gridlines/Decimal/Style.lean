import Gridlines.Decimal.Shortest

/-!
# Writing numbers

A `Style` fixes everything about the text of a number that its value leaves open: which decimal
exponents are written without an exponent, whether whole numbers keep a `.0`, whether a positive
exponent has a sign, and which of two equally near decimals is taken.  `Style.write` is the text
of a finite number, with the digits of `Finite.shortest`; `Style.writeAny` that of any number.

Integers that are read by people have a comma before every three digits from the end:
`groupThousands`.
-/

namespace Gridlines

/-- The open choices in the text of a number. -/
structure Style where
  /-- Whether a number whose first digit counts this power of ten is written positionally. -/
  positional : Int → Bool
  /-- Whether whole numbers written positionally end in `.0`. -/
  pointZero : Bool
  /-- Whether a positive exponent has a plus sign. -/
  plus : Bool
  /-- Which of two equally near shortest decimals is written. -/
  tie : Tie

namespace Style

/-- `n` zeros. -/
def zeros (n : Nat) : List Char := List.replicate n '0'

/-- Digits with the point after the last `-e`, or followed by `e` zeros. -/
def writePositional (pointZero : Bool) (ds : List Char) (e : Int) : List Char :=
  if 0 ≤ e then ds ++ zeros e.toNat ++ (if pointZero then ['.', '0'] else [])
  else
    let places := (-e).toNat
    if places < ds.length then
      ds.take (ds.length - places) ++ '.' :: ds.drop (ds.length - places)
    else '0' :: '.' :: (zeros (places - ds.length) ++ ds)

/-- One digit, the others after a point, and the exponent of the first digit. -/
def writeExponent (plus : Bool) (ds : List Char) (p : Int) : List Char :=
  ds.take 1 ++ (if 1 < ds.length then '.' :: ds.drop 1 else []) ++ 'e' ::
    (if p < 0 then ['-'] else if plus then ['+'] else []) ++ Nat.toDigits 10 p.natAbs

/-- The text of a magnitude. -/
def writeMagnitude (style : Style) (x : Finite) : List Char :=
  if x.isZero then writePositional style.pointZero ['0'] 0
  else
    let d := x.shortest style.tie
    let ds := Nat.toDigits 10 d.digits
    let p := d.exponent + ds.length - 1
    if style.positional p then writePositional style.pointZero ds d.exponent
    else writeExponent style.plus ds p

/-- The characters of a finite number; minus zero keeps its sign. -/
def chars (style : Style) (x : Finite) : List Char :=
  (if x.negative then ['-'] else []) ++ style.writeMagnitude x

/-- The text of a finite number. -/
def write (style : Style) (x : Finite) : String := .ofList (style.chars x)

/-- The text of any number. -/
def writeAny (style : Style) : Binary64 → String
  | .finite x => style.write x
  | .infinite negative => if negative then "-inf" else "inf"
  | .nan => "NaN"

end Style

/-! ### Integers with separators -/

/-- Puts a comma before every three digits from the end. -/
def separate : List Char → List Char
  | [] => []
  | c :: cs => if cs.length % 3 = 0 ∧ cs ≠ [] then c :: ',' :: separate cs else c :: separate cs

/-- The text of an integer with commas. -/
def groupThousands (n : Int) : String :=
  let digits := separate (Nat.toDigits 10 n.natAbs)
  .ofList (if n < 0 then '-' :: digits else digits)

end Gridlines
