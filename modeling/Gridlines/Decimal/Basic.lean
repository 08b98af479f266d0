import Gridlines.Binary64.Round

/-!
# Decimals and the numbers nearest to them

A decimal is a whole number of units of a power of ten.  A text cell spells one in a plain grammar:
an optional sign, digits with at most one point and at least one digit, and an optional exponent
with at least one digit.  Spelled-out infinities and other words are not numbers there.

* `Decimal.toBinary64` : the binary64 number nearest to a decimal; the two bounds that it tests
  first only keep the powers small.
* `readDecimal?` : the number nearest to the decimal of a text, an infinity if it is too large.
-/

namespace Gridlines

/-- The decimal `digits * 10 ^ exponent`. -/
structure Decimal where
  /-- The digits, read as one whole number. -/
  digits : Nat
  /-- The power of ten that the last digit counts. -/
  exponent : Int
  deriving DecidableEq

namespace Decimal

/-- The rank of the magnitude nearest to the decimal, if magnitudes went on without end. -/
def nearestRank (d : Decimal) : Nat :=
  if 0 ≤ d.exponent then Gridlines.nearestRank (d.digits * Nat.pow 10 d.exponent.toNat) 1
  else Gridlines.nearestRank d.digits (Nat.pow 10 (-d.exponent).toNat)

/-- The number nearest to the decimal.  From `10 ^ 309` on that is an infinity, and since
`digits < 2 ^ (log2 digits + 1)` it is zero for every exponent far enough below. -/
def toBinary64 (negative : Bool) (d : Decimal) : Binary64 :=
  if d.digits = 0 then .ofRank negative 0
  else if 309 ≤ d.exponent then .infinite negative
  else if (Nat.log2 d.digits : Int) + 1077 ≤ 3 * -d.exponent then .ofRank negative 0
  else .ofRank negative d.nearestRank

end Decimal

/-! ### Reading -/

/-- The value of a run of decimal digits. -/
def digitsValue (ds : List Char) : Nat := ds.foldl (fun n c => 10 * n + (c.toNat - '0'.toNat)) 0

/-- Splits off a leading sign: whether it is a minus, and what follows. -/
def splitSign : List Char → Bool × List Char
  | '-' :: cs => (true, cs)
  | '+' :: cs => (false, cs)
  | cs => (false, cs)

/-- Reads the exponent that ends a number: nothing, or `e`, an optional sign and digits. -/
def readExponent? : List Char → Option Int
  | [] => some 0
  | c :: cs =>
    if c = 'e' ∨ c = 'E' then
      let (negative, ds) := splitSign cs
      if ds.isEmpty ∨ !ds.all Char.isDigit then none
      else some (if negative then -(digitsValue ds : Int) else digitsValue ds)
    else none

/-- Reads a whole text as a decimal number and rounds it. -/
def readDecimal? (cs : List Char) : Option Binary64 :=
  let (negative, cs) := splitSign cs
  let whole := cs.takeWhile Char.isDigit
  let rest := cs.dropWhile Char.isDigit
  let (places, rest) := match rest with
    | '.' :: rest => (rest.takeWhile Char.isDigit, rest.dropWhile Char.isDigit)
    | rest => ([], rest)
  if whole.isEmpty ∧ places.isEmpty then none
  else (readExponent? rest).map fun e =>
    Decimal.toBinary64 negative ⟨digitsValue (whole ++ places), e - places.length⟩

end Gridlines
