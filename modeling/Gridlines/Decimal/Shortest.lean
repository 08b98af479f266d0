import Gridlines.Decimal.Basic

/-!
# Shortest decimals

The text of a binary64 number is the decimal with the fewest digits whose nearest number it is,
and among those the decimal nearest to it.  The decimals with one unit `10 ^ e` form a grid; the
grids are tried from coarse to fine, and on each only the two neighbours of the number can be the
nearest decimal that reads back.

* `Finite.shortest` : the decimal; `Finite.exact`, the number itself as a decimal, ends the search
  in any case.
-/

namespace Gridlines

/-- Which of two equally near decimals is taken. -/
inductive Tie where
  /-- The one whose last digit is even. -/
  | even
  /-- The one farther from zero. -/
  | away
  deriving DecidableEq

namespace Finite

/-- Whether the decimal's nearest magnitude is that of the number. -/
def readsBack (x : Finite) (d : Decimal) : Bool := d.nearestRank == x.rank

/-- The magnitude over `10 ^ e`, as a numerator and a denominator. -/
def quotient (x : Finite) (e : Int) : Nat × Nat :=
  if 0 ≤ e then (x.units, Nat.pow 10 e.toNat <<< 1074)
  else (x.units * Nat.pow 10 (-e).toNat, 1 <<< 1074)

/-- The nearest decimal with unit `10 ^ e` that reads back, if there is one. -/
def onGrid? (tie : Tie) (x : Finite) (e : Int) : Option Decimal :=
  let (num, den) := x.quotient e
  let below : Decimal := ⟨num / den, e⟩
  let above : Decimal := ⟨num / den + 1, e⟩
  match x.readsBack below, x.readsBack above with
  | false, false => none
  | true, false => some below
  | false, true => some above
  | true, true =>
    let r := num % den
    if 2 * r < den then some below
    else if den < 2 * r then some above
    else match tie with
      | .away => some above
      | .even => some (if below.digits % 2 = 0 then below else above)

/-- The magnitude itself as a decimal. -/
def exact (x : Finite) : Decimal :=
  if 1074 ≤ x.scale then ⟨x.significand <<< (x.scale - 1074), 0⟩
  else ⟨x.significand * Nat.pow 5 (1074 - x.scale), (x.scale : Int) - 1074⟩

/-- A unit above the magnitude: `log10 2` is a little less than `0.30103`. -/
def coarsest (x : Finite) : Int := ((Nat.log2 x.units : Int) - 1073) * 30103 / 100000 + 1

/-- The decimal with the fewest digits that reads back as the magnitude, and the nearest of
those. -/
def shortest (tie : Tie) (x : Finite) : Decimal :=
  -- seventeen digits always read back, and the coarsest unit is a digit or two above the first
  go 24 x.coarsest
where
  go : Nat → Int → Decimal
    | 0, _ => x.exact
    | n + 1, e => (x.onGrid? tie e).getD (go n (e - 1))

end Finite

end Gridlines
