import Gridlines.Binary64.Round

/-!
# Arithmetic of binary64 numbers

Each operation rounds the exact result once.  A sum that is exactly zero is a plus zero unless
both terms are minus; a product or quotient has the product of the signs.

* `Binary64.add`, `Binary64.sum` : addition, and addition along a list from minus zero, the
  neutral element.
* `Finite.mul`, `Finite.div` : product and quotient, used to scale decimals.
* `Binary64.toInt64` : the nearest integer, held to the range of 64-bit integers.
-/

namespace Gridlines

namespace Finite

/-- The sum, rounded. -/
def add (x y : Finite) : Binary64 :=
  let s := x.signedUnits + y.signedUnits
  if s = 0 then .finite { zero with negative := x.negative && y.negative }
  else .ofRatio (s < 0) s.natAbs (1 <<< 1074)

/-- The product, rounded. -/
def mul (x y : Finite) : Binary64 :=
  .ofRatio (x.negative != y.negative) (x.units * y.units) (1 <<< 2148)

/-- The quotient, rounded; the divisor is not zero where this is used. -/
def div (x y : Finite) : Binary64 :=
  .ofRatio (x.negative != y.negative) x.units y.units

end Finite

namespace Binary64

/-- The sum, rounded; infinities of opposite signs have none. -/
def add : Binary64 → Binary64 → Binary64
  | finite x, finite y => x.add y
  | infinite s, infinite t => if s = t then infinite s else nan
  | infinite s, finite _ => infinite s
  | finite _, infinite t => infinite t
  | _, _ => nan

/-- Zero with a minus sign, which changes nothing it is added to. -/
def minusZero : Binary64 := finite Finite.zero.neg

/-- The sum of a list, added up from the left. -/
def sum (xs : List Binary64) : Binary64 := xs.foldl add minusZero

/-- The least 64-bit integer. -/
def minInt64 : Int := -9223372036854775808

/-- The greatest 64-bit integer. -/
def maxInt64 : Int := 9223372036854775807

/-- The nearest integer, ties to even, or the nearest end of the 64-bit range; zero for `nan`. -/
def toInt64 : Binary64 → Int
  | finite x => max minInt64 (min maxInt64 x.roundInt)
  | infinite s => if s then minInt64 else maxInt64
  | nan => 0

end Binary64

end Gridlines
