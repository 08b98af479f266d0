import Gridlines.Binary64.Basic

/-!
# Rounding to binary64

Every quotient of natural numbers has a nearest binary64 number; a quotient halfway between two
of them goes to the one with the even significand.  Beyond the largest finite number the nearest
is an infinity.

* `roundDiv` : the nearest natural number to a quotient, ties to even.
* `Binary64.ofRatio` : the nearest binary64 number to a quotient.
* `Binary64.roundInt` : the nearest integer to a finite number, ties to even.
-/

namespace Gridlines

/-- The natural number nearest to `n / d`, the even one when two are equally near. -/
def roundDiv (n d : Nat) : Nat :=
  let q := n / d
  let r := n % d
  if 2 * r < d ∨ (2 * r = d ∧ q % 2 = 0) then q else q + 1

/-- The rank of the magnitude nearest to `num / den`, if magnitudes went on without end. -/
def nearestRank (num den : Nat) : Nat :=
  let n := num <<< 1074
  let scale := Nat.log2 (n / den) - 52
  scale * Finite.binade + roundDiv n (den <<< scale)

namespace Binary64

/-- The finite number of a sign and a rank, or the infinity beyond them. -/
def ofRank (negative : Bool) (rank : Nat) : Binary64 :=
  if h : rank < Finite.magnitudes then finite ⟨negative, rank, h⟩ else infinite negative

/-- The number nearest to `num / den` with the given sign. -/
def ofRatio (negative : Bool) (num den : Nat) : Binary64 := ofRank negative (nearestRank num den)

/-- The number nearest to an integer. -/
def ofInt (n : Int) : Binary64 := ofRatio (n < 0) n.natAbs 1

end Binary64

namespace Finite

/-- The nearest integer, the even one when two are equally near. -/
def roundInt (x : Finite) : Int :=
  let n := roundDiv x.units (1 <<< 1074)
  if x.negative then -(n : Int) else n

end Finite

end Gridlines
