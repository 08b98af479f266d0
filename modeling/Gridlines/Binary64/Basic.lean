/-!
# Binary64 numbers

The numbers of the 64-bit binary floating-point format, as exact values.  The finite magnitudes
are the `Finite.magnitudes` multiples of `2 ^ -1074` that the format can hold; listed upwards they
are numbered `0, 1, 2, …`, and a finite number is a sign and such a **rank**.  Ranks compare as
the magnitudes do, so equality and order need no arithmetic.

* `Finite.units` : the magnitude, counted in units of `2 ^ -1074`.
* `Binary64.eq`, `Binary64.le` : comparison of numbers, in which both zeros are equal and
  `nan` is related to nothing.
-/

namespace Gridlines

/-- How many magnitudes share one spacing; below them there are as many with the smallest
spacing. -/
def Finite.binade : Nat := 1 <<< 52

/-- The number of finite magnitudes. -/
def Finite.magnitudes : Nat := 2047 * binade

/-- A finite binary64 number: a sign, and the place of its magnitude among the finite magnitudes. -/
structure Finite where
  /-- Whether the sign is minus; zero has two signs. -/
  negative : Bool
  /-- How many finite magnitudes are smaller. -/
  rank : Nat
  rank_lt : rank < Finite.magnitudes
  deriving DecidableEq

namespace Finite

/-- Zero with a plus sign. -/
def zero : Finite := ⟨false, 0, by decide⟩

instance : Inhabited Finite := ⟨zero⟩

/-- The binary exponent of the spacing around the number, counted from the smallest spacing. -/
def scale (x : Finite) : Nat := x.rank / binade - 1

/-- The magnitude in units of its own spacing. -/
def significand (x : Finite) : Nat :=
  if x.rank < binade then x.rank else binade + x.rank % binade

/-- The magnitude in units of `2 ^ -1074`. -/
def units (x : Finite) : Nat := x.significand <<< x.scale

/-- The value in units of `2 ^ -1074`. -/
def signedUnits (x : Finite) : Int := if x.negative then -(x.units : Int) else x.units

/-- The number with the other sign. -/
def neg (x : Finite) : Finite := { x with negative := !x.negative }

/-- Whether the number is zero, of either sign. -/
def isZero (x : Finite) : Bool := x.rank == 0

/-- The rank with its sign: ordered as the values are. -/
def signedRank (x : Finite) : Int := if x.negative then -(x.rank : Int) else x.rank

/-- Equality of values: the two zeros are equal. -/
def eq (x y : Finite) : Bool := x.signedRank == y.signedRank

end Finite

/-- A binary64 number. -/
inductive Binary64 where
  /-- A finite number. -/
  | finite (x : Finite)
  /-- An infinity. -/
  | infinite (negative : Bool)
  /-- Not a number. -/
  | nan
  deriving DecidableEq

namespace Binary64

instance : Inhabited Binary64 := ⟨.nan⟩

instance : Coe Finite Binary64 := ⟨.finite⟩

/-- The finite number, if it is one. -/
def finite? : Binary64 → Option Finite
  | finite x => some x
  | _ => none

/-- Whether the number is finite. -/
def isFinite (x : Binary64) : Bool := x.finite?.isSome

/-- The number with the other sign. -/
def neg : Binary64 → Binary64
  | finite x => finite x.neg
  | infinite s => infinite !s
  | nan => nan

/-- Equality of values: the two zeros are equal, and nothing equals `nan`. -/
def eq : Binary64 → Binary64 → Bool
  | finite x, finite y => x.eq y
  | infinite s, infinite t => s == t
  | _, _ => false

/-- Order of values: `nan` is related to nothing. -/
def le : Binary64 → Binary64 → Bool
  | finite x, finite y => x.signedRank ≤ y.signedRank
  | infinite s, infinite t => s || !t
  | finite _, infinite t => !t
  | infinite s, finite _ => s
  | _, _ => false

end Binary64

end Gridlines
