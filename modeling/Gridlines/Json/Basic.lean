import Gridlines.Binary64.Round

/-!
# JSON values

A number is an integer or a finite binary64 number: what is read without fraction and exponent is
kept as an integer as long as 64 bits hold it.  An object is the list of its members; an object that
is read has its members in the order of their names, each name once.

* `Json.eq` : equality of values, in which an integer never equals a float and both zeros of the
  floats are equal.
* `Json.Number.toBinary64` : the number as a binary64 number.
-/

namespace Gridlines

namespace Json

/-- A JSON number. -/
inductive Number where
  /-- An integer. -/
  | int (n : Int)
  /-- Any other number. -/
  | float (x : Finite)
  deriving DecidableEq

namespace Number

/-- Equality of numbers: floats by value, and an integer is no float. -/
def eq : Number → Number → Bool
  | int m, int n => m == n
  | float x, float y => x.eq y
  | _, _ => false

/-- The nearest binary64 number. -/
def toBinary64 : Number → Binary64
  | int n => .ofInt n
  | float x => .finite x

end Number

end Json

/-- A JSON value. -/
inductive Json where
  | null
  | bool (b : Bool)
  | number (n : Json.Number)
  | string (s : String)
  | array (items : List Json)
  | object (members : List (String × Json))

namespace Json

instance : Inhabited Json := ⟨.null⟩

/-- The value of a count. -/
def count (n : Nat) : Json := number (.int n)

/-- The number, if it is one. -/
def number? : Json → Option Number
  | number n => some n
  | _ => none

/-- The text, if it is a string. -/
def string? : Json → Option String
  | string s => some s
  | _ => none

/-- Whether the value is `null`. -/
def isNull : Json → Bool
  | null => true
  | _ => false

mutual

/-- Equality of values. -/
def eq : Json → Json → Bool
  | null, null => true
  | bool a, bool b => a == b
  | number m, number n => m.eq n
  | string s, string t => s == t
  | array xs, array ys => eqItems xs ys
  | object xs, object ys => eqMembers xs ys
  | _, _ => false

/-- Equality of items, in order. -/
def eqItems : List Json → List Json → Bool
  | [], [] => true
  | x :: xs, y :: ys => x.eq y && eqItems xs ys
  | _, _ => false

/-- Equality of members, in order. -/
def eqMembers : List (String × Json) → List (String × Json) → Bool
  | [], [] => true
  | (k, x) :: xs, (l, y) :: ys => k == l && x.eq y && eqMembers xs ys
  | _, _ => false

end

end Json

end Gridlines
