/-!
# Sets of characters and occurrences

A set of characters is given by the ranges of code points that it is made of; the blank ones are
those that text cells and settings may have at their ends.  A text occurs in another if its
characters stand there in order without a gap, which is decided by trying each place.

* `CodeRanges.holds` : whether a character is in a set.
* `trimBlank` : a text without the white space at its ends.
* `occursIn_iff` : `occursIn` decides `needle <:+: text`.
-/

namespace Gridlines

/-! ### Sets of characters -/

/-- A set of code points: ranges with both ends included. -/
abbrev CodeRanges := List (Nat × Nat)

/-- Whether the character's code point lies in one of the ranges. -/
def CodeRanges.holds (ranges : CodeRanges) (c : Char) : Bool :=
  ranges.any fun r => r.1 ≤ c.toNat && c.toNat ≤ r.2

/-! ### Blank characters -/

/-- The code points of white space. -/
def blankRanges : CodeRanges :=
  [(0x09, 0x0D), (0x20, 0x20), (0x85, 0x85), (0xA0, 0xA0), (0x1680, 0x1680), (0x2000, 0x200A),
   (0x2028, 0x2029), (0x202F, 0x202F), (0x205F, 0x205F), (0x3000, 0x3000)]

/-- Whether the character is white space. -/
def isBlank (c : Char) : Bool := blankRanges.holds c

/-- The text without white space at its ends. -/
def trimBlank (cs : List Char) : List Char :=
  ((cs.dropWhile isBlank).reverse.dropWhile isBlank).reverse

/-! ### Occurrences -/

/-- Whether `needle` stands somewhere in the text without a gap. -/
def occursIn (needle : List Char) : List Char → Bool
  | [] => needle.isEmpty
  | c :: cs => needle.isPrefixOf (c :: cs) || occursIn needle cs

theorem occursIn_iff {needle text : List Char} :
    occursIn needle text = true ↔ needle <:+: text := by
  induction text with
  | nil => simp [occursIn]
  | cons c cs ih => simp [occursIn, List.infix_cons_iff, ih]

end Gridlines
