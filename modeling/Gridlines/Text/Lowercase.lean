import Gridlines.Text.Cased
import Gridlines.Text.LowercaseTable

/-!
# Lowercase text

The full lowercase mapping.  A capital maps to its lowercase letter, `İ` to `i` with a dot above,
and `Σ` to the form that ends a word when a cased letter precedes it and none follows it, marks and
modifiers not counted.

* `lowerChar` : the lowercase of one character outside its context.
* `lowercase` : the lowercase of a text.
-/

namespace Gridlines

/-- The lowercase of a character outside its context: one character, or two for `İ`. -/
def lowerChar (c : Char) : List Char :=
  if c.toNat < 0x80 then [c.toLower]
  else if c = 'İ' then ['i', '\u0307']
  else match caseRuns.find? (·.holds c.toNat) with
    | some r => [Char.ofNat (r.apply c.toNat)]
    | none => [c]

/-- Whether a cased letter comes first once marks and modifiers are passed over. -/
def startsCased (cs : List Char) : Bool :=
  match cs.dropWhile isCaseIgnorable with
  | c :: _ => isCased c
  | [] => false

/-- The lowercase of a sigma: `ς` at the end of a word, otherwise `σ`. -/
def lowerSigma (before after : List Char) : Char :=
  if startsCased before && !startsCased after then 'ς' else 'σ'

/-- The lowercase of a character between what precedes it, nearest first, and what follows. -/
def lowerAt (before : List Char) (c : Char) (after : List Char) : List Char :=
  if c = 'Σ' then [lowerSigma before after] else lowerChar c

/-- The lowercase of a text that follows `before`, which is given backwards. -/
def lowerAfter (before : List Char) : List Char → List Char
  | [] => []
  | c :: cs => lowerAt before c cs ++ lowerAfter (c :: before) cs

/-- The lowercase of a text. -/
def lowercase (cs : List Char) : List Char := lowerAfter [] cs

end Gridlines
