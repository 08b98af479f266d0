import Gridlines.Decimal.Style
import Gridlines.Json.Basic

/-!
# JSON text

Two layouts of a value: `Json.compact` writes it without blanks, `Json.pretty` on many lines with
two blanks for each level.  Strings escape quotes, backslashes and controls and nothing else.
Numbers are shortest decimals, positional from `0.00001` up to `10 ^ 16`.
-/

namespace Gridlines

namespace Json

/-- Numbers in JSON text: `0.00001`, `1e-6`, `5.0`, `1e+16`. -/
def numberStyle : Style := ⟨fun p => -5 ≤ p ∧ p < 16, true, true, .even⟩

/-- The text of an integer. -/
def integerText (n : Int) : List Char :=
  if n < 0 then '-' :: Nat.toDigits 10 n.natAbs else Nat.toDigits 10 n.natAbs

/-- The text of a number. -/
def Number.text : Number → List Char
  | .int n => integerText n
  | .float x => numberStyle.chars x

/-- The digit of a number below sixteen. -/
def hexDigit (n : Nat) : Char := Nat.digitChar n

/-- A character inside a JSON string. -/
def escapeChar (c : Char) : List Char :=
  if c = '"' then ['\\', '"']
  else if c = '\\' then ['\\', '\\']
  else if c = '\x08' then ['\\', 'b']
  else if c = '\x0c' then ['\\', 'f']
  else if c = '\n' then ['\\', 'n']
  else if c = '\r' then ['\\', 'r']
  else if c = '\t' then ['\\', 't']
  else if c.toNat < 32 then ['\\', 'u', '0', '0', hexDigit (c.toNat / 16), hexDigit (c.toNat % 16)]
  else [c]

/-- The text of a JSON string. -/
def stringText (s : String) : List Char := '"' :: (s.toList.flatMap escapeChar ++ ['"'])

/-- The text of a value that is neither an array nor an object. -/
def boolText (b : Bool) : List Char := if b then "true".toList else "false".toList

/-! ### Without blanks -/

mutual

/-- The characters of a value, without blanks. -/
def compactChars : Json → List Char
  | null => "null".toList
  | bool b => boolText b
  | number n => n.text
  | string s => stringText s
  | array xs => '[' :: compactItems xs
  | object ms => '\x7b' :: compactMembers ms

/-- The items of an array after the opening bracket. -/
def compactItems : List Json → List Char
  | [] => [']']
  | [x] => x.compactChars ++ [']']
  | x :: y :: xs => x.compactChars ++ ',' :: compactItems (y :: xs)

/-- The members of an object after the opening brace. -/
def compactMembers : List (String × Json) → List Char
  | [] => ['\x7d']
  | [(k, x)] => stringText k ++ ':' :: (x.compactChars ++ ['\x7d'])
  | (k, x) :: m :: ms => stringText k ++ ':' :: (x.compactChars ++ ',' :: compactMembers (m :: ms))

end

/-- The text of a value, without blanks. -/
def compact (x : Json) : String := .ofList x.compactChars

/-! ### On many lines -/

/-- A new line at a level. -/
def newLine (level : Nat) : List Char := '\n' :: List.replicate (2 * level) ' '

mutual

/-- The characters of a value that stands at a level. -/
def prettyChars (level : Nat) : Json → List Char
  | null => "null".toList
  | bool b => boolText b
  | number n => n.text
  | string s => stringText s
  | array [] => ['[', ']']
  | array (x :: xs) => '[' :: prettyItems level (x :: xs)
  | object [] => ['\x7b', '\x7d']
  | object (m :: ms) => '\x7b' :: prettyMembers level (m :: ms)

/-- The items of an array at a level, each on its own line, and the closing bracket. -/
def prettyItems (level : Nat) : List Json → List Char
  | [] => newLine level ++ [']']
  | [x] => newLine (level + 1) ++ prettyChars (level + 1) x ++ newLine level ++ [']']
  | x :: y :: xs =>
    newLine (level + 1) ++ prettyChars (level + 1) x ++ ',' :: prettyItems level (y :: xs)

/-- The members of an object at a level, each on its own line, and the closing brace. -/
def prettyMembers (level : Nat) : List (String × Json) → List Char
  | [] => newLine level ++ ['\x7d']
  | [(k, x)] =>
    newLine (level + 1) ++ stringText k ++ ':' :: ' ' :: (prettyChars (level + 1) x ++
      newLine level ++ ['\x7d'])
  | (k, x) :: m :: ms =>
    newLine (level + 1) ++ stringText k ++ ':' :: ' ' :: (prettyChars (level + 1) x ++
      ',' :: prettyMembers level (m :: ms))

end

/-- The text of a value on many lines. -/
def pretty (x : Json) : String := .ofList (x.prettyChars 0)

end Json

end Gridlines
