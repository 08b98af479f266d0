import Gridlines.Binary64.Arithmetic
import Gridlines.Decimal.Basic
import Gridlines.Json.Fault
import Gridlines.Text.Symbol

/-!
# The words of a JSON text

Blanks, the three words, strings and numbers.  Each reader takes what is left of the text and
gives what it read with the rest, or the first fault it meets.

* `readString` : a string after its opening quote.
* `lexNumber` : the parts of a number; `NumberText.value` computes it.  A number with a fraction or
  an exponent is the first digits that 64 bits hold, scaled by a power of ten with one rounding for
  each step, so it need not be the nearest binary64 number to the decimal that is written.
-/

namespace Gridlines

namespace Json

/-- Whether the symbol is a blank between the words of a JSON text. -/
def isGap : Symbol → Bool
  | .char c => c = ' ' || c = '\t' || c = '\n' || c = '\r'
  | .stray _ => false

/-- The text after leading blanks. -/
def skipGaps (s : Content) : Content := s.dropWhile isGap

/-- Reads the given characters, the rest of a word. -/
def readWord : List Char → Content → Except Fault Content
  | [], s => .ok s
  | _ :: _, [] => .error .endInValue
  | c :: cs, x :: s => if x = .char c then readWord cs s else .error .expectedWord

/-! ### Strings -/

/-- The value of a hexadecimal digit. -/
def hexValue? : Symbol → Option Nat
  | .stray _ => none
  | .char c =>
    if '0' ≤ c ∧ c ≤ '9' then some (c.toNat - '0'.toNat)
    else if 'a' ≤ c ∧ c ≤ 'f' then some (c.toNat - 'a'.toNat + 10)
    else if 'A' ≤ c ∧ c ≤ 'F' then some (c.toNat - 'A'.toNat + 10)
    else none

/-- Reads four hexadecimal digits.  Where fewer than four bytes are left the text has ended. -/
def readHex (s : Content) : Except Fault Nat :=
  match s with
  | a :: b :: c :: d :: _ =>
    match hexValue? a, hexValue? b, hexValue? c, hexValue? d with
    | some a, some b, some c, some d => .ok (((a * 16 + b) * 16 + c) * 16 + d)
    | _, _, _, _ => .error .invalidEscape
  | _ => .error (if Symbol.totalSize s < 4 then .endInString else .invalidEscape)

/-- Reads the mark between the halves of a surrogate pair. -/
def readPairMark : List Char → Content → Except Fault Unit
  | [], _ => .ok ()
  | _ :: _, [] => .error .endInString
  | c :: cs, x :: s => if x = .char c then readPairMark cs s else .error .unpairedSurrogate

/-- Reads the digits of an escaped code point; one beyond 16 bits is a pair of surrogates.  Gives
the character and the number of symbols read. -/
def readCodePoint (s : Content) : Except Fault (Char × Nat) := do
  let n ← readHex s
  if 0xDC00 ≤ n ∧ n ≤ 0xDFFF then throw .wrongSurrogate
  else if 0xD800 ≤ n ∧ n ≤ 0xDBFF then
    readPairMark ['\\', 'u'] (s.drop 4)
    let m ← readHex (s.drop 6)
    if 0xDC00 ≤ m ∧ m ≤ 0xDFFF then
      return (.ofNat ((n - 0xD800) * 0x400 + (m - 0xDC00) + 0x10000), 10)
    else throw .wrongSurrogate
  else return (.ofNat n, 4)

/-- The character that a letter after a backslash stands for. -/
def escapeValue? : Char → Option Char
  | '"' => some '"'
  | '\\' => some '\\'
  | '/' => some '/'
  | 'b' => some '\x08'
  | 'f' => some '\x0c'
  | 'n' => some '\n'
  | 'r' => some '\r'
  | 't' => some '\t'
  | _ => none

/-- Reads an escaped character after the backslash: the character and the number of symbols
read. -/
def readEscape : Content → Except Fault (Char × Nat)
  | [] => .error .endInString
  | .stray _ :: _ => .error .invalidEscape
  | .char c :: s =>
    if c = 'u' then (readCodePoint s).map fun r => (r.1, r.2 + 1)
    else match escapeValue? c with
      | some d => .ok (d, 1)
      | none => .error .invalidEscape

/-- Reads a string after its opening quote.  Stray bytes are found out at the closing quote. -/
def readString (s : Content) : Except Fault (String × Content) := go 0 true [] s
where
  /-- Passes over the symbols of an escape that has been read, and collects the characters
  backwards, `sound` unless a byte was stray. -/
  go : Nat → Bool → List Char → Content → Except Fault (String × Content)
    | _, _, _, [] => .error .endInString
    | n + 1, sound, acc, _ :: s => go n sound acc s
    | 0, _, acc, .stray _ :: s => go 0 false acc s
    | 0, sound, acc, .char c :: s =>
      if c = '"' then
        if sound then .ok (.ofList acc.reverse, s) else .error .invalidCodePoint
      else if c = '\\' then
        match readEscape s with
        | .ok (d, n) => go n sound (d :: acc) s
        | .error f => .error f
      else if c.toNat < 32 then .error .controlCharacter
      else go 0 sound (c :: acc) s

/-! ### Numbers -/

/-- The value of a decimal digit. -/
def digit? : Symbol → Option Nat
  | .char c => if c.isDigit then some (c.toNat - '0'.toNat) else none
  | .stray _ => none

/-- Splits off the leading digits. -/
def splitDigits (s : Content) : List Nat × Content :=
  ((s.takeWhile fun x => (digit? x).isSome).filterMap digit?,
    s.dropWhile fun x => (digit? x).isSome)

/-- The parts of a number as it is written. -/
structure NumberText where
  negative : Bool
  /-- The digits before the point. -/
  whole : List Nat
  /-- The digits after the point, if there is one. -/
  places : Option (List Nat)
  /-- The sign and the digits of the exponent, if there is one. -/
  exponent : Option (Bool × List Nat)

/-- What is wrong with the text of a number: it ends too early, or it goes on wrongly. -/
inductive NumberFault where
  | ends
  | wrong

/-- Splits off digits, of which there has to be one. -/
def needDigits (s : Content) : Except NumberFault (List Nat × Content) :=
  match splitDigits s with
  | ([], []) => .error .ends
  | ([], _ :: _) => .error .wrong
  | (ds, rest) => .ok (ds, rest)

/-- Splits off the digits before the point: a zero stands alone. -/
def lexWhole (s : Content) : Except NumberFault (List Nat × Content) := do
  let (ds, rest) ← needDigits s
  match ds with
  | 0 :: _ :: _ => throw .wrong
  | ds => return (ds, rest)

/-- Splits off the point and the digits after it, if there is one. -/
def lexPlaces : Content → Except NumberFault (Option (List Nat) × Content)
  | .char '.' :: s => do
    let (ds, rest) ← needDigits s
    return (some ds, rest)
  | s => .ok (none, s)

/-- Splits off the sign of an exponent: whether it is a minus. -/
def lexSign : Content → Bool × Content
  | .char '-' :: s => (true, s)
  | .char '+' :: s => (false, s)
  | s => (false, s)

/-- Splits off the exponent, if there is one. -/
def lexExponent : Content → Except NumberFault (Option (Bool × List Nat) × Content)
  | .char c :: s =>
    if c = 'e' ∨ c = 'E' then do
      let (negative, s) := lexSign s
      let (ds, rest) ← needDigits s
      return (some (negative, ds), rest)
    else .ok (none, .char c :: s)
  | s => .ok (none, s)

/-- Splits off a number after its sign. -/
def lexNumber (negative : Bool) (s : Content) : Except NumberFault (NumberText × Content) := do
  let (whole, s) ← lexWhole s
  let (places, s) ← lexPlaces s
  let (exponent, s) ← lexExponent s
  return (⟨negative, whole, places, exponent⟩, s)

namespace NumberText

/-- Goes on reading digits as one number as long as 64 bits hold it: the number and the digits
left over. -/
def collect (n : Nat) : List Nat → Nat × List Nat
  | [] => (n, [])
  | d :: ds => if 10 * n + d < 1 <<< 64 then collect (10 * n + d) ds else (n, d :: ds)

/-- The binary64 number nearest to a power of ten. -/
def powerOfTen (n : Nat) : Finite := ((Decimal.toBinary64 false ⟨1, n⟩).finite?).getD .zero

/-- The quotient by a power of ten up to `308`. -/
def divPower (x : Finite) (n : Nat) : Finite := ((x.div (powerOfTen n)).finite?).getD .zero

/-- The quotient by `10 ^ (308 * steps + n)`, one step at a time until nothing is left. -/
def shrink (x : Finite) (n : Nat) : Nat → Finite
  | 0 => divPower x n
  | steps + 1 => if x.isZero then x else shrink (divPower x 308) n steps

/-- A magnitude times a power of ten.  It is out of range if it is an infinity. -/
def scaled (x : Finite) (e : Int) : Except Fault Finite :=
  if 308 < e then if x.isZero then .ok x else .error .numberOutOfRange
  else if 0 ≤ e then
    match x.mul (powerOfTen e.toNat) with
    | .finite y => .ok y
    | _ => .error .numberOutOfRange
  else
    let n := e.natAbs - 1
    .ok (shrink x (n % 308 + 1) (n / 308))

/-- The value of a run of digits. -/
def digitsNat (ds : List Nat) : Nat := ds.foldl (fun n d => 10 * n + d) 0

/-- The exponent as it is written. -/
def exponentValue (t : NumberText) : Int :=
  match t.exponent with
  | none => 0
  | some (negative, ds) => if negative then -(digitsNat ds : Int) else digitsNat ds

/-- The magnitude as a binary64 number.  An exponent that 32 bits do not hold makes it zero if it
is negative or all digits are zero. -/
def magnitude (t : NumberText) : Except Fault Finite :=
  let (n, restWhole) := collect 0 t.whole
  let places := t.places.getD []
  let (n, restPlaces) := collect n places
  let e := t.exponentValue
  if 1 <<< 31 ≤ e.natAbs then
    if n ≠ 0 ∧ 0 < e then .error .numberOutOfRange else .ok .zero
  else
    let x := ((Binary64.ofInt n).finite?).getD .zero
    scaled x (e + restWhole.length - (places.length - restPlaces.length : Nat))

/-- The number: an integer if it is written as one and 64 bits hold it, minus zero excepted. -/
def value (t : NumberText) : Except Fault Number :=
  let float := t.magnitude.map fun x => Number.float (if t.negative then x.neg else x)
  if t.places.isSome ∨ t.exponent.isSome then float
  else
    let n := digitsNat t.whole
    if t.negative then
      if n ≠ 0 ∧ n ≤ 1 <<< 63 then .ok (.int (-n)) else float
    else if n < 1 <<< 64 then .ok (.int n) else float

end NumberText

/-- Reads a number after its sign. -/
def readNumber (negative : Bool) (s : Content) : Except Fault (Number × Content) :=
  match lexNumber negative s with
  | .ok (t, rest) => t.value.map fun n => (n, rest)
  | .error .ends => .error .endInValue
  | .error .wrong => .error .invalidNumber

end Json

end Gridlines
