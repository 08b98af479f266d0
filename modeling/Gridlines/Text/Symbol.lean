/-!
# Text that may be ill-formed

The bytes of a file or of a request body are read as a list of symbols: the characters of the
well-formed UTF-8 sequences in it, and the stray bytes between them.  Text is well formed when it
has no stray byte.

* `Symbol.decode` : the symbols of a list of bytes.
* `Symbol.ofString`, `Symbol.text?` : between strings and well-formed content.
-/

namespace Gridlines

/-- A character, or a byte that is part of none. -/
inductive Symbol where
  /-- A character. -/
  | char (c : Char)
  /-- A byte in no well-formed sequence. -/
  | stray (b : UInt8)
  deriving DecidableEq

/-- What a file or a request body holds. -/
abbrev Content := List Symbol

namespace Symbol

/-- How many bytes the symbol takes. -/
def size : Symbol → Nat
  | char c => c.utf8Size
  | stray _ => 1

/-- The character, if it is one. -/
def char? : Symbol → Option Char
  | char c => some c
  | stray _ => none

/-- The symbols of a string. -/
def ofString (s : String) : Content := s.toList.map char

/-- The characters of content that has no stray byte. -/
def text? (content : Content) : Option (List Char) := content.mapM char?

theorem text?_ofString (s : String) : text? (ofString s) = some s.toList := by
  rw [text?, ofString, List.mapM_map]
  induction s.toList with
  | nil => rfl
  | cons c cs ih => simp_all [char?]

theorem ofString_inj {s t : String} : ofString s = ofString t ↔ s = t := by
  refine ⟨fun h => ?_, fun h => h ▸ rfl⟩
  have htext := congrArg text? h
  rw [text?_ofString, text?_ofString] at htext
  exact String.toList_inj.1 (Option.some.inj htext)

/-- Whether the byte continues a character. -/
def isTail (b : UInt8) : Bool := 0x80 ≤ b && b ≤ 0xBF

/-- Whether a byte that starts a longer character admits `b` as the next byte: overlong forms,
surrogates and numbers past the last code point are excluded here. -/
def admits (a b : UInt8) : Bool :=
  isTail b && (a != 0xE0 || 0xA0 ≤ b) && (a != 0xED || b ≤ 0x9F) &&
    (a != 0xF0 || 0x90 ≤ b) && (a != 0xF4 || b ≤ 0x8F)

/-- The six bits of a byte that continues a character. -/
def tailBits (b : UInt8) : Nat := b.toNat % 64

/-- Reads off the character that the bytes start with, and how many more bytes it takes; a byte
that starts none is stray. -/
def first (a : UInt8) (rest : List UInt8) : Symbol × Nat :=
  if a < 0x80 then (char (Char.ofNat a.toNat), 0)
  else if 0xC2 ≤ a && a ≤ 0xDF then
    match rest with
    | b :: _ =>
      if isTail b then (char (Char.ofNat (a.toNat % 32 * 64 + tailBits b)), 1) else (stray a, 0)
    | _ => (stray a, 0)
  else if 0xE0 ≤ a && a ≤ 0xEF then
    match rest with
    | b :: c :: _ =>
      if admits a b && isTail c then
        (char (Char.ofNat ((a.toNat % 16 * 64 + tailBits b) * 64 + tailBits c)), 2)
      else (stray a, 0)
    | _ => (stray a, 0)
  else if 0xF0 ≤ a && a ≤ 0xF4 then
    match rest with
    | b :: c :: d :: _ =>
      if admits a b && isTail c && isTail d then
        (char (Char.ofNat
          (((a.toNat % 8 * 64 + tailBits b) * 64 + tailBits c) * 64 + tailBits d)), 3)
      else (stray a, 0)
    | _ => (stray a, 0)
  else (stray a, 0)

/-- The symbols of a list of bytes. -/
def decode (bytes : List UInt8) : Content := go 0 [] bytes
where
  /-- Passes over the bytes already read and collects the symbols backwards. -/
  go : Nat → List Symbol → List UInt8 → Content
    | _, acc, [] => acc.reverse
    | n + 1, acc, _ :: rest => go n acc rest
    | 0, acc, a :: rest => let (s, n) := first a rest; go n (s :: acc) rest

/-- How many bytes the content takes. -/
def totalSize (content : Content) : Nat := content.foldl (fun n s => n + s.size) 0

end Symbol

end Gridlines
