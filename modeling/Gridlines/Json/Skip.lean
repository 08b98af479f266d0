import Gridlines.Json.Reader

/-!
# Skipping JSON values

A value that nobody asks for is passed over with less care than a value that is read: it may be
nested to any depth, its numbers may be out of range, and its escapes only need four digits.
`skipValue` walks through the text with the list of the arrays and objects that are open.
-/

namespace Gridlines

namespace Json

/-- Passes over an escaped character after the backslash: the number of symbols. -/
def skipEscape : Content → Except Fault Nat
  | [] => .error .endInString
  | .stray _ :: _ => .error .invalidEscape
  | .char c :: s =>
    if c = 'u' then (readHex s).map fun _ => 5
    else if (escapeValue? c).isSome then .ok 1
    else .error .invalidEscape

/-- Passes over a string after its opening quote. -/
def skipString (s : Content) : Except Fault Content := go 0 s
where
  /-- Passes over the symbols of an escape first. -/
  go : Nat → Content → Except Fault Content
    | _, [] => .error .endInString
    | n + 1, _ :: s => go n s
    | 0, .stray _ :: s => go 0 s
    | 0, .char c :: s =>
      if c = '"' then .ok s
      else if c = '\\' then
        match skipEscape s with
        | .ok n => go n s
        | .error f => .error f
      else if c.toNat < 32 then .error .controlCharacter
      else go 0 s

/-- Passes over a number after its sign. -/
def skipNumber (s : Content) : Except Fault Content :=
  -- the sign only matters for the value, which nobody asks for
  match lexNumber false s with
  | .ok (_, s) => .ok s
  | .error _ => .error .invalidNumber

/-- An array or object that is open. -/
inductive Frame where
  | array
  | object
  deriving DecidableEq

/-- The closing mark. -/
def Frame.close : Frame → Char
  | array => ']'
  | object => '\x7d'

/-- The fault where the text ends. -/
def Frame.atEnd : Frame → Fault
  | array => .endInArray
  | object => .endInObject

/-- The fault where neither a comma nor the closing mark stands. -/
def Frame.noComma : Frame → Fault
  | array => .expectedCommaOrBracket
  | object => .expectedCommaOrBrace

/-- Passes over the name of the next member and the colon, in an object. -/
def skipName : Frame → Content → Except Fault Content
  | .array, s => .ok s
  | .object, s =>
    match skipGaps s with
    | [] => .error .endInObject
    | .char '"' :: s => do readColon (← skipString s)
    | _ => .error .keyNotString

/-- After a value: closes what ends here.  Gives what is still open where the next value starts,
and nothing at the end of the outermost value. -/
def closeFrames : List Frame → Content → Except Fault (List Frame × Content)
  | [], s => .ok ([], s)
  | f :: fs, s =>
    match skipGaps s with
    | [] => .error f.atEnd
    | x :: s =>
      if x = .char ',' then (skipName f s).map fun s => (f :: fs, s)
      else if x = .char f.close then closeFrames fs s
      else .error f.noComma

/-- After an opening mark: closes an empty array or object at once, or goes on to its first
value. -/
def openFrame (f : Frame) (fs : List Frame) (s : Content) : Except Fault (List Frame × Content) :=
  match skipGaps s with
  | [] => .error f.atEnd
  | x :: s' =>
    if x = .char f.close then closeFrames fs s'
    else (skipName f s).map fun s => (f :: fs, s)

/-- Passes over a scalar or an opening mark, and over what closes after it. -/
def skipStep (fs : List Frame) (s : Content) : Except Fault (List Frame × Content) :=
  match skipGaps s with
  | [] => .error .endInValue
  | .stray _ :: _ => .error .expectedValue
  | .char c :: s =>
    if c = '[' then openFrame .array fs s
    else if c = '\x7b' then openFrame .object fs s
    else do
      let s ←
        if c = 'n' then readWord "ull".toList s
        else if c = 't' then readWord "rue".toList s
        else if c = 'f' then readWord "alse".toList s
        else if c = '"' then skipString s
        else if c = '-' then skipNumber s
        else if c.isDigit then skipNumber (.char c :: s)
        else .error .expectedValue
      closeFrames fs s

/-- Passes over a value in at most so many steps. -/
def skipValue (steps : Nat) (s : Content) : Except Fault Content := go steps [] s
where
  /-- Goes on with what is open. -/
  go : Nat → List Frame → Content → Except Fault Content
    | 0, _, _ => .error .endInValue
    | n + 1, fs, s =>
      match skipStep fs s with
      | .error f => .error f
      | .ok ([], s) => .ok s
      | .ok (f :: fs, s) => go n (f :: fs) s

end Json

end Gridlines
