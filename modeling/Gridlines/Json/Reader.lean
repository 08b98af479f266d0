import Gridlines.Json.Scan
import Gridlines.SortedMap

/-!
# Reading JSON values

The reader of values of any form.  Arrays and objects may be nested in each other `depthLimit`
deep; the number of levels still allowed is passed down.  The items and members of one level are
read by loops that do not know what a value is; they take at most as many turns as the whole text
has symbols, and each turn takes at least one symbol off the text.

* `nextItem`, `nextMember` : where the next item or member starts, if there is one.
* `readValue` : a value; `Json.read` : a text that holds one value and nothing else.
-/

namespace Gridlines

namespace Json

/-- How many arrays and objects may be open at once. -/
def depthLimit : Nat := 127

/-! ### Items and members -/

/-- Where the next item of an open array starts, or nothing at the closing bracket. -/
def nextItem (isFirst : Bool) (s : Content) : Except Fault (Option Content) :=
  match skipGaps s with
  | [] => .error .endInArray
  | .char ']' :: _ => .ok none
  | x :: s =>
    if isFirst then .ok (some (x :: s))
    else if x = .char ',' then
      match skipGaps s with
      | [] => .error .endInValue
      | .char ']' :: _ => .error .trailingComma
      | s => .ok (some s)
    else .error .expectedCommaOrBracket

/-- Where the name of the next member of an open object starts, after its opening quote, or
nothing at the closing brace. -/
def nextMember (isFirst : Bool) (s : Content) : Except Fault (Option Content) :=
  match skipGaps s with
  | [] => .error .endInObject
  | .char '\x7d' :: _ => .ok none
  | x :: s =>
    if isFirst then
      if x = .char '"' then .ok (some s) else .error .keyNotString
    else if x = .char ',' then
      match skipGaps s with
      | [] => .error .endInValue
      | .char '"' :: s => .ok (some s)
      | .char '\x7d' :: _ => .error .trailingComma
      | _ => .error .keyNotString
    else .error .expectedCommaOrBrace

/-- Reads the colon after a name. -/
def readColon (s : Content) : Except Fault Content :=
  match skipGaps s with
  | [] => .error .endInObject
  | .char ':' :: s => .ok s
  | _ => .error .expectedColon

/-- Reads the closing bracket where only it may stand. -/
def endArray (s : Content) : Except Fault Content :=
  match skipGaps s with
  | [] => .error .endInArray
  | .char ']' :: s => .ok s
  | .char ',' :: s =>
    match skipGaps s with
    | .char ']' :: _ => .error .trailingComma
    | _ => .error .trailingCharacters
  | _ => .error .trailingCharacters

/-- Reads the items of an array after the opening bracket, in at most so many turns. -/
def readItems {α : Type} (item : Content → Except Fault (α × Content)) (turns : Nat)
    (s : Content) : Except Fault (List α × Content) :=
  go turns [] s
where
  /-- Collects the items backwards. -/
  go : Nat → List α → Content → Except Fault (List α × Content)
    | 0, _, _ => .error .endInArray
    | n + 1, acc, s =>
      match nextItem acc.isEmpty s with
      | .error f => .error f
      | .ok none => (endArray s).map fun s => (acc.reverse, s)
      | .ok (some s) =>
        match item s with
        | .error f => .error f
        | .ok (x, s) => go n (x :: acc) s

/-- Reads the members of an object after the opening brace, in the order of the text and in at
most so many turns. -/
def readMembers {α : Type} (item : Content → Except Fault (α × Content)) (turns : Nat)
    (s : Content) : Except Fault (List (String × α) × Content) :=
  go turns [] s
where
  /-- Collects the members backwards. -/
  go : Nat → List (String × α) → Content → Except Fault (List (String × α) × Content)
    | 0, _, _ => .error .endInObject
    | n + 1, acc, s =>
      match nextMember acc.isEmpty s with
      | .error f => .error f
      | .ok none => .ok (acc.reverse, (skipGaps s).drop 1)
      | .ok (some s) => do
        let (k, s) ← readString s
        let s ← readColon s
        let (x, s) ← item s
        go n ((k, x) :: acc) s

/-! ### Values -/

/-- Reads a value, with the given readers for what follows an opening bracket or brace. -/
def readValueWith (items : Content → Except Fault (List Json × Content))
    (members : Content → Except Fault (List (String × Json) × Content)) (s : Content) :
    Except Fault (Json × Content) :=
  match skipGaps s with
  | [] => .error .endInValue
  | .stray _ :: _ => .error .expectedValue
  | .char c :: s =>
    if c = 'n' then (readWord "ull".toList s).map fun s => (null, s)
    else if c = 't' then (readWord "rue".toList s).map fun s => (bool true, s)
    else if c = 'f' then (readWord "alse".toList s).map fun s => (bool false, s)
    else if c = '"' then (readString s).map fun r => (string r.1, r.2)
    else if c = '-' then (readNumber true s).map fun r => (number r.1, r.2)
    else if c.isDigit then (readNumber false (.char c :: s)).map fun r => (number r.1, r.2)
    else if c = '[' then (items s).map fun r => (array r.1, r.2)
    else if c = '\x7b' then
      (members s).map fun r => (object (SortedMap.ofList r.1).entries, r.2)
    else .error .expectedValue

/-- Reads a value in which so many levels may be opened. -/
def readValue (turns : Nat) : Nat → Content → Except Fault (Json × Content)
  | 0 => readValueWith (fun _ => .error .tooDeep) (fun _ => .error .tooDeep)
  | levels + 1 =>
    readValueWith (readItems (readValue turns levels) turns)
      (readMembers (readValue turns levels) turns)

/-- Makes sure that only blanks follow. -/
def readEnd (s : Content) : Except Fault Unit :=
  if (skipGaps s).isEmpty then .ok () else .error .trailingCharacters

/-- Reads a text that holds one value and nothing else. -/
def read (s : Content) : Except Fault Json := do
  let (x, s) ← readValue s.length depthLimit s
  readEnd s
  return x

end Json

end Gridlines
