import Gridlines.Json.Skip

/-!
# Reading records

Values of a known form.  A `Decoder` reads one value; it meets the faults of the text and of the
form in the order of the text.  A record is written as an object of its members, in any order and
among others, or as an array of them in their own order.

* `Decoder.list`, `Decoder.text`, `Decoder.optional`, … : the forms of single values.
* `Shape` : the members of a record; `Shape.decoder` reads it.
* `Decoder.run` : reads a text that holds one value; `Decoder.runFirst` ignores what follows.
-/

namespace Gridlines

namespace Json

/-- What bounds the reading of a value. -/
structure Bounds where
  /-- How many levels may be opened. -/
  levels : Nat
  /-- How many turns a loop may take: the number of symbols of the whole text. -/
  turns : Nat

/-- Reads a value of a known form. -/
abbrev Decoder (α : Type) := Bounds → Content → Except ReadError (α × Content)

/-- A fault at the value itself. -/
def here {α : Type} (r : Except Fault α) : Except ReadError α := r.mapError fun f => ⟨f, []⟩

/-- Says that a fault was met one step further in. -/
def within {α : Type} (step : Step) (r : Except ReadError α) : Except ReadError α :=
  r.mapError fun e => { e with path := step :: e.path }

/-- The fault of a value that is of another kind than expected.  Words, numbers and strings are
read first, so that their own faults come before. -/
def otherKind (expected : String) (s : Content) : Fault :=
  let found : Except Fault Unexpected :=
    match skipGaps s with
    | [] => .error .endInValue
    | .stray _ :: _ => .error .expectedValue
    | .char c :: s =>
      if c = 'n' then (readWord "ull".toList s).map fun _ => .null
      else if c = 't' then (readWord "rue".toList s).map fun _ => .bool true
      else if c = 'f' then (readWord "alse".toList s).map fun _ => .bool false
      else if c = '-' then (readNumber true s).map fun r => .number r.1
      else if c.isDigit then (readNumber false (.char c :: s)).map fun r => .number r.1
      else if c = '"' then (readString s).map fun r => .string r.1
      else if c = '[' then .ok .array
      else if c = '\x7b' then .ok .object
      else .error .expectedValue
  match found with
  | .ok u => .wrongKind u expected
  | .error f => f

/-- Goes on after an opening bracket or brace, one level down. -/
def descend {α : Type} (bounds : Bounds) (read : Bounds → Except ReadError α) :
    Except ReadError α :=
  match bounds.levels with
  | 0 => .error ⟨.tooDeep, []⟩
  | n + 1 => read { bounds with levels := n }

namespace Decoder

variable {α : Type}

/-- A value of any form. -/
def value : Decoder Json := fun bounds s => here (readValue bounds.turns bounds.levels s)

/-- A string. -/
def text : Decoder String := fun _ s =>
  match skipGaps s with
  | .char '"' :: s => here (readString s)
  | s => .error ⟨otherKind "a string" s, []⟩

/-- An integer from `0` to `65535`. -/
def port : Decoder (Fin 65536) := fun _ s =>
  let finish (r : Except Fault (Number × Content)) : Except Fault (Fin 65536 × Content) :=
    match r with
    | .error f => .error f
    | .ok (.float x, _) => .error (.wrongKind (.number (.float x)) "u16")
    | .ok (.int n, s) =>
      if h : 0 ≤ n ∧ n < 65536 then .ok (⟨n.toNat, by omega⟩, s)
      else .error (.wrongValue (.number (.int n)) "u16")
  match skipGaps s with
  | .char c :: s =>
    if c = '-' then here (finish (readNumber true s))
    else if c.isDigit then here (finish (readNumber false (.char c :: s)))
    else .error ⟨otherKind "u16" (.char c :: s), []⟩
  | s => .error ⟨otherKind "u16" s, []⟩

/-- `null`, which reads as nothing, or a value. -/
def optional (inner : Decoder α) : Decoder (Option α) := fun bounds s =>
  match skipGaps s with
  | .char 'n' :: s => here ((readWord "ull".toList s).map fun s => (none, s))
  | s => (inner bounds s).map fun r => (some r.1, r.2)

/-- An object whose members have any form. -/
def map : Decoder (SortedMap Json) := fun bounds s =>
  match skipGaps s with
  | .char '\x7b' :: s => descend bounds fun bounds =>
    here ((readMembers (readValue bounds.turns bounds.levels) bounds.turns s).map fun r =>
      (SortedMap.ofList r.1, r.2))
  | s => .error ⟨otherKind "a map" s, []⟩

/-- Reads the items of an array after the opening bracket. -/
def readList (item : Content → Except ReadError (α × Content)) :
    Nat → List α → Content → Except ReadError (List α × Content)
  | 0, _, _ => .error ⟨.endInArray, []⟩
  | n + 1, acc, s =>
    match nextItem acc.isEmpty s with
    | .error f => .error ⟨f, []⟩
    | .ok none => here ((endArray s).map fun s => (acc.reverse, s))
    | .ok (some s) =>
      match within (.item acc.length) (item s) with
      | .error e => .error e
      | .ok (x, s) => readList item n (x :: acc) s

/-- An array whose items have one form. -/
def list (item : Decoder α) : Decoder (List α) := fun bounds s =>
  match skipGaps s with
  | .char '[' :: s => descend bounds fun bounds => readList (item bounds) bounds.turns [] s
  | s => .error ⟨otherKind "a sequence" s, []⟩

/-- Reads a value and says how to note it in a state. -/
def note {σ : Type} (decoder : Decoder α) (f : α → σ → σ) : Decoder (σ → σ) := fun bounds s =>
  (decoder bounds s).map fun r => (f r.1, r.2)

/-- Reads a text that holds one value and nothing else. -/
def run (decoder : Decoder α) (s : Content) : Except ReadError α := do
  let (x, s) ← decoder ⟨depthLimit, s.length⟩ s
  here (readEnd s)
  return x

/-- Reads the value at the start of a text. -/
def runFirst (decoder : Decoder α) (s : Content) : Except ReadError α :=
  (decoder ⟨depthLimit, s.length⟩ s).map Prod.fst

end Decoder

/-! ### Records -/

variable {σ α : Type}

/-- A member of a record that is read into a state of type `σ`. -/
structure Member (σ : Type) where
  name : String
  /-- Whether an array of the members may end before this one. -/
  mayLack : Bool
  /-- Whether the member has been read. -/
  isSet : σ → Bool
  /-- Reads the member's value and says how to note it. -/
  decoder : Decoder (σ → σ)

/-- A record: its name, its members, and how a state becomes a value. -/
structure Shape (σ α : Type) where
  name : String
  /-- The state before anything is read. -/
  start : σ
  members : List (Member σ)
  /-- The value, or the name of the first member that is missing. -/
  finish : σ → Except String α

namespace Shape

/-- The value of the state, once all members are read. -/
def close (shape : Shape σ α) (state : σ) : Except ReadError α :=
  match shape.finish state with
  | .ok x => .ok x
  | .error name => .error ⟨.missingMember name, []⟩

/-- Reads the record as an array, after the opening bracket: the members still to come. -/
def readArray (shape : Shape σ α) (bounds : Bounds) :
    List (Member σ) → Nat → σ → Content → Except ReadError (α × Content)
  | [], _, state, s => do
    let x ← shape.close state
    let s ← here (endArray s)
    return (x, s)
  | m :: ms, i, state, s =>
    match nextItem (i == 0) s with
    | .error f => .error ⟨f, []⟩
    | .ok none =>
      if m.mayLack then readArray shape bounds ms (i + 1) state s
      else .error ⟨.wrongLength i shape.name shape.members.length, []⟩
    | .ok (some s) =>
      match within (.item i) (m.decoder bounds s) with
      | .error e => .error e
      | .ok (note, s) => readArray shape bounds ms (i + 1) (note state) s

/-- Reads a member after its name. -/
def readMember (shape : Shape σ α) (bounds : Bounds) (name : String) (state : σ) (s : Content) :
    Except ReadError (σ × Content) :=
  match shape.members.find? (·.name == name) with
  | none => do
    let s ← here (readColon s)
    let s ← within (.member name) (here (skipValue bounds.turns s))
    return (state, s)
  | some m => do
    if m.isSet state then throw ⟨.duplicateMember name, []⟩
    let s ← here (readColon s)
    let (note, s) ← within (.member name) (m.decoder bounds s)
    return (note state, s)

/-- Reads the record as an object, after the opening brace and in at most so many turns. -/
def readObject (shape : Shape σ α) (bounds : Bounds) :
    Nat → Bool → σ → Content → Except ReadError (α × Content)
  | 0, _, _, _ => .error ⟨.endInObject, []⟩
  | n + 1, isFirst, state, s =>
    match nextMember isFirst s with
    | .error f => .error ⟨f, []⟩
    | .ok none => do
      let x ← shape.close state
      return (x, (skipGaps s).drop 1)
    | .ok (some s) => do
      let (name, s) ← here (readString s)
      let (state, s) ← readMember shape bounds name state s
      readObject shape bounds n false state s

/-- Reads the record. -/
def decoder (shape : Shape σ α) : Decoder α := fun bounds s =>
  match skipGaps s with
  | .char '[' :: s => descend bounds fun bounds =>
    shape.readArray bounds shape.members 0 shape.start s
  | .char '\x7b' :: s => descend bounds fun bounds =>
    shape.readObject bounds bounds.turns true shape.start s
  | s => .error ⟨otherKind ("struct " ++ shape.name) s, []⟩

end Shape

end Json

end Gridlines
