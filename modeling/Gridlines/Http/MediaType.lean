import Gridlines.Text.Symbol

/-!
# Media types

The grammar of a `Content-Type` header: a type, a subtype that may have a suffix after a plus sign,
and parameters whose values may be quoted.  All of it is ASCII.  `isJsonType` says whether it names
JSON.
-/

namespace Gridlines

namespace Http

/-- Whether the character may stand in the names of a media type. -/
def isTokenChar (c : Char) : Bool := c.isAlphanum || "!#$%&'*+-.^_`|~".toList.contains c

/-- Whether the character may stand between quotes. -/
def isQuotedChar (c : Char) : Bool := 32 ≤ c.toNat && c.toNat < 127

/-- The state between two characters of the parameters. -/
inductive ParamState where
  /-- Before a name, only blanks since the semicolon. -/
  | start
  /-- In a name, not empty. -/
  | name
  /-- In a value, `true` if it is empty so far. -/
  | value (isEmpty : Bool)
  /-- Between quotes, `true` if nothing has been read yet. -/
  | inQuotes (isEmpty : Bool)
  /-- After the closing quote. -/
  | afterQuotes

/-- The state after one more character, if it may stand there. -/
def ParamState.next (c : Char) : ParamState → Option ParamState
  | start =>
    if c = ' ' then some start
    else if isTokenChar c then some name
    else none
  | name =>
    if isTokenChar c then some name
    else if c = '=' then some (value true)
    else none
  | value isEmpty =>
    if c = '"' ∧ isEmpty then some (inQuotes true)
    else if isTokenChar c then some (value false)
    else if c = ';' ∧ !isEmpty then some start
    else none
  | inQuotes isEmpty =>
    if c = '"' ∧ !isEmpty then some afterQuotes
    else if isQuotedChar c then some (inQuotes false)
    else none
  | afterQuotes =>
    if c = ';' then some start
    else if c = ' ' then some afterQuotes
    else none

/-- Whether the parameters may end in the state. -/
def ParamState.mayEnd : ParamState → Bool
  | start | value _ | afterQuotes => true
  | name | inQuotes _ => false

/-- Whether parameters after a semicolon are well formed. -/
def areParams (cs : List Char) : Bool :=
  match cs.foldlM (fun state c => state.next c) ParamState.start with
  | some state => state.mayEnd
  | none => false

/-- Splits a subtype at its last plus sign that is not its first character. -/
def splitSuffix (subtype : List Char) : List Char × Option (List Char) :=
  let suffix := (subtype.reverse.takeWhile (· ≠ '+')).reverse
  if suffix.length + 1 < subtype.length then
    (subtype.take (subtype.length - suffix.length - 1), some suffix)
  else (subtype, none)

/-- Whether a media type names JSON: `application/json`, or a subtype that is JSON under another
name. -/
def namesJson (cs : List Char) : Bool :=
  let type := cs.takeWhile isTokenChar
  match cs.dropWhile isTokenChar with
  | '/' :: rest =>
    let subtype := rest.takeWhile isTokenChar
    -- an empty subtype passes here without parameters and is no JSON below
    let isWhole :=
      match rest.dropWhile isTokenChar with
      | [] => true
      | ';' :: params => !subtype.isEmpty && areParams params
      | _ => false
    let (base, suffix) := splitSuffix (subtype.map Char.toLower)
    isWhole && type.map Char.toLower = "application".toList &&
      (base = "json".toList || suffix = some "json".toList)
  | _ => false

/-- Whether a `Content-Type` header names JSON. -/
def isJsonType (header : Content) : Bool := (Symbol.text? header).any namesJson

end Http

end Gridlines
