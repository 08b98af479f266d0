import Gridlines.Json.Printer
import Gridlines.Text.Quoted

/-!
# What can be wrong with a JSON text

The faults are of three kinds: the text breaks the grammar, it ends too early, or it is JSON but
not of the form that is read.  `Fault.message` words each of them.  A `ReadError` says in addition
where in the value the fault was met.
-/

namespace Gridlines

namespace Json

/-- A value where another kind of value was expected. -/
inductive Unexpected where
  | null
  | bool (b : Bool)
  | number (n : Number)
  | string (s : String)
  | array
  | object

/-- The words for a value that was not expected. -/
def Unexpected.words : Unexpected → String
  | null => "null"
  | bool b => "boolean `" ++ .ofList (boolText b) ++ "`"
  | number (.int n) => "integer `" ++ .ofList (integerText n) ++ "`"
  | number (.float x) => "floating point `" ++ numberStyle.write x ++ "`"
  | string s => "string " ++ quoted s
  | array => "sequence"
  | object => "map"

/-- Something wrong with a JSON text. -/
inductive Fault where
  | expectedValue
  | expectedWord
  | expectedColon
  | expectedCommaOrBracket
  | expectedCommaOrBrace
  | keyNotString
  | trailingComma
  | trailingCharacters
  | invalidNumber
  | numberOutOfRange
  | invalidEscape
  | unpairedSurrogate
  | wrongSurrogate
  | invalidCodePoint
  | controlCharacter
  | tooDeep
  | endInValue
  | endInArray
  | endInObject
  | endInString
  | missingMember (name : String)
  | duplicateMember (name : String)
  | wrongKind (found : Unexpected) (expected : String)
  | wrongValue (found : Unexpected) (expected : String)
  | wrongLength (found : Nat) (record : String) (members : Nat)

/-- The kinds of faults. -/
inductive Fault.Kind where
  /-- The text is not JSON. -/
  | grammar
  /-- The text ends too early. -/
  | ending
  /-- The text is JSON, but not of the form that is read. -/
  | form
  deriving DecidableEq

namespace Fault

/-- The kind of a fault. -/
def kind : Fault → Kind
  | endInValue | endInArray | endInObject | endInString => .ending
  | missingMember _ | duplicateMember _ | wrongKind .. | wrongValue .. | wrongLength .. => .form
  | _ => .grammar

/-- The words for a fault. -/
def message : Fault → String
  | expectedValue => "expected value"
  | expectedWord => "expected ident"
  | expectedColon => "expected `:`"
  | expectedCommaOrBracket => "expected `,` or `]`"
  | expectedCommaOrBrace => "expected `,` or `\x7d`"
  | keyNotString => "key must be a string"
  | trailingComma => "trailing comma"
  | trailingCharacters => "trailing characters"
  | invalidNumber => "invalid number"
  | numberOutOfRange => "number out of range"
  | invalidEscape => "invalid escape"
  | unpairedSurrogate => "unexpected end of hex escape"
  | wrongSurrogate => "lone leading surrogate in hex escape"
  | invalidCodePoint => "invalid unicode code point"
  | controlCharacter => "control character (\\u0000-\\u001F) found while parsing a string"
  | tooDeep => "recursion limit exceeded"
  | endInValue => "EOF while parsing a value"
  | endInArray => "EOF while parsing a list"
  | endInObject => "EOF while parsing an object"
  | endInString => "EOF while parsing a string"
  | missingMember name => "missing field `" ++ name ++ "`"
  | duplicateMember name => "duplicate field `" ++ name ++ "`"
  | wrongKind found expected => "invalid type: " ++ found.words ++ ", expected " ++ expected
  | wrongValue found expected => "invalid value: " ++ found.words ++ ", expected " ++ expected
  | wrongLength found record members =>
    "invalid length " ++ toString found ++ ", expected struct " ++ record ++ " with " ++
      toString members ++ (if members = 1 then " element" else " elements")

end Fault

/-- A step into a value. -/
inductive Step where
  /-- To the value of a member. -/
  | member (name : String)
  /-- To an item. -/
  | item (index : Nat)

/-- A fault and the way to the value in which it was met. -/
structure ReadError where
  fault : Fault
  path : List Step

namespace ReadError

/-- The path as text: names with points between them, indices in brackets. -/
def pathText : List Step → String
  | [] => ""
  | .member name :: path => name ++ rest path
  | .item index :: path => "[" ++ toString index ++ "]" ++ rest path
where
  /-- The path after its first step. -/
  rest : List Step → String
    | [] => ""
    | .member name :: path => "." ++ name ++ rest path
    | .item index :: path => "[" ++ toString index ++ "]" ++ rest path

/-- The words for the fault, after its path unless that is empty. -/
def message (e : ReadError) : String :=
  if e.path.isEmpty then e.fault.message else pathText e.path ++ ": " ++ e.fault.message

end ReadError

end Json

end Gridlines
