import Gridlines.Text.Symbol

/-!
# Requests and replies

A reply is written by the service, so its headers are text.  What a request holds has come in from
outside: its body and the values of its headers are read as content that may be ill-formed.
-/

namespace Gridlines

namespace Http

/-- A header to be sent: its name and its value. -/
abbrev Header := String × String

/-- A header that has come in: its name, and its value, which may be ill-formed. -/
abbrev ReceivedHeader := String × Content

/-- The header as it comes in. -/
def Header.received (h : Header) : ReceivedHeader := (h.1, Symbol.ofString h.2)

/-- Headers that are text can be received. -/
instance : Coe (List Header) (List ReceivedHeader) := ⟨List.map Header.received⟩

/-- A request. -/
structure Request where
  method : String
  target : String
  headers : List ReceivedHeader
  body : Content

/-- A reply. -/
structure Reply where
  status : Nat
  headers : List Header
  body : String

namespace Request

/-- The value of the first header of a name, which is given in lowercase. -/
def header? (r : Request) (name : String) : Option Content :=
  (r.headers.find? fun h => h.1.toList.map Char.toLower = name.toList).map Prod.snd

/-- What follows the first occurrence of a text. -/
def after? (mark : List Char) : List Char → Option (List Char)
  | [] => none
  | c :: cs => if mark.isPrefixOf (c :: cs) then some ((c :: cs).drop mark.length) else after? mark cs

/-- The path of the target: without the scheme and host of a full address, and without what
follows a question or number sign. -/
def path (r : Request) : String :=
  let cs := r.target.toList.takeWhile (· ≠ '#')
  let path (cs : List Char) := .ofList (cs.takeWhile (· ≠ '?'))
  match cs with
  | '/' :: _ => path cs
  | _ =>
    match after? "://".toList cs with
    | some rest =>
      let rest := rest.dropWhile fun c => c ≠ '/' && c ≠ '?'
      if rest.head? = some '/' then path rest else "/"
    | none => ""

end Request

end Http

end Gridlines
