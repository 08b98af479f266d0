import Gridlines.Text.Symbol

/-!
# Origins that may use the service

A browser lets a page use the service if the answer names the page's origin.  Without a list of
origins every answer names all of them; with a list, an answer names the origin of the request if
it is in the list.  Entries that cannot stand in a header are dropped, and the entry `*` is an
error.
-/

namespace Gridlines

namespace Http

/-- Whether a text may stand in a header: no controls other than tabs. -/
def isHeaderValue (s : String) : Bool :=
  s.toList.all fun c => c = '\t' || (32 ≤ c.toNat && c ≠ '\x7f')

/-- Which origins answers name. -/
inductive Cors where
  /-- All of them. -/
  | any
  /-- The origin of the request, if it is one of these. -/
  | only (origins : List String)
  deriving DecidableEq

/-- A list of origins has the entry `*`. -/
inductive WildcardOrigin where
  | wildcardOrigin
  deriving DecidableEq

/-- The words for the error. -/
def WildcardOrigin.message : WildcardOrigin → String
  | wildcardOrigin =>
    "Wildcard origin (`*`) cannot be passed to `AllowOrigin::list`. " ++
      "Use `AllowOrigin::any()` instead"

namespace Cors

/-- The policy for a list of origins. -/
def ofOrigins (origins : List String) : Except WildcardOrigin Cors :=
  if origins.isEmpty then .ok any
  else
    let valid := origins.filter isHeaderValue
    if "*" ∈ valid then .error .wildcardOrigin else .ok (only valid)

/-- The origin that the answer to a request names, given the origin of the request. -/
def allowed? (cors : Cors) (origin : Option Content) : Option String :=
  match cors with
  | any => some "*"
  | only origins => origin.bind fun o => origins.find? fun entry => Symbol.ofString entry = o

end Cors

end Http

end Gridlines
