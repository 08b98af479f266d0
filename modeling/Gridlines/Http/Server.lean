import Gridlines.Answer.Response
import Gridlines.Dataset.Summary
import Gridlines.Http.Config
import Gridlines.Http.Cors
import Gridlines.Http.MediaType
import Gridlines.Http.Message

/-!
# The service

Three routes: a question is posted to `/api/query`, `/health` says whether there is a dataset, and
`/info` gives its summary.  The body of a question is checked before the slot is looked at, so a
bad request is bad whether or not there is a dataset.

* `readQuestion` : the question of a request.
* `Route.reply` : the reply of a route.
* `Server.respond` : the reply to a request, with the headers that every reply has.
-/

namespace Gridlines

namespace Http

/-! ### Errors -/

/-- Why the body of a request is no question. -/
inductive BodyError where
  /-- The request does not say that it is JSON. -/
  | notJson
  | tooLarge
  | malformed (e : Json.ReadError)

/-- The words for an error. -/
def BodyError.message : BodyError → String
  | notJson => "Expected request with `Content-Type: application/json`"
  | tooLarge => "Failed to buffer the request body: length limit exceeded"
  | malformed e =>
    match e.fault.kind with
    | .form => "Failed to deserialize the JSON body into the target type: " ++ e.message
    | _ => "Failed to parse the request body as JSON: " ++ e.message

/-- Why a question has no answer. -/
inductive ServiceError where
  | badRequest (words : String)
  | unavailable (e : Unavailable)

namespace ServiceError

/-- The status of the reply. -/
def status : ServiceError → Nat
  | badRequest _ => 400
  | unavailable _ => 503

/-- The words for the error. -/
def message : ServiceError → String
  | badRequest words => "Invalid request body: " ++ words
  | unavailable e => e.message

/-- The written form. -/
def toJson (e : ServiceError) : Json :=
  .object [("error", .string e.message), ("code", .count e.status)]

end ServiceError

/-! ### Routes -/

/-- The routes of the service. -/
inductive Route where
  | health
  | info
  | query
  deriving DecidableEq

namespace Route

/-- The route of a path. -/
def ofPath (path : String) : Option Route :=
  if path = "/health" then some health
  else if path = "/info" then some info
  else if path = "/api/query" then some query
  else none

/-- The methods of a route. -/
def methods : Route → List String
  | health | info => ["GET", "HEAD"]
  | query => ["POST"]

/-- The header that names the methods of a route. -/
def allow (route : Route) : Header := ("allow", ",".intercalate route.methods)

end Route

/-- A reply that holds a value. -/
def jsonReply (status : Nat) (x : Json) : Reply :=
  ⟨status, [("content-type", "application/json")], x.compact⟩

/-- A reply that says why there is no answer. -/
def errorReply (e : ServiceError) : Reply := jsonReply e.status e.toJson

/-- How many bytes the body of a question may have. -/
def bodyLimit : Nat := 2097152

/-- How many values of each name `/info` gives. -/
def infoSamples : Nat := 10

/-- The question of a request.  What follows it in the body is ignored. -/
def readQuestion (r : Request) : Except BodyError Question :=
  if !((r.header? "content-type").map isJsonType).getD false then .error .notJson
  else if bodyLimit < Symbol.totalSize r.body then .error .tooLarge
  else
    match Question.shape.decoder.runFirst r.body with
    | .ok q => .ok q
    | .error e => .error (.malformed e)

/-- The reply to a posted question. -/
def queryReply (slot : Slot) (r : Request) : Reply :=
  match readQuestion r with
  | .error e => errorReply (.badRequest e.message)
  | .ok q =>
    match slot.answer q.query with
    | .error e => errorReply (.unavailable e)
    | .ok response => jsonReply 200 response.toJson

/-- The reply that says whether there is a dataset. -/
def healthReply (slot : Slot) : Reply :=
  jsonReply 200 (.object [("status", .string "healthy"), ("data_loaded", .bool slot.isLoaded)])

/-- The reply with the summary of the dataset. -/
def infoReply (slot : Slot) : Reply :=
  jsonReply 200 <|
    match slot.dataset with
    | some d => (d.summary infoSamples).toJson
    | none => .object [("error", .string "Data not loaded")]

/-- The reply of a route to a request with one of its methods. -/
def Route.reply (slot : Slot) (r : Request) : Route → Reply
  | health => healthReply slot
  | info => infoReply slot
  | query => queryReply slot r

/-- The reply to a request before the headers that every reply has. -/
def plainReply (slot : Slot) (r : Request) : Reply :=
  let route := Route.ofPath r.path
  if r.method = "OPTIONS" then
    ⟨200, [("access-control-allow-headers", "*"), ("access-control-allow-methods", "*")] ++
      (route.map Route.allow).toList, ""⟩
  else
    match route with
    | none => ⟨404, [], ""⟩
    | some route =>
      if r.method ∈ route.methods then
        let reply := route.reply slot r
        if r.method = "HEAD" then { reply with body := "" } else reply
      else ⟨405, [route.allow], ""⟩

/-! ### The server -/

/-- What pages may run, sent with every reply. -/
def contentSecurityPolicy : String := "script-src 'self' 'unsafe-eval' 'unsafe-inline';"

/-- A service that is ready to listen. -/
structure Server where
  config : Config
  cors : Cors

namespace Server

/-- The service with the given settings. -/
def build (config : Config) : Except WildcardOrigin Server :=
  (Cors.ofOrigins config.corsOrigins).map fun cors => ⟨config, cors⟩

/-- The headers that the reply to a request has whatever it says. -/
def commonHeaders (server : Server) (r : Request) : List Header :=
  ((server.cors.allowed? (r.header? "origin")).map
      fun o => ("access-control-allow-origin", o)).toList ++
    [("content-security-policy", contentSecurityPolicy),
      ("vary", "origin, access-control-request-method, access-control-request-headers")]

/-- The reply to a request. -/
def respond (server : Server) (slot : Slot) (r : Request) : Reply :=
  let reply := plainReply slot r
  { reply with headers := server.commonHeaders r ++ reply.headers }

end Server

end Http

end Gridlines
