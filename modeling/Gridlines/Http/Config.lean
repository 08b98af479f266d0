import Gridlines.Json.Record

/-!
# Settings of the service

Where the service listens, and which web pages may use it.  Every setting has a default.
-/

namespace Gridlines

namespace Http

/-- The port that the service listens at unless the settings say otherwise. -/
def defaultPort : Fin 65536 := ⟨8000, by decide⟩

/-- Settings of the service. -/
structure Config where
  host : String := "0.0.0.0"
  port : Fin 65536 := defaultPort
  /-- The origins that may use the service; if there are none, all may. -/
  corsOrigins : List String := []
  deriving DecidableEq

namespace Config

/-- The address that the service listens at. -/
def address (c : Config) : String := c.host ++ ":" ++ toString c.port.val

/-- The written form. -/
def toJson (c : Config) : Json :=
  .object
    [("host", .string c.host), ("port", .count c.port),
      ("cors_origins", .array (c.corsOrigins.map .string))]

/-- What has been read of the settings. -/
structure Draft where
  host : Option String := none
  port : Option (Fin 65536) := none
  corsOrigins : Option (List String) := none

/-- The members of the settings; each of them may be missing. -/
def shape : Json.Shape Draft Config where
  name := "HttpServerConfig"
  start := {}
  members :=
    [⟨"host", true, fun d => d.host.isSome,
        Json.Decoder.text.note fun x d => { d with host := some x }⟩,
      ⟨"port", true, fun d => d.port.isSome,
        Json.Decoder.port.note fun x d => { d with port := some x }⟩,
      ⟨"cors_origins", true, fun d => d.corsOrigins.isSome,
        Json.Decoder.text.list.note fun x d => { d with corsOrigins := some x }⟩]
  finish d :=
    let c : Config := {}
    .ok ⟨d.host.getD c.host, d.port.getD c.port, d.corsOrigins.getD c.corsOrigins⟩

end Config

end Http

end Gridlines
