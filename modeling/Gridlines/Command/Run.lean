import Gridlines.Command.Args
import Gridlines.Http.Server
import Gridlines.Question.Explain

/-!
# Running commands

What a command does: it prints one text, it stops with an error and prints nothing, or it starts
the service.  The world outside is what is found at each path, whether an address can be listened
at, and the time.
-/

namespace Gridlines

/-- The world outside the program. -/
structure World where
  files : Files
  /-- Whether an address can be listened at; otherwise why not. -/
  listen : String → Except String Unit
  /-- The time, as text. -/
  now : String

/-- What a command comes to. -/
inductive Outcome where
  /-- It prints a text. -/
  | printed (text : String)
  /-- It stops with an error. -/
  | failed (e : CommandError)
  /-- The service cannot be built. -/
  | refused (e : Http.WildcardOrigin)
  /-- The service listens, with a dataset to load. -/
  | serving (server : Http.Server) (dataFile : String)

/-- What an outcome has printed. -/
def Outcome.stdout : Outcome → String
  | printed text => text
  | failed _ | refused _ | serving _ _ => ""

namespace Command

/-- The settings at a path. -/
def resolveConfig (world : World) (path : String) : Except CommandError Config :=
  (Config.resolve world.files path).mapError fun e => .config e.message

/-- The dataset that the settings name. -/
def loadDataset (world : World) (config : Config) : Except CommandError Dataset :=
  (Dataset.load world.now world.files config.dataFile).mapError .ofLoadError

/-- A printed value, on many lines. -/
def document (x : Json) : String := x.pretty ++ "\n"

/-- The printed answer to a question. -/
def runQuery (world : World) (path text : String) : Except CommandError String := do
  let config ← resolveConfig world path
  let d ← loadDataset world config
  let response ← ((Slot.loaded d).answer text).mapError .ofUnavailable
  return document response.toJson

/-- The printed summary of the dataset. -/
def runInfo (world : World) (path : String) : Except CommandError String := do
  let config ← resolveConfig world path
  let d ← loadDataset world config
  return document (d.summary Http.infoSamples).toJson

/-- Starts the service. -/
def runServe (world : World) (path : String) : Outcome :=
  match resolveConfig world path with
  | .error e => .failed e
  | .ok config =>
    match Http.Server.build config.http with
    | .error e => .refused e
    | .ok server =>
      match world.listen config.http.address with
      | .ok _ => .serving server config.dataFile
      | .error words => .failed (.cannotListen words)

/-- A text that is printed, unless an error stops the command. -/
def Outcome.ofText : Except CommandError String → Outcome
  | .ok text => .printed text
  | .error e => .failed e

/-- Runs a command. -/
def run (world : World) : Command → Outcome
  | serve path => runServe world path
  | query path text => Outcome.ofText (runQuery world path text)
  | explain text => .printed (Explanation.ofIntent (.ofQuery text)).report
  | info path => Outcome.ofText (runInfo world path)

end Command

end Gridlines
