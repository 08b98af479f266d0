import Gridlines.Command.Run
import Std.Async.DNS
import Std.Http
import Std.Time

/-!
# The program

Reads what a command needs from the disk, runs the command, and prints what it comes to.  The
service listens here: each request is handed to `Http.Server.respond`, and its reply is sent.

* `main` : the program; its exit status is 0, 1 for a command that stops with an error, and the
  status of `Usage.exitStatus` for arguments that are no command.
-/

namespace Gridlines

namespace Program

open Std.Async

/-! ### The disk and the clock -/

/-- The number of a system error, which may come negated. -/
def systemCode (code : UInt32) : UInt32 := min code (0 - code)

/-- The words for a system error. -/
def systemWords (code : UInt32) (words : String) : String :=
  let code := systemCode code
  let words := if code = 40 then "Too many levels of symbolic links" else words.capitalize
  words ++ " (os error " ++ toString code ++ ")"

/-- Why a path cannot be read, or an address not be listened at. -/
def fileErrorOf : IO.Error → FileError
  | .noFileOrDirectory .. => .path .notFound
  | .inappropriateType _ code _ =>
    if systemCode code = 20 then .path .notDirectory else .isDirectory
  | .invalidArgument _ code words =>
    if systemCode code = 36 then .path .tooLong
    else if systemCode code = 22 then .path .nulInPath
    else .unreadable (systemWords code words)
  | .permissionDenied _ code words | .resourceBusy code words | .unsupportedOperation code words
  | .otherError code words => .unreadable (systemWords code words)
  | e => .unreadable (toString e)

/-- What is found at one path. -/
def findPath (path : String) : IO (Except PathError Entry) := do
  try
    let bytes ← IO.FS.readBinFile path
    return .ok (.file (Symbol.decode bytes.toList))
  catch e =>
    match fileErrorOf e with
    | .path e => return .error e
    | .isDirectory => return .ok .directory
    | .unreadable words =>
      -- the same error if the file is closed to reading and if a directory on the way is closed
      try
        let _ ← IO.FS.realPath path
        return .ok (.unreadable words)
      catch _ => return .error (.blocked words)

/-- The time, as text. -/
def now : IO String := do
  let time ← Std.Time.Timestamp.now
  return (Std.Time.DateTime.ofTimestamp time .UTC).toPlainDateTime.toLeanDateTimeString ++ "Z"

/-- The path of the settings that a command reads. -/
def settingsPath : Command → Option String
  | .serve path | .query path _ | .info path => some path
  | .explain _ => none

/-- The world with the files that a command reads.  Whether an address can be listened at shows
once the service starts. -/
def worldOf (command : Command) : IO World := do
  let paths := (settingsPath command).toList
  let settings ← paths.mapM fun path => return (path, ← findPath path)
  let filesOf (known : List (String × Except PathError Entry)) : Files := fun path =>
    (known.lookup path).getD (.error .notFound)
  let dataPaths := paths.filterMap fun path =>
    (Config.resolve (filesOf settings) path).toOption.map Config.dataFile
  let data ← match command with
    | .serve _ => pure []
    | _ => dataPaths.mapM fun path => return (path, ← findPath path)
  return ⟨filesOf (settings ++ data), fun _ => .ok (), ← now⟩

/-! ### The service -/

/-- The request that has come in. -/
def requestOf (head : Std.Http.Request.Head) (body : ByteArray) : Http.Request where
  method := toString head.method
  target := toString head.uri
  headers := head.headers.toList.map fun (name, value) =>
    Http.Header.received (name.value, value.value)
  body := Symbol.decode body.toList

/-- The reply to send. -/
def responseOf (reply : Http.Reply) : Async (Std.Http.Response Std.Http.Body.Any) := do
  let status := (Std.Http.Status.ofCode none reply.status.toUInt16).getD .internalServerError
  let builder := reply.headers.foldl
    (fun builder (name, value) => (builder.header? name value).getD builder)
    (Std.Http.Response.withStatus status)
  let body ← Std.Http.Body.Full.ofString reply.body
  return builder.body (.ofBody body)

/-- Listens at the address of a host. -/
def listen (host : String) (port : UInt16) (handler : Std.Http.Server.StatelessHandler) :
    Async Std.Http.Server := do
  match (← DNS.getAddrInfo host (toString port)).toList with
  | .v4 address :: _ => Std.Http.Server.serve (.v4 ⟨address, port⟩) handler
  | .v6 address :: _ => Std.Http.Server.serve (.v6 ⟨address, port⟩) handler
  | [] => throw (.userError "failed to lookup address information")

/-- Loads the dataset in the background and answers requests. -/
def serve (server : Http.Server) (dataFile : String) : IO Unit := do
  let slot ← IO.mkRef Slot.empty
  let _ ← IO.asTask do
    let found ← findPath dataFile
    let time ← now
    slot.modify fun slot => slot.load time (fun _ => found) dataFile
  let handler := Std.Http.Server.Handler.ofFn fun request => do
    let body : ByteArray ← request.body.readAll
    responseOf (server.respond (← slot.get) (requestOf request.line body))
  Async.block do
    let listener ← listen server.config.host (.ofNat server.config.port) handler
    listener.waitShutdown

/-! ### Outcomes -/

/-- Stops with an error. -/
def fail (e : CommandError) : IO UInt32 := do
  IO.eprintln e.line
  return 1

/-- Prints what a command comes to: the exit status. -/
def finish : Outcome → IO UInt32
  | .printed text => do
    IO.print text
    return 0
  | .failed e => fail e
  | .refused e => do
    IO.eprintln e.message
    return 101
  | .serving server dataFile => do
    try
      serve server dataFile
      return 0
    catch e => fail (.cannotListen (fileErrorOf e).message)

/-- Says what is wrong with the arguments: the exit status. -/
def explainUsage (usage : Usage) : IO UInt32 := do
  let lines := "usage: gridquery <command> [--config <file>] [<question>]\n" ++
    "commands: " ++ ", ".intercalate Command.names
  match usage with
  | .help => IO.println lines
  | .version => IO.println "gridquery 0.1.0"
  | _ => IO.eprintln (usage.name ++ "\n" ++ lines)
  return usage.exitStatus.toUInt32

end Program

end Gridlines

open Gridlines in
/-- The program. -/
def main (args : List String) : IO UInt32 := do
  match Command.ofArgs args with
  | .ok command => Program.finish (command.run (← Program.worldOf command))
  | .error usage => Program.explainUsage usage
