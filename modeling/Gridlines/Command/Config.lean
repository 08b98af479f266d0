import Gridlines.Command.Error
import Gridlines.FileTree
import Gridlines.Http.Config

/-!
# Settings of the program

Which file holds the dataset, and the settings of the service.  The settings are read from a file;
only the file at the default path may be missing, and then every setting has its default.  That
file counts as missing whenever nothing is found at its path.

* `Config.load` : the settings of a file, once they are checked.
* `Config.resolve` : the same with the defaults for a missing default file.
-/

namespace Gridlines

/-- Settings of the program. -/
structure Config where
  dataFile : String := "Electric-Power-Transmission-Lines.geojson"
  http : Http.Config := {}
  deriving DecidableEq

namespace Config

/-- The written form. -/
def toJson (c : Config) : Json :=
  .object [("data_file", .string c.dataFile), ("http", c.http.toJson)]

/-- What has been read of the settings. -/
structure Draft where
  dataFile : Option String := none
  http : Option Http.Config := none

/-- The members of the settings; each of them may be missing. -/
def shape : Json.Shape Draft Config where
  name := "Config"
  start := {}
  members :=
    [⟨"data_file", true, fun d => d.dataFile.isSome,
        Json.Decoder.text.note fun x d => { d with dataFile := some x }⟩,
      ⟨"http", true, fun d => d.http.isSome,
        Http.Config.shape.decoder.note fun x d => { d with http := some x }⟩]
  finish d :=
    let c : Config := {}
    .ok ⟨d.dataFile.getD c.dataFile, d.http.getD c.http⟩

/-! ### Files of settings -/

/-- Why a file holds no settings. -/
inductive Error where
  | file (path : String) (e : TextFileError)
  | json (e : Json.ReadError)
  | blankDataFile
  | zeroPort

/-- The words for an error. -/
def Error.message : Error → String
  | file path e => "Failed to read config " ++ path ++ ": " ++ e.message
  | json e => "Invalid config JSON: " ++ e.fault.message
  | blankDataFile => "data_file must not be empty"
  | zeroPort => "http.port must be > 0"

/-- Makes sure that a data file is named and that the port is not zero. -/
def check (c : Config) : Except Error Config :=
  if (trimBlank c.dataFile.toList).isEmpty then .error .blankDataFile
  else if c.http.port.val = 0 then .error .zeroPort
  else .ok c

/-- The settings of a text. -/
def read (s : Content) : Except Error Config :=
  match shape.decoder.run s with
  | .ok c => c.check
  | .error e => .error (.json e)

/-- The settings of a file. -/
def load (files : Files) (path : String) : Except Error Config :=
  match files.readText path with
  | .ok s => read s
  | .error e => .error (.file path e)

/-! ### The default file -/

/-- The path of the default file. -/
def defaultPath : String := "./gridquery.json"

/-- The names of a path by which paths are compared: whether it starts at the root, and its names
without empty ones and without every `.` but a leading one. -/
def comparedNames (path : String) : Bool × List String :=
  match pathNames path with
  | "" :: [] => (false, [])
  | "" :: names => (true, names.filter fun name => name ≠ "" ∧ name ≠ ".")
  | name :: names => (false, name :: names.filter fun name => name ≠ "" ∧ name ≠ ".")
  | [] => (false, [])

/-- Whether a path names the default file. -/
def isDefaultPath (path : String) : Bool := comparedNames path = comparedNames defaultPath

/-- The settings of a file, or the defaults if it is the default file and nothing is found
there. -/
def resolve (files : Files) (path : String) : Except Error Config :=
  if isDefaultPath path ∧ !files.isThere path then .ok {} else load files path

end Config

end Gridlines
