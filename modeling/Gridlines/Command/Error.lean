import Gridlines.Answer.Response

/-!
# Errors of the commands

What can stop a command, in five kinds, each with a code and with words that say what happened.
-/

namespace Gridlines

/-- What stops a command, with the words for it. -/
inductive CommandError where
  /-- The settings cannot be used. -/
  | config (words : String)
  /-- Something cannot be written or read. -/
  | io (words : String)
  /-- The dataset cannot be loaded. -/
  | dataset (words : String)
  /-- The question cannot be answered. -/
  | query (words : String)
  /-- The service cannot be started. -/
  | boot (words : String)
  deriving DecidableEq

namespace CommandError

/-- The code of the error. -/
def code : CommandError → String
  | config _ => "GRID_CLI_CONFIG_ERROR"
  | io _ => "GRID_CLI_IO_ERROR"
  | dataset _ => "GRID_CLI_DATASET_ERROR"
  | query _ => "GRID_CLI_QUERY_FAILED"
  | boot _ => "GRID_CLI_BOOT_FAILED"

/-- The words for the error. -/
def message : CommandError → String
  | config words | io words | dataset words | query words | boot words => words

/-- The error on one line. -/
def line (e : CommandError) : String := e.code ++ ": " ++ e.message

/-- A value that cannot be read or written as JSON. -/
def ofFault (f : Json.Fault) : CommandError := io ("JSON error: " ++ f.message)

/-- A dataset that cannot be loaded. -/
def ofLoadError (e : Dataset.LoadError) : CommandError := dataset e.message

/-- A question without a dataset. -/
def ofUnavailable (e : Unavailable) : CommandError := query e.line

/-- An address that cannot be listened at. -/
def cannotListen (words : String) : CommandError := boot ("HTTP server failed: " ++ words)

end CommandError

end Gridlines
