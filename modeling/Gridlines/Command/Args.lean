import Gridlines.Command.Config

/-!
# The command line

Four commands: `serve`, `query`, `explain` and `info`.  Arguments are taken from left to right; the
value of an option is settled when the next argument that counts is met, so an unknown argument
after it is reported first.

* `Command.ofArgs` : the command of a list of arguments, or why there is none.
-/

namespace Gridlines

/-- A command. -/
inductive Command where
  /-- Answers questions over HTTP. -/
  | serve (config : String)
  /-- Answers one question. -/
  | query (config text : String)
  /-- Explains how a question is understood. -/
  | explain (text : String)
  /-- Gives the summary of the dataset. -/
  | info (config : String)
  deriving DecidableEq

/-- Why arguments are no command; the first two ask for something else. -/
inductive Usage where
  | help
  | version
  /-- There is no argument. -/
  | noCommand
  | unknownCommand
  | unknownArgument
  | missingArgument
  /-- An option has no value or an empty one. -/
  | invalidValue
  /-- An option without a value is given one. -/
  | excessValue
  /-- An option is given twice. -/
  | conflict
  deriving DecidableEq

namespace Usage

/-- The name of the case. -/
def name : Usage → String
  | help => "DisplayHelp"
  | version => "DisplayVersion"
  | noCommand => "DisplayHelpOnMissingArgumentOrSubcommand"
  | unknownCommand => "InvalidSubcommand"
  | unknownArgument => "UnknownArgument"
  | missingArgument => "MissingRequiredArgument"
  | invalidValue => "InvalidValue"
  | excessValue => "TooManyValues"
  | conflict => "ArgumentConflict"

/-- The exit status. -/
def exitStatus : Usage → Nat
  | help | version => 0
  | _ => 2

end Usage

namespace Command

/-! ### Arguments of one command -/

/-- What an argument is, by its form. -/
inductive ArgForm where
  /-- Two hyphens: only values follow. -/
  | separator
  /-- A long option, with a value if there is an equals sign. -/
  | long (name : String) (value : Option String)
  /-- Short options, named by letters. -/
  | short (letter : Char)
  /-- A value. -/
  | plain (text : String)

/-- The form of an argument; a single hyphen is a value. -/
def ArgForm.of (arg : String) : ArgForm :=
  match arg.toList with
  | ['-', '-'] => separator
  | '-' :: '-' :: cs =>
    match cs.dropWhile (· ≠ '=') with
    | [] => long (.ofList cs) none
    | _ :: value => long (.ofList (cs.takeWhile (· ≠ '='))) (some (.ofList value))
  | '-' :: c :: _ => short c
  | _ => plain arg

/-- An option whose value is not settled yet. -/
inductive Pending where
  | none
  /-- The option has been named. -/
  | named
  /-- The option has been given a value. -/
  | given (value : String)

/-- What has been read of a command's arguments. -/
structure Reading where
  config : Option String := .none
  text : Option String := .none
  pending : Pending := .none
  /-- Whether only values follow. -/
  onlyValues : Bool := false

/-- Which arguments a command has. -/
structure Accepts where
  config : Bool
  text : Bool

namespace Reading

/-- Gives the option a value. -/
def setConfig (r : Reading) (value : String) : Except Usage Reading :=
  if r.config.isSome then .error .conflict
  else if value = "" then .error .invalidValue
  else .ok { r with config := some value, pending := .none }

/-- Settles the option that is pending. -/
def settle (r : Reading) : Except Usage Reading :=
  match r.pending with
  | .none => .ok r
  | .named => .error .invalidValue
  | .given value => setConfig r value

/-- Reads a value. -/
def takeValue (accepts : Accepts) (r : Reading) (text : String) : Except Usage Reading :=
  match r.pending, r.onlyValues with
  | .named, false => .ok { r with pending := .given text }
  | _, _ =>
    if accepts.text ∧ r.text.isNone then r.settle.map fun r => { r with text := some text }
    else .error .unknownArgument

/-- Reads an argument. -/
def take (accepts : Accepts) (r : Reading) (arg : String) : Except Usage Reading :=
  if r.onlyValues then takeValue accepts r arg
  else
    match ArgForm.of arg with
    | .separator => .ok { r with onlyValues := true }
    | .long "help" none => do
      let _ ← r.settle
      throw .help
    | .long "help" (some _) => .error .excessValue
    | .long "config" none =>
      if accepts.config then r.settle.map fun r => { r with pending := .named }
      else .error .unknownArgument
    | .long "config" (some value) =>
      if accepts.config then r.settle >>= fun r => r.setConfig value
      else .error .unknownArgument
    | .long _ _ => .error .unknownArgument
    | .short 'h' => do
      let _ ← r.settle
      throw .help
    | .short _ => .error .unknownArgument
    | .plain text => takeValue accepts r text

/-- Reads all arguments. -/
def takeAll (accepts : Accepts) (args : List String) : Except Usage Reading := do
  let r ← args.foldlM (take accepts) {}
  r.settle

/-- The path of the settings. -/
def configPath (r : Reading) : String := r.config.getD Config.defaultPath

/-- The question, which has to be there. -/
def needText (r : Reading) : Except Usage String :=
  match r.text with
  | some text => .ok text
  | none => .error .missingArgument

end Reading

/-! ### Commands -/

/-- The names of the commands. -/
def names : List String := ["serve", "query", "explain", "info"]

/-- The command of a name with its arguments. -/
def ofName (name : String) (args : List String) : Except Usage Command :=
  if name = "serve" then do
    let r ← Reading.takeAll ⟨true, false⟩ args
    return serve r.configPath
  else if name = "query" then do
    let r ← Reading.takeAll ⟨true, true⟩ args
    return query r.configPath (← r.needText)
  else if name = "explain" then do
    let r ← Reading.takeAll ⟨false, true⟩ args
    return explain (← r.needText)
  else if name = "info" then do
    let r ← Reading.takeAll ⟨true, false⟩ args
    return info r.configPath
  else .error .unknownCommand

/-- What asking for help on some names gives: help itself, or help on one command or on `help`. -/
def helpOn : List String → Usage
  | [] => .help
  | [name] => if name ∈ "help" :: names then .help else .unknownCommand
  | _ => .unknownCommand

/-- The command of the arguments after a separator, where no command may stand. -/
def afterSeparator : List String → Usage
  | [] => .noCommand
  | arg :: _ => if arg ∈ "help" :: names then .unknownArgument else .unknownCommand

/-- The command of a list of arguments. -/
def ofArgs : List String → Except Usage Command
  | [] => .error .noCommand
  | arg :: args =>
    match ArgForm.of arg with
    | .separator => .error (afterSeparator args)
    | .long "help" none | .short 'h' => .error .help
    | .long "version" none | .short 'V' => .error .version
    | .long name value =>
      .error (if value.isSome ∧ (name = "help" ∨ name = "version") then .excessValue
        else .unknownArgument)
    | .short _ => .error .unknownArgument
    | .plain name => if name = "help" then .error (helpOn args) else ofName name args

end Command

end Gridlines
