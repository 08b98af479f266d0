import Gridlines.Text.Symbol

/-!
# Files

What is found at a path, and what reading it gives.  The rest of the library only sees a function
from paths to what is found there, `Files`.  A path at which nothing is found cannot be read, but
what is found may be unreadable all the same.

* `Files.isThere` : whether anything is found at a path.
* `Files.read`, `Files.readText` : the content of a file.
-/

namespace Gridlines

/-- Why nothing is found at a path.  Only `notFound` says that nothing is there. -/
inductive PathError where
  | notFound
  /-- A name that others follow is no directory. -/
  | notDirectory
  /-- The path, or a name in it, is too long. -/
  | tooLong
  /-- The path has a NUL character, which no name has. -/
  | nulInPath
  /-- The path cannot be followed to its end, with the words for why. -/
  | blocked (words : String)
  deriving DecidableEq

/-- What is found at a path. -/
inductive Entry where
  | file (content : Content)
  | directory
  /-- What is there cannot be read, with the words for why. -/
  | unreadable (words : String)
  deriving DecidableEq

/-- What is found at each path. -/
abbrev Files := String → Except PathError Entry

/-- Why a path cannot be read. -/
inductive FileError where
  | path (e : PathError)
  | isDirectory
  | unreadable (words : String)
  deriving DecidableEq

/-- Why a path cannot be read as text. -/
inductive TextFileError where
  | file (e : FileError)
  | illFormed
  deriving DecidableEq

/-- The words for a path error. -/
def PathError.message : PathError → String
  | notFound => "No such file or directory (os error 2)"
  | notDirectory => "Not a directory (os error 20)"
  | tooLong => "File name too long (os error 36)"
  | nulInPath => "file name contained an unexpected NUL byte"
  | blocked words => words

/-- The words for a file error. -/
def FileError.message : FileError → String
  | path e => e.message
  | isDirectory => "Is a directory (os error 21)"
  | unreadable words => words

/-- The words for a text file error. -/
def TextFileError.message : TextFileError → String
  | file e => e.message
  | illFormed => "stream did not contain valid UTF-8"

/-- The content of what is found. -/
def Entry.read : Entry → Except FileError Content
  | file content => .ok content
  | directory => .error .isDirectory
  | unreadable words => .error (.unreadable words)

namespace Files

/-- Whether anything is found at the path, readable or not. -/
def isThere (files : Files) (path : String) : Bool := (files path).isOk

/-- Reads a path. -/
def read (files : Files) (path : String) : Except FileError Content :=
  match files path with
  | .ok entry => entry.read
  | .error e => .error (.path e)

/-- Reads a path as text. -/
def readText (files : Files) (path : String) : Except TextFileError Content :=
  match files.read path with
  | .error e => .error (.file e)
  | .ok content => if (Symbol.text? content).isSome then .ok content else .error .illFormed

variable {files : Files} {path : String}

theorem isThere_eq_false_iff : files.isThere path = false ↔ ∃ e, files path = .error e := by
  unfold isThere
  cases files path with
  | ok entry => exact iff_of_false Bool.noConfusion (by rintro ⟨e, ⟨⟩⟩)
  | error e => exact iff_of_true rfl ⟨e, rfl⟩

theorem readText_of_error {e : PathError} (h : files path = .error e) :
    files.readText path = .error (.file (.path e)) := by
  rw [readText, read, h]

/-- Text is read from files alone. -/
theorem readText_eq_ok_iff {s : Content} :
    files.readText path = .ok s ↔ files path = .ok (.file s) ∧ (Symbol.text? s).isSome := by
  unfold readText read
  cases files path with
  | error e => exact iff_of_false (by rintro ⟨⟩) (by rintro ⟨⟨⟩, -⟩)
  | ok entry =>
    cases entry with
    | directory => exact iff_of_false (by rintro ⟨⟩) (by rintro ⟨⟨⟩, -⟩)
    | unreadable words => exact iff_of_false (by rintro ⟨⟩) (by rintro ⟨⟨⟩, -⟩)
    | file content =>
      simp only [Entry.read, Except.ok.injEq, Entry.file.injEq]
      by_cases htext : (Symbol.text? content).isSome
      · rw [if_pos htext, Except.ok.injEq]
        exact ⟨fun h => ⟨h, h ▸ htext⟩, And.left⟩
      · rw [if_neg htext]
        refine iff_of_false (by rintro ⟨⟩) ?_
        rintro ⟨rfl, hs⟩
        exact htext hs

end Files

end Gridlines
