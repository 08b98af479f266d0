import Gridlines.Files
import Gridlines.SortedMap

/-!
# Trees of files

A working directory with everything in it, and how paths are followed through it.  Each name of a
path has to stand in a directory; empty names and `.` stay where they are, and `..` goes back.
Outside the working directory there are only empty directories.

* `pathNames` : the names of a path.
* `FileTree.ofList` : the tree of a list of paths and contents.
* `FileTree.read` : what is found at a path.
-/

namespace Gridlines

/-- The parts of a text between slashes. -/
def slashParts : List Char → List (List Char)
  | [] => [[]]
  | c :: cs =>
    if c = '/' then [] :: slashParts cs
    else match slashParts cs with
      | part :: parts => (c :: part) :: parts
      | [] => [[c]]

/-- The names of a path, empty ones included. -/
def pathNames (path : String) : List String := (slashParts path.toList).map .ofList

/-- A file or a directory. -/
inductive FileTree where
  | file (content : Content)
  | directory (entries : List (String × FileTree))

namespace FileTree

/-- The empty directory. -/
def empty : FileTree := directory []

instance : Inhabited FileTree := ⟨empty⟩

/-- The entries of a directory; a file has none. -/
def entries : FileTree → List (String × FileTree)
  | file _ => []
  | directory es => es

/-- Puts a leaf at the end of a path of names, with the directories on the way. -/
def put (leaf : FileTree) : List String → FileTree → FileTree
  | [], _ => leaf
  | name :: names, tree =>
    let below := (tree.entries.lookup name).getD empty
    directory (insertEntry name (put leaf names below) tree.entries)

/-- The names of a path that move to another place. -/
def movingNames (path : String) : List String :=
  (pathNames path).filter fun name => name ≠ "" ∧ name ≠ "."

/-- The tree of a list of paths with contents; a path that ends in a slash is a directory. -/
def ofList (files : List (String × Content)) : FileTree :=
  files.foldl (fun tree (path, content) =>
    let leaf := if path.toList.getLast? = some '/' then empty else file content
    put leaf (movingNames path) tree) empty

/-- Follows names from a place, with the places that lead to it. -/
def follow : List FileTree → FileTree → List String → Except PathError FileTree
  | _, tree, [] => .ok tree
  | _, file _, _ :: _ => .error .notDirectory
  | above, directory es, name :: names =>
    if 255 < name.utf8ByteSize then .error .tooLong
    else if name = "" ∨ name = "." then follow above (directory es) names
    else if name = ".." then
      match above with
      | tree :: above => follow above tree names
      | [] => follow [] empty names
    else
      match es.lookup name with
      | some tree => follow (directory es :: above) tree names
      | none => .error .notFound

/-- The place where a path starts: a leading slash leads outside. -/
def start (tree : FileTree) (path : String) : FileTree :=
  if path.toList.head? = some '/' then empty else tree

/-- What is found at a path. -/
def read (tree : FileTree) (path : String) : Except PathError Entry :=
  if '\x00' ∈ path.toList then .error .nulInPath
  else if path = "" then .error .notFound
  else if 4096 ≤ path.utf8ByteSize then .error .tooLong
  else
    match follow [] (start tree path) (pathNames path) with
    | .ok (file content) => .ok (.file content)
    | .ok (directory _) => .ok .directory
    | .error e => .error e

end FileTree

end Gridlines
