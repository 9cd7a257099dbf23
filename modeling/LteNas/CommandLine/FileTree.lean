namespace LteNas

/-!
# Files by path

A path leads from a directory to a file, one name after the other.  This module
says which file a path leads to in a tree of directories, and why another path
leads to none.
-/

namespace CommandLine

/-- Why a file cannot be read. -/
inductive FileFault where
  | missing
  | denied
  | notDirectory
  | isDirectory
  | nameTooLong
  | other (message : String)
  deriving Repr, DecidableEq

def FileFault.message : FileFault → String
  | .missing => "No such file or directory (os error 2)"
  | .denied => "Permission denied (os error 13)"
  | .notDirectory => "Not a directory (os error 20)"
  | .isDirectory => "Is a directory (os error 21)"
  | .nameTooLong => "File name too long (os error 36)"
  | .other message => message

/-- The content of each file, or why it cannot be read. -/
abbrev Files := String → Except FileFault String

/-- A file with its text, or a directory with its entries by name. -/
inductive FileTree where
  | file (text : String)
  | directory (entries : List (String × FileTree))
  deriving Repr

namespace FileTree

/-- The directory with nothing in it. -/
def empty : FileTree :=
  .directory []

/-- The entries of a directory; a file has none. -/
def entries : FileTree → List (String × FileTree)
  | .file _ => []
  | .directory entries => entries

/-- The names of a path, where a slash ends each but the last. -/
def names (path : String) : List String :=
  path.splitOn "/"

/-- The tree with a file at the end of names, in directories that are made where they lack. -/
def insertAt (tree : FileTree) (text : String) : (names : List String) → FileTree
  | [] =>
      .file text
  | name :: names =>
      let inner := (tree.entries.lookup name).getD empty
      .directory ((name, inner.insertAt text names) :: tree.entries.filter (·.1 != name))

def insert (tree : FileTree) (path text : String) : FileTree :=
  tree.insertAt text ((names path).filter fun name => name != "" && name != ".")

end FileTree

/-! ## Walks -/

/-- A place in a tree, with the directories around it, innermost first. -/
structure FilePlace where
  enclosing : List FileTree
  here : FileTree
  deriving Repr

namespace FilePlace

/-- The outermost directory of a tree. -/
def root (tree : FileTree) : FilePlace :=
  ⟨[], tree⟩

/-- The directory around a place; nothing is around the outermost one. -/
def leave (place : FilePlace) : FilePlace :=
  match place.enclosing with
  | [] => place
  | outer :: enclosing => ⟨enclosing, outer⟩

/-- The most octets of a name. -/
def longestName : Nat :=
  255

/-- The entry of a directory. -/
def enter (place : FilePlace) (name : String) : Except FileFault FilePlace :=
  if name.utf8ByteSize > longestName then
    .error .nameTooLong
  else
    match place.here.entries.lookup name with
    | some inner => .ok ⟨place.here :: place.enclosing, inner⟩
    | none => .error .missing

/-- Follow a name.  No name at all and a dot stay in a directory, two dots leave it. -/
def step (place : FilePlace) (name : String) : Except FileFault FilePlace :=
  match place.here with
  | .file _ =>
      .error .notDirectory
  | .directory _ =>
      if name == "" || name == "." then .ok place
      else if name == ".." then .ok place.leave
      else place.enter name

/-- Follow names one after the other. -/
def walk (place : FilePlace) (names : List String) : Except FileFault FilePlace :=
  names.foldlM step place

def read (place : FilePlace) : Except FileFault String :=
  match place.here with
  | .file text => .ok text
  | .directory _ => .error .isDirectory

/-- A path has fewer octets than this. -/
def pathLimit : Nat :=
  4096

/-- The file that a path leads to from a place; a path with a slash in front starts outermost. -/
def files (place : FilePlace) : Files := fun path =>
  if path.isEmpty then
    .error .missing
  else if path.utf8ByteSize ≥ pathLimit then
    .error .nameTooLong
  else do
    let start := if path.startsWith "/" then root (place.enclosing.getLastD place.here) else place
    (← start.walk (FileTree.names path)).read

end FilePlace

end CommandLine

end LteNas
