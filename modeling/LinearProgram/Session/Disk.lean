/-
**A directory of files.**

Files stand in one directory and have plain names. A path is the directory with a name behind it;
reading what is not there and writing anywhere else fails.

* `Disk.pathOf`: the path of a name.
* `Disk.read?`, `Disk.write?`: the contents of files by path.
-/

namespace LinearProgram

/-- The contents of files by name. -/
structure Disk where
  files : List (String × List UInt8) := []
  deriving Repr, Inhabited

namespace Disk

/-- The directory that holds the files. -/
def directory : String := "/scratch/"

/-- The path of a file. -/
def pathOf (name : String) : String :=
  directory ++ name

/-- The part of a path behind the directory. -/
def name? (path : String) : Option String :=
  let steps := path.toList
  if directory.toList.isPrefixOf steps then some (String.ofList (steps.drop directory.length))
  else none

/-- Whether a file can have the name: it is neither empty nor a directory, and leads into none. -/
def isFileName (name : String) : Bool :=
  !(name == "" || name == "." || name == ".." || name.toList.contains '/')

/-- The contents of the file at a path. -/
def read? (disk : Disk) (path : String) : Option (List UInt8) :=
  (name? path).bind fun name => disk.files.lookup name

/-- Puts contents into the file at a path, which may be new. -/
def write? (disk : Disk) (path : String) (contents : List UInt8) : Option Disk :=
  match (name? path).filter isFileName with
  | none => none
  | some name =>
    some ⟨(name, contents) :: disk.files.filter fun file => file.1 != name⟩

end Disk

end LinearProgram
