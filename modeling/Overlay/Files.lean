import Overlay.Failure

namespace Overlay

/-- What is at a path. A directory can be opened, as a file that is unreadable
can, but every attempt to read from them fails. A locked file is there and
cannot even be opened. With a fault nothing can be found out about the path. -/
inductive FileStatus where
  | missing
  | directory
  | file (content : ByteArray)
  | unreadable (fault : FileFault)
  | locked (fault : FileFault)
  | fault (fault : FileFault)
  deriving Inhabited

/-- Whether the path can be opened and then nothing read from it. -/
def FileStatus.defiesReading : FileStatus → Bool
  | .directory | .unreadable _ => true
  | _ => false

/-- A file system as far as loading sees it: the status of every path. -/
abbrev Files := String → FileStatus

def Files.readText (files : Files) (path : String) : Except Failure String :=
  match files path with
  | .missing => .error (.fileNotFound path)
  | .directory => .error (.unreadableFile path .isDirectory)
  | .unreadable fault | .locked fault | .fault fault => .error (.unreadableFile path fault)
  | .file content =>
    match String.fromUTF8? content with
    | some text => .ok text
    | none => .error (.unreadableFile path .invalidText)

/-- The regular files and the directories below a working directory, by the
names on the way to them. -/
structure FileTree where
  files : List (List String × ByteArray)
  directories : List (List String)

namespace FileTree

def components (path : String) : List String :=
  (path.splitOn "/").filter fun name => name ≠ "" ∧ name ≠ "."

def addFile (tree : FileTree) (path : String) (content : ByteArray) : FileTree :=
  { tree with files := (components path, content) :: tree.files }

/-- The directories above it come with it. -/
def addDirectory (tree : FileTree) (path : String) : FileTree :=
  { tree with directories := components path :: tree.directories }

def statusAt (tree : FileTree) (place : List String) : FileStatus :=
  match tree.files.find? fun file => file.1 = place with
  | some file => .file file.2
  | none =>
    if place = [] ∨ tree.directories.any (List.isPrefixOf place) ∨
        tree.files.any (fun file => place.isPrefixOf file.1) then .directory
    else .missing

/-- The places a walk can be at: outside of the tree nothing is known but that
the directories above the working directory exist. -/
inductive Place where
  | inside (names : List String)
  | above (levels : Nat)
  | root

def Place.status (tree : FileTree) : Place → FileStatus
  | .inside names => tree.statusAt names
  | .above _ | .root => .directory

/-- The place reached by one name from a directory; nothing below the outside is
known. -/
def Place.step (place : Place) (name : String) : Option Place :=
  if name = "" ∨ name = "." then some place
  else if name = ".." then
    match place with
    | .inside [] => some (.above 1)
    | .inside names => some (.inside names.dropLast)
    | .above levels => some (.above (levels + 1))
    | .root => some .root
  else
    match place with
    | .inside names => some (.inside (names ++ [name]))
    | _ => none

/-- Walks along the names of a path; only a directory can be passed through. -/
def walk (tree : FileTree) (place : Place) : List String → FileStatus
  | [] => place.status tree
  | name :: rest =>
    match place.status tree with
    | .directory =>
      if 255 < name.utf8ByteSize then .fault .nameTooLong
      else
        match place.step name with
        | some next => walk tree next rest
        | none => .missing
    | .file _ => .fault .notDirectory
    | status => status

/-- The status of a path, as the rules of POSIX give it. -/
def status (tree : FileTree) (path : String) : FileStatus :=
  if path = "" then .missing
  else if path.toList.contains '\x00' then .fault .nulInPath
  else if 4096 ≤ path.utf8ByteSize then .fault .nameTooLong
  else if path.startsWith "/" then walk tree .root (path.splitOn "/")
  else walk tree (.inside []) (path.splitOn "/")

end FileTree

end Overlay
