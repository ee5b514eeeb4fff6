import LoanCheck.Files.Fault
import LoanCheck.Files.Path

/-!
# File trees

The files that a run can see, as a list of places with their bytes. A directory exists if it is listed, or if
something lies below it. Nothing else exists.
-/

namespace LoanCheck.Files

/-- Files and directories. -/
structure Tree where
  /-- Where relative paths start. -/
  workingDirectory : Place := []
  entries : List (Place × ByteArray) := []
  /-- Directories that need not have anything below them. -/
  directories : List Place := []
  /-- Devices that read as empty and drop what is written to them. -/
  sinks : List Place := []

/-- What a path leads to. -/
inductive Spot where
  | file (content : ByteArray)
  | sink
  | directory (place : Place)

/-- Longest name of a file, in bytes. -/
def maxNameLength : Nat := 255

/-- Longest path that the system takes, in bytes. -/
def maxPathLength : Nat := 4095

/-- A path with a null character. -/
def hasNull (path : String) : Bool := path.toList.contains '\x00'

namespace Tree

/-- The file at a place. -/
def find? (t : Tree) (place : Place) : Option ByteArray :=
  (t.entries.find? (·.1 == place)).map (·.2)

/-- There is a directory at a place. -/
def hasDirectory (t : Tree) (place : Place) : Bool :=
  let below (other : Place) : Bool := place.isPrefixOf other && place.length < other.length
  place.isPrefixOf t.workingDirectory || t.directories.any place.isPrefixOf ||
    t.entries.any (fun e => below e.1) || t.sinks.any below

/-- What is at a place. -/
def spotAt (t : Tree) (place : Place) : Except FileProblem Spot :=
  match t.find? place with
  | some content => .ok (.file content)
  | none =>
    if t.sinks.contains place then .ok .sink
    else if t.hasDirectory place then .ok (.directory place)
    else .error .notFound

/-- One component further. -/
def walk (t : Tree) (spot : Spot) (name : String) : Except FileProblem Spot :=
  match spot with
  | .file _ | .sink => .error .notDirectory
  | .directory place =>
    if name.isEmpty || name = "." then .ok spot
    else if name = ".." then .ok (.directory place.dropLast)
    else if maxNameLength < name.utf8ByteSize then .error .nameTooLong
    else t.spotAt (place ++ [name])

/-- What the system finds under a path text. -/
def resolve (t : Tree) (path : String) : Except FileProblem Spot :=
  if path.isEmpty || hasNull path then .error .notFound
  else if maxPathLength < path.utf8ByteSize then .error .nameTooLong
  else
    let start : Place := if path.startsWith "/" then [] else t.workingDirectory
    (splitSlashes path).foldlM t.walk (.directory start)

def isFile (t : Tree) (path : String) : Bool :=
  match t.resolve path with
  | .ok (.file _) => true
  | _ => false

def isDirectory (t : Tree) (path : String) : Bool :=
  match t.resolve path with
  | .ok (.directory _) => true
  | _ => false

/-- A path, or a name in it, is too long for the system to say whether there is a file. -/
def lengthFault? (t : Tree) (path : String) : Option FileFault :=
  match t.resolve path with
  | .error .nameTooLong => some ⟨.nameTooLong, path⟩
  | _ => none

/-- The bytes of the file of a path. -/
def read (t : Tree) (path : String) : Except PathFault ByteArray :=
  if hasNull path then .error .nullCharacter
  else
    match t.resolve path with
    | .ok (.file content) => .ok content
    | .ok .sink => .ok .empty
    | .ok (.directory _) => .error (.file ⟨.isDirectory, path⟩)
    | .error problem => .error (.file ⟨problem, path⟩)

/-- Puts bytes at a place. -/
def put (t : Tree) (place : Place) (content : ByteArray) : Tree :=
  if t.entries.any (·.1 == place) then
    { t with entries := t.entries.map fun e => if e.1 == place then (place, content) else e }
  else { t with entries := t.entries ++ [(place, content)] }

end Tree

end LoanCheck.Files
