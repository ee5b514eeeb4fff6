import LoanCheck.Files.Tree

/-!
# Writing files

A file is written at the place of a path, with the directories above it created where they are missing. A
path that starts with `~` starts at the home of a user. An attempt that fails leaves the directories that it
has created.
-/

namespace LoanCheck.Files

/-- Homes of users. The user without a name is the one who runs the program. -/
abbrev Homes := List (String × Place)

/-- The path with the home of a user in place of `~` and the user's name. -/
def Path.expandHome (homes : Homes) (p : Path) : Except PathFault Path :=
  match p.root.isEmpty, p.parts with
  | true, first :: rest =>
    match first.toList with
    | '~' :: user =>
      if hasNull first then .error .nullCharacter
      else
        match homes.lookup (String.ofList user) with
        | some home => .ok ⟨"/", home ++ rest⟩
        | none => .error .noHome
    | _ => .ok p
  | _, _ => .ok p

/-- A place that is refused. -/
structure Refusal where
  problem : FileProblem
  place : Place
deriving DecidableEq, Repr

/-- The files after an attempt to change them, and what stopped it, if anything did. -/
structure Attempt where
  tree : Tree
  refusal : Option Refusal := none

namespace Tree

/-- What the system finds at a place. -/
def locate (t : Tree) (place : Place) : Except FileProblem Spot :=
  if maxPathLength < place.render.utf8ByteSize then .error .nameTooLong
  else place.foldlM t.walk (.directory [])

/-- Lists a directory, in the stead of the one above it, which exists because of it. -/
def addDirectory (t : Tree) (place : Place) : Tree :=
  { t with directories := place :: t.directories.filter (· ≠ place.dropLast) }

/-- Creates one directory, in a directory that exists. -/
def createDirectory (t : Tree) (place : Place) : Except FileProblem Tree :=
  match t.locate place with
  | .ok _ => .error .alreadyExists
  | .error .notFound =>
    if t.hasDirectory place.dropLast then .ok (t.addDirectory place) else .error .notFound
  | .error problem => .error problem

/-- Takes over the creation of a directory. That it was there before is no reason to stop. -/
def settle (t : Tree) (place : Place) : Except FileProblem Tree → Attempt
  | .ok created => ⟨created, none⟩
  | .error problem => if t.hasDirectory place then ⟨t, none⟩ else ⟨t, some ⟨problem, place⟩⟩

/-- Makes sure that a directory exists, and those above it before it if they are missing. The place comes
with its last component first. -/
def ensureDirectory (t : Tree) : List String → Attempt
  | [] => ⟨t, none⟩
  | name :: above =>
    let place : Place := (name :: above).reverse
    match t.createDirectory place with
    | .error .notFound =>
      let attempt := t.ensureDirectory above
      match attempt.refusal with
      | some _ => attempt
      | none => attempt.tree.settle place (attempt.tree.createDirectory place)
    | result => t.settle place result

/-- Puts bytes at a place whose directory exists. -/
def fill (t : Tree) (place : Place) (content : ByteArray) : Attempt :=
  match t.locate place with
  | .ok (.directory _) => ⟨t, some ⟨.isDirectory, place⟩⟩
  | .ok .sink => ⟨t, none⟩
  | .ok (.file _) | .error .notFound => ⟨t.put place content, none⟩
  | .error problem => ⟨t, some ⟨problem, place⟩⟩

/-- Puts bytes at a place. -/
def writeAt (t : Tree) (place : Place) (content : ByteArray) : Attempt :=
  let attempt := t.ensureDirectory place.dropLast.reverse
  match attempt.refusal with
  | some _ => attempt
  | none => attempt.tree.fill place content

/-- A place as messages show it. `name` stands for the working directory. -/
def shownPlace (t : Tree) (name : String) (place : Place) : String :=
  if t.workingDirectory.isPrefixOf place then
    "/".intercalate (name :: place.drop t.workingDirectory.length)
  else place.render

/-- The place where a path text asks for a file to be written. -/
def outputPlace (t : Tree) (homes : Homes) (path : String) : Except PathFault Place := do
  let p ← (Path.ofString path).expandHome homes
  if p.parts.any hasNull then .error .nullCharacter
  else .ok (p.place t.workingDirectory)

end Tree

end LoanCheck.Files
