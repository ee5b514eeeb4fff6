import LoanCheck.Text.Quoted

/-!
# Faults of files

What can go wrong with a file: the system refuses it for one of its numbered reasons, or its path is none that
the system could be asked about.
-/

namespace LoanCheck.Files

/-- Why a file cannot be used. -/
inductive FileProblem where
  | notFound
  | alreadyExists
  | notDirectory
  | isDirectory
  | nameTooLong
deriving DecidableEq, Repr

namespace FileProblem

def number : FileProblem → Nat
  | notFound => 2
  | alreadyExists => 17
  | notDirectory => 20
  | isDirectory => 21
  | nameTooLong => 36

def text : FileProblem → String
  | notFound => "No such file or directory"
  | alreadyExists => "File exists"
  | notDirectory => "Not a directory"
  | isDirectory => "Is a directory"
  | nameTooLong => "File name too long"

end FileProblem

/-- A problem with the file of a path. -/
structure FileFault where
  problem : FileProblem
  path : String
deriving DecidableEq, Repr

def FileFault.message (f : FileFault) : String :=
  s!"[Errno {f.problem.number}] {f.problem.text}: {Text.quoted f.path}"

/-- Why a path cannot be used. -/
inductive PathFault where
  /-- A null character, which ends paths and so stands in none. -/
  | nullCharacter
  /-- The home of a user that is not known. -/
  | noHome
  | file (fault : FileFault)
deriving DecidableEq, Repr

def PathFault.message : PathFault → String
  | nullCharacter => "embedded null byte"
  | noHome => "Could not determine home directory."
  | file fault => fault.message

end LoanCheck.Files
