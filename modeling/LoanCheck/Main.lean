import LoanCheck.Cli.Run

/-!
# The program

Reads the files that the arguments may mean, runs, writes what was printed and logged, and saves the files that
were written. No C parser is linked in, so source files count as not parsable; the clock stands still, and
no viewers are started.
-/

namespace LoanCheck.Program

/-- Paths that an argument may mean: the argument itself, what stands behind `=`, and the configuration file
in a directory of that name. -/
def pathsOf (arg : String) : List String :=
  let texts := arg :: (Cli.cutEquals arg.toList).2.toList.map String.ofList
  texts.flatMap fun t => [t, t ++ "/" ++ Config.fileName]

/-- All paths that a run may read. -/
def paths (args : List String) : List String :=
  Config.fileName :: args.flatMap pathsOf

/-- A path of the system as components. -/
def placeOf (path : String) : Files.Place := (Files.Path.ofString path).place []

/-- The files of some paths that can be read. -/
def readTree (directory : String) (paths : List String) : IO Files.Tree := do
  let mut tree : Files.Tree := { workingDirectory := placeOf directory }
  for path in paths do
    let place := (Files.Path.ofString path).place tree.workingDirectory
    if (tree.find? place).isNone then
      try
        let bytes ← IO.FS.readBinFile path
        tree := tree.put place bytes
      catch _ => pure ()
  return tree

/-- The session of a run. -/
def session (files : Files.Tree) (directory : String) (home clangArgs : Option String) : Session where
  environment :=
    { workingDirectory := directory
      clangArgs
      parse := fun _ _ => .error "no C parser is linked in"
      homes := home.toList.map fun path => ("", placeOf path) }
  files := files
  clock := ⟨fun _ => 0.0, 0⟩

/-- Saves the files that a run has written. -/
def saveTree (before after : Files.Tree) : IO Unit := do
  for (place, bytes) in after.entries do
    if (before.find? place).all (·.data != bytes.data) then
      IO.FS.createDirAll (Files.Place.render place.dropLast)
      IO.FS.writeBinFile (Files.Place.render place) bytes

end LoanCheck.Program

def main (args : List String) : IO UInt32 := do
  let directory := (← IO.currentDir).toString
  let files ← LoanCheck.Program.readTree directory (LoanCheck.Program.paths args)
  let home ← IO.getEnv "HOME"
  let clangArgs ← IO.getEnv "POLITE_C_CLANG_ARGS"
  let s := LoanCheck.Program.session files directory home clangArgs
  let (out, after) := LoanCheck.Cli.run args s
  IO.print out.printed
  IO.eprint out.log
  LoanCheck.Program.saveTree files after.files
  return out.exit.toUInt32
