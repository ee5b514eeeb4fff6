import LoanCheck.Config.Settings
import LoanCheck.Toml.Reader

/-!
# Configuration files

A configuration is read from the file the user names, or from the file of the fixed name in the directory
the user names. Without a name the working directory is looked at, and no file there means the defaults.
-/

namespace LoanCheck

namespace Config

/-- Name of configuration files. -/
def fileName : String := "polite-c.toml"

/-- Reads the configuration of a file. `shown` is its path in messages. -/
def ofFile (files : Files.Tree) (path shown : String) : Noted ConfigFault Config :=
  match files.read path with
  | .error fault => ⟨[], .error (.path fault)⟩
  | .ok bytes =>
    match Text.decode bytes.toList with
    | .error fault => ⟨[], .error (.encoding fault)⟩
    | .ok text =>
      match Toml.parse text with
      | .error fault => ⟨[], .error (.toml shown fault)⟩
      | .ok tables =>
        let read := ofTables shown tables
        ⟨⟨.debug, .config, "Loaded configuration from " ++ shown⟩ :: read.journal, read.outcome⟩

/-- Loads the configuration of a path. A missing file is a fault, and so is a path that no file can have. -/
def loadPath (files : Files.Tree) (path : Files.Path) : Noted ConfigFault Config :=
  let p := if files.isDirectory path.toString then path.child fileName else path
  match (files.lengthFault? path.toString).or (files.lengthFault? p.toString) with
  | some fault => ⟨[], .error (.path (.file fault))⟩
  | none =>
    if files.isFile p.toString then ofFile files p.toString p.toString
    else ⟨[], .error (.notFound p.toString)⟩

/-- Loads a configuration; `workingDirectory` is how messages name the working directory. -/
def load (files : Files.Tree) (workingDirectory : String) : Option String → Noted ConfigFault Config
  | some path => loadPath files (Files.Path.ofString path)
  | none =>
    if files.isFile fileName then ofFile files fileName (workingDirectory ++ "/" ++ fileName)
    else ⟨[], .ok {}⟩

end Config

end LoanCheck
