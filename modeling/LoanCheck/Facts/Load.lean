import LoanCheck.Fault
import LoanCheck.Facts.Reader
import LoanCheck.Text.Lines

/-!
# Facts files
-/

namespace LoanCheck.Facts

/-- Reads the forms of a facts file. -/
def load (files : Files.Tree) (path : String) : Noted Fault (List FactSet) :=
  let shown := (Files.Path.ofString path).toString
  match files.read shown with
  | .error (.file fault) => ⟨[], .error (.facts (.unreadable shown fault))⟩
  | .error fault => ⟨[], .error (.path fault)⟩
  | .ok bytes =>
    match Text.decode bytes.toList with
    | .error fault => ⟨[], .error (.encoding fault)⟩
    | .ok text =>
      match parse (String.ofList (Text.unifyNewlines text)) shown with
      | .error fault => ⟨[], .error (.facts fault)⟩
      | .ok sets =>
        ⟨[⟨.info, .facts, s!"Loaded {sets.length} facts form(s) from {shown}"⟩], .ok sets⟩

end LoanCheck.Facts
