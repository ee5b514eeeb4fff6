import LoanCheck.Diagnostic.Render
import LoanCheck.Files.Tree
import LoanCheck.Journal
import LoanCheck.Text.Lines
import LoanCheck.Text.Utf8

/-!
# Source lines for diagnostics

Rendering asks for the lines of source files. They are read on demand, and the files asked for last are
remembered, those that could not be read included. Bytes that are no text become replacement characters. A path
that cannot be asked about at all, a place too wide to be drawn, or a marker without a place ends the rendering.
-/

namespace LoanCheck

/-- The files asked for last, the very last one first. -/
structure SourceMemory where
  entries : List (String × Option (List String)) := []

namespace SourceMemory

/-- How many files are remembered. -/
def capacity : Nat := 32

/-- The lines of a file, read afresh. A file that the system refuses is noted and has none. -/
def readLines (files : Files.Tree) (path : String) :
    Noted Files.PathFault (Option (List String)) :=
  match files.read path with
  | .error (.file fault) =>
    ⟨[⟨.debug, .diagnostics, s!"Cannot read {path} for snippet: {fault.message}"⟩], .ok none⟩
  | .error fault => ⟨[], .error fault⟩
  | .ok bytes =>
    let text := Text.unifyNewlines (Text.decodeLenient bytes.toList)
    ⟨[], .ok (some (Text.lines (String.ofList text)))⟩

/-- Puts a file at the front. -/
def remember (m : SourceMemory) (path : String) (lines : Option (List String)) : SourceMemory :=
  ⟨((path, lines) :: m.entries.filter (·.1 ≠ path)).take capacity⟩

/-- Asks for a file. -/
def ask (files : Files.Tree) (m : SourceMemory) (path : String) : Noted Files.PathFault SourceMemory :=
  match m.entries.lookup path with
  | some lines => ⟨[], .ok (m.remember path lines)⟩
  | none =>
    let read := readLines files path
    ⟨read.journal, read.outcome.map (m.remember path)⟩

end SourceMemory

/-- Why diagnostics cannot be rendered. -/
inductive RenderFault where
  | path (fault : Files.PathFault)
  | length (fault : LengthFault)
  /-- A marker has no place. -/
  | lostMarker
deriving DecidableEq, Repr

def RenderFault.message : RenderFault → String
  | path fault => fault.message
  | length fault => fault.message
  | lostMarker => "'NoneType' object has no attribute 'line'"

/-- A rendering, with the source files remembered after it. -/
structure Rendering where
  memory : SourceMemory
  text : Noted RenderFault String

/-- What is known after asking for the lines of several places in turn, up to the first fault. -/
structure Gathered where
  memory : SourceMemory
  journal : Journal := []
  /-- Lines of the files asked for. -/
  lines : List (String × Option (List String)) := []
  fault : Option RenderFault := none

namespace Gathered

/-- The lines of a file that was asked for. -/
def sources (g : Gathered) : SourceLines := fun path => (g.lines.lookup path).join

/-- Asks for the lines of one more place, and whether it can be drawn. -/
def ask (files : Files.Tree) (room : Option Nat) (g : Gathered) (s : SourceSpan) : Gathered :=
  if g.fault.isSome then g
  else
    let asked := g.memory.ask files s.file
    let journal := g.journal ++ asked.journal
    match asked.outcome with
    | .error fault => { g with journal, fault := some (.path fault) }
    | .ok memory =>
      let lines := g.lines ++ [(s.file, (memory.entries.lookup s.file).join)]
      let known : Gathered := { memory, journal, lines }
      if (Diagnostic.sourceLine? known.sources s).isSome then
        { known with fault := (Diagnostic.underlineFault? room s).map .length }
      else known

/-- Asks for the lines of all places of one more diagnostic. Its markers are looked at first. -/
def askAll (files : Files.Tree) (room : Option Nat) (g : Gathered) (d : Diagnostic) : Gathered :=
  if g.fault.isSome then g
  else if d.hasLostMarker then { g with fault := some .lostMarker }
  else d.snippetPlaces.foldl (ask files room) g

end Gathered

/-- Renders a batch of diagnostics over a file tree. No line is drawn that there is no room for. -/
def Diagnostic.renderOver (files : Files.Tree) (room : Option Nat) (memory : SourceMemory) (format : OutputFormat)
    (ds : List Diagnostic) : Rendering :=
  match format with
  | .json => ⟨memory, [], .ok (renderAll (fun _ => none) .json ds)⟩
  | .text =>
    let gathered := ds.foldl (Gathered.askAll files room) { memory }
    let text := match gathered.fault with
      | some fault => .error fault
      | none => .ok (renderAll gathered.sources .text ds)
    ⟨gathered.memory, gathered.journal, text⟩

end LoanCheck
