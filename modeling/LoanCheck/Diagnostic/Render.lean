import LoanCheck.Diagnostic.Basic
import LoanCheck.Text.Quoted

/-!
# Rendering diagnostics

As text, a diagnostic is a header, the place with the source line under it and the stretch underlined,
the marked places likewise, and the notes. Where the source line is not available only the header, the
place and the notes are shown. As JSON, a diagnostic is one object on one line.

The lines of source files come in as a function, so rendering itself reads no file. `snippetPlaces` lists the
places whose lines it asks for, in order, `underlineFault?` tells the places that are too wide to be drawn, and
`hasLostMarker` the diagnostics that have no text because a marker has lost its place.
-/

namespace LoanCheck

/-- Lines of a source file, if the file can be read. -/
abbrev SourceLines := String → Option (List String)

inductive OutputFormat where
  | text
  | json
deriving DecidableEq, Repr

namespace OutputFormat

def word : OutputFormat → String
  | text => "text"
  | json => "json"

def all : List OutputFormat := [text, json]

def ofWord? (word : String) : Option OutputFormat :=
  all.find? (·.word = word)

end OutputFormat

/-- Why a line cannot be drawn. -/
inductive LengthFault where
  /-- Its length is no machine integer. -/
  | uncountable
  /-- There is no room for it. -/
  | unaffordable
deriving DecidableEq, Repr

namespace LengthFault

/-- Longest text that can be counted. -/
def maxCount : Nat := 9223372036854775807

/-- What is wrong with a length, if there is room for texts up to some length. -/
def of? (room : Option Nat) (length : Nat) : Option LengthFault :=
  if maxCount < length then some uncountable
  else if room.any (· < length) then some unaffordable
  else none

def message : LengthFault → String
  | uncountable => "cannot fit 'int' into an index-sized integer"
  | unaffordable => ""

end LengthFault

/-- Spaces. -/
def blanks (n : Nat) : String := String.ofList (List.replicate n ' ')

namespace Diagnostic

/-- All places of a diagnostic, the main one first. -/
def locations (d : Diagnostic) : List SourceSpan :=
  d.location.toList ++ d.secondary.filterMap (·.location)

/-- Some marker has no place. -/
def hasLostMarker (d : Diagnostic) : Bool :=
  d.secondary.any (·.location.isNone)

/-- The places whose source lines the text of a diagnostic asks for, in order. -/
def snippetPlaces (d : Diagnostic) : List SourceSpan :=
  d.locations.filter (!·.file.isEmpty)

/-- Width of the widest line number. -/
def gutter (d : Diagnostic) : Nat :=
  (d.locations.map fun l => (toString l.line).length).foldl max 0

/-- The source line of a place, if the place names one that exists. -/
def sourceLine? (sources : SourceLines) (s : SourceSpan) : Option String :=
  if s.file.isEmpty || s.line < 1 then none
  else (sources s.file).bind fun lines => lines[(s.line - 1).toNat]?

/-- How many characters stand before the stretch of a place. -/
def indent (s : SourceSpan) : Nat := (max s.column 1 - 1).toNat

/-- How many characters the stretch of a place has. There is always one. -/
def width (s : SourceSpan) : Nat :=
  let start := max s.column 1
  if start < s.endColumn then (s.endColumn - start).toNat else 1

/-- The stretch of a place, underlined, and what is said about it. -/
def underline (s : SourceSpan) (mark : Char) (label : String) : String :=
  blanks (indent s) ++ String.ofList (List.replicate (width s) mark) ++
    (if label.isEmpty then "" else " " ++ label)

/-- What is wrong with drawing the line under the stretch of a place. -/
def underlineFault? (room : Option Nat) (s : SourceSpan) : Option LengthFault :=
  (LengthFault.of? room (indent s)).or (LengthFault.of? room (width s))

/-- The source line of a place with its stretch underlined; nothing without the line. -/
def snippet (sources : SourceLines) (s : SourceSpan) (mark : Char) (label : String)
    (gutter : Nat) : List String :=
  match sourceLine? sources s with
  | none => []
  | some text =>
    let number := toString s.line
    [blanks gutter ++ " |",
      blanks (gutter - number.length) ++ number ++ " | " ++ text,
      blanks gutter ++ " | " ++ underline s mark label]

/-- The place of a marker and its source line; nothing without the line. -/
def markerLines (sources : SourceLines) (gutter : Nat) (m : Marker) : List String :=
  match m.location with
  | none => []
  | some l =>
    match snippet sources l '-' m.label gutter with
    | [] => []
    | lines => (blanks gutter ++ "::: " ++ l.render) :: lines

/-- Source lines of the main place and of the marked places. -/
def body (sources : SourceLines) (d : Diagnostic) : List String :=
  let g := d.gutter
  let main := match d.location with
    | some l => snippet sources l '^' "" g
    | none => []
  main ++ d.secondary.flatMap (markerLines sources g)

/-- The lines of the text of a diagnostic. -/
def textLines (sources : SourceLines) (d : Diagnostic) : List String :=
  let pad := blanks d.gutter
  let body := d.body sources
  let place := match d.location with
    | some l => [pad ++ "--> " ++ l.render]
    | none => []
  let divider := if d.notes.isEmpty || body.isEmpty then [] else [pad ++ " |"]
  (d.severity.word ++ ": " ++ d.message) :: place ++ body ++ divider ++
    d.notes.map fun n => pad ++ " = note: " ++ n

def renderText (sources : SourceLines) (d : Diagnostic) : String :=
  "\n".intercalate (d.textLines sources)

def renderJson (d : Diagnostic) : String :=
  d.toJson.encode

/-- A batch of diagnostics. Texts have an empty line between them, objects a line each. -/
def renderAll (sources : SourceLines) (format : OutputFormat) (ds : List Diagnostic) : String :=
  match format with
  | .text => "\n\n".intercalate (ds.map (renderText sources))
  | .json => "\n".intercalate (ds.map renderJson)

end Diagnostic

end LoanCheck
